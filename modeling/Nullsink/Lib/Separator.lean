import Mathlib

/-! Texts of two parts around a separator, and the decimal text of an integer as the second part. -/

namespace List

variable {α : Type*}

/-- The last separator splits a list in one way. -/
theorem append_cons_inj_of_back {separator : α} {front front' back back' : List α}
    (same : front ++ separator :: back = front' ++ separator :: back')
    (clean : separator ∉ back) (clean' : separator ∉ back')
    : front = front' ∧ back = back' := by
  have ahead {front front' back back' : List α}
      (split : ∃ middle, front' = front ++ middle
          ∧ separator :: back = middle ++ separator :: back')
      (clean : separator ∉ back)
      : front = front' ∧ back = back' := by
    obtain ⟨middle, rfl, rest⟩ := split
    cases middle with
    | nil => simpa using rest
    | cons head tail =>
        obtain ⟨_, rfl⟩ := cons.inj rest
        simp at clean
  rcases append_eq_append_iff.mp same with first | second
  · exact ahead first clean
  · obtain ⟨fronts, backs⟩ := ahead second clean'
    exact ⟨fronts.symm, backs.symm⟩

end List

/-- The decimal text of an integer has digits and a sign only. -/
theorem Int.notMem_repr {c : Char} (digit : c.isDigit = false) (sign : c ≠ '-') (n : ℤ)
    : c ∉ n.repr.toList := by
  have digits (m : ℕ) : c ∉ m.repr.toList := by
    intro member
    rw [Nat.toList_repr] at member
    have read := Nat.isDigit_of_mem_toDigits (by decide) (by decide) member
    rw [digit] at read
    cases read
  cases n with
  | ofNat m => exact digits m
  | negSucc m =>
      have text : (Int.negSucc m).repr.toList = '-' :: m.succ.repr.toList := by
        simp [Int.repr]
      rw [text, List.mem_cons, not_or]
      exact ⟨sign, digits m.succ⟩

/-- A text with an integer after its last separator determines both. -/
theorem String.separated_repr_inj {front front' : String} {m n : ℤ} {separator : Char}
    (digit : separator.isDigit = false) (sign : separator ≠ '-')
    (same : front ++ String.singleton separator ++ m.repr
      = front' ++ String.singleton separator ++ n.repr)
    : front = front' ∧ m = n := by
  have lists : front.toList ++ separator :: m.repr.toList
      = front'.toList ++ separator :: n.repr.toList := by
    simpa using congrArg String.toList same
  obtain ⟨fronts, backs⟩ := List.append_cons_inj_of_back lists
    (Int.notMem_repr digit sign m) (Int.notMem_repr digit sign n)
  exact ⟨String.toList_inj.mp fronts, Int.repr_injective (String.toList_inj.mp backs)⟩
