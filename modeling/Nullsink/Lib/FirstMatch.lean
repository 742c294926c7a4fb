import Mathlib.Data.List.Nodup
import Mathlib.Data.List.Sort

/-! The first match in a list: by a key no two entries share, or sorted by preference. -/

namespace List

section Keys

variable {α : Type*} {κ : Type} [DecidableEq κ] {key : α → κ}

/-- Under distinct keys the first match of a key is the entry that has it. -/
theorem find?_key_eq_some_iff {xs : List α} (distinct : (xs.map key).Nodup) {k : κ} {x : α}
    : xs.find? (fun y => key y = k) = some x ↔ x ∈ xs ∧ key x = k := by
  constructor
  · intro found
    exact ⟨mem_of_find?_eq_some found, by simpa using find?_some found⟩
  · rintro ⟨member, rfl⟩
    cases found : xs.find? (fun y => key y = key x) with
    | none =>
        have missed := find?_eq_none.mp found x member
        simp at missed
    | some first =>
        have same : key first = key x := by simpa using find?_some found
        rw [inj_on_of_nodup_map distinct (mem_of_find?_eq_some found) member same]

/-- The order of entries with distinct keys does not matter. -/
theorem Perm.find?_key {xs ys : List α} (same : xs.Perm ys) (distinct : (xs.map key).Nodup)
    (k : κ)
    : xs.find? (fun y => key y = k) = ys.find? (fun y => key y = k) := by
  ext x
  rw [find?_key_eq_some_iff distinct,
    find?_key_eq_some_iff ((same.map key).nodup_iff.mp distinct), same.mem_iff]

end Keys

section Preference

variable {α : Type} {prefers : α → α → Prop} [DecidableRel prefers] [Std.Total prefers]
  [IsTrans α prefers] {matched : α → Bool} {xs : List α}

/-- A match that no other match is preferred to is found first. -/
theorem find?_insertionSort {best : α} (member : best ∈ xs) (hit : matched best = true)
    (least : ∀ other ∈ xs, matched other = true → prefers other best → other = best)
    : (xs.insertionSort prefers).find? matched = some best := by
  have listed : best ∈ xs.insertionSort prefers := (mem_insertionSort prefers).mpr member
  cases found : (xs.insertionSort prefers).find? matched with
  | none => exact absurd hit (by simpa using List.find?_eq_none.mp found best listed)
  | some first =>
      obtain ⟨firstHit, before, after, whole, missed⟩ := List.find?_eq_some_iff_append.mp found
      have sorted := pairwise_insertionSort prefers xs
      rw [whole] at listed sorted
      have stored : first ∈ xs := (mem_insertionSort prefers).mp (by simp [whole])
      rcases mem_append.mp listed with earlier | here
      · have miss := missed best earlier
        simp [hit] at miss
      · rcases mem_cons.mp here with same | later
        · rw [same]
        · have preferred := (pairwise_cons.mp (pairwise_append.mp sorted).2.1).1 best later
          rw [least first stored firstHit preferred]

end Preference

end List
