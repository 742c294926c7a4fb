import Mathlib.Data.List.Basic

/-! Attempts that are made one at a time. A latch names the attempt that holds it, a new one
starts only while the latch is free, and an attempt that is given up frees it.
-/

namespace Latch

variable {α : Type}

/-- The attempts made so far, and the index of the one that holds the latch. -/
structure Attempts (α : Type) where
  made : List α
  latch : Option ℕ

namespace Attempts

def empty : Attempts α := ⟨[], none⟩

/-- Make a new attempt, which takes the latch. -/
def start (attempts : Attempts α) (attempt : α) : Attempts α :=
  ⟨attempts.made ++ [attempt], some attempts.made.length⟩

/-- An attempt goes on. -/
def advance (attempts : Attempts α) (i : ℕ) (attempt : α) : Attempts α :=
  { attempts with made := attempts.made.set i attempt }

/-- An attempt is given up, and the latch is free again. -/
def giveUp (attempts : Attempts α) (i : ℕ) (attempt : α) : Attempts α :=
  ⟨attempts.made.set i attempt, none⟩

/-- The attempt that holds the latch. -/
def current (attempts : Attempts α) : Option α := attempts.latch.bind (attempts.made[·]?)

@[simp] theorem current_start (attempts : Attempts α) (attempt : α)
    : (attempts.start attempt).current = some attempt := by
  simp [start, current]

@[simp] theorem current_giveUp (attempts : Attempts α) (i : ℕ) (attempt : α)
    : (attempts.giveUp i attempt).current = none :=
  rfl

/-- Where an attempt has started, every other is as it was. -/
theorem made_start {attempts : Attempts α} {i : ℕ} {attempt found : α}
    (member : (attempts.start attempt).made[i]? = some found)
    : found = attempt ∨ attempts.made[i]? = some found := by
  by_cases before : i < attempts.made.length
  · exact Or.inr ((List.getElem?_append_left before).symm.trans member)
  · rw [start, List.getElem?_append_right (by omega)] at member
    exact Or.inl (List.mem_singleton.mp (List.mem_of_getElem? member))

theorem made_start_of_made {attempts : Attempts α} {i : ℕ} {attempt found : α}
    (member : attempts.made[i]? = some found)
    : (attempts.start attempt).made[i]? = some found :=
  (List.getElem?_append_left (List.getElem?_eq_some_iff.mp member).1).trans member

/-- Where one attempt has gone on, every other is as it was. -/
theorem made_advance {attempts : Attempts α} {i j : ℕ} {later found : α}
    (member : (attempts.advance i later).made[j]? = some found)
    : (i = j ∧ found = later) ∨ (i ≠ j ∧ attempts.made[j]? = some found) := by
  by_cases same : i = j
  · subst same
    obtain ⟨within, set⟩ := List.getElem?_eq_some_iff.mp member
    exact Or.inl ⟨rfl, by simpa [advance] using set.symm⟩
  · exact Or.inr ⟨same, by simpa [advance, List.getElem?_set_ne same] using member⟩

/-- What an attempt satisfies survives where the one that goes on keeps it. -/
theorem exists_advance {attempts : Attempts α} {holds : α → Prop} {i j : ℕ} {attempt later : α}
    (seen : ∃ found, attempts.made[i]? = some found ∧ holds found)
    (current : attempts.made[j]? = some attempt) (keeps : holds attempt → holds later)
    : ∃ found, (attempts.advance j later).made[i]? = some found ∧ holds found := by
  obtain ⟨found, member, satisfied⟩ := seen
  by_cases same : j = i
  · subst same
    cases member.symm.trans current
    have within : j < attempts.made.length := (List.getElem?_eq_some_iff.mp current).1
    exact ⟨later, by simp [advance, within], keeps satisfied⟩
  · exact ⟨found, by simpa [advance, List.getElem?_set_ne same] using member, satisfied⟩

/-- Only the attempt that holds the latch is live. -/
structure Single (live : α → Prop) (attempts : Attempts α) : Prop where
  latched
    : ∀ i attempt, attempts.made[i]? = some attempt → live attempt → attempts.latch = some i
  lives
    : ∀ i, attempts.latch = some i → ∃ attempt, attempts.made[i]? = some attempt ∧ live attempt

namespace Single

variable {live : α → Prop} {attempts : Attempts α}

theorem empty : Single live (Attempts.empty : Attempts α) :=
  ⟨fun _ _ found => by simp [Attempts.empty] at found, fun _ held => by cases held⟩

/-- A live attempt is the current one. -/
theorem current_of_live (single : attempts.Single live) {i : ℕ} {attempt : α}
    (found : attempts.made[i]? = some attempt) (alive : live attempt)
    : attempts.current = some attempt := by
  rw [current, single.latched i attempt found alive]
  exact found

/-- Where the latch is free, a live attempt can start. -/
theorem start (single : attempts.Single live) (free : attempts.latch = none) {attempt : α}
    (alive : live attempt)
    : (attempts.start attempt).Single live := by
  constructor
  · intro i other found otherAlive
    rcases Nat.lt_trichotomy i attempts.made.length with before | rfl | after
    · have earlier : attempts.made[i]? = some other :=
        (List.getElem?_append_left before).symm.trans found
      have held := single.latched i other earlier otherAlive
      rw [free] at held
      cases held
    · rfl
    · have none : (attempts.made ++ [attempt])[i]? = .none :=
        List.getElem?_eq_none (by simp only [List.length_append, List.length_singleton]; omega)
      cases none.symm.trans found
  · intro i held
    cases held
    exact ⟨attempt, by simp [Attempts.start], alive⟩

/-- A live attempt that stays live keeps the latch. -/
theorem advance (single : attempts.Single live) {i : ℕ} {attempt later : α}
    (found : attempts.made[i]? = some attempt) (alive : live attempt) (stays : live later)
    : (attempts.advance i later).Single live := by
  have held := single.latched i attempt found alive
  have within : i < attempts.made.length := (List.getElem?_eq_some_iff.mp found).1
  constructor
  · intro j other foundOther otherAlive
    by_cases same : i = j
    · exact same ▸ held
    · rw [Attempts.advance, List.getElem?_set_ne same] at foundOther
      exact single.latched j other foundOther otherAlive
  · intro j heldJ
    have same : i = j := Option.some.inj (held.symm.trans heldJ)
    subst same
    exact ⟨later, by simp [Attempts.advance, within], stays⟩

theorem current_advance (single : attempts.Single live) {i : ℕ} {attempt : α} (later : α)
    (found : attempts.made[i]? = some attempt) (alive : live attempt)
    : (attempts.advance i later).current = some later := by
  have within : i < attempts.made.length := (List.getElem?_eq_some_iff.mp found).1
  simp [current, Attempts.advance, single.latched i attempt found alive, within]

/-- A live attempt that is given up leaves none live. -/
theorem giveUp (single : attempts.Single live) {i : ℕ} {attempt later : α}
    (found : attempts.made[i]? = some attempt) (alive : live attempt) (dead : ¬live later)
    : (attempts.giveUp i later).Single live := by
  have held := single.latched i attempt found alive
  constructor
  · intro j other foundOther otherAlive
    by_cases same : i = j
    · subst same
      have within : i < attempts.made.length := (List.getElem?_eq_some_iff.mp found).1
      simp only [Attempts.giveUp, List.getElem?_set_self within, Option.some.injEq] at foundOther
      exact absurd (foundOther ▸ otherAlive) dead
    · rw [Attempts.giveUp, List.getElem?_set_ne same] at foundOther
      have heldOther := single.latched j other foundOther otherAlive
      exact absurd (Option.some.inj (held.symm.trans heldOther)) same
  · intro j heldJ
    cases heldJ

/-- Attempts that are live are at the same place. -/
theorem unique (single : attempts.Single live) {i j : ℕ} {first second : α}
    (foundFirst : attempts.made[i]? = some first) (foundSecond : attempts.made[j]? = some second)
    (aliveFirst : live first) (aliveSecond : live second)
    : i = j :=
  Option.some.inj
    ((single.latched i first foundFirst aliveFirst).symm.trans
      (single.latched j second foundSecond aliveSecond))

end Single

end Attempts

end Latch
