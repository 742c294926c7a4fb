import Mathlib.Algebra.Order.Floor.Semiring
import Mathlib.Data.List.Induction
import Mathlib.Data.Rat.Floor

/-! The outcome of a poll of one rail, of `ledger/poll.ts`: the streak of its failures, and when it
is said to be blind or to have recovered.
-/

namespace Nullsink.Payments

inductive PollEvent where
  | blind
  | transient
  | recovered
  deriving DecidableEq

structure PollOutcome where
  fails : ℕ
  event : Option PollEvent
  deriving DecidableEq

def classifyPollOutcome (prevFails : ℕ) (succeeded : Bool) (alertThreshold : ℚ) : PollOutcome :=
  if ¬succeeded then
    let fails := prevFails + 1
    if fails ≥ alertThreshold then ⟨fails, some .blind⟩ else ⟨fails, some .transient⟩
  else if prevFails ≥ alertThreshold then ⟨0, some .recovered⟩
  else ⟨0, none⟩

theorem classifyPollOutcome_failed (prevFails : ℕ) (alertThreshold : ℚ)
    : classifyPollOutcome prevFails false alertThreshold
      = if alertThreshold ≤ (prevFails + 1 : ℕ) then ⟨prevFails + 1, some .blind⟩
        else ⟨prevFails + 1, some .transient⟩ := rfl

theorem classifyPollOutcome_succeeded (prevFails : ℕ) (alertThreshold : ℚ)
    : classifyPollOutcome prevFails true alertThreshold
      = if alertThreshold ≤ prevFails then ⟨0, some .recovered⟩ else ⟨0, none⟩ := rfl

-----------------------------------------------------------------------------------------
-- Streaks
-----------------------------------------------------------------------------------------

/-- The failures at the end of a history of polls, oldest first. -/
def failStreak (polls : List Bool) : ℕ :=
  (polls.reverse.takeWhile (fun succeeded => !succeeded)).length

@[simp] theorem failStreak_nil : failStreak [] = 0 := rfl

@[simp] theorem failStreak_snoc (polls : List Bool) (succeeded : Bool)
    : failStreak (polls ++ [succeeded]) = if succeeded then 0 else failStreak polls + 1 := by
  cases succeeded <;> simp [failStreak]

/-- The poller's count after a poll is the streak of the history with it. -/
theorem classifyPollOutcome_fails (polls : List Bool) (succeeded : Bool) (alertThreshold : ℚ)
    : (classifyPollOutcome (failStreak polls) succeeded alertThreshold).fails
      = failStreak (polls ++ [succeeded]) := by
  rw [failStreak_snoc]
  cases succeeded with
  | true =>
      rw [classifyPollOutcome_succeeded]
      split <;> rfl
  | false =>
      rw [classifyPollOutcome_failed]
      split <;> rfl

/-- The streak is at least `n` exactly where the last `n` polls were there and failed; by induction
on the last poll.
-/
theorem le_failStreak_iff (n : ℕ) (polls : List Bool)
    : n ≤ failStreak polls ↔ List.replicate n false <:+ polls := by
  induction polls using List.reverseRecOn generalizing n with
  | nil => simp
  | append_singleton earlier succeeded ih =>
      rw [failStreak_snoc]
      cases n with
      | zero => simp
      | succ n =>
          rw [List.replicate_succ']
          cases succeeded with
          | true => simp [List.suffix_concat_iff]
          | false => simp [List.suffix_concat_iff, ih]

end Nullsink.Payments
