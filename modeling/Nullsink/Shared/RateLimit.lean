import Mathlib.Algebra.Order.Field.Basic
import Mathlib.Algebra.Order.Field.Rat
import Mathlib.Tactic.Linarith
import Mathlib.Tactic.Ring
import Nullsink.Lib.Transition

/-! The token bucket of `ratelimit.ts`, and what it admits under a clock that may stand still, jump
back and jump ahead.
-/

namespace Nullsink.Shared

open Transition

-----------------------------------------------------------------------------------------
-- The bucket
-----------------------------------------------------------------------------------------

structure BucketOptions where
  capacity : ℚ
  refillPerSec : ℚ

/-- The closure of a bucket. -/
structure TokenBucket where
  tokens : ℚ
  last : ℚ

/-- A bucket is made full. -/
def makeTokenBucket (opts : BucketOptions) (now : ℚ) : TokenBucket := ⟨opts.capacity, now⟩

/-- `tryConsume()` at a reading of the clock, under any rounding of its intermediate values. -/
def tryConsume (round : ℚ → ℚ) (opts : BucketOptions) (bucket : TokenBucket) (t : ℚ)
    : Bool × TokenBucket :=
  let elapsed := round (round (t - bucket.last) / 1000)
  let refilled : TokenBucket :=
    if 0 < elapsed then
      {
        tokens := min opts.capacity (round (bucket.tokens + round (elapsed * opts.refillPerSec)))
        last := t
      }
    else bucket
  if 1 ≤ refilled.tokens then (true, { refilled with tokens := round (refilled.tokens - 1) })
  else (false, refilled)

/-- A call: what the clock read, and whether it was admitted. -/
structure Consume where
  t : ℚ
  admitted : Bool

/-- Consecutive calls at readings of the clock. -/
def consumeAll (round : ℚ → ℚ) (opts : BucketOptions)
    : TokenBucket → List ℚ → List Consume × TokenBucket
  | bucket, [] => ([], bucket)
  | bucket, t :: later =>
      let (admitted, next) := tryConsume round opts bucket t
      let (calls, final) := consumeAll round opts next later
      (⟨t, admitted⟩ :: calls, final)

/-- A bucket from its making, in exact arithmetic, under any clock. -/
def consuming (opts : BucketOptions) : System TokenBucket Consume where
  initial bucket := ∃ now, bucket = makeTokenBucket opts now
  step bucket call next := tryConsume id opts bucket call.t = (call.admitted, next)

/-- The calls of a bucket are a run of it; by induction on the readings. -/
theorem run_consumeAll (opts : BucketOptions) (bucket : TokenBucket) (readings : List ℚ)
    : (consuming opts).Run bucket (consumeAll id opts bucket readings).1
        (consumeAll id opts bucket readings).2 := by
  induction readings generalizing bucket with
  | nil => exact .nil
  | cons t later ih =>
      have first
          : (consuming opts).Run bucket ([] ++ [⟨t, (tryConsume id opts bucket t).1⟩])
              (tryConsume id opts bucket t).2 :=
        .snoc .nil rfl
      exact first.append (ih _)

theorem consumeAll_t (round : ℚ → ℚ) (opts : BucketOptions) (bucket : TokenBucket)
    (readings : List ℚ)
    : (consumeAll round opts bucket readings).1.map Consume.t = readings := by
  induction readings generalizing bucket with
  | nil => rfl
  | cons t later ih => exact congrArg (t :: ·) (ih _)

/-- The running maximum of a clock, from a first reading. -/
def runningMax (first : ℚ) (readings : List ℚ) : ℚ := readings.foldl max first

theorem runningMax_append (first : ℚ) (earlier later : List ℚ)
    : runningMax first (earlier ++ later) = runningMax (runningMax first earlier) later :=
  List.foldl_append

theorem runningMax_max (first other : ℚ) (readings : List ℚ)
    : runningMax (max first other) readings = max first (runningMax other readings) :=
  List.foldl_assoc

/-- A clock that starts later has less to advance. -/
theorem advance_le (first other : ℚ) (readings : List ℚ)
    : runningMax (max first other) readings - max first other
      ≤ runningMax other readings - other := by
  have ahead : other ≤ runningMax other readings := by
    have same := runningMax_max other other readings
    rw [max_self] at same
    rw [same]
    exact le_max_left _ _
  rw [runningMax_max]
  rcases le_total first other with behind | past
  · rw [max_eq_right behind, max_eq_right (behind.trans ahead)]
  · rw [max_eq_left past]
    rcases le_total first (runningMax other readings) with reached | beyond
    · rw [max_eq_right reached]
      exact sub_le_sub_left past _
    · rw [max_eq_left beyond, sub_self]
      exact sub_nonneg.mpr ahead

-----------------------------------------------------------------------------------------
-- One call
-----------------------------------------------------------------------------------------

/-- What a bucket holds at a reading, before it is asked for a token. -/
def TokenBucket.refilled (opts : BucketOptions) (bucket : TokenBucket) (t : ℚ) : ℚ :=
  if bucket.last < t then
    min opts.capacity (bucket.tokens + (t - bucket.last) / 1000 * opts.refillPerSec)
  else bucket.tokens

/-- Everything a call does: it moves to a later reading, and takes a token if there is one. -/
structure Consumed (opts : BucketOptions) (bucket : TokenBucket) (call : Consume)
    (next : TokenBucket)
    : Prop where
  last : next.last = max bucket.last call.t
  tokens : next.tokens + (if call.admitted then 1 else 0) = bucket.refilled opts call.t
  admitted : call.admitted = true ↔ 1 ≤ bucket.refilled opts call.t

variable {opts : BucketOptions} {bucket next : TokenBucket} {call : Consume}

theorem tryConsume_exact (opts : BucketOptions) (bucket : TokenBucket) (t : ℚ)
    : tryConsume id opts bucket t
      = if 1 ≤ bucket.refilled opts t then
          (true, ⟨bucket.refilled opts t - 1, max bucket.last t⟩)
        else (false, ⟨bucket.refilled opts t, max bucket.last t⟩) := by
  have elapsed : 0 < (t - bucket.last) / 1000 ↔ bucket.last < t := by
    rw [div_pos_iff_of_pos_right (by norm_num), sub_pos]
  simp only [tryConsume, id, elapsed, TokenBucket.refilled]
  by_cases later : bucket.last < t
  · simp only [later, if_true, max_eq_right later.le]
  · simp only [later, if_false, max_eq_left (not_lt.mp later)]

theorem consumed_of_step (step : (consuming opts).step bucket call next)
    : Consumed opts bucket call next := by
  obtain ⟨t, admitted⟩ := call
  have taken := (tryConsume_exact opts bucket t).symm.trans step
  split at taken
  · rename_i enough
    cases taken
    exact ⟨rfl, by simp, by simpa using enough⟩
  · rename_i short
    cases taken
    exact ⟨rfl, by simp, by simpa using short⟩

-----------------------------------------------------------------------------------------
-- The invariant and the potential
-----------------------------------------------------------------------------------------

/-- A bucket holds no less than nothing and no more than its capacity. -/
structure WithinCapacity (opts : BucketOptions) (bucket : TokenBucket) : Prop where
  nonneg : 0 ≤ bucket.tokens
  le : bucket.tokens ≤ opts.capacity

theorem WithinCapacity.refilled_le (within : WithinCapacity opts bucket) (t : ℚ)
    : bucket.refilled opts t ≤ opts.capacity := by
  unfold TokenBucket.refilled
  split
  · exact min_le_left _ _
  · exact within.le

theorem WithinCapacity.refilled_nonneg (within : WithinCapacity opts bucket)
    (capacity : 0 ≤ opts.capacity) (refill : 0 ≤ opts.refillPerSec) (t : ℚ)
    : 0 ≤ bucket.refilled opts t := by
  unfold TokenBucket.refilled
  split
  · rename_i later
    have earned : 0 ≤ (t - bucket.last) / 1000 * opts.refillPerSec :=
      mul_nonneg (div_nonneg (sub_nonneg.mpr later.le) (by norm_num)) refill
    exact le_min capacity (add_nonneg within.nonneg earned)
  · exact within.nonneg

/-- A call leaves the bucket within its capacity. -/
theorem WithinCapacity.step (within : WithinCapacity opts bucket)
    (capacity : 0 ≤ opts.capacity) (refill : 0 ≤ opts.refillPerSec)
    (consumed : Consumed opts bucket call next)
    : WithinCapacity opts next := by
  have tokens := consumed.tokens
  have admitted := consumed.admitted
  have above := within.refilled_nonneg capacity refill call.t
  have below := within.refilled_le call.t
  cases granted : call.admitted with
  | true =>
      simp only [granted, if_true, true_iff] at tokens admitted
      exact ⟨by linarith, by linarith⟩
  | false =>
      simp only [granted, Bool.false_eq_true, if_false] at tokens
      exact ⟨by linarith, by linarith⟩

/-- No interval is earned twice: a refill is paid for by the advance of `last`. -/
theorem refilled_le_add (opts : BucketOptions) (bucket : TokenBucket) (t : ℚ)
    : bucket.refilled opts t
      ≤ bucket.tokens + opts.refillPerSec * (max bucket.last t - bucket.last) / 1000 := by
  unfold TokenBucket.refilled
  split
  · rename_i later
    rw [max_eq_right later.le]
    refine (min_le_right _ _).trans (le_of_eq ?_)
    ring
  · rename_i earlier
    rw [max_eq_left (not_lt.mp earlier)]
    simp

/-- What is in the bucket, less what it has ever earned. -/
def TokenBucket.potential (opts : BucketOptions) (bucket : TokenBucket) : ℚ :=
  bucket.tokens - opts.refillPerSec * bucket.last / 1000

/-- A call that is admitted takes one from the potential, and none adds to it. -/
theorem Consumed.potential_le (consumed : Consumed opts bucket call next)
    : next.potential opts + (if call.admitted then 1 else 0) ≤ bucket.potential opts := by
  have tokens := consumed.tokens
  have earned := refilled_le_add opts bucket call.t
  unfold TokenBucket.potential
  rw [consumed.last]
  linarith

section Runs

variable {calls : List Consume} {final : TokenBucket}

/-- After its calls a bucket has moved to the largest reading. -/
theorem last_eq_runningMax (run : (consuming opts).Run bucket calls final)
    : final.last = runningMax bucket.last (calls.map Consume.t) := by
  refine run.rule
    (fun calls final => final.last = runningMax bucket.last (calls.map Consume.t)) rfl ?_
  intro earlier state call next _ reached step
  rw [(consumed_of_step step).last, reached, List.map_append, runningMax_append]
  rfl

theorem within_of_run (capacity : 0 ≤ opts.capacity) (refill : 0 ≤ opts.refillPerSec)
    (within : WithinCapacity opts bucket) (run : (consuming opts).Run bucket calls final)
    : WithinCapacity opts final := by
  refine run.rule (fun _ final => WithinCapacity opts final) within ?_
  intro _ _ _ _ _ before step
  exact before.step capacity refill (consumed_of_step step)

/-- A run admits no more than the bucket held, and what it earned since. -/
theorem countP_admitted_le (run : (consuming opts).Run bucket calls final)
    : final.tokens + calls.countP Consume.admitted
      ≤ bucket.tokens + opts.refillPerSec * (final.last - bucket.last) / 1000 := by
  have spent := run.countP_le (TokenBucket.potential opts) Consume.admitted
    fun step => (consumed_of_step step).potential_le
  unfold TokenBucket.potential at spent
  linarith

/-- After a first call at a reading the bucket holds at most its capacity, so that only what it
earned after that reading comes on top.
-/
theorem countP_admitted_le_from (refilled : WithinCapacity opts bucket)
    (consumed : Consumed opts bucket call next) (run : (consuming opts).Run next calls final)
    : final.tokens + (call :: calls).countP Consume.admitted
      ≤ opts.capacity + opts.refillPerSec * (final.last - next.last) / 1000 := by
  have rest := countP_admitted_le run
  have tokens := consumed.tokens
  have below := refilled.refilled_le call.t
  rw [List.countP_cons]
  push_cast
  linarith

end Runs

-----------------------------------------------------------------------------------------
-- The bound
-----------------------------------------------------------------------------------------

/-- A bucket is made within its capacity, and stays there. -/
theorem within_consumeAll (capacity : 0 ≤ opts.capacity) (refill : 0 ≤ opts.refillPerSec)
    (now : ℚ) (readings : List ℚ)
    : WithinCapacity opts (consumeAll id opts (makeTokenBucket opts now) readings).2 :=
  within_of_run capacity refill ⟨capacity, le_rfl⟩ (run_consumeAll opts _ readings)

/-- A bucket is at the largest reading since its making. -/
theorem last_consumeAll (opts : BucketOptions) (now : ℚ) (readings : List ℚ)
    : (consumeAll id opts (makeTokenBucket opts now) readings).2.last
      = runningMax now readings := by
  rw [last_eq_runningMax (run_consumeAll opts _ readings), consumeAll_t]
  rfl

/-- What a window admits, from its first call on. -/
theorem admitted_le_from_first (before : WithinCapacity opts bucket) (first : ℚ)
    (later : List ℚ)
    : let (calls, final) := consumeAll id opts bucket (first :: later)
      final.tokens + calls.countP Consume.admitted
        ≤ opts.capacity
          + opts.refillPerSec
            * (runningMax (max bucket.last first) later - max bucket.last first) / 1000 := by
  let next := (tryConsume id opts bucket first).2
  have step
      : (consuming opts).step bucket ⟨first, (tryConsume id opts bucket first).1⟩ next :=
    rfl
  have run := run_consumeAll opts next later
  have begun : next.last = max bucket.last first := (consumed_of_step step).last
  have ended := last_eq_runningMax run
  rw [consumeAll_t, begun] at ended
  have spent := countP_admitted_le_from before (consumed_of_step step) run
  rw [ended, begun] at spent
  exact spent

/-- A token bucket under any clock. After any calls it holds no less than nothing and no more than
its capacity. A window of calls admits at most the capacity and what the running maximum of the
clock has earned over it, from the first call of the window on; so also from before it, and with
the running maximum of the window alone.
-/
theorem token_bucket_bound (opts : BucketOptions) (capacity : 0 ≤ opts.capacity)
    (refill : 0 ≤ opts.refillPerSec) (now : ℚ) (earlier window : List ℚ)
    : let middle := (consumeAll id opts (makeTokenBucket opts now) earlier).2
      let (calls, final) := consumeAll id opts middle window
      let admitted : ℚ := calls.countP Consume.admitted
      (0 ≤ final.tokens ∧ final.tokens ≤ opts.capacity)
      ∧ admitted
        ≤ opts.capacity
          + opts.refillPerSec
            * (runningMax now (earlier ++ window) - runningMax now earlier) / 1000
      ∧ ∀ first later, window = first :: later
          → admitted
              ≤ opts.capacity
                + opts.refillPerSec
                  * (runningMax now (earlier ++ window) - runningMax now (earlier ++ [first]))
                  / 1000
            ∧ admitted
              ≤ opts.capacity + opts.refillPerSec * (runningMax first later - first) / 1000 := by
  intro middle
  have before : WithinCapacity opts middle := within_consumeAll capacity refill now earlier
  have reached : middle.last = runningMax now earlier := last_consumeAll opts now earlier
  have run := run_consumeAll opts middle window
  have after := within_of_run capacity refill before run
  have moved := last_eq_runningMax run
  rw [consumeAll_t, reached, ← runningMax_append] at moved
  refine ⟨⟨after.nonneg, after.le⟩, ?_, ?_⟩
  · have spent := countP_admitted_le run
    rw [moved, reached] at spent
    exact (le_add_of_nonneg_left after.nonneg).trans
      (spent.trans (add_le_add_left before.le _))
  · rintro first later rfl
    have spent := admitted_le_from_first before first later
    rw [reached] at spent
    have kept := (le_add_of_nonneg_left after.nonneg).trans spent
    have advanced := advance_le (runningMax now earlier) first later
    refine ⟨?_, kept.trans ?_⟩
    · rw [runningMax_append, runningMax_append]
      exact kept
    · gcongr

/-- A clock that is set back twice, and the six calls after the first. -/
theorem token_bucket_bound_backwards
    : let opts : BucketOptions := ⟨2, 1⟩
      let middle := (consumeAll id opts (makeTokenBucket opts 0) [1000]).2
      let window : List ℚ := [1000, 0, 1000, 3000, 500, 3000]
      (consumeAll id opts middle window).1.map Consume.admitted
        = [true, false, false, true, true, false]
      ∧ ((consumeAll id opts middle window).1.countP Consume.admitted : ℚ)
        ≤ 2 + 1 * (runningMax 1000 [0, 1000, 3000, 500, 3000] - 1000) / 1000 :=
  ⟨by decide +kernel,
    ((token_bucket_bound ⟨2, 1⟩ (by norm_num) (by norm_num) 0 [1000]
      [1000, 0, 1000, 3000, 500, 3000]).2.2 1000 [0, 1000, 3000, 500, 3000] rfl).2⟩

end Nullsink.Shared
