import Nullsink.Lib.ExactArithmetic
import Nullsink.Lib.Log
import Nullsink.Lib.RoundingOrder
import Nullsink.Lib.Separator
import Nullsink.Proxy.Reconciliation
import Nullsink.Service.MetricsJournal

/-! What the journal lines of a process tell together. Each counter is told as often as it was
recorded, except the clean bills of windows that forwarded nothing.
-/

namespace Nullsink.Monitoring

open Ecma Proxy Windows Transition

-----------------------------------------------------------------------------------------
-- Events
-----------------------------------------------------------------------------------------

/-- The counter that the handler increments. -/
def counterTally : Counter → Tally
  | .gate kind => .gate kind
  | .requests => .requests
  | .served => .served
  | .servedPartial => .servedPartial
  | .streamAborted => .streamAborted
  | .bill kind => .bill kind
  | .upstream kind => .upstream kind
  | .failure kind _ => .failure kind

/-- The counter an event adds to, and what it adds. -/
def MetricEvent.adds? : MetricEvent → Option (Tally × ℕ)
  | .handled counter => some (counterTally counter, 1)
  | .reject kind => some (.reject kind, 1)
  | .balance kind => some (.balance kind, 1)
  | .credit kind count => some (.credit kind, count)
  | .recoveredHolds n => some (.recoveredHolds, n)
  | _ => none

/-- What an event adds to a counter. -/
def Tally.recorded (counted : Tally) (event : MetricEvent) : ℕ :=
  match event.adds? with
  | some (added, n) => if counted = added then n else 0
  | none => 0

/-- The level an event observes. -/
def Peak.observed : Peak → MetricEvent → ℤ
  | .streams, .observeStreams n => n
  | .openOrders, .observeOpenOrders n => n
  | .outbox, .observeCreditOutbox unackedCredits _ => unackedCredits
  | .outboxAge, .observeCreditOutbox _ oldestAgeMs => max 0 oldestAgeMs
  | _, _ => 0

/-- The level as the line has it: an age in whole seconds. -/
def Peak.printed : Peak → ℤ → ℤ
  | .outboxAge, ageMs => ageSeconds ageMs
  | _, n => n

/-- What an event charges under a failure, in whole micros. -/
def charged (kind : FailureKind) : MetricEvent → ℤ
  | .handled (.failure failed (.finite micros)) => if failed = kind then max 0 ⌊micros⌋ else 0
  | _ => 0

/-- The failures of one kind are charged whole micros, and together a safe integer. -/
structure WholeCharges (kind : FailureKind) (events : List MetricEvent) : Prop where
  whole
    : ∀ micros, .handled (.failure kind micros) ∈ events → ∃ n : ℤ, micros = .ofInt n
  safe : (events.map (charged kind)).sum ≤ Number.maxSafeInteger

-----------------------------------------------------------------------------------------
-- Windows
-----------------------------------------------------------------------------------------

/-- A window holds exactly what its events have recorded. -/
structure Kept (m : MetricsSnapshot) (events : List MetricEvent) : Prop where
  tallies : ∀ counted, m.tally counted = (events.map (Tally.recorded counted)).sum
  nonneg : ∀ mark, 0 ≤ m.peak mark
  above : ∀ mark, ∀ event ∈ events, Peak.observed mark event ≤ m.peak mark
  attained
    : ∀ mark, m.peak mark = 0 ∨ ∃ event ∈ events, Peak.observed mark event = m.peak mark
  micros
    : ∀ kind, FailureKind.countOnly kind = false → WholeCharges kind events
        → (m.failure kind).micros = .ofInt (events.map (charged kind)).sum

/-- A recorder adds to its own counter only. -/
theorem record_tally (m : MetricsSnapshot) (event : MetricEvent) (counted : Tally)
    : (m.record event).tally counted = m.tally counted + counted.recorded event := by
  cases event with
  | handled counter =>
      cases counter <;> cases counted <;>
        simp [MetricsSnapshot.record, MetricsSnapshot.tally, Tally.recorded, MetricEvent.adds?,
          counterTally, Metrics.record, Metrics.recordGate, Metrics.recordRequest,
          Metrics.recordServed, Metrics.recordServedPartial, Metrics.recordStreamAborted,
          Metrics.recordBill, Metrics.recordUpstream, Metrics.recordFailure,
          Function.update_apply] <;>
        split <;> simp_all
  | reject kind =>
      cases counted <;>
        simp [MetricsSnapshot.record, MetricsSnapshot.recordReject, MetricsSnapshot.tally,
          Tally.recorded, MetricEvent.adds?, Function.update_apply]
      split <;> simp_all
  | balance kind =>
      cases counted <;>
        simp [MetricsSnapshot.record, MetricsSnapshot.recordBalance, MetricsSnapshot.tally,
          Tally.recorded, MetricEvent.adds?, Function.update_apply]
      split <;> simp_all
  | credit kind count =>
      cases counted <;>
        simp [MetricsSnapshot.record, MetricsSnapshot.recordCredit, MetricsSnapshot.tally,
          Tally.recorded, MetricEvent.adds?, Function.update_apply]
      split <;> simp_all
  | observeStreams n =>
      simp only [MetricsSnapshot.record, MetricsSnapshot.observeStreams]
      split <;> cases counted <;> rfl
  | observeOpenOrders n =>
      simp only [MetricsSnapshot.record, MetricsSnapshot.observeOpenOrders]
      split <;> cases counted <;> rfl
  | observeCreditOutbox unackedCredits oldestAgeMs => cases counted <;> rfl
  | recoveredHolds n => cases counted <;> rfl

/-- An observer raises its own peak to what it observes. -/
theorem record_peak (m : MetricsSnapshot) (event : MetricEvent) (mark : Peak)
    (nonneg : 0 ≤ m.peak mark)
    : (m.record event).peak mark = max (m.peak mark) (mark.observed event) := by
  have quiet {m' : MetricsSnapshot} (same : m'.peak mark = m.peak mark)
      (unobserved : mark.observed event = 0)
      : m'.peak mark = max (m.peak mark) (mark.observed event) := by
    rw [same, unobserved, max_eq_left nonneg]
  cases event with
  | handled counter => exact quiet (by cases mark <;> rfl) (by cases mark <;> rfl)
  | reject kind => exact quiet (by cases mark <;> rfl) (by cases mark <;> rfl)
  | balance kind => exact quiet (by cases mark <;> rfl) (by cases mark <;> rfl)
  | credit kind count => exact quiet (by cases mark <;> rfl) (by cases mark <;> rfl)
  | recoveredHolds n => exact quiet (by cases mark <;> rfl) (by cases mark <;> rfl)
  | observeStreams n =>
      simp only [MetricsSnapshot.record, MetricsSnapshot.observeStreams]
      cases mark <;> split <;> simp only [MetricsSnapshot.peak, Peak.observed] at nonneg ⊢ <;> omega
  | observeOpenOrders n =>
      simp only [MetricsSnapshot.record, MetricsSnapshot.observeOpenOrders]
      cases mark <;> split <;> simp only [MetricsSnapshot.peak, Peak.observed] at nonneg ⊢ <;> omega
  | observeCreditOutbox unackedCredits oldestAgeMs =>
      cases mark <;>
        simp [MetricsSnapshot.record, MetricsSnapshot.observeCreditOutbox, MetricsSnapshot.peak,
          Peak.observed] at nonneg ⊢ <;>
        try split <;> omega

/-- What a failure charges is added to what its kind has been charged. -/
theorem record_micros (m : MetricsSnapshot) (event : MetricEvent) {kind : FailureKind}
    (charges : kind.countOnly = false) {before : ℤ}
    (held : (m.failure kind).micros = .ofInt before) (nonneg : 0 ≤ before)
    (whole : ∀ micros, event = .handled (.failure kind micros) → ∃ n : ℤ, micros = .ofInt n)
    (safe : before + charged kind event ≤ Number.maxSafeInteger)
    : ((m.record event).failure kind).micros = .ofInt (before + charged kind event) := by
  have quiet (same : (m.record event).failure kind = m.failure kind)
      (uncharged : charged kind event = 0)
      : ((m.record event).failure kind).micros = .ofInt (before + charged kind event) := by
    rw [same, held, uncharged, add_zero]
  cases event with
  | handled counter =>
      cases counter with
      | failure failed micros =>
          by_cases own : failed = kind
          · subst own
            obtain ⟨n, rfl⟩ := whole micros rfl
            have charge : charged failed (.handled (.failure failed (.ofInt n))) = max 0 n := by
              simp [charged, Number.ofInt]
            have raised : Number.max (.ofInt 0) (.ofInt n) = .ofInt (max 0 n) := by
              simp only [Number.ofInt, Number.max_finite]
              push_cast
              rfl
            rw [charge] at safe ⊢
            have added : Number.add .binary64 (.ofInt before) (.ofInt (max 0 n)) = _ :=
              Number.add_ofInt
                (by rwa [abs_of_nonneg (add_nonneg nonneg (le_max_left 0 n))])
            simp [MetricsSnapshot.record, Metrics.record, Metrics.recordFailure, charges, held,
              raised, added]
          · refine quiet ?_ ?_
            · exact Function.update_of_ne (Ne.symm own) _ _
            · cases micros <;> simp [charged, own]
      | _ => exact quiet rfl rfl
  | observeStreams n =>
      refine quiet ?_ rfl
      simp only [MetricsSnapshot.record, MetricsSnapshot.observeStreams]
      split <;> rfl
  | observeOpenOrders n =>
      refine quiet ?_ rfl
      simp only [MetricsSnapshot.record, MetricsSnapshot.observeOpenOrders]
      split <;> rfl
  | _ => exact quiet rfl rfl

theorem charged_nonneg (kind : FailureKind) (event : MetricEvent) : 0 ≤ charged kind event := by
  unfold charged
  split
  · split
    · exact le_max_left _ _
    · exact le_rfl
  · exact le_rfl

/-- A fresh window holds nothing. -/
theorem Kept.reset (nowMs : ℤ) : Kept (.reset nowMs) [] where
  tallies := by intro counted; cases counted <;> rfl
  nonneg := by intro mark; cases mark <;> exact le_rfl
  above := by intro mark event member; cases member
  attained := by intro mark; left; cases mark <;> rfl
  micros := by intro kind _ _; rfl

/-- A window goes on holding what its events record. -/
theorem Kept.record {m : MetricsSnapshot} {events : List MetricEvent} (kept : Kept m events)
    (event : MetricEvent)
    : Kept (m.record event) (events ++ [event]) where
  tallies := by
    intro counted
    rw [record_tally, kept.tallies, List.map_append, List.sum_append, List.map_singleton,
      List.sum_singleton]
  nonneg := by
    intro mark
    rw [record_peak m event mark (kept.nonneg mark)]
    exact le_max_of_le_left (kept.nonneg mark)
  above := by
    intro mark other member
    rw [record_peak m event mark (kept.nonneg mark)]
    rcases List.mem_append.mp member with before | last
    · exact le_max_of_le_left (kept.above mark other before)
    · rw [List.mem_singleton.mp last]
      exact le_max_right _ _
  attained := by
    intro mark
    rw [record_peak m event mark (kept.nonneg mark)]
    rcases le_total (mark.observed event) (m.peak mark) with lower | higher
    · rw [max_eq_left lower]
      rcases kept.attained mark with zero | ⟨other, member, same⟩
      · exact Or.inl zero
      · exact Or.inr ⟨other, List.mem_append_left _ member, same⟩
    · rw [max_eq_right higher]
      exact Or.inr ⟨event, List.mem_append_right _ (List.mem_singleton_self _), rfl⟩
  micros := by
    intro kind charges whole
    have total : ((events ++ [event]).map (charged kind)).sum
        = (events.map (charged kind)).sum + charged kind event := by
      rw [List.map_append, List.sum_append, List.map_singleton, List.sum_singleton]
    have safe := whole.safe
    rw [total] at safe ⊢
    have before : WholeCharges kind events := {
      whole := fun micros member => whole.whole micros (List.mem_append_left _ member)
      safe := by
        have := charged_nonneg kind event
        omega
    }
    refine record_micros m event charges (kept.micros kind charges before) ?_ ?_ safe
    · refine List.sum_nonneg fun charge member => ?_
      obtain ⟨other, _, rfl⟩ := List.mem_map.mp member
      exact charged_nonneg kind other
    · rintro micros rfl
      exact whole.whole micros (List.mem_append_right _ (List.mem_singleton_self _))

-----------------------------------------------------------------------------------------
-- Lines
-----------------------------------------------------------------------------------------

/-- The whole number that a part is read as. -/
def whole : Number → ℤ
  | .finite q => ⌊q⌋
  | _ => 0

/-- What a flush says under a label: zero where it says nothing. -/
def told (line : Option Line) (label : String) : ℤ :=
  (line.bind (fun line => line.parts.lookup label)).elim 0 whole

/-- Where the parts of a flush are those of its window, a label tells the value of its row. -/
theorem told_formatMetricsLine (m : MetricsSnapshot) (nowMs : ℤ) {row : Row} (member : row ∈ rows)
    : told (formatMetricsLine m nowMs) row.label
      = if m.shows row then whole (m.value row) else 0 := by
  have found := Log.lookup_kept (fun row => m.value row) m.shows labels_nodup member
  have line
      : (formatMetricsLine m nowMs).bind (fun line => line.parts.lookup row.label)
        = (m.parts rows).lookup row.label := by
    rw [formatMetricsLine_eq]
    split
    · rename_i empty
      rw [empty]
      rfl
    · rfl
  rw [told, line, MetricsSnapshot.parts, found]
  by_cases shown : m.shows row
  · rw [if_pos shown, if_pos shown, Option.elim_some]
  · rw [if_neg shown, if_neg shown, Option.elim_none]

/-- A counter that makes a line a warning. -/
def Tally.problem (counted : Tally) : Prop := Row.tally counted ∈ problemRows

/-- What was recorded in a counter. -/
def total (events : List MetricEvent) (counted : Tally) : ℕ :=
  (events.map counted.recorded).sum

/-- The clean bills of a window that forwarded nothing. -/
def untoldServed (events : List MetricEvent) : ℤ :=
  if total events .requests = 0 then total events .served else 0

/-- What the flush of a window tells of its events. -/
structure Tells (line : Option Line) (events : List MetricEvent) : Prop where
  tallies : ∀ counted, counted ≠ .served → told line counted.label = total events counted
  served : told line (Tally.label .served) + untoldServed events = total events .served
  peaks
    : ∀ mark bound, 0 ≤ bound
        → (told line (Peak.label mark) ≤ bound
          ↔ ∀ event ∈ events, mark.printed (mark.observed event) ≤ bound)
  micros
    : ∀ kind, FailureKind.countOnly kind = false → WholeCharges kind events
        → told line (Row.label (.micros kind)) = (events.map (charged kind)).sum
  warns
    : (∃ warning, line = some warning ∧ warning.level = .warn)
        ↔ ∃ counted, Tally.problem counted ∧ total events counted ≠ 0
  silent
    : line = none
        ↔ (∀ counted, counted ≠ .served → total events counted = 0)
          ∧ ∀ mark, ∀ event ∈ events, Peak.observed mark event ≤ 0

/-- The level of an age as it is printed grows with the age. -/
theorem Peak.printed_mono (mark : Peak) {a b : ℤ} (nonneg : 0 ≤ a) (le : a ≤ b)
    : mark.printed a ≤ mark.printed b := by
  cases mark with
  | outboxAge =>
      have scaled : (a : ℚ) / 1000 ≤ b / 1000 := by
        have : (a : ℚ) ≤ b := by exact_mod_cast le
        gcongr
      exact Int.ceil_le_ceil (Binary64.round_mono (by positivity) scaled)
  | _ => exact le

theorem Peak.printed_zero (mark : Peak) : mark.printed 0 = 0 := by
  cases mark <;> simp [Peak.printed, ageSeconds, Binary64.round, Binary64.roundHalfEven]

theorem Peak.observed_nonneg (mark : Peak) (event : MetricEvent) : 0 ≤ mark.observed event := by
  unfold Peak.observed
  split <;> simp

theorem tally_mem_rows (counted : Tally) : Row.tally counted ∈ rows := by
  cases counted with
  | bill kind => cases kind <;> decide
  | upstream kind => cases kind <;> decide
  | reject kind => cases kind <;> decide
  | balance kind => cases kind <;> decide
  | credit kind => cases kind <;> decide
  | failure kind => cases kind <;> decide
  | gate kind => cases kind <;> decide
  | _ => decide

theorem peak_mem_rows (mark : Peak) : Row.peak mark ∈ rows := by
  cases mark <;> decide

theorem micros_mem_rows {kind : FailureKind} (charges : kind.countOnly = false)
    : Row.micros kind ∈ rows := by
  cases kind <;> first | decide | cases charges

section Flush

variable {m : MetricsSnapshot} {events : List MetricEvent}

theorem shows_tally {counted : Tally} (other : counted ≠ .served)
    : m.shows (.tally counted) ↔ m.tally counted ≠ 0 := by
  cases counted <;> simp_all [MetricsSnapshot.shows]

theorem parts_eq_nil_iff {rows : List Row}
    : m.parts rows = [] ↔ ∀ row ∈ rows, ¬ m.shows row := by
  simp [MetricsSnapshot.parts]

theorem whole_ofInt (n : ℤ) : whole (.ofInt n) = n := by
  simp [whole, Number.ofInt]

/-- A kind of failure that was not recorded has charged nothing. -/
theorem charged_eq_zero {kind : FailureKind} (none : total events (.failure kind) = 0)
    {event : MetricEvent} (member : event ∈ events)
    : charged kind event = 0 := by
  have unrecorded : (Tally.failure kind).recorded event = 0 := by
    refine Nat.eq_zero_of_le_zero ?_
    rw [← none]
    exact List.single_le_sum (fun _ _ => Nat.zero_le _) _ (List.mem_map_of_mem member)
  unfold charged
  split
  · rename_i failed micros
    split
    · rename_i same
      simp [Tally.recorded, MetricEvent.adds?, counterTally, same] at unrecorded
    · rfl
  · rfl

theorem told_peak (m : MetricsSnapshot) (nowMs : ℤ) (mark : Peak)
    : told (formatMetricsLine m nowMs) mark.label = mark.printed (m.peak mark) := by
  have line := told_formatMetricsLine m nowMs (peak_mem_rows mark)
  rw [show (Row.peak mark).label = mark.label from rfl] at line
  rw [line]
  by_cases zero : m.peak mark = 0
  · have hidden : m.shows (.peak mark) = false := by simp [MetricsSnapshot.shows, zero]
    rw [hidden, zero, mark.printed_zero]
    rfl
  · have shown : m.shows (.peak mark) = true := by simp [MetricsSnapshot.shows, zero]
    rw [if_pos shown]
    cases mark <;> exact whole_ofInt _

namespace Kept

variable (kept : Kept m events) (nowMs : ℤ)

include kept

theorem told_tally {counted : Tally} (other : counted ≠ .served)
    : told (formatMetricsLine m nowMs) counted.label = total events counted := by
  have same : m.tally counted = total events counted := kept.tallies counted
  have line := told_formatMetricsLine m nowMs (tally_mem_rows counted)
  rw [show (Row.tally counted).label = counted.label from rfl] at line
  rw [line]
  by_cases zero : m.tally counted = 0
  · rw [if_neg fun shown => (shows_tally other).mp shown zero, ← same, zero]
    rfl
  · rw [if_pos ((shows_tally other).mpr zero), MetricsSnapshot.value, whole_ofInt, same]

theorem told_served
    : told (formatMetricsLine m nowMs) (Tally.label .served) + untoldServed events
      = total events .served := by
  have requests : m.requests = total events .requests := kept.tallies .requests
  have served : m.served = total events .served := kept.tallies .served
  have line := told_formatMetricsLine m nowMs (tally_mem_rows .served)
  rw [show (Row.tally .served).label = Tally.label .served from rfl] at line
  rw [line, untoldServed]
  by_cases none : total events .requests = 0
  · have hidden : m.shows (.tally .served) = false := by
      simp [MetricsSnapshot.shows, requests, none]
    rw [if_pos none, hidden]
    simp
  · have shown : m.shows (.tally .served) = true := by
      simp [MetricsSnapshot.shows, requests, none]
    rw [if_neg none, if_pos shown, MetricsSnapshot.value, whole_ofInt, add_zero]
    exact congrArg Nat.cast served

theorem told_micros {kind : FailureKind} (charges : kind.countOnly = false)
    (whole : WholeCharges kind events)
    : told (formatMetricsLine m nowMs) (Row.label (.micros kind))
      = (events.map (charged kind)).sum := by
  have count : (m.failure kind).count = total events (.failure kind) :=
    kept.tallies (.failure kind)
  rw [told_formatMetricsLine m nowMs (micros_mem_rows charges)]
  by_cases none : total events (.failure kind) = 0
  · have hidden : m.shows (.micros kind) = false := by
      simp [MetricsSnapshot.shows, count, none]
    rw [hidden, List.sum_eq_zero]
    · rfl
    · intro charge member
      obtain ⟨event, inside, rfl⟩ := List.mem_map.mp member
      exact charged_eq_zero none inside
  · have shown : m.shows (.micros kind) = true := by
      simp [MetricsSnapshot.shows, count, none]
    rw [if_pos shown, MetricsSnapshot.value, kept.micros kind charges whole, whole_ofInt]

theorem warns_iff
    : (∃ warning, formatMetricsLine m nowMs = some warning ∧ warning.level = .warn)
      ↔ ∃ counted, Tally.problem counted ∧ total events counted ≠ 0 := by
  have warns
      : (∃ warning, formatMetricsLine m nowMs = some warning ∧ warning.level = .warn)
        ↔ m.parts problemRows ≠ [] := by
    have among : m.parts rows = [] → m.parts problemRows = [] := by
      rw [parts_eq_nil_iff, parts_eq_nil_iff]
      intro hidden row member
      exact hidden row (List.mem_append_left _ member)
    rw [formatMetricsLine_eq]
    by_cases empty : m.parts rows = []
    · simp [empty, among empty]
    · by_cases problems : m.parts problemRows = [] <;> simp [empty, problems]
  have tallies : ∀ row ∈ problemRows, ∃ counted, counted ≠ .served ∧ row = .tally counted := by
    simp [problemRows]
  rw [warns, ne_eq, parts_eq_nil_iff]
  push Not
  constructor
  · rintro ⟨row, member, shown⟩
    obtain ⟨counted, other, rfl⟩ := tallies row member
    refine ⟨counted, member, ?_⟩
    have present := (shows_tally other).mp shown
    rwa [kept.tallies] at present
  · rintro ⟨counted, problem, recorded⟩
    obtain ⟨same, other, row⟩ := tallies _ problem
    cases row
    refine ⟨.tally counted, problem, (shows_tally other).mpr ?_⟩
    rw [kept.tallies]
    exact recorded

theorem silent_iff
    : formatMetricsLine m nowMs = none
      ↔ (∀ counted, counted ≠ .served → total events counted = 0)
        ∧ ∀ mark, ∀ event ∈ events, Peak.observed mark event ≤ 0 := by
  have silent : formatMetricsLine m nowMs = none ↔ ∀ row ∈ rows, ¬ m.shows row := by
    rw [← parts_eq_nil_iff, formatMetricsLine_eq]
    split <;> simp_all
  rw [silent]
  constructor
  · intro hidden
    constructor
    · intro counted other
      by_contra recorded
      refine hidden _ (tally_mem_rows counted) ((shows_tally other).mpr ?_)
      rw [kept.tallies]
      exact recorded
    · intro mark event member
      have flat : m.peak mark = 0 := by
        by_contra raised
        exact hidden _ (peak_mem_rows mark) (by simp [MetricsSnapshot.shows, raised])
      exact (kept.above mark event member).trans flat.le
  · rintro ⟨unrecorded, unobserved⟩ row _ shown
    cases row with
    | tally counted =>
        by_cases own : counted = .served
        · subst own
          have requests : m.requests = total events .requests := kept.tallies .requests
          rw [unrecorded .requests (by decide)] at requests
          simp [MetricsSnapshot.shows, requests] at shown
        · have recorded := (shows_tally own).mp shown
          rw [kept.tallies] at recorded
          exact recorded (unrecorded counted own)
    | micros kind =>
        have count : (m.failure kind).count = total events (.failure kind) :=
          kept.tallies (.failure kind)
        rw [unrecorded _ (by simp)] at count
        simp [MetricsSnapshot.shows, count] at shown
    | peak mark =>
        have flat : m.peak mark = 0 := by
          rcases kept.attained mark with zero | ⟨event, member, same⟩
          · exact zero
          · exact le_antisymm (same ▸ unobserved mark event member) (kept.nonneg mark)
        simp [MetricsSnapshot.shows, flat] at shown

/-- A flush tells what the window holds. -/
theorem tells : Tells (formatMetricsLine m nowMs) events where
  tallies := fun counted other => kept.told_tally nowMs other
  served := kept.told_served nowMs
  peaks := by
    intro mark bound bound_nonneg
    rw [told_peak]
    constructor
    · intro within event member
      exact (mark.printed_mono (mark.observed_nonneg event) (kept.above mark event member)).trans
        within
    · intro within
      rcases kept.attained mark with zero | ⟨event, member, same⟩
      · rw [zero, mark.printed_zero]
        exact bound_nonneg
      · rw [← same]
        exact within event member
  micros := fun kind charges whole => kept.told_micros nowMs charges whole
  warns := kept.warns_iff nowMs
  silent := kept.silent_iff nowMs

end Kept

end Flush

/-- Every flush of a process tells what its own window recorded. -/
theorem journal_tells (bootMs : ℤ) (entries : List (Entry MetricEvent FlushClock))
    : List.Forall₂ Tells (journal bootMs entries) (blocks entries) := by
  refine @Recorder.reports_blocks _ _ _ _ recorder Kept Tells ?_ ?_ ?_ _ (Kept.reset bootMs) entries
  · intro window clock
    exact Kept.reset clock.resetAt
  · intro window earlier event kept
    exact kept.record event
  · intro window earlier clock kept
    exact kept.tells clock.formattedAt

-----------------------------------------------------------------------------------------
-- Texts
-----------------------------------------------------------------------------------------

/-- Numbers that are written apart from each other, without a blank or an equals sign. -/
structure PlainDecimals (decimals : Decimals) : Prop where
  injective : Function.Injective decimals.write
  blank : ∀ x, ' ' ∉ (decimals.write x).toList
  equals : ∀ x, '=' ∉ (decimals.write x).toList

theorem labels_blank : ∀ row ∈ rows, ' ' ∉ row.label.toList := by decide +kernel

/-- A line that a window has left. -/
def Logged (line : Line) : Prop := ∃ m nowMs, formatMetricsLine m nowMs = some line

theorem Logged.parts_eq {line : Line} (logged : Logged line)
    : ∃ m : MetricsSnapshot, line.parts = m.parts rows ∧ line.parts ≠ [] := by
  obtain ⟨m, nowMs, formatted⟩ := logged
  rw [formatMetricsLine_eq] at formatted
  split at formatted
  · cases formatted
  · cases formatted
    exact ⟨m, rfl, by assumption⟩

/-- The words of a line, between its blanks. -/
def words (decimals : Decimals) (line : Line) : List String :=
  line.parts.map (fun part => part.1 ++ "=" ++ decimals.write part.2)
    ++ ["(last", decimals.write (.ofInt line.minutes) ++ "m)"]

theorem Logged.text_eq {line : Line} (logged : Logged line) (decimals : Decimals)
    : line.text decimals = " ".intercalate (words decimals line) := by
  obtain ⟨_, _, shown⟩ := logged.parts_eq
  rw [words, String.intercalate_append_of_ne_nil (by simpa using shown) (by simp),
    String.intercalate_cons_cons, String.intercalate_singleton, Line.text]
  simp only [String.append_assoc]
  rfl

/-- A line is split into its words at its blanks. -/
theorem Logged.words_eq {decimals : Decimals} (plain : PlainDecimals decimals) {line : Line}
    (logged : Logged line)
    : (line.text decimals).toList.splitOn ' ' = (words decimals line).map String.toList := by
  rw [logged.text_eq, String.toList_intercalate]
  refine List.splitOn_intercalate _ ?_ (by simp [words])
  intro word member
  obtain ⟨text, inside, rfl⟩ := List.mem_map.mp member
  rcases List.mem_append.mp inside with among | last
  · obtain ⟨part, shown, rfl⟩ := List.mem_map.mp among
    obtain ⟨m, parts, _⟩ := logged.parts_eq
    rw [parts] at shown
    obtain ⟨row, pushed, rfl⟩ := List.mem_map.mp shown
    have label := labels_blank row (List.mem_of_mem_filter pushed)
    have value := plain.blank (m.value row)
    simp [label, value]
  · have value := plain.blank (.ofInt line.minutes)
    simp only [List.mem_cons, List.not_mem_nil, or_false] at last
    rcases last with rfl | rfl
    · decide
    · simp [value]

/-- The text of a line determines its parts and its minutes. -/
theorem Logged.text_inj {decimals : Decimals} (plain : PlainDecimals decimals) {line line' : Line}
    (logged : Logged line) (logged' : Logged line')
    (same : line.text decimals = line'.text decimals)
    : line.parts = line'.parts ∧ line.minutes = line'.minutes := by
  have texts : words decimals line = words decimals line' := by
    have split := congrArg (fun text => text.toList.splitOn ' ') same
    simp only [logged.words_eq plain, logged'.words_eq plain] at split
    exact List.map_injective_iff.mpr (fun _ _ eq => String.toList_inj.mp eq) split
  obtain ⟨parts, last⟩ := List.append_inj' texts rfl
  constructor
  · refine List.map_injective_iff.mpr ?_ parts
    rintro ⟨label, value⟩ ⟨label', value'⟩ equal
    have lists : label.toList ++ '=' :: (decimals.write value).toList
        = label'.toList ++ '=' :: (decimals.write value').toList := by
      simpa using congrArg String.toList equal
    obtain ⟨labels, values⟩ :=
      List.append_cons_inj_of_back lists (plain.equals value) (plain.equals value')
    rw [String.toList_inj.mp labels, plain.injective (String.toList_inj.mp values)]
  · have minutes : decimals.write (.ofInt line.minutes) ++ "m)"
        = decimals.write (.ofInt line'.minutes) ++ "m)" := by
      simpa using last
    have written
        : decimals.write (.ofInt line.minutes) = decimals.write (.ofInt line'.minutes) := by
      simpa using minutes
    exact Number.ofInt_injective (plain.injective written)

-----------------------------------------------------------------------------------------
-- Totals
-----------------------------------------------------------------------------------------

/-- What the flushes of a process tell of a counter, all together. -/
def toldTotal (lines : List (Option Line)) (counted : Tally) : ℤ :=
  (lines.map (fun line => told line counted.label)).sum

/-- The outcomes a forwarded request can have. -/
def outcomeCounters : List Counter :=
  [.served, .servedPartial, .streamAborted, .bill .refundedInFull, .upstream .throttle,
    .upstream .server, .upstream .auth, .upstream .billing, .upstream .timeout,
    .upstream .unreachable, .upstream .relayed4xx, .upstream .notfound, .upstream .other]

def outcomeTallies : List Tally := outcomeCounters.map counterTally

def MetricEvent.handled? : MetricEvent → Option Counter
  | .handled counter => some counter
  | _ => none

/-- The counters the handler has incremented, in order. -/
def handledCounters (events : List MetricEvent) : List Counter :=
  events.filterMap MetricEvent.handled?

section Totals

variable (bootMs : ℤ) (entries : List (Entry MetricEvent FlushClock))

/-- What each flush tells of a counter, with what it leaves untold, adds up over the journal. -/
theorem toldTotal_add {counted : Tally} {untold : List MetricEvent → ℤ}
    (tell
      : ∀ line events, Tells line events
          → told line counted.label + untold events = total events counted)
    : toldTotal (journal bootMs entries) counted + ((blocks entries).map untold).sum
      = total (flushed entries) counted := by
  have cast (events : List MetricEvent)
      : (total events counted : ℤ)
        = (events.map (fun event => (counted.recorded event : ℤ))).sum := by
    rw [total, Nat.cast_list_sum, List.map_map]
    rfl
  rw [cast, flushed]
  refine sum_reports (fun line events tells => ?_) (journal_tells bootMs entries)
  rw [← cast]
  exact tell line events tells

/-- The flushes tell a counter as often as it was recorded before them. -/
theorem toldTotal_journal {counted : Tally} (other : counted ≠ .served)
    : toldTotal (journal bootMs entries) counted = total (flushed entries) counted := by
  have sum := @toldTotal_add bootMs entries counted (fun _ => 0) fun line events tells => by
    rw [tells.tallies counted other, add_zero]
  rwa [List.sum_eq_zero (by simp), add_zero] at sum

end Totals

/-- A counter of the handler was recorded as often as the handler incremented it; by induction on
the events.
-/
theorem total_handled (events : List MetricEvent) (own : Counter)
    : total events (counterTally own)
      = (handledCounters events).countP
          (fun counter => counterTally counter = counterTally own) := by
  induction events with
  | nil => rfl
  | cons event rest ih =>
      have recorded
          : (counterTally own).recorded event
            = (event.handled?.toList).countP
                (fun counter => counterTally counter = counterTally own) := by
        cases event with
        | handled counter =>
            by_cases same : counterTally counter = counterTally own
            · simp [Tally.recorded, MetricEvent.adds?, MetricEvent.handled?, same]
            · simp [Tally.recorded, MetricEvent.adds?, MetricEvent.handled?, same, Ne.symm same]
        | _ => cases own <;> rfl
      have whole : total (event :: rest) (counterTally own)
          = (counterTally own).recorded event + total rest (counterTally own) := by
        rw [total, List.map_cons, List.sum_cons, total]
      rw [whole, recorded, ih, handledCounters, handledCounters, ← List.countP_append]
      cases event <;> rfl

/-- What the handler increments for an outcome, and for nothing else. -/
theorem primary_iff (counter : Counter)
    : counter.primary ↔ counterTally counter ∈ outcomeTallies := by
  cases counter with
  | bill kind => cases kind <;> decide
  | upstream kind => cases kind <;> decide
  | gate kind => cases kind <;> decide
  | failure kind micros =>
      cases kind <;> simp [Counter.primary, counterTally, outcomeTallies, outcomeCounters]
  | _ => decide

/-- A tally adds one for each of its occurrences; by induction on the tallies. -/
theorem sum_occurrences (own : Tally) (tallies : List Tally)
    : (tallies.map (fun counted => if own = counted then 1 else 0)).sum = tallies.count own := by
  induction tallies with
  | nil => rfl
  | cons first rest ih =>
      rw [List.map_cons, List.sum_cons, ih, List.count_cons, Nat.add_comm]
      by_cases same : first = own
      · rw [if_pos same.symm, if_pos (beq_iff_eq.mpr same)]
      · rw [if_neg (Ne.symm same), if_neg (mt beq_iff_eq.mp same)]

/-- Counters of different tallies are counted one tally after the other; by induction on the
counters.
-/
theorem sum_countP {tallies : List Tally} (distinct : tallies.Nodup) (counters : List Counter)
    : (tallies.map
          (fun counted => counters.countP (fun counter => counterTally counter = counted))).sum
      = counters.countP (fun counter => counterTally counter ∈ tallies) := by
  induction counters with
  | nil => simp
  | cons counter rest ih =>
      simp only [List.countP_cons, decide_eq_true_eq]
      rw [List.sum_map_add, ih, sum_occurrences, distinct.count]

/-- The journal's account of undisturbed requests that are over: every request it tells of it tells
an outcome of, or its clean bill is in a window that forwarded nothing.
-/
theorem toldTotal_reconcile {book : PriceBook} {js : Runtime} {settings : HandlerSettings}
    {runs : List (MeteredRun book)} (undisturbed : ∀ run ∈ runs, run.Undisturbed js settings)
    {log : List (ℕ × Counter)} {rest : List (List Counter)}
    (interleaved
      : (interleaving Counter).Run
          (runs.map (fun run => counters (run.effects js settings))) log rest)
    (quiescent : Ended rest) (bootMs : ℤ) {entries : List (Entry MetricEvent FlushClock)}
    (recorded : handledCounters (flushed entries) = log.map Prod.snd)
    : toldTotal (journal bootMs entries) .requests
      = (outcomeTallies.map (toldTotal (journal bootMs entries))).sum
        + ((blocks entries).map untoldServed).sum := by
  have balanced
      : (log.map Prod.snd).countP (· = .requests) = (log.map Prod.snd).countP Counter.primary := by
    have perm := perm_ended interleaved quiescent
    rw [perm.countP_eq, perm.countP_eq]
    apply Reconciled.balanced_flatten
    intro script member
    obtain ⟨run, own, rfl⟩ := List.mem_map.mp member
    exact (undisturbed run own).reconciled
  have requests (counter : Counter)
      : (counterTally counter = counterTally .requests) ↔ counter = .requests := by
    cases counter <;> simp [counterTally]
  have outcomes
      : outcomeTallies.map (total (flushed entries))
        = outcomeTallies.map
            (fun counted =>
              (log.map Prod.snd).countP (fun counter => counterTally counter = counted)) := by
    rw [outcomeTallies, List.map_map, List.map_map]
    apply List.map_congr_left
    intro own _
    rw [← recorded]
    exact total_handled (flushed entries) own
  have served := @toldTotal_add bootMs entries .served untoldServed
    fun line events tells => tells.served
  have others
      : ((outcomeTallies.drop 1).map (toldTotal (journal bootMs entries)))
        = (outcomeTallies.drop 1).map (fun counted => (total (flushed entries) counted : ℤ)) := by
    apply List.map_congr_left
    intro counted member
    refine toldTotal_journal bootMs entries ?_
    rintro rfl
    revert member
    decide
  calc toldTotal (journal bootMs entries) .requests
    _ = total (flushed entries) .requests := toldTotal_journal bootMs entries (by decide)
    _ = ((log.map Prod.snd).countP (· = .requests) : ℕ) := by
      rw [show Tally.requests = counterTally .requests from rfl, total_handled, recorded]
      simp only [requests]
    _ = ((log.map Prod.snd).countP Counter.primary : ℕ) := by rw [balanced]
    _ = ((outcomeTallies.map (total (flushed entries))).sum : ℕ) := by
      rw [outcomes, sum_countP (by decide)]
      simp only [← primary_iff, Bool.decide_eq_true]
    _ = total (flushed entries) .served
          + ((outcomeTallies.drop 1).map
              (fun counted => (total (flushed entries) counted : ℤ))).sum := by
      rw [show outcomeTallies = .served :: outcomeTallies.drop 1 from rfl, List.map_cons,
        List.sum_cons, Nat.cast_add, Nat.cast_list_sum, List.map_map]
      rfl
    _ = (outcomeTallies.map (toldTotal (journal bootMs entries))).sum
          + ((blocks entries).map untoldServed).sum := by
      rw [← served, ← others, add_right_comm]
      rfl

/-- What the journal of a process tells, whatever it records and whenever it is flushed. Each line
tells its own window: a warning if and only if a problem was recorded, no line if and only if
nothing was but clean bills, and the greatest of the levels that were observed. All lines together
tell every counter as often as it was recorded, except the clean bills of windows that forwarded
nothing; so where undisturbed requests are over, the requests they tell of exceed the outcomes they
tell of by just those clean bills. The text of a line determines what it tells.
-/
theorem metrics_journal (bootMs : ℤ) (entries : List (Entry MetricEvent FlushClock))
    : List.Forall₂ Tells (journal bootMs entries) (blocks entries)
      ∧ (∀ counted, counted ≠ .served →
          toldTotal (journal bootMs entries) counted = total (flushed entries) counted)
      ∧ toldTotal (journal bootMs entries) .served + ((blocks entries).map untoldServed).sum
        = total (flushed entries) .served
      ∧ (∀ (book : PriceBook) (js : Runtime) (settings : HandlerSettings)
          (runs : List (MeteredRun book)) (log : List (ℕ × Counter)) (rest : List (List Counter)),
          (∀ run ∈ runs, run.Undisturbed js settings)
          → (interleaving Counter).Run
              (runs.map (fun run => counters (run.effects js settings))) log rest
          → Ended rest
          → handledCounters (flushed entries) = log.map Prod.snd
          → toldTotal (journal bootMs entries) .requests
            = (outcomeTallies.map (toldTotal (journal bootMs entries))).sum
              + ((blocks entries).map untoldServed).sum)
      ∧ ∀ decimals, PlainDecimals decimals → ∀ line line', Logged line → Logged line'
          → line.text decimals = line'.text decimals
          → line.parts = line'.parts ∧ line.minutes = line'.minutes := by
  refine ⟨journal_tells bootMs entries, fun counted => toldTotal_journal bootMs entries, ?_, ?_, ?_⟩
  · exact @toldTotal_add bootMs entries .served untoldServed fun line events tells => tells.served
  · intro book js settings runs log rest undisturbed interleaved quiescent recorded
    exact toldTotal_reconcile undisturbed interleaved quiescent bootMs recorded
  · intro decimals plain line line' logged logged'
    exact logged.text_inj plain logged'

section Example

/-- Integers in decimal, other values as fractions. -/
def exampleWrite : Number → String
  | .finite q => if q.den = 1 then q.num.repr else q.num.repr ++ "/" ++ (q.den : ℤ).repr
  | .infinity negative => if negative then "-Infinity" else "Infinity"
  | .nan => "NaN"

def exampleDecimals : Decimals := ⟨exampleWrite, fun _ => .nan⟩

/-- What no text of a finite value has: neither digit, sign nor fraction bar. -/
theorem exampleWrite_finite {c : Char} (digit : c.isDigit = false) (sign : c ≠ '-') (bar : c ≠ '/')
    (q : ℚ)
    : c ∉ (exampleWrite (.finite q)).toList := by
  have parts := Int.notMem_repr digit sign
  unfold exampleWrite
  simp only
  split
  · exact parts _
  · simp [parts, bar]

theorem exampleWrite_injective : Function.Injective exampleWrite := by
  have finite (a b : ℚ) (same : exampleWrite (.finite a) = exampleWrite (.finite b)) : a = b := by
    have bar (n : ℤ) : '/' ∉ n.repr.toList := Int.notMem_repr rfl (by decide) n
    simp only [exampleWrite] at same
    split at same
    · rename_i whole
      split at same
      · rename_i whole'
        exact Rat.ext (Int.repr_injective same) (whole.trans whole'.symm)
      · have absent := bar a.num
        rw [same] at absent
        simp at absent
    · split at same
      · have absent := bar b.num
        rw [← same] at absent
        simp at absent
      · obtain ⟨num, den⟩ :=
          @String.separated_repr_inj _ _ _ _ '/' rfl (by decide) same
        exact Rat.ext (Int.repr_injective num) (by exact_mod_cast den)
  have word (q : ℚ) {text : String} (lettered : 'a' ∈ text.toList ∨ 'y' ∈ text.toList)
      : exampleWrite (.finite q) ≠ text := by
    rintro rfl
    rcases lettered with found | found
    · exact exampleWrite_finite rfl (by decide) (by decide) q found
    · exact exampleWrite_finite rfl (by decide) (by decide) q found
  have infinite (negative : Bool) : 'y' ∈ (exampleWrite (.infinity negative)).toList := by
    cases negative <;> decide
  intro x y same
  cases x with
  | finite a =>
      cases y with
      | finite b => rw [finite a b same]
      | infinity negative => exact absurd same (word a (Or.inr (infinite negative)))
      | nan => exact absurd same (word a (Or.inl (by decide)))
  | infinity negative =>
      cases y with
      | finite b => exact absurd same.symm (word b (Or.inr (infinite negative)))
      | infinity negative' => revert same; cases negative <;> cases negative' <;> decide
      | nan => revert same; cases negative <;> decide
  | nan =>
      cases y with
      | finite b => exact absurd same.symm (word b (Or.inl (by decide)))
      | infinity negative => revert same; cases negative <;> decide
      | nan => rfl

theorem exampleDecimals_plain : PlainDecimals exampleDecimals where
  injective := exampleWrite_injective
  blank := by
    intro x
    cases x with
    | finite q => exact exampleWrite_finite rfl (by decide) (by decide) q
    | infinity negative => cases negative <;> decide
    | nan => decide
  equals := by
    intro x
    cases x with
    | finite q => exact exampleWrite_finite rfl (by decide) (by decide) q
    | infinity negative => cases negative <;> decide
    | nan => decide

/-- A request is forwarded and another one is stopped in the first window. The stream of the first
one ends in the next window.
-/
def exampleEntries : List (Entry MetricEvent FlushClock) :=
  [.event (.handled .requests), .event (.handled (.gate .auth)), .flush ⟨3600000, 3600001⟩,
    .event (.handled .servedPartial), .flush ⟨7200001, 7200002⟩]

/-- A bill that is settled after its window's flush, with nothing forwarded since. -/
def exampleStraddling : List (Entry MetricEvent FlushClock) :=
  [.event (.handled .requests), .flush ⟨3600000, 3600001⟩, .event (.handled .served),
    .event (.observeStreams 2), .flush ⟨7200001, 7200002⟩]

/-- The journal of two overlapping requests reconciles over the flush between them; a clean bill
that falls in a window of its own is not told; and a line reads as what it tells.
-/
theorem metrics_journal_straddling
    : toldTotal (journal 0 exampleEntries) .requests
        = (outcomeTallies.map (toldTotal (journal 0 exampleEntries))).sum
          + ((blocks exampleEntries).map untoldServed).sum
      ∧ toldTotal (journal 0 exampleStraddling) .requests = 1
      ∧ toldTotal (journal 0 exampleStraddling) .served = 0
      ∧ ∀ line line', Logged line → Logged line'
          → line.text exampleDecimals = line'.text exampleDecimals
          → line.parts = line'.parts ∧ line.minutes = line'.minutes := by
  obtain ⟨_, _, _, reconciles, reads⟩ := metrics_journal 0 exampleEntries
  obtain ⟨_, totals, served, _⟩ := metrics_journal 0 exampleStraddling
  refine ⟨?_, ?_, ?_, reads exampleDecimals exampleDecimals_plain⟩
  · exact reconciles exampleBook exampleStreamJs exampleSettings exampleRuns exampleLog [[], []]
      exampleRuns_undisturbed exampleLog_interleaved (by simp [Ended]) rfl
  · rw [totals .requests (by decide)]
    rfl
  · have untold : ((blocks exampleStraddling).map untoldServed).sum = 1 := rfl
    have recorded : (total (flushed exampleStraddling) .served : ℤ) = 1 := rfl
    omega

end Example

end Nullsink.Monitoring
