import Nullsink.Payments.PollerRefinement

/-! What the journal and the counters of the payments process tell: a rail's last marker says
whether its deposit detection is down, and every credit counted as enqueued is counted as
acknowledged or still waits.
-/

namespace Nullsink.Payments

open Relational Transition Ecma Ledger

-----------------------------------------------------------------------------------------
-- Markers
-----------------------------------------------------------------------------------------

/-- The marker a journal entry sets for a rail. -/
def JournalEntry.marker? (rail : String) : JournalEntry → Option PollEvent
  | .pollBlind name _ _ => if name = rail then some .blind else none
  | .pollRecovered name _ => if name = rail then some .recovered else none
  | _ => none

namespace PaymentsProcess

/-- The markers of a rail, oldest first. -/
def markers (p : PaymentsProcess) (rail : String) : List PollEvent :=
  p.journal.filterMap (JournalEntry.marker? rail)

/-- The last polls of a rail failed, as many as the threshold asks for. -/
def Down (cfg : PollerConfig) (p : PaymentsProcess) (rail : String) : Prop :=
  List.replicate ⌈cfg.pollFailAlert⌉₊ false <:+ p.polled rail

/-- What the journal says of a rail. -/
structure Alerts (cfg : PollerConfig) (p : PaymentsProcess) (rail : String) : Prop where
  streak : p.pollFailsByRail rail = failStreak (p.polled rail)
  last : (p.markers rail).getLast? = some .blind ↔ p.Down cfg rail
  paired
    : ∀ earlier later, p.markers rail = earlier ++ .recovered :: later
        → earlier.getLast? = some .blind

theorem down_iff {cfg : PollerConfig} {p : PaymentsProcess} {rail : String}
    : p.Down cfg rail ↔ cfg.pollFailAlert ≤ failStreak (p.polled rail) := by
  rw [Down, ← le_failStreak_iff, Nat.ceil_le]

/-- Entries without a marker of the rail change nothing that its alerts speak of. -/
theorem Alerts.quiet {cfg : PollerConfig} {p p' : PaymentsProcess} {rail : String}
    (alerts : p.Alerts cfg rail) (streaks : p'.pollFailsByRail rail = p.pollFailsByRail rail)
    (polled : p'.polled rail = p.polled rail) (markers : p'.markers rail = p.markers rail)
    : p'.Alerts cfg rail where
  streak := by rw [streaks, polled, alerts.streak]
  last := by rw [Down, polled, markers, alerts.last, Down]
  paired := by
    rw [markers]
    exact alerts.paired

/-- A process that has just started has logged and polled nothing. -/
theorem Alerts.idle {cfg : PollerConfig} (positive : 1 ≤ cfg.pollFailAlert) (crossing : Crossing)
    (rail : String)
    : (PaymentsProcess.idle crossing).Alerts cfg rail where
  streak := rfl
  last := by
    have some : ¬(PaymentsProcess.idle crossing).Down cfg rail := by
      rw [down_iff]
      have none : failStreak ((PaymentsProcess.idle crossing).polled rail) = 0 := rfl
      rw [none]
      push_cast
      linarith
    simp [markers, PaymentsProcess.idle] at some ⊢
    exact some
  paired := by simp [markers, PaymentsProcess.idle]

/-- One more marker ends a list whose last entry it is. -/
theorem paired_snoc {markers : List PollEvent} {marker : PollEvent}
    (paired
      : ∀ earlier later, markers = earlier ++ .recovered :: later
          → earlier.getLast? = some .blind)
    (follows : marker = .recovered → markers.getLast? = some .blind)
    : ∀ earlier later, markers ++ [marker] = earlier ++ .recovered :: later
        → earlier.getLast? = some .blind := by
  intro earlier later whole
  rcases List.eq_nil_or_concat later with rfl | ⟨front, final, rfl⟩
  · obtain ⟨rfl, same⟩ := List.append_inj' whole rfl
    exact follows (List.cons.inj same).1
  · have split : markers ++ [marker] = (earlier ++ .recovered :: front) ++ [final] := by
      simpa using whole
    exact paired earlier front (List.append_inj' split rfl).1

/-- The marker a failed query sets. -/
theorem record_error_markers (cfg : PollerConfig) (p : PaymentsProcess) (rail reason : String)
    : (p.record cfg rail (.error reason)).markers rail
      = p.markers rail
        ++ if cfg.pollFailAlert ≤ (p.pollFailsByRail rail + 1 : ℕ) then [.blind] else [] := by
  unfold markers record
  have failed : (Except.error reason : Except String (List ReportedIncoming)).toOption.isSome
      = false := rfl
  simp only [failed, classifyPollOutcome_failed, List.filterMap_append]
  by_cases reached : cfg.pollFailAlert ≤ (p.pollFailsByRail rail + 1 : ℕ)
  · simp only [reached, if_true]
    simp [JournalEntry.marker?]
  · simp only [reached, if_false]
    simp [JournalEntry.marker?]

/-- The marker a settled poll sets. -/
theorem record_ok_markers (cfg : PollerConfig) (p : PaymentsProcess) (rail : String)
    (inbounds : List ReportedIncoming)
    : (p.record cfg rail (.ok inbounds)).markers rail
      = p.markers rail
        ++ if cfg.pollFailAlert ≤ (p.pollFailsByRail rail : ℕ) then [.recovered] else [] := by
  unfold markers record
  have succeeded : (Except.ok inbounds : Except String (List ReportedIncoming)).toOption.isSome
      = true := rfl
  simp only [succeeded, classifyPollOutcome_succeeded, List.filterMap_append]
  by_cases reached : cfg.pollFailAlert ≤ (p.pollFailsByRail rail : ℕ)
  · simp only [reached, if_true]
    simp [JournalEntry.marker?]
  · simp only [reached, if_false]
    simp

theorem record_polled (cfg : PollerConfig) (p : PaymentsProcess) (rail : String)
    (answer : Except String (List ReportedIncoming))
    : (p.record cfg rail answer).polled rail = p.polled rail ++ [answer.toOption.isSome] :=
  Function.update_self _ _ _

/-- One recorded outcome keeps the alerts of its rail; by the outcome and the streak before it. -/
theorem Alerts.record {cfg : PollerConfig} {p : PaymentsProcess} {rail : String}
    (positive : 1 ≤ cfg.pollFailAlert) (alerts : p.Alerts cfg rail)
    (answer : Except String (List ReportedIncoming))
    : (p.record cfg rail answer).Alerts cfg rail := by
  have streak
      : (p.record cfg rail answer).pollFailsByRail rail
        = failStreak ((p.record cfg rail answer).polled rail) := by
    rw [record_polled, ← classifyPollOutcome_fails _ _ cfg.pollFailAlert, ← alerts.streak]
    exact Function.update_self _ _ _
  have before : (p.markers rail).getLast? = some .blind
      ↔ cfg.pollFailAlert ≤ (failStreak (p.polled rail) : ℕ) :=
    alerts.last.trans down_iff
  cases answer with
  | error reason =>
      have down
          : (p.record cfg rail (.error reason)).Down cfg rail
            ↔ cfg.pollFailAlert ≤ (failStreak (p.polled rail) + 1 : ℕ) := by
        rw [down_iff, record_polled, failStreak_snoc]
        rfl
      by_cases reached : cfg.pollFailAlert ≤ (failStreak (p.polled rail) + 1 : ℕ)
      · have markers
            : (p.record cfg rail (.error reason)).markers rail = p.markers rail ++ [.blind] := by
          rw [record_error_markers, alerts.streak, if_pos reached]
        refine ⟨streak, ?_, ?_⟩
        · rw [markers, down]
          exact ⟨fun _ => reached, fun _ => List.getLast?_concat⟩
        · rw [markers]
          exact paired_snoc alerts.paired (by simp)
      · have markers : (p.record cfg rail (.error reason)).markers rail = p.markers rail := by
          rw [record_error_markers, alerts.streak, if_neg reached, List.append_nil]
        refine ⟨streak, ?_, ?_⟩
        · rw [markers, down, before]
          refine ⟨fun earlier => ?_, fun now => (reached now).elim⟩
          push_cast
          linarith
        · rw [markers]
          exact alerts.paired
  | ok inbounds =>
      have down : ¬(p.record cfg rail (.ok inbounds)).Down cfg rail := by
        rw [down_iff, record_polled, failStreak_snoc]
        have none : ((if (Except.ok inbounds : Except String _).toOption.isSome = true then 0
            else failStreak (p.polled rail) + 1 : ℕ) : ℚ) = 0 := rfl
        linarith
      by_cases reached : cfg.pollFailAlert ≤ (failStreak (p.polled rail) : ℕ)
      · have markers
            : (p.record cfg rail (.ok inbounds)).markers rail = p.markers rail ++ [.recovered] := by
          rw [record_ok_markers, alerts.streak, if_pos reached]
        refine ⟨streak, ?_, ?_⟩
        · rw [markers, List.getLast?_concat]
          exact ⟨fun same => (by cases same), fun now => (down now).elim⟩
        · rw [markers]
          exact paired_snoc alerts.paired fun _ => before.mpr reached
      · have markers : (p.record cfg rail (.ok inbounds)).markers rail = p.markers rail := by
          rw [record_ok_markers, alerts.streak, if_neg reached, List.append_nil]
        refine ⟨streak, ?_, ?_⟩
        · rw [markers, before]
          exact ⟨fun earlier => (reached earlier).elim, fun now => (down now).elim⟩
        · rw [markers]
          exact alerts.paired

/-- The outcome of one rail says nothing of another. -/
theorem Alerts.record_other {cfg : PollerConfig} {p : PaymentsProcess} {rail name : String}
    (alerts : p.Alerts cfg rail) (other : rail ≠ name)
    (answer : Except String (List ReportedIncoming))
    : (p.record cfg name answer).Alerts cfg rail := by
  refine alerts.quiet (Function.update_of_ne other _ _) (Function.update_of_ne other _ _) ?_
  unfold PaymentsProcess.markers PaymentsProcess.record
  simp only [List.filterMap_append]
  split <;> simp [JournalEntry.marker?, Ne.symm other]

/-- A poll from its wallet's answer on keeps the alerts of every rail. -/
theorem Alerts.answered {cfg : PollerConfig} {p : PaymentsProcess} {rail : String}
    (positive : 1 ≤ cfg.pollFailAlert) (alerts : p.Alerts cfg rail) (polled : PayRail)
    (answer : Except String (List ReportedIncoming)) (now : ℤ)
    : (p.answered cfg polled answer now).Alerts cfg rail := by
  have recorded : (p.record cfg polled.name answer).Alerts cfg rail := by
    by_cases own : rail = polled.name
    · subst own
      exact alerts.record positive answer
    · exact alerts.record_other own answer
  cases answer with
  | error reason => exact recorded
  | ok inbounds => exact recorded.quiet rfl rfl rfl

/-- The polls with which a tick begins keep them too; by induction on the rails. -/
theorem Alerts.pollRails {cfg : PollerConfig} {p : PaymentsProcess} {rail : String}
    (positive : 1 ≤ cfg.pollFailAlert) (alerts : p.Alerts cfg rail) (clock : String → ℤ)
    (rails : List PayRail)
    : (p.pollRails cfg clock rails).1.Alerts cfg rail := by
  induction rails generalizing p with
  | nil => exact alerts
  | cons first rest ih =>
      have begun : (p.pollRail cfg clock first).1.Alerts cfg rail := by
        unfold pollRail
        by_cases watches : p.orders.watch first = []
        · simp only [watches, if_true]
          exact alerts.answered positive first (.ok []) (clock first.name)
        · simp only [watches, if_false]
          exact alerts
      exact ih begun

/-- Every move keeps the alerts of every rail. -/
theorem Alerts.move {cfg : PollerConfig} {p p' : PaymentsProcess} {rail : String}
    {action : PollerAction} (positive : 1 ≤ cfg.pollFailAlert) (alerts : p.Alerts cfg rail)
    (moved : Move cfg p action p')
    : p'.Alerts cfg rail := by
  cases moved with
  | busy clock polling => exact alerts
  | begun clock up idle =>
      exact (alerts.pollRails positive clock cfg.rails.rows).quiet rfl rfl rfl
  | answered answer now polling found =>
      exact (alerts.answered positive _ answer now).quiet rfl rfl rfl
  | ended seen now blocked draining acted wired unwritten =>
      refine alerts.quiet rfl rfl ?_
      unfold markers endTick
      simp only [List.filterMap_append]
      have blockedQuiet
          : (blocked.toList.map JournalEntry.unreachable).filterMap (JournalEntry.marker? rail)
            = [] := by
        cases blocked <;> rfl
      rw [blockedQuiet]
      split <;> split <;> simp [JournalEntry.marker?]
  | cutInTick clock committed up idle => exact .idle positive _ rail
  | cutInAnswer inbounds now committed polling found => exact .idle positive _ rail
  | crashed up => exact .idle positive _ rail
  | restarted down => exact .idle positive _ rail
  | _ => exact alerts.quiet rfl rfl rfl

end PaymentsProcess

/-- The rows that wait are the unacknowledged rows of the outbox. -/
theorem OrdersStore.unackedCreditCount_eq (orders : OrdersStore)
    : orders.unackedCreditCount
      = orders.creditOutbox.rows.countP (fun row => row.ackedAt = none) := by
  simp [unackedCreditCount, listUnackedCredits, List.length_insertionSort,
    List.countP_eq_length_filter]

/-- A write that settles lets as many more rows wait as it enqueues. -/
theorem OrdersStore.unackedCreditCount_write {orders : OrdersStore} {write : OrdersWrite}
    (settles : write.delivers = false)
    : (orders.write write).unackedCreditCount
      = orders.unackedCreditCount + (orders.enqueues write).toList.length := by
  have waits (settlement : Settlement) : settlement.credit.ackedAt = none := rfl
  rw [unackedCreditCount_eq, unackedCreditCount_eq, outbox_of_settles settles, List.countP_append]
  congr 1
  cases orders.enqueues write with
  | none => rfl
  | some settlement => simp [waits]

/-- So do writes in sequence; by induction on the writes. -/
theorem OrdersStore.unackedCreditCount_writes {writes : List OrdersWrite}
    (settles : ∀ write ∈ writes, write.delivers = false) (orders : OrdersStore)
    : (writes.foldl OrdersStore.write orders).unackedCreditCount
      = orders.unackedCreditCount + (orders.enqueuedBy writes).length := by
  induction writes generalizing orders with
  | nil => rfl
  | cons write rest ih =>
      obtain ⟨first, others⟩ := List.forall_mem_cons.mp settles
      rw [List.foldl_cons, ih others, unackedCreditCount_write first, enqueuedBy,
        List.length_append, Nat.add_assoc]

/-- Acknowledging a row that waits leaves one fewer; by induction on the rows. -/
theorem OrdersStore.unackedCreditCount_ack {orders : OrdersStore} {row : CreditOutboxRow}
    (stored : row ∈ orders.creditOutbox.rows) (waits : row.ackedAt = none) (atMs : ℤ)
    : (orders.write (.ackCredit row.idempotencyKey atMs)).unackedCreditCount + 1
      = orders.unackedCreditCount := by
  have along {rows : List CreditOutboxRow} (once : (rows.map CreditOutboxRow.idempotencyKey).Nodup)
      (member : row ∈ rows)
      : (rows.map (scrubbed row.idempotencyKey atMs)).countP (fun row => row.ackedAt = none) + 1
        = rows.countP (fun row => row.ackedAt = none) := by
    induction rows with
    | nil => cases member
    | cons head rest ih =>
        obtain ⟨absent, later⟩ := List.nodup_cons.mp once
        rcases List.mem_cons.mp member with rfl | inside
        · have untouched : rest.map (scrubbed row.idempotencyKey atMs) = rest := by
            refine (List.map_congr_left fun other inside => ?_).trans (List.map_id rest)
            have apart : other.idempotencyKey ≠ row.idempotencyKey := fun same =>
              absent (same ▸ List.mem_map_of_mem inside)
            simp [scrubbed, apart]
          have gone : (scrubbed row.idempotencyKey atMs row).ackedAt ≠ none := by simp [scrubbed]
          simp [untouched, gone, waits]
        · have apart : head.idempotencyKey ≠ row.idempotencyKey := fun same =>
            absent (same ▸ List.mem_map_of_mem inside)
          have kept : scrubbed row.idempotencyKey atMs head = head := by simp [scrubbed, apart]
          rw [List.map_cons, kept, List.countP_cons, List.countP_cons, ← ih later inside]
          omega
  have settles : (OrdersWrite.ackCredit row.idempotencyKey atMs).creditAfter
      = scrubbed row.idempotencyKey atMs := rfl
  rw [unackedCreditCount_eq, unackedCreditCount_eq, write_outbox, settles]
  simpa [enqueues] using along orders.creditOutbox.nodup stored

/-- The credits that an entry says were delivered. -/
def JournalEntry.credits : JournalEntry → ℕ
  | .delivered credits => credits
  | _ => 0

/-- Whether an entry says that the ledger does not answer. -/
def JournalEntry.isUnreachable : JournalEntry → Bool
  | .unreachable _ => true
  | _ => false

/-- The credits that the drain under way has delivered, and how many of these were redeliveries. -/
def PollPhase.delivered : PollPhase → ℕ × ℕ
  | .draining delivered alreadyApplied => (delivered, alreadyApplied)
  | _ => (0, 0)

namespace PaymentsProcess

/-- The books of the counters: a credit counted as enqueued, or inherited, is counted as
acknowledged, delivered by the drain under way, or still waits; and the journal tells the same.
-/
structure Counted (p : PaymentsProcess) : Prop where
  credits
    : p.inherited + p.metrics.enqueued
      = p.metrics.acked + p.phase.delivered.1 + p.orders.unackedCreditCount
  redelivered
    : p.metrics.alreadyApplied + p.phase.delivered.2 ≤ p.metrics.acked + p.phase.delivered.1
  peak : p.metrics.peakOutbox ≤ p.inherited + p.metrics.enqueued
  acked : p.metrics.acked = (p.journal.map JournalEntry.credits).sum
  blocked : p.metrics.blocked = p.journal.countP JournalEntry.isUnreachable

/-- A process that has just started has counted nothing. -/
theorem Counted.idle (crossing : Crossing)
    : (PaymentsProcess.idle crossing).Counted where
  credits := by simp [PaymentsProcess.idle, CreditMetrics.zero, PollPhase.delivered, orders]
  redelivered := le_rfl
  peak := Nat.zero_le _
  acked := rfl
  blocked := rfl

/-- What neither moves a credit nor counts one keeps the books. -/
theorem Counted.quiet {p p' : PaymentsProcess} (counted : p.Counted)
    (inherited : p'.inherited = p.inherited) (metrics : p'.metrics = p.metrics)
    (delivered : p'.phase.delivered = p.phase.delivered)
    (waiting : p'.orders.unackedCreditCount = p.orders.unackedCreditCount)
    (credits : (p'.journal.map JournalEntry.credits).sum = (p.journal.map JournalEntry.credits).sum)
    (unreachable
      : p'.journal.countP JournalEntry.isUnreachable = p.journal.countP JournalEntry.isUnreachable)
    : p'.Counted where
  credits := by rw [inherited, metrics, delivered, waiting, counted.credits]
  redelivered := by rw [metrics, delivered]; exact counted.redelivered
  peak := by rw [inherited, metrics]; exact counted.peak
  acked := by rw [metrics, credits, counted.acked]
  blocked := by rw [metrics, unreachable, counted.blocked]

/-- One recorded outcome counts no credit. -/
theorem Counted.record {cfg : PollerConfig} {p : PaymentsProcess} (counted : p.Counted)
    (rail : String) (answer : Except String (List ReportedIncoming))
    : (p.record cfg rail answer).Counted := by
  refine counted.quiet rfl rfl rfl rfl ?_ ?_
  · unfold PaymentsProcess.record
    simp only [List.map_append, List.sum_append]
    split <;> simp [JournalEntry.credits]
  · unfold PaymentsProcess.record
    simp only [List.countP_append]
    split <;> simp [JournalEntry.isUnreachable]

/-- A settled poll counts what it enqueues. -/
theorem Counted.settlePoll {cfg : PollerConfig} {p : PaymentsProcess} (counted : p.Counted)
    (rail : PayRail) (inbounds : List ReportedIncoming) (now : ℤ)
    : (p.settlePoll cfg rail inbounds now).Counted := by
  have fresh
      : (settle (StatusProcess.incomingOf inbounds) p.orders now (cfg.settle rail)).2
        = (p.orders.enqueuedBy (pollWrites cfg rail inbounds now p.orders)).length := by
    rw [settle_writes]
    rfl
  have waiting
      : (p.settlePoll cfg rail inbounds now).orders.unackedCreditCount
        = p.orders.unackedCreditCount
          + (p.orders.enqueuedBy (pollWrites cfg rail inbounds now p.orders)).length := by
    have written
        : (p.settlePoll cfg rail inbounds now).orders
          = (pollWrites cfg rail inbounds now p.orders).foldl OrdersStore.write p.orders :=
      writes_orders p _
    rw [written]
    exact OrdersStore.unackedCreditCount_writes (fun _ member => pollWrites_settle member) _
  have enqueued
      : (p.settlePoll cfg rail inbounds now).metrics.enqueued
        = p.metrics.enqueued
          + (p.orders.enqueuedBy (pollWrites cfg rail inbounds now p.orders)).length := by
    rw [← fresh]
    rfl
  refine ⟨?_, counted.redelivered, ?_, counted.acked, counted.blocked⟩
  · rw [enqueued, waiting, ← Nat.add_assoc, ← Nat.add_assoc]
    exact congrArg (· + _) counted.credits
  · rw [enqueued]
    exact counted.peak.trans (Nat.add_le_add_left (Nat.le_add_right _ _) _)

theorem Counted.answered {cfg : PollerConfig} {p : PaymentsProcess} (counted : p.Counted)
    (rail : PayRail) (answer : Except String (List ReportedIncoming)) (now : ℤ)
    : (p.answered cfg rail answer now).Counted := by
  cases answer with
  | error reason => exact counted.record rail.name _
  | ok inbounds => exact (counted.record rail.name _).settlePoll rail inbounds now

/-- The polls with which a tick begins keep the books, and the phase; by induction on the rails. -/
theorem Counted.pollRails {cfg : PollerConfig} {p : PaymentsProcess} (counted : p.Counted)
    (clock : String → ℤ) (rails : List PayRail)
    : (p.pollRails cfg clock rails).1.Counted
      ∧ (p.pollRails cfg clock rails).1.phase = p.phase := by
  induction rails generalizing p with
  | nil => exact ⟨counted, rfl⟩
  | cons first rest ih =>
      have begun
          : (p.pollRail cfg clock first).1.Counted
            ∧ (p.pollRail cfg clock first).1.phase = p.phase := by
        unfold pollRail
        by_cases watches : p.orders.watch first = []
        · simp only [watches, if_true]
          exact ⟨counted.answered first (.ok []) (clock first.name), rfl⟩
        · simp only [watches, if_false]
          exact ⟨counted, trivial⟩
      obtain ⟨books, phase⟩ := ih begun.1
      exact ⟨books, phase.trans begun.2⟩

/-- Every move keeps the books, of a drain that awaits rows of the outbox. -/
theorem Counted.move {cfg : PollerConfig} {p p' : PaymentsProcess} {action : PollerAction}
    (counted : p.Counted) (waits : p.crossing.Draining) (moved : Move cfg p action p')
    : p'.Counted := by
  cases moved with
  | busy clock polling => exact counted
  | begun clock up idle =>
      obtain ⟨books, phase⟩ := counted.pollRails clock cfg.rails.rows
      refine books.quiet rfl rfl ?_ rfl rfl rfl
      rw [phase, idle]
      rfl
  | @answered polls rail watch answer now polling found =>
      refine (counted.answered rail answer now).quiet rfl rfl ?_ rfl rfl rfl
      have phase : (p.answered cfg rail answer now).phase = p.phase := by
        cases answer <;> rfl
      rw [phase, polling]
      rfl
  | listed now polling settled up free =>
      have credits := counted.credits
      have redelivered := counted.redelivered
      rw [polling] at credits redelivered
      refine ⟨credits, redelivered, ?_, counted.acked, counted.blocked⟩
      have waiting : p.orders.unackedCreditCount ≤ p.inherited + p.metrics.enqueued := by
        omega
      exact max_le counted.peak waiting
  | crossed seen c taken wired unwritten payments up drain =>
      refine counted.quiet rfl rfl rfl ?_ rfl rfl
      unfold orders
      rw [payments]
  | bought order maxOpen up =>
      have settles : (OrdersWrite.tryAddOrder order maxOpen).delivers = false := rfl
      exact counted.quiet rfl rfl rfl (OrdersStore.unackedCreditCount_write settles) rfl rfl
  | @acked delivered alreadyApplied now row rest copy answer applied draining drain taken bound =>
      obtain ⟨stored, unacked⟩ := (waits _ _ _ drain).2.1 row List.mem_cons_self
      have fewer := OrdersStore.unackedCreditCount_ack stored unacked now
      have credits := counted.credits
      have redelivered := counted.redelivered
      rw [draining] at credits redelivered
      simp only [PollPhase.delivered] at credits redelivered
      refine ⟨?_, ?_, counted.peak, counted.acked, counted.blocked⟩
      · show p.inherited + p.metrics.enqueued
          = p.metrics.acked + (delivered + 1)
            + (p.orders.write (.ackCredit row.idempotencyKey now)).unackedCreditCount
        unfold orders at credits ⊢
        omega
      · show p.metrics.alreadyApplied + (alreadyApplied + applied)
          ≤ p.metrics.acked + (delivered + 1)
        omega
  | @ended action delivered alreadyApplied seen now blocked draining taken wired unwritten =>
      have credits := counted.credits
      have redelivered := counted.redelivered
      rw [draining] at credits redelivered
      refine ⟨credits, redelivered, counted.peak, ?_, ?_⟩
      · unfold endTick
        simp only [counted.acked, List.map_append, List.sum_append]
        have silent : ((blocked.toList.map JournalEntry.unreachable).map JournalEntry.credits).sum
            = 0 := by
          cases blocked <;> rfl
        rw [silent]
        split
        · split <;> simp [JournalEntry.credits]
        · rename_i none
          split <;> simp [JournalEntry.credits] <;> omega
      · unfold endTick
        simp only [counted.blocked, List.countP_append]
        have told
            : (blocked.toList.map JournalEntry.unreachable).countP JournalEntry.isUnreachable
              = blocked.toList.length := by
          cases blocked <;> rfl
        rw [told]
        split <;> split <;> simp [JournalEntry.isUnreachable]
  | cutInTick clock committed up idle => exact .idle _
  | cutInAnswer inbounds now committed polling found => exact .idle _
  | crashed up => exact .idle _
  | restarted down => exact .idle _

end PaymentsProcess

end Nullsink.Payments
