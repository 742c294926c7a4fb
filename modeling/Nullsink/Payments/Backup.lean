import Nullsink.Payments.OutboxHead

/-! Backup and restore of `deploy/backup.sh` and `deploy/restore.sh`: the payments database is
copied before the ledger's, and a restored pair credits every key once.
-/

namespace Nullsink.Payments

open Relational Transition Ecma Ledger

-----------------------------------------------------------------------------------------
-- The restore
-----------------------------------------------------------------------------------------

/-- A row that restore refuses: unacknowledged without a payload to deliver, or acknowledged and
half scrubbed or negative.
-/
def CreditOutboxRow.poison (row : CreditOutboxRow) : Bool :=
  (row.ackedAt = none ∧ (row.hash = "" ∨ row.micros < 0))
  ∨ (row.ackedAt ≠ none
    ∧ ((row.hash = "" ∧ row.micros ≠ 0) ∨ (row.hash ≠ "" ∧ row.micros < 0)))

/-- A tombstone without its marker in the ledger. -/
def CreditOutboxRow.unbacked (balances : BalanceStore) (row : CreditOutboxRow) : Bool :=
  row.Tombstone ∧ (balances.appliedOrders.get? row.idempotencyKey).isSome = false

/-- The validation of the pair in an artifact that holds both databases. -/
def validatePair (pending : OrdersStore) (balances : BalanceStore) : Except String Unit :=
  let invalidRows := pending.creditOutbox.rows.countP CreditOutboxRow.poison
  let tombstones := pending.creditOutbox.rows.countP (fun row => row.Tombstone)
  let missingMarkers := pending.creditOutbox.rows.countP (CreditOutboxRow.unbacked balances)
  if invalidRows ≠ 0 then
    .error
      (s!"billing invariant FAILED: pending.db has {invalidRows} poison or partially scrubbed "
        ++ "credit-outbox row(s)")
  else if tombstones > 0 ∧ missingMarkers ≠ 0 then
    .error
      (s!"billing invariant FAILED: {missingMarkers} scrubbed credit tombstone(s) have no "
        ++ "matching ledger marker — DB snapshots are mismatched")
  else .ok ()

/-- A row as the re-arm of restore leaves it: one that kept its payload is unacknowledged again
when the restored ledger has not applied it.
-/
def rearmedFor (balances : BalanceStore) (row : CreditOutboxRow) : CreditOutboxRow :=
  if row.ackedAt ≠ none ∧ row.hash ≠ ""
    ∧ (balances.appliedOrders.get? row.idempotencyKey).isSome = false
  then { row with ackedAt := none }
  else row

def rearmOutbox (pending : OrdersStore) (balances : BalanceStore) : OrdersStore :=
  {
    pending with
    creditOutbox := pending.creditOutbox.update (rearmedFor balances) (by
      intro row
      unfold rearmedFor
      split <;> rfl)
  }

/-- `restore.sh --apply`: the pair it installs before the services start. -/
def restorePair (pending : OrdersStore) (balances : BalanceStore)
    : Except String (OrdersStore × BalanceStore) := do
  validatePair pending balances
  return (rearmOutbox pending balances, balances)

-----------------------------------------------------------------------------------------
-- Two snapshots of a run
-----------------------------------------------------------------------------------------

/-- Payments and ledger from a stop of both, whatever is enqueued; the ledger has applied every
tombstone.
-/
def services : System Crossing CrossingAction where
  initial start :=
    (∃ orders db, start = .quiet orders db)
    ∧ ∀ row ∈ start.payments.orders.creditOutbox.rows, row.Tombstone
        → start.marked row.idempotencyKey = true
  step c action c' := c.act action = some c'

/-- A credit that is applied, or waits in the outbox with its payload. -/
def Crossing.Held (c : Crossing) (credit : KeyedCredit) : Prop :=
  c.marked credit.key = true
  ∨ ∃ row ∈ c.payments.orders.creditOutbox.rows, row.ackedAt = none ∧ row.payload = credit

/-- What a pair restored from two snapshots promises: after startup every credit the first one had
is applied in the restored ledger or waits with the payload it was enqueued with; and from then on
none is lost, and no key is credited that was credited before either snapshot.
-/
structure Resumption (start captured copied : Crossing) (restored : OrdersStore × BalanceStore)
    : Prop where
  balances : restored.2 = copied.ledger.db
  startup
    : ∀ origin ∈ captured.pledges start,
        copied.marked origin.idempotencyKey = true
        ∨ ∃ row ∈ restored.1.rearmLegacyAckedCredits.creditOutbox.rows,
            row.ackedAt = none ∧ row.payload = origin.payload
  runs
    : ∀ actions resumed, services.Run (.quiet restored.1 restored.2) actions resumed
        → ((copied.credits ++ resumed.credits).map KeyedCredit.key).Nodup
          ∧ (∀ credit ∈ copied.credits ++ resumed.credits, start.marked credit.key = false)
          ∧ ∀ origin ∈ captured.pledges start, resumed.Held origin.payload

/-- What two snapshots of one run are worth, the payments store first and the ledger later. -/
structure BackupRestores (start captured copied : Crossing) : Prop where
  backed
    : ∀ row ∈ captured.payments.orders.creditOutbox.rows, row.Tombstone
        → copied.marked row.idempotencyKey = true
  accepted
    : (∀ origin ∈ captured.pledges start, origin.poison = false)
        → ∃ restored, restorePair captured.payments.orders copied.ledger.db = .ok restored
  resumption
    : ∀ restored, restorePair captured.payments.orders copied.ledger.db = .ok restored
        → Resumption start captured copied restored

-----------------------------------------------------------------------------------------
-- What restore accepts
-----------------------------------------------------------------------------------------

/-- Restore accepts a pair without poison whose tombstones are all backed by markers. -/
theorem validatePair_ok_iff {pending : OrdersStore} {balances : BalanceStore}
    : validatePair pending balances = .ok ()
      ↔ (∀ row ∈ pending.creditOutbox.rows, row.poison = false)
        ∧ ∀ row ∈ pending.creditOutbox.rows, row.Tombstone
          → (balances.appliedOrders.get? row.idempotencyKey).isSome = true := by
  have clean
      : pending.creditOutbox.rows.countP CreditOutboxRow.poison = 0
        ↔ ∀ row ∈ pending.creditOutbox.rows, row.poison = false := by
    simp [List.countP_eq_zero]
  have backed
      : pending.creditOutbox.rows.countP (CreditOutboxRow.unbacked balances) = 0
        ↔ ∀ row ∈ pending.creditOutbox.rows, row.Tombstone
          → (balances.appliedOrders.get? row.idempotencyKey).isSome = true := by
    simp [List.countP_eq_zero, CreditOutboxRow.unbacked, Option.isSome_iff_ne_none]
  -- Every row that lacks its marker is counted among the tombstones.
  have fewer
      : pending.creditOutbox.rows.countP (CreditOutboxRow.unbacked balances)
        ≤ pending.creditOutbox.rows.countP (fun row => row.Tombstone) := by
    refine List.countP_mono_left ?_
    intro row _ unbacked
    simp only [CreditOutboxRow.unbacked, Bool.decide_and, Bool.and_eq_true] at unbacked
    exact unbacked.1
  rw [← clean, ← backed, validatePair]
  split
  · rename_i poisoned
    simp [poisoned]
  · rename_i sound
    rw [not_not] at sound
    split
    · rename_i mismatched
      simp [mismatched.2]
    · rename_i matched
      simp only [true_iff]
      omega

-----------------------------------------------------------------------------------------
-- What a run keeps
-----------------------------------------------------------------------------------------

/-- No delivery takes a marker away. -/
theorem creditHistory_marks (history : History) (nowMs : ℤ) (row : CreditOutboxRow) {key : String}
    (marked : (history.db.appliedOrders.get? key).isSome = true)
    : ((creditHistory history nowMs (creditRequest row)).db.appliedOrders.get? key).isSome
      = true := by
  by_cases valid : Deliverable row
  · obtain ⟨micros, _, asked⟩ := creditCall_request valid nowMs
    simp only [creditHistory, asked]
    rcases call_creditOnce history row.hash micros row.idempotencyKey nowMs
      with ⟨_, same⟩ | ⟨fresh, _, applied⟩
    · rw [same]
      exact marked
    · rw [applied, Table.get?_append]
      split
      · rfl
      · exact marked
  · simpa [creditHistory, creditCall_undeliverable valid nowMs] using marked

/-- A marked key stays marked. -/
theorem Crossing.marked_act {c c' : Crossing} {action : CrossingAction}
    (acted : c.act action = some c') {key : String} (marked : c.marked key = true)
    : c'.marked key = true := by
  cases act_effect acted with
  | delivered nowMs found => exact creditHistory_marks c.ledger nowMs _ marked
  | worked op other => simpa [Crossing.marked, (call_other c.ledger other).2] using marked
  | _ => exact marked

/-- An action leaves the payments store, or commits one write that acknowledges only a marked
key.
-/
theorem DeliveryInvariant.act_payments {start c c' : Crossing} {action : CrossingAction}
    (inv : DeliveryInvariant start c) (acted : c.act action = some c')
    : c'.payments = c.payments
      ∨ ∃ write, c'.payments = c.payments.write write
          ∧ ∀ key atMs, write = .ackCredit key atMs → c.marked key = true := by
  cases Crossing.act_effect acted with
  | written write settles =>
      refine Or.inr ⟨write, rfl, ?_⟩
      rintro key atMs rfl
      cases settles
  | @acknowledged answer copy response now row rest given draining definite =>
      refine Or.inr ⟨.ackCredit row.idempotencyKey now, rfl, ?_⟩
      intro key atMs same
      cases same
      exact inv.acknowledged_marked given draining definite
  | restarted => exact Or.inr ⟨.rearmLegacyAckedCredits, rfl, by simp⟩
  | _ => exact Or.inl rfl

/-- A tombstone after a write was one before, or the write acknowledged its key. -/
theorem tombstone_after_write {orders : OrdersStore} {write : OrdersWrite} {row : CreditOutboxRow}
    (member : row ∈ (orders.write write).creditOutbox.rows) (tombstone : row.Tombstone)
    : (∃ before ∈ orders.creditOutbox.rows, before.Tombstone
        ∧ before.idempotencyKey = row.idempotencyKey)
      ∨ ∃ atMs, write = .ackCredit row.idempotencyKey atMs := by
  rw [orders.write_outbox write] at member
  rcases List.mem_append.mp member with old | new
  · obtain ⟨before, stored, rfl⟩ := List.mem_map.mp old
    cases write with
    | ackCredit key atMs =>
        simp only [OrdersWrite.creditAfter, OrdersStore.scrubbed] at tombstone ⊢
        split
        · rename_i own
          exact Or.inr ⟨atMs, by simp [own]⟩
        · rename_i other
          rw [if_neg other] at tombstone
          exact Or.inl ⟨before, stored, tombstone, rfl⟩
    | rearmLegacyAckedCredits =>
        simp only [OrdersWrite.creditAfter, OrdersStore.rearmed] at tombstone ⊢
        split
        · rename_i armed
          rw [if_pos armed] at tombstone
          exact (tombstone.1 rfl).elim
        · rename_i kept
          rw [if_neg kept] at tombstone
          exact Or.inl ⟨before, stored, tombstone, rfl⟩
    | _ => exact Or.inl ⟨before, stored, tombstone, rfl⟩
  · obtain ⟨settlement, _, rfl⟩ := List.mem_map.mp new
    exact (tombstone.1 rfl).elim

/-- What holds of both databases in any state of a run. -/
structure BackupInvariant (start c : Crossing) : Prop where
  delivery : DeliveryInvariant start c
  outbox : OutboxInvariant start.payments.orders c.payments
  backed
    : ∀ row ∈ c.payments.orders.creditOutbox.rows, row.Tombstone
        → c.marked row.idempotencyKey = true

theorem BackupInvariant.act {start c c' : Crossing} (inv : BackupInvariant start c)
    {action : CrossingAction} (acted : c.act action = some c')
    : BackupInvariant start c' where
  delivery := inv.delivery.act acted
  outbox := by
    rcases inv.delivery.act_payments acted with same | ⟨write, written, _⟩
    · rw [same]
      exact inv.outbox
    · rw [written]
      exact inv.outbox.write write
  backed := by
    intro row member tombstone
    refine Crossing.marked_act acted ?_
    rcases inv.delivery.act_payments acted with same | ⟨write, written, acks⟩
    · rw [same] at member
      exact inv.backed row member tombstone
    · rw [written] at member
      rcases tombstone_after_write member tombstone
        with ⟨before, stored, earlier, own⟩ | ⟨atMs, acked⟩
      · rw [← own]
        exact inv.backed before stored earlier
      · exact acks _ atMs acked

/-- The invariant holds after every run from a stop. -/
theorem services_invariant {start c : Crossing} {actions : List CrossingAction}
    (initial : services.initial start) (run : services.Run start actions c)
    : BackupInvariant start c := by
  refine run.rule (fun _ c => BackupInvariant start c) ?_ fun _ inv step => inv.act step
  obtain ⟨⟨orders, db, rfl⟩, backed⟩ := initial
  exact ⟨.quiet orders db, .begin rfl, backed⟩

/-- A held credit stays held: only a marked key is acknowledged. -/
theorem Crossing.Held.act {start c c' : Crossing} {credit : KeyedCredit} (held : c.Held credit)
    (inv : DeliveryInvariant start c) {action : CrossingAction} (acted : c.act action = some c')
    : c'.Held credit := by
  rcases held with marked | ⟨row, stored, waiting, own⟩
  · exact Or.inl (Crossing.marked_act acted marked)
  · rcases inv.act_payments acted with same | ⟨write, written, acks⟩
    · exact Or.inr ⟨row, by rw [same]; exact stored, waiting, own⟩
    · by_cases acked : ∃ atMs, write = .ackCredit row.idempotencyKey atMs
      · obtain ⟨atMs, ack⟩ := acked
        refine Or.inl (Crossing.marked_act acted ?_)
        rw [← own]
        exact acks _ atMs ack
      · refine Or.inr ⟨row, ?_, waiting, own⟩
        rw [written]
        refine OrderHistory.waits stored waiting ?_
        rintro key atMs ack rfl
        exact acked ⟨atMs, ack⟩

-----------------------------------------------------------------------------------------
-- What a restored pair promises
-----------------------------------------------------------------------------------------

/-- No write makes poison of a row that was none. -/
theorem Carries.clean {origin row : CreditOutboxRow} (carries : Carries origin row)
    (clean : origin.poison = false)
    : row.poison = false := by
  cases carries with
  | kept => exact clean
  | rearmed acked payload =>
      simp [CreditOutboxRow.poison, acked, payload] at clean ⊢
      exact clean
  | tombstone atMs => simp [CreditOutboxRow.poison]

/-- After the re-arm a row without poison whose tombstone is backed is marked, or waits. -/
theorem rearmedFor_held {balances : BalanceStore} {row : CreditOutboxRow}
    (clean : row.poison = false)
    (backed
      : row.Tombstone → (balances.appliedOrders.get? row.idempotencyKey).isSome = true)
    : (balances.appliedOrders.get? row.idempotencyKey).isSome = true
      ∨ ((rearmedFor balances row).ackedAt = none
        ∧ (rearmedFor balances row).payload = row.payload) := by
  by_cases marked : (balances.appliedOrders.get? row.idempotencyKey).isSome = true
  · exact Or.inl marked
  · refine Or.inr ?_
    by_cases acked : row.ackedAt = none
    · simp [rearmedFor, acked]
    · have payload : row.hash ≠ "" := by
        intro scrubbed
        simp [CreditOutboxRow.poison, acked, scrubbed] at clean
        exact marked (backed ⟨acked, scrubbed, clean⟩)
      simp [rearmedFor, acked, payload, marked, CreditOutboxRow.payload]

section Restored

variable {start captured copied : Crossing} {restored : OrdersStore × BalanceStore}

/-- Every pledge of the first snapshot is marked in the second, or waits in the restored outbox. -/
theorem restored_held (inv : BackupInvariant start captured)
    (accepted : restorePair captured.payments.orders copied.ledger.db = .ok restored)
    : ∀ origin ∈ captured.pledges start,
        copied.marked origin.idempotencyKey = true
        ∨ ∃ row ∈ restored.1.creditOutbox.rows,
            row.ackedAt = none ∧ row.payload = origin.payload := by
  obtain ⟨_, validated, same⟩ := Except.bind_eq_ok.mp accepted
  obtain ⟨clean, backed⟩ := validatePair_ok_iff.mp validated
  cases same
  intro origin pledged
  -- The outbox lists a row for each pledge, in order.
  have carried : ∃ row ∈ captured.payments.orders.creditOutbox.rows, Carries origin row := by
    obtain ⟨position, bound, rfl⟩ := List.mem_iff_getElem.mp pledged
    have aligned := inv.outbox.carried
    have inside : position < captured.payments.orders.creditOutbox.rows.length :=
      aligned.length_eq ▸ bound
    exact ⟨_, List.getElem_mem inside, aligned.get bound inside⟩
  obtain ⟨row, stored, carries⟩ := carried
  rcases rearmedFor_held (clean row stored) (backed row stored) with marked | ⟨waiting, payload⟩
  · exact Or.inl (carries.key ▸ marked)
  · cases carries with
    | tombstone atMs =>
        have marked := backed _ stored ⟨Option.some_ne_none atMs, rfl, rfl⟩
        exact Or.inl marked
    | kept => exact Or.inr ⟨_, List.mem_map_of_mem stored, waiting, payload⟩
    | rearmed acked kept => exact Or.inr ⟨_, List.mem_map_of_mem stored, waiting, payload⟩

/-- Runs from the restored pair, after any run to the second snapshot. -/
theorem resumption_of_accepted (inv : BackupInvariant start captured)
    (later : BackupInvariant start copied)
    (accepted : restorePair captured.payments.orders copied.ledger.db = .ok restored)
    : Resumption start captured copied restored := by
  have held := restored_held inv accepted
  have balances : restored.2 = copied.ledger.db := by
    obtain ⟨_, _, same⟩ := Except.bind_eq_ok.mp accepted
    cases same
    rfl
  exact {
    balances
    startup := by
      intro origin pledged
      refine (held origin pledged).imp_right ?_
      intro waits
      obtain ⟨row, stored, waiting, payload⟩ := waits
      refine ⟨row, List.mem_map.mpr ⟨row, stored, ?_⟩, waiting, payload⟩
      simp [OrdersStore.rearmed, waiting]
    runs := by
      intro actions resumed run
      -- The markers of the restored ledger are those of the second snapshot.
      have sameMarks (key : String)
          : (Crossing.quiet restored.1 restored.2).marked key = copied.marked key := by
        simp [Crossing.marked, Crossing.quiet, balances]
      have after
          : DeliveryInvariant (.quiet restored.1 restored.2) resumed
            ∧ ∀ origin ∈ captured.pledges start, resumed.Held origin.payload := by
        refine run.rule
          (fun _ c => DeliveryInvariant (.quiet restored.1 restored.2) c
            ∧ ∀ origin ∈ captured.pledges start, c.Held origin.payload) ?_ ?_
        · refine ⟨.quiet _ _, ?_⟩
          intro origin pledged
          refine (held origin pledged).imp_left ?_
          intro marked
          rw [sameMarks]
          exact marked
        · intro _ _ _ _ _ before step
          exact ⟨before.1.act step,
            fun origin pledged => (before.2 origin pledged).act before.1 step⟩
      have new : ∀ credit ∈ resumed.credits, copied.marked credit.key = false := by
        intro credit member
        rw [← sameMarks]
        exact after.1.creditedNew credit member
      refine ⟨?_, ?_, after.2⟩
      · rw [List.map_append, List.nodup_append]
        refine ⟨later.delivery.creditedOnce, after.1.creditedOnce, ?_⟩
        intro first earlier second member same
        obtain ⟨credit, applied, rfl⟩ := List.mem_map.mp member
        have marked := (later.delivery.marks credit.key).mpr (Or.inr (same ▸ earlier))
        rw [new credit applied] at marked
        cases marked
      · intro credit member
        rcases List.mem_append.mp member with earlier | applied
        · exact later.delivery.creditedNew credit earlier
        · by_contra before
          have marked :=
            (later.delivery.marks credit.key).mpr (Or.inl (Bool.eq_true_of_not_eq_false before))
          rw [new credit applied] at marked
          cases marked
  }

end Restored

/-- A backup that copies the payments store before the ledger restores: whatever happens before,
between and after, no key is credited twice and no pledge of the first snapshot is lost.
-/
theorem backup_restores {start captured copied : Crossing}
    {before between : List CrossingAction} (initial : services.initial start)
    (run : services.Run start before captured) (more : services.Run captured between copied)
    : BackupRestores start captured copied := by
  have inv := services_invariant initial run
  have later := services_invariant initial (run.append more)
  have backed
      : ∀ row ∈ captured.payments.orders.creditOutbox.rows, row.Tombstone
        → copied.marked row.idempotencyKey = true := by
    intro row member tombstone
    exact more.rule (fun _ c => c.marked row.idempotencyKey = true)
      (inv.backed row member tombstone) fun _ marked step => Crossing.marked_act step marked
  exact {
    backed
    accepted := by
      intro clean
      refine ⟨_, Except.bind_eq_ok.mpr ⟨(), validatePair_ok_iff.mpr ⟨?_, backed⟩, rfl⟩⟩
      intro row member
      obtain ⟨origin, original, carries⟩ := inv.outbox.origin member
      exact carries.clean (clean origin (List.mem_append.mpr original))
    resumption := fun restored accepted => resumption_of_accepted inv later accepted
  }

/-- A restart re-arms a legacy row and a new order is settled; the copy of the legacy row is
credited, and not yet acknowledged at the first snapshot.
-/
def beforeSnapshot : List CrossingAction :=
  [
    .restart,
    .write
      (.commitSettlement
        ⟨"7d0c:1", "5e884898da28047151d0e56f8dc6292773603d0d6aabbdd62a11ef721d1542d8", 300, 150,
          "monero", 98, 1000000000000, 310, 1, "monero"⟩),
    .startDrain 200,
    .send,
    .deliver 0 205
  ]

/-- Before the second snapshot both rows are acknowledged and scrubbed. -/
def betweenSnapshots : List CrossingAction :=
  [.receive 0, .send, .deliver 1 210, .receive 1, .finish]

theorem backup_restores_acknowledged
    : ∃ captured copied,
        services.Run (.quiet inheritedOrders inheritedLedger) beforeSnapshot captured
        ∧ services.Run captured betweenSnapshots copied
        ∧ (∃ restored, restorePair captured.payments.orders copied.ledger.db = .ok restored)
        ∧ BackupRestores (.quiet inheritedOrders inheritedLedger) captured copied := by
  have evaluated
      : ((Crossing.quiet inheritedOrders inheritedLedger).run? beforeSnapshot).any
          (fun captured =>
            (captured.run? betweenSnapshots).any
              (fun copied =>
                (restorePair captured.payments.orders copied.ledger.db).toOption.isSome))
        = true := by
    decide +kernel
  obtain ⟨captured, ran, evaluated⟩ := (Option.any_eq_true _ _).mp evaluated
  obtain ⟨copied, moved, evaluated⟩ := (Option.any_eq_true _ _).mp evaluated
  have accepted
      : ∃ restored, restorePair captured.payments.orders copied.ledger.db = .ok restored := by
    cases restore : restorePair captured.payments.orders copied.ledger.db with
    | ok restored => exact ⟨restored, rfl⟩
    | error thrown => simp [restore, Except.toOption] at evaluated
  have run : services.Run (.quiet inheritedOrders inheritedLedger) beforeSnapshot captured :=
    System.run_of_foldlM ran fun _ acted => acted
  have more : services.Run captured betweenSnapshots copied :=
    System.run_of_foldlM moved fun _ acted => acted
  refine ⟨captured, copied, run, more, accepted, backup_restores ⟨⟨_, _, rfl⟩, ?_⟩ run more⟩
  decide

/-- The settlement of a negative amount is poison to the restore of any later backup. -/
theorem backup_restores_poisoned
    : ∃ captured,
        services.initial (.quiet boughtOrders.orders .empty)
        ∧ services.Run (.quiet boughtOrders.orders .empty)
          (.restart
            :: ((moneroPoll (-31250000000) 31250000000).writes boughtOrders.orders).map .write)
          captured
        ∧ validatePair captured.payments.orders captured.ledger.db
          = .error
            ("billing invariant FAILED: pending.db has 1 poison or partially scrubbed "
              ++ "credit-outbox row(s)") := by
  have evaluated
      : ((Crossing.quiet boughtOrders.orders .empty).run?
          (.restart
            :: ((moneroPoll (-31250000000) 31250000000).writes boughtOrders.orders).map .write)).any
          (fun captured =>
            match validatePair captured.payments.orders captured.ledger.db with
            | .ok _ => false
            | .error text =>
                text
                  = "billing invariant FAILED: pending.db has 1 poison or partially scrubbed "
                    ++ "credit-outbox row(s)")
        = true := by
    decide +kernel
  obtain ⟨captured, ran, refused⟩ := (Option.any_eq_true _ _).mp evaluated
  refine ⟨captured, ⟨⟨_, _, rfl⟩, by simp [Crossing.quiet, boughtOrders, Table.empty]⟩,
    System.run_of_foldlM ran fun _ acted => acted, ?_⟩
  split at refused
  · cases refused
  · rename_i text thrown
    rw [thrown, of_decide_eq_true refused]

end Nullsink.Payments
