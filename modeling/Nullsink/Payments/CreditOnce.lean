import Nullsink.Ledger.ColumnContract
import Nullsink.Payments.Delivery

/-! Credits cross exactly once, and no money is lost or made on the way. -/

namespace Nullsink.Payments

open Relational Transition Ecma Ledger

-----------------------------------------------------------------------------------------
-- The invariant
-----------------------------------------------------------------------------------------

/-- An outbox as an earlier process can have left it: rows with a payload, acknowledged or not, and
tombstones of credits the ledger has applied.
-/
def Crossing.Inherited (start : Crossing) : Prop :=
  ∀ row ∈ start.payments.orders.creditOutbox.rows,
    Deliverable row ∨ row.Tombstone ∧ start.marked row.idempotencyKey = true

structure CrossingInvariant (start c : Crossing) : Prop where
  outbox : OutboxInvariant start.payments.orders c.payments
  payable
    : ∀ origin ∈ c.pledges start,
        Deliverable origin ∨ origin.Tombstone ∧ c.marked origin.idempotencyKey = true
  scrubbed
    : ∀ row ∈ c.payments.orders.creditOutbox.rows, row.hash = ""
        → c.marked row.idempotencyKey = true
  sentOwn
    : ∀ row ∈ c.sent, Deliverable row ∧ ∃ origin ∈ c.pledges start, row.payload = origin.payload
  answered
    : ∀ copy response, (copy, response) ∈ c.answers
        → ∃ row, c.sent[copy]? = some row ∧ c.marked row.idempotencyKey = true
  draining : c.Draining
  creditedOnce : (c.credits.map KeyedCredit.key).Nodup
  creditedOwn
    : ∀ credit ∈ c.credits, start.marked credit.key = false
        ∧ ∃ origin ∈ c.pledges start, origin.payload = credit
  marks
    : ∀ key, c.marked key = true
        ↔ start.marked key = true ∨ key ∈ c.credits.map KeyedCredit.key

/-- The payloads that settlements enqueue are ones the receiver's parser accepts. -/
def CrossingAction.Deliverable : CrossingAction → Prop
  | .write (.commitSettlement settlement) => Payments.Deliverable settlement.credit
  | _ => True

namespace CrossingInvariant

variable {start c : Crossing}

/-- The part of the invariant that does not depend on what is enqueued. -/
theorem delivery (inv : CrossingInvariant start c) : DeliveryInvariant start c where
  draining := inv.draining
  answered := fun copy response given _ => inv.answered copy response given
  creditedOnce := inv.creditedOnce
  creditedNew := fun credit applied => (inv.creditedOwn credit applied).1
  marks := inv.marks

/-- A row that is not acknowledged still has the payload it was enqueued with. -/
theorem unacked (inv : CrossingInvariant start c) {row : CreditOutboxRow}
    (member : row ∈ c.payments.orders.creditOutbox.rows) (waiting : row.ackedAt = none)
    : Deliverable row ∧ ∃ origin ∈ c.pledges start, row.payload = origin.payload := by
  obtain ⟨origin, original, carries⟩ := inv.outbox.origin member
  have pledged : origin ∈ c.pledges start := List.mem_append.mpr original
  cases carries with
  | kept =>
      rcases inv.payable row pledged with valid | ⟨tombstone, _⟩
      · exact ⟨valid, row, pledged, rfl⟩
      · exact (tombstone.1 waiting).elim
  | rearmed acked payload =>
      rcases inv.payable origin pledged with valid | ⟨tombstone, _⟩
      · exact ⟨valid, origin, pledged, rfl⟩
      · exact (payload tombstone.2.1).elim
  | tombstone atMs => cases waiting

/-- What a write leaves of the outbox, where it acknowledges only applied credits and enqueues
only deliverable ones.
-/
theorem write (inv : CrossingInvariant start c) (write : OrdersWrite)
    (acks : ∀ key atMs, write = .ackCredit key atMs → c.marked key = true)
    (delivers
      : ∀ settlement, c.payments.orders.enqueues write = some settlement
          → Deliverable settlement.credit)
    (up : Bool) (drain : Option Drain)
    (draining : Crossing.Draining { c with payments := c.payments.write write, up, drain })
    : CrossingInvariant start { c with payments := c.payments.write write, up, drain } := by
  have pledges
      : Crossing.pledges { c with payments := c.payments.write write, up, drain } start
        = c.pledges start ++ (c.payments.orders.enqueues write).toList.map Settlement.credit := by
    simp [Crossing.pledges, OrderHistory.write]
  have enqueued {row : CreditOutboxRow}
      (member : row ∈ (c.payments.orders.enqueues write).toList.map Settlement.credit)
      : Deliverable row := by
    obtain ⟨settlement, enqueues, rfl⟩ := List.mem_map.mp member
    exact delivers settlement (Option.mem_toList.mp enqueues)
  exact {
    outbox := inv.outbox.write write
    payable := by
      intro origin pledged
      rw [pledges] at pledged
      rcases List.mem_append.mp pledged with earlier | now
      · exact inv.payable origin earlier
      · exact Or.inl (enqueued now)
    scrubbed := by
      intro row member empty
      have rows := c.payments.orders.write_outbox write
      simp only [OrderHistory.write] at member
      rw [rows] at member
      rcases List.mem_append.mp member with old | new
      · obtain ⟨before, stored, rfl⟩ := List.mem_map.mp old
        rw [write.creditAfter_key]
        cases write with
        | ackCredit key atMs =>
            by_cases own : before.idempotencyKey = key
            · rw [own]
              exact acks key atMs rfl
            · simp only [OrdersWrite.creditAfter, OrdersStore.scrubbed, own, if_false] at empty
              exact inv.scrubbed before stored empty
        | rearmLegacyAckedCredits =>
            simp only [OrdersWrite.creditAfter, OrdersStore.rearmed] at empty
            split at empty
            · exact inv.scrubbed before stored empty
            · exact inv.scrubbed before stored empty
        | _ => exact inv.scrubbed before stored empty
      · obtain ⟨c', parsed⟩ := Option.isSome_iff_exists.mp (enqueued new)
        exact ((parseCreditRequest_body parsed).2.2.2 empty).elim
    sentOwn := by
      intro row sent
      obtain ⟨valid, origin, pledged, same⟩ := inv.sentOwn row sent
      exact ⟨valid, origin, pledges ▸ List.mem_append_left _ pledged, same⟩
    answered := inv.answered
    draining
    creditedOnce := inv.creditedOnce
    creditedOwn := by
      intro credit applied
      obtain ⟨new, origin, pledged, same⟩ := inv.creditedOwn credit applied
      exact ⟨new, origin, pledges ▸ List.mem_append_left _ pledged, same⟩
    marks := inv.marks
  }

/-- A call that applies no keyed credit keeps the invariant. -/
theorem worked (inv : CrossingInvariant start c) {ledger : History}
    (credits : ledger.log.filterMap appliedCredit? = c.ledger.log.filterMap appliedCredit?)
    (marks : ledger.db.appliedOrders = c.ledger.db.appliedOrders)
    : CrossingInvariant start { c with ledger } := by
  have after := inv.delivery.worked credits marks
  have sameCredits : Crossing.credits { c with ledger } = c.credits := credits
  have sameMarks (key : String) : Crossing.marked { c with ledger } key = c.marked key := by
    simp [Crossing.marked, marks]
  exact {
    outbox := inv.outbox
    payable := by
      intro origin pledged
      rw [sameMarks]
      exact inv.payable origin pledged
    scrubbed := by simpa only [sameMarks] using inv.scrubbed
    sentOwn := inv.sentOwn
    answered := by simpa only [sameMarks] using inv.answered
    draining := after.draining
    creditedOnce := after.creditedOnce
    creditedOwn := by
      rw [sameCredits]
      exact inv.creditedOwn
    marks := after.marks
  }

/-- A copy whose key has no marker yet is credited for the first time. -/
theorem credited (inv : CrossingInvariant start c) {row : CreditOutboxRow} (sent : row ∈ c.sent)
    {micros : ℕ} (amount : (micros : ℤ) = row.micros) {nowMs : ℤ}
    {ledger : History} (fresh : c.ledger.db.appliedOrders.get? row.idempotencyKey = none)
    (log : ledger.log = c.ledger.log ++ [.creditedOnce row.idempotencyKey row.hash micros])
    (applied
      : ledger.db.appliedOrders
        = c.ledger.db.appliedOrders.append ⟨row.idempotencyKey, nowMs⟩ fresh)
    : CrossingInvariant start { c with ledger } := by
  have credits : Crossing.credits { c with ledger } = c.credits ++ [row.payload] := by
    simp [Crossing.credits, log, appliedCredit?, amount, CreditOutboxRow.payload]
  have marks (key : String)
      : Crossing.marked { c with ledger } key = (key = row.idempotencyKey || c.marked key) := by
    simp only [Crossing.marked, applied, Table.get?_append]
    by_cases same : row.idempotencyKey = key
    · simp [same]
    · simp [same, Ne.symm same]
  have after : DeliveryInvariant start { c with ledger } :=
    inv.delivery.credited row.payload (by simp [Crossing.marked, fresh, CreditOutboxRow.payload])
      credits marks
  obtain ⟨_, origin, pledged, same⟩ := inv.sentOwn row sent
  exact {
    outbox := inv.outbox
    payable := by
      intro origin pledged
      refine (inv.payable origin pledged).imp_right ?_
      intro settled
      exact ⟨settled.1, by simp [marks, settled.2]⟩
    scrubbed := by
      intro row member empty
      simp [marks, inv.scrubbed row member empty]
    sentOwn := inv.sentOwn
    answered := by
      intro copy response given
      obtain ⟨row, found, marked⟩ := inv.answered copy response given
      exact ⟨row, found, by simp [marks, marked]⟩
    draining := after.draining
    creditedOnce := after.creditedOnce
    creditedOwn := by
      intro credit member
      refine ⟨after.creditedNew credit member, ?_⟩
      rw [credits] at member
      rcases List.mem_append.mp member with earlier | now
      · exact (inv.creditedOwn credit earlier).2
      · cases List.mem_singleton.mp now
        exact ⟨origin, pledged, same.symm⟩
    marks := after.marks
  }

/-- The receiver credits a copy of the outbox exactly when its key has no marker, and marks it. -/
theorem delivered (inv : CrossingInvariant start c) {copy : ℕ} {row : CreditOutboxRow}
    (found : c.sent[copy]? = some row) (nowMs : ℤ) (response : Response)
    : CrossingInvariant start
        {
          c with
          ledger := creditHistory c.ledger nowMs (creditRequest row)
          answers := c.answers ++ [(copy, response)]
        } := by
  have sent := List.mem_of_getElem? found
  obtain ⟨micros, amount, asked⟩ := creditCall_request (inv.sentOwn row sent).1 nowMs
  have history : creditHistory c.ledger nowMs (creditRequest row)
      = c.ledger.call (.creditOnce row.hash micros row.idempotencyKey nowMs) := by
    simp [creditHistory, asked]
  have answer {ledger : History} (inv' : CrossingInvariant start { c with ledger })
      (marked : Crossing.marked { c with ledger } row.idempotencyKey = true)
      : CrossingInvariant start { c with ledger, answers := c.answers ++ [(copy, response)] } := by
    refine { inv' with answered := ?_ }
    intro other response' given
    rcases List.mem_append.mp given with earlier | now
    · exact inv'.answered other response' earlier
    · cases List.mem_singleton.mp now
      exact ⟨row, found, marked⟩
  rw [history]
  rcases call_creditOnce c.ledger row.hash micros row.idempotencyKey nowMs
    with ⟨marked, same⟩ | ⟨fresh, log, applied⟩
  · rw [same]
    exact answer inv marked
  · refine answer (inv.credited sent amount fresh log applied) ?_
    simp [Crossing.marked, applied]

/-- Every possible action that enqueues only deliverable credits keeps the invariant. -/
theorem act (inv : CrossingInvariant start c) {action : CrossingAction} {c' : Crossing}
    (acted : c.act action = some c') (deliverable : action.Deliverable)
    : CrossingInvariant start c' := by
  have after := inv.delivery.act acted
  cases Crossing.act_effect acted with
  | written write settles =>
      refine inv.write write ?_ ?_ c.up c.drain after.draining
      · rintro key atMs rfl
        cases settles
      · intro settlement enqueues
        obtain ⟨rfl, _⟩ := OrdersStore.enqueues_eq_some_iff.mp enqueues
        exact deliverable
  | listed now => exact { inv with draining := after.draining }
  | @posted now row rest draining =>
      obtain ⟨_, waiting, _⟩ := inv.draining _ _ _ draining
      obtain ⟨stored, unacked⟩ := waiting row List.mem_cons_self
      refine { inv with sentOwn := ?_, answered := ?_, draining := after.draining }
      · intro other sent
        rcases List.mem_append.mp sent with earlier | last
        · exact inv.sentOwn other earlier
        · cases List.mem_singleton.mp last
          exact inv.unacked stored unacked
      · intro copy response given
        obtain ⟨answered, found, marked⟩ := inv.answered copy response given
        refine ⟨answered, ?_, marked⟩
        rw [List.getElem?_append_left (List.getElem?_eq_some_iff.mp found).1]
        exact found
  | delivered nowMs found => exact inv.delivered found nowMs _
  | @acknowledged answer copy response now row rest given draining definite =>
      refine inv.write (.ackCredit row.idempotencyKey now) ?_ (fun _ enqueues => by cases enqueues)
        c.up _ after.draining
      intro key atMs same
      cases same
      exact inv.delivery.acknowledged_marked given draining definite
  | stopped up => exact { inv with draining := after.draining }
  | restarted =>
      exact inv.write .rearmLegacyAckedCredits (by simp) (fun _ enqueues => by cases enqueues)
        true c.drain after.draining
  | worked op other =>
      obtain ⟨credits, marks⟩ := call_other c.ledger other
      exact inv.worked credits marks

/-- A starting state of the right shape satisfies the invariant. -/
theorem quiet {orders : OrdersStore} {db : BalanceStore}
    (inherited : (Crossing.quiet orders db).Inherited)
    : CrossingInvariant (.quiet orders db) (.quiet orders db) where
  outbox := .begin rfl
  payable := by
    intro origin pledged
    exact inherited origin (by simpa [Crossing.pledges, Crossing.quiet] using pledged)
  scrubbed := by
    intro row member empty
    rcases inherited row member with valid | ⟨_, marked⟩
    · obtain ⟨c, parsed⟩ := Option.isSome_iff_exists.mp valid
      exact ((parseCreditRequest_body parsed).2.2.2 empty).elim
    · exact marked
  sentOwn := by simp [Crossing.quiet]
  answered := by simp [Crossing.quiet]
  draining := by simp [Crossing.Draining, Crossing.quiet]
  creditedOnce := by simp [Crossing.credits, Crossing.quiet]
  creditedOwn := by simp [Crossing.credits, Crossing.quiet]
  marks := by simp [Crossing.credits, Crossing.quiet]

-----------------------------------------------------------------------------------------
-- Conservation
-----------------------------------------------------------------------------------------

/-- No two pledges share a key. -/
theorem pledges_nodup (inv : CrossingInvariant start c)
    : ((c.pledges start).map CreditOutboxRow.idempotencyKey).Nodup := by
  have once := inv.outbox.enqueuedOnce
  simpa [Crossing.pledges, Settlement.credit, Function.comp_def] using once

theorem pledge_eq (inv : CrossingInvariant start c) {first second : CreditOutboxRow}
    (firstPledged : first ∈ c.pledges start) (secondPledged : second ∈ c.pledges start)
    (same : first.idempotencyKey = second.idempotencyKey)
    : first = second :=
  List.inj_on_of_nodup_map inv.pledges_nodup firstPledged secondPledged same

/-- The credits of the ledger are the pledges whose keys it credited, in some order. -/
theorem credits_perm (inv : CrossingInvariant start c)
    : ((c.pledges start).filter
          (fun origin => origin.idempotencyKey ∈ c.credits.map KeyedCredit.key)
        |>.map CreditOutboxRow.payload).Perm c.credits := by
  refine (List.perm_ext_iff_of_nodup ?_ (.of_map _ inv.creditedOnce)).mpr ?_
  · refine List.Nodup.of_map KeyedCredit.key ?_
    rw [List.map_map]
    exact (List.filter_sublist.map _).nodup inv.pledges_nodup
  · intro credit
    simp only [List.mem_map, List.mem_filter, decide_eq_true_eq]
    constructor
    · intro found
      obtain ⟨origin, ⟨pledged, applied, member, sameKey⟩, payload⟩ := found
      obtain ⟨_, other, otherPledged, otherPayload⟩ := inv.creditedOwn applied member
      have same : other = origin :=
        inv.pledge_eq otherPledged pledged (by rw [← sameKey, ← otherPayload]; rfl)
      rw [← payload, ← same, otherPayload]
      exact member
    · intro member
      obtain ⟨_, origin, pledged, payload⟩ := inv.creditedOwn credit member
      exact ⟨origin, ⟨pledged, credit, member, by rw [← payload]; rfl⟩, payload⟩

/-- What waits in the outbox is what was pledged and has no marker. -/
theorem undelivered_eq (inv : CrossingInvariant start c) (hash : String)
    : c.undelivered hash
      = ((c.pledges start).map
          (fun origin =>
            if c.marked origin.idempotencyKey then 0 else origin.payload.amount hash)).sum := by
  have along {origins rows : List CreditOutboxRow} (carried : List.Forall₂ Carries origins rows)
      (scrubbed : ∀ row ∈ rows, row.hash = "" → c.marked row.idempotencyKey = true)
      : (rows.map
          (fun row => if c.marked row.idempotencyKey then 0 else row.payload.amount hash)).sum
        = (origins.map
          (fun origin =>
            if c.marked origin.idempotencyKey then 0 else origin.payload.amount hash)).sum := by
    induction carried with
    | nil => rfl
    | cons first _ ih =>
        obtain ⟨head, rest⟩ := List.forall_mem_cons.mp scrubbed
        rw [List.map_cons, List.map_cons, List.sum_cons, List.sum_cons, ih rest]
        congr 1
        cases first with
        | kept => rfl
        | rearmed acked payload => rfl
        | tombstone atMs => simp [show c.marked _ = true from head rfl]
  exact along inv.outbox.carried inv.scrubbed

theorem conserved (inv : CrossingInvariant start c) (hash : String)
    : c.pledged start hash
      = c.credited hash + c.undelivered hash + c.settledBefore start hash := by
  have split (origins : List CreditOutboxRow)
      : (origins.map (fun origin => origin.payload.amount hash)).sum
        = ((origins.filter
              (fun origin => origin.idempotencyKey ∈ c.credits.map KeyedCredit.key)).map
            (fun origin => origin.payload.amount hash)).sum
          + (origins.map
              (fun origin =>
                if c.marked origin.idempotencyKey then 0 else origin.payload.amount hash)).sum
          + (origins.map
              (fun origin =>
                if start.marked origin.idempotencyKey then origin.payload.amount hash
                else 0)).sum := by
    induction origins with
    | nil => rfl
    | cons origin rest ih =>
        simp only [List.map_cons, List.sum_cons, List.filter_cons, ih]
        have marks := inv.marks origin.idempotencyKey
        by_cases applied : origin.idempotencyKey ∈ c.credits.map KeyedCredit.key
        · obtain ⟨credit, member, same⟩ := List.mem_map.mp applied
          have new := (inv.creditedOwn credit member).1
          rw [same] at new
          simp only [applied, or_true, iff_true] at marks
          simp only [applied, decide_true, if_true, List.map_cons, List.sum_cons, marks, new,
            Bool.false_eq_true, if_false]
          ring
        · simp only [applied, or_false] at marks
          by_cases before : start.marked origin.idempotencyKey = true
          · simp only [applied, decide_false, Bool.false_eq_true, if_false, marks.mpr before,
              if_true, before]
            ring
          · have unmarked := mt marks.mp before
            simp only [applied, decide_false, Bool.false_eq_true, if_false, unmarked, before]
            ring
  have crossed := (inv.credits_perm.map (KeyedCredit.amount hash)).sum_eq
  rw [List.map_map] at crossed
  rw [Crossing.pledged, split, Crossing.credited, inv.undelivered_eq, Crossing.settledBefore,
    ← crossed]
  rfl

end CrossingInvariant

-----------------------------------------------------------------------------------------
-- The contract of the crossing
-----------------------------------------------------------------------------------------

/-- Payments and ledger over any network, from an outbox an earlier process left. -/
def crossing : System Crossing CrossingAction where
  initial start := start.Inherited ∧ ∃ orders db, start = .quiet orders db
  step c action c' := c.act action = some c' ∧ action.Deliverable

/-- What holds of the crossing in any state of any run. -/
structure CreditCrossing (start c : Crossing) : Prop where
  creditedOnce : (c.credits.map KeyedCredit.key).Nodup
  creditedFirst
    : ∀ credit ∈ c.credits, start.marked credit.key = false
        ∧ ∃ origin ∈ c.pledges start, origin.payload = credit
            ∧ ∀ other ∈ c.pledges start, other.idempotencyKey = credit.key → other = origin
  tombstones
    : ∀ row ∈ c.payments.orders.creditOutbox.rows, row.hash = ""
        → c.marked row.idempotencyKey = true
  unacked
    : ∀ row ∈ c.payments.orders.creditOutbox.rows, row.ackedAt = none
        → row.hash ≠ "" ∧ ∃ origin ∈ c.pledges start, row.payload = origin.payload
  neverRearmed
    : ∀ action c', c.act action = some c'
        → ∀ row ∈ c.payments.orders.creditOutbox.rows, row.hash = ""
        → row.ackedAt ≠ none
          ∧ ∃ row' ∈ c'.payments.orders.creditOutbox.rows,
              row'.idempotencyKey = row.idempotencyKey ∧ row'.hash = "" ∧ row'.ackedAt ≠ none
  neverSent
    : ∀ action c', c.act action = some c'
        → c'.sent = c.sent
          ∨ ∃ row ∈ c.payments.orders.creditOutbox.rows, c'.sent = c.sent ++ [row]
              ∧ row.ackedAt = none ∧ row.hash ≠ ""
  conserved
    : ∀ hash, c.pledged start hash
        = c.credited hash + c.undelivered hash + c.settledBefore start hash
  balances
    : ∀ hash, tokenBalance c.ledger.db.tokens hash
        = tokenBalance start.ledger.db.tokens hash + c.credited hash + c.moved hash
  columns : start.ledger.db.Legacy → CountsExactly start.ledger.db c.ledger

/-- The ledger of a crossing changes by its calls only. -/
theorem reached_act {start : BalanceStore} {c c' : Crossing} {action : CrossingAction}
    (reached : c.ledger.Reached start) (acted : c.act action = some c')
    : c'.ledger.Reached start := by
  cases Crossing.act_effect acted with
  | delivered nowMs found => exact reached_creditHistory reached nowMs _
  | worked op other => exact reached.call op
  | _ => exact reached

/-- A tombstone stays one through every write. -/
theorem tombstone_write {h : OrderHistory} {row : CreditOutboxRow}
    (member : row ∈ h.orders.creditOutbox.rows) (empty : row.hash = "") (acked : row.ackedAt ≠ none)
    (write : OrdersWrite)
    : ∃ row' ∈ (h.write write).orders.creditOutbox.rows,
        row'.idempotencyKey = row.idempotencyKey ∧ row'.hash = "" ∧ row'.ackedAt ≠ none := by
  refine ⟨write.creditAfter row, ?_, write.creditAfter_key row, ?_⟩
  · simp only [OrderHistory.write]
    rw [h.orders.write_outbox write]
    exact List.mem_append_left _ (List.mem_map_of_mem member)
  · cases write with
    | ackCredit key atMs =>
        simp only [OrdersWrite.creditAfter, OrdersStore.scrubbed]
        split
        · exact ⟨rfl, by simp⟩
        · exact ⟨empty, acked⟩
    | rearmLegacyAckedCredits =>
        simpa [OrdersWrite.creditAfter, OrdersStore.rearmed, empty] using acked
    | _ => exact ⟨empty, acked⟩

/-- Every state of every run meets the contract. -/
theorem credit_crossing {start c : Crossing} {actions : List CrossingAction}
    (initial : crossing.initial start) (run : crossing.Run start actions c)
    : CreditCrossing start c := by
  have inv : CrossingInvariant start c := by
    refine run.rule (fun _ c => CrossingInvariant start c) ?_ ?_
    · obtain ⟨inherited, orders, db, rfl⟩ := initial
      exact .quiet inherited
    · intro _ _ action _ _ inv step
      exact inv.act step.1 step.2
  have reached : c.ledger.Reached start.ledger.db := by
    refine run.rule (fun _ c => c.ledger.Reached start.ledger.db) ?_ ?_
    · obtain ⟨_, orders, db, rfl⟩ := initial
      exact .start db
    · intro _ _ _ _ _ before step
      exact reached_act before step.1
  have payload {row : CreditOutboxRow} (member : row ∈ c.payments.orders.creditOutbox.rows)
      (waiting : row.ackedAt = none)
      : row.hash ≠ "" := by
    obtain ⟨parsed, some⟩ := Option.isSome_iff_exists.mp (inv.unacked member waiting).1
    exact (parseCreditRequest_body some).2.2.2
  exact {
    creditedOnce := inv.creditedOnce
    creditedFirst := by
      intro credit member
      obtain ⟨new, origin, pledged, same⟩ := inv.creditedOwn credit member
      refine ⟨new, origin, pledged, same, ?_⟩
      intro other otherPledged sameKey
      refine inv.pledge_eq otherPledged pledged ?_
      rw [sameKey, ← same]
      rfl
    tombstones := inv.scrubbed
    unacked := fun row member waiting => ⟨payload member waiting, (inv.unacked member waiting).2⟩
    neverRearmed := by
      intro action c' acted row member empty
      have acked : row.ackedAt ≠ none := fun waiting => payload member waiting empty
      refine ⟨acked, ?_⟩
      cases Crossing.act_effect acted with
      | written write settles => exact tombstone_write member empty acked write
      | acknowledged given draining definite => exact tombstone_write member empty acked _
      | restarted => exact tombstone_write member empty acked _
      | _ => exact ⟨row, member, rfl, empty, acked⟩
    neverSent := by
      intro action c' acted
      cases Crossing.act_effect acted with
      | posted draining =>
          obtain ⟨_, waiting, _⟩ := inv.draining _ _ _ draining
          obtain ⟨stored, unacked⟩ := waiting _ List.mem_cons_self
          exact Or.inr ⟨_, stored, rfl, unacked, payload stored unacked⟩
      | _ => exact Or.inl rfl
    conserved := inv.conserved
    balances := by
      intro hash
      rw [reached.moved, c.ledger_moved, add_assoc]
    columns := fun legacy => reached.countsExactly legacy
  }

/-- A legacy row that was acknowledged with its payload, and the tombstone of an older credit. -/
def inheritedOrders : OrdersStore :=
  {
    OrdersStore.empty with
    creditOutbox :=
      ⟨[
        ⟨"2b1e:4", "5e884898da28047151d0e56f8dc6292773603d0d6aabbdd62a11ef721d1542d8", 700, 10,
          some 20⟩,
        ⟨"9af0:1", "", 0, 5, some 8⟩
      ], by decide⟩
  }

def inheritedLedger : BalanceStore :=
  { BalanceStore.empty with appliedOrders := ⟨[⟨"9af0:1", 7⟩], by decide⟩ }

/-- A restart re-arms the legacy row; its first answer is lost and the process dies; a new one
settles another order and delivers both, the legacy row for the third time.
-/
def crossedTwice : List CrossingAction :=
  [
    .restart,
    .startDrain 100,
    .send,
    .deliver 0 110,
    .crash,
    .restart,
    .write
      (.commitSettlement
        ⟨"7d0c:1", "5e884898da28047151d0e56f8dc6292773603d0d6aabbdd62a11ef721d1542d8", 300, 150,
          "monero", 98, 1000000000000, 310, 1, "monero"⟩),
    .startDrain 200,
    .send,
    .deliver 1 210,
    .receive 1,
    .send,
    .deliver 0 215,
    .deliver 2 220,
    .receive 3,
    .finish
  ]

instance (action : CrossingAction) : Decidable action.Deliverable := by
  unfold CrossingAction.Deliverable
  split <;> infer_instance

theorem credit_crossing_restarted
    : CreditCrossing (.quiet inheritedOrders inheritedLedger)
        (((Crossing.quiet inheritedOrders inheritedLedger).run? crossedTwice).get
          (by decide +kernel)) :=
  credit_crossing ⟨by unfold Crossing.Inherited; decide +kernel, _, _, rfl⟩
    (System.run_of_foldlM (Option.some_get _).symm fun member acted =>
      ⟨acted, (show ∀ action ∈ crossedTwice, action.Deliverable by decide +kernel) _ member⟩)

end Nullsink.Payments
