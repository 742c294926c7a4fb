import Nullsink.Lib.RoundingOrder
import Nullsink.Payments.Accounting
import Nullsink.Payments.CreditOnce
import Nullsink.Payments.Rails

/-! The head of the outbox: what a poll can enqueue of what its rail reports, and the drain that
delivers it to a ledger that answers.
-/

namespace Nullsink.Payments

open Relational Transition Ecma Ledger

-----------------------------------------------------------------------------------------
-- The drain
-----------------------------------------------------------------------------------------

structure DrainReport where
  delivered : ℕ
  alreadyApplied : ℕ
  blocked : Option String
  deriving DecidableEq

/-- One credit to a ledger that answers at once. -/
def sendCredit (nowMs : ℤ) (db : BalanceStore) (c : CreditOutboxRow)
    : DeliveryResult × BalanceStore :=
  let (response, credited) := createCreditHandler db nowMs (creditRequest c)
  (deliveryResult response, credited)

/-- The loop of the drain: it acknowledges on a definite result and stops at any other. -/
def drainRows (send : BalanceStore → CreditOutboxRow → DeliveryResult × BalanceStore) (now : ℤ)
    : List CreditOutboxRow → OrdersStore → BalanceStore → DrainReport
      → DrainReport × OrdersStore × BalanceStore
  | [], orders, db, report => (report, orders, db)
  | c :: rest, orders, db, report =>
      match send db c with
      | (.ambiguous reason, db') => ({ report with blocked := some reason }, orders, db')
      | (.alreadyApplied, db') =>
          drainRows send now rest (orders.ackCredit c.idempotencyKey now) db'
            {
              report with
              delivered := report.delivered + 1
              alreadyApplied := report.alreadyApplied + 1
            }
      | (.applied, db') =>
          drainRows send now rest (orders.ackCredit c.idempotencyKey now) db'
            { report with delivered := report.delivered + 1 }

/-- `drainCreditOutboxOverSocket`, with the store and the ledger it leaves. -/
def drainCreditOutboxOverSocket
    (send : BalanceStore → CreditOutboxRow → DeliveryResult × BalanceStore) (orders : OrdersStore)
    (db : BalanceStore) (now : ℤ)
    : DrainReport × OrdersStore × BalanceStore :=
  drainRows send now orders.listUnackedCredits orders db ⟨0, 0, none⟩

/-- A ledger that answers has a definite answer for every row its parser accepts. -/
theorem sendCredit_definite {row : CreditOutboxRow} (valid : Deliverable row) (nowMs : ℤ)
    (db : BalanceStore) (reason : String)
    : (sendCredit nowMs db row).1 ≠ .ambiguous reason := by
  obtain ⟨micros, _, call⟩ := creditCall_request valid nowMs
  cases taken : db.creditOnce row.hash micros row.idempotencyKey nowMs with
  | mk applied credited =>
      simp only [sendCredit, createCreditHandler, call, BalanceStore.apply, taken,
        deliveryResult_creditAnswer]
      split <;> simp

/-- After a definite result the drain acknowledges the row and goes on. -/
theorem drainRows_cons {send : BalanceStore → CreditOutboxRow → DeliveryResult × BalanceStore}
    {db : BalanceStore} {c : CreditOutboxRow}
    (definite : ∀ reason, (send db c).1 ≠ .ambiguous reason) (now : ℤ)
    (rest : List CreditOutboxRow) (orders : OrdersStore) (report : DrainReport)
    : ∃ report', report'.blocked = report.blocked ∧ report'.delivered = report.delivered + 1
        ∧ drainRows send now (c :: rest) orders db report
          = drainRows send now rest (orders.ackCredit c.idempotencyKey now) (send db c).2
            report' := by
  cases sent : send db c with
  | mk result credited =>
      rw [sent] at definite
      cases result with
      | ambiguous reason => exact (definite reason rfl).elim
      | applied => exact ⟨{ report with delivered := report.delivered + 1 }, rfl, rfl, by
          simp only [drainRows, sent]⟩
      | alreadyApplied =>
          refine ⟨{ report with delivered := report.delivered + 1,
                                alreadyApplied := report.alreadyApplied + 1 }, rfl, rfl, ?_⟩
          simp only [drainRows, sent]

/-- A row that waits after an acknowledgement waited before, under another key. -/
theorem waiting_after_ack {orders : OrdersStore} {key : String} {now : ℤ} {row : CreditOutboxRow}
    (waiting : row ∈ (orders.ackCredit key now).listUnackedCredits)
    : row ∈ orders.listUnackedCredits ∧ row.idempotencyKey ≠ key := by
  obtain ⟨member, unacked⟩ := OrdersStore.mem_listUnackedCredits.mp waiting
  obtain ⟨before, stored, rfl⟩ := List.mem_map.mp member
  by_cases own : before.idempotencyKey = key
  · simp [OrdersStore.scrubbed, own] at unacked
  · simp only [OrdersStore.scrubbed, own, if_false] at unacked ⊢
    exact ⟨OrdersStore.mem_listUnackedCredits.mpr ⟨stored, unacked⟩, own⟩

/-- The drain of deliverable rows is not blocked, and no row it was given waits any more; by
induction on the rows.
-/
theorem drainRows_deliverable (nowMs now : ℤ) {rows : List CreditOutboxRow}
    (valid : ∀ row ∈ rows, Deliverable row) (orders : OrdersStore) (db : BalanceStore)
    {report : DrainReport} (free : report.blocked = none)
    : (drainRows (sendCredit nowMs) now rows orders db report).1.blocked = none
      ∧ (drainRows (sendCredit nowMs) now rows orders db report).1.delivered
        = report.delivered + rows.length
      ∧ ∀ row ∈ (drainRows (sendCredit nowMs) now rows orders db report).2.1.listUnackedCredits,
          row ∈ orders.listUnackedCredits
          ∧ row.idempotencyKey ∉ rows.map CreditOutboxRow.idempotencyKey := by
  induction rows generalizing orders db report with
  | nil => exact ⟨free, rfl, fun row waiting => ⟨waiting, by simp⟩⟩
  | cons c rest ih =>
      obtain ⟨first, others⟩ := List.forall_mem_cons.mp valid
      obtain ⟨report', blocked, delivered, same⟩ :=
        drainRows_cons (sendCredit_definite first nowMs db) now rest orders report
      obtain ⟨unblocked, counted, left⟩ :=
        ih others (orders.ackCredit c.idempotencyKey now) (sendCredit nowMs db c).2
          (blocked.trans free)
      rw [same]
      refine ⟨unblocked, ?_, ?_⟩
      · rw [counted, delivered, List.length_cons]
        omega
      · intro row waiting
        obtain ⟨listed, absent⟩ := left row waiting
        obtain ⟨before, other⟩ := waiting_after_ack listed
        refine ⟨before, ?_⟩
        rw [List.map_cons, List.mem_cons, not_or]
        exact ⟨other, absent⟩

/-- A drain whose rows are all deliverable empties the outbox. -/
theorem drain_deliverable (nowMs now : ℤ) {orders : OrdersStore}
    (valid : ∀ row ∈ orders.listUnackedCredits, Deliverable row) (db : BalanceStore)
    : let (report, drained, _) := drainCreditOutboxOverSocket (sendCredit nowMs) orders db now
      report.blocked = none ∧ report.delivered = orders.listUnackedCredits.length
      ∧ drained.listUnackedCredits = [] := by
  have empty : (⟨0, 0, none⟩ : DrainReport).blocked = none := rfl
  obtain ⟨unblocked, counted, left⟩ := drainRows_deliverable nowMs now valid orders db empty
  refine ⟨unblocked, counted.trans (Nat.zero_add _), List.eq_nil_iff_forall_not_mem.mpr ?_⟩
  intro row waiting
  obtain ⟨listed, absent⟩ := left row waiting
  exact absent (List.mem_map_of_mem listed)

-----------------------------------------------------------------------------------------
-- The payments a tick can credit
-----------------------------------------------------------------------------------------

/-- An order as `/buy` opens it. -/
structure PendingOrder.Bought (order : PendingOrder) : Prop where
  hash : hashHex order.hash = true
  creditMicros : 0 ≤ order.creditMicros
  expectedAtomic : 0 < order.expectedAtomic

/-- A payment to an order under a key. The key has at most 200 code units, and the order's credit
times the share that was received, as the double nearest to it, lies between the last value that
is not credited as a negative amount and the first one that is no safe integer.
-/
structure PaymentWithinBounds (order : PendingOrder) (key : String) (received : ℚ) : Prop where
  key : Json.stringLength key ≤ 200
  below : -(1 / 2 + 1 / 2 ^ 54)
    ≤ order.creditMicros * Binary64.round (received / order.expectedAtomic)
  above : order.creditMicros * Binary64.round (received / order.expectedAtomic) < 2 ^ 53 - 1 / 2

/-- Every payment to an open order under a new key is within bounds: the outputs reported final
under one key pay the order that the first of them names.
-/
def WithinBounds (orders : OrdersStore) (rail : String) (inbounds : List Incoming) : Prop :=
  ∀ key first order,
    orders.creditOutbox.get? key = none
    → (creditableUnder (orders.openOrder rail) inbounds key).head? = some first
    → orders.openOrder rail first.orderIndex = some order
    → PaymentWithinBounds order key
        (doubleSum
          ((creditableUnder (orders.openOrder rail) inbounds key).map Incoming.amount))

/-- What the receiver's parser accepts of a row. -/
theorem deliverable_iff {row : CreditOutboxRow}
    : Deliverable row
      ↔ hashHex row.hash = true ∧ 0 ≤ row.micros ∧ row.micros ≤ 2 ^ 53 - 1
        ∧ row.idempotencyKey ≠ "" ∧ Json.stringLength row.idempotencyKey ≤ 200 := by
  have fields
      : parseCreditRequest (creditBody row)
        = ((some row.hash).filter hashHex).bind fun hash =>
            ((Number.ofInt row.micros).safeInteger?.filter (fun amount => 0 ≤ amount)).bind
              fun micros =>
                ((some row.idempotencyKey).filter
                  (fun key => key ≠ "" ∧ Json.stringLength key ≤ 200)).bind
                  fun key => some ⟨hash, micros.toNat, key⟩ :=
    rfl
  rw [Deliverable, fields]
  constructor
  · intro accepted
    obtain ⟨request, parsed⟩ := Option.isSome_iff_exists.mp accepted
    obtain ⟨hash, hashed, parsed⟩ := Option.bind_eq_some_iff.mp parsed
    obtain ⟨micros, amount, parsed⟩ := Option.bind_eq_some_iff.mp parsed
    obtain ⟨key, named, _⟩ := Option.bind_eq_some_iff.mp parsed
    obtain ⟨own, hex⟩ := Option.filter_eq_some_iff.mp hashed
    obtain ⟨same, short⟩ := Option.filter_eq_some_iff.mp named
    cases own
    cases same
    obtain ⟨nonneg, bound⟩ :=
      (Number.filter_safeInteger?_ofInt row.micros).mp
        (Option.isSome_iff_exists.mpr ⟨micros, amount⟩)
    exact ⟨hex, nonneg, bound, of_decide_eq_true short⟩
  · rintro ⟨hex, nonneg, bound, short⟩
    obtain ⟨micros, amount⟩ :=
      Option.isSome_iff_exists.mp
        ((Number.filter_safeInteger?_ofInt row.micros).mpr ⟨nonneg, bound⟩)
    have hashed : (some row.hash).filter hashHex = some row.hash :=
      Option.filter_eq_some_iff.mpr ⟨rfl, hex⟩
    have named
        : (some row.idempotencyKey).filter
              (fun key => decide (key ≠ "" ∧ Json.stringLength key ≤ 200))
            = some row.idempotencyKey :=
      Option.filter_eq_some_iff.mpr ⟨rfl, decide_eq_true short⟩
    rw [hashed, amount, named]
    rfl

/-- The credit of an order as bought can be delivered exactly when its payment is within bounds. -/
theorem settlementFor_deliverable_iff {order : PendingOrder} (bought : order.Bought) (now : ℤ)
    (cfg : SettleConfig) {g : CreditGroup} (named : g.idempotencyKey ≠ "")
    : Deliverable (settlementFor now cfg g order).credit
      ↔ PaymentWithinBounds order g.idempotencyKey g.amount := by
  have credit
      : (settlementFor now cfg g order).credit
        = ⟨g.idempotencyKey, order.hash,
            Binary64.mathRound
              (Binary64.round
                (order.creditMicros * Binary64.round (g.amount / order.expectedAtomic))),
            now, none⟩ :=
    rfl
  rw [credit, deliverable_iff]
  constructor
  · intro valid
    obtain ⟨_, nonneg, safe, _, short⟩ := valid
    exact ⟨short, (Binary64.mathRound_round_nonneg_iff _).mp nonneg,
      (Binary64.mathRound_round_le_iff _).mp safe⟩
  · intro within
    exact ⟨bought.hash, (Binary64.mathRound_round_nonneg_iff _).mpr within.below,
      (Binary64.mathRound_round_le_iff _).mpr within.above, named, within.key⟩

-----------------------------------------------------------------------------------------
-- What a tick enqueues
-----------------------------------------------------------------------------------------

/-- A key is new in the outbox after a write exactly when it was new before, and the write commits
no settlement under it.
-/
theorem OrdersStore.write_fresh_iff {orders : OrdersStore} {write : OrdersWrite} {key : String}
    : (orders.write write).creditOutbox.get? key = none
      ↔ orders.creditOutbox.get? key = none
        ∧ ∀ settlement, orders.enqueues write = some settlement → settlement.key ≠ key := by
  simp only [Table.get?_eq_none_iff, orders.write_outbox write]
  constructor
  · intro absent
    refine ⟨?_, ?_⟩
    · intro row member
      have kept := absent _ (List.mem_append_left _ (List.mem_map_of_mem member))
      rwa [write.creditAfter_key] at kept
    · intro settlement enqueued
      exact absent settlement.credit (List.mem_append_right _ (by simp [enqueued]))
  · intro absent row member
    rcases List.mem_append.mp member with old | new
    · obtain ⟨before, stored, rfl⟩ := List.mem_map.mp old
      rw [write.creditAfter_key]
      exact absent.1 before stored
    · obtain ⟨settlement, enqueued, rfl⟩ := List.mem_map.mp new
      exact absent.2 settlement (Option.mem_toList.mp enqueued)

/-- A credit that writes enqueue has a key that was new before them; by induction on the writes. -/
theorem OrdersStore.fresh_of_mem_enqueuedBy {orders : OrdersStore} {writes : List OrdersWrite}
    {settlement : Settlement} (enqueued : settlement ∈ orders.enqueuedBy writes)
    : orders.creditOutbox.get? settlement.key = none := by
  induction writes generalizing orders with
  | nil => cases enqueued
  | cons write rest ih =>
      rcases List.mem_append.mp enqueued with now | later
      · exact (enqueues_eq_some_iff.mp (Option.mem_toList.mp now)).2
      · exact (write_fresh_iff.mp (ih later)).1

/-- A settlement under a new key is enqueued when no other among the writes has its key; by
induction on the writes.
-/
theorem OrdersStore.mem_enqueuedBy {orders : OrdersStore} {writes : List OrdersWrite}
    {settlement : Settlement} (committed : .commitSettlement settlement ∈ writes)
    (alone
      : ∀ other, .commitSettlement other ∈ writes → other.key = settlement.key
          → other = settlement)
    (fresh : orders.creditOutbox.get? settlement.key = none)
    : settlement ∈ orders.enqueuedBy writes := by
  induction writes generalizing orders with
  | nil => cases committed
  | cons write rest ih =>
      by_cases now : orders.enqueues write = some settlement
      · exact List.mem_append_left _ (by simp [now])
      · refine List.mem_append_right _ (ih ?_ ?_ ?_)
        · rcases List.mem_cons.mp committed with rfl | later
          · exact (now (enqueues_eq_some_iff.mpr ⟨rfl, fresh⟩)).elim
          · exact later
        · exact fun other member => alone other (List.mem_cons_of_mem _ member)
        · refine write_fresh_iff.mpr ⟨fresh, ?_⟩
          intro other enqueued same
          have first : other ∈ orders.enqueuedBy [write] := by simp [enqueuedBy, enqueued]
          have written := List.mem_singleton.mp (commit_of_mem_enqueuedBy first)
          cases alone other (written ▸ List.mem_cons_self) same
          exact now enqueued

section Tick

variable {inbounds : List Incoming} {orders : OrdersStore} {now : ℤ} {cfg : SettleConfig}

/-- A tick enqueues what it settles under new keys. -/
theorem mem_enqueuedBy_settleWrites {settlement : Settlement}
    : settlement ∈ orders.enqueuedBy (settleWrites inbounds orders now cfg)
      ↔ settlement ∈ settlements inbounds orders now cfg
        ∧ orders.creditOutbox.get? settlement.key = none := by
  constructor
  · intro enqueued
    exact ⟨settlement_of_commit (OrdersStore.commit_of_mem_enqueuedBy enqueued),
      OrdersStore.fresh_of_mem_enqueuedBy enqueued⟩
  · intro settled
    refine OrdersStore.mem_enqueuedBy ?_ ?_ settled.2
    · exact mem_settleWrites.mpr (Or.inr (Or.inl ⟨settlement, settled.1, rfl⟩))
    · intro other written same
      exact List.inj_on_of_nodup_map (settlements_keys_nodup inbounds orders now cfg)
        (settlement_of_commit written) settled.1 same

/-- A settlement within bounds of an order as bought can be delivered. -/
theorem WithinBounds.deliverable (within : WithinBounds orders cfg.railName inbounds)
    (bought : ∀ order ∈ orders.pendingOrders.rows, order.Bought)
    (named : ∀ t ∈ inbounds, t.idempotencyKey ≠ "") {settlement : Settlement}
    (settled : settlement ∈ settlements inbounds orders now cfg)
    (fresh : orders.creditOutbox.get? settlement.key = none)
    : Deliverable settlement.credit := by
  obtain ⟨key, first, order, head, found, expects, rfl⟩ := mem_settlements.mp settled
  obtain ⟨reported, _, own⟩ := mem_creditableUnder.mp (List.mem_of_mem_head? head)
  have stored := found
  rw [OrdersStore.openOrder_eq] at stored
  exact (settlementFor_deliverable_iff (bought order (Table.mem_of_get? stored)) now cfg
    (own ▸ named first reported)).mpr (within key first order fresh head found)

/-- All that a tick enqueues can be delivered exactly when its payments are within bounds. -/
theorem settle_deliverable_iff (bought : ∀ order ∈ orders.pendingOrders.rows, order.Bought)
    (named : ∀ t ∈ inbounds, t.idempotencyKey ≠ "")
    : (∀ settlement ∈ orders.enqueuedBy (settleWrites inbounds orders now cfg),
        Deliverable settlement.credit)
      ↔ WithinBounds orders cfg.railName inbounds := by
  constructor
  · intro valid key first order fresh head found
    have stored := found
    rw [OrdersStore.openOrder_eq] at stored
    have sold := bought order (Table.mem_of_get? stored)
    obtain ⟨reported, _, own⟩ := mem_creditableUnder.mp (List.mem_of_mem_head? head)
    have settled
        : settlementFor now cfg
            ⟨key, first.orderIndex,
              doubleSum ((creditableUnder (orders.openOrder cfg.railName) inbounds key).map
                Incoming.amount)⟩
            order ∈ settlements inbounds orders now cfg :=
      mem_settlements.mpr ⟨key, first, order, head, found, sold.expectedAtomic, rfl⟩
    have enqueued := mem_enqueuedBy_settleWrites.mpr ⟨settled, fresh⟩
    exact (settlementFor_deliverable_iff sold now cfg (own ▸ named first reported)).mp
      (valid _ enqueued)
  · intro within settlement enqueued
    obtain ⟨settled, fresh⟩ := mem_enqueuedBy_settleWrites.mp enqueued
    exact within.deliverable bought named settled fresh

end Tick

-----------------------------------------------------------------------------------------
-- Runs
-----------------------------------------------------------------------------------------

/-- Orders as bought, and an outbox of payloads that the receiver accepts and of tombstones. -/
structure OrdersStore.Sound (orders : OrdersStore) : Prop where
  bought : ∀ order ∈ orders.pendingOrders.rows, order.Bought
  outbox : ∀ row ∈ orders.creditOutbox.rows, Deliverable row ∨ row.Tombstone

/-- An action of the process: `/buy` opens orders, and a rail answers a poll. -/
def PaymentsAction.OfRails : PaymentsAction → Prop
  | .tryAddOrder order _ => order.Bought
  | .pollRail watch answer _ _ _ =>
      ∃ (rail : Rail) (decimals : Decimals) (stringify : Json → String) (confirmations : ℤ)
        (response : Except String Response),
        answer = rail.reported decimals stringify confirmations watch response
  | _ => True

/-- A poll whose payments are within bounds. -/
def PaymentsAction.WithinBounds (orders : OrdersStore) : PaymentsAction → Prop
  | .pollRail watch answer _ cfg _ =>
      ∀ inbounds, pollAnswer watch answer = some inbounds
        → Payments.WithinBounds orders cfg.railName inbounds
  | _ => True

/-- The payments process on its store, with orders from `/buy` and polls answered by a rail. -/
def poller : System OrderHistory PaymentsAction where
  initial h := h.orders.Sound
  step h action after := after = h.act action ∧ action.OfRails

/-- The open orders after a write are as bought when those before are, and the one it opens. -/
theorem bought_write {orders : OrdersStore}
    (bought : ∀ order ∈ orders.pendingOrders.rows, order.Bought) {write : OrdersWrite}
    (opens : ∀ order, orders.opens write = some order → order.Bought)
    : ∀ order ∈ (orders.write write).pendingOrders.rows, order.Bought := by
  intro order member
  rcases OrdersStore.write_lookup (Table.get?_of_mem member) with
    ⟨opened, _⟩ | ⟨before, found, after⟩
  · exact opens order opened
  · have earlier := bought before (Table.mem_of_get? found)
    rw [(OrdersWrite.orderAfter_same after).1]
    exact ⟨earlier.hash, earlier.creditMicros, earlier.expectedAtomic⟩

/-- A write that enqueues only what can be delivered leaves nothing else in the outbox. -/
theorem outbox_write {orders : OrdersStore}
    (outbox : ∀ row ∈ orders.creditOutbox.rows, Deliverable row ∨ row.Tombstone)
    {write : OrdersWrite}
    (enqueues
      : ∀ settlement, orders.enqueues write = some settlement → Deliverable settlement.credit)
    : ∀ row ∈ (orders.write write).creditOutbox.rows, Deliverable row ∨ row.Tombstone := by
  intro row member
  rw [orders.write_outbox write] at member
  rcases List.mem_append.mp member with old | new
  · obtain ⟨before, stored, rfl⟩ := List.mem_map.mp old
    have earlier := outbox before stored
    cases write with
    | ackCredit key atMs =>
        simp only [OrdersWrite.creditAfter, OrdersStore.scrubbed]
        split
        · exact Or.inr ⟨by simp, rfl, rfl⟩
        · exact earlier
    | rearmLegacyAckedCredits =>
        simp only [OrdersWrite.creditAfter, OrdersStore.rearmed]
        split
        · rename_i kept
          exact earlier.imp id fun tombstone => (kept.2 tombstone.2.1).elim
        · exact earlier
    | _ => exact earlier
  · obtain ⟨settlement, enqueued, rfl⟩ := List.mem_map.mp new
    exact Or.inl (enqueues settlement (Option.mem_toList.mp enqueued))

/-- Writes that open orders as bought and enqueue deliverable credits leave a store sound; by
induction on the writes.
-/
theorem OrdersStore.Sound.writes {orders : OrdersStore} (sound : orders.Sound)
    {writes : List OrdersWrite}
    (opens
      : ∀ write ∈ writes, ∀ (store : OrdersStore) order, store.opens write = some order
          → order.Bought)
    (enqueued : ∀ settlement ∈ orders.enqueuedBy writes, Deliverable settlement.credit)
    : (writes.foldl OrdersStore.write orders).Sound := by
  induction writes generalizing orders with
  | nil => exact sound
  | cons write rest ih =>
      obtain ⟨first, others⟩ := List.forall_mem_cons.mp opens
      have now (settlement : Settlement) (taken : orders.enqueues write = some settlement)
          : Deliverable settlement.credit :=
        enqueued settlement (List.mem_append_left _ (by simp [taken]))
      exact ih ⟨bought_write sound.bought (first orders), outbox_write sound.outbox now⟩ others
        fun settlement later => enqueued settlement (List.mem_append_right _ later)

/-- The orders an action opens are as `/buy` opens them. -/
theorem PaymentsAction.OfRails.opens {action : PaymentsAction} (real : action.OfRails)
    {orders : OrdersStore}
    : ∀ write ∈ action.writes orders, ∀ (store : OrdersStore) order,
        store.opens write = some order → order.Bought := by
  intro write member store order opened
  cases action with
  | tryAddOrder added maxOpen =>
      cases List.mem_singleton.mp member
      rcases store.write_tryAddOrder added maxOpen with ⟨closed, _⟩ | ⟨_, claimed, _⟩
      · rw [closed] at opened
        cases opened
      · rw [claimed] at opened
        cases opened
        exact ⟨real.hash, real.creditMicros, real.expectedAtomic⟩
  | pollRail watch answer now cfg committed =>
      cases answered : pollAnswer watch answer with
      | none => simp [writes, answered] at member
      | some inbounds =>
          simp only [writes, answered, Option.map_some, Option.getD_some] at member
          rw [settleWrites_opens (List.mem_of_mem_take member)] at opened
          cases opened
  | ackCredit key atMs =>
      cases List.mem_singleton.mp member
      cases opened
  | restart =>
      cases List.mem_singleton.mp member
      cases opened

/-- The keys that a poll answered by a rail is handed are not empty. -/
theorem PaymentsAction.OfRails.named {watch : List ℤ} {answer : Except String (List Incoming)}
    {now : ℤ} {cfg : SettleConfig} {committed : ℕ}
    (real : (PaymentsAction.pollRail watch answer now cfg committed).OfRails)
    {inbounds : List Incoming} (answered : pollAnswer watch answer = some inbounds)
    : ∀ t ∈ inbounds, t.idempotencyKey ≠ "" := by
  obtain ⟨rail, decimals, stringify, confirmations, response, rfl⟩ := real
  unfold pollAnswer at answered
  split at answered
  · cases answered
    simp
  · split at answered
    · rename_i reported
      cases answered
      exact Rail.reported_named reported
    · cases answered

/-- What an action within bounds enqueues can be delivered, also when the process dies in it. -/
theorem PaymentsAction.OfRails.enqueues {action : PaymentsAction} (real : action.OfRails)
    {orders : OrdersStore} (bought : ∀ order ∈ orders.pendingOrders.rows, order.Bought)
    (within : action.WithinBounds orders)
    : ∀ settlement ∈ orders.enqueuedBy (action.writes orders), Deliverable settlement.credit := by
  intro settlement enqueued
  have written := OrdersStore.commit_of_mem_enqueuedBy enqueued
  cases action with
  | pollRail watch answer now cfg committed =>
      cases answered : pollAnswer watch answer with
      | none => simp [writes, answered] at written
      | some inbounds =>
          simp only [writes, answered, Option.map_some, Option.getD_some] at written
          exact (within inbounds answered).deliverable bought (real.named answered)
            (settlement_of_commit (List.mem_of_mem_take written))
            (OrdersStore.fresh_of_mem_enqueuedBy enqueued)
  | _ => simp [writes] at written

/-- What holds of the outbox after a run: of any next poll that runs to its end, all that it
enqueues can be delivered exactly when its payments are within bounds; and where every poll of the
run was within bounds, a drain over a ledger that answers is never blocked and empties the outbox.
-/
structure OutboxDelivers (start : OrderHistory) (actions : List PaymentsAction)
    (h : OrderHistory)
    : Prop where
  polls
    : ∀ watch answer now cfg committed,
        (PaymentsAction.pollRail watch answer now cfg committed).OfRails
        → (PaymentsAction.pollRail watch answer now cfg committed).Complete h.orders
        → ((∀ settlement ∈
              h.orders.enqueuedBy
                ((PaymentsAction.pollRail watch answer now cfg committed).writes h.orders),
            Deliverable settlement.credit)
          ↔ (PaymentsAction.pollRail watch answer now cfg committed).WithinBounds h.orders)
  drains
    : poller.EveryStep start actions (fun h action _ => action.WithinBounds h.orders)
        → (∀ row ∈ h.orders.listUnackedCredits, Deliverable row)
          ∧ ∀ db nowMs now,
              let (report, drained, _) :=
                drainCreditOutboxOverSocket (sendCredit nowMs) h.orders db now
              report.blocked = none ∧ report.delivered = h.orders.listUnackedCredits.length
              ∧ drained.listUnackedCredits = []

/-- Open orders stay as they were bought through any run. -/
theorem poller_bought {start h : OrderHistory} {actions : List PaymentsAction}
    (initial : poller.initial start) (run : poller.Run start actions h)
    : ∀ order ∈ h.orders.pendingOrders.rows, order.Bought := by
  refine run.rule (fun _ h => ∀ order ∈ h.orders.pendingOrders.rows, order.Bought)
    initial.bought ?_
  intro _ before action _ _ bought step
  rw [step.1]
  refine OrderHistory.writes_keep
    (fun h => ∀ order ∈ h.orders.pendingOrders.rows, order.Bought) ?_ bought
  intro write member store kept
  exact bought_write kept (step.2.opens write member store.orders)

theorem outbox_delivers {start h : OrderHistory} {actions : List PaymentsAction}
    (initial : poller.initial start) (run : poller.Run start actions h)
    : OutboxDelivers start actions h where
  polls := by
    intro watch answer now cfg committed real complete
    have bought := poller_bought initial run
    cases answered : pollAnswer watch answer with
    | none =>
        simp [PaymentsAction.writes, PaymentsAction.WithinBounds, answered, OrdersStore.enqueuedBy]
    | some inbounds =>
        have whole := List.take_of_length_le (complete inbounds answered)
        simp only [PaymentsAction.writes, PaymentsAction.WithinBounds, answered, Option.map_some,
          Option.getD_some, whole, Option.some.injEq, forall_eq']
        exact settle_deliverable_iff bought (real.named answered)
  drains := by
    intro every
    have sound : h.orders.Sound :=
      run.keeps every (fun h => h.orders.Sound) initial fun {_ action _} sound step within => by
        rw [step.1, OrderHistory.act, OrderHistory.writes_orders]
        exact sound.writes step.2.opens (step.2.enqueues sound.bought within)
    have valid : ∀ row ∈ h.orders.listUnackedCredits, Deliverable row := by
      intro row waiting
      obtain ⟨stored, unacked⟩ := OrdersStore.mem_listUnackedCredits.mp waiting
      rcases sound.outbox row stored with deliverable | tombstone
      · exact deliverable
      · exact (tombstone.1 unacked).elim
    exact ⟨valid, fun db nowMs now => drain_deliverable nowMs now valid db⟩

-----------------------------------------------------------------------------------------
-- A wallet that reports a negative amount
-----------------------------------------------------------------------------------------

/-- Two open orders of five dollars against 0.03125 XMR each. -/
def boughtOrder (orderIndex : ℤ) : PendingOrder :=
  ⟨"monero", orderIndex, "8BnERTpvL5MbCLtj5n9No7J5oE5hHiB3tVCK5cjSvCsJ2WRJLFuWeTLGn65L",
    "5e884898da28047151d0e56f8dc6292773603d0d6aabbdd62a11ef721d1542d8", 31250000000, 5000000, 0, 0,
    160, none⟩

def boughtOrders : OrderHistory :=
  ⟨⟨⟨[boughtOrder 1, boughtOrder 2], by decide⟩, .empty, []⟩, [], [], []⟩

/-- Integers in decimal; the wallet below reports no other number, and no number as a text. -/
def integerDecimals : Decimals where
  write x :=
    match x with
    | .finite q => toString q.num
    | _ => "NaN"
  read _ := .nan

/-- The answer of `get_transfers` with one final output of an amount for each order. -/
def walletAnswer (first second : ℤ) : Except String Response :=
  let output (minor amount : ℤ) : Json :=
    .object [
      ("amount", .number (.ofInt amount)),
      ("confirmations", .number (.ofInt 12)),
      ("subaddr_index",
        .object [("major", .number (.ofInt 0)), ("minor", .number (.ofInt minor))]),
      ("txid", .string "7d0c")
    ]
  .ok ⟨200,
    some (.object [("result", .object [("in", .array [output 1 first, output 2 second])])])⟩

def moneroPoll (first second : ℤ) : PaymentsAction :=
  .pollRail [1, 2]
    (Rail.monero.reported integerDecimals (fun _ => "") 10 [1, 2] (walletAnswer first second))
    30000 ⟨1000000000000, "monero", some "monero", 86400000, some 16200000⟩ 5

theorem boughtOrders_sound : poller.initial boughtOrders where
  bought := by
    intro order member
    simp only [boughtOrders, List.mem_cons, List.not_mem_nil, or_false] at member
    rcases member with rfl | rfl <;> exact ⟨by decide, by decide, by decide⟩
  outbox := by simp [boughtOrders, Table.empty]

theorem moneroPoll_run (first second : ℤ)
    : poller.Run boughtOrders [moneroPoll first second]
        (boughtOrders.act (moneroPoll first second)) :=
  .snoc .nil ⟨rfl, .monero, _, _, _, _, rfl⟩

/-- Two payments in full are within bounds. -/
theorem outbox_delivers_paid
    : OutboxDelivers boughtOrders [moneroPoll 31250000000 31250000000]
        (boughtOrders.act (moneroPoll 31250000000 31250000000))
      ∧ (moneroPoll 31250000000 31250000000).WithinBounds boughtOrders.orders := by
  refine ⟨outbox_delivers boughtOrders_sound (moneroPoll_run _ _), ?_⟩
  refine ((outbox_delivers boughtOrders_sound .nil).polls _ _ _ _ _ ?_ ?_).mp ?_
  · exact ⟨.monero, _, _, _, _, rfl⟩
  · intro inbounds answered
    cases answered
    decide +kernel
  · decide +kernel

/-- The outbox after a poll that reports a negative amount before a payment in full. -/
def stalledOutbox : OrderHistory :=
  boughtOrders.act (moneroPoll (-31250000000) 31250000000)

/-- A negative amount credits less than nothing: the ledger refuses the row, and the paid order
behind it is not credited.
-/
theorem outbox_delivers_fails
    : poller.initial boughtOrders
      ∧ poller.Run boughtOrders [moneroPoll (-31250000000) 31250000000] stalledOutbox
      ∧ ¬(∀ row ∈ stalledOutbox.orders.listUnackedCredits, Deliverable row)
      ∧ (drainCreditOutboxOverSocket (sendCredit 30010) stalledOutbox.orders .empty 30005).1
        = ⟨0, 0, some "http_400"⟩ := by
  refine ⟨boughtOrders_sound, moneroPoll_run _ _, ?_⟩
  decide +kernel

end Nullsink.Payments
