import Nullsink.Payments.Outbox

/-! The accounts of settlement over whole runs: each key is credited once, for its share of the
order it paid, with one sale in the book.
-/

namespace Nullsink.Payments

open Relational Ecma

-----------------------------------------------------------------------------------------
-- The writes of a tick
-----------------------------------------------------------------------------------------

section Tick

variable {inbounds : List Incoming} {orders : OrdersStore} {now : ℤ} {cfg : SettleConfig}

theorem mem_settleWrites {write : OrdersWrite}
    : write ∈ settleWrites inbounds orders now cfg
      ↔ (∃ t ∈ inbounds, write = .markSeen t.orderIndex cfg.railName now)
        ∨ (∃ settlement ∈ settlements inbounds orders now cfg, write = .commitSettlement settlement)
        ∨ write = .purgeStale (now - cfg.backstopMs) cfg.railName
        ∨ ∃ o ∈ unfundedOrders (purgedStore inbounds orders now cfg) now cfg,
            write = .removeOrder o.orderIndex cfg.railName := by
  simp [settleWrites, settleWritesToBackstop, sightings, eq_comm]

theorem settlement_of_commit {settlement : Settlement}
    (member : .commitSettlement settlement ∈ settleWrites inbounds orders now cfg)
    : settlement ∈ settlements inbounds orders now cfg := by
  rcases mem_settleWrites.mp member with ⟨t, _, other⟩ | ⟨s, settled, same⟩ | other | ⟨o, _, other⟩
  · cases other
  · cases same
    exact settled
  · cases other
  · cases other

/-- A tick opens no order. -/
theorem settleWrites_opens {write : OrdersWrite}
    (member : write ∈ settleWrites inbounds orders now cfg) (store : OrdersStore)
    : store.opens write = none := by
  rcases mem_settleWrites.mp member
    with ⟨t, _, rfl⟩ | ⟨settlement, _, rfl⟩ | rfl | ⟨o, _, rfl⟩ <;> rfl

/-- A settlement of a tick closes an order of the tick's rail. -/
theorem settlement_rail {settlement : Settlement}
    (member : settlement ∈ settlements inbounds orders now cfg)
    : settlement.rail = cfg.railName := by
  obtain ⟨key, first, order, head, found, expects, rfl⟩ := mem_settlements.mp member
  rfl

/-- A tick leaves the orders of other rails alone. -/
theorem settleWrites_railApart {write : OrdersWrite}
    (member : write ∈ settleWrites inbounds orders now cfg) {order : PendingOrder}
    (apart : order.rail ≠ cfg.railName)
    : write.orderAfter order = some order := by
  rcases mem_settleWrites.mp member
    with ⟨t, _, rfl⟩ | ⟨settlement, settled, rfl⟩ | rfl | ⟨o, _, rfl⟩
  · simp [OrdersWrite.orderAfter, OrdersStore.sightedAt, PendingOrder.key, apart]
  · simp [OrdersWrite.orderAfter, PendingOrder.key, Settlement.order, settlement_rail settled,
      apart]
  · simp [OrdersWrite.orderAfter, apart]
  · simp [OrdersWrite.orderAfter, PendingOrder.key, apart]

/-- The order a settlement closes is the one open at the start of the tick under its rail and
index.
-/
theorem settlement_opened {settlement : Settlement}
    (member : settlement ∈ settlements inbounds orders now cfg)
    : ∃ order, orders.pendingOrders.get? settlement.order = some order
        ∧ 0 < order.expectedAtomic
        ∧ settlement.hash = order.hash
        ∧ settlement.micros
          = share order.creditMicros order.expectedAtomic
            (doubleSum
              ((creditableUnder (orders.openOrder cfg.railName) inbounds settlement.key).map
                Incoming.amount)) := by
  obtain ⟨key, first, order, head, found, expects, rfl⟩ := mem_settlements.mp member
  rw [OrdersStore.openOrder_eq] at found
  refine ⟨order, ?_, expects, rfl, rfl⟩
  have own : order.orderIndex = first.orderIndex := congrArg Prod.snd (Table.key_of_get? found)
  simpa [Settlement.order, settlementFor, own] using found

/-- Some creditable inbound of the tick carries a settlement's key and index. -/
theorem settlement_named {settlement : Settlement}
    (member : settlement ∈ settlements inbounds orders now cfg)
    : ∃ t ∈ inbounds, t.final = true ∧ t.idempotencyKey = settlement.key
        ∧ t.orderIndex = settlement.orderIndex := by
  obtain ⟨key, first, order, head, found, expects, rfl⟩ := mem_settlements.mp member
  obtain ⟨reported, credits, same⟩ := mem_creditableUnder.mp (List.mem_of_mem_head? head)
  rw [OrdersStore.openOrder_eq] at found
  have own : order.orderIndex = first.orderIndex := congrArg Prod.snd (Table.key_of_get? found)
  simp only [creditable, Bool.decide_and, Bool.and_eq_true, decide_eq_true_eq] at credits
  exact ⟨first, reported, credits.1, same, own.symm⟩

/-- The order of a final inbound is settled when it expects an amount and the inbound's key
credits no other order.
-/
theorem exists_settlement {t : Incoming} {order : PendingOrder} (reported : t ∈ inbounds)
    (final : t.final = true)
    (found : orders.pendingOrders.get? (cfg.railName, t.orderIndex) = some order)
    (expects : 0 < order.expectedAtomic)
    (named
      : ∀ u ∈ inbounds, creditable (orders.openOrder cfg.railName) u = true
          → u.idempotencyKey = t.idempotencyKey → u.orderIndex = t.orderIndex)
    : ∃ settlement ∈ settlements inbounds orders now cfg,
        settlement.key = t.idempotencyKey ∧ settlement.order = order.key := by
  have credits : creditable (orders.openOrder cfg.railName) t = true := by
    simp [creditable, final, OrdersStore.openOrder_eq, found]
  have member := mem_creditableUnder.mpr ⟨reported, credits, rfl⟩
  obtain ⟨first, head⟩ := Option.isSome_iff_exists.mp
    (List.isSome_head?.mpr (List.ne_nil_of_mem member))
  obtain ⟨firstReported, firstCredits, firstKey⟩ :=
    mem_creditableUnder.mp (List.mem_of_mem_head? head)
  have firstIndex := named first firstReported firstCredits firstKey
  refine ⟨_, mem_settlements.mpr ⟨t.idempotencyKey, first, order, head, ?_, expects, rfl⟩, rfl, ?_⟩
  · rw [firstIndex, OrdersStore.openOrder_eq, found]
  · have own := Table.key_of_get? found
    simp only [PendingOrder.key, Prod.mk.injEq] at own
    simp [Settlement.order, settlementFor, PendingOrder.key, own]

end Tick

-----------------------------------------------------------------------------------------
-- The accounts
-----------------------------------------------------------------------------------------

/-- A settlement closes its order in the transaction that enqueues its credit. -/
theorem fate_of_settled {writes : List OrdersWrite} {order : PendingOrder} {settlement : Settlement}
    (member : .commitSettlement settlement ∈ writes) (closes : settlement.order = order.key)
    : fate writes order = none := by
  refine fate_of_removes member ?_
  intro kept same
  simp [OrdersWrite.orderAfter, same, closes]

/-- The orders of other rails are what they were. -/
theorem tick_railsApart (h : OrderHistory) {inbounds : List Incoming} {now : ℤ} {cfg : SettleConfig}
    {writes : List OrdersWrite} (among : writes ⊆ settleWrites inbounds h.orders now cfg)
    {key : String × ℤ} (apart : key.1 ≠ cfg.railName)
    : (h.writes writes).orders.pendingOrders.get? key = h.orders.pendingOrders.get? key := by
  rw [h.writes_get? fun write member => settleWrites_opens (among member)]
  cases found : h.orders.pendingOrders.get? key with
  | none => rfl
  | some order =>
      have own : order.rail ≠ cfg.railName := by
        rw [← Table.key_of_get? found] at apart
        exact apart
      exact fate_of_untouched fun write member => settleWrites_railApart (among member) own

/-- What a tick does that commits its first writes, and all of them unless the process dies. -/
structure TickAccounting (h : OrderHistory) (inbounds : List Incoming) (now : ℤ)
    (cfg : SettleConfig) (committed : ℕ) (after : OrderHistory)
    : Prop where
  enqueued
    : ∃ credits, after.enqueued = h.enqueued ++ credits
        ∧ after.orders.revenue = h.orders.revenue ++ credits.map Settlement.sale
        ∧ ∀ settlement ∈ credits,
            (∃ t ∈ inbounds, t.final = true ∧ t.idempotencyKey = settlement.key
              ∧ t.orderIndex = settlement.orderIndex)
            ∧ ∃ order,
                h.orders.pendingOrders.get? (cfg.railName, settlement.orderIndex) = some order
                ∧ 0 < order.expectedAtomic
                ∧ settlement.hash = order.hash
                ∧ settlement.micros
                  = share order.creditMicros order.expectedAtomic
                    (doubleSum
                      ((creditableUnder (h.orders.openOrder cfg.railName) inbounds
                        settlement.key).map Incoming.amount))
                ∧ after.orders.pendingOrders.get? order.key = none
  closed
    : (settleWrites inbounds h.orders now cfg).length ≤ committed
        → ∀ t ∈ inbounds, ∀ order, t.final = true
        → h.orders.pendingOrders.get? (cfg.railName, t.orderIndex) = some order
        → 0 < order.expectedAtomic
        → (∀ u ∈ inbounds, creditable (h.orders.openOrder cfg.railName) u = true
            → u.idempotencyKey = t.idempotencyKey → u.orderIndex = t.orderIndex)
        → after.orders.pendingOrders.get? order.key = none
  railsApart
    : ∀ key, key.1 ≠ cfg.railName
        → after.orders.pendingOrders.get? key = h.orders.pendingOrders.get? key

theorem tick_accounting {start : OrdersStore} {h : OrderHistory} (inv : OutboxInvariant start h)
    (inbounds : List Incoming) (now : ℤ) (cfg : SettleConfig) (committed : ℕ)
    : TickAccounting h inbounds now cfg committed
        (h.writes ((settleWrites inbounds h.orders now cfg).take committed)) := by
  have first {write : OrdersWrite}
      (member : write ∈ (settleWrites inbounds h.orders now cfg).take committed)
      : write ∈ settleWrites inbounds h.orders now cfg :=
    List.mem_of_mem_take member
  have looked :=
    h.writes_get? (fun write member => settleWrites_opens (first member))
  exact {
    enqueued := by
      refine ⟨_, h.writes_enqueued _, ?_, ?_⟩
      · have before := inv.booked
        have after := (inv.writes ((settleWrites inbounds h.orders now cfg).take committed)).booked
        rw [h.writes_enqueued, List.map_append, ← List.append_assoc, ← before] at after
        exact after
      · intro settlement enqueued
        have written := OrdersStore.commit_of_mem_enqueuedBy enqueued
        have settled := settlement_of_commit (first written)
        obtain ⟨order, found, expects, sameHash, micros⟩ := settlement_opened settled
        rw [Settlement.order, settlement_rail settled] at found
        refine ⟨settlement_named settled, order, found, expects, sameHash, micros, ?_⟩
        rw [Table.key_of_get? found, looked, found]
        refine fate_of_settled written ?_
        rw [Settlement.order, settlement_rail settled, Table.key_of_get? found]
    closed := by
      intro whole t reported order final found expects named
      obtain ⟨settlement, settled, _, closes⟩ :=
        exists_settlement reported final found expects named
      rw [List.take_of_length_le whole] at looked ⊢
      rw [Table.key_of_get? found, looked, found]
      have written := mem_settleWrites.mpr (Or.inr (Or.inl ⟨settlement, settled, rfl⟩))
      exact fate_of_settled written closes
    railsApart := fun key apart => tick_railsApart h (List.take_subset _ _) apart
  }

/-- What the books hold after a run. -/
structure SettlementAccounting (start : OrdersStore) (h : OrderHistory) : Prop where
  enqueuedOnce
    : (start.creditOutbox.rows.map CreditOutboxRow.idempotencyKey
        ++ h.enqueued.map Settlement.key).Nodup
  created
    : h.orders.creditOutbox.rows.map CreditOutboxRow.idempotencyKey
      = start.creditOutbox.rows.map CreditOutboxRow.idempotencyKey ++ h.enqueued.map Settlement.key
  payloads
    : List.Forall₂ Carries (start.creditOutbox.rows ++ h.enqueued.map Settlement.credit)
        h.orders.creditOutbox.rows
  booked : h.orders.revenue = start.revenue ++ h.enqueued.map Settlement.sale
  ticks
    : ∀ watch answer now cfg committed inbounds, pollAnswer watch answer = some inbounds
        → TickAccounting h inbounds now cfg committed
          (h.act (.pollRail watch answer now cfg committed))
  failures
    : ∀ watch answer now cfg committed, pollAnswer watch answer = none
        → h.act (.pollRail watch answer now cfg committed) = h

/-- The books are right after any sequence of buys, polls, deaths, restarts and acknowledgements,
from any store.
-/
theorem settlement_accounting (start : OrdersStore) (opened : List (String × ℤ))
    (actions : List PaymentsAction)
    : SettlementAccounting start (actions.foldl OrderHistory.act ⟨start, [], opened, []⟩) := by
  have inv
      : OutboxInvariant start (actions.foldl OrderHistory.act ⟨start, [], opened, []⟩) := by
    induction actions using List.reverseRecOn with
    | nil => exact OutboxInvariant.begin (h := ⟨start, [], opened, []⟩) rfl
    | append_singleton earlier action ih =>
        rw [List.foldl_append]
        exact ih.writes _
  exact {
    enqueuedOnce := inv.enqueuedOnce
    created := inv.keys
    payloads := inv.carried
    booked := inv.booked
    ticks := by
      intro watch answer now cfg committed inbounds answered
      simpa [OrderHistory.act, PaymentsAction.writes, answered]
        using tick_accounting inv inbounds now cfg committed
    failures := by
      intro watch answer now cfg committed failed
      simp [OrderHistory.act, PaymentsAction.writes, failed, OrderHistory.writes]
  }

/-- Two open orders for 49 micros against 98 atomic units, and the poll of one rail. -/
def exampleOrder (orderIndex : ℤ) : PendingOrder :=
  ⟨"monero", orderIndex, "8BnERTpvL5MbCLtj5n9No7J5oE5hHiB3tVCK5cjSvCsJ2WRJLFuWeTLGn65L", "5e884898",
    98, 49, 0, 0, 150, none⟩

def exampleOrders : OrdersStore :=
  ⟨⟨[exampleOrder 1, exampleOrder 2], by decide⟩, .empty, []⟩

def exampleConfig : SettleConfig :=
  ⟨1000000000000, "monero", some "monero", 86400000, some 16200000⟩

def examplePoll (inbounds : List Incoming) : OrderHistory :=
  (⟨exampleOrders, [], [], []⟩ : OrderHistory).act
    (.pollRail [1, 2] (.ok inbounds) 30000 exampleConfig 100)

/-- One atomic unit of 98 for 49 micros rounds up exactly, but not in doubles; and of two orders
named by one key only the first is closed.
-/
theorem exact_accounts_fail
    : ¬(∀ settlement ∈ (examplePoll [⟨1, "7d0c:1", 1, true⟩]).enqueued, ∀ order,
        exampleOrders.pendingOrders.get? ("monero", settlement.orderIndex) = some order
        → settlement.micros
          = Binary64.mathRound
            (order.creditMicros
              * (([⟨1, "7d0c:1", 1, true⟩] : List Incoming).filter
                (fun t => t.final ∧ t.idempotencyKey = settlement.key) |>.map Incoming.amount).sum
              / order.expectedAtomic))
      ∧ ¬(∀ t ∈ ([⟨1, "7d0c:1", 98, true⟩, ⟨2, "7d0c:1", 98, true⟩] : List Incoming), ∀ order,
        t.final = true
        → exampleOrders.pendingOrders.get? ("monero", t.orderIndex) = some order
        → 0 < order.expectedAtomic
        → (examplePoll
            [⟨1, "7d0c:1", 98, true⟩, ⟨2, "7d0c:1", 98, true⟩]).orders.pendingOrders.get? order.key
          = none) := by
  constructor
  · intro exact
    have credited
        : (⟨"7d0c:1", "5e884898", 0, 30000, "monero", 1, 1000000000000, 0, 1, "monero"⟩
            : Settlement)
          ∈ (examplePoll [⟨1, "7d0c:1", 1, true⟩]).enqueued := by
      decide +kernel
    have rounded := exact _ credited (exampleOrder 1) rfl
    revert rounded
    decide +kernel
  · intro closes
    have closed := closes ⟨2, "7d0c:1", 98, true⟩ (by decide) (exampleOrder 2) rfl rfl (by decide)
    revert closed
    decide +kernel

end Nullsink.Payments
