import Mathlib.Data.List.Sort
import Nullsink.Lib.Number
import Nullsink.Lib.Table

/-! The pending-orders store of `ledger/orders.ts`: open orders, the credit outbox and the sales
book, with the statements and the one transaction over them.
-/

namespace Nullsink.Payments

open Relational

/-- `pending_orders`: one open order per rail and index. -/
structure PendingOrder where
  rail : String
  orderIndex : ℤ
  address : String
  hash : String
  expectedAtomic : ℤ
  creditMicros : ℤ
  receivedAtomic : ℤ
  createdAt : ℤ
  rateUsd : ℚ
  seenAt : Option ℤ
  deriving DecidableEq

/-- `PRIMARY KEY (rail, order_index)`. -/
def PendingOrder.key (order : PendingOrder) : String × ℤ :=
  (order.rail, order.orderIndex)

/-- A row as it is inserted: `seen_at` is not among the columns. -/
def PendingOrder.unseen (order : PendingOrder) : PendingOrder :=
  { order with seenAt := none }

/-- `credit_outbox`: a credit on its way to the ledger, or the tombstone of one. -/
structure CreditOutboxRow where
  idempotencyKey : String
  hash : String
  micros : ℤ
  createdAt : ℤ
  ackedAt : Option ℤ
  deriving DecidableEq

/-- `revenue`: one sale of the append-only book. -/
structure RevenueRow where
  atMs : ℤ
  asset : String
  assetAtomic : ℚ
  scale : ℚ
  usdMicros : ℤ
  grossMicros : ℤ
  deriving DecidableEq

/-- The database `openOrderStore` binds its statements to. -/
@[ext]
structure OrdersStore where
  pendingOrders : Table PendingOrder.key
  creditOutbox : Table CreditOutboxRow.idempotencyKey
  revenue : List RevenueRow

/-- The arguments of `commitSettlement`. -/
structure Settlement where
  key : String
  hash : String
  micros : ℤ
  atMs : ℤ
  asset : String
  assetAtomic : ℚ
  scale : ℚ
  grossMicros : ℤ
  orderIndex : ℤ
  rail : String
  deriving DecidableEq

/-- The sale a settlement books. -/
def Settlement.sale (settlement : Settlement) : RevenueRow :=
  ⟨settlement.atMs, settlement.asset, settlement.assetAtomic, settlement.scale, settlement.micros,
    settlement.grossMicros⟩

/-- The row a settlement enqueues. -/
def Settlement.credit (settlement : Settlement) : CreditOutboxRow :=
  ⟨settlement.key, settlement.hash, settlement.micros, settlement.atMs, none⟩

/-- The primary key of the order a settlement closes. -/
def Settlement.order (settlement : Settlement) : String × ℤ :=
  (settlement.rail, settlement.orderIndex)

namespace OrdersStore

/-- A freshly created database. -/
def empty : OrdersStore :=
  ⟨.empty, .empty, []⟩

-----------------------------------------------------------------------------------------
-- Open orders
-----------------------------------------------------------------------------------------

/-- The slot-claiming insert: `false` at the ceiling, a throw when the primary key is taken. -/
def tryAddOrder (orders : OrdersStore) (order : PendingOrder) (maxOpen : ℤ)
    : Except String (Bool × OrdersStore) :=
  if orders.pendingOrders.rows.length < maxOpen then
    match orders.pendingOrders.insert? order.unseen with
    | some pendingOrders => .ok (true, { orders with pendingOrders })
    | none =>
        .error "UNIQUE constraint failed: pending_orders.rail, pending_orders.order_index"
  else .ok (false, orders)

/-- The open orders of a rail, as the index of the primary key lists them. -/
def openOrders (orders : OrdersStore) (rail : String) : List PendingOrder :=
  (orders.pendingOrders.rows.filter (fun order => order.rail = rail)).insertionSort
    (fun first second => first.orderIndex ≤ second.orderIndex)

def removeOrder (orders : OrdersStore) (orderIndex : ℤ) (rail : String) : OrdersStore :=
  { orders with pendingOrders := orders.pendingOrders.delete (rail, orderIndex) }

/-- An order as `markSeen` leaves it: only the first sighting sticks. -/
def sightedAt (orderIndex : ℤ) (rail : String) (atMs : ℤ) (order : PendingOrder) : PendingOrder :=
  if order.key = (rail, orderIndex) ∧ order.seenAt = none then { order with seenAt := some atMs }
  else order

def markSeen (orders : OrdersStore) (orderIndex : ℤ) (rail : String) (atMs : ℤ) : OrdersStore :=
  {
    orders with
    pendingOrders := orders.pendingOrders.update (sightedAt orderIndex rail atMs) (by
      intro order
      unfold sightedAt
      split <;> rfl)
  }

def purgeStale (orders : OrdersStore) (beforeMs : ℤ) (rail : String) : OrdersStore :=
  {
    orders with
    pendingOrders := orders.pendingOrders.filter
      (fun order => ¬(order.createdAt < beforeMs ∧ order.rail = rail))
  }

-----------------------------------------------------------------------------------------
-- The credit outbox
-----------------------------------------------------------------------------------------

/-- `INSERT OR IGNORE`, with whether the key was new. -/
def enqueueCredit (orders : OrdersStore) (key hash : String) (micros atMs : ℤ)
    : Bool × OrdersStore :=
  let (creditOutbox, fresh) := orders.creditOutbox.insertOrIgnore ⟨key, hash, micros, atMs, none⟩
  (fresh, { orders with creditOutbox })

/-- Unacked rows, oldest first. -/
def listUnackedCredits (orders : OrdersStore) : List CreditOutboxRow :=
  (orders.creditOutbox.rows.filter (fun row => row.ackedAt = none)).insertionSort
    (fun first second => first.createdAt ≤ second.createdAt)

/-- A row as `ackCredit` leaves it: a tombstone without its payload. -/
def scrubbed (key : String) (atMs : ℤ) (row : CreditOutboxRow) : CreditOutboxRow :=
  if row.idempotencyKey = key then { row with ackedAt := some atMs, hash := "", micros := 0 }
  else row

def ackCredit (orders : OrdersStore) (key : String) (atMs : ℤ) : OrdersStore :=
  {
    orders with
    creditOutbox := orders.creditOutbox.update (scrubbed key atMs) (by
      intro row
      unfold scrubbed
      split <;> rfl)
  }

/-- A row as `rearmLegacyAckedCredits` leaves it: one that kept its payload is unacked again. -/
def rearmed (row : CreditOutboxRow) : CreditOutboxRow :=
  if row.ackedAt ≠ none ∧ row.hash ≠ "" then { row with ackedAt := none } else row

def rearmLegacyAckedCredits (orders : OrdersStore) : OrdersStore :=
  {
    orders with
    creditOutbox := orders.creditOutbox.update rearmed (by
      intro row
      unfold rearmed
      split <;> rfl)
  }

/-- One transaction: enqueue the credit, book the sale if it was new, close the order. -/
def commitSettlement (orders : OrdersStore) (settlement : Settlement) : Bool × OrdersStore :=
  let (fresh, enqueued) :=
    orders.enqueueCredit settlement.key settlement.hash settlement.micros settlement.atMs
  let booked :=
    if fresh then { enqueued with revenue := enqueued.revenue ++ [settlement.sale] } else enqueued
  (fresh, booked.removeOrder settlement.orderIndex settlement.rail)

end OrdersStore

-----------------------------------------------------------------------------------------
-- Writes
-----------------------------------------------------------------------------------------

/-- A write that commits on its own. -/
inductive OrdersWrite where
  | tryAddOrder (order : PendingOrder) (maxOpen : ℤ)
  | markSeen (orderIndex : ℤ) (rail : String) (atMs : ℤ)
  | commitSettlement (settlement : Settlement)
  | purgeStale (beforeMs : ℤ) (rail : String)
  | removeOrder (orderIndex : ℤ) (rail : String)
  | ackCredit (key : String) (atMs : ℤ)
  | rearmLegacyAckedCredits
  deriving DecidableEq

/-- The store after a write; a throw rolls back. -/
def OrdersStore.write (orders : OrdersStore) : OrdersWrite → OrdersStore
  | .tryAddOrder order maxOpen =>
      match orders.tryAddOrder order maxOpen with
      | .ok (_, added) => added
      | .error _ => orders
  | .markSeen orderIndex rail atMs => orders.markSeen orderIndex rail atMs
  | .commitSettlement settlement => (orders.commitSettlement settlement).2
  | .purgeStale beforeMs rail => orders.purgeStale beforeMs rail
  | .removeOrder orderIndex rail => orders.removeOrder orderIndex rail
  | .ackCredit key atMs => orders.ackCredit key atMs
  | .rearmLegacyAckedCredits => orders.rearmLegacyAckedCredits

/-- Whether a write enqueues a credit under a new key. -/
def OrdersStore.enqueues (orders : OrdersStore) : OrdersWrite → Option Settlement
  | .commitSettlement settlement =>
      if (orders.commitSettlement settlement).1 then some settlement else none
  | _ => none

/-- The order a write opens. -/
def OrdersStore.opens (orders : OrdersStore) : OrdersWrite → Option PendingOrder
  | .tryAddOrder order maxOpen =>
      match orders.tryAddOrder order maxOpen with
      | .ok (true, _) => some order.unseen
      | _ => none
  | _ => none

/-- What a write makes of an open order; `none` when it removes the order. -/
def OrdersWrite.orderAfter : OrdersWrite → PendingOrder → Option PendingOrder
  | .markSeen orderIndex rail atMs, order => some (OrdersStore.sightedAt orderIndex rail atMs order)
  | .commitSettlement settlement, order => if order.key = settlement.order then none else some order
  | .purgeStale beforeMs rail, order =>
      if order.createdAt < beforeMs ∧ order.rail = rail then none else some order
  | .removeOrder orderIndex rail, order =>
      if order.key = (rail, orderIndex) then none else some order
  | _, order => some order

/-- What a write makes of a row of the outbox. -/
def OrdersWrite.creditAfter : OrdersWrite → CreditOutboxRow → CreditOutboxRow
  | .ackCredit key atMs, row => OrdersStore.scrubbed key atMs row
  | .rearmLegacyAckedCredits, row => OrdersStore.rearmed row
  | _, row => row

-----------------------------------------------------------------------------------------
-- What a write leaves of each table
-----------------------------------------------------------------------------------------

namespace OrdersStore

theorem mem_openOrders {orders : OrdersStore} {rail : String} {order : PendingOrder}
    : order ∈ orders.openOrders rail ↔ order ∈ orders.pendingOrders.rows ∧ order.rail = rail := by
  simp [openOrders]

theorem mem_listUnackedCredits {orders : OrdersStore} {row : CreditOutboxRow}
    : row ∈ orders.listUnackedCredits ↔ row ∈ orders.creditOutbox.rows ∧ row.ackedAt = none := by
  simp [listUnackedCredits]

/-- A claim is refused, throws, or appends its order. -/
theorem tryAddOrder_cases (orders : OrdersStore) (order : PendingOrder) (maxOpen : ℤ)
    : orders.tryAddOrder order maxOpen = .ok (false, orders)
      ∨ (∃ thrown, orders.tryAddOrder order maxOpen = .error thrown)
      ∨ ∃ fresh : orders.pendingOrders.get? order.unseen.key = none,
          orders.tryAddOrder order maxOpen
          = .ok (
            true,
            {
              orders with
              pendingOrders := orders.pendingOrders.append order.unseen fresh
            }
          ) := by
  unfold tryAddOrder
  split
  · split
    · rename_i inserted
      obtain ⟨fresh, rfl⟩ := Table.insert?_eq_some_iff.mp inserted
      exact Or.inr (Or.inr ⟨fresh, rfl⟩)
    · exact Or.inr (Or.inl ⟨_, rfl⟩)
  · exact Or.inl rfl

/-- A claimed slot opens its order; a refused claim and a throw change nothing. -/
theorem write_tryAddOrder (orders : OrdersStore) (order : PendingOrder) (maxOpen : ℤ)
    : (orders.opens (.tryAddOrder order maxOpen) = none
        ∧ orders.write (.tryAddOrder order maxOpen) = orders)
      ∨ ∃ fresh : orders.pendingOrders.get? order.unseen.key = none,
          orders.opens (.tryAddOrder order maxOpen) = some order.unseen
          ∧ orders.write (.tryAddOrder order maxOpen)
            = {
              orders with
              pendingOrders := orders.pendingOrders.append order.unseen fresh
            } := by
  rcases orders.tryAddOrder_cases order maxOpen with refused | ⟨thrown, threw⟩ | ⟨fresh, added⟩
  · exact Or.inl (by simp [opens, OrdersStore.write, refused])
  · exact Or.inl (by simp [opens, OrdersStore.write, threw])
  · exact Or.inr ⟨fresh, by simp [opens, added], by simp [OrdersStore.write, added]⟩

/-- An enqueue is new exactly when the outbox has no row under the key. -/
theorem commitSettlement_fresh_iff (orders : OrdersStore) (settlement : Settlement)
    : (orders.commitSettlement settlement).1 = true
      ↔ orders.creditOutbox.get? settlement.key = none :=
  Table.insertOrIgnore_added_iff orders.creditOutbox settlement.credit

/-- A write enqueues the settlement that it commits under a new key. -/
theorem enqueues_eq_some_iff {orders : OrdersStore} {write : OrdersWrite}
    {settlement : Settlement}
    : orders.enqueues write = some settlement
      ↔ write = .commitSettlement settlement
        ∧ orders.creditOutbox.get? settlement.key = none := by
  rw [← orders.commitSettlement_fresh_iff]
  cases write with
  | commitSettlement committed =>
      simp only [enqueues, Option.ite_none_right_eq_some, Option.some.injEq,
        OrdersWrite.commitSettlement.injEq]
      constructor
      · rintro ⟨fresh, rfl⟩
        exact ⟨rfl, fresh⟩
      · rintro ⟨rfl, fresh⟩
        exact ⟨fresh, rfl⟩
  | _ => simp [enqueues]

/-- A settlement is one commit over the three tables. -/
theorem commitSettlement_eq (orders : OrdersStore) (settlement : Settlement)
    : (orders.commitSettlement settlement).2
      = {
        pendingOrders := orders.pendingOrders.delete settlement.order
        creditOutbox := (orders.creditOutbox.insertOrIgnore settlement.credit).1
        revenue :=
          orders.revenue
            ++ (orders.enqueues (.commitSettlement settlement)).toList.map Settlement.sale
      } := by
  unfold enqueues commitSettlement
  dsimp only
  split
  · rfl
  · simp [removeOrder, enqueueCredit, Settlement.order, Settlement.credit]

/-- Every write books exactly the sale of the credit it enqueues. -/
theorem write_revenue (orders : OrdersStore) (write : OrdersWrite)
    : (orders.write write).revenue
      = orders.revenue ++ (orders.enqueues write).toList.map Settlement.sale := by
  cases write with
  | commitSettlement settlement => simp only [OrdersStore.write, commitSettlement_eq]
  | tryAddOrder order maxOpen =>
      rcases orders.write_tryAddOrder order maxOpen with ⟨_, same⟩ | ⟨_, _, added⟩
      · simp [same, enqueues]
      · simp [added, enqueues]
  | _ => simp [OrdersStore.write, enqueues, markSeen, purgeStale, removeOrder, ackCredit,
      rearmLegacyAckedCredits]

/-- Every write keeps the outbox rows in place and appends the credit it enqueues. -/
theorem write_outbox (orders : OrdersStore) (write : OrdersWrite)
    : (orders.write write).creditOutbox.rows
      = orders.creditOutbox.rows.map write.creditAfter
        ++ (orders.enqueues write).toList.map Settlement.credit := by
  cases write with
  | commitSettlement settlement =>
      have unchanged
          : orders.creditOutbox.rows.map (OrdersWrite.commitSettlement settlement).creditAfter
            = orders.creditOutbox.rows :=
        List.map_id _
      rw [unchanged]
      simp only [OrdersStore.write, commitSettlement_eq, enqueues, commitSettlement_fresh_iff,
        Table.insertOrIgnore]
      split
      · rename_i fresh
        have absent : orders.creditOutbox.get? settlement.key = none := fresh
        simp [absent]
      · rename_i taken
        have present : orders.creditOutbox.get? settlement.key ≠ none := taken
        simp [present]
  | tryAddOrder order maxOpen =>
      have unchanged
          : orders.creditOutbox.rows.map (OrdersWrite.tryAddOrder order maxOpen).creditAfter
            = orders.creditOutbox.rows :=
        List.map_id _
      rcases orders.write_tryAddOrder order maxOpen with ⟨_, same⟩ | ⟨_, _, added⟩
      · simp [same, enqueues, unchanged]
      · simp [added, enqueues, unchanged]
  | ackCredit key atMs => exact (List.append_nil _).symm
  | rearmLegacyAckedCredits => exact (List.append_nil _).symm
  | _ => exact ((List.append_nil _).trans (List.map_id _)).symm

/-- Every write treats an open order by itself, apart from the order it opens. -/
theorem write_get? (orders : OrdersStore) (write : OrdersWrite) (key : String × ℤ)
    : (orders.write write).pendingOrders.get? key
      = ((orders.opens write).filter (fun order => order.key = key)).or
        ((orders.pendingOrders.get? key).bind write.orderAfter) := by
  have deleted (closed : String × ℤ)
      : (orders.pendingOrders.delete closed).get? key
        = (orders.pendingOrders.get? key).bind
          (fun order => if order.key = closed then none else some order) := by
    rw [Table.get?_delete]
    cases found : orders.pendingOrders.get? key with
    | none => simp
    | some order => simp [Table.key_of_get? found]
  cases write with
  | tryAddOrder order maxOpen =>
      rcases orders.write_tryAddOrder order maxOpen with ⟨closed, same⟩ | ⟨fresh, opened, added⟩
      · rw [closed, same]
        exact (Option.bind_fun_some _).symm
      · rw [opened, added, Table.get?_append]
        by_cases own : order.unseen.key = key
        · simp [own, Option.filter]
        · simp only [own, if_false, Option.filter, decide_false, Bool.false_eq_true]
          exact (Option.bind_fun_some _).symm
  | markSeen orderIndex rail atMs =>
      simp only [OrdersStore.write, markSeen, opens, Table.get?_update]
      cases orders.pendingOrders.get? key <;> rfl
  | commitSettlement settlement =>
      simp only [OrdersStore.write, commitSettlement_eq, deleted]
      rfl
  | purgeStale beforeMs rail =>
      simp only [OrdersStore.write, purgeStale, Table.get?_filter, opens]
      cases orders.pendingOrders.get? key with
      | none => rfl
      | some order =>
          by_cases stale : order.createdAt < beforeMs ∧ order.rail = rail
          · simp [Option.filter, OrdersWrite.orderAfter, stale]
          · simp [Option.filter, OrdersWrite.orderAfter, stale]
  | removeOrder orderIndex rail =>
      simp only [OrdersStore.write, removeOrder, deleted]
      rfl
  | ackCredit acked atMs => exact (Option.bind_fun_some _).symm
  | rearmLegacyAckedCredits => exact (Option.bind_fun_some _).symm

end OrdersStore

/-- An order open after a write was opened by it, or left by it. -/
theorem OrdersStore.write_lookup {orders : OrdersStore} {write : OrdersWrite} {key : String × ℤ}
    {order : PendingOrder} (found : (orders.write write).pendingOrders.get? key = some order)
    : (orders.opens write = some order ∧ order.key = key)
      ∨ ∃ before, orders.pendingOrders.get? key = some before
          ∧ write.orderAfter before = some order := by
  rw [write_get?, Option.or_eq_some_iff] at found
  rcases found with opened | ⟨_, kept⟩
  · obtain ⟨opened, own⟩ := Option.filter_eq_some_iff.mp opened
    exact Or.inl ⟨opened, by simpa using own⟩
  · exact Or.inr (Option.bind_eq_some_iff.mp kept)

/-- A write that opens no order treats each row of the open orders by itself. -/
theorem OrdersStore.write_rows {orders : OrdersStore} {write : OrdersWrite}
    (opensNone : orders.opens write = none)
    : (orders.write write).pendingOrders.rows
      = orders.pendingOrders.rows.filterMap write.orderAfter := by
  have filtered (keep : PendingOrder → Bool)
      : orders.pendingOrders.rows.filter keep
        = orders.pendingOrders.rows.filterMap (Option.guard keep) :=
    congrFun List.filterMap_eq_filter.symm _
  cases write with
  | tryAddOrder order maxOpen =>
      rcases orders.write_tryAddOrder order maxOpen with ⟨_, same⟩ | ⟨_, opened, _⟩
      · rw [same]
        exact List.filterMap_some.symm
      · rw [opened] at opensNone
        cases opensNone
  | markSeen orderIndex rail atMs => exact congrFun List.filterMap_eq_map.symm _
  | commitSettlement settlement =>
      simp only [OrdersStore.write, commitSettlement_eq, Table.delete, Table.filter, filtered]
      refine List.filterMap_congr (fun order _ => ?_)
      by_cases closed : order.key = settlement.order <;>
        simp [Option.guard, OrdersWrite.orderAfter, closed]
  | purgeStale beforeMs rail =>
      simp only [OrdersStore.write, purgeStale, Table.filter, filtered]
      refine List.filterMap_congr (fun order _ => ?_)
      by_cases stale : order.createdAt < beforeMs ∧ order.rail = rail <;>
        simp [Option.guard, OrdersWrite.orderAfter, stale]
  | removeOrder orderIndex rail =>
      simp only [OrdersStore.write, removeOrder, Table.delete, Table.filter, filtered]
      refine List.filterMap_congr (fun order _ => ?_)
      by_cases removed : order.key = (rail, orderIndex) <;>
        simp [Option.guard, OrdersWrite.orderAfter, removed]
  | ackCredit key atMs => exact List.filterMap_some.symm
  | rearmLegacyAckedCredits => exact List.filterMap_some.symm

/-- No write changes the key of an outbox row. -/
theorem OrdersWrite.creditAfter_key (write : OrdersWrite) (row : CreditOutboxRow)
    : (write.creditAfter row).idempotencyKey = row.idempotencyKey := by
  cases write with
  | ackCredit key atMs =>
      simp only [creditAfter, OrdersStore.scrubbed]
      split <;> rfl
  | rearmLegacyAckedCredits =>
      simp only [creditAfter, OrdersStore.rearmed]
      split <;> rfl
  | _ => rfl

/-- A write leaves an order as it was but for a first sighting. -/
theorem OrdersWrite.orderAfter_same {write : OrdersWrite} {order after : PendingOrder}
    (kept : write.orderAfter order = some after)
    : after = { order with seenAt := after.seenAt }
      ∧ (order.seenAt ≠ none → after.seenAt ≠ none) := by
  cases write with
  | markSeen orderIndex rail atMs =>
      cases kept
      unfold OrdersStore.sightedAt
      split <;> simp
  | commitSettlement settlement =>
      simp only [orderAfter, Option.ite_none_left_eq_some, Option.some.injEq] at kept
      simp [← kept.2]
  | purgeStale beforeMs rail =>
      simp only [orderAfter, Option.ite_none_left_eq_some, Option.some.injEq] at kept
      simp [← kept.2]
  | removeOrder orderIndex rail =>
      simp only [orderAfter, Option.ite_none_left_eq_some, Option.some.injEq] at kept
      simp [← kept.2]
  | _ =>
      cases kept
      simp

end Nullsink.Payments
