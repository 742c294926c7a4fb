import Nullsink.Lib.Transition
import Nullsink.Payments.Settle

/-! Runs of the payments process on its store: buys, polls that may die between two writes,
acknowledgements and restarts, with a record of what the writes enqueued, opened and sighted.
-/

namespace Nullsink.Payments

open Relational Transition

/-- An order for which a write records a report of its rail. -/
def OrdersStore.sights (orders : OrdersStore) : OrdersWrite → Option (String × ℤ)
  | .markSeen orderIndex rail _ =>
      if (orders.pendingOrders.get? (rail, orderIndex)).isSome then some (rail, orderIndex)
      else none
  | _ => none

/-- A store and what its writes led to, oldest first: the credits enqueued under new keys, the
orders ever opened, and the orders an inbound was ever reported for.
-/
structure OrderHistory where
  orders : OrdersStore
  enqueued : List Settlement
  opened : List (String × ℤ)
  sighted : List (String × ℤ)

namespace OrderHistory

def write (h : OrderHistory) (write : OrdersWrite) : OrderHistory where
  orders := h.orders.write write
  enqueued := h.enqueued ++ (h.orders.enqueues write).toList
  opened := h.opened ++ (h.orders.opens write).toList.map PendingOrder.key
  sighted := h.sighted ++ (h.orders.sights write).toList

def writes (h : OrderHistory) (writes : List OrdersWrite) : OrderHistory :=
  writes.foldl write h

theorem writes_append (h : OrderHistory) (earlier later : List OrdersWrite)
    : h.writes (earlier ++ later) = (h.writes earlier).writes later := by
  simp [writes]

theorem writes_orders (h : OrderHistory) (writes : List OrdersWrite)
    : (h.writes writes).orders = writes.foldl OrdersStore.write h.orders := by
  induction writes generalizing h with
  | nil => rfl
  | cons write rest ih => exact ih (h.write write)

theorem writes_enqueued (h : OrderHistory) (writes : List OrdersWrite)
    : (h.writes writes).enqueued = h.enqueued ++ h.orders.enqueuedBy writes := by
  induction writes generalizing h with
  | nil => simp [OrderHistory.writes, OrdersStore.enqueuedBy]
  | cons write rest ih =>
      have later := ih (h.write write)
      simpa [OrderHistory.writes, OrderHistory.write, OrdersStore.enqueuedBy] using later

/-- What each of a list of writes keeps, the list keeps; by induction on the writes. -/
theorem writes_keep (holds : OrderHistory → Prop) {writes : List OrdersWrite}
    (step : ∀ write ∈ writes, ∀ h, holds h → holds (h.write write)) {h : OrderHistory}
    (base : holds h)
    : holds (h.writes writes) := by
  induction writes generalizing h with
  | nil => exact base
  | cons write rest ih =>
      obtain ⟨first, others⟩ := List.forall_mem_cons.mp step
      exact ih others (first h base)

end OrderHistory

/-- The credits that writes enqueue are settlements among them. -/
theorem OrdersStore.commit_of_mem_enqueuedBy {orders : OrdersStore} {writes : List OrdersWrite}
    {settlement : Settlement} (enqueued : settlement ∈ orders.enqueuedBy writes)
    : .commitSettlement settlement ∈ writes := by
  induction writes generalizing orders with
  | nil => cases enqueued
  | cons write rest ih =>
      rcases List.mem_append.mp enqueued with now | later
      · rw [(enqueues_eq_some_iff.mp (Option.mem_toList.mp now)).1]
        exact List.mem_cons_self
      · exact List.mem_cons_of_mem _ (ih later)

-----------------------------------------------------------------------------------------
-- The fate of an order
-----------------------------------------------------------------------------------------

/-- What a list of writes makes of an open order; `none` when one of them removes it. -/
def fate (writes : List OrdersWrite) (order : PendingOrder) : Option PendingOrder :=
  writes.foldlM (fun order write => write.orderAfter order) order

@[simp] theorem fate_cons (write : OrdersWrite) (writes : List OrdersWrite) (order : PendingOrder)
    : fate (write :: writes) order = (write.orderAfter order).bind (fate writes) := rfl

theorem fate_append (earlier later : List OrdersWrite) (order : PendingOrder)
    : fate (earlier ++ later) order = (fate earlier order).bind (fate later) := by
  simp only [fate, List.foldlM_append]
  rfl

/-- Writes that open no order leave the rows their fates; by induction on the writes. -/
theorem OrdersStore.writes_rows {writes : List OrdersWrite}
    (opensNone : ∀ write ∈ writes, ∀ orders : OrdersStore, orders.opens write = none)
    (orders : OrdersStore)
    : (writes.foldl OrdersStore.write orders).pendingOrders.rows
      = orders.pendingOrders.rows.filterMap (fate writes) := by
  induction writes generalizing orders with
  | nil => exact List.filterMap_some.symm
  | cons write rest ih =>
      obtain ⟨first, others⟩ := List.forall_mem_cons.mp opensNone
      rw [List.foldl_cons, ih others, OrdersStore.write_rows (first orders),
        List.filterMap_filterMap]
      rfl

/-- Writes that open no order treat each open order by itself; by induction on the writes. -/
theorem OrderHistory.writes_get? (h : OrderHistory) {writes : List OrdersWrite}
    (opensNone : ∀ write ∈ writes, ∀ orders : OrdersStore, orders.opens write = none)
    (key : String × ℤ)
    : (h.writes writes).orders.pendingOrders.get? key
      = (h.orders.pendingOrders.get? key).bind (fate writes) := by
  induction writes generalizing h with
  | nil => exact (Option.bind_fun_some _).symm
  | cons write rest ih =>
      obtain ⟨first, others⟩ := List.forall_mem_cons.mp opensNone
      have step : (h.write write).orders.pendingOrders.get? key
          = (h.orders.pendingOrders.get? key).bind write.orderAfter := by
        simp [OrderHistory.write, OrdersStore.write_get?, first]
      calc ((h.write write).writes rest).orders.pendingOrders.get? key
          = ((h.orders.pendingOrders.get? key).bind write.orderAfter).bind (fate rest) := by
            rw [ih (h.write write) others, step]
        _ = (h.orders.pendingOrders.get? key).bind (fate (write :: rest)) := by
            rw [Option.bind_assoc]
            rfl

/-- An order that survives is the same but for a first sighting; by induction on the writes. -/
theorem fate_same {writes : List OrdersWrite} {order after : PendingOrder}
    (kept : fate writes order = some after)
    : after = { order with seenAt := after.seenAt }
      ∧ (order.seenAt ≠ none → after.seenAt ≠ none) := by
  induction writes generalizing order with
  | nil =>
      cases kept
      exact ⟨rfl, id⟩
  | cons write rest ih =>
      obtain ⟨middle, first, later⟩ := Option.bind_eq_some_iff.mp kept
      obtain ⟨sameFirst, seenFirst⟩ := OrdersWrite.orderAfter_same first
      obtain ⟨sameLater, seenLater⟩ := ih later
      refine ⟨?_, fun seen => seenLater (seenFirst seen)⟩
      rw [sameFirst] at sameLater
      exact sameLater

theorem fate_key {writes : List OrdersWrite} {order after : PendingOrder}
    (kept : fate writes order = some after)
    : after.key = order.key := by
  rw [(fate_same kept).1]
  rfl

/-- An order is removed by one of the writes, and stands until then. -/
theorem exists_removal {writes : List OrdersWrite} {order : PendingOrder}
    (removed : fate writes order = none)
    : ∃ earlier write later kept, writes = earlier ++ write :: later
        ∧ fate earlier order = some kept ∧ write.orderAfter kept = none := by
  induction writes generalizing order with
  | nil => cases removed
  | cons write rest ih =>
      cases first : write.orderAfter order with
      | none => exact ⟨[], write, rest, order, rfl, rfl, first⟩
      | some middle =>
          rw [fate_cons, first] at removed
          obtain ⟨earlier, last, later, kept, whole, stood, removes⟩ := ih removed
          exact ⟨write :: earlier, last, later, kept, by rw [whole]; rfl, by simp [first, stood],
            removes⟩

/-- An order that some write removes by its key does not survive the writes. -/
theorem fate_of_removes {writes : List OrdersWrite} {order : PendingOrder} {write : OrdersWrite}
    (member : write ∈ writes)
    (removes : ∀ kept : PendingOrder, kept.key = order.key → write.orderAfter kept = none)
    : fate writes order = none := by
  obtain ⟨earlier, later, rfl⟩ := List.append_of_mem member
  rw [fate_append]
  cases stood : fate earlier order with
  | none => rfl
  | some kept => simp [removes kept (fate_key stood)]

/-- An order that no write touches stays as it is; by induction on the writes. -/
theorem fate_of_untouched {writes : List OrdersWrite} {order : PendingOrder}
    (untouched : ∀ write ∈ writes, write.orderAfter order = some order)
    : fate writes order = some order := by
  induction writes with
  | nil => rfl
  | cons write rest ih =>
      obtain ⟨first, others⟩ := List.forall_mem_cons.mp untouched
      simp [first, ih others]

-----------------------------------------------------------------------------------------
-- The payments process
-----------------------------------------------------------------------------------------

/-- What a poll hands to `settle`: nothing reported when no order is watched, and no settlement
at all when the wallet query fails.
-/
def pollAnswer (watch : List ℤ) (answer : Except String (List Incoming))
    : Option (List Incoming) :=
  if watch = [] then some []
  else
    match answer with
    | .ok transfers => some transfers
    | .error _ => none

/-- What happens to the payments store. A poll settles what its rail answered for the orders it
watched, and commits the first `committed` writes: fewer than there are when the process dies.
-/
inductive PaymentsAction where
  | tryAddOrder (order : PendingOrder) (maxOpen : ℤ)
  | pollRail (watch : List ℤ) (answer : Except String (List Incoming)) (now : ℤ)
    (cfg : SettleConfig) (committed : ℕ)
  | ackCredit (key : String) (atMs : ℤ)
  | restart

/-- The writes an action commits to a store. -/
def PaymentsAction.writes (orders : OrdersStore) : PaymentsAction → List OrdersWrite
  | .tryAddOrder order maxOpen => [.tryAddOrder order maxOpen]
  | .pollRail watch answer now cfg committed =>
      ((pollAnswer watch answer).map
        (fun inbounds => (settleWrites inbounds orders now cfg).take committed)).getD []
  | .ackCredit key atMs => [.ackCredit key atMs]
  | .restart => [.rearmLegacyAckedCredits]

/-- Whether a poll runs to its end. -/
def PaymentsAction.Complete (orders : OrdersStore) : PaymentsAction → Prop
  | .pollRail watch answer now cfg committed =>
      ∀ inbounds, pollAnswer watch answer = some inbounds
        → (settleWrites inbounds orders now cfg).length ≤ committed
  | _ => True

namespace OrderHistory

def act (h : OrderHistory) (action : PaymentsAction) : OrderHistory :=
  h.writes (action.writes h.orders)

end OrderHistory

end Nullsink.Payments
