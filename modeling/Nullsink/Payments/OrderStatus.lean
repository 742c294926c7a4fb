import Nullsink.Lib.Arithmetic
import Nullsink.Lib.Separator
import Nullsink.Payments.Accounting
import Nullsink.Payments.Buy

/-! Payment progress of `ledger/orderstatus.ts` and the answers of `POST /order-status`, which join
it with the durable `seen_at` of an order.
-/

namespace Nullsink.Payments

open Relational Ecma

-----------------------------------------------------------------------------------------
-- The progress map
-----------------------------------------------------------------------------------------

/-- An inbound with its depth, as a rail reports it to a poll. -/
structure ReportedIncoming extends Incoming where
  confirmations : Number

structure OrderProgress where
  receivedAtomic : ℚ
  confirmations : Number

/-- An entry of `byKey`. -/
structure ProgressEntry where
  key : String
  progress : OrderProgress

/-- `byKey`, in the insertion order of a `Map`. -/
abbrev ProgressMap := Table ProgressEntry.key

def keyOf (rail : String) (orderIndex : ℤ) : String := rail ++ ":" ++ orderIndex.repr

theorem keyOf_inj {rail rail' : String} {orderIndex orderIndex' : ℤ}
    (same : keyOf rail orderIndex = keyOf rail' orderIndex')
    : rail = rail' ∧ orderIndex = orderIndex' := by
  have plain : ':'.isDigit = false := by decide
  exact String.separated_repr_inj plain (by decide) same

/-- A key of a rail starts with the prefix its ticks prune under. -/
theorem keyOf_startsWith (rail : String) (orderIndex : ℤ)
    : (rail ++ ":").toList <+: (keyOf rail orderIndex).toList :=
  ⟨orderIndex.repr.toList, by simp [keyOf]⟩

namespace ProgressMap

def get (byKey : ProgressMap) (orderIndex : ℤ) (rail : String) : Option OrderProgress :=
  (byKey.get? (keyOf rail orderIndex)).map ProgressEntry.progress

/-- `byKey.set(key, progress)`. -/
def set (byKey : ProgressMap) (entry : ProgressEntry) : ProgressMap :=
  byKey.upsert entry (fun other => { other with progress := entry.progress }) (fun _ => rfl)

/-- Add one inbound to the aggregate of a tick. -/
def addTick (rail : String) (perTick : ProgressMap) (t : ReportedIncoming) : ProgressMap :=
  let key := keyOf rail t.orderIndex
  let cur := ((perTick.get? key).map ProgressEntry.progress).getD ⟨0, .ofInt 0⟩
  perTick.set
    ⟨key, Binary64.round (cur.receivedAtomic + t.amount), cur.confirmations.max t.confirmations⟩

/-- The aggregate of a tick. -/
def perTick (inbounds : List ReportedIncoming) (rail : String) : ProgressMap :=
  inbounds.foldl (addTick rail) .empty

/-- `update`: merge a tick, then forget the rail's entries whose order is no longer open. -/
def update (byKey : ProgressMap) (inbounds : List ReportedIncoming) (openIndices : List ℤ)
    (rail : String)
    : ProgressMap :=
  ((perTick inbounds rail).rows.foldl set byKey).filter
    (fun entry =>
      ¬((rail ++ ":").toList.isPrefixOf entry.key.toList
        ∧ entry.key ∉ openIndices.map (keyOf rail)))

theorem isSome_get?_set {byKey : ProgressMap} {entry : ProgressEntry} {key : String}
    (found : ((byKey.set entry).get? key).isSome)
    : key = entry.key ∨ (byKey.get? key).isSome := by
  rw [set, Table.get?_upsert] at found
  by_cases same : entry.key = key
  · exact Or.inl same.symm
  · rw [if_neg same] at found
    exact Or.inr found

/-- Steps that add at most one key each add only the keys of their items; by induction on the items.
-/
theorem isSome_get?_foldl {Item : Type} {add : ProgressMap → Item → ProgressMap}
    (named : Item → String)
    (adds
      : ∀ map item key, ((add map item).get? key).isSome
          → key = named item ∨ (map.get? key).isSome)
    {items : List Item} {map : ProgressMap} {key : String}
    (found : ((items.foldl add map).get? key).isSome)
    : (∃ item ∈ items, key = named item) ∨ (map.get? key).isSome := by
  induction items generalizing map with
  | nil => exact Or.inr found
  | cons item rest ih =>
      rcases ih found with ⟨later, member, same⟩ | stored
      · exact Or.inl ⟨later, List.mem_cons_of_mem _ member, same⟩
      · rcases adds map item key stored with same | before
        · exact Or.inl ⟨item, List.mem_cons_self, same⟩
        · exact Or.inr before

/-- A tick's aggregate has only keys of what it reported. -/
theorem isSome_get?_perTick {inbounds : List ReportedIncoming} {rail key : String}
    (found : ((perTick inbounds rail).get? key).isSome)
    : ∃ t ∈ inbounds, key = keyOf rail t.orderIndex := by
  rcases isSome_get?_foldl (fun t => keyOf rail t.orderIndex)
    (fun _ _ _ added => isSome_get?_set added) found with reported | stored
  · exact reported
  · cases stored

/-- An entry after an update was reported in the tick or there before, and if it is under the
rail's prefix its order is open.
-/
theorem isSome_get?_update {byKey : ProgressMap} {inbounds : List ReportedIncoming}
    {openIndices : List ℤ} {rail key : String}
    (found : ((byKey.update inbounds openIndices rail).get? key).isSome)
    : ((∃ t ∈ inbounds, key = keyOf rail t.orderIndex) ∨ (byKey.get? key).isSome)
      ∧ ((rail ++ ":").toList <+: key.toList → key ∈ openIndices.map (keyOf rail)) := by
  rw [update, Table.get?_filter] at found
  obtain ⟨entry, kept⟩ := Option.isSome_iff_exists.mp found
  obtain ⟨merged, spared⟩ := Option.filter_eq_some_iff.mp kept
  have own : entry.key = key := Table.key_of_get? merged
  constructor
  · rcases isSome_get?_foldl ProgressEntry.key
      (fun _ _ _ added => isSome_get?_set added) (Option.isSome_of_eq_some merged)
      with ⟨fresh, listed, same⟩ | stored
    · refine Or.inl (isSome_get?_perTick ?_)
      rw [same, Table.get?_of_mem listed]
      rfl
    · exact Or.inr stored
  · intro named
    rw [own, decide_eq_true_eq, not_and_not_right, List.isPrefixOf_iff_prefix] at spared
    exact spared named

end ProgressMap

-----------------------------------------------------------------------------------------
-- The answers
-----------------------------------------------------------------------------------------

namespace OrdersStore

/-- The order a client tracks, by the address it was told to pay. -/
def openOrderByHashAddress (orders : OrdersStore) (hash address : String)
    : Option PendingOrder :=
  orders.pendingOrders.rows.find? (fun order => order.hash = hash ∧ order.address = address)

/-- The latest order of a hash, a seen one before an unseen one. -/
def latestOpenOrderByHash (orders : OrdersStore) (hash : String) : Option PendingOrder :=
  ((orders.pendingOrders.rows.filter (fun order => order.hash = hash)).insertionSort
    (fun first second =>
      (second.seenAt.isSome → first.seenAt.isSome)
      ∧ (first.seenAt.isSome = second.seenAt.isSome → second.createdAt ≤ first.createdAt))).head?

end OrdersStore

inductive OrderState where
  | waiting
  | detected
  | confirming
  | finalizing
  deriving DecidableEq

/-- Amounts are of whole coins. -/
structure OrderStatus where
  state : OrderState
  confirmations : Number
  required : ℕ
  received : ℚ
  expected : ℚ
  unit : String
  expiresAt : ℤ
  deriving DecidableEq

/-- The handler from the order it found; `none` is the throw of an unknown rail without a default.
-/
def statusOf (cfg : BuyConfig) (byKey : ProgressMap) (order : PendingOrder)
    : Option OrderStatus := do
  let rail ← (cfg.rail? order.rail).or (cfg.rail? cfg.defaultRail)
  let progress := byKey.get order.orderIndex order.rail
  let received := (progress.map OrderProgress.receivedAtomic).getD 0
  let confirmations := (progress.map OrderProgress.confirmations).getD (.ofInt 0)
  return {
    state :=
      if 0 < received then
        if confirmations.lt (.ofInt rail.confirmations) then .confirming else .finalizing
      else if order.seenAt ≠ none then .detected
      else .waiting
    confirmations
    required := rail.confirmations
    received := Binary64.round (received / rail.scale)
    expected := Binary64.round (order.expectedAtomic / rail.scale)
    unit := rail.unit
    expiresAt := order.createdAt + cfg.orderTtlMs
  }

/-- What `POST /order-status` answers. -/
inductive StatusReply where
  | denied (denial : Denial)
  | closed
  | answered (status : OrderStatus)
  | threw
  deriving DecidableEq

/-- The address a request scopes to, if it has one. -/
def scopeOf (body : Json) : Except Denial (Option String) :=
  match body.get? "address" with
  | none => .ok none
  | some (.string address) =>
      if 128 < Json.stringLength address then .error ⟨400, "invalid_address"⟩
      else .ok (some address)
  | some _ => .error ⟨400, "invalid_address"⟩

/-- The order a request asks about: the one under its address, else the latest of its hash. -/
def requestedOrder (orders : OrdersStore) (body : Json) : Except Denial (Option PendingOrder) :=
  match Ledger.validHash (body.get? "hash") with
  | none => .error ⟨400, "invalid_hash"⟩
  | some hash =>
      match scopeOf body with
      | .error denial => .error denial
      | .ok none => .ok (orders.latestOpenOrderByHash hash)
      | .ok (some address) => .ok (orders.openOrderByHashAddress hash address)

/-- `POST /order-status`, from the body it reads. -/
def orderStatus (cfg : BuyConfig) (orders : OrdersStore) (byKey : ProgressMap) (body : Json)
    : StatusReply :=
  match requestedOrder orders body with
  | .error denial => .denied denial
  | .ok none => .closed
  | .ok (some order) =>
      match statusOf cfg byKey order with
      | none => .threw
      | some status => .answered status

/-- Only an open order is asked about. -/
theorem requestedOrder_mem {orders : OrdersStore} {body : Json} {order : PendingOrder}
    (requested : requestedOrder orders body = .ok (some order))
    : order ∈ orders.pendingOrders.rows := by
  unfold requestedOrder at requested
  split at requested
  · cases requested
  · split at requested
    · cases requested
    · have latest := List.mem_of_mem_head? (Option.mem_def.mpr (Except.ok.inj requested))
      exact List.mem_of_mem_filter ((List.mem_insertionSort _).mp latest)
    · exact List.mem_of_find?_eq_some (Except.ok.inj requested)

/-- An order waits exactly when nothing is received and it was never seen. -/
theorem statusOf_waiting_iff {cfg : BuyConfig} {byKey : ProgressMap} {order : PendingOrder}
    {status : OrderStatus} (answered : statusOf cfg byKey order = some status)
    : status.state = .waiting
      ↔ ((byKey.get order.orderIndex order.rail).map OrderProgress.receivedAtomic).getD 0 ≤ 0
        ∧ order.seenAt = none := by
  obtain ⟨rail, _, built⟩ := Option.bind_eq_some_iff.mp answered
  obtain rfl := Option.some.inj built
  by_cases received
      : 0 < ((byKey.get order.orderIndex order.rail).map OrderProgress.receivedAtomic).getD 0
  · simp only [received, if_true]
    constructor
    · intro waiting
      split at waiting <;> cases waiting
    · exact fun waits => absurd received (not_lt.mpr waits.1)
  · by_cases seen : order.seenAt = none
    · simp [received, seen, not_lt.mp received]
    · simp [received, seen]

end Nullsink.Payments
