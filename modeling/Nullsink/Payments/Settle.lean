import Mathlib.Data.List.Induction
import Nullsink.Payments.Orders

/-! One settlement tick of `ledger/settle.ts`, as the store it leaves and as the writes it commits
one by one.
-/

namespace Nullsink.Payments

open Relational Ecma

/-- A deposit as its rail reports it. Amounts are binary64 values. -/
structure Incoming where
  orderIndex : ℤ
  idempotencyKey : String
  amount : ℚ
  final : Bool
  deriving DecidableEq

structure SettleConfig where
  scale : ℚ
  asset : String
  rail : Option String
  backstopMs : ℤ
  unfundedReapMs : Option ℤ

/-- `cfg.rail ?? "monero"`. -/
def SettleConfig.railName (cfg : SettleConfig) : String :=
  cfg.rail.getD "monero"

/-- The entry of a tick's `groups` map under an idempotency key. -/
structure CreditGroup where
  idempotencyKey : String
  orderIndex : ℤ
  amount : ℚ
  deriving DecidableEq

/-- `groups`, in the insertion order of a `Map`. -/
abbrev CreditGroups := Table CreditGroup.idempotencyKey

/-- The order open under an index of a rail. -/
def OrdersStore.openOrder (orders : OrdersStore) (rail : String) (orderIndex : ℤ)
    : Option PendingOrder :=
  (orders.openOrders rail).find? (fun order => order.orderIndex = orderIndex)

/-- An inbound that is final and names an order of the open map. -/
def creditable (opened : ℤ → Option PendingOrder) (t : Incoming) : Bool :=
  t.final ∧ (opened t.orderIndex).isSome

/-- Add an inbound's amount to its group; the group keeps the index of its first inbound. -/
def addInbound (opened : ℤ → Option PendingOrder) (groups : CreditGroups) (t : Incoming)
    : CreditGroups :=
  if creditable opened t then
    groups.upsert ⟨t.idempotencyKey, t.orderIndex, t.amount⟩
      (fun g => { g with amount := Binary64.round (g.amount + t.amount) }) (fun _ => rfl)
  else groups

section Rounded

variable (round : ℚ → ℚ)

/-- The credit for an amount of coin against the locked expectation, under any rounding of its
intermediate values.
-/
def shareOf (creditMicros expectedAtomic : ℤ) (amount : ℚ) : ℤ :=
  Binary64.mathRound (round (creditMicros * round (amount / expectedAtomic)))

/-- The gross price of an amount of coin at the locked rate, under any such rounding. -/
def grossOf (amount scale rateUsd : ℚ) : ℤ :=
  Binary64.mathRound (round (round (round (amount / scale) * rateUsd) * 1000000))

end Rounded

def share : ℤ → ℤ → ℚ → ℤ := shareOf Binary64.round

def grossMicros : ℚ → ℚ → ℚ → ℤ := grossOf Binary64.round

/-- The settlement of a group against its order. -/
def settlementFor (now : ℤ) (cfg : SettleConfig) (g : CreditGroup) (o : PendingOrder)
    : Settlement where
  key := g.idempotencyKey
  hash := o.hash
  micros := share o.creditMicros o.expectedAtomic g.amount
  atMs := now
  asset := cfg.asset
  assetAtomic := g.amount
  scale := cfg.scale
  grossMicros := grossMicros g.amount cfg.scale o.rateUsd
  orderIndex := o.orderIndex
  rail := cfg.railName

/-- What a group settles: nothing without an open order that expects an amount. -/
def settlementOf (opened : ℤ → Option PendingOrder) (now : ℤ) (cfg : SettleConfig)
    (g : CreditGroup)
    : Option Settlement :=
  match opened g.orderIndex with
  | none => none
  | some o => if o.expectedAtomic ≤ 0 then none else some (settlementFor now cfg g o)

/-- The orders the fast reap removes: never seen, and older than its horizon. -/
def unfundedOrders (orders : OrdersStore) (now : ℤ) (cfg : SettleConfig) : List PendingOrder :=
  match cfg.unfundedReapMs with
  | none => []
  | some unfundedReapMs =>
      (orders.openOrders cfg.railName).filter
        (fun o => o.seenAt = none ∧ o.createdAt < now - unfundedReapMs)

/-- `settle`: the store it leaves and the number of credits it enqueued. -/
def settle (inbounds : List Incoming) (orders : OrdersStore) (now : ℤ) (cfg : SettleConfig)
    : OrdersStore × ℕ :=
  let rail := cfg.railName
  let opened := orders.openOrder rail
  let (seen, groups) :=
    inbounds.foldl
      (fun (store, groups) t => (store.markSeen t.orderIndex rail now, addInbound opened groups t))
      (orders, Table.empty)
  let (settled, enqueued) :=
    groups.rows.foldl
      (fun (store, enqueued) g =>
        match settlementOf opened now cfg g with
        | none => (store, enqueued)
        | some settlement =>
            let (fresh, committed) := store.commitSettlement settlement
            (committed, if fresh then enqueued + 1 else enqueued))
      (seen, 0)
  let purged := settled.purgeStale (now - cfg.backstopMs) rail
  let reaped :=
    (unfundedOrders purged now cfg).foldl (fun store o => store.removeOrder o.orderIndex rail)
      purged
  (reaped, enqueued)

-----------------------------------------------------------------------------------------
-- The writes of a tick
-----------------------------------------------------------------------------------------

/-- The groups a tick credits. -/
def creditGroups (opened : ℤ → Option PendingOrder) (inbounds : List Incoming) : CreditGroups :=
  inbounds.foldl (addInbound opened) .empty

/-- The sightings of a tick, one for each inbound. -/
def sightings (inbounds : List Incoming) (now : ℤ) (rail : String) : List OrdersWrite :=
  inbounds.map (fun t => .markSeen t.orderIndex rail now)

/-- The settlements of a tick, one for each group with an order to close. -/
def settlements (inbounds : List Incoming) (orders : OrdersStore) (now : ℤ) (cfg : SettleConfig)
    : List Settlement :=
  let opened := orders.openOrder cfg.railName
  (creditGroups opened inbounds).rows.filterMap (settlementOf opened now cfg)

/-- The writes of a tick up to the backstop. -/
def settleWritesToBackstop (inbounds : List Incoming) (orders : OrdersStore) (now : ℤ)
    (cfg : SettleConfig)
    : List OrdersWrite :=
  sightings inbounds now cfg.railName
    ++ (settlements inbounds orders now cfg).map .commitSettlement
    ++ [.purgeStale (now - cfg.backstopMs) cfg.railName]

/-- The store the fast reap reads again. -/
def purgedStore (inbounds : List Incoming) (orders : OrdersStore) (now : ℤ) (cfg : SettleConfig)
    : OrdersStore :=
  (settleWritesToBackstop inbounds orders now cfg).foldl OrdersStore.write orders

/-- The writes of a tick, in order. A process that dies in a tick has committed some first ones. -/
def settleWrites (inbounds : List Incoming) (orders : OrdersStore) (now : ℤ) (cfg : SettleConfig)
    : List OrdersWrite :=
  settleWritesToBackstop inbounds orders now cfg
    ++ (unfundedOrders (purgedStore inbounds orders now cfg) now cfg).map
      (fun o => .removeOrder o.orderIndex cfg.railName)

/-- The credits a list of writes enqueues under new keys, in order. -/
def OrdersStore.enqueuedBy (orders : OrdersStore) : List OrdersWrite → List Settlement
  | [] => []
  | write :: writes =>
      (orders.enqueues write).toList ++ (orders.write write).enqueuedBy writes

theorem OrdersStore.enqueuedBy_append (orders : OrdersStore) (earlier later : List OrdersWrite)
    : orders.enqueuedBy (earlier ++ later)
      = orders.enqueuedBy earlier ++ (earlier.foldl OrdersStore.write orders).enqueuedBy later := by
  induction earlier generalizing orders with
  | nil => rfl
  | cons write writes ih => simp [enqueuedBy, ih]

/-- Writes that settle nothing enqueue nothing; by induction on the writes. -/
theorem OrdersStore.enqueuedBy_eq_nil {writes : List OrdersWrite}
    (idle : ∀ write ∈ writes, ∀ orders : OrdersStore, orders.enqueues write = none)
    (orders : OrdersStore)
    : orders.enqueuedBy writes = [] := by
  induction writes generalizing orders with
  | nil => rfl
  | cons write rest ih =>
      obtain ⟨first, others⟩ := List.forall_mem_cons.mp idle
      simp [enqueuedBy, first, ih others]

theorem sightings_enqueue_nothing (inbounds : List Incoming) (now : ℤ) (rail : String)
    : ∀ write ∈ sightings inbounds now rail, ∀ orders : OrdersStore,
        orders.enqueues write = none := by
  intro write member orders
  obtain ⟨t, _, rfl⟩ := List.mem_map.mp member
  rfl

/-- The loop over the inbounds writes the sightings and builds the groups; by induction on the
inbounds.
-/
theorem inbounds_loop (opened : ℤ → Option PendingOrder) (rail : String) (now : ℤ)
    (inbounds : List Incoming) (orders : OrdersStore) (groups : CreditGroups)
    : inbounds.foldl
        (fun (store, groups) t =>
          (store.markSeen t.orderIndex rail now, addInbound opened groups t))
        (orders, groups)
      = ((sightings inbounds now rail).foldl OrdersStore.write orders,
        inbounds.foldl (addInbound opened) groups) := by
  induction inbounds generalizing orders groups with
  | nil => rfl
  | cons t rest ih => simpa [sightings, OrdersStore.write] using ih _ _

/-- The loop over the groups writes their settlements and counts the new keys; by induction on
the groups.
-/
theorem groups_loop (opened : ℤ → Option PendingOrder) (now : ℤ) (cfg : SettleConfig)
    (groups : List CreditGroup) (orders : OrdersStore) (count : ℕ)
    : groups.foldl
        (fun (store, enqueued) g =>
          match settlementOf opened now cfg g with
          | none => (store, enqueued)
          | some settlement =>
              let (fresh, committed) := store.commitSettlement settlement
              (committed, if fresh then enqueued + 1 else enqueued))
        (orders, count)
      = (((groups.filterMap (settlementOf opened now cfg)).map .commitSettlement).foldl
          OrdersStore.write orders,
        count + (orders.enqueuedBy
          ((groups.filterMap (settlementOf opened now cfg)).map .commitSettlement)).length) := by
  induction groups generalizing orders count with
  | nil => rfl
  | cons g rest ih =>
      rw [List.foldl_cons]
      cases taken : settlementOf opened now cfg g with
      | none => simpa [taken] using ih orders count
      | some settlement =>
          simp only [List.filterMap_cons_some taken, List.map_cons, List.foldl_cons]
          rw [ih]
          refine Prod.ext rfl ?_
          simp only [OrdersStore.enqueuedBy, OrdersStore.enqueues, OrdersStore.write,
            List.length_append]
          split
          · simp
            omega
          · simp

theorem removals_loop (rail : String) (removed : List PendingOrder) (orders : OrdersStore)
    : removed.foldl (fun store o => store.removeOrder o.orderIndex rail) orders
      = (removed.map (fun o => .removeOrder o.orderIndex rail)).foldl OrdersStore.write orders := by
  induction removed generalizing orders with
  | nil => rfl
  | cons o rest ih => exact ih _

/-- A tick that runs to its end has committed its writes, and returns how many of them enqueued
a credit.
-/
theorem settle_writes (inbounds : List Incoming) (orders : OrdersStore) (now : ℤ)
    (cfg : SettleConfig)
    : settle inbounds orders now cfg
      = ((settleWrites inbounds orders now cfg).foldl OrdersStore.write orders,
        (orders.enqueuedBy (settleWrites inbounds orders now cfg)).length) := by
  have purged
      : purgedStore inbounds orders now cfg
        = (((settlements inbounds orders now cfg).map .commitSettlement).foldl OrdersStore.write
            ((sightings inbounds now cfg.railName).foldl OrdersStore.write orders)).purgeStale
            (now - cfg.backstopMs) cfg.railName := by
    simp [purgedStore, settleWritesToBackstop, OrdersStore.write]
  have reapsIdle
      : ∀ write ∈ (unfundedOrders (purgedStore inbounds orders now cfg) now cfg).map
          (fun o => OrdersWrite.removeOrder o.orderIndex cfg.railName),
        ∀ store : OrdersStore, store.enqueues write = none := by
    intro write member store
    obtain ⟨o, _, rfl⟩ := List.mem_map.mp member
    rfl
  simp only [settle, inbounds_loop, groups_loop, removals_loop]
  refine Prod.ext ?_ ?_
  · simp only [settleWrites, List.foldl_append]
    rw [← purgedStore, purged]
    rfl
  · simp only [settleWrites, settleWritesToBackstop, OrdersStore.enqueuedBy_append,
      OrdersStore.enqueuedBy_eq_nil (sightings_enqueue_nothing inbounds now cfg.railName),
      OrdersStore.enqueuedBy_eq_nil reapsIdle]
    simp [OrdersStore.enqueuedBy, OrdersStore.enqueues, settlements, creditGroups]

-----------------------------------------------------------------------------------------
-- What a tick settles
-----------------------------------------------------------------------------------------

/-- A rail's map of open orders is the primary-key lookup. -/
theorem OrdersStore.openOrder_eq (orders : OrdersStore) (rail : String) (orderIndex : ℤ)
    : orders.openOrder rail orderIndex = orders.pendingOrders.get? (rail, orderIndex) := by
  cases found : orders.openOrder rail orderIndex with
  | none =>
      by_contra listed
      obtain ⟨order, stored⟩ := Option.ne_none_iff_exists'.mp (Ne.symm listed)
      have same : order.key = (rail, orderIndex) := Table.key_of_get? stored
      obtain ⟨sameRail, sameIndex⟩ := Prod.mk.inj same
      have missed := List.find?_eq_none.mp found order
        (mem_openOrders.mpr ⟨Table.mem_of_get? stored, sameRail⟩)
      exact missed (by simpa using sameIndex)
  | some order =>
      obtain ⟨stored, sameRail⟩ := mem_openOrders.mp (List.mem_of_find?_eq_some found)
      have sameIndex : order.orderIndex = orderIndex := by simpa using List.find?_some found
      rw [← sameRail, ← sameIndex]
      exact (Table.get?_of_mem stored).symm

/-- Amounts added one after the other, each sum rounded. -/
def doubleSum : List ℚ → ℚ
  | [] => 0
  | first :: rest => rest.foldl (fun sum amount => Binary64.round (sum + amount)) first

theorem doubleSum_append {amounts : List ℚ} (started : amounts ≠ []) (amount : ℚ)
    : doubleSum (amounts ++ [amount]) = Binary64.round (doubleSum amounts + amount) := by
  cases amounts with
  | nil => exact (started rfl).elim
  | cons first rest => simp [doubleSum]

/-- The creditable inbounds of a tick under an idempotency key. -/
def creditableUnder (opened : ℤ → Option PendingOrder) (inbounds : List Incoming) (key : String)
    : List Incoming :=
  inbounds.filter (fun t => creditable opened t ∧ t.idempotencyKey = key)

theorem mem_creditableUnder {opened : ℤ → Option PendingOrder} {inbounds : List Incoming}
    {key : String} {t : Incoming}
    : t ∈ creditableUnder opened inbounds key
      ↔ t ∈ inbounds ∧ creditable opened t = true ∧ t.idempotencyKey = key := by
  simp [creditableUnder]

/-- A key's group is the index of its first creditable inbound with the sum over all of them; by
induction on the last inbound.
-/
theorem creditGroups_get? (opened : ℤ → Option PendingOrder) (inbounds : List Incoming)
    (key : String)
    : (creditGroups opened inbounds).get? key
      = (creditableUnder opened inbounds key).head?.map
        (fun first =>
          ⟨key, first.orderIndex,
            doubleSum ((creditableUnder opened inbounds key).map Incoming.amount)⟩) := by
  induction inbounds using List.reverseRecOn with
  | nil => rfl
  | append_singleton earlier t ih =>
      have under
          : creditableUnder opened (earlier ++ [t]) key
            = creditableUnder opened earlier key
              ++ if creditable opened t ∧ t.idempotencyKey = key then [t] else [] := by
        simp [creditableUnder, List.filter_append, List.filter_cons]
      simp only [creditGroups, List.foldl_append, List.foldl_cons, List.foldl_nil] at ih ⊢
      by_cases credits : creditable opened t = true
      · simp only [addInbound, credits, if_true]
        rw [Table.get?_upsert, ih, under]
        by_cases same : t.idempotencyKey = key
        · cases named : creditableUnder opened earlier key with
          | nil => simp [credits, same, doubleSum]
          | cons first rest =>
              have summed
                  : doubleSum (first.amount :: (rest.map Incoming.amount ++ [t.amount]))
                    = Binary64.round
                      (doubleSum (first.amount :: rest.map Incoming.amount) + t.amount) :=
                doubleSum_append (List.cons_ne_nil _ _) t.amount
              simp [credits, same, summed]
        · simp [same]
      · rw [under]
        simpa [addInbound, credits] using ih

theorem settlementOf_eq_some_iff {opened : ℤ → Option PendingOrder} {now : ℤ} {cfg : SettleConfig}
    {g : CreditGroup} {settlement : Settlement}
    : settlementOf opened now cfg g = some settlement
      ↔ ∃ order, opened g.orderIndex = some order ∧ 0 < order.expectedAtomic
          ∧ settlement = settlementFor now cfg g order := by
  unfold settlementOf
  split
  · rename_i absent
    simp [absent]
  · rename_i o found
    simp [found, eq_comm]

/-- A settlement of a tick closes the order of its key's first creditable inbound, for the sum of
the key's creditable inbounds.
-/
theorem mem_settlements {inbounds : List Incoming} {orders : OrdersStore} {now : ℤ}
    {cfg : SettleConfig} {settlement : Settlement}
    : settlement ∈ settlements inbounds orders now cfg
      ↔ ∃ key first order,
          let named := creditableUnder (orders.openOrder cfg.railName) inbounds key
          named.head? = some first
          ∧ orders.openOrder cfg.railName first.orderIndex = some order
          ∧ 0 < order.expectedAtomic
          ∧ settlement
            = settlementFor now cfg
              ⟨key, first.orderIndex, doubleSum (named.map Incoming.amount)⟩ order := by
  simp only [settlements, List.mem_filterMap, settlementOf_eq_some_iff]
  constructor
  · intro taken
    obtain ⟨g, member, order, found, expects, same⟩ := taken
    have looked := Table.get?_of_mem member
    rw [creditGroups_get?] at looked
    obtain ⟨first, head, group⟩ := Option.map_eq_some_iff.mp looked
    rw [← group] at found same
    exact ⟨g.idempotencyKey, first, order, head, found, expects, same⟩
  · intro taken
    obtain ⟨key, first, order, head, found, expects, same⟩ := taken
    refine ⟨_, Table.mem_of_get? (k := key) ?_, order, found, expects, same⟩
    rw [creditGroups_get?, head]
    rfl

/-- A tick settles each key at most once. -/
theorem settlements_keys_nodup (inbounds : List Incoming) (orders : OrdersStore) (now : ℤ)
    (cfg : SettleConfig)
    : ((settlements inbounds orders now cfg).map Settlement.key).Nodup := by
  have along (groups : List CreditGroup)
      : ((groups.filterMap (settlementOf (orders.openOrder cfg.railName) now cfg)).map
          Settlement.key).Sublist (groups.map CreditGroup.idempotencyKey) := by
    induction groups with
    | nil => simp
    | cons g rest ih =>
        cases taken : settlementOf (orders.openOrder cfg.railName) now cfg g with
        | none => simpa [taken] using ih.cons _
        | some settlement =>
            obtain ⟨order, _, _, rfl⟩ := settlementOf_eq_some_iff.mp taken
            rw [List.filterMap_cons_some taken]
            exact ih.cons_cons _
  exact (along _).nodup (creditGroups (orders.openOrder cfg.railName) inbounds).nodup

end Nullsink.Payments
