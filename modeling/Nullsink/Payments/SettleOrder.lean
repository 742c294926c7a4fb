import Nullsink.Lib.Separator
import Nullsink.Payments.OutboxHead

/-! Settlement and reporting order: a tick leaves the same store for every order in which its rail
reports, and the ticks of two rails leave the same store in either order, up to insertion order.
-/

namespace Nullsink.Payments

open Relational Ecma

/-- Two stores with the same open orders, and with the same outbox and book up to insertion
order.
-/
structure SameUpToOrder (orders orders' : OrdersStore) : Prop where
  pendingOrders : orders.pendingOrders = orders'.pendingOrders
  creditOutbox : orders.creditOutbox.rows.Perm orders'.creditOutbox.rows
  revenue : orders.revenue.Perm orders'.revenue

-----------------------------------------------------------------------------------------
-- Sums of whole amounts
-----------------------------------------------------------------------------------------

/-- Amounts whose sums are safe integers as they are added up one after the other. -/
def SafeRunningSums (amounts : List ℚ) : Prop :=
  ∀ earlier, earlier <+: amounts → ∃ sum : ℤ, earlier.sum = sum ∧ |sum| ≤ 2 ^ 53 - 1

/-- A sum is exact while its running sums are safe; by induction on the last amount. -/
theorem doubleSum_eq_sum {amounts : List ℚ} (safe : SafeRunningSums amounts)
    : doubleSum amounts = amounts.sum := by
  induction amounts using List.reverseRecOn with
  | nil => rfl
  | append_singleton earlier amount ih =>
      have exact := ih fun shorter initial => safe shorter (initial.trans (List.prefix_append _ _))
      rcases eq_or_ne earlier [] with rfl | started
      · simp [doubleSum]
      · obtain ⟨sum, whole, small⟩ := safe _ List.prefix_rfl
        have added : earlier.sum + amount = sum := by
          rw [← whole, List.sum_append, List.sum_singleton]
        rw [doubleSum_append started, exact, added, whole]
        exact Binary64.round_intCast (by omega)

/-- Whole amounts of at least zero with a safe sum have safe running sums in every order. -/
theorem safeRunningSums_of_nonneg {amounts : List ℚ} (whole : ∀ amount ∈ amounts, amount.isInt)
    (nonneg : ∀ amount ∈ amounts, 0 ≤ amount) (safe : amounts.sum ≤ 2 ^ 53 - 1)
    : SafeRunningSums amounts := by
  intro earlier initial
  have integral (shorter : List ℚ) (among : ∀ amount ∈ shorter, amount ∈ amounts)
      : ∃ sum : ℤ, shorter.sum = sum := by
    induction shorter with
    | nil => exact ⟨0, by simp⟩
    | cons amount rest ih =>
        obtain ⟨first, others⟩ := List.forall_mem_cons.mp among
        obtain ⟨sum, same⟩ := ih others
        refine ⟨amount.num + sum, ?_⟩
        rw [List.sum_cons, same]
        push_cast
        rw [Rat.eq_num_of_isInt (whole amount first)]
        simp
  obtain ⟨sum, same⟩ := integral earlier fun _ => (initial.subset ·)
  refine ⟨sum, same, ?_⟩
  have above : 0 ≤ earlier.sum := List.sum_nonneg fun amount member =>
    nonneg amount (initial.subset member)
  have below : earlier.sum ≤ amounts.sum := initial.sublist.sum_le_sum nonneg
  rw [same] at above below
  rw [abs_of_nonneg (by exact_mod_cast above)]
  exact_mod_cast below.trans safe

-----------------------------------------------------------------------------------------
-- Writes in another order
-----------------------------------------------------------------------------------------

/-- Writes that commute on every order treat it alike in any order; by induction on the
permutation.
-/
theorem fate_perm {writes writes' : List OrdersWrite} (perm : writes.Perm writes')
    (commute
      : ∀ first ∈ writes, ∀ second ∈ writes, ∀ order,
          (first.orderAfter order).bind second.orderAfter
          = (second.orderAfter order).bind first.orderAfter)
    : fate writes = fate writes' := by
  induction perm with
  | nil => rfl
  | cons write _ ih =>
      funext order
      rw [fate_cons, fate_cons, ih fun first later second later' =>
        commute first (List.mem_cons_of_mem _ later) second (List.mem_cons_of_mem _ later')]
  | swap first second rest =>
      funext order
      have pair (earlier later : OrdersWrite)
          : fate (earlier :: later :: rest) order
            = ((earlier.orderAfter order).bind later.orderAfter).bind (fate rest) :=
        (Option.bind_assoc _ _ _).symm
      rw [pair, pair, commute second (by simp) first (by simp) order]
  | trans earlier _ ih ih' =>
      exact (ih commute).trans (ih' fun first member second member' =>
        commute first (earlier.mem_iff.mpr member) second (earlier.mem_iff.mpr member'))

/-- A write that keeps or removes an order, whenever it was sighted. -/
def OrdersWrite.Removes (write : OrdersWrite) : Prop :=
  ∃ gone : PendingOrder → Bool,
    (∀ order, write.orderAfter order = if gone order then none else some order)
    ∧ ∀ order seenAt, gone { order with seenAt } = gone order

/-- A removal commutes with every write, which at most sights the order. -/
theorem OrdersWrite.Removes.commute {write : OrdersWrite} (removes : write.Removes)
    (other : OrdersWrite) (order : PendingOrder)
    : (write.orderAfter order).bind other.orderAfter
      = (other.orderAfter order).bind write.orderAfter := by
  obtain ⟨gone, removed, unsighted⟩ := removes
  cases kept : other.orderAfter order with
  | none =>
      rw [removed]
      split
      · rfl
      · exact kept
  | some after =>
      have same : gone after = gone order := by
        rw [(orderAfter_same kept).1]
        exact unsighted order after.seenAt
      rw [removed, Option.bind_some, removed, same]
      split
      · rfl
      · exact kept

/-- The sightings of one time commute. -/
theorem OrdersWrite.markSeen_commute (index index' : ℤ) (rail rail' : String) (now : ℤ)
    (order : PendingOrder)
    : ((markSeen index rail now).orderAfter order).bind (markSeen index' rail' now).orderAfter
      = ((markSeen index' rail' now).orderAfter order).bind
        (markSeen index rail now).orderAfter := by
  have once (index : ℤ) (rail : String)
      : OrdersStore.sightedAt index rail now order
        = if order.key = (rail, index) ∧ order.seenAt = none then
            { order with seenAt := some now }
          else order :=
    rfl
  have again (index : ℤ) (rail : String)
      : OrdersStore.sightedAt index rail now { order with seenAt := some now }
        = { order with seenAt := some now } :=
    if_neg (by simp)
  simp only [orderAfter, Option.bind_some, Option.some.injEq]
  by_cases first : order.key = (rail, index) ∧ order.seenAt = none
  · have sighted := (once index rail).trans (if_pos first)
    by_cases second : order.key = (rail', index') ∧ order.seenAt = none
    · rw [sighted, (once index' rail').trans (if_pos second), again, again]
    · rw [(once index' rail').trans (if_neg second), sighted, again]
  · have same := (once index rail).trans (if_neg first)
    by_cases second : order.key = (rail', index') ∧ order.seenAt = none
    · rw [same, (once index' rail').trans (if_pos second), again]
    · rw [same, (once index' rail').trans (if_neg second), same]

/-- A write of a tick: it opens no order and leaves the rows of the outbox as they are. -/
structure OrdersWrite.OfTick (write : OrdersWrite) : Prop where
  opens : ∀ orders : OrdersStore, orders.opens write = none
  creditAfter : write.creditAfter = id

theorem settleWrites_ofTick {inbounds : List Incoming} {orders : OrdersStore} {now : ℤ}
    {cfg : SettleConfig} {write : OrdersWrite}
    (member : write ∈ settleWrites inbounds orders now cfg)
    : write.OfTick where
  opens := settleWrites_opens member
  creditAfter := by
    rcases mem_settleWrites.mp member
      with ⟨t, _, rfl⟩ | ⟨settlement, _, rfl⟩ | rfl | ⟨o, _, rfl⟩ <;> rfl

/-- Writes of ticks append what they enqueue to the outbox; by induction on the writes. -/
theorem OrdersStore.writes_outbox {writes : List OrdersWrite}
    (ofTick : ∀ write ∈ writes, write.OfTick) (orders : OrdersStore)
    : (writes.foldl OrdersStore.write orders).creditOutbox.rows
      = orders.creditOutbox.rows ++ (orders.enqueuedBy writes).map Settlement.credit := by
  induction writes generalizing orders with
  | nil => simp [enqueuedBy]
  | cons write rest ih =>
      obtain ⟨first, others⟩ := List.forall_mem_cons.mp ofTick
      rw [List.foldl_cons, ih others, orders.write_outbox, first.creditAfter]
      simp [enqueuedBy]

theorem OrdersStore.writes_revenue (orders : OrdersStore) (writes : List OrdersWrite)
    : (writes.foldl OrdersStore.write orders).revenue
      = orders.revenue ++ (orders.enqueuedBy writes).map Settlement.sale := by
  induction writes generalizing orders with
  | nil => simp [enqueuedBy]
  | cons write rest ih =>
      rw [List.foldl_cons, ih, orders.write_revenue]
      simp [enqueuedBy]

/-- A key is new after writes of ticks when it was new before and none of them enqueues it. -/
theorem OrdersStore.writes_fresh_iff {writes : List OrdersWrite}
    (ofTick : ∀ write ∈ writes, write.OfTick) {orders : OrdersStore} {key : String}
    : (writes.foldl OrdersStore.write orders).creditOutbox.get? key = none
      ↔ orders.creditOutbox.get? key = none
        ∧ ∀ settlement ∈ orders.enqueuedBy writes, settlement.key ≠ key := by
  simp only [Table.get?_eq_none_iff, writes_outbox ofTick, List.forall_mem_append,
    List.forall_mem_map, Settlement.credit]

/-- No list of writes enqueues a key twice. -/
theorem OrdersStore.enqueuedBy_nodup (orders : OrdersStore) (writes : List OrdersWrite)
    : (orders.enqueuedBy writes).Nodup := by
  have once :=
    ((OutboxInvariant.begin (h := ⟨orders, [], [], []⟩) rfl).writes writes).enqueuedOnce
  rw [OrderHistory.writes_enqueued, List.nil_append, List.nodup_append] at once
  exact once.2.1.of_map

/-- Writes of ticks that treat the open orders alike and enqueue the same credits. -/
theorem SameUpToOrder.of_writes {orders : OrdersStore} {writes writes' : List OrdersWrite}
    (ofTick : ∀ write ∈ writes, write.OfTick) (ofTick' : ∀ write ∈ writes', write.OfTick)
    (fates : ∀ order ∈ orders.pendingOrders.rows, fate writes order = fate writes' order)
    (enqueued : (orders.enqueuedBy writes).Perm (orders.enqueuedBy writes'))
    : SameUpToOrder (writes.foldl OrdersStore.write orders)
        (writes'.foldl OrdersStore.write orders) where
  pendingOrders := by
    refine Table.ext ?_
    rw [OrdersStore.writes_rows fun write member => (ofTick write member).opens,
      OrdersStore.writes_rows fun write member => (ofTick' write member).opens]
    exact List.filterMap_congr fates
  creditOutbox := by
    rw [OrdersStore.writes_outbox ofTick, OrdersStore.writes_outbox ofTick']
    exact (enqueued.map _).append_left _
  revenue := by
    rw [OrdersStore.writes_revenue, OrdersStore.writes_revenue]
    exact (enqueued.map _).append_left _

-----------------------------------------------------------------------------------------
-- One tick, reported in another order
-----------------------------------------------------------------------------------------

section Tick

variable {inbounds inbounds' : List Incoming} {orders orders' : OrdersStore} {now : ℤ}
  {cfg cfg' : SettleConfig}

/-- Each key belongs to one order index. -/
def KeysDetermineIndex (inbounds : List Incoming) : Prop :=
  ∀ t ∈ inbounds, ∀ u ∈ inbounds, t.idempotencyKey = u.idempotencyKey → t.orderIndex = u.orderIndex

/-- What a tick credits under each key has safe running sums. -/
def SafeAmounts (orders : OrdersStore) (rail : String) (inbounds : List Incoming) : Prop :=
  ∀ key,
    SafeRunningSums
      ((creditableUnder (orders.openOrder rail) inbounds key).map Incoming.amount)

/-- The writes of a tick up to the backstop commute. -/
theorem settleWritesToBackstop_commute {first second : OrdersWrite}
    (member : first ∈ settleWritesToBackstop inbounds orders now cfg)
    (member' : second ∈ settleWritesToBackstop inbounds orders now cfg) (order : PendingOrder)
    : (first.orderAfter order).bind second.orderAfter
      = (second.orderAfter order).bind first.orderAfter := by
  have kinds {write : OrdersWrite}
      (member : write ∈ settleWritesToBackstop inbounds orders now cfg)
      : (∃ index, write = .markSeen index cfg.railName now) ∨ write.Removes := by
    simp only [settleWritesToBackstop, sightings, List.mem_append, List.mem_map,
      List.mem_singleton] at member
    rcases member with (⟨t, _, rfl⟩ | ⟨settlement, _, rfl⟩) | rfl
    · exact Or.inl ⟨_, rfl⟩
    · exact Or.inr ⟨fun order => order.key = settlement.order,
        fun order => by simp [OrdersWrite.orderAfter], fun _ _ => rfl⟩
    · exact Or.inr ⟨fun order =>
        order.createdAt < now - cfg.backstopMs ∧ order.rail = cfg.railName,
        fun order => by simp [OrdersWrite.orderAfter], fun _ _ => rfl⟩
  rcases kinds member with ⟨index, rfl⟩ | removes
  · rcases kinds member' with ⟨index', rfl⟩ | removes'
    · exact OrdersWrite.markSeen_commute index index' _ _ now order
    · exact (removes'.commute _ order).symm
  · exact removes.commute second order

/-- Reporting in another order settles the same: each key the same sum, for the same order. -/
theorem settlements_subset_of_perm (perm : inbounds.Perm inbounds')
    (determined : KeysDetermineIndex inbounds) (safe : SafeAmounts orders cfg.railName inbounds)
    (safe' : SafeAmounts orders cfg.railName inbounds')
    : settlements inbounds orders now cfg ⊆ settlements inbounds' orders now cfg := by
  intro settlement member
  obtain ⟨key, first, order, head, found, expects, rfl⟩ := mem_settlements.mp member
  have named
      : (creditableUnder (orders.openOrder cfg.railName) inbounds key).Perm
          (creditableUnder (orders.openOrder cfg.railName) inbounds' key) :=
    perm.filter _
  have sums
      : doubleSum ((creditableUnder (orders.openOrder cfg.railName) inbounds key).map
            Incoming.amount)
          = doubleSum ((creditableUnder (orders.openOrder cfg.railName) inbounds' key).map
            Incoming.amount) := by
    rw [doubleSum_eq_sum (safe key), doubleSum_eq_sum (safe' key)]
    exact (named.map _).sum_eq
  have present := named.mem_iff.mp (List.mem_of_mem_head? head)
  obtain ⟨first', head'⟩ := Option.isSome_iff_exists.mp
    (List.isSome_head?.mpr (List.ne_nil_of_mem present))
  obtain ⟨reported, _, own⟩ := mem_creditableUnder.mp (List.mem_of_mem_head? head)
  obtain ⟨reported', _, own'⟩ := mem_creditableUnder.mp (List.mem_of_mem_head? head')
  have index : first'.orderIndex = first.orderIndex :=
    determined first' (perm.mem_iff.mpr reported') first reported (own'.trans own.symm)
  refine mem_settlements.mpr ⟨key, first', order, head', ?_, expects, ?_⟩
  · rw [index]
    exact found
  · rw [index, sums]

theorem KeysDetermineIndex.perm (determined : KeysDetermineIndex inbounds)
    (perm : inbounds.Perm inbounds')
    : KeysDetermineIndex inbounds' :=
  fun t reported u reported' =>
    determined t (perm.mem_iff.mpr reported) u (perm.mem_iff.mpr reported')

theorem settlements_perm (perm : inbounds.Perm inbounds')
    (determined : KeysDetermineIndex inbounds) (safe : SafeAmounts orders cfg.railName inbounds)
    (safe' : SafeAmounts orders cfg.railName inbounds')
    : (settlements inbounds orders now cfg).Perm (settlements inbounds' orders now cfg) := by
  refine (List.perm_ext_iff_of_nodup (settlements_keys_nodup _ _ _ _).of_map
    (settlements_keys_nodup _ _ _ _).of_map).mpr fun settlement => ⟨?_, ?_⟩
  · exact fun member => settlements_subset_of_perm perm determined safe safe' member
  · exact fun member =>
      settlements_subset_of_perm perm.symm (determined.perm perm) safe' safe member

theorem unfundedOrders_congr
    (same : orders.openOrders cfg.railName = orders'.openOrders cfg.railName)
    : unfundedOrders orders now cfg = unfundedOrders orders' now cfg := by
  simp only [unfundedOrders, same]

/-- Reporting in another order treats every open order alike. -/
theorem fate_settleWrites_perm (perm : inbounds.Perm inbounds')
    (determined : KeysDetermineIndex inbounds) (safe : SafeAmounts orders cfg.railName inbounds)
    (safe' : SafeAmounts orders cfg.railName inbounds')
    : fate (settleWrites inbounds orders now cfg)
      = fate (settleWrites inbounds' orders now cfg) := by
  have toBackstop
      : fate (settleWritesToBackstop inbounds orders now cfg)
        = fate (settleWritesToBackstop inbounds' orders now cfg) := by
    refine fate_perm ?_ fun first member second member' =>
      settleWritesToBackstop_commute member member'
    exact ((perm.map _).append
      ((settlements_perm perm determined safe safe').map _)).append_right _
  have opensNone (reported : List Incoming)
      : ∀ write ∈ settleWritesToBackstop reported orders now cfg, ∀ store : OrdersStore,
          store.opens write = none :=
    fun write member => settleWrites_opens (List.mem_append_left _ member)
  have reread
      : (purgedStore inbounds orders now cfg).pendingOrders.rows
        = (purgedStore inbounds' orders now cfg).pendingOrders.rows := by
    rw [purgedStore, purgedStore, OrdersStore.writes_rows (opensNone inbounds),
      OrdersStore.writes_rows (opensNone inbounds'), toBackstop]
  have reaped
      : unfundedOrders (purgedStore inbounds orders now cfg) now cfg
        = unfundedOrders (purgedStore inbounds' orders now cfg) now cfg :=
    unfundedOrders_congr (by rw [OrdersStore.openOrders, OrdersStore.openOrders, reread])
  funext order
  rw [settleWrites, settleWrites, fate_append, fate_append, toBackstop, reaped]

/-- A tick leaves the same store for every order in which its inbounds are reported, and
enqueues as many credits.
-/
theorem settle_perm (perm : inbounds.Perm inbounds') (determined : KeysDetermineIndex inbounds)
    (safe : SafeAmounts orders cfg.railName inbounds)
    (safe' : SafeAmounts orders cfg.railName inbounds')
    : SameUpToOrder (settle inbounds orders now cfg).1 (settle inbounds' orders now cfg).1
      ∧ (settle inbounds orders now cfg).2 = (settle inbounds' orders now cfg).2 := by
  have enqueued
      : (orders.enqueuedBy (settleWrites inbounds orders now cfg)).Perm
          (orders.enqueuedBy (settleWrites inbounds' orders now cfg)) := by
    refine (List.perm_ext_iff_of_nodup (orders.enqueuedBy_nodup _)
      (orders.enqueuedBy_nodup _)).mpr fun settlement => ?_
    rw [mem_enqueuedBy_settleWrites, mem_enqueuedBy_settleWrites,
      (settlements_perm perm determined safe safe').mem_iff]
  rw [settle_writes, settle_writes]
  refine ⟨.of_writes (fun _ => settleWrites_ofTick) (fun _ => settleWrites_ofTick) ?_ enqueued,
    enqueued.length_eq⟩
  rw [fate_settleWrites_perm perm determined safe safe']
  exact fun _ _ => rfl

-----------------------------------------------------------------------------------------
-- The ticks of two rails
-----------------------------------------------------------------------------------------

theorem openOrder_congr {rail : String} (same : orders.openOrders rail = orders'.openOrders rail)
    : orders.openOrder rail = orders'.openOrder rail := by
  funext orderIndex
  rw [OrdersStore.openOrder, OrdersStore.openOrder, same]

theorem settlements_congr (same : orders.openOrders cfg.railName = orders'.openOrders cfg.railName)
    : settlements inbounds orders now cfg = settlements inbounds orders' now cfg := by
  simp only [settlements, openOrder_congr same]

/-- Lists of orders of one rail that a table holds, sorted by index, are equal as soon as they have
the same orders.
-/
theorem eq_of_sorted {listed listed' : List PendingOrder} {table : Table PendingOrder.key}
    {rail : String} (stored : ∀ order ∈ listed, order ∈ table.rows ∧ order.rail = rail)
    (sorted : listed.Pairwise (fun first second => first.orderIndex ≤ second.orderIndex))
    (sorted' : listed'.Pairwise (fun first second => first.orderIndex ≤ second.orderIndex))
    (perm : listed.Perm listed')
    : listed = listed' := by
  refine List.Perm.eq_of_pairwise ?_ sorted sorted' perm
  intro first second member member' below above
  obtain ⟨known, own⟩ := stored first member
  obtain ⟨known', own'⟩ := stored second (perm.mem_iff.mpr member')
  have same : first.key = second.key := Prod.ext (own.trans own'.symm) (le_antisymm below above)
  have found := Table.get?_of_mem known
  rw [same, Table.get?_of_mem known'] at found
  exact (Option.some.inj found).symm

/-- The open orders of a rail after writes of ticks are the fates of those before. -/
theorem openOrders_writes {writes : List OrdersWrite} (ofTick : ∀ write ∈ writes, write.OfTick)
    (rail : String)
    : (writes.foldl OrdersStore.write orders).openOrders rail
      = (orders.openOrders rail).filterMap (fate writes) := by
  have rows
      : (writes.foldl OrdersStore.write orders).pendingOrders.rows.filter
          (fun order => order.rail = rail)
        = (orders.pendingOrders.rows.filter (fun order => order.rail = rail)).filterMap
          (fate writes) := by
    rw [OrdersStore.writes_rows fun write member => (ofTick write member).opens,
      List.filter_filterMap, List.filterMap_filter]
    refine List.filterMap_congr fun order _ => ?_
    cases kept : fate writes order with
    | none => simp
    | some after =>
        have same : after.rail = order.rail := congrArg Prod.fst (fate_key kept)
        by_cases own : order.rail = rail <;> simp [Option.filter, same, own]
  refine eq_of_sorted (fun order member => OrdersStore.mem_openOrders.mp member)
    (List.pairwise_insertionSort _ _) ?_ ?_
  · refine (List.pairwise_insertionSort _ _).filterMap _ ?_
    intro first second below after kept after' kept'
    have same := congrArg Prod.snd (fate_key kept)
    have same' := congrArg Prod.snd (fate_key kept')
    exact same.le.trans (below.trans same'.ge)
  · refine (List.perm_insertionSort _ _).trans ?_
    rw [rows]
    exact ((List.perm_insertionSort _ _).symm).filterMap _

/-- The writes of a tick read the open orders of its own rail only. -/
theorem settleWrites_congr (same : orders.openOrders cfg.railName = orders'.openOrders cfg.railName)
    : settleWrites inbounds orders now cfg = settleWrites inbounds orders' now cfg := by
  have toBackstop
      : settleWritesToBackstop inbounds orders now cfg
        = settleWritesToBackstop inbounds orders' now cfg := by
    rw [settleWritesToBackstop, settleWritesToBackstop, settlements_congr same]
  have ofTick : ∀ write ∈ settleWritesToBackstop inbounds orders' now cfg, write.OfTick :=
    fun write member => settleWrites_ofTick (List.mem_append_left _ member)
  have reaped
      : unfundedOrders (purgedStore inbounds orders now cfg) now cfg
        = unfundedOrders (purgedStore inbounds orders' now cfg) now cfg := by
    refine unfundedOrders_congr ?_
    rw [purgedStore, purgedStore, toBackstop, openOrders_writes ofTick, openOrders_writes ofTick,
      same]
  rw [settleWrites, settleWrites, toBackstop, reaped]

/-- A tick of one rail leaves the open orders of another. -/
theorem openOrders_railApart {rail : String} (apart : rail ≠ cfg.railName)
    : (settle inbounds orders now cfg).1.openOrders rail = orders.openOrders rail := by
  rw [settle_writes, openOrders_writes fun _ => settleWrites_ofTick]
  have untouched
      : (orders.openOrders rail).filterMap (fate (settleWrites inbounds orders now cfg))
        = (orders.openOrders rail).filterMap some := by
    refine List.filterMap_congr fun order member => fate_of_untouched fun write among => ?_
    exact settleWrites_railApart among ((OrdersStore.mem_openOrders.mp member).2 ▸ apart)
  rw [untouched, List.filterMap_some]

/-- The keys of one report are not those of another. -/
def KeysApart (inbounds inbounds' : List Incoming) : Prop :=
  ∀ t ∈ inbounds, ∀ u ∈ inbounds', t.idempotencyKey ≠ u.idempotencyKey

/-- The tick of a rail after that of another writes what it would have written before it. -/
theorem settle_then (apart : cfg'.railName ≠ cfg.railName)
    : (settle inbounds' (settle inbounds orders now cfg).1 now cfg').1
      = (settleWrites inbounds orders now cfg ++ settleWrites inbounds' orders now cfg').foldl
        OrdersStore.write orders := by
  rw [settle_writes inbounds', settleWrites_congr (openOrders_railApart apart), settle_writes,
    List.foldl_append]

/-- Two rails with keys of their own enqueue what each would enqueue by itself. -/
theorem mem_enqueuedBy_then (apart : cfg'.railName ≠ cfg.railName)
    (keys : KeysApart inbounds inbounds') {settlement : Settlement}
    : settlement
        ∈ orders.enqueuedBy
          (settleWrites inbounds orders now cfg ++ settleWrites inbounds' orders now cfg')
      ↔ (settlement ∈ settlements inbounds orders now cfg
          ∨ settlement ∈ settlements inbounds' orders now cfg')
        ∧ orders.creditOutbox.get? settlement.key = none := by
  have first : (settleWrites inbounds orders now cfg).foldl OrdersStore.write orders
      = (settle inbounds orders now cfg).1 := by
    rw [settle_writes]
  have open' : (settle inbounds orders now cfg).1.openOrders cfg'.railName
      = orders.openOrders cfg'.railName :=
    openOrders_railApart apart
  rw [OrdersStore.enqueuedBy_append, List.mem_append, mem_enqueuedBy_settleWrites, first,
    ← settleWrites_congr open', mem_enqueuedBy_settleWrites, settlements_congr open', ← first,
    OrdersStore.writes_fresh_iff fun _ => settleWrites_ofTick]
  constructor
  · rintro (⟨settled, fresh⟩ | ⟨settled, fresh, _⟩)
    · exact ⟨Or.inl settled, fresh⟩
    · exact ⟨Or.inr settled, fresh⟩
  · rintro ⟨settled | settled, fresh⟩
    · exact Or.inl ⟨settled, fresh⟩
    · refine Or.inr ⟨settled, fresh, fun other enqueued same => ?_⟩
      obtain ⟨t, reported, _, own, _⟩ :=
        settlement_named (mem_enqueuedBy_settleWrites.mp enqueued).1
      obtain ⟨u, reported', _, own', _⟩ := settlement_named settled
      exact keys t reported u reported' (own.trans (same.trans own'.symm))

/-- Each order is treated by the tick of its own rail, whichever tick is first. -/
theorem fate_then (apart : cfg'.railName ≠ cfg.railName) (order : PendingOrder)
    : fate (settleWrites inbounds orders now cfg ++ settleWrites inbounds' orders now cfg') order
      = fate (settleWrites inbounds' orders now cfg' ++ settleWrites inbounds orders now cfg)
        order := by
  have other {inbounds : List Incoming} {cfg : SettleConfig} (foreign : order.rail ≠ cfg.railName)
      {kept : PendingOrder} (same : kept.key = order.key)
      : fate (settleWrites inbounds orders now cfg) kept = some kept := by
    have rail : kept.rail = order.rail := congrArg Prod.fst same
    exact fate_of_untouched fun write among => settleWrites_railApart among (rail ▸ foreign)
  have alone {inbounds inbounds' : List Incoming} {cfg cfg' : SettleConfig}
      (foreign : order.rail ≠ cfg'.railName)
      : fate (settleWrites inbounds orders now cfg ++ settleWrites inbounds' orders now cfg') order
          = fate (settleWrites inbounds orders now cfg) order
        ∧ fate (settleWrites inbounds' orders now cfg' ++ settleWrites inbounds orders now cfg)
            order
          = fate (settleWrites inbounds orders now cfg) order := by
    rw [fate_append, fate_append, other foreign rfl]
    refine ⟨?_, rfl⟩
    cases stood : fate (settleWrites inbounds orders now cfg) order with
    | none => rfl
    | some kept => exact other foreign (fate_key stood)
  by_cases own : order.rail = cfg.railName
  · have foreign : order.rail ≠ cfg'.railName := fun same => apart (same.symm.trans own)
    rw [(alone foreign).1, (alone foreign).2]
  · rw [(alone own).1, (alone own).2]

/-- The ticks of two rails with keys of their own leave the same store in either order. -/
theorem settle_rails_commute (apart : cfg'.railName ≠ cfg.railName)
    (keys : KeysApart inbounds inbounds')
    : SameUpToOrder (settle inbounds' (settle inbounds orders now cfg).1 now cfg').1
        (settle inbounds (settle inbounds' orders now cfg').1 now cfg).1 := by
  have ofTicks {inbounds inbounds' : List Incoming} {cfg cfg' : SettleConfig}
      : ∀ write
          ∈ settleWrites inbounds orders now cfg ++ settleWrites inbounds' orders now cfg',
          write.OfTick := by
    intro write among
    rcases List.mem_append.mp among with first | second
    · exact settleWrites_ofTick first
    · exact settleWrites_ofTick second
  rw [settle_then apart, settle_then apart.symm]
  refine .of_writes ofTicks ofTicks (fun order _ => fate_then apart order) ?_
  refine (List.perm_ext_iff_of_nodup (orders.enqueuedBy_nodup _)
    (orders.enqueuedBy_nodup _)).mpr fun settlement => ?_
  rw [mem_enqueuedBy_then apart keys,
    mem_enqueuedBy_then apart.symm fun t reported u reported' same =>
      keys u reported' t reported same.symm,
    or_comm]

/-- Whole amounts of at least zero, with a safe sum under each key, have safe running sums however
they are reported.
-/
theorem safeAmounts_of_nonneg {rail : String}
    (whole : ∀ t ∈ inbounds, t.amount.isInt ∧ 0 ≤ t.amount)
    (safe
      : ∀ key,
          ((inbounds.filter (fun t => t.idempotencyKey = key)).map Incoming.amount).sum
          ≤ 2 ^ 53 - 1)
    : SafeAmounts orders rail inbounds := by
  intro key
  have among {t : Incoming} (named : t ∈ creditableUnder (orders.openOrder rail) inbounds key)
      : t ∈ inbounds :=
    (mem_creditableUnder.mp named).1
  have sublist
      : (creditableUnder (orders.openOrder rail) inbounds key).Sublist
          (inbounds.filter (fun t => t.idempotencyKey = key)) := by
    refine List.monotone_filter_right inbounds fun t named => ?_
    simp only [decide_eq_true_eq] at named ⊢
    exact named.2
  refine safeRunningSums_of_nonneg ?_ ?_ ?_
  · exact List.forall_mem_map.mpr fun t named => (whole t (among named)).1
  · exact List.forall_mem_map.mpr fun t named => (whole t (among named)).2
  · refine ((sublist.map Incoming.amount).sum_le_sum ?_).trans (safe key)
    exact List.forall_mem_map.mpr fun t member => (whole t (List.mem_of_mem_filter member)).2

end Tick

/-- A Monero key has one colon, after a transaction id without any; a Bitcoin key has two. -/
theorem Rail.reported_apart {decimals : Decimals} {stringify : Json → String}
    {confirmations confirmations' : ℤ} {watched watched' : List ℤ}
    {answer answer' : Except String Ledger.Response} {inbounds inbounds' : List Incoming}
    (plain : ∀ index : ℤ, ':' ∉ (decimals.write (.ofInt index)).toList)
    (monero
      : Rail.monero.reported decimals stringify confirmations watched answer = .ok inbounds)
    (bitcoin
      : Rail.bitcoin.reported decimals stringify confirmations' watched' answer' = .ok inbounds')
    (txids
      : ∀ t ∈ inbounds, ∀ txid,
          t.idempotencyKey = Rail.monero.keyFor decimals txid (.ofInt t.orderIndex)
          → ':' ∉ txid.toList)
    : KeysApart inbounds inbounds' := by
  intro t reported u reported' same
  obtain ⟨txid, keyed⟩ := Rail.reported_key monero t reported
  obtain ⟨txid', keyed'⟩ := Rail.reported_key bitcoin u reported'
  have colons := congrArg (fun key => key.toList.count ':') (keyed.symm.trans (same.trans keyed'))
  have one := List.count_eq_zero.mpr (txids t reported txid keyed)
  have none := List.count_eq_zero.mpr (plain t.orderIndex)
  simp [Rail.keyFor, List.count_append, one, none] at colons

/-- Settlement does not depend on reporting order: not within a tick whose amounts add up to safe
integers along the way, as amounts of at least zero do in every order; and not between the ticks
of two rails, whose keys are never the same for Monero and Bitcoin.
-/
theorem settle_order_independent
    : (∀ (orders : OrdersStore) (now : ℤ) (cfg : SettleConfig) (inbounds inbounds' : List Incoming),
        inbounds.Perm inbounds'
        → KeysDetermineIndex inbounds
        → SafeAmounts orders cfg.railName inbounds
        → SafeAmounts orders cfg.railName inbounds'
        → SameUpToOrder (settle inbounds orders now cfg).1 (settle inbounds' orders now cfg).1
          ∧ (settle inbounds orders now cfg).2 = (settle inbounds' orders now cfg).2)
      ∧ (∀ (orders : OrdersStore) (rail : String) (inbounds : List Incoming),
          (∀ t ∈ inbounds, t.amount.isInt ∧ 0 ≤ t.amount)
          → (∀ key,
              ((inbounds.filter (fun t => t.idempotencyKey = key)).map Incoming.amount).sum
              ≤ 2 ^ 53 - 1)
          → SafeAmounts orders rail inbounds)
      ∧ (∀ (orders : OrdersStore) (now : ℤ) (cfg cfg' : SettleConfig)
            (inbounds inbounds' : List Incoming),
          cfg'.railName ≠ cfg.railName
          → KeysApart inbounds inbounds'
          → SameUpToOrder (settle inbounds' (settle inbounds orders now cfg).1 now cfg').1
              (settle inbounds (settle inbounds' orders now cfg').1 now cfg).1)
      ∧ (∀ (decimals : Decimals) (stringify : Json → String) (confirmations confirmations' : ℤ)
            (watched watched' : List ℤ) (answer answer' : Except String Ledger.Response)
            (inbounds inbounds' : List Incoming),
          (∀ index : ℤ, ':' ∉ (decimals.write (.ofInt index)).toList)
          → Rail.monero.reported decimals stringify confirmations watched answer = .ok inbounds
          → Rail.bitcoin.reported decimals stringify confirmations' watched' answer'
            = .ok inbounds'
          → (∀ t ∈ inbounds, ∀ txid,
              t.idempotencyKey = Rail.monero.keyFor decimals txid (.ofInt t.orderIndex)
              → ':' ∉ txid.toList)
          → KeysApart inbounds inbounds') := by
  refine ⟨?_, ?_, ?_, ?_⟩
  · intro orders now cfg inbounds inbounds' perm determined safe safe'
    exact settle_perm perm determined safe safe'
  · intro orders rail inbounds whole safe
    exact safeAmounts_of_nonneg whole safe
  · intro orders now cfg cfg' inbounds inbounds' apart keys
    exact settle_rails_commute apart keys
  · intro decimals stringify confirmations confirmations' watched watched' answer answer'
      inbounds inbounds' plain monero bitcoin txids
    exact Rail.reported_apart plain monero bitcoin txids

/-- Two outputs of a transaction, and one of another, in one order and in the other. -/
def exampleReport : List Incoming :=
  [⟨1, "7d0c:1", 20000000000, true⟩, ⟨1, "7d0c:1", 11250000000, true⟩,
    ⟨2, "9f1e:2", 31250000000, true⟩]

/-- Two orders to pay in Monero, and a third one to pay a whole bitcoin for. -/
def exampleRails : OrdersStore :=
  ⟨⟨[boughtOrder 1, boughtOrder 2,
      { boughtOrder 3 with rail := "bitcoin", expectedAtomic := 100000000 }], by decide⟩,
    .empty, []⟩

def exampleBitcoin : SettleConfig :=
  ⟨100000000, "bitcoin", some "bitcoin", 86400000, some 16200000⟩

/-- Reads the label of the third order, and writes integers in decimal. -/
def labelDecimals : Decimals where
  write := integerDecimals.write
  read text := if text = "3" then .ofInt 3 else .nan

/-- The answer of `listunspent` with one final output to the third order. -/
def nodeAnswer : Except String Ledger.Response :=
  .ok ⟨200,
    some
      (.object [
        ("result",
          .array [
            .object [
              ("label", .string "3"), ("amount", .number (.ofInt 1)),
              ("confirmations", .number (.ofInt 3)), ("txid", .string "7d0c")
            ]
          ])
      ])⟩

def exampleTransfers : List Incoming :=
  [⟨1, "7d0c:1", 31250000000, true⟩, ⟨2, "7d0c:2", 31250000000, true⟩]

def exampleUtxos : List Incoming := [⟨3, "bitcoin:7d0c:3", 100000000, true⟩]

/-- The tick below credits both orders, whichever transaction its wallet reports first; and the
ticks of two rails credit all three orders, whichever comes first.
-/
theorem settle_order_independent_reversed
    : SameUpToOrder (settle exampleReport boughtOrders.orders 30000 exampleConfig).1
        (settle exampleReport.reverse boughtOrders.orders 30000 exampleConfig).1
      ∧ (settle exampleReport boughtOrders.orders 30000 exampleConfig).2
        = (settle exampleReport.reverse boughtOrders.orders 30000 exampleConfig).2
      ∧ SameUpToOrder
          (settle exampleUtxos (settle exampleTransfers exampleRails 30000 exampleConfig).1 30000
            exampleBitcoin).1
          (settle exampleTransfers (settle exampleUtxos exampleRails 30000 exampleBitcoin).1 30000
            exampleConfig).1 := by
  obtain ⟨permuted, safe, crossed, apart⟩ := settle_order_independent
  have sums (key : String)
      : ((exampleReport.filter (fun t => t.idempotencyKey = key)).map Incoming.amount).sum
        ≤ 2 ^ 53 - 1 := by
    by_cases first : "7d0c:1" = key
    · subst first
      decide +kernel
    · by_cases second : "9f1e:2" = key
      · subst second
        decide +kernel
      · norm_num [exampleReport, first, second]
  have whole : ∀ t ∈ exampleReport, t.amount.isInt ∧ 0 ≤ t.amount := by decide +kernel
  have reversed (key : String)
      : ((exampleReport.reverse.filter (fun t => t.idempotencyKey = key)).map Incoming.amount).sum
        ≤ 2 ^ 53 - 1 := by
    have same := ((exampleReport.reverse_perm.filter
      (fun t => decide (t.idempotencyKey = key))).map Incoming.amount).sum_eq
    exact same.trans_le (sums key)
  have one :=
    permuted boughtOrders.orders 30000 exampleConfig _ _ exampleReport.reverse_perm.symm
      (by unfold KeysDetermineIndex; decide) (safe _ _ _ whole sums)
      (safe _ _ _ (by simpa using whole) reversed)
  have plain (index : ℤ) : ':' ∉ (labelDecimals.write (.ofInt index)).toList :=
    Int.notMem_repr (by decide) (by decide) index
  have keys : KeysApart exampleTransfers exampleUtxos := by
    refine apart labelDecimals (fun _ => "") 10 2 [1, 2] [3]
      (walletAnswer 31250000000 31250000000) nodeAnswer _ _ plain (by decide +kernel)
      (by decide +kernel) ?_
    intro t reported txid keyed colon
    have counted := congrArg (fun key => key.toList.count ':') keyed
    have some : 0 < txid.toList.count ':' := List.count_pos_iff.mpr colon
    rcases List.mem_pair.mp reported with rfl | rfl
    all_goals
      simp [Rail.keyFor, List.count_append] at counted
      omega
  exact ⟨one.1, one.2, crossed _ _ _ _ _ _ (by decide) keys⟩

/-- Amounts under one key with a safe sum, whose running sums are not safe in this order. -/
def exampleUnsafe : List Incoming :=
  [⟨1, "7d0c:1", 2 ^ 53 - 1, true⟩, ⟨1, "7d0c:1", 2, true⟩, ⟨1, "7d0c:1", -2, true⟩]

/-- Two and minus two around an amount of 2^53 - 1 are lost to rounding, or not, with the order. -/
theorem settle_order_independent_fails
    : exampleUnsafe.Perm exampleUnsafe.reverse
      ∧ KeysDetermineIndex exampleUnsafe
      ∧ (∀ t ∈ exampleUnsafe, t.amount.isInt)
      ∧ (∀ key,
          |((exampleUnsafe.filter (fun t => t.idempotencyKey = key)).map Incoming.amount).sum|
          ≤ 2 ^ 53 - 1)
      ∧ ¬SameUpToOrder (settle exampleUnsafe boughtOrders.orders 30000 exampleConfig).1
          (settle exampleUnsafe.reverse boughtOrders.orders 30000 exampleConfig).1 := by
  refine ⟨exampleUnsafe.reverse_perm.symm, by unfold KeysDetermineIndex; decide, by decide +kernel,
    ?_, ?_⟩
  · intro key
    by_cases named : "7d0c:1" = key
    · subst named
      decide +kernel
    · norm_num [exampleUnsafe, named]
  · intro same
    exact absurd same.revenue (by decide +kernel)

end Nullsink.Payments
