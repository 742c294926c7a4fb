import Nullsink.Payments.Accounting

/-! Orders are reaped only when they are settled, too old, or never seen paid, across every
process that ever polled.
-/

namespace Nullsink.Payments

open Relational Transition

-----------------------------------------------------------------------------------------
-- Sightings and claims
-----------------------------------------------------------------------------------------

/-- Rails and indices are not reused: an order is opened under a new pair, and a settlement's key
belongs to its order.
-/
def OrdersWrite.Owned (owner : String → String × ℤ) (h : OrderHistory) : OrdersWrite → Prop
  | .tryAddOrder order _ => order.key ∉ h.opened
  | .commitSettlement settlement =>
      owner settlement.key = settlement.order ∧ settlement.order ∈ h.opened
  | _ => True

/-- A write that opens an order opens it under a new pair, and sights nothing. -/
theorem OrdersWrite.Owned.opens_new {owner : String → String × ℤ} {h : OrderHistory}
    {write : OrdersWrite} (owned : write.Owned owner h) {order : PendingOrder}
    (opened : h.orders.opens write = some order)
    : order.key ∉ h.opened ∧ h.orders.sights write = none := by
  cases write with
  | tryAddOrder added maxOpen =>
      rcases h.orders.write_tryAddOrder added maxOpen with ⟨closed, _⟩ | ⟨_, opens, _⟩
      · rw [closed] at opened
        cases opened
      · rw [opens] at opened
        cases opened
        exact ⟨owned, rfl⟩
  | _ => cases opened

/-- A sighted order that is still open has its sighting on disk, and a key in the outbox belongs
to an order that is closed for good.
-/
structure ReapInvariant (owner : String → String × ℤ) (h : OrderHistory) : Prop where
  openKnown
    : ∀ key order, h.orders.pendingOrders.get? key = some order → key ∈ h.opened
  sightedKnown : h.sighted ⊆ h.opened
  seen
    : ∀ key order, h.orders.pendingOrders.get? key = some order → key ∈ h.sighted
        → order.seenAt ≠ none
  claimed
    : ∀ row ∈ h.orders.creditOutbox.rows, owner row.idempotencyKey ∈ h.opened
        ∧ h.orders.pendingOrders.get? (owner row.idempotencyKey) = none

namespace ReapInvariant

variable {owner : String → String × ℤ} {h : OrderHistory}

theorem write (inv : ReapInvariant owner h) (write : OrdersWrite) (owned : write.Owned owner h)
    : ReapInvariant owner (h.write write) where
  openKnown := by
    intro key order found
    rcases OrdersStore.write_lookup found with ⟨opened, rfl⟩ | ⟨before, stood, _⟩
    · simp [OrderHistory.write, opened]
    · exact List.mem_append_left _ (inv.openKnown key before stood)
  sightedKnown := by
    intro key sighted
    refine List.mem_append_left _ ?_
    rcases List.mem_append.mp sighted with earlier | now
    · exact inv.sightedKnown earlier
    · cases write with
      | markSeen orderIndex rail atMs =>
          simp only [OrdersStore.sights, Option.mem_toList, Option.ite_none_right_eq_some,
            Option.some.injEq] at now
          obtain ⟨stands, rfl⟩ := now
          obtain ⟨order, found⟩ := Option.isSome_iff_exists.mp stands
          exact inv.openKnown _ order found
      | _ => simp [OrdersStore.sights] at now
  seen := by
    intro key order found sighted
    rcases OrdersStore.write_lookup found with ⟨opened, rfl⟩ | ⟨before, stood, kept⟩
    · obtain ⟨unused, unsighted⟩ := owned.opens_new opened
      simp only [OrderHistory.write, unsighted, Option.toList_none, List.append_nil] at sighted
      exact (unused (inv.sightedKnown sighted)).elim
    · rcases List.mem_append.mp sighted with earlier | now
      · exact (OrdersWrite.orderAfter_same kept).2 (inv.seen key before stood earlier)
      · cases write with
        | markSeen orderIndex rail atMs =>
            simp only [OrdersStore.sights, Option.mem_toList, Option.ite_none_right_eq_some,
              Option.some.injEq] at now
            obtain ⟨_, rfl⟩ := now
            cases kept
            unfold OrdersStore.sightedAt
            split
            · simp
            · rename_i already
              intro unseen
              exact already ⟨Table.key_of_get? stood, unseen⟩
        | _ => simp [OrdersStore.sights] at now
  claimed := by
    intro row member
    rw [OrderHistory.write, OrdersStore.write_outbox] at member
    rcases List.mem_append.mp member with old | new
    · obtain ⟨before, stored, rfl⟩ := List.mem_map.mp old
      obtain ⟨known, closed⟩ := inv.claimed before stored
      rw [write.creditAfter_key]
      refine ⟨List.mem_append_left _ known, ?_⟩
      cases found : (h.write write).orders.pendingOrders.get? (owner before.idempotencyKey) with
      | none => rfl
      | some order =>
          rcases OrdersStore.write_lookup found with ⟨opened, own⟩ | ⟨earlier, stood, _⟩
          · exact ((owned.opens_new opened).1 (own ▸ known)).elim
          · rw [closed] at stood
            cases stood
    · cases write with
      | commitSettlement settlement =>
          obtain ⟨credited, enqueued, rfl⟩ := List.mem_map.mp new
          simp only [OrdersStore.enqueues, Option.mem_toList, Option.ite_none_right_eq_some,
            Option.some.injEq] at enqueued
          obtain ⟨_, rfl⟩ := enqueued
          obtain ⟨belongs, known⟩ := owned
          have own : owner settlement.credit.idempotencyKey = settlement.order := belongs
          rw [own]
          refine ⟨List.mem_append_left _ known, ?_⟩
          simp [OrderHistory.write, OrdersStore.write, OrdersStore.commitSettlement_eq]
      | _ => simp [OrdersStore.enqueues] at new

/-- The writes of a tick keep the invariant, all or only the first of them. -/
theorem settle (inv : ReapInvariant owner h) {inbounds : List Incoming} {now : ℤ}
    {cfg : SettleConfig}
    (owned : ∀ t ∈ inbounds, owner t.idempotencyKey = (cfg.railName, t.orderIndex))
    {writes : List OrdersWrite} (among : writes ⊆ settleWrites inbounds h.orders now cfg)
    : ReapInvariant owner (h.writes writes) := by
  have kept : ReapInvariant owner (h.writes writes) ∧ h.opened ⊆ (h.writes writes).opened := by
    refine OrderHistory.writes_keep
      (fun later => ReapInvariant owner later ∧ h.opened ⊆ later.opened) ?_
      ⟨inv, List.Subset.refl _⟩
    intro write member later kept
    obtain ⟨inv', grown⟩ := kept
    refine ⟨inv'.write write ?_, fun key known => List.mem_append_left _ (grown known)⟩
    rcases mem_settleWrites.mp (among member)
      with ⟨t, _, rfl⟩ | ⟨settlement, settled, rfl⟩ | rfl | ⟨o, _, rfl⟩
    · trivial
    · obtain ⟨t, reported, _, key, index⟩ := settlement_named settled
      obtain ⟨order, found, _⟩ := settlement_opened settled
      have rail := settlement_rail settled
      refine ⟨?_, grown (inv.openKnown _ order found)⟩
      rw [← key, owned t reported, Settlement.order, rail, index]
    · trivial
    · trivial
  exact kept.1

end ReapInvariant

-----------------------------------------------------------------------------------------
-- Runs
-----------------------------------------------------------------------------------------

/-- Rails and indices are not reused by an action: a new order has a new pair, and the keys a
rail reports belong to the orders it reports them for.
-/
def PaymentsAction.Owned (owner : String → String × ℤ) (h : OrderHistory)
    : PaymentsAction → Prop
  | .tryAddOrder order _ => order.key ∉ h.opened
  | .pollRail watch answer _ cfg _ =>
      ∀ inbounds, pollAnswer watch answer = some inbounds
        → ∀ t ∈ inbounds, owner t.idempotencyKey = (cfg.railName, t.orderIndex)
  | _ => True

/-- Polls, buys, acknowledgements and restarts, where no pair of rail and index is reused. -/
def payments (owner : String → String × ℤ) : System OrderHistory PaymentsAction where
  initial h :=
    h.enqueued = [] ∧ h.sighted = []
    ∧ (∀ order ∈ h.orders.pendingOrders.rows, order.key ∈ h.opened)
    ∧ ∀ row ∈ h.orders.creditOutbox.rows, owner row.idempotencyKey ∈ h.opened
        ∧ h.orders.pendingOrders.get? (owner row.idempotencyKey) = none
  step h action after := after = h.act action ∧ action.Owned owner h

theorem ReapInvariant.act {owner : String → String × ℤ} {h : OrderHistory}
    (inv : ReapInvariant owner h) {action : PaymentsAction} (owned : action.Owned owner h)
    : ReapInvariant owner (h.act action) := by
  cases action with
  | tryAddOrder order maxOpen => exact inv.write (.tryAddOrder order maxOpen) owned
  | pollRail watch answer now cfg committed =>
      cases answered : pollAnswer watch answer with
      | none =>
          simpa [OrderHistory.act, PaymentsAction.writes, answered, OrderHistory.writes] using inv
      | some inbounds =>
          simp only [OrderHistory.act, PaymentsAction.writes, answered, Option.map_some,
            Option.getD_some]
          exact inv.settle (owned inbounds answered) (List.take_subset _ _)
  | ackCredit key atMs => exact inv.write (.ackCredit key atMs) trivial
  | restart => exact inv.write .rearmLegacyAckedCredits trivial

/-- The invariant holds after every run. -/
theorem payments_invariant {owner : String → String × ℤ} {start h : OrderHistory}
    {actions : List PaymentsAction} (initial : (payments owner).initial start)
    (run : (payments owner).Run start actions h)
    : ReapInvariant owner h := by
  refine run.rule (fun _ h => ReapInvariant owner h) ?_ ?_
  · obtain ⟨_, unsighted, known, claimed⟩ := initial
    exact {
      openKnown := by
        intro key order found
        rw [← Table.key_of_get? found]
        exact known order (Table.mem_of_get? found)
      sightedKnown := by simp [unsighted]
      seen := by simp [unsighted]
      claimed
    }
  · intro _ _ action _ _ inv step
    rw [step.1]
    exact inv.act step.2

-----------------------------------------------------------------------------------------
-- Why an order goes
-----------------------------------------------------------------------------------------

/-- A credit enqueued between two histories. -/
def EnqueuedSince (h after : OrderHistory) (settlement : Settlement) : Prop :=
  ∃ credits, after.enqueued = h.enqueued ++ credits ∧ settlement ∈ credits

/-- Why a tick removes an order. -/
inductive RemovedBy (h : OrderHistory) (inbounds : List Incoming) (now : ℤ) (cfg : SettleConfig)
    (order : PendingOrder) (after : OrderHistory)
    : Prop
  | settled (t : Incoming) (reported : t ∈ inbounds) (final : t.final = true)
    (own : t.orderIndex = order.orderIndex) (settlement : Settlement)
    (enqueued : EnqueuedSince h after settlement) (closes : settlement.order = order.key)
  | backstop (stale : order.createdAt < now - cfg.backstopMs)
  | unfunded (unfundedReapMs : ℤ) (configured : cfg.unfundedReapMs = some unfundedReapMs)
    (old : order.createdAt < now - unfundedReapMs) (unsighted : order.key ∉ after.sighted)

section Tick

variable {owner : String → String × ℤ} {h : OrderHistory} {inbounds : List Incoming} {now : ℤ}
  {cfg : SettleConfig} {order : PendingOrder}

/-- More writes sight no less. -/
theorem OrderHistory.sighted_grown (h : OrderHistory) (writes : List OrdersWrite)
    : h.sighted ⊆ (h.writes writes).sighted :=
  OrderHistory.writes_keep (fun later => h.sighted ⊆ later.sighted)
    (fun _ _ _ grown _ sighted => List.mem_append_left _ (grown sighted)) (List.Subset.refl _)

/-- The fast reap sights nothing. -/
theorem reaps_sighted (h : OrderHistory) (rail : String) (removed : List PendingOrder)
    : (h.writes (removed.map (fun o => .removeOrder o.orderIndex rail))).sighted = h.sighted := by
  refine OrderHistory.writes_keep (fun later => later.sighted = h.sighted) ?_ rfl
  intro write member later same
  obtain ⟨o, _, rfl⟩ := List.mem_map.mp member
  simpa [OrderHistory.write, OrdersStore.sights] using same

/-- A settlement that finds its order open enqueues a credit under a new key. -/
theorem ReapInvariant.enqueues (inv : ReapInvariant owner h) {settlement : Settlement}
    (belongs : owner settlement.key = settlement.order)
    (found : h.orders.pendingOrders.get? settlement.order = some order)
    : h.orders.enqueues (.commitSettlement settlement) = some settlement := by
  have fresh : h.orders.creditOutbox.get? settlement.key = none := by
    rw [Table.get?_eq_none_iff]
    intro row member same
    have closed := (inv.claimed row member).2
    rw [same, belongs, found] at closed
    cases closed
  exact OrdersStore.enqueues_eq_some_iff.mpr ⟨rfl, fresh⟩

/-- The settlement that removes an order in a tick has enqueued its credit. -/
theorem ReapInvariant.enqueuedSince (inv : ReapInvariant owner h)
    (owned : ∀ t ∈ inbounds, owner t.idempotencyKey = (cfg.railName, t.orderIndex))
    (found : h.orders.pendingOrders.get? order.key = some order)
    {earlier later : List OrdersWrite} {settlement : Settlement}
    (among : earlier ++ .commitSettlement settlement :: later
      ⊆ settleWrites inbounds h.orders now cfg)
    {kept : PendingOrder} (stood : fate earlier order = some kept)
    (closes : settlement.order = order.key)
    : EnqueuedSince h (h.writes (earlier ++ .commitSettlement settlement :: later)) settlement := by
  have settled := settlement_of_commit (among List.mem_append_cons_self)
  have earlierAmong : earlier ⊆ settleWrites inbounds h.orders now cfg :=
    fun write member => among (List.mem_append_left _ member)
  have looked
      : (h.writes earlier).orders.pendingOrders.get? settlement.order = some kept := by
    rw [closes, h.writes_get? fun write member => settleWrites_opens (earlierAmong member), found]
    exact stood
  obtain ⟨t, reported, _, key, index⟩ := settlement_named settled
  have belongs : owner settlement.key = settlement.order := by
    rw [← key, owned t reported, Settlement.order, settlement_rail settled, index]
  have enqueues := (inv.settle owned earlierAmong).enqueues belongs looked
  rw [OrderHistory.writes_orders] at enqueues
  refine ⟨_, h.writes_enqueued _, ?_⟩
  rw [OrdersStore.enqueuedBy_append]
  simp [OrdersStore.enqueuedBy, enqueues]

/-- An order goes in a tick for one of three reasons. -/
theorem ReapInvariant.removedBy (inv : ReapInvariant owner h)
    (owned : ∀ t ∈ inbounds, owner t.idempotencyKey = (cfg.railName, t.orderIndex))
    (found : h.orders.pendingOrders.get? order.key = some order) {committed : ℕ}
    (removed : fate ((settleWrites inbounds h.orders now cfg).take committed) order = none)
    : order.rail = cfg.railName
      ∧ RemovedBy h inbounds now cfg order
        (h.writes ((settleWrites inbounds h.orders now cfg).take committed)) := by
  obtain ⟨earlier, write, later, kept, split, stood, removes⟩ := exists_removal removed
  have among : earlier ++ write :: later ⊆ settleWrites inbounds h.orders now cfg :=
    split ▸ List.take_subset _ _
  have same := (fate_same stood).1
  rw [split]
  rcases mem_settleWrites.mp (among List.mem_append_cons_self)
    with ⟨t, _, rfl⟩ | ⟨settlement, settled, rfl⟩ | rfl | ⟨o, unfunded, rfl⟩
  · cases removes
  · simp only [OrdersWrite.orderAfter, ite_eq_left_iff, reduceCtorEq, imp_false, not_not] at removes
    have closes : settlement.order = order.key := by rw [← removes, fate_key stood]
    obtain ⟨t, reported, final, _, index⟩ := settlement_named settled
    have own : settlement.orderIndex = order.orderIndex := congrArg Prod.snd closes
    refine ⟨(congrArg Prod.fst closes).symm.trans (settlement_rail settled), ?_⟩
    exact .settled t reported final (index.trans own) settlement
      (inv.enqueuedSince owned found among stood closes) closes
  · simp only [OrdersWrite.orderAfter, ite_eq_left_iff, reduceCtorEq, imp_false, not_not] at removes
    rw [same] at removes
    exact ⟨removes.2, .backstop removes.1⟩
  · simp only [OrdersWrite.orderAfter, ite_eq_left_iff, reduceCtorEq, imp_false, not_not] at removes
    have own : order.key = (cfg.railName, o.orderIndex) := by rw [← removes, fate_key stood]
    refine ⟨congrArg Prod.fst own, ?_⟩
    -- The reap reads the store again once every sighting of the tick is on disk.
    have backstop : settleWritesToBackstop inbounds h.orders now cfg
        ⊆ settleWrites inbounds h.orders now cfg :=
      List.subset_append_left _ _
    have reread : (h.writes (settleWritesToBackstop inbounds h.orders now cfg)).orders
        = purgedStore inbounds h.orders now cfg :=
      h.writes_orders _
    have inv' := inv.settle owned backstop
    cases configured : cfg.unfundedReapMs with
    | none => simp [unfundedOrders, configured] at unfunded
    | some unfundedReapMs =>
        simp only [unfundedOrders, configured, List.mem_filter, OrdersStore.mem_openOrders,
          decide_eq_true_eq] at unfunded
        obtain ⟨⟨stored, rail⟩, unseen, old⟩ := unfunded
        have reopened
            : (h.writes
                (settleWritesToBackstop inbounds h.orders now cfg)).orders.pendingOrders.get?
                order.key
              = some o := by
          rw [reread, own, ← rail]
          exact Table.get?_of_mem stored
        have survived : fate (settleWritesToBackstop inbounds h.orders now cfg) order = some o := by
          rw [h.writes_get? fun write member => settleWrites_opens (backstop member), found]
            at reopened
          exact reopened
        refine .unfunded unfundedReapMs configured ?_ ?_
        · rw [(fate_same survived).1] at old
          exact old
        · intro sighted
          refine inv'.seen _ o reopened ?_ unseen
          rw [← split] at sighted
          have whole := (h.writes _).sighted_grown
            ((settleWrites inbounds h.orders now cfg).drop committed) sighted
          rw [← OrderHistory.writes_append, List.take_append_drop] at whole
          rw [settleWrites, OrderHistory.writes_append, reaps_sighted] at whole
          exact whole

/-- What precedes a later write of a tick holds every settlement of the tick. -/
theorem mem_of_split {Entry : Type} {front back earlier later : List Entry} {entry : Entry}
    (split : front ++ back = earlier ++ entry :: later) (other : entry ∉ front)
    : front ⊆ earlier := by
  rcases List.append_eq_append_iff.mp split with ⟨between, rfl, _⟩ | ⟨between, rfl, rest⟩
  · exact List.subset_append_left _ _
  · cases between with
    | nil => simp
    | cons head tail =>
        cases rest
        exact (other (by simp)).elim

/-- An order that expects an amount and has a final inbound goes by its settlement only. -/
theorem ReapInvariant.credited (inv : ReapInvariant owner h)
    (owned : ∀ t ∈ inbounds, owner t.idempotencyKey = (cfg.railName, t.orderIndex))
    {t : Incoming} (reported : t ∈ inbounds) (final : t.final = true)
    (found : h.orders.pendingOrders.get? (cfg.railName, t.orderIndex) = some order)
    (expects : 0 < order.expectedAtomic) (committed : ℕ)
    : let after := h.writes ((settleWrites inbounds h.orders now cfg).take committed)
      (after.orders.pendingOrders.get? order.key = none
        → ∃ settlement, EnqueuedSince h after settlement ∧ settlement.order = order.key
            ∧ settlement.hash = order.hash)
      ∧ ((settleWrites inbounds h.orders now cfg).length ≤ committed
        → after.orders.pendingOrders.get? order.key = none) := by
  intro after
  have own : order.key = (cfg.railName, t.orderIndex) := Table.key_of_get? found
  have looked : after.orders.pendingOrders.get? order.key
      = fate ((settleWrites inbounds h.orders now cfg).take committed) order := by
    rw [h.writes_get? fun write member => settleWrites_opens (List.mem_of_mem_take member), own,
      found]
    rfl
  obtain ⟨settlement, settled, _, closes⟩
      : ∃ settlement ∈ settlements inbounds h.orders now cfg,
          settlement.key = t.idempotencyKey ∧ settlement.order = order.key := by
    refine exists_settlement reported final found expects ?_
    intro u other _ sameKey
    have sameOwner := (owned u other).symm.trans (sameKey ▸ owned t reported)
    exact congrArg Prod.snd sameOwner
  constructor
  · intro gone
    rw [looked] at gone
    obtain ⟨earlier, write, later, kept, split, stood, removes⟩ := exists_removal gone
    have among : earlier ++ write :: later ⊆ settleWrites inbounds h.orders now cfg :=
      split ▸ List.take_subset _ _
    by_cases commits : ∃ committing ∈ settlements inbounds h.orders now cfg,
        write = .commitSettlement committing
    · obtain ⟨committing, committed, rfl⟩ := commits
      simp only [OrdersWrite.orderAfter, ite_eq_left_iff, reduceCtorEq, imp_false, not_not]
        at removes
      have same : committing.order = order.key := by rw [← removes, fate_key stood]
      obtain ⟨order', found', _, sameHash, _⟩ := settlement_opened committed
      rw [same, own, found] at found'
      cases found'
      have whole : after = h.writes (earlier ++ .commitSettlement committing :: later) :=
        congrArg h.writes split
      rw [whole]
      exact ⟨committing, inv.enqueuedSince owned (own ▸ found) among stood same, same, sameHash⟩
    · -- The reaps come after every settlement, and this order's has not removed it.
      have front : write ∉ sightings inbounds now cfg.railName
          ++ (settlements inbounds h.orders now cfg).map .commitSettlement := by
        intro member
        rcases List.mem_append.mp member with sighting | commit
        · obtain ⟨u, _, rfl⟩ := List.mem_map.mp sighting
          cases removes
        · obtain ⟨committing, committed, rfl⟩ := List.mem_map.mp commit
          exact commits ⟨committing, committed, rfl⟩
      have whole := List.take_append_drop committed (settleWrites inbounds h.orders now cfg)
      rw [split, List.append_assoc, List.cons_append] at whole
      have reaps : settleWrites inbounds h.orders now cfg
          = (sightings inbounds now cfg.railName
              ++ (settlements inbounds h.orders now cfg).map .commitSettlement)
            ++ (.purgeStale (now - cfg.backstopMs) cfg.railName
              :: (unfundedOrders (purgedStore inbounds h.orders now cfg) now cfg).map
                (fun o => .removeOrder o.orderIndex cfg.railName)) := by
        simp [settleWrites, settleWritesToBackstop]
      have before := mem_of_split (reaps.symm.trans whole.symm) front
      have settledFirst : OrdersWrite.commitSettlement settlement ∈ earlier :=
        before (List.mem_append_right _ (List.mem_map_of_mem settled))
      rw [fate_of_settled settledFirst closes] at stood
      cases stood
  · intro whole
    rw [looked, List.take_of_length_le whole]
    exact fate_of_settled (mem_settleWrites.mpr (Or.inr (Or.inl ⟨settlement, settled, rfl⟩))) closes

end Tick

/-- Every inbound of an open order is sighted; by induction on the inbounds. -/
theorem mem_sighted {inbounds : List Incoming} {now : ℤ} {rail : String} {h : OrderHistory}
    {t : Incoming} (reported : t ∈ inbounds)
    (opened : (h.orders.pendingOrders.get? (rail, t.orderIndex)).isSome)
    : (rail, t.orderIndex) ∈ (h.writes (sightings inbounds now rail)).sighted := by
  induction inbounds generalizing h with
  | nil => cases reported
  | cons first rest ih =>
      have sight : h.writes (sightings (first :: rest) now rail)
          = (h.write (.markSeen first.orderIndex rail now)).writes (sightings rest now rail) :=
        rfl
      rw [sight]
      rcases List.mem_cons.mp reported with rfl | later
      · refine OrderHistory.sighted_grown _ _ ?_
        simp [OrderHistory.write, OrdersStore.sights, opened]
      · refine ih later ?_
        obtain ⟨order, found⟩ := Option.isSome_iff_exists.mp opened
        simp [OrderHistory.write, OrdersStore.write_get?, OrdersStore.opens, found,
          OrdersWrite.orderAfter]

-----------------------------------------------------------------------------------------
-- Reap safety
-----------------------------------------------------------------------------------------

/-- What a step of the payments process may do to open orders. An inbound counts as reported for
an order once its sighting is on disk, which a tick writes first.
-/
structure ReapSafe (h : OrderHistory) (action : PaymentsAction) (after : OrderHistory) : Prop where
  removed
    : ∀ order, h.orders.pendingOrders.get? order.key = some order
        → after.orders.pendingOrders.get? order.key = none
        → ∃ watch answer now cfg committed inbounds,
            action = .pollRail watch answer now cfg committed
            ∧ pollAnswer watch answer = some inbounds
            ∧ order.rail = cfg.railName
            ∧ RemovedBy h inbounds now cfg order after
  credited
    : ∀ watch answer now cfg committed inbounds, ∀ t ∈ inbounds, ∀ order,
        action = .pollRail watch answer now cfg committed
        → pollAnswer watch answer = some inbounds
        → t.final = true
        → h.orders.pendingOrders.get? (cfg.railName, t.orderIndex) = some order
        → 0 < order.expectedAtomic
        → (after.orders.pendingOrders.get? order.key = none
            → ∃ settlement, EnqueuedSince h after settlement ∧ settlement.order = order.key
                ∧ settlement.hash = order.hash)
          ∧ (action.Complete h.orders → after.orders.pendingOrders.get? order.key = none)
  failed
    : ∀ watch message now cfg committed,
        action = .pollRail watch (.error message) now cfg committed → watch ≠ [] → after = h
  railsApart
    : ∀ watch answer now cfg committed, action = .pollRail watch answer now cfg committed
        → ∀ key, key.1 ≠ cfg.railName
        → after.orders.pendingOrders.get? key = h.orders.pendingOrders.get? key
  sighted
    : ∀ watch answer now cfg committed inbounds, ∀ t ∈ inbounds,
        action = .pollRail watch answer now cfg committed
        → pollAnswer watch answer = some inbounds
        → inbounds.length ≤ committed
        → (h.orders.pendingOrders.get? (cfg.railName, t.orderIndex)).isSome
        → (cfg.railName, t.orderIndex) ∈ after.sighted
  remembered : h.sighted ⊆ after.sighted

/-- The first writes of a tick hold its sightings. -/
theorem take_settleWrites {inbounds : List Incoming} {orders : OrdersStore} {now : ℤ}
    {cfg : SettleConfig} {committed : ℕ} (enough : inbounds.length ≤ committed)
    : ∃ later, (settleWrites inbounds orders now cfg).take committed
        = sightings inbounds now cfg.railName ++ later := by
  have length : (sightings inbounds now cfg.railName).length ≤ committed := by
    simpa [sightings] using enough
  rw [settleWrites, settleWritesToBackstop, List.append_assoc, List.append_assoc, List.take_append,
    List.take_of_length_le length]
  exact ⟨_, rfl⟩

/-- Buys, acknowledgements and restarts remove no order. -/
theorem act_keeps {h : OrderHistory} {write : OrdersWrite} {order : PendingOrder}
    (found : h.orders.pendingOrders.get? order.key = some order)
    (keeps : ∀ kept, write.orderAfter kept = some kept)
    : (h.write write).orders.pendingOrders.get? order.key ≠ none := by
  simp [OrderHistory.write, OrdersStore.write_get?, found, keeps]

/-- Along every run, every step is safe for open orders. -/
theorem reap_safety {owner : String → String × ℤ} {start h : OrderHistory}
    {actions : List PaymentsAction} (initial : (payments owner).initial start)
    (run : (payments owner).Run start actions h) {action : PaymentsAction} {after : OrderHistory}
    (step : (payments owner).step h action after)
    : ReapSafe h action after := by
  have inv := payments_invariant initial run
  obtain ⟨rfl, owned⟩ := step
  have settled {watch answer now cfg committed inbounds}
      (answered : pollAnswer watch answer = some inbounds)
      : h.act (.pollRail watch answer now cfg committed)
        = h.writes ((settleWrites inbounds h.orders now cfg).take committed) := by
    simp [OrderHistory.act, PaymentsAction.writes, answered]
  have idle {watch answer now cfg committed} (failed : pollAnswer watch answer = none)
      : h.act (.pollRail watch answer now cfg committed) = h := by
    simp [OrderHistory.act, PaymentsAction.writes, failed, OrderHistory.writes]
  exact {
    removed := by
      intro order found gone
      cases action with
      | tryAddOrder added maxOpen => exact (act_keeps found (fun _ => rfl) gone).elim
      | ackCredit key atMs => exact (act_keeps found (fun _ => rfl) gone).elim
      | restart => exact (act_keeps found (fun _ => rfl) gone).elim
      | pollRail watch answer now cfg committed =>
          cases answered : pollAnswer watch answer with
          | none =>
              rw [idle answered, found] at gone
              cases gone
          | some inbounds =>
              rw [settled answered] at gone ⊢
              rw [
                h.writes_get? fun write member => settleWrites_opens (List.mem_of_mem_take member),
                found] at gone
              obtain ⟨rail, reason⟩ := inv.removedBy (owned inbounds answered) found gone
              exact ⟨watch, answer, now, cfg, committed, inbounds, rfl, answered, rail, reason⟩
    credited := by
      intro watch answer now cfg committed inbounds t reported order same answered final found
        expects
      subst same
      obtain ⟨byCredit, whole⟩ :=
        inv.credited (owned inbounds answered) reported final found expects committed
      rw [settled answered]
      exact ⟨byCredit, fun complete => whole (complete inbounds answered)⟩
    failed := by
      intro watch message now cfg committed same watched
      subst same
      exact idle (by simp [pollAnswer, watched])
    railsApart := by
      intro watch answer now cfg committed same key apart
      subst same
      cases answered : pollAnswer watch answer with
      | none => rw [idle answered]
      | some inbounds =>
          rw [settled answered]
          exact tick_railsApart h (List.take_subset _ _) apart
    sighted := by
      intro watch answer now cfg committed inbounds t reported same answered enough opened
      subst same
      obtain ⟨later, first⟩ := take_settleWrites enough
      rw [settled answered, first, OrderHistory.writes_append]
      exact OrderHistory.sighted_grown _ _ (mem_sighted reported opened)
    remembered := h.sighted_grown _
  }

/-- Two orders, of which the first is seen paying but not final before the process restarts. -/
def exampleStart : OrderHistory :=
  ⟨exampleOrders, [], [("monero", 1), ("monero", 2)], []⟩

def exampleOwner (key : String) : String × ℤ :=
  if key = "7d0c:1" then ("monero", 1) else ("monero", 2)

def sightingPoll : PaymentsAction :=
  .pollRail [1, 2] (.ok [⟨1, "7d0c:1", 98, false⟩]) 30000 exampleConfig 100

/-- The wallet of the restarted process reports nothing, after the unfunded horizon. -/
def resyncingPoll : PaymentsAction :=
  .pollRail [1, 2] (.ok []) 20000000 exampleConfig 100

theorem reap_safety_restart
    : ReapSafe ((exampleStart.act sightingPoll).act .restart) resyncingPoll
        (((exampleStart.act sightingPoll).act .restart).act resyncingPoll) := by
  have initial : (payments exampleOwner).initial exampleStart :=
    ⟨rfl, rfl, by decide, fun row member => by cases member⟩
  have sighting : sightingPoll.Owned exampleOwner exampleStart := by
    intro inbounds answered
    cases answered
    decide
  have resyncing
      : resyncingPoll.Owned exampleOwner ((exampleStart.act sightingPoll).act .restart) := by
    intro inbounds answered
    cases answered
    decide
  have first
      : (payments exampleOwner).Run exampleStart ([] ++ [sightingPoll])
          (exampleStart.act sightingPoll) :=
    .snoc .nil ⟨rfl, sighting⟩
  have run
      : (payments exampleOwner).Run exampleStart ([] ++ [sightingPoll] ++ [.restart])
          ((exampleStart.act sightingPoll).act .restart) :=
    .snoc first ⟨rfl, trivial⟩
  exact reap_safety initial run ⟨rfl, resyncing⟩

/-- The order that was seen survives, and the one that was not goes. -/
example
    : ((((exampleStart.act sightingPoll).act .restart).act resyncingPoll).orders.openOrders
        "monero").map PendingOrder.orderIndex = [1] := by
  decide +kernel

end Nullsink.Payments
