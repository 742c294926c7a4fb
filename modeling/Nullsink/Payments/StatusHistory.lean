import Nullsink.Lib.Transition
import Nullsink.Payments.Margin
import Nullsink.Payments.OrderStatus

/-! The history of an order's status over polls, restarts and purchases: once a payment was seen for
it, no later answer says that it waits.
-/

namespace Nullsink.Payments

open Relational Ecma Transition

-----------------------------------------------------------------------------------------
-- The process
-----------------------------------------------------------------------------------------

/-- The store and the map the answers are made of. The map is lost with the process. -/
structure StatusProcess where
  orders : OrdersStore
  byKey : ProgressMap

/-- What a poll goes on with: nothing reported when no order is watched, and nothing at all when
the wallet query fails.
-/
def reportedBy (watch : List ℤ) (answer : Except String (List ReportedIncoming))
    : Option (List ReportedIncoming) :=
  if watch = [] then some [] else answer.toOption

/-- What happens to the process. A poll that is cut short has committed the first writes of its
tick when the process dies; the next one starts with an empty map.
-/
inductive StatusAction where
  | tryAddOrder (order : PendingOrder) (maxOpen : ℤ)
  | pollRail (watch : List ℤ) (answer : Except String (List ReportedIncoming)) (now : ℤ)
    (cfg : SettleConfig)
  | pollCut (watch : List ℤ) (answer : Except String (List ReportedIncoming)) (now : ℤ)
    (cfg : SettleConfig) (committed : ℕ)
  | ackCredit (key : String) (atMs : ℤ)
  | restart

namespace StatusProcess

/-- The inbounds as `settle` reads them. -/
def incomingOf (inbounds : List ReportedIncoming) : List Incoming :=
  inbounds.map ReportedIncoming.toIncoming

/-- `pollRail` from its transfers: settle, then refresh the map against the orders left open. -/
def tick (p : StatusProcess) (inbounds : List ReportedIncoming) (now : ℤ) (cfg : SettleConfig)
    : StatusProcess :=
  let settled := (settle (incomingOf inbounds) p.orders now cfg).1
  {
    orders := settled
    byKey :=
      p.byKey.update inbounds ((settled.openOrders cfg.railName).map PendingOrder.orderIndex)
        cfg.railName
  }

def act (p : StatusProcess) : StatusAction → StatusProcess
  | .tryAddOrder order maxOpen => { p with orders := p.orders.write (.tryAddOrder order maxOpen) }
  | .pollRail watch answer now cfg =>
      match reportedBy watch answer with
      | none => p
      | some inbounds => p.tick inbounds now cfg
  | .pollCut watch answer now cfg committed =>
      match reportedBy watch answer with
      | none => { p with byKey := .empty }
      | some inbounds =>
          {
            orders :=
              ((settleWrites (incomingOf inbounds) p.orders now cfg).take committed).foldl
                OrdersStore.write p.orders
            byKey := .empty
          }
  | .ackCredit key atMs => { p with orders := p.orders.write (.ackCredit key atMs) }
  | .restart => { orders := p.orders.write .rearmLegacyAckedCredits, byKey := .empty }

/-- Whether an order is open under a rail and index. -/
def IsOpen (p : StatusProcess) (key : String × ℤ) : Prop :=
  (p.orders.pendingOrders.get? key).isSome

instance (p : StatusProcess) (key : String × ℤ) : Decidable (p.IsOpen key) :=
  inferInstanceAs (Decidable (_ = true))

/-- Whether the order open under a rail and index has durably been seen. -/
def Seen (p : StatusProcess) (key : String × ℤ) : Prop :=
  ∃ order, p.orders.pendingOrders.get? key = some order ∧ order.seenAt ≠ none

/-- A request is answered the status of the order under a rail and index. -/
def Answers (p : StatusProcess) (cfg : BuyConfig) (key : String × ℤ) (body : Json)
    (status : OrderStatus)
    : Prop :=
  orderStatus cfg p.orders p.byKey body = .answered status
  ∧ ∃ order, requestedOrder p.orders body = .ok (some order) ∧ order.key = key

end StatusProcess

/-- Whether an action reports an inbound of a rail and index, as far as its tick gets. -/
def StatusAction.Reports (key : String × ℤ) : StatusAction → Prop
  | .pollRail watch answer _ cfg =>
      ∃ inbounds, reportedBy watch answer = some inbounds
        ∧ ∃ t ∈ inbounds, (cfg.railName, t.orderIndex) = key
  | .pollCut watch answer _ cfg committed =>
      ∃ inbounds, reportedBy watch answer = some inbounds
        ∧ ∃ t ∈ inbounds.take committed, (cfg.railName, t.orderIndex) = key
  | _ => False

/-- The process from a start, when the map is empty whatever the store holds. -/
def statusSystem : System StatusProcess StatusAction where
  initial p := p.byKey = .empty
  step p action next := next = p.act action

/-- The same steps, as long as the order of a rail and index stays open. -/
def whileOpen (key : String × ℤ) : System StatusProcess StatusAction where
  initial p := p.IsOpen key
  step p action next := next = p.act action ∧ next.IsOpen key

-----------------------------------------------------------------------------------------
-- Sightings
-----------------------------------------------------------------------------------------

/-- An order that is sighted among the writes it survives has been seen. -/
theorem fate_sighted {writes : List OrdersWrite} {order after : PendingOrder} {rail : String}
    {orderIndex atMs : ℤ} (sighted : .markSeen orderIndex rail atMs ∈ writes)
    (named : order.key = (rail, orderIndex)) (kept : fate writes order = some after)
    : after.seenAt ≠ none := by
  obtain ⟨earlier, later, rfl⟩ := List.append_of_mem sighted
  rw [fate_append] at kept
  obtain ⟨middle, first, last⟩ := Option.bind_eq_some_iff.mp kept
  rw [fate_cons] at last
  obtain ⟨marked, sees, rest⟩ := Option.bind_eq_some_iff.mp last
  refine (fate_same rest).2 ?_
  obtain rfl := Option.some.inj sees
  have own : middle.key = (rail, orderIndex) := (fate_key first).trans named
  by_cases unseen : middle.seenAt = none
  · simp [OrdersStore.sightedAt, own, unseen]
  · simp [OrdersStore.sightedAt, unseen]

/-- The first writes of a tick sight the first inbounds. -/
theorem sighting_mem_take {inbounds : List Incoming} {orders : OrdersStore} {now : ℤ}
    {cfg : SettleConfig} {committed : ℕ} {t : Incoming} (reported : t ∈ inbounds.take committed)
    : .markSeen t.orderIndex cfg.railName now
      ∈ (settleWrites inbounds orders now cfg).take committed := by
  have front : sightings inbounds now cfg.railName <+: settleWrites inbounds orders now cfg := by
    rw [settleWrites, settleWritesToBackstop, List.append_assoc, List.append_assoc]
    exact List.prefix_append _ _
  refine (front.take committed).subset ?_
  rw [sightings, ← List.map_take]
  exact List.mem_map.mpr ⟨t, reported, rfl⟩

/-- Writes that open no order treat each open order by itself. -/
theorem OrdersStore.writes_get? {writes : List OrdersWrite}
    (opensNone : ∀ write ∈ writes, ∀ orders : OrdersStore, orders.opens write = none)
    (orders : OrdersStore) (key : String × ℤ)
    : (writes.foldl OrdersStore.write orders).pendingOrders.get? key
      = (orders.pendingOrders.get? key).bind (fate writes) := by
  have history := OrderHistory.writes_get? ⟨orders, [], [], []⟩ opensNone key
  rwa [OrderHistory.writes_orders] at history

/-- The first writes of a tick treat each open order by itself. -/
theorem OrdersStore.ticked_get? (orders : OrdersStore) (inbounds : List Incoming) (now : ℤ)
    (cfg : SettleConfig) (committed : ℕ) (key : String × ℤ)
    : (((settleWrites inbounds orders now cfg).take committed).foldl OrdersStore.write
        orders).pendingOrders.get? key
      = (orders.pendingOrders.get? key).bind
        (fate ((settleWrites inbounds orders now cfg).take committed)) :=
  OrdersStore.writes_get?
    (fun _ member => settleWrites_opens (List.mem_of_mem_take member)) orders key

/-- An order is opened under a key that no order has. -/
theorem OrdersStore.opens_fresh {orders : OrdersStore} {write : OrdersWrite}
    {order : PendingOrder} (opened : orders.opens write = some order)
    : orders.pendingOrders.get? order.key = none := by
  cases write with
  | tryAddOrder added maxOpen =>
      rcases orders.write_tryAddOrder added maxOpen with ⟨closed, _⟩ | ⟨fresh, opens, _⟩
      · rw [closed] at opened
        cases opened
      · rw [opens] at opened
        obtain rfl := Option.some.inj opened
        exact fresh
  | _ => cases opened

namespace StatusProcess

variable {p : StatusProcess} {key : String × ℤ}

/-- One write leaves a seen order seen, as long as it leaves it open. -/
theorem Seen.write (seen : p.Seen key) {write : OrdersWrite} {byKey : ProgressMap}
    (stays : IsOpen ⟨p.orders.write write, byKey⟩ key)
    : Seen ⟨p.orders.write write, byKey⟩ key := by
  obtain ⟨order, found, sighted⟩ := seen
  obtain ⟨after, left⟩ := Option.isSome_iff_exists.mp stays
  refine ⟨after, left, ?_⟩
  rcases OrdersStore.write_lookup left with ⟨opened, own⟩ | ⟨before, stored, kept⟩
  · have fresh := OrdersStore.opens_fresh opened
    rw [own, found] at fresh
    cases fresh
  · obtain rfl := Option.some.inj (found.symm.trans stored)
    exact (OrdersWrite.orderAfter_same kept).2 sighted

/-- Some first writes of a tick leave a seen order seen, as long as they leave it open. -/
theorem Seen.ticked (seen : p.Seen key) {inbounds : List Incoming} {now : ℤ}
    {cfg : SettleConfig} {committed : ℕ} {byKey : ProgressMap} {orders : OrdersStore}
    (wrote
      : orders
        = ((settleWrites inbounds p.orders now cfg).take committed).foldl OrdersStore.write
          p.orders)
    (stays : IsOpen ⟨orders, byKey⟩ key)
    : Seen ⟨orders, byKey⟩ key := by
  subst wrote
  obtain ⟨order, found, sighted⟩ := seen
  obtain ⟨after, left⟩ := Option.isSome_iff_exists.mp stays
  refine ⟨after, left, ?_⟩
  rw [OrdersStore.ticked_get?, found] at left
  exact (fate_same left).2 sighted

/-- An order that a tick sighted and left open has been seen. -/
theorem seen_of_sighted {inbounds : List Incoming} {now : ℤ} {cfg : SettleConfig}
    {committed : ℕ} {byKey : ProgressMap} {orders : OrdersStore} {t : Incoming}
    (reported : t ∈ inbounds.take committed)
    (wrote
      : orders
        = ((settleWrites inbounds p.orders now cfg).take committed).foldl OrdersStore.write
          p.orders)
    (stays : IsOpen ⟨orders, byKey⟩ (cfg.railName, t.orderIndex))
    : Seen ⟨orders, byKey⟩ (cfg.railName, t.orderIndex) := by
  subst wrote
  obtain ⟨after, left⟩ := Option.isSome_iff_exists.mp stays
  refine ⟨after, left, ?_⟩
  rw [OrdersStore.ticked_get?] at left
  obtain ⟨before, stored, kept⟩ := Option.bind_eq_some_iff.mp left
  exact fate_sighted (sighting_mem_take reported) (Table.key_of_get? stored) kept

/-- A tick that runs to its end has committed all its writes. -/
theorem tick_orders (p : StatusProcess) (inbounds : List ReportedIncoming) (now : ℤ)
    (cfg : SettleConfig)
    : (p.tick inbounds now cfg).orders
      = ((settleWrites (incomingOf inbounds) p.orders now cfg).take
          (settleWrites (incomingOf inbounds) p.orders now cfg).length).foldl OrdersStore.write
          p.orders := by
  rw [List.take_length]
  exact congrArg Prod.fst (settle_writes _ _ _ _)

/-- No action makes a seen order unseen while it stays open. -/
theorem Seen.act (seen : p.Seen key) {action : StatusAction}
    (stays : (p.act action).IsOpen key)
    : (p.act action).Seen key := by
  cases action with
  | tryAddOrder order maxOpen => exact seen.write stays
  | pollRail watch answer now cfg =>
      unfold StatusProcess.act at stays ⊢
      dsimp only at stays ⊢
      cases reported : reportedBy watch answer with
      | none => exact seen
      | some inbounds =>
          rw [reported] at stays
          exact seen.ticked (tick_orders p inbounds now cfg) stays
  | pollCut watch answer now cfg committed =>
      unfold StatusProcess.act at stays ⊢
      dsimp only at stays ⊢
      cases reported : reportedBy watch answer with
      | none => exact seen
      | some inbounds =>
          rw [reported] at stays
          exact seen.ticked rfl stays
  | ackCredit credited atMs => exact seen.write stays
  | restart => exact seen.write stays

/-- An order whose inbound an action reported has been seen, if it is open after it. -/
theorem seen_of_reports {action : StatusAction} (reports : action.Reports key)
    (stays : (p.act action).IsOpen key)
    : (p.act action).Seen key := by
  cases action with
  | pollRail watch answer now cfg =>
      obtain ⟨inbounds, reported, t, member, rfl⟩ := reports
      simp only [act, reported] at stays ⊢
      refine seen_of_sighted (t := t.toIncoming) ?_ (tick_orders p inbounds now cfg) stays
      have listed : t.toIncoming ∈ incomingOf inbounds := List.mem_map_of_mem member
      have long : (incomingOf inbounds).length
          ≤ (settleWrites (incomingOf inbounds) p.orders now cfg).length := by
        simp [settleWrites, settleWritesToBackstop, sightings]
      rwa [List.take_of_length_le long]
  | pollCut watch answer now cfg committed =>
      obtain ⟨inbounds, reported, t, member, rfl⟩ := reports
      simp only [act, reported] at stays ⊢
      refine seen_of_sighted (t := t.toIncoming) ?_ rfl stays
      rw [incomingOf, ← List.map_take]
      exact List.mem_map_of_mem member
  | tryAddOrder order maxOpen => cases reports
  | ackCredit credited atMs => cases reports
  | restart => cases reports

-----------------------------------------------------------------------------------------
-- The map and the store
-----------------------------------------------------------------------------------------

/-- Progress is shown only of open orders that have durably been seen. -/
def Backed (p : StatusProcess) : Prop :=
  ∀ rail orderIndex, (p.byKey.get? (keyOf rail orderIndex)).isSome → p.Seen (rail, orderIndex)

theorem backed_of_empty (cleared : p.byKey = .empty) : p.Backed := by
  intro rail orderIndex entered
  rw [cleared] at entered
  cases entered

/-- A write that opens an order or acknowledges a credit closes none. -/
theorem isOpen_write {write : OrdersWrite} (closesNone : ∀ order, write.orderAfter order ≠ none)
    (opened : p.IsOpen key) {byKey : ProgressMap}
    : IsOpen ⟨p.orders.write write, byKey⟩ key := by
  obtain ⟨order, found⟩ := Option.isSome_iff_exists.mp opened
  obtain ⟨after, kept⟩ := Option.ne_none_iff_exists'.mp (closesNone order)
  simp only [IsOpen, OrdersStore.write_get?, found, Option.bind_some, kept]
  cases (p.orders.opens write).filter (fun order => order.key = key) <;> rfl

/-- A tick shows progress only of what it sighted and of what was seen before it, and of these only
of the orders it left open.
-/
theorem Backed.tick (backed : p.Backed) (inbounds : List ReportedIncoming) (now : ℤ)
    (cfg : SettleConfig)
    : (p.tick inbounds now cfg).Backed := by
  intro rail orderIndex entered
  obtain ⟨origin, listed⟩ := ProgressMap.isSome_get?_update entered
  have wrote := p.tick_orders inbounds now cfg
  have spared (own : rail = cfg.railName)
      : (p.tick inbounds now cfg).IsOpen (rail, orderIndex) := by
    subst own
    obtain ⟨index, opened, same⟩ := List.mem_map.mp (listed (keyOf_startsWith _ _))
    obtain ⟨order, stored, rfl⟩ := List.mem_map.mp opened
    obtain ⟨member, ofRail⟩ := OrdersStore.mem_openOrders.mp stored
    have named : order.key = (cfg.railName, orderIndex) :=
      Prod.ext ofRail (keyOf_inj same).2
    exact Option.isSome_of_eq_some (Table.get?_eq_some_iff.mpr ⟨member, named⟩)
  rcases origin with ⟨t, member, same⟩ | stored
  · obtain ⟨rfl, rfl⟩ := keyOf_inj same
    have answered : reportedBy [0] (.ok inbounds) = some inbounds := by
      simp [reportedBy, Except.toOption]
    have reports
        : (StatusAction.pollRail [0] (.ok inbounds) now cfg).Reports (cfg.railName, t.orderIndex) :=
      ⟨inbounds, answered, t, member, rfl⟩
    exact seen_of_reports reports (by simpa [act, answered] using spared rfl)
  · have before := backed rail orderIndex stored
    by_cases own : rail = cfg.railName
    · exact before.ticked wrote (spared own)
    · -- The orders of another rail are as they were.
      obtain ⟨order, found, sighted⟩ := before
      refine ⟨order, ?_, sighted⟩
      have ofRail : order.rail = rail := congrArg Prod.fst (Table.key_of_get? found)
      simp only [StatusProcess.tick, settle_writes]
      rw [OrdersStore.writes_get? (fun write member => settleWrites_opens member), found]
      refine fate_of_untouched (fun write member => settleWrites_railApart member ?_)
      rw [ofRail]
      exact own

theorem Backed.act (backed : p.Backed) (action : StatusAction) : (p.act action).Backed := by
  have written {write : OrdersWrite} (closesNone : ∀ order, write.orderAfter order ≠ none)
      : Backed { p with orders := p.orders.write write } := by
    intro rail orderIndex entered
    have seen := backed rail orderIndex entered
    have opened : p.IsOpen (rail, orderIndex) := by
      obtain ⟨order, found, _⟩ := seen
      exact Option.isSome_of_eq_some found
    exact seen.write (isOpen_write closesNone opened)
  cases action with
  | tryAddOrder order maxOpen => exact written (by simp [OrdersWrite.orderAfter])
  | pollRail watch answer now cfg =>
      unfold StatusProcess.act
      dsimp only
      split
      · exact backed
      · exact backed.tick _ now cfg
  | pollCut watch answer now cfg committed =>
      unfold StatusProcess.act
      dsimp only
      split <;> exact backed_of_empty rfl
  | ackCredit credited atMs => exact written (by simp [OrdersWrite.orderAfter])
  | restart => exact backed_of_empty rfl

/-- An answer is the status of a stored order. -/
theorem Answers.order {cfg : BuyConfig} {body : Json} {status : OrderStatus}
    (answered : p.Answers cfg key body status)
    : ∃ order ∈ p.orders.pendingOrders.rows,
        order.key = key ∧ statusOf cfg p.byKey order = some status := by
  obtain ⟨reply, order, requested, named⟩ := answered
  refine ⟨order, requestedOrder_mem requested, named, ?_⟩
  rw [orderStatus, requested] at reply
  dsimp only at reply
  split at reply
  · cases reply
  · cases reply
    assumption

/-- An answer that does not wait is about an order that has durably been seen. -/
theorem Backed.seen (backed : p.Backed) {cfg : BuyConfig} {status : OrderStatus}
    {body : Json} (answered : p.Answers cfg key body status) (told : status.state ≠ .waiting)
    : p.Seen key := by
  obtain ⟨order, stored, rfl, computed⟩ := answered.order
  rw [Ne, statusOf_waiting_iff computed, not_and_or] at told
  rcases told with received | sighted
  · cases entry : p.byKey.get? (keyOf order.rail order.orderIndex) with
    | none => simp [ProgressMap.get, entry] at received
    | some progress =>
        exact backed order.rail order.orderIndex (Option.isSome_of_eq_some entry)
  · exact ⟨order, Table.get?_of_mem stored, sighted⟩

/-- A seen order is never answered to wait. -/
theorem Seen.answer (seen : p.Seen key) {cfg : BuyConfig} {body : Json} {status : OrderStatus}
    (answered : p.Answers cfg key body status)
    : status.state ≠ .waiting := by
  obtain ⟨order, stored, rfl, computed⟩ := answered.order
  obtain ⟨own, found, sighted⟩ := seen
  obtain rfl := Option.some.inj ((Table.get?_of_mem stored).symm.trans found)
  exact fun waiting => sighted ((statusOf_waiting_iff computed).mp waiting).2

end StatusProcess

-----------------------------------------------------------------------------------------
-- No way back to waiting
-----------------------------------------------------------------------------------------

/-- Once an answer about an order did not wait, or an inbound was reported for it, every later
answer about it while it stays open is one of the three that do not wait.
-/
theorem status_never_back (cfg : BuyConfig) (key : String × ℤ)
    (start middle final : StatusProcess) (earlier later : List StatusAction)
    (initial : statusSystem.initial start) (before : statusSystem.Run start earlier middle)
    (opened : middle.IsOpen key) (after : (whileOpen key).Run middle later final)
    (once
      : (∃ body status, middle.Answers cfg key body status ∧ status.state ≠ .waiting)
        ∨ ∃ labels action, earlier = labels ++ [action] ∧ action.Reports key)
    : ∀ body status, final.Answers cfg key body status
        → status.state ∈ [OrderState.detected, .confirming, .finalizing] := by
  have backed : middle.Backed := by
    refine before.rule (fun _ state => state.Backed) (StatusProcess.backed_of_empty initial) ?_
    rintro _ state action next _ backed rfl
    exact backed.act action
  have seen : middle.Seen key := by
    rcases once with ⟨body, status, answered, told⟩ | ⟨labels, action, rfl, reports⟩
    · exact backed.seen answered told
    · obtain ⟨state, _, rfl⟩ := before.snoc_inv
      exact StatusProcess.seen_of_reports reports opened
  have kept : final.Seen key := by
    refine after.rule (fun _ state => state.Seen key) seen ?_
    rintro _ state action next _ seen ⟨rfl, stays⟩
    exact seen.act stays
  intro body status answered
  have told := kept.answer answered
  cases found : status.state with
  | waiting => exact absurd found told
  | detected => simp
  | confirming => simp
  | finalizing => simp

section Example

def exampleTracked : PendingOrder := exampleDraft.order Binary64.round ⟨"4AdUnd", 7⟩

def exampleTracking : StatusProcess :=
  ⟨⟨⟨[exampleTracked], by simp⟩, .empty, []⟩, .empty⟩

def exampleTrackingBody : Json :=
  .object [("hash", .string exampleTracked.hash), ("address", .string exampleTracked.address)]

/-- A deposit that is still confirming, a restart, and a wallet that is resyncing. -/
def exampleDeposit : StatusAction :=
  .pollRail [7] (.ok [⟨⟨7, "7d0c:7", 98, false⟩, .ofInt 1⟩]) 30000 exampleConfig

def exampleResync : StatusAction := .pollRail [7] (.ok []) 60000 exampleConfig

def exampleRestarted : StatusProcess := (exampleTracking.act exampleDeposit).act .restart

/-- The buyer is told that the payment was detected. -/
theorem status_never_back_restart
    : ∃ status,
        (exampleRestarted.act exampleResync).Answers exampleBuyConfig ("monero", 7)
          exampleTrackingBody status
        ∧ status.state ∈ [OrderState.detected, .confirming, .finalizing] := by
  have opened : (exampleTracking.act exampleDeposit).IsOpen ("monero", 7)
      ∧ exampleRestarted.IsOpen ("monero", 7)
      ∧ (exampleRestarted.act exampleResync).IsOpen ("monero", 7) := by
    decide +kernel
  have told
      : orderStatus exampleBuyConfig (exampleRestarted.act exampleResync).orders
            (exampleRestarted.act exampleResync).byKey exampleTrackingBody
          = .answered
              ⟨.detected, .ofInt 0, 10, 0, Binary64.round (73333333334 / 1000000000000), "XMR",
                3600000⟩
        ∧ (requestedOrder (exampleRestarted.act exampleResync).orders
            exampleTrackingBody).toOption
          = some (some { exampleTracked with seenAt := some 30000 }) := by
    decide +kernel
  have requested
      : requestedOrder (exampleRestarted.act exampleResync).orders exampleTrackingBody
        = .ok (some { exampleTracked with seenAt := some 30000 }) := by
    have asked := told.2
    cases found : requestedOrder (exampleRestarted.act exampleResync).orders
        exampleTrackingBody with
    | error denial => simp [found, Except.toOption] at asked
    | ok order => simpa [found, Except.toOption] using asked
  have answered
      : (exampleRestarted.act exampleResync).Answers exampleBuyConfig ("monero", 7)
          exampleTrackingBody
          ⟨.detected, .ofInt 0, 10, 0, Binary64.round (73333333334 / 1000000000000), "XMR",
            3600000⟩ :=
    ⟨told.1, _, requested, rfl⟩
  have reported : exampleDeposit.Reports ("monero", 7) := ⟨_, rfl, _, List.mem_cons_self, rfl⟩
  have before
      : statusSystem.Run exampleTracking ([] ++ [exampleDeposit])
          (exampleTracking.act exampleDeposit) :=
    .snoc .nil rfl
  have first
      : (whileOpen ("monero", 7)).Run (exampleTracking.act exampleDeposit) ([] ++ [.restart])
          exampleRestarted :=
    .snoc .nil ⟨rfl, opened.2.1⟩
  have after
      : (whileOpen ("monero", 7)).Run (exampleTracking.act exampleDeposit)
          ([] ++ [.restart] ++ [exampleResync]) (exampleRestarted.act exampleResync) :=
    .snoc first ⟨rfl, opened.2.2⟩
  refine ⟨_, answered, ?_⟩
  exact status_never_back exampleBuyConfig ("monero", 7) exampleTracking
    (exampleTracking.act exampleDeposit) (exampleRestarted.act exampleResync) _ _ rfl before
    opened.1 after (Or.inr ⟨[], exampleDeposit, rfl, reported⟩) exampleTrackingBody _ answered

end Example

end Nullsink.Payments
