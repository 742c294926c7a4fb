import Nullsink.Lib.Transition
import Nullsink.Payments.Accounting
import Nullsink.Payments.Margin

/-! The open-order cap under concurrent purchases: the handlers of one process between their awaits,
with the ticks of the poller in between.
-/

namespace Nullsink.Payments

open Relational Ecma Transition

-----------------------------------------------------------------------------------------
-- Concurrent handlers
-----------------------------------------------------------------------------------------

/-- Where a handler is suspended, or how it has ended. -/
inductive BuyPhase (cfg : BuyConfig) where
  | awaitingRate (purchase : Purchase cfg)
  | awaitingAddress (draft : Draft cfg)
  | answered (reply : BuyReply)

/-- Whether a handler is suspended at its `createAddress`. -/
def BuyPhase.creating {cfg : BuyConfig} : BuyPhase cfg → Bool
  | .awaitingAddress _ => true
  | _ => false

/-- The process: its store, the counter of creates in flight, the handlers in the order of their
requests, and every rail and index an address was ever minted for.
-/
structure BuyProcess (cfg : BuyConfig) where
  orders : OrdersStore
  pendingCreates : ℤ
  handlers : List (BuyPhase cfg)
  minted : List (String × ℤ)

/-- What the handlers await, and what else runs in the process. A body is read or rejected. -/
inductive BuyAction where
  | request (read : Except Denial Json)
  | rateAnswered (handler : ℕ) (answer : Except String Number) (now : ℤ)
  | addressAnswered (handler : ℕ) (answer : Except String NewAddress)
  | settle (inbounds : List Incoming) (now : ℤ) (cfg : SettleConfig)
  | ackCredit (key : String) (atMs : ℤ)

/-- The answer of a handler at the cap. -/
def busy : BuyReply := .denied ⟨503, "busy_try_later"⟩

namespace BuyProcess

variable {cfg : BuyConfig} (p : BuyProcess cfg)

/-- `openCount() + pendingCreates >= MAX_OPEN_ORDERS`. -/
def atCap : Bool := cfg.maxOpenOrders ≤ p.orders.openCount + p.pendingCreates

/-- A handler from its body to its first await. -/
def arrive (read : Except Denial Json) : BuyPhase cfg :=
  match read with
  | .error denial => .answered (.denied denial)
  | .ok body =>
      match parsePurchase cfg body with
      | .error denial => .answered (.denied denial)
      | .ok purchase => if p.atCap then .answered busy else .awaitingRate purchase

/-- A handler from its rate to its `createAddress`, behind the reservation. -/
def rated (handler : ℕ) (purchase : Purchase cfg) (answer : Except String Number) (now : ℤ)
    : BuyProcess cfg :=
  match usableRate answer with
  | none =>
      {
        p with
        handlers := p.handlers.set handler (.answered (.denied ⟨503, "rate_unavailable"⟩))
      }
  | some rate =>
      if p.atCap then { p with handlers := p.handlers.set handler (.answered busy) }
      else {
        p with
        pendingCreates := p.pendingCreates + 1
        handlers := p.handlers.set handler (.awaitingAddress ⟨purchase, rate.1, now, rate.2⟩)
      }

/-- A handler from its address to its end. Its `finally` releases the reservation. -/
def addressed (handler : ℕ) (draft : Draft cfg) (answer : Except String NewAddress)
    : BuyProcess cfg :=
  match answer with
  | .error _ =>
      {
        p with
        pendingCreates := p.pendingCreates - 1
        handlers := p.handlers.set handler (.answered (.denied ⟨502, "wallet_unavailable"⟩))
      }
  | .ok address =>
      let claimed := p.orders.tryAddOrder (draft.order Binary64.round address) cfg.maxOpenOrders
      {
        orders :=
          match claimed with
          | .ok (_, orders) => orders
          | .error _ => p.orders
        pendingCreates := p.pendingCreates - 1
        handlers :=
          p.handlers.set handler
            (.answered
              (match claimed with
              | .ok (true, _) => .quoted (draft.quote address)
              | .ok (false, _) => busy
              | .error thrown => .threw thrown))
        minted := p.minted ++ [(draft.rail.name, address.orderIndex)]
      }

/-- What an action makes of the process; `none` for an answer that no handler awaits. -/
def act : BuyAction → Option (BuyProcess cfg)
  | .request read => some { p with handlers := p.handlers ++ [p.arrive read] }
  | .rateAnswered handler answer now =>
      match p.handlers[handler]? with
      | some (.awaitingRate purchase) => some (p.rated handler purchase answer now)
      | _ => none
  | .addressAnswered handler answer =>
      match p.handlers[handler]? with
      | some (.awaitingAddress draft) => some (p.addressed handler draft answer)
      | _ => none
  | .settle inbounds now cfg =>
      some { p with orders := (Payments.settle inbounds p.orders now cfg).1 }
  | .ackCredit key atMs => some { p with orders := p.orders.ackCredit key atMs }

/-- A wallet mints under a rail and index that were never minted before. -/
def MintsFresh : BuyAction → Prop
  | .addressAnswered handler (.ok address) =>
      ∀ draft, p.handlers[handler]? = some (.awaitingAddress draft)
        → (draft.rail.name, address.orderIndex) ∉ p.minted
  | _ => True

end BuyProcess

/-- A process from its start, with at most as many open orders as the cap allows. -/
def buying (cfg : BuyConfig) : System (BuyProcess cfg) BuyAction where
  initial p :=
    p.orders.openCount ≤ cfg.maxOpenOrders
    ∧ p.pendingCreates = 0
    ∧ p.handlers = []
    ∧ ∀ order ∈ p.orders.pendingOrders.rows, order.key ∈ p.minted
  step p action next := p.MintsFresh action ∧ p.act action = some next

-----------------------------------------------------------------------------------------
-- The reservation invariant
-----------------------------------------------------------------------------------------

/-- Committed orders and creates in flight fit under the cap together. -/
structure ReservationInvariant {cfg : BuyConfig} (p : BuyProcess cfg) : Prop where
  bounded : p.orders.openCount + p.pendingCreates ≤ cfg.maxOpenOrders
  counted : p.pendingCreates = p.handlers.countP BuyPhase.creating
  known : ∀ order ∈ p.orders.pendingOrders.rows, order.key ∈ p.minted

section Handlers

variable {cfg : BuyConfig} {handlers : List (BuyPhase cfg)} {handler : ℕ}
  {phase next : BuyPhase cfg}

/-- One handler's move changes the number of creates by its own. -/
theorem countP_move (found : handlers[handler]? = some phase)
    : ((handlers.set handler next).countP BuyPhase.creating : ℤ)
      = handlers.countP BuyPhase.creating - (if phase.creating then 1 else 0)
        + (if next.creating then 1 else 0) := by
  obtain ⟨within, rfl⟩ := List.getElem?_eq_some_iff.mp found
  rw [List.countP_set within]
  have counted : (if handlers[handler].creating then 1 else 0)
      ≤ handlers.countP BuyPhase.creating := by
    split
    · rename_i creates
      exact List.countP_pos_iff.mpr ⟨_, List.getElem_mem within, creates⟩
    · exact Nat.zero_le _
  split <;> split <;> simp_all

/-- A suspended create is among those counted. -/
theorem countP_creating_pos {draft : Draft cfg}
    (found : handlers[handler]? = some (.awaitingAddress draft))
    : 0 < handlers.countP BuyPhase.creating :=
  List.countP_pos_iff.mpr ⟨_, List.mem_of_getElem? found, rfl⟩

end Handlers

/-- A tick leaves no more orders than there were, under keys that were there. -/
theorem settle_rows (inbounds : List Incoming) (orders : OrdersStore) (now : ℤ)
    (cfg : SettleConfig)
    : (settle inbounds orders now cfg).1.openCount ≤ orders.openCount
      ∧ ∀ order ∈ (settle inbounds orders now cfg).1.pendingOrders.rows,
          ∃ before ∈ orders.pendingOrders.rows, order.key = before.key := by
  have rows : (settle inbounds orders now cfg).1.pendingOrders.rows
      = orders.pendingOrders.rows.filterMap (fate (settleWrites inbounds orders now cfg)) := by
    rw [settle_writes]
    exact OrdersStore.writes_rows (fun write member => settleWrites_opens member) orders
  constructor
  · unfold OrdersStore.openCount
    rw [rows]
    exact_mod_cast List.length_filterMap_le _ _
  · intro order member
    rw [rows] at member
    obtain ⟨before, stored, kept⟩ := List.mem_filterMap.mp member
    exact ⟨before, stored, fate_key kept⟩

namespace ReservationInvariant

variable {cfg : BuyConfig} {p : BuyProcess cfg}

theorem request (inv : ReservationInvariant p) (read : Except Denial Json)
    : ReservationInvariant { p with handlers := p.handlers ++ [p.arrive read] } := by
  have idle : (p.arrive read).creating = false := by
    unfold BuyProcess.arrive
    split
    · rfl
    · split
      · rfl
      · split <;> rfl
  refine ⟨inv.bounded, ?_, inv.known⟩
  simp [List.countP_append, idle, inv.counted]

theorem rated (inv : ReservationInvariant p) {handler : ℕ} {purchase : Purchase cfg}
    (found : p.handlers[handler]? = some (.awaitingRate purchase))
    (answer : Except String Number) (now : ℤ)
    : ReservationInvariant (p.rated handler purchase answer now) := by
  have bounded := inv.bounded
  have counted := inv.counted
  unfold BuyProcess.rated
  split
  · refine ⟨bounded, ?_, inv.known⟩
    simp [countP_move found, BuyPhase.creating, counted]
  · split
    · refine ⟨bounded, ?_, inv.known⟩
      simp [countP_move found, BuyPhase.creating, busy, counted]
    · rename_i free
      -- The slot that was free is taken before the handler is suspended again.
      simp only [BuyProcess.atCap, decide_eq_true_eq, not_le] at free
      refine ⟨?_, ?_, inv.known⟩
      · simp only
        omega
      · simp [countP_move found, BuyPhase.creating, counted]

/-- A reserved slot is there for the order it was reserved for. -/
theorem claims (inv : ReservationInvariant p) {handler : ℕ} {draft : Draft cfg}
    (found : p.handlers[handler]? = some (.awaitingAddress draft)) {address : NewAddress}
    (fresh : (draft.rail.name, address.orderIndex) ∉ p.minted)
    : ∃ after,
        p.orders.tryAddOrder (draft.order Binary64.round address) cfg.maxOpenOrders
          = .ok (true, after)
        ∧ after.pendingOrders.rows
          = p.orders.pendingOrders.rows ++ [draft.order Binary64.round address] := by
  have bounded := inv.bounded
  have counted := inv.counted
  have reserved := countP_creating_pos found
  have room : (p.orders.pendingOrders.rows.length : ℤ) < cfg.maxOpenOrders := by
    unfold OrdersStore.openCount at bounded
    omega
  have absent
      : p.orders.pendingOrders.get? (draft.order Binary64.round address).unseen.key = none := by
    refine Table.get?_eq_none_iff.mpr (fun order stored same => fresh ?_)
    have known := inv.known order stored
    rw [same] at known
    exact known
  refine ⟨{ p.orders with pendingOrders := p.orders.pendingOrders.append _ absent }, ?_, rfl⟩
  unfold OrdersStore.tryAddOrder
  rw [if_pos room, Table.insert?_of_fresh absent]

theorem addressed (inv : ReservationInvariant p) {handler : ℕ} {draft : Draft cfg}
    (found : p.handlers[handler]? = some (.awaitingAddress draft))
    {answer : Except String NewAddress} (fresh : p.MintsFresh (.addressAnswered handler answer))
    : ReservationInvariant (p.addressed handler draft answer) := by
  have bounded := inv.bounded
  have counted := inv.counted
  cases answer with
  | error failure =>
      refine ⟨?_, ?_, inv.known⟩
      · simp only [BuyProcess.addressed]
        omega
      · simp [BuyProcess.addressed, countP_move found, BuyPhase.creating, counted]
  | ok address =>
      obtain ⟨after, claimed, rows⟩ := inv.claims found (fresh draft found)
      simp only [BuyProcess.addressed, claimed]
      refine ⟨?_, ?_, ?_⟩
      · unfold OrdersStore.openCount at bounded ⊢
        rw [rows, List.length_append, List.length_singleton]
        push_cast
        omega
      · simp [countP_move found, BuyPhase.creating, counted]
      · intro order member
        rw [rows] at member
        rcases List.mem_append.mp member with stored | last
        · exact List.mem_append_left _ (inv.known order stored)
        · obtain rfl := List.mem_singleton.mp last
          exact List.mem_append_right _ (List.mem_singleton.mpr rfl)

theorem settle (inv : ReservationInvariant p) (inbounds : List Incoming) (now : ℤ)
    (tick : SettleConfig)
    : ReservationInvariant
        { p with orders := (Payments.settle inbounds p.orders now tick).1 } := by
  obtain ⟨fewer, keys⟩ := settle_rows inbounds p.orders now tick
  refine ⟨?_, inv.counted, ?_⟩
  · have bounded := inv.bounded
    simp only
    omega
  · intro order member
    obtain ⟨before, stored, same⟩ := keys order member
    rw [same]
    exact inv.known before stored

/-- Every step keeps the invariant. -/
theorem step (inv : ReservationInvariant p) {action : BuyAction} {next : BuyProcess cfg}
    (taken : (buying cfg).step p action next)
    : ReservationInvariant next := by
  obtain ⟨fresh, acted⟩ := taken
  cases action with
  | request read =>
      obtain rfl := Option.some.inj acted
      exact inv.request read
  | rateAnswered handler answer now =>
      simp only [BuyProcess.act] at acted
      split at acted
      · rename_i purchase found
        obtain rfl := Option.some.inj acted
        exact inv.rated found answer now
      · cases acted
  | addressAnswered handler answer =>
      simp only [BuyProcess.act] at acted
      split at acted
      · rename_i draft found
        obtain rfl := Option.some.inj acted
        exact inv.addressed found fresh
      · cases acted
  | settle inbounds now tick =>
      obtain rfl := Option.some.inj acted
      exact inv.settle inbounds now tick
  | ackCredit key atMs =>
      obtain rfl := Option.some.inj acted
      exact ⟨inv.bounded, inv.counted, inv.known⟩

end ReservationInvariant

-----------------------------------------------------------------------------------------
-- The cap
-----------------------------------------------------------------------------------------

/-- At an await point orders and creates fit under the cap, the counter counts the suspended
creates, and an address that is minted next gets its order, whichever handler it is for.
-/
structure CapKept {cfg : BuyConfig} (p : BuyProcess cfg) : Prop where
  bounded : p.orders.openCount + p.pendingCreates ≤ cfg.maxOpenOrders
  counted : p.pendingCreates = p.handlers.countP BuyPhase.creating
  inserted
    : ∀ handler draft address next,
        p.handlers[handler]? = some (.awaitingAddress draft)
        → (buying cfg).step p (.addressAnswered handler (.ok address)) next
        → p.orders.tryAddOrder (draft.order Binary64.round address) cfg.maxOpenOrders
            = .ok (true, next.orders)
          ∧ next.orders.pendingOrders.rows
            = p.orders.pendingOrders.rows ++ [draft.order Binary64.round address]
          ∧ next.handlers[handler]? = some (.answered (.quoted (draft.quote address)))

/-- Concurrent purchases never exceed the cap, and none of them loses a minted address to it. -/
theorem open_order_cap (cfg : BuyConfig) (p : BuyProcess cfg)
    (reachable : (buying cfg).Reachable p)
    : CapKept p := by
  have inv : ReservationInvariant p := by
    refine reachable.invariant ReservationInvariant ?_ (fun inv taken => inv.step taken)
    rintro start ⟨within, idle, none, known⟩
    exact ⟨by omega, by simp [idle, none], known⟩
  refine ⟨inv.bounded, inv.counted, ?_⟩
  rintro handler draft address next found ⟨fresh, acted⟩
  obtain ⟨after, claimed, rows⟩ := inv.claims found (fresh draft found)
  simp only [BuyProcess.act, found, Option.some.injEq] at acted
  subst acted
  have within := (List.getElem?_eq_some_iff.mp found).1
  simp only [BuyProcess.addressed, claimed]
  exact ⟨trivial, rows, List.getElem?_set_self within⟩

section Example

def exampleBuyBody : Json :=
  .object
    [("hash", .string "9f86d081884c7d659a2feaa0c55ad015a3bf4f1b2b0b822cd15d6c15b0f00a08"),
      ("credit_usd", .number (.finite 10))]

def exampleBuyStart : BuyProcess exampleBuyConfig := ⟨.empty, 0, [], []⟩

/-- Two handlers race for the one slot, and both have their rates. -/
def exampleBuyRace : List BuyAction :=
  [.request (.ok exampleBuyBody), .request (.ok exampleBuyBody),
    .rateAnswered 1 (.ok (.finite 150)) 0, .rateAnswered 0 (.ok (.finite 151)) 0]

/-- The second to get its rate is shed before it mints an address. -/
theorem open_order_cap_race
    : ∃ p, exampleBuyRace.foldlM BuyProcess.act exampleBuyStart = some p
        ∧ p.handlers.map BuyPhase.creating = [false, true]
        ∧ CapKept p := by
  have ran
      : (exampleBuyRace.foldlM BuyProcess.act exampleBuyStart).map
          (fun p => p.handlers.map BuyPhase.creating)
        = some [false, true] := by
    decide +kernel
  obtain ⟨p, reached, moved⟩ := Option.map_eq_some_iff.mp ran
  refine ⟨p, reached, moved,
    open_order_cap exampleBuyConfig p ⟨exampleBuyStart, exampleBuyRace, ?_, ?_⟩⟩
  · exact ⟨by decide, rfl, rfl, by simp [exampleBuyStart, OrdersStore.empty]⟩
  · refine System.run_of_foldlM reached (fun {state label next} member acted => ⟨?_, acted⟩)
    simp only [exampleBuyRace, List.mem_cons, List.not_mem_nil, or_false] at member
    rcases member with rfl | rfl | rfl | rfl <;> trivial

end Example

end Nullsink.Payments
