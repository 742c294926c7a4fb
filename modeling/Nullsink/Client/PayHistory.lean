import Nullsink.Client.PayTraffic

/-! What a payer is shown over a whole checkout: what the server knows of an order only grows, the
screen is told it in order, and so it never goes back from a payment seen.
-/

namespace Nullsink.Client

open Relational Ecma Transition Ledger Payments

-----------------------------------------------------------------------------------------
-- The order on the server
-----------------------------------------------------------------------------------------

/-- An action opens no order of a hash under an address again: an address is minted for one order.
-/
def OpensOther (hash address : String) : StatusAction → Prop
  | .tryAddOrder order _ => ¬(order.hash = hash ∧ order.address = address)
  | _ => True

/-- At most one open order of a hash has an address. -/
def OneOrder (hash address : String) (p : StatusProcess) : Prop :=
  ∀ first ∈ p.orders.pendingOrders.rows, ∀ second ∈ p.orders.pendingOrders.rows,
    first.hash = hash ∧ first.address = address
    → second.hash = hash ∧ second.address = address
    → first = second

/-- How far an order is told to be: waiting, seen, or no longer open. -/
def TrackedStatus.stage : TrackedStatus → ℕ
  | .answered status => if status.state = .waiting then 1 else 2
  | .closed => 3

/-- How far an order is. -/
def stageOn (hash address : String) (p : StatusProcess) : ℕ :=
  match p.orders.openOrderByHashAddress hash address with
  | some order => if order.seenAt = none then 1 else 2
  | none => 3

section Server

variable {p : StatusProcess} {hash address : String}

/-- One write leaves only orders that it opens or that were open before. -/
theorem mem_write {orders : OrdersStore} {write : OrdersWrite} {order : PendingOrder}
    (member : order ∈ (orders.write write).pendingOrders.rows)
    : orders.opens write = some order
      ∨ ∃ before ∈ orders.pendingOrders.rows,
          order = { before with seenAt := order.seenAt }
          ∧ (before.seenAt ≠ none → order.seenAt ≠ none) := by
  rcases OrdersStore.write_lookup (Table.get?_of_mem member) with
    ⟨opened, _⟩ | ⟨before, stored, kept⟩
  · exact Or.inl opened
  · exact Or.inr ⟨before, Table.mem_of_get? stored, OrdersWrite.orderAfter_same kept⟩

/-- The first writes of a tick leave only orders that were open before. -/
theorem mem_ticked {orders : OrdersStore} {inbounds : List Incoming} {now : ℤ} {cfg : SettleConfig}
    {committed : ℕ} {order : PendingOrder}
    (member
      : order
        ∈ (((settleWrites inbounds orders now cfg).take committed).foldl OrdersStore.write
            orders).pendingOrders.rows)
    : ∃ before ∈ orders.pendingOrders.rows,
        order = { before with seenAt := order.seenAt }
        ∧ (before.seenAt ≠ none → order.seenAt ≠ none) := by
  have found := Table.get?_of_mem member
  rw [OrdersStore.ticked_get?] at found
  obtain ⟨before, stored, kept⟩ := Option.bind_eq_some_iff.mp found
  exact ⟨before, Table.mem_of_get? stored, fate_same kept⟩

/-- An action leaves only orders that were open before, each as far as it was or farther, apart from
one that it opens.
-/
theorem mem_act {action : StatusAction} {order : PendingOrder}
    (member : order ∈ (p.act action).orders.pendingOrders.rows)
    (other : OpensOther hash address action) (own : order.hash = hash ∧ order.address = address)
    : ∃ before ∈ p.orders.pendingOrders.rows,
        order = { before with seenAt := order.seenAt }
        ∧ (before.seenAt ≠ none → order.seenAt ≠ none) := by
  cases action with
  | tryAddOrder added maxOpen =>
      rcases mem_write member with opened | before
      · rcases p.orders.write_tryAddOrder added maxOpen with ⟨closed, _⟩ | ⟨_, opens, _⟩
        · rw [closed] at opened
          cases opened
        · rw [opens] at opened
          obtain rfl := Option.some.inj opened
          exact absurd own other
      · exact before
  | pollRail watch answer now cfg =>
      unfold StatusProcess.act at member
      dsimp only at member
      split at member
      · exact ⟨order, member, rfl, id⟩
      · rw [StatusProcess.tick_orders] at member
        exact mem_ticked member
  | pollCut watch answer now cfg committed =>
      unfold StatusProcess.act at member
      dsimp only at member
      split at member
      · exact ⟨order, member, rfl, id⟩
      · exact mem_ticked member
  | ackCredit credited atMs =>
      rcases mem_write member with opened | before
      · cases opened
      · exact before
  | restart =>
      rcases mem_write member with opened | before
      · cases opened
      · exact before

theorem OneOrder.act (one : OneOrder hash address p) {action : StatusAction}
    (other : OpensOther hash address action)
    : OneOrder hash address (p.act action) := by
  intro first memberFirst second memberSecond ownFirst ownSecond
  obtain ⟨before, stored, same, _⟩ := mem_act memberFirst other ownFirst
  obtain ⟨before', stored', same', _⟩ := mem_act memberSecond other ownSecond
  have unique : before = before' := by
    refine one before stored before' stored' ?_ ?_
    · rw [same] at ownFirst
      exact ownFirst
    · rw [same'] at ownSecond
      exact ownSecond
  have keys : first.key = second.key := by
    rw [same, same', unique]
    rfl
  have found := Table.get?_of_mem memberFirst
  rw [keys, Table.get?_of_mem memberSecond] at found
  exact (Option.some.inj found).symm

/-- The order of an address is the one row that has it. -/
theorem find_iff (one : OneOrder hash address p) {order : PendingOrder}
    : p.orders.openOrderByHashAddress hash address = some order
      ↔ order ∈ p.orders.pendingOrders.rows ∧ order.hash = hash ∧ order.address = address := by
  constructor
  · intro found
    exact ⟨List.mem_of_find?_eq_some found, by simpa using List.find?_some found⟩
  · rintro ⟨stored, own⟩
    cases found : p.orders.openOrderByHashAddress hash address with
    | none => exact absurd own (by simpa using List.find?_eq_none.mp found order stored)
    | some other =>
        have theirs : other.hash = hash ∧ other.address = address := by
          simpa using List.find?_some found
        rw [one order stored other (List.mem_of_find?_eq_some found) own theirs]

/-- An order never goes back. -/
theorem stageOn_act (one : OneOrder hash address p) {action : StatusAction}
    (other : OpensOther hash address action)
    : stageOn hash address p ≤ stageOn hash address (p.act action) := by
  have atMost : stageOn hash address p ≤ 3 := by
    unfold stageOn
    split
    · split <;> decide
    · exact le_rfl
  cases found : (p.act action).orders.openOrderByHashAddress hash address with
  | none => simpa [stageOn, found] using atMost
  | some order =>
      obtain ⟨stored, own⟩ := (find_iff (one.act other)).mp found
      obtain ⟨before, was, same, seen⟩ := mem_act stored other own
      have earlier : p.orders.openOrderByHashAddress hash address = some before := by
        rw [same] at own
        exact (find_iff one).mpr ⟨was, own⟩
      simp only [stageOn, found, earlier]
      by_cases unseen : before.seenAt = none
      · simp only [unseen, if_true]
        split <;> decide
      · simp [unseen, seen unseen]

/-- What the server answers about an address is how far its order is. -/
theorem stage_fetched {cfg : BuyConfig} {status : TrackedStatus} (backed : p.Backed)
    (one : OneOrder hash address p) (named : address ≠ "")
    (read
      : fetched (orderStatus cfg p.orders p.byKey (orderStatusBody hash address)) = .ok status)
    : status.stage = stageOn hash address p := by
  have body : (orderStatusBody hash address).get? "address" = some (.string address) := by
    simp [orderStatusBody, named, Json.get?]
  have asked
      : (∃ denial, requestedOrder p.orders (orderStatusBody hash address) = .error denial)
        ∨ requestedOrder p.orders (orderStatusBody hash address)
          = .ok (p.orders.openOrderByHashAddress hash address) := by
    unfold requestedOrder
    cases valid : Ledger.validHash ((orderStatusBody hash address).get? "hash") with
    | none => exact Or.inl ⟨_, rfl⟩
    | some own =>
        obtain ⟨text, _⟩ := Option.filter_eq_some_iff.mp valid
        obtain rfl : own = hash := by
          simpa [orderStatusBody, named, Json.get?, Json.string?, eq_comm] using text
        by_cases long : 128 < Json.stringLength address
        · simp [scopeOf, body, long]
        · simp [scopeOf, body, long]
  rcases asked with ⟨denial, refused⟩ | requested
  · simp [orderStatus, refused, fetched] at read
  · cases found : p.orders.openOrderByHashAddress hash address with
    | none =>
        rw [found] at requested
        simp only [orderStatus, requested, fetched, Except.ok.injEq] at read
        simp [← read, TrackedStatus.stage, stageOn, found]
    | some order =>
        rw [found] at requested
        cases computed : statusOf cfg p.byKey order with
        | none => simp [orderStatus, requested, computed, fetched] at read
        | some answer =>
            have answered : p.Answers cfg order.key (orderStatusBody hash address) answer :=
              ⟨by simp [orderStatus, requested, computed], order, requested, rfl⟩
            simp only [orderStatus, requested, computed, fetched, Except.ok.injEq] at read
            obtain rfl := read
            have stored := ((find_iff one).mp found).1
            by_cases waits : answer.state = .waiting
            · have unseen := ((statusOf_waiting_iff computed).mp waits).2
              simp [TrackedStatus.stage, stageOn, found, waits, unseen]
            · obtain ⟨other, held, seen⟩ := backed.seen answered waits
              obtain rfl := Option.some.inj ((Table.get?_of_mem stored).symm.trans held)
              simp [TrackedStatus.stage, stageOn, found, waits, seen]

end Server

-----------------------------------------------------------------------------------------
-- No way back
-----------------------------------------------------------------------------------------

/-- How far the screen shows its order to be; nothing is known of it at first. -/
def Checkout.stage (c : Checkout) : ℕ := (c.screen.status.map TrackedStatus.stage).getD 0

/-- Whether an action stays with the quote that is shown and its one order. -/
def PayAction.StaysWith (hash address : String) : PayAction → Prop
  | .requote _ => False
  | .server action => OpensOther hash address action
  | _ => True

/-- While a quote stays, what is shown is no farther than the answers under way, and these are no
farther than the order is.
-/
structure Forward (key : Key) (address : String) (c : Checkout) : Prop where
  quoted : c.screen.quote.payTo = address
  calls : ∀ check ∈ c.checks, check.payTo = address
  backed : c.server.Backed
  one : OneOrder key.hash address c.server
  shown : c.stage ≤ stageOn key.hash address c.server
  underway
    : ∀ check ∈ c.checks, ∀ reply status, check.phase = .asking (some reply)
        → fetched reply = .ok status
        → c.stage ≤ status.stage ∧ status.stage ≤ stageOn key.hash address c.server

section Forward

variable {cfg : BuyConfig} {key : Key} {address : String} {visited : Checkout → Prop}
  {c c' : Checkout}

/-- A step of the services or of a call that shows nothing new. -/
theorem Forward.frame (forward : Forward key address c)
    (quote : c'.screen.quote = c.screen.quote) (status : c'.screen.status = c.screen.status)
    (server : c'.server = c.server)
    (calls
      : ∀ check ∈ c'.checks, check.payTo = address
          ∧ (check ∈ c.checks
            ∨ ∀ reply status, check.phase = .asking (some reply)
              → fetched reply = .ok status
              → status.stage = stageOn key.hash address c.server))
    : Forward key address c' := by
  have same : c'.stage = c.stage := by simp [Checkout.stage, status]
  refine ⟨by rw [quote, forward.quoted], fun check member => (calls check member).1,
    by rw [server]; exact forward.backed, by rw [server]; exact forward.one,
    by rw [same, server]; exact forward.shown, ?_⟩
  intro check member reply told waits read
  rw [same, server]
  rcases (calls check member).2 with before | fresh
  · exact forward.underway check before reply told waits read
  · have now := fresh reply told waits read
    exact ⟨forward.shown.trans now.ge, now.le⟩

/-- A status is shown when the only call has been told it. -/
theorem Forward.showing (forward : Forward key address c) {payTo : String} {reply : StatusReply}
    {status : TrackedStatus} (alone : c.checks = [⟨payTo, .asking (some reply)⟩])
    (read : fetched reply = .ok status) (quote : c'.screen.quote = c.screen.quote)
    (shown : c'.screen.status = some status) (server : c'.server = c.server)
    (calls
      : ∀ check ∈ c'.checks, check.payTo = payTo ∧ ∀ reply, check.phase ≠ .asking (some reply))
    : Forward key address c' ∧ c.stage ≤ c'.stage := by
  have same : c'.stage = status.stage := by simp [Checkout.stage, shown]
  have running : (⟨payTo, .asking (some reply)⟩ : Check) ∈ c.checks := by simp [alone]
  obtain ⟨least, most⟩ := forward.underway _ running reply status rfl read
  refine ⟨⟨by rw [quote, forward.quoted], ?_, by rw [server]; exact forward.backed,
    by rw [server]; exact forward.one, by rw [same, server]; exact most, ?_⟩,
    by rw [same]; exact least⟩
  · intro check member
    exact (calls check member).1.trans (forward.calls _ running)
  · intro check member reply told waits _
    exact absurd waits ((calls check member).2 reply)

/-- Every move of a screen that stays with its quote keeps it from going back. -/
theorem Forward.move (forward : Forward key address c) (named : address ≠ "") {action : PayAction}
    (orderly : Orderly cfg key visited c) (stays : action.StaysWith key.hash address)
    (move : CheckoutMove cfg key c action c')
    : Forward key address c' ∧ c.stage ≤ c'.stage := by
  obtain ⟨cycles, current, _, _, standing⟩ := orderly
  cases move with
  | idle => exact ⟨forward, le_rfl⟩
  | server action =>
      have onward := stageOn_act forward.one stays
      refine ⟨⟨forward.quoted, forward.calls, forward.backed.act action, forward.one.act stays,
        forward.shown.trans onward, ?_⟩, le_rfl⟩
      intro check member reply status waits read
      obtain ⟨least, most⟩ := forward.underway check member reply status waits read
      exact ⟨least, most.trans onward⟩
  | ledger op db =>
      exact ⟨forward.frame rfl rfl rfl fun check member =>
        ⟨forward.calls check member, Or.inl member⟩, le_rfl⟩
  | requote quote => exact stays.elim
  | started mounted free =>
      have shown : c.checkNow.stage = c.stage := by simp [Checkout.stage, Checkout.checkNow, free]
      refine ⟨forward.frame ?_ ?_ ?_ fun check member => ?_, shown.ge⟩
      · simp [Checkout.checkNow, free]
      · simp [Checkout.checkNow, free]
      · simp [Checkout.checkNow, free]
      · simp only [Checkout.checkNow, free, Bool.false_eq_true, if_false, List.mem_append,
          List.mem_singleton] at member
        rcases member with before | rfl
        · exact ⟨forward.calls check before, Or.inl before⟩
        · exact ⟨forward.quoted, Or.inr (by simp)⟩
  | asked running =>
      obtain ⟨rfl, alone, _⟩ := standing.only running
      have own := forward.calls _ (List.mem_of_getElem? running)
      refine ⟨forward.frame rfl rfl rfl fun check member => ?_, le_rfl⟩
      obtain rfl : check = ⟨_, .asking none⟩ := by
        simpa [Checkout.await, Checkout.emit, alone] using member
      exact ⟨own, Or.inr (by simp)⟩
  | statusServed running =>
      obtain ⟨rfl, alone, _⟩ := standing.only running
      have own := forward.calls _ (List.mem_of_getElem? running)
      dsimp only at own
      refine ⟨forward.frame rfl rfl rfl fun check member => ?_, le_rfl⟩
      obtain rfl : check = ⟨_, .asking (some _)⟩ := by simpa [Checkout.await, alone] using member
      refine ⟨own, Or.inr ?_⟩
      rintro reply status ⟨⟩ read
      rw [Checkout.reply, own] at read
      exact stage_fetched forward.backed forward.one named read
  | statusFailed running waits failure =>
      obtain ⟨rfl, alone, _⟩ := standing.only running
      exact ⟨forward.frame rfl rfl rfl (by simp [Checkout.finish, alone]), le_rfl⟩
  | told running read early =>
      obtain ⟨rfl, alone, _⟩ := standing.only running
      exact forward.showing alone read rfl rfl rfl (by simp [Checkout.finish, Checkout.emit, alone])
  | spent running read credited =>
      obtain ⟨rfl, alone, _⟩ := standing.only running
      exact forward.showing alone read rfl rfl rfl (by simp [Checkout.await, Checkout.emit, alone])
  | balanceServed running =>
      obtain ⟨rfl, alone, _⟩ := standing.only running
      have own := forward.calls _ (List.mem_of_getElem? running)
      refine ⟨forward.frame rfl rfl rfl fun check member => ?_, le_rfl⟩
      obtain rfl : check = ⟨_, .verifying _⟩ := by simpa [Checkout.await, alone] using member
      exact ⟨own, Or.inr (by simp)⟩
  | unverified running creditError =>
      obtain ⟨rfl, alone, _⟩ := standing.only running
      exact ⟨forward.frame rfl rfl rfl (by simp [Checkout.finish, alone]), le_rfl⟩
  | funded running read more =>
      obtain ⟨rfl, alone, _⟩ := standing.only running
      exact ⟨forward.frame rfl rfl rfl (by simp [Checkout.finish, Checkout.emit, alone]), le_rfl⟩

end Forward

-----------------------------------------------------------------------------------------
-- The contract
-----------------------------------------------------------------------------------------

/-- The lines that tell a payer that nothing was seen yet. -/
def nothingSeen : List String :=
  ["watching for your top-up", "watching for your payment", "no top-up landed yet", "not seen yet"]

/-- What holds of a checkout that has passed through some states. -/
structure CheckoutContract (cfg : BuyConfig) (key : Key) (passed : Checkout → Prop) (c : Checkout)
    : Prop where
  /-- At most one call runs. -/
  single_flight : c.checks.length = if c.screen.inFlight then 1 else 0
  orderly : Orderly cfg key passed c
  /-- The raw token leaves only for the ledger, right after the server told of an order that is done
  with.
  -/
  spent
    : ∀ before token after, c.events = before ++ .spent token :: after
        → token = key.token ∧ ∃ earlier payTo status,
          before = earlier ++ [.asked (orderStatusBody key.hash payTo), .told status]
          ∧ Told cfg key passed payTo status ∧ status.plausiblyCredited = true
  /-- The screen funds on a balance the ledger had, and is gone then. -/
  funded
    : ∀ balance, .funded balance ∈ c.events
        → Funded key passed balance ∧ c.screen.mounted = false ∧ c.checks = []
  /-- Failed and running reads leave what is shown. -/
  shows : c.screen.status = (c.events.filterMap PayEvent.status?).getLast?
  /-- Every failed read that is shown tells the payer not to pay again. -/
  warns
    : ∀ digits now, ∀ line ∈ (c.screen.view digits key.baseline now).errors,
        "Don't resend".toList <:+: line.toList

section Contract

variable {cfg : BuyConfig} {key : Key} {visited : Checkout → Prop} {c c' : Checkout}

/-- A screen that stays with its quote goes only on; by its moves. -/
theorem forward_run {start middle : Checkout} {earlier later : List PayAction} {address : String}
    (initial : (checkout cfg key).initial start) (named : address ≠ "")
    (before : (checkout cfg key).Run start earlier middle) (forward : Forward key address middle)
    (after : (checkout cfg key).Run middle later c)
    (stays : ∀ action ∈ later, action.StaysWith key.hash address)
    : Forward key address c ∧ middle.stage ≤ c.stage := by
  revert stays
  refine after.rule
    (fun labels c => (∀ action ∈ labels, action.StaysWith key.hash address)
      → Forward key address c ∧ middle.stage ≤ c.stage)
    (fun _ => ⟨forward, le_rfl⟩) ?_
  intro labels state label next run ih taken stays
  obtain ⟨kept, onward⟩ := ih fun action member => stays action (by simp [member])
  obtain ⟨moved, further⟩ :=
    kept.move named (orderly_run initial (before.append run)) (stays label (by simp))
      (Checkout.act_move taken)
  exact ⟨moved, onward.trans further⟩

/-- The first screen of a quote knows nothing. -/
theorem forward_start {start : Checkout} {address : String}
    (initial : (checkout cfg key).initial start) (quoted : start.screen.quote.payTo = address)
    (one : OneOrder key.hash address start.server)
    : Forward key address start := by
  obtain ⟨⟨quote, shown⟩, alone, _, reachable⟩ := initial
  have backed : start.server.Backed := by
    refine reachable.invariant StatusProcess.Backed
      (fun _ cleared => StatusProcess.backed_of_empty cleared) ?_
    rintro state action next backed rfl
    exact backed.act action
  refine ⟨quoted, by simp [alone], backed, one, ?_, by simp [alone]⟩
  simp [Checkout.stage, shown, PayScreen.mount]

/-- Nothing is announced to be missing of a payment that was seen or an order that is done with. -/
theorem announced_seen {screen : PayScreen} {baseline : ℚ} (digits : Number → String) (now : ℤ)
    (seen : 2 ≤ (screen.status.map TrackedStatus.stage).getD 0)
    : (screen.view digits baseline now).announced ∉ nothingSeen := by
  have initials : ∀ line ∈ nothingSeen, line.toList.head? ≠ some 'p' := by decide
  cases told : screen.status with
  | none => simp [told] at seen
  | some status =>
      simp only [PayScreen.view, told]
      cases status with
      | closed => simp only [PayScreen.settledStatus]; split <;> decide
      | answered status =>
          cases state : status.state with
          | waiting => simp [told, TrackedStatus.stage, state] at seen
          | detected => simp only [PayScreen.settledStatus, state]; decide
          | finalizing => simp only [PayScreen.settledStatus, state]; decide
          | confirming =>
              -- This line has the counts in it.
              intro member
              exact initials _ member (by simp [PayScreen.settledStatus, state])

end Contract

/-- Over every run of a checkout its contract holds, and while its quote and its order stay the same
it never shows less than it has shown: a payment once seen is never told to be missing.
-/
theorem pay_screen_contract (cfg : BuyConfig) (key : Key) (start middle final : Checkout)
    (earlier later : List PayAction) (initial : (checkout cfg key).initial start)
    (before : (checkout cfg key).Run start earlier middle)
    (after : (checkout cfg key).Run middle later final)
    : CheckoutContract cfg key ((checkout cfg key).Passes start (earlier ++ later)) final
      ∧ ∀ address, address ≠ "" → start.screen.quote.payTo = address
        → OneOrder key.hash address start.server
        → (∀ action ∈ earlier ++ later, action.StaysWith key.hash address)
        → middle.stage ≤ final.stage
          ∧ (2 ≤ middle.stage → ∀ digits now,
            (final.screen.view digits key.baseline now).announced ∉ nothingSeen) := by
  have whole := before.append after
  have orderly := orderly_run initial whole
  constructor
  · refine ⟨orderly.single_flight, orderly, fun _ _ _ split => orderly.spent split,
      fun _ member => orderly.funded member, ?_,
      fun _ _ _ shown => PayScreen.view_errors shown⟩
    refine whole.rule
      (fun _ c => c.screen.status = (c.events.filterMap PayEvent.status?).getLast?) ?_
      (fun _ shows taken => shows_move shows (Checkout.act_move taken))
    obtain ⟨⟨quote, shown⟩, _, silent, _⟩ := initial
    simp [shown, silent, PayScreen.mount]
  · intro address named quoted one stays
    obtain ⟨first, rest⟩ := List.forall_mem_append.mp stays
    obtain ⟨reached, _⟩ :=
      forward_run initial named .nil (forward_start initial quoted one) before first
    obtain ⟨_, onward⟩ := forward_run initial named before reached after rest
    exact ⟨onward, fun seen digits now => announced_seen digits now (seen.trans onward)⟩

section Example

def exampleKey : Key := ⟨"0sink_key", exampleTracked.hash, 0⟩

def exampleCheckout : Checkout :=
  ⟨.mount (exampleDraft.quote ⟨"4AdUnd", 7⟩), [], [], exampleTracking, .empty⟩

/-- A check by the timer, whose status read is answered. -/
def exampleCheck : List PayAction := [.tick true, .hashed 0, .statusServed 0, .statusTold 0]

/-- Nothing is seen, then a deposit that is confirming. -/
def exampleSeen : List PayAction := exampleCheck ++ [.server exampleDeposit] ++ exampleCheck

/-- The payments process restarts, the deposit is settled and its credit delivered. -/
def exampleCredited : List PayAction :=
  [.server .restart, .server exampleResync] ++ exampleCheck
    ++ [
      .server (.pollRail [7] (.ok [⟨⟨7, "7d0c:7", 98, true⟩, .ofInt 10⟩]) 90000 exampleConfig),
      .ledger (.creditOnce exampleTracked.hash 10000000 "7d0c:7" 91000)
    ]
    ++ exampleCheck ++ [.balanceServed 0, .balanceTold 0]

/-- The payment stays seen across the restart, and the screen funds in the end. -/
theorem pay_screen_contract_funded
    : ∃ middle final,
        exampleSeen.foldlM (Checkout.act exampleBuyConfig exampleKey) exampleCheckout = some middle
        ∧ exampleCredited.foldlM (Checkout.act exampleBuyConfig exampleKey) middle = some final
        ∧ middle.stage = 2 ∧ final.screen.mounted = false
        ∧ CheckoutContract exampleBuyConfig exampleKey
            ((checkout exampleBuyConfig exampleKey).Passes exampleCheckout
              (exampleSeen ++ exampleCredited)) final
        ∧ middle.stage ≤ final.stage := by
  have ran
      : (exampleSeen.foldlM (Checkout.act exampleBuyConfig exampleKey) exampleCheckout).bind
          (fun middle =>
            (exampleCredited.foldlM (Checkout.act exampleBuyConfig exampleKey) middle).map
              (fun final => (middle.stage, final.screen.mounted)))
        = some (2, false) := by
    decide +kernel
  obtain ⟨middle, first, rest⟩ := Option.bind_eq_some_iff.mp ran
  obtain ⟨final, second, same⟩ := Option.map_eq_some_iff.mp rest
  obtain ⟨stage, gone⟩ := Prod.mk.inj same
  have before : (checkout exampleBuyConfig exampleKey).Run exampleCheckout exampleSeen middle :=
    System.run_of_foldlM first fun _ taken => taken
  have after : (checkout exampleBuyConfig exampleKey).Run middle exampleCredited final :=
    System.run_of_foldlM second fun _ taken => taken
  have one : OneOrder exampleKey.hash "4AdUnd" exampleCheckout.server := by
    intro first memberFirst second memberSecond _ _
    exact (List.mem_singleton.mp memberFirst).trans (List.mem_singleton.mp memberSecond).symm
  have stays : ∀ action ∈ exampleSeen ++ exampleCredited,
      action.StaysWith exampleKey.hash "4AdUnd" := by
    simp [exampleSeen, exampleCredited, exampleCheck, exampleDeposit, exampleResync,
      PayAction.StaysWith, OpensOther]
  obtain ⟨contract, onward⟩ := pay_screen_contract exampleBuyConfig exampleKey exampleCheckout
    middle final exampleSeen exampleCredited
    ⟨⟨_, rfl⟩, rfl, rfl, ⟨exampleTracking, [], rfl, .nil⟩⟩ before after
  exact ⟨middle, final, first, second, stage, gone, contract,
    (onward "4AdUnd" (by decide) rfl one stays).1⟩

end Example

end Nullsink.Client
