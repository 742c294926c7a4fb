import Nullsink.Client.PayScreen
import Nullsink.Lib.Log

/-! The traffic of the payment step: one check at a time, in cycles that spend the raw token only
after the server told that the order is done with.
-/

namespace Nullsink.Client

open Relational Ecma Transition Ledger Payments

-----------------------------------------------------------------------------------------
-- Moves
-----------------------------------------------------------------------------------------

/-- What an action does, with the tests that lead there. -/
inductive CheckoutMove (cfg : BuyConfig) (key : Key) (c : Checkout) : PayAction → Checkout → Prop
  | idle {action} : CheckoutMove cfg key c action c
  | server (action)
    : CheckoutMove cfg key c (.server action) { c with server := c.server.act action }
  | ledger (op db) : CheckoutMove cfg key c (.ledger op) { c with db }
  | requote (quote)
    : CheckoutMove cfg key c (.requote quote) { c with screen := { c.screen with quote } }
  | started {action} (mounted : c.screen.mounted = true) (free : c.screen.inFlight = false)
    : CheckoutMove cfg key c action c.checkNow
  | asked {i payTo} (running : c.checks[i]? = some ⟨payTo, .hashing⟩)
    : CheckoutMove cfg key c (.hashed i)
        ((c.emit (.asked (orderStatusBody key.hash payTo))).await i ⟨payTo, .asking none⟩)
  | statusServed {i payTo before} (running : c.checks[i]? = some ⟨payTo, .asking before⟩)
    : CheckoutMove cfg key c (.statusServed i)
        (c.await i ⟨payTo, .asking (some (c.reply cfg key payTo))⟩)
  | statusFailed {action i check} (running : c.checks[i]? = some check)
    (waits : ∀ reply, check.phase ≠ .verifying reply) (failure : ReadFailure)
    : CheckoutMove cfg key c action
        ({ c with screen := { c.screen with statusError := some failure } }.finish i)
  | told {i payTo reply status}
    (running : c.checks[i]? = some ⟨payTo, .asking (some reply)⟩)
    (read : fetched reply = .ok status) (early : status.plausiblyCredited = false)
    : CheckoutMove cfg key c (.statusTold i)
        (({ c with screen := { c.screen with status := some status } }.emit (.told status)).finish
          i)
  | spent {i payTo reply status}
    (running : c.checks[i]? = some ⟨payTo, .asking (some reply)⟩)
    (read : fetched reply = .ok status) (credited : status.plausiblyCredited = true)
    : CheckoutMove cfg key c (.statusTold i)
        ((({ c with screen := { c.screen with status := some status } }.emit (.told status)).emit
          (.spent key.token)).await i ⟨payTo, .verifying none⟩)
  | balanceServed {i payTo before} (running : c.checks[i]? = some ⟨payTo, .verifying before⟩)
    : CheckoutMove cfg key c (.balanceServed i)
        (c.await i ⟨payTo, .verifying (some (c.db.getBalance key.hash))⟩)
  | unverified {action i payTo reply} (running : c.checks[i]? = some ⟨payTo, .verifying reply⟩)
    (creditError : Option ReadFailure)
    : CheckoutMove cfg key c action ({ c with screen := { c.screen with creditError } }.finish i)
  | funded {i payTo} {micros : ℤ} {balance}
    (running : c.checks[i]? = some ⟨payTo, .verifying (some (some micros))⟩)
    (read : balance = Binary64.round (micros / 1000000)) (more : key.baseline < balance)
    : CheckoutMove cfg key c (.balanceTold i)
        (({ c with screen := { c.screen with mounted := false } }.emit (.funded balance)).finish i)

namespace Checkout

variable {cfg : BuyConfig} {key : Key} {c c' : Checkout}

theorem checkNow_move {action : PayAction} (mounted : c.screen.mounted = true)
    : CheckoutMove cfg key c action c.checkNow := by
  cases free : c.screen.inFlight with
  | false => exact .started mounted free
  | true =>
      have same : c.checkNow = c := by simp [checkNow, free]
      rw [same]
      exact .idle

theorem tracked_move {i : ℕ} {payTo : String} {reply : StatusReply}
    (running : c.checks[i]? = some ⟨payTo, .asking (some reply)⟩)
    : CheckoutMove cfg key c (.statusTold i) (c.tracked key i payTo (fetched reply)) := by
  cases read : fetched reply with
  | error failed => exact .statusFailed running (by simp) (toReadFailure failed)
  | ok status =>
      cases credited : status.plausiblyCredited with
      | false =>
          have taken := @CheckoutMove.told cfg key c i payTo reply status running read credited
          simpa [tracked, credited] using taken
      | true =>
          have taken := @CheckoutMove.spent cfg key c i payTo reply status running read credited
          simpa [tracked, credited] using taken

theorem verified_move {action : PayAction} {i : ℕ} {payTo : String}
    {reply : Option (Option ℤ)} {answer : Except Failed ℚ}
    (running : c.checks[i]? = some ⟨payTo, .verifying reply⟩)
    (unread : ∀ balance, checkBalance answer ≠ .ok (some balance))
    : CheckoutMove cfg key c action (c.verified key i answer) := by
  unfold verified
  cases read : checkBalance answer with
  | error failure => exact .unverified running (some failure)
  | ok found =>
      cases found with
      | none => exact .unverified running c.screen.creditError
      | some balance => exact absurd read (unread balance)

theorem balanceTold_move {i : ℕ} {payTo : String} {micros : Option ℤ}
    (running : c.checks[i]? = some ⟨payTo, .verifying (some micros)⟩)
    : CheckoutMove cfg key c (.balanceTold i) (c.verified key i (balanceReply micros)) := by
  cases micros with
  | none => exact verified_move running (by simp [balanceReply, checkBalance])
  | some micros =>
      by_cases more : key.baseline < Binary64.round (micros / 1000000)
      · have taken := @CheckoutMove.funded cfg key c i payTo micros _ running rfl more
        simpa [verified, balanceReply, checkBalance, more] using taken
      · have taken :=
          @CheckoutMove.unverified cfg key c (.balanceTold i) i payTo _ running c.screen.creditError
        simpa [verified, balanceReply, checkBalance, more] using taken

/-- A lost answer is no balance. -/
theorem checkBalance_lost (failed : Failed) (balance : ℚ)
    : checkBalance (.error failed) ≠ .ok (some balance) := by
  cases failed with
  | threw => simp [checkBalance]
  | refused status retryAfterSec =>
      unfold checkBalance
      split <;> simp_all
  | unreadable => simp [checkBalance]

theorem act_move {action : PayAction} (acted : c.act cfg key action = some c')
    : CheckoutMove cfg key c action c' := by
  cases action with
  | server action =>
      obtain rfl := Option.some.inj acted
      exact .server action
  | ledger op =>
      obtain rfl := Option.some.inj acted
      exact .ledger op _
  | tick visible =>
      obtain ⟨mounted, taken⟩ := Option.ite_none_right_eq_some.mp acted
      obtain rfl := Option.some.inj taken
      cases visible with
      | false => exact .idle
      | true => exact checkNow_move mounted
  | press =>
      obtain ⟨⟨mounted, _⟩, taken⟩ := Option.ite_none_right_eq_some.mp acted
      obtain rfl := Option.some.inj taken
      exact checkNow_move mounted
  | requote quote =>
      obtain ⟨_, taken⟩ := Option.ite_none_right_eq_some.mp acted
      obtain rfl := Option.some.inj taken
      exact .requote quote
  | hashed i =>
      simp only [act] at acted
      split at acted
      · rename_i running
        obtain rfl := Option.some.inj acted
        exact .asked running
      · cases acted
  | statusServed i =>
      simp only [act] at acted
      split at acted
      · rename_i running
        obtain rfl := Option.some.inj acted
        exact .statusServed running
      · cases acted
  | statusTold i =>
      simp only [act] at acted
      split at acted
      · rename_i running
        obtain rfl := Option.some.inj acted
        exact tracked_move running
      · cases acted
  | statusLost i failed =>
      simp only [act] at acted
      split at acted
      · rename_i running
        obtain rfl := Option.some.inj acted
        exact .statusFailed running (by simp) (toReadFailure failed)
      · rename_i running
        obtain rfl := Option.some.inj acted
        exact .statusFailed running (by simp) (toReadFailure failed)
      · cases acted
  | balanceServed i =>
      simp only [act] at acted
      split at acted
      · rename_i running
        obtain rfl := Option.some.inj acted
        exact .balanceServed running
      · cases acted
  | balanceTold i =>
      simp only [act] at acted
      split at acted
      · rename_i running
        obtain rfl := Option.some.inj acted
        exact balanceTold_move running
      · cases acted
  | balanceLost i failed =>
      simp only [act] at acted
      split at acted
      · rename_i running
        obtain rfl := Option.some.inj acted
        exact verified_move running (checkBalance_lost failed)
      · cases acted

end Checkout

-----------------------------------------------------------------------------------------
-- Cycles
-----------------------------------------------------------------------------------------

section Traffic

variable (cfg : BuyConfig) (key : Key) (visited : Checkout → Prop)

/-- The server gave a status for an address at a moment of the checkout. -/
def Told (payTo : String) (status : TrackedStatus) : Prop :=
  ∃ c, visited c ∧ fetched (c.reply cfg key payTo) = .ok status

/-- The ledger had a balance above the baseline at a moment of the checkout. -/
def Funded (balance : ℚ) : Prop :=
  ∃ c, visited c ∧ ∃ micros : ℤ, c.db.getBalance key.hash = some micros
    ∧ balance = Binary64.round (micros / 1000000) ∧ key.baseline < balance

/-- What a call that has ended sent and was told, unless it funded. -/
inductive Cycle : List PayEvent → Prop
  | untold (payTo) : Cycle [.asked (orderStatusBody key.hash payTo)]
  | told {payTo status} (read : Told cfg key visited payTo status)
    (early : status.plausiblyCredited = false)
    : Cycle [.asked (orderStatusBody key.hash payTo), .told status]
  | unverified {payTo status} (read : Told cfg key visited payTo status)
    (credited : status.plausiblyCredited = true)
    : Cycle [.asked (orderStatusBody key.hash payTo), .told status, .spent key.token]

/-- What a running call has sent and been told, with the answer on its way to it. -/
inductive Reached : Check → List PayEvent → Prop
  | hashing (payTo) : Reached ⟨payTo, .hashing⟩ []
  | asking {payTo reply}
    (served : ∀ answer ∈ reply, ∃ c, visited c ∧ answer = c.reply cfg key payTo)
    : Reached ⟨payTo, .asking reply⟩ [.asked (orderStatusBody key.hash payTo)]
  | verifying {payTo status reply} (read : Told cfg key visited payTo status)
    (credited : status.plausiblyCredited = true)
    (served : ∀ answer ∈ reply, ∃ c, visited c ∧ answer = c.db.getBalance key.hash)
    : Reached ⟨payTo, .verifying reply⟩
        [.asked (orderStatusBody key.hash payTo), .told status, .spent key.token]

/-- Where the checkout stands, with what its present call has sent and been told. -/
inductive Standing (c : Checkout) : List PayEvent → Prop
  | idle (alone : c.checks = []) (mounted : c.screen.mounted = true)
    (free : c.screen.inFlight = false ∧ c.screen.checking = false)
    : Standing c []
  | running {check events} (alone : c.checks = [check]) (mounted : c.screen.mounted = true)
    (busy : c.screen.inFlight = true ∧ c.screen.checking = true)
    (reached : Reached cfg key visited check events)
    : Standing c events
  | funded {payTo status balance} (alone : c.checks = []) (gone : c.screen.mounted = false)
    (free : c.screen.inFlight = false)
    (read : Told cfg key visited payTo status) (credited : status.plausiblyCredited = true)
    (balanced : Funded key visited balance)
    : Standing c
        [.asked (orderStatusBody key.hash payTo), .told status, .spent key.token, .funded balance]

/-- All the traffic is of cycles that have ended and the present one. -/
def Orderly (c : Checkout) : Prop :=
  ∃ (cycles : List (List PayEvent)) (current : List PayEvent),
    (∀ cycle ∈ cycles, Cycle cfg key visited cycle)
    ∧ c.events = cycles.flatten ++ current
    ∧ Standing cfg key visited c current

end Traffic

section Orderly

variable {cfg : BuyConfig} {key : Key} {visited later : Checkout → Prop} {c c' : Checkout}

theorem Told.mono {payTo : String} {status : TrackedStatus}
    (read : Told cfg key visited payTo status) (grown : ∀ c, visited c → later c)
    : Told cfg key later payTo status := by
  obtain ⟨c, passed, answered⟩ := read
  exact ⟨c, grown c passed, answered⟩

theorem Reached.mono {check : Check} {events : List PayEvent}
    (reached : Reached cfg key visited check events) (grown : ∀ c, visited c → later c)
    : Reached cfg key later check events := by
  cases reached with
  | hashing payTo => exact .hashing payTo
  | asking served =>
      refine .asking fun answer given => ?_
      obtain ⟨c, passed, same⟩ := served answer given
      exact ⟨c, grown c passed, same⟩
  | verifying read credited served =>
      refine .verifying (read.mono grown) credited fun answer given => ?_
      obtain ⟨c, passed, same⟩ := served answer given
      exact ⟨c, grown c passed, same⟩

/-- Traffic stays orderly as the checkout goes on. -/
theorem Orderly.mono (orderly : Orderly cfg key visited c) (grown : ∀ c, visited c → later c)
    : Orderly cfg key later c := by
  obtain ⟨cycles, current, ended, whole, standing⟩ := orderly
  refine ⟨cycles, current, fun cycle member => ?_, whole, ?_⟩
  · cases ended cycle member with
    | untold payTo => exact .untold payTo
    | told read early => exact .told (read.mono grown) early
    | unverified read credited => exact .unverified (read.mono grown) credited
  · cases standing with
    | idle alone mounted free => exact .idle alone mounted free
    | running alone mounted busy reached =>
        exact .running alone mounted busy (reached.mono grown)
    | funded alone gone free read credited balanced =>
        obtain ⟨c, passed, held⟩ := balanced
        exact .funded alone gone free (read.mono grown) credited ⟨c, grown c passed, held⟩

/-- A call that ends leaves the screen free for the next. -/
theorem Orderly.ended {cycles : List (List PayEvent)} {cycle : List PayEvent}
    (ended : ∀ cycle ∈ cycles, Cycle cfg key visited cycle)
    (last : cycle = [] ∨ Cycle cfg key visited cycle)
    (whole : c.events = cycles.flatten ++ cycle) {check : Check} (alone : c.checks = [check])
    (mounted : c.screen.mounted = true)
    : Orderly cfg key visited (c.finish 0) := by
  have standing : Standing cfg key visited (c.finish 0) [] :=
    .idle (by simp [Checkout.finish, alone]) mounted ⟨rfl, rfl⟩
  rcases last with rfl | last
  · exact ⟨cycles, [], ended, whole, standing⟩
  · refine ⟨cycles ++ [cycle], [], ?_, by simpa [Checkout.finish] using whole, standing⟩
    intro other member
    rcases List.mem_append.mp member with before | same
    · exact ended other before
    · obtain rfl := List.mem_singleton.mp same
      exact last

/-- Only one call runs, so that an index finds it. -/
theorem Standing.only {events : List PayEvent} (standing : Standing cfg key visited c events)
    {i : ℕ} {check : Check} (running : c.checks[i]? = some check)
    : i = 0 ∧ c.checks = [check] ∧ c.screen.mounted = true
      ∧ (c.screen.inFlight = true ∧ c.screen.checking = true)
      ∧ Reached cfg key visited check events := by
  cases standing with
  | idle alone mounted free => simp [alone] at running
  | running alone mounted busy reached =>
      rw [alone] at running
      cases i with
      | zero =>
          obtain rfl := Option.some.inj running
          exact ⟨rfl, alone, mounted, busy, reached⟩
      | succ i => simp at running
  | funded alone gone free read credited balanced => simp [alone] at running

/-- What the services do, and another quote, leave the screen where it stands. -/
theorem Standing.frame {events : List PayEvent} (standing : Standing cfg key visited c events)
    (calls : c'.checks = c.checks) (mounted : c'.screen.mounted = c.screen.mounted)
    (inFlight : c'.screen.inFlight = c.screen.inFlight)
    (checking : c'.screen.checking = c.screen.checking)
    : Standing cfg key visited c' events := by
  cases standing with
  | idle alone shown free =>
      exact .idle (calls.trans alone) (mounted.trans shown)
        ⟨inFlight.trans free.1, checking.trans free.2⟩
  | running alone shown busy reached =>
      exact .running (calls.trans alone) (mounted.trans shown)
        ⟨inFlight.trans busy.1, checking.trans busy.2⟩ reached
  | funded alone gone free read credited balanced =>
      exact .funded (calls.trans alone) (mounted.trans gone) (inFlight.trans free) read credited
        balanced

/-- Every move keeps the traffic orderly; by its cases. -/
theorem Orderly.move {action : PayAction} (orderly : Orderly cfg key visited c) (here : visited c)
    (move : CheckoutMove cfg key c action c')
    : Orderly cfg key visited c' := by
  obtain ⟨cycles, current, ended, whole, standing⟩ := orderly
  -- What the call on its way reaches next, while its cycle goes on.
  have goesOn {c' : Checkout} {before check : Check} {more : List PayEvent}
      (alone : c.checks = [before]) (calls : c'.checks = c.checks.set 0 check)
      (mounted : c'.screen.mounted = true)
      (busy : c'.screen.inFlight = true ∧ c'.screen.checking = true)
      (sent : c'.events = c.events ++ more)
      (reached : Reached cfg key visited check (current ++ more))
      : Orderly cfg key visited c' := by
    refine ⟨cycles, current ++ more, ended, by simp [sent, whole], ?_⟩
    exact .running (by simp [calls, alone]) mounted busy reached
  cases move with
  | idle => exact ⟨cycles, current, ended, whole, standing⟩
  | server action => exact ⟨cycles, current, ended, whole, standing.frame rfl rfl rfl rfl⟩
  | ledger op db => exact ⟨cycles, current, ended, whole, standing.frame rfl rfl rfl rfl⟩
  | requote quote => exact ⟨cycles, current, ended, whole, standing.frame rfl rfl rfl rfl⟩
  | started mounted free =>
      cases standing with
      | idle alone _ _ =>
          refine ⟨cycles, [], ended, by simp [Checkout.checkNow, free, whole], ?_⟩
          have calls : c.checkNow.checks = [⟨c.screen.quote.payTo, .hashing⟩] := by
            simp [Checkout.checkNow, free, alone]
          refine .running calls ?_ ?_ (.hashing _) <;> simp [Checkout.checkNow, free, mounted]
      | running _ _ busy _ => exact absurd (busy.1.symm.trans free) (by simp)
      | funded _ gone _ _ _ _ => exact absurd (gone.symm.trans mounted) (by simp)
  | asked running =>
      obtain ⟨rfl, alone, mounted, busy, reached⟩ := standing.only running
      cases reached
      exact goesOn alone rfl mounted busy rfl (.asking (by simp))
  | statusServed running =>
      obtain ⟨rfl, alone, mounted, busy, reached⟩ := standing.only running
      cases reached with
      | asking served =>
          refine goesOn alone rfl mounted busy (List.append_nil _).symm (.asking ?_)
          intro answer given
          obtain rfl := Option.some.inj given
          exact ⟨c, here, rfl⟩
  | statusFailed running waits failure =>
      obtain ⟨rfl, alone, mounted, busy, reached⟩ := standing.only running
      cases reached with
      | hashing payTo => exact .ended ended (Or.inl rfl) whole alone mounted
      | asking served => exact .ended ended (Or.inr (.untold _)) whole alone mounted
      | verifying read credited served => exact absurd rfl (waits _)
  | told running read early =>
      obtain ⟨rfl, alone, mounted, busy, reached⟩ := standing.only running
      cases reached with
      | asking served =>
          obtain ⟨before, passed, rfl⟩ := served _ rfl
          refine .ended ended (Or.inr (.told ⟨before, passed, read⟩ early)) ?_ alone mounted
          simp [Checkout.emit, whole]
  | spent running read credited =>
      obtain ⟨rfl, alone, mounted, busy, reached⟩ := standing.only running
      cases reached with
      | asking served =>
          obtain ⟨before, passed, rfl⟩ := served _ rfl
          refine goesOn alone rfl mounted busy (List.append_assoc _ _ _) ?_
          exact .verifying ⟨before, passed, read⟩ credited (by simp)
  | balanceServed running =>
      obtain ⟨rfl, alone, mounted, busy, reached⟩ := standing.only running
      cases reached with
      | verifying read credited served =>
          refine goesOn alone rfl mounted busy (List.append_nil _).symm ?_
          refine .verifying read credited fun answer given => ?_
          obtain rfl := Option.some.inj given
          exact ⟨c, here, rfl⟩
  | unverified running creditError =>
      obtain ⟨rfl, alone, mounted, busy, reached⟩ := standing.only running
      cases reached with
      | verifying read credited served =>
          exact .ended ended (Or.inr (.unverified read credited)) whole alone mounted
  | funded running read more =>
      obtain ⟨rfl, alone, mounted, busy, reached⟩ := standing.only running
      cases reached with
      | verifying told credited served =>
          obtain ⟨before, passed, held⟩ := served _ rfl
          have balanced : Funded key visited _ := ⟨before, passed, _, held.symm, read, more⟩
          refine ⟨cycles, _, ended, ?_, .funded ?_ rfl rfl told credited balanced⟩
          · simp [Checkout.finish, Checkout.emit, whole]
          · simp [Checkout.finish, Checkout.emit, alone]

/-- Whatever spends opens with a request and a status that is done with, and spends once. -/
theorem Orderly.opens {cycles : List (List PayEvent)} {current block : List PayEvent}
    (ended : ∀ cycle ∈ cycles, Cycle cfg key visited cycle)
    (standing : Standing cfg key visited c current) (member : block ∈ cycles ++ [current])
    {token : String} (spends : .spent token ∈ block)
    : ∃ payTo status rest,
        block
          = .asked (orderStatusBody key.hash payTo) :: .told status :: .spent key.token :: rest
        ∧ (∀ token, .spent token ∉ rest)
        ∧ Told cfg key visited payTo status ∧ status.plausiblyCredited = true := by
  rcases List.mem_append.mp member with before | last
  · cases ended block before with
    | untold payTo => simp at spends
    | told read early => simp at spends
    | unverified read credited => exact ⟨_, _, [], rfl, by simp, read, credited⟩
  · obtain rfl := List.mem_singleton.mp last
    cases standing with
    | idle alone mounted free => cases spends
    | running alone mounted busy reached =>
        cases reached with
        | hashing payTo => cases spends
        | asking served => simp at spends
        | verifying read credited served => exact ⟨_, _, [], rfl, by simp, read, credited⟩
    | funded alone gone free read credited balanced =>
        exact ⟨_, _, _, rfl, by simp, read, credited⟩

/-- What a call has spent, it spent right after it was told. -/
theorem Orderly.spent (orderly : Orderly cfg key visited c) {before after : List PayEvent}
    {token : String} (split : c.events = before ++ .spent token :: after)
    : token = key.token ∧ ∃ earlier payTo status,
        before = earlier ++ [.asked (orderStatusBody key.hash payTo), .told status]
        ∧ Told cfg key visited payTo status ∧ status.plausiblyCredited = true := by
  obtain ⟨cycles, current, ended, whole, standing⟩ := orderly
  have blocks : (cycles ++ [current]).flatten = before ++ .spent token :: after := by
    simpa [← whole] using split
  obtain ⟨earlier, block, later, front, back, parts, inside, rfl⟩ := Log.mem_block blocks
  obtain ⟨payTo, status, rest, rfl, once, read, credited⟩ :=
    @Orderly.opens cfg key visited c cycles current block ended standing (by simp [parts]) token
      (by simp [inside])
  rcases front with _ | ⟨first, _ | ⟨second, _ | ⟨third, more⟩⟩⟩
  · simp at inside
  · simp at inside
  · obtain ⟨rfl, rfl, same, _⟩ : _ ∧ _ ∧ key.token = token ∧ _ := by simpa using inside
    exact ⟨same.symm, earlier.flatten, payTo, status, rfl, read, credited⟩
  · have again : rest = more ++ .spent token :: back := by simp_all
    exact absurd (by simp [again]) (once token)

/-- What funds is the last the screen does. -/
theorem Orderly.funded (orderly : Orderly cfg key visited c) {balance : ℚ}
    (member : .funded balance ∈ c.events)
    : Funded key visited balance ∧ c.screen.mounted = false ∧ c.checks = [] := by
  obtain ⟨cycles, current, ended, whole, standing⟩ := orderly
  rw [whole] at member
  rcases List.mem_append.mp member with before | last
  · obtain ⟨cycle, among, inside⟩ := List.mem_flatten.mp before
    cases ended cycle among <;> simp at inside
  · cases standing with
    | idle alone mounted free => cases last
    | running alone mounted busy reached => cases reached <;> simp at last
    | funded alone gone free read credited balanced =>
        obtain rfl : balance = _ := by simpa using last
        exact ⟨balanced, gone, alone⟩

theorem Orderly.single_flight (orderly : Orderly cfg key visited c)
    : c.checks.length = if c.screen.inFlight then 1 else 0 := by
  obtain ⟨cycles, current, _, _, standing⟩ := orderly
  cases standing with
  | idle alone mounted free => simp [alone, free.1]
  | running alone mounted busy reached => simp [alone, busy.1]
  | funded alone gone free read credited balanced => simp [alone, free]

end Orderly

-----------------------------------------------------------------------------------------
-- Runs
-----------------------------------------------------------------------------------------

/-- A fresh screen of a quote, beside services in any state they can be in. -/
def checkout (cfg : BuyConfig) (key : Key) : System Checkout PayAction where
  initial c :=
    (∃ quote, c.screen = .mount quote) ∧ c.checks = [] ∧ c.events = []
    ∧ statusSystem.Reachable c.server
  step c action c' := c.act cfg key action = some c'

def PayEvent.status? : PayEvent → Option TrackedStatus
  | .told status => some status
  | _ => none

section Runs

variable {cfg : BuyConfig} {key : Key} {c c' : Checkout}

/-- A move shows what the last answer told. -/
theorem shows_move {action : PayAction}
    (shows : c.screen.status = (c.events.filterMap PayEvent.status?).getLast?)
    (move : CheckoutMove cfg key c action c')
    : c'.screen.status = (c'.events.filterMap PayEvent.status?).getLast? := by
  cases move with
  | started mounted free =>
      simp only [Checkout.checkNow, free, Bool.false_eq_true, if_false]
      exact shows
  | asked running => simpa [Checkout.await, Checkout.emit, PayEvent.status?] using shows
  | told running read early => simp [Checkout.finish, Checkout.emit, PayEvent.status?]
  | spent running read credited =>
      simp [Checkout.await, Checkout.emit, PayEvent.status?, List.filterMap_cons]
  | funded running read more =>
      simpa [Checkout.finish, Checkout.emit, PayEvent.status?] using shows
  | _ => exact shows

/-- The traffic of every run is orderly, by its moves. -/
theorem orderly_run {start : Checkout} {labels : List PayAction}
    (initial : (checkout cfg key).initial start) (run : (checkout cfg key).Run start labels c)
    : Orderly cfg key ((checkout cfg key).Passes start labels) c := by
  refine run.rule (fun labels c => Orderly cfg key ((checkout cfg key).Passes start labels) c) ?_ ?_
  · obtain ⟨⟨quote, shown⟩, alone, silent, _⟩ := initial
    exact ⟨[], [], by simp, by simpa using silent, .idle alone (by rw [shown]; rfl) (by
      rw [shown]
      exact ⟨rfl, rfl⟩)⟩
  · intro earlier state label next before orderly taken
    refine (orderly.move before.passes (Checkout.act_move taken)).mono ?_
    exact fun _ passed => passed.append [label]

end Runs

end Nullsink.Client
