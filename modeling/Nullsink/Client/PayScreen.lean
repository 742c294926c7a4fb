import Nullsink.Ledger.StoreHistory
import Nullsink.Payments.StatusHistory

/-! The payment step of `client/src/flow/QuotePay.tsx`: the reads of `lib/api.ts` it makes, what it
shows of their answers, and its steps from one await to the next beside the two services it asks.
-/

namespace Nullsink.Client

open Relational Ecma Ledger Payments

-----------------------------------------------------------------------------------------
-- Reads
-----------------------------------------------------------------------------------------

inductive ReadKind where
  | network
  | rateLimited
  | server
  deriving DecidableEq

structure ReadFailure where
  kind : ReadKind
  status : ℕ
  retryAfterSec : Option ℕ
  deriving DecidableEq

/-- A `fetch` without a usable body: it threw, its status is not a success, or the body is no JSON.
-/
inductive Failed where
  | threw
  | refused (status : ℕ) (retryAfterSec : Option ℕ)
  | unreadable

def readFailure (status : ℕ) (retryAfterSec : Option ℕ) : ReadFailure :=
  ⟨if status = 429 then .rateLimited else .server, status, retryAfterSec⟩

/-- What the readers throw, as `toReadFailure` reads it back; a parse error passes for the network.
-/
def toReadFailure : Failed → ReadFailure
  | .threw => ⟨.network, 0, none⟩
  | .refused status retryAfterSec => readFailure status retryAfterSec
  | .unreadable => ⟨.network, 0, none⟩

/-- A body of `/order-status`. -/
inductive TrackedStatus where
  | closed
  | answered (status : OrderStatus)
  deriving DecidableEq

/-- The request of `fetchOrderStatus`: an empty address is left out. -/
def orderStatusBody (hash address : String) : Json :=
  .object
    (if address = "" then [("hash", .string hash)]
    else [("hash", .string hash), ("address", .string address)])

/-- What `fetchOrderStatus` gets of the handler's reply. A throw of the handler is a 500. -/
def fetched : StatusReply → Except Failed TrackedStatus
  | .denied denial => .error (.refused denial.status none)
  | .closed => .ok .closed
  | .answered status => .ok (.answered status)
  | .threw => .error (.refused 500 none)

/-- `checkBalance`: a 401 is no balance. -/
def checkBalance : Except Failed ℚ → Except ReadFailure (Option ℚ)
  | .ok balance => .ok (some balance)
  | .error (.refused 401 _) => .ok none
  | .error failed => .error (toReadFailure failed)

/-- What `/balance` answers: the micro-dollars of a known token in dollars. -/
def balanceReply : Option ℤ → Except Failed ℚ
  | some micros => .ok (Binary64.round (micros / 1000000))
  | none => .error (.refused 401 none)

/-- Whether the raw token is spent on `/balance` after a status. -/
def TrackedStatus.plausiblyCredited : TrackedStatus → Bool
  | .closed => true
  | .answered status => status.state = .finalizing

-----------------------------------------------------------------------------------------
-- The screen
-----------------------------------------------------------------------------------------

/-- The key being paid for: its hash as both sides compute it, and its balance before the order. -/
structure Key where
  token : String
  hash : String
  baseline : ℚ

/-- The state of the component. `inFlight` is the ref, `mounted` whether its parent shows it. -/
structure PayScreen where
  quote : Quote
  mounted : Bool
  inFlight : Bool
  checking : Bool
  status : Option TrackedStatus
  statusError : Option ReadFailure
  creditError : Option ReadFailure

namespace PayScreen

/-- The screen of a quote before its first check. -/
def mount (quote : Quote) : PayScreen :=
  ⟨quote, true, false, false, none, none, none⟩

def expired (screen : PayScreen) (now : ℤ) : Bool := screen.quote.expiresAt ≤ now

/-- What is announced of the last status. `digits` writes a number. -/
def settledStatus (digits : Number → String) (baseline : ℚ) : Option TrackedStatus → String
  | none => if 0 < baseline then "watching for your top-up" else "watching for your payment"
  | some .closed =>
      if 0 < baseline then "top-up credit not verified yet — don't resend; check again shortly"
      else "credit not verified yet — don't resend; check again shortly"
  | some (.answered status) =>
      match status.state with
      | .confirming =>
          "payment seen, confirming " ++ digits status.confirmations ++ "/"
            ++ digits (.ofInt status.required)
      | .finalizing => "confirmed, verifying credit…"
      | .detected => "payment seen, re-checking…"
      | .waiting => if 0 < baseline then "no top-up landed yet" else "not seen yet"

def paymentStatusErrorMessage (error : ReadFailure) : String :=
  match error.kind with
  | .rateLimited => "Payment checks are busy right now. Don't resend; check again in a moment."
  | .network =>
      "Couldn't reach nullsink to check payment status. Don't resend; check again shortly."
  | .server =>
      "Payment status is temporarily unavailable. Don't resend; check again shortly."

def creditVerificationErrorMessage (error : ReadFailure) : String :=
  match error.kind with
  | .rateLimited =>
      "Couldn't verify your credit yet: balance checks are busy. Don't resend; "
        ++ "check again in a moment."
  | .network =>
      "Couldn't verify your credit yet: couldn't reach nullsink. Don't resend; "
        ++ "check again shortly."
  | .server =>
      "Couldn't verify your credit yet: the balance service is temporarily unavailable. "
        ++ "Don't resend; check again shortly."

/-- The payment details, which expiry hides, and the lines of the status panel. -/
structure View where
  payment : Option Quote
  watch : String
  announced : String
  errors : List String

def view (digits : Number → String) (baseline : ℚ) (now : ℤ) (screen : PayScreen) : View :=
  let settled := settledStatus digits baseline screen.status
  {
    payment := if screen.expired now then none else some screen.quote
    watch := if screen.checking then "checking…" else settled
    announced := settled
    errors :=
      (screen.statusError.map paymentStatusErrorMessage).toList
        ++ (screen.creditError.map creditVerificationErrorMessage).toList
  }

/-- Every failed read tells the payer not to pay again. -/
theorem view_errors {digits : Number → String} {baseline : ℚ} {now : ℤ} {screen : PayScreen}
    {line : String} (shown : line ∈ (screen.view digits baseline now).errors)
    : "Don't resend".toList <:+: line.toList := by
  rcases List.mem_append.mp shown with status | credit
  · obtain ⟨error, _, rfl⟩ := Option.map_eq_some_iff.mp (Option.mem_toList.mp status)
    cases kind : error.kind <;> simp only [paymentStatusErrorMessage, kind] <;> decide +kernel
  · obtain ⟨error, _, rfl⟩ := Option.map_eq_some_iff.mp (Option.mem_toList.mp credit)
    cases kind : error.kind <;> simp only [creditVerificationErrorMessage, kind] <;> decide +kernel

end PayScreen

-----------------------------------------------------------------------------------------
-- Steps
-----------------------------------------------------------------------------------------

/-- The await a call of `checkNow` is at, with the answer on its way to it, if there is one. -/
inductive CheckPhase where
  | hashing
  | asking (reply : Option StatusReply)
  | verifying (reply : Option (Option ℤ))

/-- A running call of `checkNow`, with the address of the quote it closed over. -/
structure Check where
  payTo : String
  phase : CheckPhase

/-- What leaves the screen, and what it goes on. -/
inductive PayEvent where
  | asked (body : Json)
  | told (status : TrackedStatus)
  | spent (token : String)
  | funded (balance : ℚ)

/-- The screen with its running calls and its past, and the services it asks. -/
structure Checkout where
  screen : PayScreen
  checks : List Check
  events : List PayEvent
  server : StatusProcess
  db : BalanceStore

/-- What happens to a checkout. A tick is a timer's or the tab's return; an answer is served at any
time after its request, perhaps more than once, and arrives or is lost at any time after that.
-/
inductive PayAction where
  | server (action : StatusAction)
  | ledger (op : LedgerOp)
  | tick (visible : Bool)
  | press
  | requote (quote : Quote)
  | hashed (i : ℕ)
  | statusServed (i : ℕ)
  | statusTold (i : ℕ)
  | statusLost (i : ℕ) (failed : Failed)
  | balanceServed (i : ℕ)
  | balanceTold (i : ℕ)
  | balanceLost (i : ℕ) (failed : Failed)

namespace Checkout

/-- A call is made, unless one is running. -/
def checkNow (c : Checkout) : Checkout :=
  if c.screen.inFlight then c
  else
    {
      c with
      screen :=
        {
          c.screen with
          inFlight := true
          checking := true
          statusError := none
          creditError := none
        }
      checks := c.checks ++ [⟨c.screen.quote.payTo, .hashing⟩]
    }

/-- The `finally` of a call. -/
def finish (c : Checkout) (i : ℕ) : Checkout :=
  {
    c with
    screen := { c.screen with inFlight := false, checking := false }
    checks := c.checks.eraseIdx i
  }

def emit (c : Checkout) (event : PayEvent) : Checkout :=
  { c with events := c.events ++ [event] }

/-- A call goes on to its next await. -/
def await (c : Checkout) (i : ℕ) (check : Check) : Checkout :=
  { c with checks := c.checks.set i check }

/-- A call whose status read ended. -/
def tracked (key : Key) (c : Checkout) (i : ℕ) (payTo : String)
    (answer : Except Failed TrackedStatus)
    : Checkout :=
  match answer with
  | .error failed =>
      { c with screen := { c.screen with statusError := some (toReadFailure failed) } }.finish i
  | .ok status =>
      let seen := { c with screen := { c.screen with status := some status } }.emit (.told status)
      if status.plausiblyCredited then
        (seen.emit (.spent key.token)).await i ⟨payTo, .verifying none⟩
      else seen.finish i

/-- A call whose balance read ended. `onFunded` takes the screen away. -/
def verified (key : Key) (c : Checkout) (i : ℕ) (answer : Except Failed ℚ) : Checkout :=
  match checkBalance answer with
  | .error failure => { c with screen := { c.screen with creditError := some failure } }.finish i
  | .ok none => c.finish i
  | .ok (some balance) =>
      if key.baseline < balance then
        ({ c with screen := { c.screen with mounted := false } }.emit (.funded balance)).finish i
      else c.finish i

/-- The answer of `/order-status` about an address, at this moment. -/
def reply (cfg : BuyConfig) (key : Key) (c : Checkout) (payTo : String) : StatusReply :=
  orderStatus cfg c.server.orders c.server.byKey (orderStatusBody key.hash payTo)

/-- One action, `none` where it is not possible. -/
def act (cfg : BuyConfig) (key : Key) (c : Checkout) : PayAction → Option Checkout
  | .server action => some { c with server := c.server.act action }
  | .ledger op =>
      some { c with db := ((c.db.apply op).toOption.map Prod.snd).getD c.db }
  | .tick visible =>
      if c.screen.mounted then some (if visible then c.checkNow else c) else none
  | .press => if c.screen.mounted ∧ ¬c.screen.checking then some c.checkNow else none
  | .requote quote =>
      if c.screen.mounted then some { c with screen := { c.screen with quote } } else none
  | .hashed i =>
      match c.checks[i]? with
      | some ⟨payTo, .hashing⟩ =>
          some ((c.emit (.asked (orderStatusBody key.hash payTo))).await i ⟨payTo, .asking none⟩)
      | _ => none
  | .statusServed i =>
      match c.checks[i]? with
      | some ⟨payTo, .asking _⟩ => some (c.await i ⟨payTo, .asking (some (c.reply cfg key payTo))⟩)
      | _ => none
  | .statusTold i =>
      match c.checks[i]? with
      | some ⟨payTo, .asking (some reply)⟩ => some (c.tracked key i payTo (fetched reply))
      | _ => none
  | .statusLost i failed =>
      match c.checks[i]? with
      | some ⟨payTo, .hashing⟩ => some (c.tracked key i payTo (.error failed))
      | some ⟨payTo, .asking _⟩ => some (c.tracked key i payTo (.error failed))
      | _ => none
  | .balanceServed i =>
      match c.checks[i]? with
      | some ⟨payTo, .verifying _⟩ =>
          some (c.await i ⟨payTo, .verifying (some (c.db.getBalance key.hash))⟩)
      | _ => none
  | .balanceTold i =>
      match c.checks[i]? with
      | some ⟨_, .verifying (some micros)⟩ => some (c.verified key i (balanceReply micros))
      | _ => none
  | .balanceLost i failed =>
      match c.checks[i]? with
      | some ⟨_, .verifying _⟩ => some (c.verified key i (.error failed))
      | _ => none

end Checkout

end Nullsink.Client
