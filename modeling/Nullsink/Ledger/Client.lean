import Nullsink.Ledger.Server

/-! The proxy's ledger client of `ledger/client.ts`: what each operation sends, how it reads an
answer, and the states of its retry loop.
-/

namespace Nullsink.Ledger

open Ecma

-----------------------------------------------------------------------------------------
-- Operations
-----------------------------------------------------------------------------------------

/-- An operation of `LedgerSocketClient`. -/
inductive ClientOp where
  | startSession
  | getBalance (hash : String)
  | openHold (hash : String) (micros : Number) (holdId : String)
  | settleHold (holdId : String) (chargedMicros : Number)
  deriving DecidableEq

namespace ClientOp

def path : ClientOp → String
  | startSession => ledgerStartSessionPath
  | getBalance _ => ledgerBalancePath
  | openHold _ _ _ => ledgerOpenHoldPath
  | settleHold _ _ => ledgerSettleHoldPath

def payload (sessionId : String) : ClientOp → Json
  | startSession => .object [("session_id", .string sessionId)]
  | getBalance hash => .object [("session_id", .string sessionId), ("hash", .string hash)]
  | openHold hash micros holdId =>
      .object [
        ("session_id", .string sessionId),
        ("hold_id", .string holdId),
        ("hash", .string hash),
        ("micros", .number micros)
      ]
  | settleHold holdId chargedMicros =>
      .object [
        ("session_id", .string sessionId),
        ("hold_id", .string holdId),
        ("charged_micros", .number chargedMicros)
      ]

/-- Reads fail on the first ambiguous answer, mutations retry. -/
def mutation : ClientOp → Bool
  | getBalance _ => false
  | _ => true

/-- Every attempt of an operation sends these bytes; `bytes` is the length of the serialized
payload.
-/
def request (op : ClientOp) (sessionId : String) (bytes : ℕ) : Request :=
  ⟨"POST", op.path, some ledgerWireVersion, bytes, some (op.payload sessionId).transmit⟩

end ClientOp

-----------------------------------------------------------------------------------------
-- Reading an answer
-----------------------------------------------------------------------------------------

/-- What an operation returns. -/
inductive ClientReturn where
  | session (outcome : String) (recoveredHolds recoveredMicros : ℤ)
  | balance (micros : Option ℤ)
  | hold (opened : Bool)
  | settlement (settled : Bool)
  deriving DecidableEq

/-- How an operation ends. -/
inductive ClientOutcome where
  | returned (value : ClientReturn)
  | fatal (message : String)
  | unavailable (message : String)
  deriving DecidableEq

/-- A field that must be a string. -/
def stringField (body : Json) (key : String) : Option String :=
  (body.get? key).bind Json.string?

/-- A field that must be a non-negative safe integer. -/
def microsField (body : Json) (key : String) : Option ℤ :=
  ((body.get? key).bind Json.number?).bind
    (fun value => value.safeInteger?.filter (fun amount => 0 ≤ amount))

/-- The value a complete success body of an operation carries. -/
def successBody (op : ClientOp) (body : Json) : Option ClientReturn :=
  match op with
  | .startSession =>
      match stringField body "result", microsField body "recovered_holds",
        microsField body "recovered_micros" with
      | some outcome, some recoveredHolds, some recoveredMicros =>
          if outcome = "started" ∨ outcome = "current" then
            some (.session outcome recoveredHolds recoveredMicros)
          else none
      | _, _, _ => none
  | .getBalance _ =>
      match stringField body "result" with
      | some "missing" => some (.balance none)
      | some "found" =>
          (microsField body "balance_micros").map (fun micros => .balance (some micros))
      | _ => none
  | .openHold _ _ _ =>
      match stringField body "result" with
      | some "opened" => some (.hold true)
      | some "already_open" => some (.hold true)
      | _ => none
  | .settleHold _ _ =>
      match stringField body "result" with
      | some "settled" => some (.settlement true)
      | some "already_settled" => some (.settlement true)
      | _ => none

/-- `errorCode`. -/
def errorCode (body : Json) : Option String :=
  stringField body "error"

def fatalProtocol (path : String) (response : Response) (body : Json) : ClientOutcome :=
  let code := (errorCode body).getD s!"http_{response.status}"
  .fatal s!"ledger protocol failure {path}: {code}"

/-- The answers that end the retry loop: a typed error below 500, or a recognized success. -/
def definite (op : ClientOp) (response : Response) : Option Json :=
  response.body.filter
    (fun body => response.status < 500 ∧ body.truthy
      ∧ (¬response.ok ∨ (successBody op body).isSome))

/-- What an operation makes of a definite answer. -/
def conclude (op : ClientOp) (response : Response) (body : Json) : ClientOutcome :=
  match (successBody op body).filter (fun _ => response.ok) with
  | some value => .returned value
  | none =>
      match op, errorCode body with
      | .openHold _ _ _, some "unknown_token" => .returned (.hold false)
      | .openHold _ _ _, some "insufficient_balance" => .returned (.hold false)
      | .settleHold _ _, some "unknown_hold" => .returned (.settlement false)
      | _, some "stale_session" => .fatal "ledger rejected stale proxy session"
      | _, _ => fatalProtocol op.path response body

-----------------------------------------------------------------------------------------
-- The retry loop
-----------------------------------------------------------------------------------------

/-- Where a call of an operation stands: an attempt under way, a pause after an ambiguous one,
or its end.
-/
inductive CallState where
  | awaiting
  | retrying (lastReason : String)
  | done (outcome : ClientOutcome)
  deriving DecidableEq

/-- After an attempt without a definite answer a mutation retries and a read gives up. -/
def ambiguous (op : ClientOp) (lastReason : String) : CallState :=
  if op.mutation then .retrying lastReason
  else .done (.unavailable s!"ledger read unavailable: {lastReason}")

/-- After an attempt whose response arrived. -/
def answered (op : ClientOp) (response : Response) : CallState :=
  match definite op response with
  | some body => .done (conclude op response body)
  | none =>
      ambiguous op
        (if (response.body.filter Json.truthy).isSome then s!"http_{response.status}"
        else "unrecognized_response")

/-- After the operation budget has run out. -/
def giveUp (op : ClientOp) (lastReason : String) : CallState :=
  .done (.fatal s!"indeterminate ledger mutation {op.path}: {lastReason}")

/-- Only an unavailable end rejects: a fatal one is the end of the process. -/
def CallState.Rejects : CallState → Prop
  | .done (.unavailable _) => True
  | _ => False

theorem conclude_ne_rejects (op : ClientOp) (response : Response) (body : Json)
    : ¬(CallState.done (conclude op response body)).Rejects := by
  unfold conclude
  split
  · exact id
  · split <;> exact id

/-- No step of its retry loop rejects a mutation. -/
theorem mutation_ne_rejects {op : ClientOp} (mutation : op.mutation)
    : (∀ response, ¬(answered op response).Rejects)
      ∧ (∀ reason, ¬(ambiguous op reason).Rejects)
      ∧ ∀ reason, ¬(giveUp op reason).Rejects := by
  have retries (reason : String) : ¬(ambiguous op reason).Rejects := by
    rw [ambiguous, if_pos mutation]
    exact id
  refine ⟨?_, retries, fun _ => id⟩
  intro response
  unfold answered
  split
  · exact conclude_ne_rejects op response _
  · exact retries _

/-- The session of the proxy in the examples. -/
def exampleSession : String := "0b54fb71-6b2c-4d6c-9b55-5e6dbf9df5a1"

end Nullsink.Ledger
