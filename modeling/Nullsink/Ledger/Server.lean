import Nullsink.Ledger.StoreHistory
import Nullsink.Ledger.Wire

/-! The ledger's request handler of `ledger/server.ts`, as a function of the store. -/

namespace Nullsink.Ledger

open Ecma

/-- An HTTP request as the handler reads it; `body` is `none` when the bytes are no JSON. -/
structure Request where
  method : String
  path : String
  wireVersion : Option String
  bytes : ℕ
  body : Option Json

/-- An HTTP response; `body` is `none` when it does not parse as JSON. -/
structure Response where
  status : ℕ
  body : Option Json

/-- `response.ok`. -/
def Response.ok (response : Response) : Bool :=
  200 ≤ response.status ∧ response.status < 300

def jsonError (error : String) (status : ℕ) : Response :=
  ⟨status, some (.object [("error", .string error)])⟩

/-- `Response.json(fields)`. -/
def jsonOk (fields : List (String × Json)) : Response :=
  ⟨200, some (.object fields)⟩

def readBody (req : Request) : Except Response Json :=
  if req.bytes > ledgerMaxBodyBytes then .error (jsonError "payload_too_large" 413)
  else
    match req.body with
    | some decoded => .ok decoded
    | none => .error (jsonError "invalid_json" 400)

/-- The store call of a decoded body, by path; `none` when the path's parser rejects it. -/
def storeCall (path : String) (decoded : Json) (nowMs : ℤ) : Option LedgerOp :=
  if path = ledgerStartSessionPath then
    (parseStartSessionRequest decoded).map (fun body => .beginSession body.sessionId nowMs)
  else if path = ledgerBalancePath then
    (parseBalanceRequest decoded).map (fun body => .getSessionBalance body.sessionId body.hash)
  else if path = ledgerOpenHoldPath then
    (parseOpenHoldRequest decoded).map
      (fun body => .openSessionHold body.sessionId body.hash body.micros body.holdId nowMs)
  else
    (parseSettleHoldRequest decoded).map
      (fun body => .settleSessionHold body.sessionId body.holdId body.chargedMicros nowMs)

/-- The store call a request asks for, or the answer to a request that makes none. -/
def ledgerCall (req : Request) (nowMs : ℤ) : Except Response LedgerOp :=
  if req.method ≠ "POST"
    ∨ req.path ∉
      [ledgerStartSessionPath, ledgerBalancePath, ledgerOpenHoldPath, ledgerSettleHoldPath]
  then .error (jsonError "unsupported_endpoint" 404)
  else if req.wireVersion ≠ some ledgerWireVersion then
    .error (jsonError "wire_version_mismatch" 400)
  else
    match readBody req with
    | .error response => .error response
    | .ok decoded =>
        match storeCall req.path decoded nowMs with
        | some op => .ok op
        | none => .error (jsonError "invalid_request" 400)

/-- The answer to a store call, by its result. Credits arrive on another socket. -/
def ledgerAnswer : LedgerResult → Response
  | .session .staleSession => jsonError "stale_session" 409
  | .session (.started recoveredHolds recoveredMicros) =>
      jsonOk [
        ("result", .string "started"),
        ("recovered_holds", .number (.ofInt recoveredHolds)),
        ("recovered_micros", .number (.ofInt recoveredMicros))
      ]
  | .session (.current recoveredHolds recoveredMicros) =>
      jsonOk [
        ("result", .string "current"),
        ("recovered_holds", .number (.ofInt recoveredHolds)),
        ("recovered_micros", .number (.ofInt recoveredMicros))
      ]
  | .balance .stale => jsonError "stale_session" 409
  | .balance (.fresh none) => jsonOk [("result", .string "missing")]
  | .balance (.fresh (some balance)) =>
      jsonOk [("result", .string "found"), ("balance_micros", .number (.ofInt balance))]
  | .hold .opened => jsonOk [("result", .string "opened")]
  | .hold .alreadyOpen => jsonOk [("result", .string "already_open")]
  | .hold .unknownToken => jsonError "unknown_token" 404
  | .hold .insufficientBalance => jsonError "insufficient_balance" 402
  | .hold .staleSession => jsonError "stale_session" 409
  | .hold .conflict => jsonError "conflict" 409
  | .settlement .settled => jsonOk [("result", .string "settled")]
  | .settlement .alreadySettled => jsonOk [("result", .string "already_settled")]
  | .settlement .unknownHold => jsonError "unknown_hold" 404
  | .settlement .staleSession => jsonError "stale_session" 409
  | .settlement .conflict => jsonError "conflict" 409
  | _ => jsonError "invalid_request" 400

/-- Whether the `afterCommit` hook runs before the answer to a result. -/
def afterCommit : LedgerResult → Bool
  | .session (.started _ _) => true
  | .session (.current _ _) => true
  | .hold .opened => true
  | .settlement .settled => true
  | _ => false

/-- `handleLedger` behind Bun's error handler: a throw of the store or of the hook is a 500. -/
def createLedgerHandler (db : BalanceStore) (nowMs : ℤ) (hookThrows : Bool) (req : Request)
    : Response × BalanceStore :=
  match ledgerCall req nowMs with
  | .error response => (response, db)
  | .ok op =>
      match db.apply op with
      | .error _ => (jsonError "ledger_error" 500, db)
      | .ok (result, db') =>
          if afterCommit result ∧ hookThrows then (jsonError "ledger_error" 500, db')
          else (ledgerAnswer result, db')

/-- The history after the handler has run. -/
def History.handle (history : History) (nowMs : ℤ) (req : Request) : History :=
  match ledgerCall req nowMs with
  | .error _ => history
  | .ok op => history.call op

theorem History.Reached.handle {start : BalanceStore} {history : History}
    (reached : history.Reached start) (nowMs : ℤ) (req : Request)
    : (history.handle nowMs req).Reached start := by
  unfold History.handle
  split
  · exact reached
  · exact reached.call _

end Nullsink.Ledger
