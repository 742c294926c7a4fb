import Nullsink.Ledger.Server
import Nullsink.Payments.Orders

/-! The credit crossing: the contract of `credit-wire.ts`, the receiver of `credit-server.ts`, and
what the sender of `credit-sender.ts` sends and makes of an answer.
-/

namespace Nullsink.Payments

open Ecma Ledger

def creditWireVersion : String := "1"
def creditPath : String := "/credit"

structure CreditRequest where
  hash : String
  micros : ℕ
  idempotencyKey : String

/-- What the sender learns: a definite outcome, or that the credit may or may not have landed. -/
inductive DeliveryResult where
  | applied
  | alreadyApplied
  | ambiguous (reason : String)
  deriving DecidableEq

/-- Only an object has the three fields. -/
def parseCreditRequest (body : Json) : Option CreditRequest := do
  let hash ← validHash (body.get? "hash")
  let micros ←
    (((body.get? "micros").bind Json.number?).bind Number.safeInteger?).filter
      (fun micros => 0 ≤ micros)
  let key ←
    ((body.get? "idempotency_key").bind Json.string?).filter
      (fun key => key ≠ "" ∧ Json.stringLength key ≤ 200)
  return ⟨hash, micros.toNat, key⟩

/-- The store call a request asks for, or the answer to a request that makes none. -/
def creditCall (req : Request) (nowMs : ℤ) : Except Response LedgerOp :=
  if req.method ≠ "POST" ∨ req.path ≠ creditPath then
    .error (jsonError "unsupported_endpoint" 404)
  else if req.wireVersion ≠ some creditWireVersion then
    .error (jsonError "wire_version_mismatch" 400)
  else
    match req.body with
    | none => .error (jsonError "invalid_json" 400)
    | some body =>
        match parseCreditRequest body with
        | none => .error (jsonError "invalid_credit" 400)
        | some c => .ok (.creditOnce c.hash c.micros c.idempotencyKey nowMs)

def creditAnswer (applied : Bool) : Response :=
  jsonOk [("result", .string (if applied then "applied" else "already_applied"))]

/-- `createCreditHandler`: the answer, and the store it was given after the commit. -/
def createCreditHandler (db : BalanceStore) (nowMs : ℤ) (req : Request)
    : Response × BalanceStore :=
  match creditCall req nowMs with
  | .error response => (response, db)
  | .ok op =>
      match db.apply op with
      | .ok (result, db') => (creditAnswer (result = .creditedOnce true), db')
      | .error _ => (jsonError "ledger_error" 500, db)

/-- The ledger's history after the handler has run. -/
def creditHistory (history : History) (nowMs : ℤ) (req : Request) : History :=
  match creditCall req nowMs with
  | .error _ => history
  | .ok op => history.call op

theorem reached_creditHistory {start : BalanceStore} {history : History}
    (reached : history.Reached start) (nowMs : ℤ) (req : Request)
    : (creditHistory history nowMs req).Reached start := by
  unfold creditHistory
  split
  · exact reached
  · exact reached.call _

/-- The body the sender posts for a row of the outbox, as it arrives. -/
def creditBody (row : CreditOutboxRow) : Json :=
  (Json.object [
    ("hash", .string row.hash),
    ("micros", .number (.ofInt row.micros)),
    ("idempotency_key", .string row.idempotencyKey)
  ]).transmit

def creditRequest (row : CreditOutboxRow) : Request :=
  ⟨"POST", creditPath, some creditWireVersion, 0, some (creditBody row)⟩

/-- What the sender makes of an answer: a body it does not recognise is no acknowledgement. -/
def deliveryResult (response : Response) : DeliveryResult :=
  if ¬response.ok then .ambiguous s!"http_{response.status}"
  else
    match ((response.body.bind (fun body => body.get? "result")).bind Json.string?) with
    | some "applied" => .applied
    | some "already_applied" => .alreadyApplied
    | _ => .ambiguous "unrecognized_response"

/-- A row whose payload the receiver's parser accepts. -/
def Deliverable (row : CreditOutboxRow) : Prop :=
  (parseCreditRequest (creditBody row)).isSome

instance (row : CreditOutboxRow) : Decidable (Deliverable row) := by
  unfold Deliverable
  infer_instance

/-- The receiver parses what the sender meant. -/
theorem parseCreditRequest_body {row : CreditOutboxRow} {c : CreditRequest}
    (parsed : parseCreditRequest (creditBody row) = some c)
    : c.hash = row.hash ∧ (c.micros : ℤ) = row.micros ∧ c.idempotencyKey = row.idempotencyKey
      ∧ row.hash ≠ "" := by
  simp [parseCreditRequest, creditBody, Json.transmitFields, Json.get?, validHash, Json.string?,
    Json.number?, Number.safeInteger?_ofInt, Option.filter, Option.bind_eq_some_iff] at parsed
  obtain ⟨hex, amount, valid, _, rfl⟩ := parsed
  have nonempty : row.hash ≠ "" := by
    intro empty
    rw [empty] at hex
    revert hex
    decide
  by_cases safe : |row.micros| ≤ Number.maxSafeInteger
  · simp [safe] at valid
    obtain ⟨nonneg, rfl⟩ := valid
    exact ⟨rfl, Int.toNat_of_nonneg nonneg, rfl, nonempty⟩
  · simp [safe] at valid

/-- A deliverable row asks for its credit. -/
theorem creditCall_request {row : CreditOutboxRow} (valid : Deliverable row) (nowMs : ℤ)
    : ∃ micros : ℕ, (micros : ℤ) = row.micros
        ∧ creditCall (creditRequest row) nowMs
          = .ok (.creditOnce row.hash micros row.idempotencyKey nowMs) := by
  obtain ⟨c, parsed⟩ := Option.isSome_iff_exists.mp valid
  obtain ⟨hash, micros, key, _⟩ := parseCreditRequest_body parsed
  refine ⟨c.micros, micros, ?_⟩
  simp [creditCall, creditRequest, parsed, hash, key]

/-- The answers of the receiver are definite. -/
theorem deliveryResult_creditAnswer (applied : Bool)
    : deliveryResult (creditAnswer applied) = if applied then .applied else .alreadyApplied := by
  cases applied <;> decide

end Nullsink.Payments
