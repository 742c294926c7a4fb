import Nullsink.Lib.Json

/-! The proxy-to-ledger contract of `ledger/wire.ts`: paths, request shapes and their parsers. -/

namespace Nullsink.Ledger

open Ecma

def ledgerWireVersion : String := "1"
def ledgerStartSessionPath : String := "/session/start"
def ledgerBalancePath : String := "/balance"
def ledgerOpenHoldPath : String := "/hold/open"
def ledgerSettleHoldPath : String := "/hold/settle"
def ledgerMaxBodyBytes : ℕ := 4 * 1024

structure StartSessionRequest where
  sessionId : String

structure BalanceRequest where
  sessionId : String
  hash : String

structure OpenHoldRequest where
  sessionId : String
  holdId : String
  hash : String
  micros : Number

structure SettleHoldRequest where
  sessionId : String
  holdId : String
  chargedMicros : Number

/-- `[0-9a-f]`. -/
def hexDigit (c : Char) : Bool :=
  ('0' ≤ c ∧ c ≤ '9') ∨ ('a' ≤ c ∧ c ≤ 'f')

/-- `[0-9a-f]` in either case. -/
def hexDigitAnyCase (c : Char) : Bool :=
  hexDigit c ∨ ('A' ≤ c ∧ c ≤ 'F')

/-- One character of the `UUID` pattern, by its position. -/
def uuidChar (position : ℕ) (c : Char) : Bool :=
  if position ∈ [8, 13, 18, 23] then c = '-'
  else if position = 14 then '1' ≤ c ∧ c ≤ '8'
  else if position = 19 then c ∈ ['8', '9', 'a', 'b', 'A', 'B']
  else hexDigitAnyCase c

/-- `UUID.test`: 8-4-4-4-12 hex digits with a version and a variant, in either case. -/
def uuid (value : String) : Bool :=
  value.toList.length = 36 ∧ (value.toList.zipIdx.all (fun (c, position) => uuidChar position c))

/-- `HASH.test`: 64 lower-case hex digits. -/
def hashHex (value : String) : Bool :=
  value.toList.length = 64 ∧ value.toList.all hexDigit

/-- A JSON object, and no array. -/
def bag : Json → Option Json
  | .object fields => some (.object fields)
  | _ => none

def safeMicros (value : Option Json) : Option Number :=
  (value.bind Json.number?).filter
    (fun micros => (micros.safeInteger?.filter (fun amount => 0 ≤ amount)).isSome)

def validSessionId (value : Option Json) : Option String :=
  (value.bind Json.string?).filter uuid

def validHoldId (value : Option Json) : Option String :=
  (value.bind Json.string?).filter uuid

def validHash (value : Option Json) : Option String :=
  (value.bind Json.string?).filter hashHex

def parseStartSessionRequest (value : Json) : Option StartSessionRequest := do
  let body ← bag value
  return ⟨← validSessionId (body.get? "session_id")⟩

def parseBalanceRequest (value : Json) : Option BalanceRequest := do
  let body ← bag value
  return ⟨← validSessionId (body.get? "session_id"), ← validHash (body.get? "hash")⟩

def parseOpenHoldRequest (value : Json) : Option OpenHoldRequest := do
  let body ← bag value
  let sessionId ← validSessionId (body.get? "session_id")
  let holdId ← validHoldId (body.get? "hold_id")
  let hash ← validHash (body.get? "hash")
  let micros ← safeMicros (body.get? "micros")
  return ⟨sessionId, holdId, hash, micros⟩

def parseSettleHoldRequest (value : Json) : Option SettleHoldRequest := do
  let body ← bag value
  let sessionId ← validSessionId (body.get? "session_id")
  let holdId ← validHoldId (body.get? "hold_id")
  let chargedMicros ← safeMicros (body.get? "charged_micros")
  return ⟨sessionId, holdId, chargedMicros⟩

end Nullsink.Ledger
