import Nullsink.Lib.Number
import Nullsink.Lib.Table

/-! The balance store of `ledger/db.ts`, counting in exact integers: six tables and the transactions
over them. `Columns` is the same store on SQLite's columns; the two agree while no token's funds and
credits pass the safe integers, whatever passes them being left to `Columns`.

Each transaction returns its result with the store it commits, or the error it throws; a throw
rolls back, so the caller keeps the store it had.
-/

namespace Nullsink.Ledger

open Relational Ecma

-----------------------------------------------------------------------------------------
-- Tables
-----------------------------------------------------------------------------------------

/-- `tokens`: one balance per token hash. -/
structure TokenRow where
  hash : String
  balance : ℤ
  deriving DecidableEq

/-- `applied_orders`: the idempotency marker of a credit that has been applied. -/
structure AppliedOrderRow where
  orderId : String
  appliedAt : ℤ
  deriving DecidableEq

/-- `holds`: an outstanding debit. Rows of old binaries carry no session. -/
structure HoldRow where
  holdId : String
  hash : String
  micros : ℤ
  sessionId : Option String
  openedAt : Option ℤ
  deriving DecidableEq

/-- `ledger_session`: the singleton row of the current proxy session. -/
structure SessionRow where
  sessionId : String
  startedAt : ℤ
  recoveredHolds : ℕ
  recoveredMicros : ℤ
  deriving DecidableEq

/-- `retired_ledger_sessions`: a superseded session. -/
structure RetiredSessionRow where
  sessionId : String
  retiredAt : ℤ
  deriving DecidableEq

/-- `settled_holds`: the replay tombstone of a settlement. -/
structure SettledHoldRow where
  holdId : String
  sessionId : String
  chargedMicros : ℤ
  settledAt : ℤ
  deriving DecidableEq

/-- The database `openDb` binds its statements to. -/
structure BalanceStore where
  tokens : Table TokenRow.hash
  appliedOrders : Table AppliedOrderRow.orderId
  holds : Table HoldRow.holdId
  ledgerSession : Option SessionRow
  retiredLedgerSessions : Table RetiredSessionRow.sessionId
  settledHolds : Table SettledHoldRow.holdId

/-- A freshly created database. -/
def BalanceStore.empty : BalanceStore :=
  ⟨.empty, .empty, .empty, none, .empty, .empty⟩

-----------------------------------------------------------------------------------------
-- Results
-----------------------------------------------------------------------------------------

inductive BeginSessionResult where
  | started (recoveredHolds : ℕ) (recoveredMicros : ℤ)
  | current (recoveredHolds : ℕ) (recoveredMicros : ℤ)
  | staleSession
  deriving DecidableEq

inductive SessionOpenHoldResult where
  | opened
  | alreadyOpen
  | staleSession
  | conflict
  | invalidAmount
  | unknownToken
  | insufficientBalance
  deriving DecidableEq

inductive SessionSettleHoldResult where
  | settled
  | alreadySettled
  | staleSession
  | conflict
  | unknownHold
  | invalidCharge
  deriving DecidableEq

inductive SessionBalance where
  | stale
  | fresh (balance : Option ℤ)
  deriving DecidableEq

/-- What a transaction throws; the message is the source's, or SQLite's for a constraint. -/
structure StoreError where
  message : String
  deriving DecidableEq

/-- A result and the store committed with it, or a throw that commits nothing. -/
abbrev Transaction (α : Type) := Except StoreError (α × BalanceStore)

-----------------------------------------------------------------------------------------
-- Prepared statements
-----------------------------------------------------------------------------------------

/-- `creditStmt`: insert the token, or add to its balance. -/
def creditStmt (tokens : Table TokenRow.hash) (hash : String) (micros : ℤ)
    : Table TokenRow.hash :=
  tokens.upsert ⟨hash, micros⟩ (fun row => { row with balance := row.balance + micros })
    (fun _ => rfl)

/-- `holdStmt`: the conditional debit, `none` when it changes no row. -/
def holdStmt (tokens : Table TokenRow.hash) (hash : String) (micros : ℤ)
    : Option (Table TokenRow.hash) :=
  match tokens.get? hash with
  | some row =>
      if micros ≤ row.balance then
        some
          (tokens.update
            (fun row =>
              if row.hash = hash then { row with balance := row.balance - micros } else row)
            (fun row => by split <;> rfl))
      else none
  | none => none

/-- The refund loop of `beginSession`: `creditStmt` for every listed hold. -/
def refundHolds (tokens : Table TokenRow.hash) (rows : List HoldRow) : Table TokenRow.hash :=
  rows.foldl (fun tokens row => creditStmt tokens row.hash row.micros) tokens

/-- `retireSessionStmt` for the session being replaced, if there is one. -/
def retireCurrent (db : BalanceStore) (atMs : ℤ)
    : Except StoreError (Table RetiredSessionRow.sessionId) :=
  match db.ledgerSession with
  | none => .ok db.retiredLedgerSessions
  | some current =>
      match db.retiredLedgerSessions.insert? ⟨current.sessionId, atMs⟩ with
      | some retired => .ok retired
      | none => .error ⟨"UNIQUE constraint failed: retired_ledger_sessions.session_id"⟩

-----------------------------------------------------------------------------------------
-- Transactions
-----------------------------------------------------------------------------------------

namespace BalanceStore

def getBalance (db : BalanceStore) (hash : String) : Option ℤ :=
  (db.tokens.get? hash).map TokenRow.balance

def currentSession (db : BalanceStore) : Option String :=
  db.ledgerSession.map SessionRow.sessionId

/-- The startup barrier: refund every hold, drop the tombstones, retire the old session and
publish the new one.
-/
def beginSession (db : BalanceStore) (sessionId : String) (atMs : ℤ)
    : Transaction BeginSessionResult :=
  match db.ledgerSession.filter (fun current => current.sessionId = sessionId) with
  | some current => .ok (.current current.recoveredHolds current.recoveredMicros, db)
  | none =>
      if (db.retiredLedgerSessions.get? sessionId).isSome then .ok (.staleSession, db)
      else
        match retireCurrent db atMs with
        | .error thrown => .error thrown
        | .ok retired =>
            let recoveredHolds := db.holds.rows.length
            let recoveredMicros := db.holds.total HoldRow.micros
            .ok (
              .started recoveredHolds recoveredMicros,
              {
                db with
                tokens := refundHolds db.tokens db.holds.rows
                holds := .empty
                settledHolds := .empty
                retiredLedgerSessions := retired
                ledgerSession := some ⟨sessionId, atMs, recoveredHolds, recoveredMicros⟩
              }
            )

def getSessionBalance (db : BalanceStore) (sessionId hash : String) : SessionBalance :=
  if db.currentSession ≠ some sessionId then .stale else .fresh (db.getBalance hash)

def credit (db : BalanceStore) (hash : String) (micros : ℤ) : BalanceStore :=
  { db with tokens := creditStmt db.tokens hash micros }

/-- `true` when this call applied the credit, `false` when its marker was already there. -/
def creditOnce (db : BalanceStore) (hash : String) (micros : ℤ) (orderId : String) (atMs : ℤ)
    : Bool × BalanceStore :=
  match db.appliedOrders.insertOrIgnore ⟨orderId, atMs⟩ with
  | (_, false) => (false, db)
  | (applied, true) =>
      (true, { db with appliedOrders := applied, tokens := creditStmt db.tokens hash micros })

/-- Replay-safe session hold: an existing hold or tombstone is looked at before any debit. -/
def openSessionHold (db : BalanceStore) (sessionId hash : String) (micros : Number)
    (holdId : String) (atMs : ℤ)
    : Transaction SessionOpenHoldResult :=
  if db.currentSession ≠ some sessionId then .ok (.staleSession, db)
  else
    match micros.safeInteger?.filter (fun amount => 0 ≤ amount) with
    | none => .ok (.invalidAmount, db)
    | some amount =>
        match db.holds.get? holdId with
        | some existing =>
            if existing.sessionId = some sessionId ∧ existing.hash = hash
              ∧ existing.micros = amount
            then .ok (.alreadyOpen, db)
            else .ok (.conflict, db)
        | none =>
            if (db.settledHolds.get? holdId).isSome then .ok (.conflict, db)
            else
              match db.getBalance hash with
              | none => .ok (.unknownToken, db)
              | some balance =>
                  if balance < amount then .ok (.insufficientBalance, db)
                  else
                    match holdStmt db.tokens hash amount,
                      db.holds.insert? ⟨holdId, hash, amount, some sessionId, some atMs⟩ with
                    | none, _ => .error ⟨s!"balance changed during hold open: {holdId}"⟩
                    | some _, none => .error ⟨"UNIQUE constraint failed: holds.hold_id"⟩
                    | some tokens, some holds => .ok (.opened, { db with tokens, holds })

/-- Replay-safe settlement: the tombstone commits with the refund and the deletion. -/
def settleSessionHold (db : BalanceStore) (sessionId holdId : String) (chargedMicros : Number)
    (atMs : ℤ)
    : Transaction SessionSettleHoldResult :=
  if db.currentSession ≠ some sessionId then .ok (.staleSession, db)
  else
    match db.settledHolds.get? holdId with
    | some settled =>
        if settled.sessionId = sessionId ∧ Number.ofInt settled.chargedMicros = chargedMicros
        then .ok (.alreadySettled, db)
        else .ok (.conflict, db)
    | none =>
        match db.holds.get? holdId with
        | none => .ok (.unknownHold, db)
        | some hold =>
            if hold.sessionId ≠ some sessionId then .ok (.conflict, db)
            else
              match chargedMicros.safeInteger?.filter
                (fun charge => 0 ≤ charge ∧ charge ≤ hold.micros) with
              | none => .ok (.invalidCharge, db)
              | some charge =>
                  let refundMicros := hold.micros - charge
                  match db.settledHolds.insert? ⟨holdId, sessionId, charge, atMs⟩ with
                  | none => .error ⟨"UNIQUE constraint failed: settled_holds.hold_id"⟩
                  | some settledHolds =>
                      .ok (
                        .settled,
                        {
                          db with
                          holds := db.holds.delete holdId
                          settledHolds
                          tokens :=
                            if refundMicros > 0 then creditStmt db.tokens hold.hash refundMicros
                            else db.tokens
                        }
                      )

/-- The number of tokens, and the prepaid credit outstanding over all of them. -/
def liabilityTotal (db : BalanceStore) : ℕ × ℤ :=
  (db.tokens.rows.length, db.tokens.total TokenRow.balance)

end BalanceStore

end Nullsink.Ledger
