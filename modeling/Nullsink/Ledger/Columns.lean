import Nullsink.Lib.ExactArithmetic
import Nullsink.Lib.SqlNumber
import Nullsink.Ledger.Store

/-! The balance store of `ledger/db.ts` down to its columns: amounts are SQLite numbers in columns
of INTEGER affinity, bound from Numbers and read as doubles. `Store` is the same store counting in
exact integers.
-/

namespace Nullsink.Ledger.Columns

open Relational Ecma

-----------------------------------------------------------------------------------------
-- Tables
-----------------------------------------------------------------------------------------

/-- `tokens`. -/
structure TokenRow where
  hash : String
  balance : SqlNumber
  deriving DecidableEq

/-- `holds`. -/
structure HoldRow where
  holdId : String
  hash : String
  micros : SqlNumber
  sessionId : Option String
  openedAt : Option ℤ
  deriving DecidableEq

/-- `ledger_session`. -/
structure SessionRow where
  sessionId : String
  startedAt : ℤ
  recoveredHolds : ℕ
  recoveredMicros : SqlNumber
  deriving DecidableEq

/-- `settled_holds`. -/
structure SettledHoldRow where
  holdId : String
  sessionId : String
  chargedMicros : SqlNumber
  settledAt : ℤ
  deriving DecidableEq

/-- The database `openDb` binds its statements to. -/
structure BalanceStore where
  tokens : Table TokenRow.hash
  appliedOrders : Table AppliedOrderRow.orderId
  holds : Table HoldRow.holdId
  ledgerSession : Option SessionRow
  retiredLedgerSessions : Table RetiredSessionRow.sessionId
  settledHolds : Table SettledHoldRow.holdId

/-- A freshly created database. -/
def BalanceStore.empty : BalanceStore :=
  ⟨.empty, .empty, .empty, none, .empty, .empty⟩

inductive BeginSessionResult where
  | started (recoveredHolds : ℕ) (recoveredMicros : Number)
  | current (recoveredHolds : ℕ) (recoveredMicros : Number)
  | staleSession
  deriving DecidableEq

inductive SessionBalance where
  | stale
  | fresh (balance : Option Number)
  deriving DecidableEq

-----------------------------------------------------------------------------------------
-- Prepared statements
-----------------------------------------------------------------------------------------

/-- What a NOT NULL column of INTEGER affinity takes. -/
def stored (column : String) : Option SqlNumber → Except StoreError SqlNumber
  | some value => .ok value.integerAffinity
  | none => .error ⟨s!"NOT NULL constraint failed: {column}"⟩

section Statements

variable (driver : Driver)

/-- `creditStmt`: insert the token, or add to its balance. -/
def creditStmt (tokens : Table TokenRow.hash) (hash : String) (micros : Number)
    : Except StoreError (Table TokenRow.hash) := do
  let balance ← stored "tokens.balance" (do
    let bound ← driver.bind micros
    match tokens.get? hash with
    | none => some bound
    | some row => row.balance.add (driver.excluded bound))
  return tokens.upsert ⟨hash, balance⟩ (fun row => { row with balance }) (fun _ => rfl)

/-- `holdStmt`: the conditional debit, `none` when it changes no row. -/
def holdStmt (tokens : Table TokenRow.hash) (hash : String) (micros : Number)
    : Except StoreError (Option (Table TokenRow.hash)) :=
  match tokens.get? hash, driver.bind micros with
  | some row, some bound =>
      if bound.le row.balance then do
        let balance ← stored "tokens.balance" (row.balance.sub bound)
        return some
          (tokens.update (fun row => if row.hash = hash then { row with balance } else row)
            (fun row => by split <;> rfl))
      else .ok none
  | _, _ => .ok none

/-- The refund loop of `beginSession`: `creditStmt` for every listed hold, as it is read. -/
def refundHolds (tokens : Table TokenRow.hash) (rows : List HoldRow)
    : Except StoreError (Table TokenRow.hash) :=
  rows.foldlM (fun tokens row => creditStmt driver tokens row.hash row.micros.toDouble) tokens

/-- What the refund loop of `beginSession` counts, in doubles. -/
def recoveredMicros (rows : List HoldRow) : Number :=
  rows.foldl (fun sum row => Number.add .binary64 sum row.micros.toDouble) (.ofInt 0)

/-- The refund of a settlement, if anything is left to refund. -/
def refund (tokens : Table TokenRow.hash) (hash : String) (refundMicros : Number)
    : Except StoreError (Table TokenRow.hash) :=
  if (Number.ofInt 0).lt refundMicros then creditStmt driver tokens hash refundMicros
  else .ok tokens

/-- `retireSessionStmt` for the session being replaced, if there is one. -/
def retireCurrent (db : BalanceStore) (atMs : ℤ)
    : Except StoreError (Table RetiredSessionRow.sessionId) :=
  match db.ledgerSession with
  | none => .ok db.retiredLedgerSessions
  | some current =>
      match db.retiredLedgerSessions.insert? ⟨current.sessionId, atMs⟩ with
      | some retired => .ok retired
      | none => .error ⟨"UNIQUE constraint failed: retired_ledger_sessions.session_id"⟩

-----------------------------------------------------------------------------------------
-- Transactions
-----------------------------------------------------------------------------------------

namespace BalanceStore

def getBalance (db : BalanceStore) (hash : String) : Option Number :=
  (db.tokens.get? hash).map (fun row => row.balance.toDouble)

def currentSession (db : BalanceStore) : Option String :=
  db.ledgerSession.map SessionRow.sessionId

/-- The startup barrier; `recoveredMicros` is summed in doubles. -/
def beginSession (db : BalanceStore) (sessionId : String) (atMs : ℤ)
    : Except StoreError (BeginSessionResult × BalanceStore) :=
  match db.ledgerSession.filter (fun current => current.sessionId = sessionId) with
  | some current => .ok (.current current.recoveredHolds current.recoveredMicros.toDouble, db)
  | none =>
      if (db.retiredLedgerSessions.get? sessionId).isSome then .ok (.staleSession, db)
      else do
        let recoveredHolds := db.holds.rows.length
        let micros := recoveredMicros db.holds.rows
        let tokens ← refundHolds driver db.tokens db.holds.rows
        let retired ← retireCurrent db atMs
        let recovered ← stored "ledger_session.recovered_micros" (driver.bind micros)
        return (
          .started recoveredHolds micros,
          {
            db with
            tokens
            holds := .empty
            settledHolds := .empty
            retiredLedgerSessions := retired
            ledgerSession := some ⟨sessionId, atMs, recoveredHolds, recovered⟩
          }
        )

def getSessionBalance (db : BalanceStore) (sessionId hash : String) : SessionBalance :=
  if db.currentSession ≠ some sessionId then .stale else .fresh (db.getBalance hash)

def credit (db : BalanceStore) (hash : String) (micros : Number)
    : Except StoreError BalanceStore := do
  let tokens ← creditStmt driver db.tokens hash micros
  return { db with tokens }

/-- `true` when this call applied the credit, `false` when its marker was already there. -/
def creditOnce (db : BalanceStore) (hash : String) (micros : Number) (orderId : String)
    (atMs : ℤ)
    : Except StoreError (Bool × BalanceStore) :=
  match db.appliedOrders.insertOrIgnore ⟨orderId, atMs⟩ with
  | (_, false) => .ok (false, db)
  | (appliedOrders, true) => do
      let tokens ← creditStmt driver db.tokens hash micros
      return (true, { db with appliedOrders, tokens })

/-- Replay-safe session hold: an existing hold or tombstone is looked at before any debit. -/
def openSessionHold (db : BalanceStore) (sessionId hash : String) (micros : Number)
    (holdId : String) (atMs : ℤ)
    : Except StoreError (SessionOpenHoldResult × BalanceStore) :=
  if db.currentSession ≠ some sessionId then .ok (.staleSession, db)
  else if micros.safeInteger? = none ∨ micros.lt (.ofInt 0) then .ok (.invalidAmount, db)
  else
    match db.holds.get? holdId with
    | some existing =>
        if existing.sessionId = some sessionId ∧ existing.hash = hash
          ∧ existing.micros.toDouble.strictEq micros
        then .ok (.alreadyOpen, db)
        else .ok (.conflict, db)
    | none =>
        if (db.settledHolds.get? holdId).isSome then .ok (.conflict, db)
        else
          match db.getBalance hash with
          | none => .ok (.unknownToken, db)
          | some balance =>
              if balance.lt micros then .ok (.insufficientBalance, db)
              else do
                let some tokens ← holdStmt driver db.tokens hash micros
                  | throw ⟨s!"balance changed during hold open: {holdId}"⟩
                let reserved ← stored "holds.micros" (driver.bind micros)
                let some holds :=
                  db.holds.insert? ⟨holdId, hash, reserved, some sessionId, some atMs⟩
                  | throw ⟨"UNIQUE constraint failed: holds.hold_id"⟩
                return (.opened, { db with tokens, holds })

/-- Replay-safe settlement: the tombstone commits with the refund and the deletion. -/
def settleSessionHold (db : BalanceStore) (sessionId holdId : String) (chargedMicros : Number)
    (atMs : ℤ)
    : Except StoreError (SessionSettleHoldResult × BalanceStore) :=
  if db.currentSession ≠ some sessionId then .ok (.staleSession, db)
  else
    match db.settledHolds.get? holdId with
    | some settled =>
        if settled.sessionId = sessionId ∧ settled.chargedMicros.toDouble.strictEq chargedMicros
        then .ok (.alreadySettled, db)
        else .ok (.conflict, db)
    | none =>
        match db.holds.get? holdId with
        | none => .ok (.unknownHold, db)
        | some hold =>
            if hold.sessionId ≠ some sessionId then .ok (.conflict, db)
            else if chargedMicros.safeInteger? = none ∨ chargedMicros.lt (.ofInt 0)
              ∨ hold.micros.toDouble.lt chargedMicros
            then .ok (.invalidCharge, db)
            else do
              let refundMicros := Number.sub .binary64 hold.micros.toDouble chargedMicros
              let tokens ← refund driver db.tokens hold.hash refundMicros
              let charged ← stored "settled_holds.charged_micros" (driver.bind chargedMicros)
              let some settledHolds :=
                db.settledHolds.insert? ⟨holdId, sessionId, charged, atMs⟩
                | throw ⟨"UNIQUE constraint failed: settled_holds.hold_id"⟩
              return (
                .settled,
                { db with holds := db.holds.delete holdId, settledHolds, tokens }
              )

/-- The number of tokens, and the prepaid credit outstanding over all of them; the text of a REAL
sum is no BigInt.
-/
def liabilityTotal (db : BalanceStore) : Except StoreError (ℕ × ℤ) :=
  match db.tokens.rows.mapM (fun row => row.balance.integer?) with
  | none => .error ⟨"Failed to parse String to BigInt"⟩
  | some values =>
      match SqlNumber.sum? values with
      | none => .error ⟨"integer overflow"⟩
      | some micros => .ok (db.tokens.rows.length, micros)

end BalanceStore

end Statements

-----------------------------------------------------------------------------------------
-- Calls
-----------------------------------------------------------------------------------------

/-- A call of the store's interface. -/
inductive LedgerOp where
  | credit (hash : String) (micros : Number)
  | creditOnce (hash : String) (micros : Number) (orderId : String) (atMs : ℤ)
  | beginSession (sessionId : String) (atMs : ℤ)
  | openSessionHold (sessionId hash : String) (micros : Number) (holdId : String) (atMs : ℤ)
  | settleSessionHold (sessionId holdId : String) (chargedMicros : Number) (atMs : ℤ)
  | getSessionBalance (sessionId hash : String)

inductive LedgerResult where
  | credited
  | creditedOnce (applied : Bool)
  | session (result : BeginSessionResult)
  | hold (result : SessionOpenHoldResult)
  | settlement (result : SessionSettleHoldResult)
  | balance (result : SessionBalance)
  deriving DecidableEq

def BalanceStore.apply (driver : Driver) (db : BalanceStore)
    : LedgerOp → Except StoreError (LedgerResult × BalanceStore)
  | .credit hash micros => (db.credit driver hash micros).map (fun db' => (.credited, db'))
  | .creditOnce hash micros orderId atMs =>
      (db.creditOnce driver hash micros orderId atMs).map
        (fun (applied, db') => (.creditedOnce applied, db'))
  | .beginSession sessionId atMs =>
      (db.beginSession driver sessionId atMs).map (fun (result, db') => (.session result, db'))
  | .openSessionHold sessionId hash micros holdId atMs =>
      (db.openSessionHold driver sessionId hash micros holdId atMs).map
        (fun (result, db') => (.hold result, db'))
  | .settleSessionHold sessionId holdId chargedMicros atMs =>
      (db.settleSessionHold driver sessionId holdId chargedMicros atMs).map
        (fun (result, db') => (.settlement result, db'))
  | .getSessionBalance sessionId hash =>
      .ok (.balance (db.getSessionBalance sessionId hash), db)

/-- The results of the calls that write. -/
def LedgerResult.commits : LedgerResult → Bool
  | .credited => true
  | .creditedOnce applied => applied
  | .session (.started _ _) => true
  | .hold result => result = .opened
  | .settlement result => result = .settled
  | _ => false

/-- The money that a call moved into a token's account, or out of it. -/
inductive LedgerEvent where
  | credited (hash : String) (micros : Number)
  | charged (hash : String) (micros : Number)
  deriving DecidableEq

/-- What `op` committed to `db`, by its result. -/
def LedgerOp.events (db : BalanceStore) : LedgerOp → LedgerResult → List LedgerEvent
  | .credit hash micros, .credited => [.credited hash micros]
  | .creditOnce hash micros _ _, .creditedOnce true => [.credited hash micros]
  | .settleSessionHold _ holdId chargedMicros _, .settlement .settled =>
      (db.holds.get? holdId).toList.map (fun hold => .charged hold.hash chargedMicros)
  | _, _ => []

/-- A store and the log of what led to it. -/
structure History where
  db : BalanceStore
  log : List LedgerEvent

namespace History

/-- The credits applied to a hash. -/
def creditsTo (history : History) (hash : String) : List Number :=
  history.log.filterMap
    (fun event =>
      match event with
      | .credited payee micros => if payee = hash then some micros else none
      | .charged _ _ => none)

/-- The charges settled for a hash. -/
def chargesTo (history : History) (hash : String) : List Number :=
  history.log.filterMap
    (fun event =>
      match event with
      | .charged payer micros => if payer = hash then some micros else none
      | .credited _ _ => none)

/-- One call; a throw rolls back. -/
def call (driver : Driver) (history : History) (op : LedgerOp) : History :=
  match history.db.apply driver op with
  | .ok (result, db) => ⟨db, history.log ++ op.events history.db result⟩
  | .error _ => history

/-- Calls in sequence, from a store with an empty log. -/
def run (driver : Driver) (start : BalanceStore) (ops : List LedgerOp) : History :=
  ops.foldl (call driver) ⟨start, []⟩

end History

end Nullsink.Ledger.Columns
