import Nullsink.Lib.Log
import Nullsink.Lib.Transition
import Nullsink.Ledger.StoreTransitions

/-! Histories of the balance store: any sequence of calls, with a log of what they committed.
The log is the proof's own memory; no table holds the charges and credits of the past.
-/

namespace Nullsink.Ledger

open Relational Ecma Transition

-----------------------------------------------------------------------------------------
-- Calls
-----------------------------------------------------------------------------------------

/-- A call of the store's interface. Credits are non-negative; the arguments of the session
calls are whatever a peer sent.
-/
inductive LedgerOp where
  | credit (hash : String) (micros : ℕ)
  | creditOnce (hash : String) (micros : ℕ) (orderId : String) (atMs : ℤ)
  | beginSession (sessionId : String) (atMs : ℤ)
  | openSessionHold (sessionId hash : String) (micros : Number) (holdId : String) (atMs : ℤ)
  | settleSessionHold (sessionId holdId : String) (chargedMicros : Number) (atMs : ℤ)
  | getSessionBalance (sessionId hash : String)

inductive LedgerResult where
  | credited
  | creditedOnce (applied : Bool)
  | session (result : BeginSessionResult)
  | hold (result : SessionOpenHoldResult)
  | settlement (result : SessionSettleHoldResult)
  | balance (result : SessionBalance)
  deriving DecidableEq

def BalanceStore.apply (db : BalanceStore) : LedgerOp → Transaction LedgerResult
  | .credit hash micros => .ok (.credited, db.credit hash micros)
  | .creditOnce hash micros orderId atMs =>
      let (applied, db') := db.creditOnce hash micros orderId atMs
      .ok (.creditedOnce applied, db')
  | .beginSession sessionId atMs =>
      (db.beginSession sessionId atMs).map (fun (result, db') => (.session result, db'))
  | .openSessionHold sessionId hash micros holdId atMs =>
      (db.openSessionHold sessionId hash micros holdId atMs).map
        (fun (result, db') => (.hold result, db'))
  | .settleSessionHold sessionId holdId chargedMicros atMs =>
      (db.settleSessionHold sessionId holdId chargedMicros atMs).map
        (fun (result, db') => (.settlement result, db'))
  | .getSessionBalance sessionId hash =>
      .ok (.balance (db.getSessionBalance sessionId hash), db)

/-- The results of the calls that write. -/
def LedgerResult.commits : LedgerResult → Bool
  | .credited => true
  | .creditedOnce applied => applied
  | .session (.started _ _) => true
  | .hold result => result = .opened
  | .settlement result => result = .settled
  | _ => false

-----------------------------------------------------------------------------------------
-- The log
-----------------------------------------------------------------------------------------

/-- What a call committed. -/
inductive LedgerEvent where
  | credited (hash : String) (micros : ℤ)
  | creditedOnce (orderId hash : String) (micros : ℤ)
  | started (sessionId : String) (recovered : List HoldRow)
  | opened (hold : HoldRow)
  | settled (hold : HoldRow) (charge : ℤ)
  deriving DecidableEq

/-- What `op` committed to `db`, by its result. -/
def LedgerOp.events (db : BalanceStore) : LedgerOp → LedgerResult → List LedgerEvent
  | .credit hash micros, .credited => [.credited hash micros]
  | .creditOnce hash micros orderId _, .creditedOnce true => [.creditedOnce orderId hash micros]
  | .beginSession sessionId _, .session (.started _ _) => [.started sessionId db.holds.rows]
  | .openSessionHold sessionId hash micros holdId atMs, .hold .opened =>
      micros.safeInteger?.toList.map
        (fun amount => .opened ⟨holdId, hash, amount, some sessionId, some atMs⟩)
  | .settleSessionHold _ holdId chargedMicros _, .settlement .settled =>
      (db.holds.get? holdId).toList.flatMap
        (fun hold => chargedMicros.safeInteger?.toList.map (.settled hold))
  | _, _ => []

theorem LedgerOp.opened_mem_events {db : BalanceStore} {op : LedgerOp} {result : LedgerResult}
    {hold : HoldRow} (logged : .opened hold ∈ op.events db result)
    : ∃ sessionId hash micros holdId atMs amount,
        op = .openSessionHold sessionId hash micros holdId atMs
        ∧ micros.safeInteger? = some amount
        ∧ hold = ⟨holdId, hash, amount, some sessionId, some atMs⟩ := by
  unfold events at logged
  split at logged <;> simp at logged
  obtain ⟨amount, valid, rfl⟩ := logged
  exact ⟨_, _, _, _, _, amount, rfl, valid, rfl⟩

theorem LedgerOp.settled_mem_events {db : BalanceStore} {op : LedgerOp} {result : LedgerResult}
    {hold : HoldRow} {charge : ℤ} (logged : .settled hold charge ∈ op.events db result)
    : ∃ sessionId charged atMs, op = .settleSessionHold sessionId hold.holdId charged atMs
        ∧ charged.safeInteger? = some charge ∧ db.holds.get? hold.holdId = some hold := by
  unfold events at logged
  split at logged <;> simp at logged
  obtain ⟨found, valid⟩ := logged
  have same := Table.key_of_get? found
  subst same
  exact ⟨_, _, _, rfl, valid, found⟩

/-- The credit an event gave a hash. -/
def LedgerEvent.credit (hash : String) : LedgerEvent → ℤ
  | .credited payee micros => if payee = hash then micros else 0
  | .creditedOnce _ payee micros => if payee = hash then micros else 0
  | _ => 0

/-- The charge an event recorded against a hash. -/
def LedgerEvent.charge (hash : String) : LedgerEvent → ℤ
  | .settled hold charge => if hold.hash = hash then charge else 0
  | _ => 0

/-- What an event moved into the balance of a hash, or out of it. -/
def LedgerEvent.movement (hash : String) : LedgerEvent → ℤ
  | .credited payee micros => if payee = hash then micros else 0
  | .creditedOnce _ payee micros => if payee = hash then micros else 0
  | .started _ recovered => (recovered.map (HoldRow.reserved hash)).sum
  | .opened hold => -hold.reserved hash
  | .settled hold charge => if hold.hash = hash then hold.micros - charge else 0

/-- The session an event made current. -/
def LedgerEvent.started? : LedgerEvent → Option String
  | .started sessionId _ => some sessionId
  | _ => none

/-- A store and the log of what led to it. -/
structure History where
  db : BalanceStore
  log : List LedgerEvent

namespace History

def creditedTo (history : History) (hash : String) : ℤ :=
  (history.log.map (LedgerEvent.credit hash)).sum

def chargedTo (history : History) (hash : String) : ℤ :=
  (history.log.map (LedgerEvent.charge hash)).sum

/-- The sessions that became current, oldest first. -/
def sessions (history : History) : List String :=
  history.log.filterMap LedgerEvent.started?

/-- One call; a throw rolls back. -/
def call (history : History) (op : LedgerOp) : History :=
  match history.db.apply op with
  | .ok (result, db) => ⟨db, history.log ++ op.events history.db result⟩
  | .error _ => history

/-- Calls in sequence, from a store with an empty log. -/
def run (start : BalanceStore) (ops : List LedgerOp) : History :=
  ops.foldl call ⟨start, []⟩

/-- The histories as a system whose steps are the calls. -/
def system (start : BalanceStore) : System History LedgerOp where
  initial history := history = ⟨start, []⟩
  step history op next := next = history.call op

/-- Running the calls is the run of the system; by induction on the last call. -/
theorem run_system (start : BalanceStore) (ops : List LedgerOp)
    : (system start).Run ⟨start, []⟩ ops (run start ops) := by
  induction ops using List.reverseRecOn with
  | nil => exact .nil
  | append_singleton earlier op ih => exact .snoc ih (by simp [system, run])

theorem run_append (start : BalanceStore) (earlier later : List LedgerOp)
    : run start (earlier ++ later) = later.foldl call (run start earlier) := by
  simp [run]

/-- A history that calls lead to from `start`. -/
def Reached (start : BalanceStore) (history : History) : Prop :=
  ∃ ops, history = run start ops

theorem Reached.start (db : BalanceStore) : Reached db ⟨db, []⟩ :=
  ⟨[], rfl⟩

theorem Reached.call {start : BalanceStore} {history : History} (reached : Reached start history)
    (op : LedgerOp)
    : Reached start (history.call op) := by
  obtain ⟨ops, rfl⟩ := reached
  exact ⟨ops ++ [op], by simp [run]⟩

end History

-----------------------------------------------------------------------------------------
-- What one call changes
-----------------------------------------------------------------------------------------

/-- The changes a call can make, each with the events it logs. -/
inductive Change (db : BalanceStore) : List LedgerEvent → BalanceStore → Prop
  | unchanged : Change db [] db
  | credited (hash : String) (micros : ℕ)
    : Change db [.credited hash micros] (db.credit hash micros)
  | creditedOnce (hash : String) (micros : ℕ) (orderId : String) (atMs : ℤ)
    (fresh : db.appliedOrders.get? orderId = none)
    : Change db [.creditedOnce orderId hash micros]
        {
          db with
          appliedOrders := db.appliedOrders.append ⟨orderId, atMs⟩ fresh
          tokens := creditStmt db.tokens hash micros
        }
  | started {sessionId atMs retired} (other : db.currentSession ≠ some sessionId)
    (fresh : db.retiredLedgerSessions.get? sessionId = none)
    (fenced : retireCurrent db atMs = .ok retired)
    : Change db [.started sessionId db.holds.rows]
        {
          db with
          tokens := refundHolds db.tokens db.holds.rows
          holds := .empty
          settledHolds := .empty
          retiredLedgerSessions := retired
          ledgerSession := some
            ⟨sessionId, atMs, db.holds.rows.length, db.holds.total HoldRow.micros⟩
        }
  | opened {hold : HoldRow} {sessionId balance tokens}
    (own : hold.sessionId = some sessionId) (current : db.currentSession = some sessionId)
    (nonneg : 0 ≤ hold.micros) (closed : db.holds.get? hold.holdId = none)
    (unsettled : db.settledHolds.get? hold.holdId = none)
    (known : db.getBalance hold.hash = some balance) (covered : hold.micros ≤ balance)
    (debited
      : ∀ other, tokenBalance tokens other
          = tokenBalance db.tokens other - if hold.hash = other then hold.micros else 0)
    : Change db [.opened hold] { db with tokens, holds := db.holds.append hold closed }
  | settled (row : SettledHoldRow) {hold : HoldRow} {tokens}
    (current : db.currentSession = some row.sessionId)
    (own : hold.sessionId = some row.sessionId)
    (found : db.holds.get? row.holdId = some hold)
    (unsettled : db.settledHolds.get? row.holdId = none)
    (nonneg : 0 ≤ row.chargedMicros) (within : row.chargedMicros ≤ hold.micros)
    (refunded
      : ∀ other, tokenBalance tokens other
          = tokenBalance db.tokens other
            + if hold.hash = other then hold.micros - row.chargedMicros else 0)
    : Change db [.settled hold row.chargedMicros]
        {
          db with
          holds := db.holds.delete row.holdId
          settledHolds := db.settledHolds.append row unsettled
          tokens
        }

theorem BeginSessionStep.change {db db' : BalanceStore} {sessionId atMs result}
    (step : BeginSessionStep db sessionId atMs result db')
    : Change db ((LedgerOp.beginSession sessionId atMs).events db (.session result)) db'
      ∧ ((LedgerResult.session result).commits = false → db' = db) := by
  cases step with
  | current found same => exact ⟨.unchanged, fun _ => rfl⟩
  | staleSession other retired => exact ⟨.unchanged, fun _ => rfl⟩
  | started other fresh fenced =>
      exact ⟨.started other fresh fenced, by simp [LedgerResult.commits]⟩

theorem OpenHoldStep.change {db db' : BalanceStore} {sessionId hash micros holdId atMs result}
    (step : OpenHoldStep db sessionId hash micros holdId atMs result db')
    : Change db
        ((LedgerOp.openSessionHold sessionId hash micros holdId atMs).events db (.hold result))
        db'
      ∧ ((LedgerResult.hold result).commits = false → db' = db) := by
  cases step with
  | opened current valid nonneg closed unsettled known covered debited =>
      refine ⟨?_, by simp [LedgerResult.commits]⟩
      simp only [LedgerOp.events, valid, Option.toList_some, List.map_cons, List.map_nil]
      exact .opened rfl current nonneg closed unsettled known covered debited
  | _ => exact ⟨.unchanged, fun _ => rfl⟩

theorem SettleHoldStep.change {db db' : BalanceStore} {sessionId holdId charged atMs result}
    (step : SettleHoldStep db sessionId holdId charged atMs result db')
    : Change db
        ((LedgerOp.settleSessionHold sessionId holdId charged atMs).events db (.settlement result))
        db'
      ∧ ((LedgerResult.settlement result).commits = false → db' = db) := by
  cases step with
  | settled current unsettled found own valid nonneg within refunded =>
      refine ⟨?_, by simp [LedgerResult.commits]⟩
      simp only [LedgerOp.events, found, valid, Option.toList_some, List.flatMap_cons,
        List.flatMap_nil, List.map_cons, List.map_nil, List.append_nil]
      exact .settled ⟨holdId, sessionId, _, atMs⟩ current own found unsettled nonneg within refunded
  | _ => exact ⟨.unchanged, fun _ => rfl⟩

theorem apply_beginSession {db db' : BalanceStore} {sessionId atMs} {result : LedgerResult}
    (committed : db.apply (.beginSession sessionId atMs) = .ok (result, db'))
    : ∃ outcome, result = .session outcome ∧ BeginSessionStep db sessionId atMs outcome db' := by
  cases taken : db.beginSession sessionId atMs with
  | error thrown => simp [BalanceStore.apply, taken, Except.map] at committed
  | ok outcome =>
      simp only [BalanceStore.apply, taken, Except.map, Except.ok.injEq] at committed
      cases committed
      exact ⟨_, rfl, beginSession_step taken⟩

theorem apply_openSessionHold {db db' : BalanceStore} {sessionId hash micros holdId atMs}
    {result : LedgerResult}
    (committed : db.apply (.openSessionHold sessionId hash micros holdId atMs) = .ok (result, db'))
    : ∃ outcome, result = .hold outcome
        ∧ OpenHoldStep db sessionId hash micros holdId atMs outcome db' := by
  obtain ⟨outcome, after, taken, step⟩ :=
    openSessionHold_step db sessionId hash micros holdId atMs
  simp only [BalanceStore.apply, taken, Except.map, Except.ok.injEq] at committed
  cases committed
  exact ⟨_, rfl, step⟩

theorem apply_settleSessionHold {db db' : BalanceStore} {sessionId holdId charged atMs}
    {result : LedgerResult}
    (committed : db.apply (.settleSessionHold sessionId holdId charged atMs) = .ok (result, db'))
    : ∃ outcome, result = .settlement outcome
        ∧ SettleHoldStep db sessionId holdId charged atMs outcome db' := by
  obtain ⟨outcome, after, taken, step⟩ :=
    settleSessionHold_step db sessionId holdId charged atMs
  simp only [BalanceStore.apply, taken, Except.map, Except.ok.injEq] at committed
  cases committed
  exact ⟨_, rfl, step⟩

/-- Every committed call makes one of the changes, and none unless its result commits. -/
theorem apply_change {db db' : BalanceStore} {op : LedgerOp} {result : LedgerResult}
    (committed : db.apply op = .ok (result, db'))
    : Change db (op.events db result) db' ∧ (result.commits = false → db' = db) := by
  cases op with
  | credit hash micros =>
      cases committed
      exact ⟨.credited hash micros, by simp [LedgerResult.commits]⟩
  | creditOnce hash micros orderId atMs =>
      cases taken : db.creditOnce hash micros orderId atMs with
      | mk applied after =>
          simp only [BalanceStore.apply, taken, Except.ok.injEq] at committed
          cases committed
          cases creditOnce_step taken with
          | already found => exact ⟨.unchanged, fun _ => rfl⟩
          | applied fresh =>
              exact ⟨.creditedOnce hash micros orderId atMs fresh, by simp [LedgerResult.commits]⟩
  | beginSession sessionId atMs =>
      obtain ⟨outcome, rfl, step⟩ := apply_beginSession committed
      exact step.change
  | openSessionHold sessionId hash micros holdId atMs =>
      obtain ⟨outcome, rfl, step⟩ := apply_openSessionHold committed
      exact step.change
  | settleSessionHold sessionId holdId chargedMicros atMs =>
      obtain ⟨outcome, rfl, step⟩ := apply_settleSessionHold committed
      exact step.change
  | getSessionBalance sessionId hash =>
      cases committed
      exact ⟨.unchanged, fun _ => rfl⟩

/-- A call makes one of the changes and logs its events. -/
theorem History.call_change (history : History) (op : LedgerOp)
    : ∃ events, Change history.db events (history.call op).db
        ∧ (history.call op).log = history.log ++ events := by
  cases taken : history.db.apply op with
  | error thrown => exact ⟨[], by simpa [History.call, taken] using Change.unchanged⟩
  | ok committed =>
      obtain ⟨result, db⟩ := committed
      refine ⟨op.events history.db result, ?_⟩
      simpa [History.call, taken] using (apply_change taken).1

/-- A call keeps the entries of the log. -/
theorem History.call_grown (history : History) (op : LedgerOp)
    : history.log ⊆ (history.call op).log := by
  obtain ⟨events, _, logged⟩ := history.call_change op
  rw [logged]
  exact List.subset_append_left _ _

end Nullsink.Ledger
