import Nullsink.Ledger.Store

/-! What each transaction of the balance store can do: one step relation a transaction, whose
constructors are its outcomes with the tests that lead there, and the theorem that the
transaction takes such a step.
-/

namespace Nullsink.Ledger

open Relational Ecma

-----------------------------------------------------------------------------------------
-- Balances and reservations as sums
-----------------------------------------------------------------------------------------

/-- The balance of a hash, zero for a token that does not exist. -/
def tokenBalance (tokens : Table TokenRow.hash) (hash : String) : ℤ :=
  (tokens.get? hash).elim 0 TokenRow.balance

/-- What a hold reserves of a given hash. -/
def HoldRow.reserved (hash : String) (row : HoldRow) : ℤ :=
  if row.hash = hash then row.micros else 0

/-- What the open holds reserve of a hash. -/
def BalanceStore.reservedFor (db : BalanceStore) (hash : String) : ℤ :=
  db.holds.total (HoldRow.reserved hash)

theorem balance_of_mem {tokens : Table TokenRow.hash} {row : TokenRow} (member : row ∈ tokens.rows)
    : tokenBalance tokens row.hash = row.balance := by
  simp [tokenBalance, Table.get?_of_mem member]

@[simp] theorem tokenBalance_creditStmt (tokens : Table TokenRow.hash) (hash : String)
    (micros : ℤ) (other : String)
    : tokenBalance (creditStmt tokens hash micros) other
      = tokenBalance tokens other + if hash = other then micros else 0 := by
  unfold tokenBalance creditStmt
  rw [Table.get?_upsert]
  by_cases same : hash = other
  · cases found : tokens.get? other <;> simp [same]
  · simp [same]

/-- The refund loop returns every listed hold to its own token; by induction on the list. -/
theorem tokenBalance_refundHolds (tokens : Table TokenRow.hash) (rows : List HoldRow)
    (other : String)
    : tokenBalance (refundHolds tokens rows) other
      = tokenBalance tokens other + (rows.map (HoldRow.reserved other)).sum := by
  induction rows generalizing tokens with
  | nil => simp [refundHolds]
  | cons head tail ih =>
      have rest := ih (creditStmt tokens head.hash head.micros)
      simp only [refundHolds, List.foldl_cons] at rest ⊢
      rw [rest, tokenBalance_creditStmt]
      simp only [List.map_cons, List.sum_cons, HoldRow.reserved]
      omega

/-- A covered debit changes its row, adds no token and takes the amount from that token only. -/
theorem holdStmt_of_covered {tokens : Table TokenRow.hash} {hash : String} {micros : ℤ}
    {row : TokenRow} (found : tokens.get? hash = some row) (covered : micros ≤ row.balance)
    : ∃ debited, holdStmt tokens hash micros = some debited
        ∧ (∀ other, tokenBalance debited other
            = tokenBalance tokens other - if hash = other then micros else 0)
        ∧ ∀ other, tokens.get? other = none → debited.get? other = none := by
  refine ⟨_, by simp only [holdStmt, found, if_pos covered]; rfl, ?_, ?_⟩
  · intro other
    unfold tokenBalance
    rw [Table.get?_update]
    by_cases same : hash = other
    · subst same
      simp [found, Table.key_of_get? found]
    · cases stored : tokens.get? other with
      | none => simp [same]
      | some otherRow => simp [same, Table.key_of_get? stored, Ne.symm same]
  · intro other unlisted
    rw [Table.get?_update, unlisted, Option.map_none]

/-- After the retirement the old session is retired and no other retirement is lost. -/
theorem get?_of_retireCurrent {db : BalanceStore} {atMs : ℤ} {retired}
    (fenced : retireCurrent db atMs = .ok retired) (sessionId : String)
    : retired.get? sessionId
      = if db.currentSession = some sessionId then some ⟨sessionId, atMs⟩
        else db.retiredLedgerSessions.get? sessionId := by
  unfold retireCurrent at fenced
  unfold BalanceStore.currentSession
  cases current : db.ledgerSession with
  | none =>
      simp only [current, Except.ok.injEq] at fenced
      simp [fenced]
  | some row =>
      simp only [current] at fenced
      split at fenced
      · rename_i inserted added
        cases fenced
        obtain ⟨fresh, rfl⟩ := Table.insert?_eq_some_iff.mp added
        by_cases same : row.sessionId = sessionId <;> simp [same]
      · cases fenced

-----------------------------------------------------------------------------------------
-- beginSession
-----------------------------------------------------------------------------------------

/-- The outcomes of `beginSession`. -/
inductive BeginSessionStep (db : BalanceStore) (sessionId : String) (atMs : ℤ)
    : BeginSessionResult → BalanceStore → Prop
  | current {row} (found : db.ledgerSession = some row) (same : row.sessionId = sessionId)
    : BeginSessionStep db sessionId atMs (.current row.recoveredHolds row.recoveredMicros) db
  | staleSession (other : db.currentSession ≠ some sessionId)
    (retired : (db.retiredLedgerSessions.get? sessionId).isSome)
    : BeginSessionStep db sessionId atMs .staleSession db
  | started {retired} (other : db.currentSession ≠ some sessionId)
    (fresh : db.retiredLedgerSessions.get? sessionId = none)
    (fenced : retireCurrent db atMs = .ok retired)
    : BeginSessionStep db sessionId atMs
        (.started db.holds.rows.length (db.holds.total HoldRow.micros))
        {
          db with
          tokens := refundHolds db.tokens db.holds.rows
          holds := .empty
          settledHolds := .empty
          retiredLedgerSessions := retired
          ledgerSession := some
            ⟨sessionId, atMs, db.holds.rows.length, db.holds.total HoldRow.micros⟩
        }

theorem beginSession_step {db db' : BalanceStore} {sessionId : String} {atMs : ℤ} {result}
    (committed : db.beginSession sessionId atMs = .ok (result, db'))
    : BeginSessionStep db sessionId atMs result db' := by
  unfold BalanceStore.beginSession at committed
  split at committed
  · rename_i row found
    cases committed
    obtain ⟨found, same⟩ := Option.filter_eq_some_iff.mp found
    exact .current found (by simpa using same)
  · rename_i absent
    have other : db.currentSession ≠ some sessionId := by
      intro same
      obtain ⟨row, found, same⟩ := Option.map_eq_some_iff.mp same
      simp [found, same] at absent
    split at committed
    · rename_i retired
      cases committed
      exact .staleSession other retired
    · rename_i fresh
      split at committed
      · cases committed
      · rename_i retired fenced
        cases committed
        exact .started other (by simpa using fresh) fenced

/-- A start throws only where the current session is already retired. -/
theorem beginSession_completes {db : BalanceStore}
    (live
      : ∀ sessionId, db.currentSession = some sessionId
          → db.retiredLedgerSessions.get? sessionId = none)
    (sessionId : String) (atMs : ℤ)
    : ∃ result db', db.beginSession sessionId atMs = .ok (result, db') := by
  have fenced : ∃ retired, retireCurrent db atMs = .ok retired := by
    unfold retireCurrent
    cases current : db.ledgerSession with
    | none => exact ⟨_, rfl⟩
    | some row =>
        have fresh := live row.sessionId (by simp [BalanceStore.currentSession, current])
        have inserted
            : db.retiredLedgerSessions.insert? ⟨row.sessionId, atMs⟩
              = some (db.retiredLedgerSessions.append ⟨row.sessionId, atMs⟩ fresh) :=
          Table.insert?_of_fresh fresh
        exact ⟨_, by simp only [inserted]; rfl⟩
  obtain ⟨retired, fenced⟩ := fenced
  unfold BalanceStore.beginSession
  split
  · exact ⟨_, _, rfl⟩
  · split
    · exact ⟨_, _, rfl⟩
    · simp only [fenced]
      exact ⟨_, _, rfl⟩

-----------------------------------------------------------------------------------------
-- openSessionHold
-----------------------------------------------------------------------------------------

/-- The outcomes of `openSessionHold`; a valid amount is a non-negative safe integer. -/
inductive OpenHoldStep (db : BalanceStore) (sessionId hash : String) (micros : Number)
    (holdId : String) (atMs : ℤ)
    : SessionOpenHoldResult → BalanceStore → Prop
  | staleSession (other : db.currentSession ≠ some sessionId)
    : OpenHoldStep db sessionId hash micros holdId atMs .staleSession db
  | invalidAmount (current : db.currentSession = some sessionId)
    (invalid : ∀ amount, micros.safeInteger? = some amount → amount < 0)
    : OpenHoldStep db sessionId hash micros holdId atMs .invalidAmount db
  | alreadyOpen {amount existing} (current : db.currentSession = some sessionId)
    (valid : micros.safeInteger? = some amount) (nonneg : 0 ≤ amount)
    (found : db.holds.get? holdId = some existing)
    (same : existing.sessionId = some sessionId ∧ existing.hash = hash ∧ existing.micros = amount)
    : OpenHoldStep db sessionId hash micros holdId atMs .alreadyOpen db
  | conflictHold {amount existing} (current : db.currentSession = some sessionId)
    (valid : micros.safeInteger? = some amount) (nonneg : 0 ≤ amount)
    (found : db.holds.get? holdId = some existing)
    (different
      : ¬(existing.sessionId = some sessionId ∧ existing.hash = hash ∧ existing.micros = amount))
    : OpenHoldStep db sessionId hash micros holdId atMs .conflict db
  | conflictSettled {amount settled} (current : db.currentSession = some sessionId)
    (valid : micros.safeInteger? = some amount) (nonneg : 0 ≤ amount)
    (closed : db.holds.get? holdId = none) (found : db.settledHolds.get? holdId = some settled)
    : OpenHoldStep db sessionId hash micros holdId atMs .conflict db
  | unknownToken {amount} (current : db.currentSession = some sessionId)
    (valid : micros.safeInteger? = some amount) (nonneg : 0 ≤ amount)
    (closed : db.holds.get? holdId = none) (unsettled : db.settledHolds.get? holdId = none)
    (unknown : db.getBalance hash = none)
    : OpenHoldStep db sessionId hash micros holdId atMs .unknownToken db
  | insufficientBalance {amount balance} (current : db.currentSession = some sessionId)
    (valid : micros.safeInteger? = some amount) (nonneg : 0 ≤ amount)
    (closed : db.holds.get? holdId = none) (unsettled : db.settledHolds.get? holdId = none)
    (known : db.getBalance hash = some balance) (short : balance < amount)
    : OpenHoldStep db sessionId hash micros holdId atMs .insufficientBalance db
  | opened {amount balance tokens} (current : db.currentSession = some sessionId)
    (valid : micros.safeInteger? = some amount) (nonneg : 0 ≤ amount)
    (closed : db.holds.get? holdId = none) (unsettled : db.settledHolds.get? holdId = none)
    (known : db.getBalance hash = some balance) (covered : amount ≤ balance)
    (debited
      : ∀ other, tokenBalance tokens other
          = tokenBalance db.tokens other - if hash = other then amount else 0)
    (unlisted : ∀ other, db.tokens.get? other = none → tokens.get? other = none)
    : OpenHoldStep db sessionId hash micros holdId atMs .opened
        {
          db with
          tokens
          holds := db.holds.append ⟨holdId, hash, amount, some sessionId, some atMs⟩ closed
        }

/-- Opening a hold always completes: the debit it tests first cannot then fail. -/
theorem openSessionHold_step (db : BalanceStore) (sessionId hash : String) (micros : Number)
    (holdId : String) (atMs : ℤ)
    : ∃ result db', db.openSessionHold sessionId hash micros holdId atMs = .ok (result, db')
        ∧ OpenHoldStep db sessionId hash micros holdId atMs result db' := by
  unfold BalanceStore.openSessionHold
  split
  · rename_i other
    exact ⟨_, _, rfl, .staleSession other⟩
  rename_i current
  have current : db.currentSession = some sessionId := by simpa using current
  split
  · rename_i invalid
    refine ⟨_, _, rfl, .invalidAmount current ?_⟩
    intro amount valid
    simpa [valid] using invalid
  rename_i amount found
  obtain ⟨valid, nonneg⟩ := Option.filter_eq_some_iff.mp found
  have nonneg : 0 ≤ amount := by simpa using nonneg
  split
  · rename_i existing stored
    split
    · rename_i same
      exact ⟨_, _, rfl, .alreadyOpen current valid nonneg stored same⟩
    · rename_i different
      exact ⟨_, _, rfl, .conflictHold current valid nonneg stored different⟩
  rename_i closed
  split
  · rename_i settled
    obtain ⟨row, stored⟩ := Option.isSome_iff_exists.mp settled
    exact ⟨_, _, rfl, .conflictSettled current valid nonneg closed stored⟩
  rename_i unsettled
  have unsettled : db.settledHolds.get? holdId = none := by simpa using unsettled
  split
  · rename_i unknown
    exact ⟨_, _, rfl, .unknownToken current valid nonneg closed unsettled unknown⟩
  rename_i balance known
  split
  · rename_i short
    exact ⟨_, _, rfl, .insufficientBalance current valid nonneg closed unsettled known short⟩
  rename_i covered
  obtain ⟨row, stored, rfl⟩ := Option.map_eq_some_iff.mp known
  have covered : amount ≤ row.balance := by omega
  obtain ⟨tokens, debit, debited, unlisted⟩ := holdStmt_of_covered stored covered
  have inserted
      : db.holds.insert? ⟨holdId, hash, amount, some sessionId, some atMs⟩
        = some (db.holds.append ⟨holdId, hash, amount, some sessionId, some atMs⟩ closed) :=
    Table.insert?_of_fresh closed
  rw [debit, inserted]
  exact ⟨_, _, rfl, .opened current valid nonneg closed unsettled known covered debited
    unlisted⟩

-----------------------------------------------------------------------------------------
-- settleSessionHold
-----------------------------------------------------------------------------------------

/-- The outcomes of `settleSessionHold`; a valid charge is a safe integer within the hold. -/
inductive SettleHoldStep (db : BalanceStore) (sessionId holdId : String) (charged : Number)
    (atMs : ℤ)
    : SessionSettleHoldResult → BalanceStore → Prop
  | staleSession (other : db.currentSession ≠ some sessionId)
    : SettleHoldStep db sessionId holdId charged atMs .staleSession db
  | alreadySettled {settled} (current : db.currentSession = some sessionId)
    (found : db.settledHolds.get? holdId = some settled)
    (same : settled.sessionId = sessionId ∧ Number.ofInt settled.chargedMicros = charged)
    : SettleHoldStep db sessionId holdId charged atMs .alreadySettled db
  | conflictSettled {settled} (current : db.currentSession = some sessionId)
    (found : db.settledHolds.get? holdId = some settled)
    (different
      : ¬(settled.sessionId = sessionId ∧ Number.ofInt settled.chargedMicros = charged))
    : SettleHoldStep db sessionId holdId charged atMs .conflict db
  | unknownHold (current : db.currentSession = some sessionId)
    (unsettled : db.settledHolds.get? holdId = none) (closed : db.holds.get? holdId = none)
    : SettleHoldStep db sessionId holdId charged atMs .unknownHold db
  | conflictHold {hold} (current : db.currentSession = some sessionId)
    (unsettled : db.settledHolds.get? holdId = none) (found : db.holds.get? holdId = some hold)
    (foreign : hold.sessionId ≠ some sessionId)
    : SettleHoldStep db sessionId holdId charged atMs .conflict db
  | invalidCharge {hold} (current : db.currentSession = some sessionId)
    (unsettled : db.settledHolds.get? holdId = none) (found : db.holds.get? holdId = some hold)
    (own : hold.sessionId = some sessionId)
    (invalid : ∀ charge, charged.safeInteger? = some charge → ¬(0 ≤ charge ∧ charge ≤ hold.micros))
    : SettleHoldStep db sessionId holdId charged atMs .invalidCharge db
  | settled {hold charge tokens} (current : db.currentSession = some sessionId)
    (unsettled : db.settledHolds.get? holdId = none) (found : db.holds.get? holdId = some hold)
    (own : hold.sessionId = some sessionId)
    (valid : charged.safeInteger? = some charge) (nonneg : 0 ≤ charge)
    (within : charge ≤ hold.micros)
    (refunded
      : ∀ other, tokenBalance tokens other
          = tokenBalance db.tokens other
            + if hold.hash = other then hold.micros - charge else 0)
    : SettleHoldStep db sessionId holdId charged atMs .settled
        {
          db with
          holds := db.holds.delete holdId
          settledHolds := db.settledHolds.append ⟨holdId, sessionId, charge, atMs⟩ unsettled
          tokens
        }

/-- Skipping the credit of a zero refund leaves the balances a credit of zero would. -/
theorem tokenBalance_refund (tokens : Table TokenRow.hash) (hash : String) {refund : ℤ}
    (nonneg : 0 ≤ refund) (other : String)
    : tokenBalance (if refund > 0 then creditStmt tokens hash refund else tokens) other
      = tokenBalance tokens other + if hash = other then refund else 0 := by
  split
  · simp
  · have zero : refund = 0 := by omega
    simp [zero]

/-- Settling a hold always completes: the tombstone is looked up before it is inserted. -/
theorem settleSessionHold_step (db : BalanceStore) (sessionId holdId : String)
    (charged : Number) (atMs : ℤ)
    : ∃ result db', db.settleSessionHold sessionId holdId charged atMs = .ok (result, db')
        ∧ SettleHoldStep db sessionId holdId charged atMs result db' := by
  unfold BalanceStore.settleSessionHold
  split
  · rename_i other
    exact ⟨_, _, rfl, .staleSession other⟩
  rename_i current
  have current : db.currentSession = some sessionId := by simpa using current
  split
  · rename_i settled stored
    split
    · rename_i same
      exact ⟨_, _, rfl, .alreadySettled current stored same⟩
    · rename_i different
      exact ⟨_, _, rfl, .conflictSettled current stored different⟩
  rename_i unsettled
  split
  · rename_i closed
    exact ⟨_, _, rfl, .unknownHold current unsettled closed⟩
  rename_i hold stored
  split
  · rename_i foreign
    exact ⟨_, _, rfl, .conflictHold current unsettled stored foreign⟩
  rename_i own
  have own : hold.sessionId = some sessionId := by simpa using own
  split
  · rename_i invalid
    refine ⟨_, _, rfl, .invalidCharge current unsettled stored own ?_⟩
    intro charge valid
    simpa [valid] using invalid
  rename_i charge found
  obtain ⟨valid, bounds⟩ := Option.filter_eq_some_iff.mp found
  obtain ⟨nonneg, within⟩ : 0 ≤ charge ∧ charge ≤ hold.micros := by simpa using bounds
  have inserted
      : db.settledHolds.insert? ⟨holdId, sessionId, charge, atMs⟩
        = some (db.settledHolds.append ⟨holdId, sessionId, charge, atMs⟩ unsettled) :=
    Table.insert?_of_fresh unsettled
  rw [inserted]
  exact ⟨_, _, rfl, .settled current unsettled stored own valid nonneg within
    (tokenBalance_refund db.tokens hold.hash (by omega))⟩

-----------------------------------------------------------------------------------------
-- creditOnce
-----------------------------------------------------------------------------------------

/-- The outcomes of `creditOnce`: the marker decides, and is written with the credit. -/
inductive CreditOnceStep (db : BalanceStore) (hash : String) (micros : ℤ) (orderId : String)
    (atMs : ℤ)
    : Bool → BalanceStore → Prop
  | already {marker} (found : db.appliedOrders.get? orderId = some marker)
    : CreditOnceStep db hash micros orderId atMs false db
  | applied (fresh : db.appliedOrders.get? orderId = none)
    : CreditOnceStep db hash micros orderId atMs true
        {
          db with
          appliedOrders := db.appliedOrders.append ⟨orderId, atMs⟩ fresh
          tokens := creditStmt db.tokens hash micros
        }

theorem creditOnce_step {db db' : BalanceStore} {hash : String} {micros : ℤ} {orderId : String}
    {atMs : ℤ} {applied} (committed : db.creditOnce hash micros orderId atMs = (applied, db'))
    : CreditOnceStep db hash micros orderId atMs applied db' := by
  unfold BalanceStore.creditOnce Table.insertOrIgnore at committed
  split at committed
  · rename_i kept ignored
    split at ignored
    · cases ignored
    · rename_i taken
      obtain ⟨marker, found⟩ := Option.ne_none_iff_exists'.mp taken
      cases committed
      exact .already found
  · rename_i kept added
    split at added
    · rename_i fresh
      cases added
      cases committed
      exact .applied fresh
    · cases added

end Nullsink.Ledger
