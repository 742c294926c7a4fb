import Nullsink.Ledger.ColumnRefinement

/-! The contract of the balance store on its columns: it holds of every run in which no token's
funds and credits pass the safe integers, since such a run counts exactly, and it fails past them.
-/

namespace Nullsink.Ledger

open Relational Ecma

-----------------------------------------------------------------------------------------
-- The contract
-----------------------------------------------------------------------------------------

namespace Columns

/-- The reads of what a store owes a hash: its balance, and each of its open holds. -/
def BalanceStore.accountOf (db : BalanceStore) (hash : String) : List Number :=
  (db.getBalance hash).toList
    ++ (db.holds.rows.filter (fun hold => hold.hash = hash)).map
        (fun hold => hold.micros.toDouble)

/-- What each token is owed or was charged is what it had and was credited, summed exactly. -/
def Conserved (driver : Driver) (start : BalanceStore) (ops : List LedgerOp) : Prop :=
  ∀ hash,
    Number.exactSum
        ((History.run driver start ops).db.accountOf hash
          ++ (History.run driver start ops).chargesTo hash)
      = Number.exactSum
          (start.accountOf hash ++ (History.run driver start ops).creditsTo hash)

/-- A whole amount of at least zero, that a read gives as it is stored. -/
def Counts (amount : SqlNumber) : Prop :=
  ∃ micros : ℕ, amount = .ofInt micros ∧ amount.toDouble = .ofInt micros

/-- Credits are of amounts of at least zero. -/
def LedgerOp.Nonneg : LedgerOp → Prop
  | .credit _ micros => micros.Nonneg
  | .creditOnce _ micros _ _ => micros.Nonneg
  | _ => True

/-- What holds after calls on a store, and of any further call. -/
structure StoreContract (driver : Driver) (start : BalanceStore) (ops : List LedgerOp)
    : Prop where
  balances : ∀ row ∈ (History.run driver start ops).db.tokens.rows, Counts row.balance
  reservations : ∀ hold ∈ (History.run driver start ops).db.holds.rows, Counts hold.micros
  conserved : Conserved driver start ops
  disjoint
    : ∀ hold ∈ (History.run driver start ops).db.holds.rows,
        ∀ settled ∈ (History.run driver start ops).db.settledHolds.rows,
          hold.holdId ≠ settled.holdId
  owned
    : ∀ sessionId, (History.run driver start ops).db.currentSession = some sessionId
        → (∀ hold ∈ (History.run driver start ops).db.holds.rows, hold.sessionId = some sessionId)
          ∧ ∀ settled ∈ (History.run driver start ops).db.settledHolds.rows,
              settled.sessionId = sessionId
  neverRetired
    : ∀ sessionId, (History.run driver start ops).db.currentSession = some sessionId
        → ∀ retired ∈ (History.run driver start ops).db.retiredLedgerSessions.rows,
            retired.sessionId ≠ sessionId
  neverRevisited
    : ∀ earlier later rest sessionId, ops = earlier ++ later ++ rest
        → (History.run driver start earlier).db.currentSession = some sessionId
        → (History.run driver start (earlier ++ later)).db.currentSession ≠ some sessionId
        → (History.run driver start ops).db.currentSession ≠ some sessionId
  completes
    : ∀ op : LedgerOp, op.Nonneg
        → ∃ result db', (History.run driver start ops).db.apply driver op = .ok (result, db')
            ∧ (result.commits = false → db' = (History.run driver start ops).db)

/-- Past the safe integers the equation fails: reads round, a REAL balance absorbs a micro-dollar,
and fractions of one are summed in doubles.
-/
theorem not_conserved_past_safe
    : ¬Conserved .int52 .empty
          [
            .credit "token" (.ofInt (2 ^ 53 - 1)),
            .credit "token" (.ofInt (2 ^ 53 - 1)),
            .credit "token" (.ofInt (2 ^ 53 - 1))
          ]
      ∧ ¬Conserved .int52 .empty
          [.credit "token" (.ofInt (2 ^ 63)), .credit "token" (.ofInt 1)]
      ∧ ¬Conserved .int52 .empty
          [
            .credit "token" (.finite (3602879701896397 / 2 ^ 55)),
            .credit "token" (.finite (3602879701896397 / 2 ^ 55)),
            .credit "token" (.finite (3602879701896397 / 2 ^ 55))
          ] := by
  refine ⟨?_, ?_, ?_⟩
  · intro conserved
    exact absurd (conserved "token") (by decide +kernel)
  · intro conserved
    exact absurd (conserved "token") (by decide +kernel)
  · intro conserved
    exact absurd (conserved "token") (by decide +kernel)

end Columns

-----------------------------------------------------------------------------------------
-- Runs within the safe integers
-----------------------------------------------------------------------------------------

/-- No token's funds at the start and credits since pass the safe integers. -/
def Fits (start : BalanceStore) (ops : List LedgerOp) : Prop :=
  ∀ hash, start.funds hash + (History.run start ops).creditedTo hash ≤ Number.maxSafeInteger

/-- The credits of a change are not negative. -/
theorem Change.credit_nonneg {db db' : BalanceStore} {events : List LedgerEvent}
    (change : Change db events db') (hash : String)
    : 0 ≤ (events.map (LedgerEvent.credit hash)).sum := by
  cases change with
  | credited payee micros =>
      simp only [List.map_cons, List.map_nil, List.sum_cons, List.sum_nil, LedgerEvent.credit]
      split <;> omega
  | creditedOnce payee micros orderId atMs fresh =>
      simp only [List.map_cons, List.map_nil, List.sum_cons, List.sum_nil, LedgerEvent.credit]
      split <;> omega
  | _ => simp [LedgerEvent.credit]

/-- What was credited only grows. -/
theorem History.creditedTo_call (history : History) (op : LedgerOp) (hash : String)
    : history.creditedTo hash ≤ (history.call op).creditedTo hash := by
  obtain ⟨events, change, logged⟩ := history.call_change op
  have more := change.credit_nonneg hash
  unfold History.creditedTo
  rw [logged, List.map_append, List.sum_append]
  omega

theorem Fits.earlier {start : BalanceStore} {ops : List LedgerOp} {op : LedgerOp}
    (fits : Fits start (ops ++ [op]))
    : Fits start ops := by
  intro hash
  have whole := fits hash
  have grown := (History.run start ops).creditedTo_call op hash
  simp only [History.run_append, List.foldl_cons, List.foldl_nil] at whole
  omega

theorem Fits.front {start : BalanceStore} {earlier later : List LedgerOp}
    (fits : Fits start (earlier ++ later))
    : Fits start earlier := by
  induction later using List.reverseRecOn with
  | nil => simpa using fits
  | append_singleton front op ih =>
      rw [← List.append_assoc] at fits
      exact ih fits.earlier

theorem StoreInvariant.charged_nonneg {start : BalanceStore} {history : History}
    (inv : StoreInvariant start history) (hash : String)
    : 0 ≤ history.chargedTo hash := by
  refine List.sum_nonneg ?_
  intro amount member
  obtain ⟨event, logged, rfl⟩ := List.mem_map.mp member
  cases event with
  | settled hold charge =>
      have bounds := inv.charges hold charge logged
      simp only [LedgerEvent.charge]
      split <;> omega
  | _ => exact le_rfl

/-- A charge is bounded by its hold, and the hold by the funds. -/
theorem Change.charges {db db' : BalanceStore} {events : List LedgerEvent}
    (change : Change db events db') (bounded : db.Bounded)
    : ∀ settled ∈ db'.settledHolds.rows,
        0 ≤ settled.chargedMicros ∧ settled.chargedMicros ≤ Number.maxSafeInteger := by
  cases change with
  | started other fresh fenced => simp
  | settled row current own found unsettled nonneg within refunded =>
      intro settled member
      rcases List.mem_append.mp member with earlier | now
      · exact bounded.charges settled earlier
      · have funds := bounded.reservation (Table.mem_of_get? found)
        have balance := bounded.balances
        rw [List.mem_singleton.mp now]
        exact ⟨nonneg, by have := balance ‹HoldRow›.hash; omega⟩
  | _ => exact bounded.charges

/-- A run that fits stays bounded, by induction on the calls. -/
theorem run_bounded {start : BalanceStore} (legacy : start.Legacy) {ops : List LedgerOp}
    (fits : Fits start ops)
    : (History.run start ops).db.Bounded := by
  have bounded {ops : List LedgerOp} (fits : Fits start ops)
      (charges
        : ∀ settled ∈ (History.run start ops).db.settledHolds.rows,
            0 ≤ settled.chargedMicros ∧ settled.chargedMicros ≤ Number.maxSafeInteger)
      : (History.run start ops).db.Bounded := by
    have inv := run_invariant legacy ops
    refine ⟨inv.balances, inv.reservations, charges, ?_⟩
    intro hash
    have whole := fits hash
    have kept := inv.conserved hash
    have charged := inv.charged_nonneg hash
    omega
  induction ops using List.reverseRecOn with
  | nil =>
      refine bounded fits ?_
      simp [History.run, legacy.noTombstone]
  | append_singleton earlier op ih =>
      obtain ⟨events, change, _⟩ := (History.run start earlier).call_change op
      refine bounded fits ?_
      rw [History.run_append]
      exact change.charges (ih fits.earlier)

/-- The entry of the columns' log. -/
def LedgerEvent.columns? : LedgerEvent → Option Columns.LedgerEvent
  | .credited hash micros => some (.credited hash (.ofInt micros))
  | .creditedOnce _ hash micros => some (.credited hash (.ofInt micros))
  | .settled hold charge => some (.charged hold.hash (.ofInt charge))
  | _ => none

/-- The results that a caller of the columns reads tell the same as the exact ones. -/
theorem LedgerResult.Reads.commits {result : LedgerResult} {reported : Columns.LedgerResult}
    (reads : result.Reads reported)
    : reported.commits = result.commits := by
  cases reads <;> rfl

/-- One call on the columns is the call on the exact store, with the same entries in its log. -/
theorem apply_columns (driver : Driver) {db db' : BalanceStore} (bounded : db.Bounded)
    (bounded' : db'.Bounded) (recovered : SessionRow → SqlNumber) {op : LedgerOp}
    {result : LedgerResult} (committed : db.apply op = .ok (result, db'))
    : ∃ reported recovered',
        (db.columnsWith recovered).apply driver op.columns
          = .ok (reported, db'.columnsWith recovered')
        ∧ result.Reads reported
        ∧ op.columns.events (db.columnsWith recovered) reported
          = (op.events db result).filterMap LedgerEvent.columns?
        ∧ (result.commits = false → recovered' = recovered) := by
  have covered (hash : String) (micros : ℕ)
      (paid : db'.tokens = creditStmt db.tokens hash micros)
      : tokenBalance db.tokens hash + micros ≤ Number.maxSafeInteger := by
    have safe := (le_abs_self _).trans (bounded'.balance hash)
    simpa [paid] using safe
  cases op with
  | credit hash micros =>
      cases committed
      have paid := credit_columns driver recovered bounded (covered hash micros rfl)
      refine ⟨.credited, recovered, ?_, .credited, rfl, fun _ => rfl⟩
      simp only [LedgerOp.columns, Columns.BalanceStore.apply, Columns.BalanceStore.credit, paid]
      rfl
  | creditOnce hash micros orderId atMs =>
      cases taken : db.creditOnce hash micros orderId atMs with
      | mk applied after =>
          simp only [BalanceStore.apply, taken, Except.ok.injEq] at committed
          cases committed
          have paid := creditOnce_columns driver recovered bounded taken fun now => by
            subst now
            cases creditOnce_step taken with
            | applied fresh => exact covered hash micros rfl
          refine ⟨.creditedOnce applied, recovered, ?_, .creditedOnce applied, ?_, fun _ => rfl⟩
          · simp only [LedgerOp.columns, Columns.BalanceStore.apply, paid]
            rfl
          · cases applied <;> rfl
  | beginSession sessionId atMs =>
      cases taken : db.beginSession sessionId atMs with
      | error thrown => simp [BalanceStore.apply, taken, Except.map] at committed
      | ok outcome =>
          obtain ⟨begun, after⟩ := outcome
          simp only [BalanceStore.apply, taken, Except.map, Except.ok.injEq] at committed
          cases committed
          obtain ⟨reported, recovered', column, reads, same⟩ :=
            beginSession_columns driver recovered bounded taken
          refine ⟨.session reported, recovered', ?_, reads, ?_, same⟩
          · simp only [LedgerOp.columns, Columns.BalanceStore.apply, column]
            rfl
          · cases reads <;> rfl
  | openSessionHold sessionId hash micros holdId atMs =>
      obtain ⟨outcome, after, taken, step⟩ :=
        openSessionHold_step db sessionId hash micros holdId atMs
      simp only [BalanceStore.apply, taken, Except.map, Except.ok.injEq] at committed
      cases committed
      refine ⟨.hold outcome, recovered, ?_, .hold outcome, ?_, fun _ => rfl⟩
      · simp only [LedgerOp.columns, Columns.BalanceStore.apply,
          openSessionHold_columns driver recovered bounded, taken]
        rfl
      · cases outcome <;> simp [LedgerOp.columns, Columns.LedgerOp.events, LedgerOp.events,
          Function.comp_def, LedgerEvent.columns?]
  | settleSessionHold sessionId holdId chargedMicros atMs =>
      obtain ⟨outcome, after, taken, step⟩ :=
        settleSessionHold_step db sessionId holdId chargedMicros atMs
      simp only [BalanceStore.apply, taken, Except.map, Except.ok.injEq] at committed
      cases committed
      refine ⟨.settlement outcome, recovered, ?_, .settlement outcome, ?_, fun _ => rfl⟩
      · simp only [LedgerOp.columns, Columns.BalanceStore.apply,
          settleSessionHold_columns driver recovered bounded, taken]
        rfl
      · cases step with
        | settled current unsettled found own valid nonneg within refunded =>
            simpa [LedgerOp.columns, Columns.LedgerOp.events, LedgerOp.events, holds_columnsWith,
              found, valid, HoldRow.columns, LedgerEvent.columns?]
              using Number.eq_ofInt_of_safeInteger? valid
        | _ => rfl
  | getSessionBalance sessionId hash =>
      cases committed
      exact ⟨_, recovered, rfl, getSessionBalance_columns recovered bounded sessionId hash, rfl,
        fun _ => rfl⟩

/-- A history of the columns that tells what an exact history does. -/
def Tells (columns : Columns.History) (history : History) : Prop :=
  Represents history.db columns.db ∧ columns.log = history.log.filterMap LedgerEvent.columns?

/-- Calls on the columns tell what they would on exact integers; by induction on the calls. -/
theorem run_columns (driver : Driver) {start : BalanceStore} (legacy : start.Legacy)
    {ops : List LedgerOp} (fits : Fits start ops)
    : Tells (Columns.History.run driver start.columns (ops.map LedgerOp.columns))
        (History.run start ops) := by
  induction ops using List.reverseRecOn with
  | nil => exact ⟨⟨_, rfl⟩, rfl⟩
  | append_singleton earlier op ih =>
      have before := run_bounded legacy fits.earlier
      have after := run_bounded legacy fits
      obtain ⟨⟨recovered, same⟩, told⟩ := ih fits.earlier
      obtain ⟨result, db', taken⟩ := (run_invariant legacy earlier).apply_completes op
      have called : (History.run start earlier).call op
          = ⟨db', (History.run start earlier).log
              ++ op.events (History.run start earlier).db result⟩ := by
        rw [History.call, taken]
      simp only [History.run_append, List.foldl_cons, List.foldl_nil, called] at after ⊢
      obtain ⟨reported, recovered', column, _, logged, _⟩ :=
        apply_columns driver before after recovered taken
      have step
          : Columns.History.run driver start.columns ((earlier ++ [op]).map LedgerOp.columns)
            = (Columns.History.run driver start.columns (earlier.map LedgerOp.columns)).call driver
                op.columns := by
        simp [Columns.History.run]
      rw [step, Columns.History.call, same, column]
      refine ⟨⟨recovered', rfl⟩, ?_⟩
      simp only [List.filterMap_append, told, logged]

-----------------------------------------------------------------------------------------
-- Sums of reads
-----------------------------------------------------------------------------------------

/-- What the open holds reserve of a hash, as the sum over its own holds. -/
theorem sum_reserved (rows : List HoldRow) (hash : String)
    : (rows.map (HoldRow.reserved hash)).sum
      = ((rows.filter (fun hold => hold.hash = hash)).map HoldRow.micros).sum := by
  induction rows with
  | nil => rfl
  | cons hold rest ih =>
      by_cases own : hold.hash = hash
      · simp [HoldRow.reserved, own, ih]
      · simp [HoldRow.reserved, own, ih]

/-- The reads of an account are whole, and add up to the funds. -/
theorem accountOf_columns {db : BalanceStore} (bounded : db.Bounded)
    (recovered : SessionRow → SqlNumber) (hash : String)
    : ∃ amounts : List ℤ,
        (db.columnsWith recovered).accountOf hash = amounts.map Number.ofInt
        ∧ amounts.sum = db.funds hash := by
  refine ⟨(db.getBalance hash).toList
    ++ (db.holds.rows.filter (fun hold => hold.hash = hash)).map HoldRow.micros, ?_, ?_⟩
  · have reads
        : ∀ hold ∈ db.holds.rows.filter (fun hold => hold.hash = hash),
            hold.columns.micros.toDouble = Number.ofInt hold.micros := by
      intro hold member
      exact bounded.readHold (List.mem_filter.mp member).1
    have own
        : (fun row => decide (row.hash = hash)) ∘ HoldRow.columns
          = fun row => decide (row.hash = hash) :=
      rfl
    rw [Columns.BalanceStore.accountOf, getBalance_columnsWith recovered bounded,
      holdRows_columnsWith, List.filter_map, List.map_map, own, List.map_append, List.map_map]
    congr 1
    · cases db.getBalance hash <;> rfl
    · exact List.map_congr_left reads
  · rw [List.sum_append, ← sum_reserved]
    unfold BalanceStore.funds tokenBalance BalanceStore.getBalance
    cases db.tokens.get? hash <;> simp [BalanceStore.reservedFor, Table.total]

/-- The exact amounts of a log, read off the columns' log: one entry each, or nothing. -/
theorem amounts_columns {log : List LedgerEvent} {amount : LedgerEvent → ℤ}
    {read : Columns.LedgerEvent → Option Number}
    (entry
      : ∀ event, event.columns?.bind read = some (Number.ofInt (amount event))
          ∨ event.columns?.bind read = none ∧ amount event = 0)
    : ∃ amounts : List ℤ,
        (log.filterMap LedgerEvent.columns?).filterMap read = amounts.map Number.ofInt
        ∧ amounts.sum = (log.map amount).sum := by
  rw [List.filterMap_filterMap]
  induction log with
  | nil => exact ⟨[], rfl, rfl⟩
  | cons event rest ih =>
      obtain ⟨amounts, listed, sum⟩ := ih
      rcases entry event with told | ⟨silent, zero⟩
      · refine ⟨amount event :: amounts, ?_, ?_⟩
        · simp only [List.filterMap_cons, told, listed, List.map_cons]
        · rw [List.map_cons, List.sum_cons, List.sum_cons, sum]
      · refine ⟨amounts, ?_, ?_⟩
        · simp only [List.filterMap_cons, silent, listed]
        · rw [List.map_cons, List.sum_cons, zero, zero_add, sum]

/-- The log of the columns gives the credits of a hash. -/
theorem creditsTo_columns {columns : Columns.History} {history : History}
    (told : columns.log = history.log.filterMap LedgerEvent.columns?) (hash : String)
    : ∃ amounts : List ℤ,
        columns.creditsTo hash = amounts.map Number.ofInt
        ∧ amounts.sum = history.creditedTo hash := by
  rw [Columns.History.creditsTo, told]
  refine amounts_columns fun event => ?_
  cases event with
  | credited payee micros =>
      by_cases own : payee = hash <;> simp [LedgerEvent.columns?, LedgerEvent.credit, own]
  | creditedOnce orderId payee micros =>
      by_cases own : payee = hash <;> simp [LedgerEvent.columns?, LedgerEvent.credit, own]
  | _ => exact Or.inr ⟨rfl, rfl⟩

theorem chargesTo_columns {columns : Columns.History} {history : History}
    (told : columns.log = history.log.filterMap LedgerEvent.columns?) (hash : String)
    : ∃ amounts : List ℤ,
        columns.chargesTo hash = amounts.map Number.ofInt
        ∧ amounts.sum = history.chargedTo hash := by
  rw [Columns.History.chargesTo, told]
  refine amounts_columns fun event => ?_
  cases event with
  | settled hold charge =>
      by_cases own : hold.hash = hash <;> simp [LedgerEvent.columns?, LedgerEvent.charge, own]
  | _ => exact Or.inr ⟨rfl, rfl⟩

/-- Accounts that add up exactly add up on the columns. -/
theorem conserved_columns (driver : Driver) {start : BalanceStore} (legacy : start.Legacy)
    {ops : List LedgerOp} (fits : Fits start ops)
    : Columns.Conserved driver start.columns (ops.map LedgerOp.columns) := by
  intro hash
  obtain ⟨⟨recovered, same⟩, told⟩ := run_columns driver legacy fits
  have empty : Fits start [] := Fits.front fits
  have initially : start.Bounded := run_bounded legacy empty
  obtain ⟨owed, owedReads, owedSum⟩ := accountOf_columns (run_bounded legacy fits) recovered hash
  obtain ⟨had, hadReads, hadSum⟩
      : ∃ amounts : List ℤ, start.columns.accountOf hash = amounts.map Number.ofInt
          ∧ amounts.sum = start.funds hash :=
    accountOf_columns initially _ hash
  obtain ⟨charges, chargeReads, chargeSum⟩ := chargesTo_columns told hash
  obtain ⟨credits, creditReads, creditSum⟩ := creditsTo_columns told hash
  have kept := (run_invariant legacy ops).conserved hash
  rw [same, owedReads, chargeReads, hadReads, creditReads,
    ← List.map_append, ← List.map_append, Number.exactSum_map_ofInt, Number.exactSum_map_ofInt,
    List.sum_append, List.sum_append, owedSum, chargeSum, hadSum, creditSum, kept]

-----------------------------------------------------------------------------------------
-- The contract holds within the safe integers
-----------------------------------------------------------------------------------------

/-- A call of any amounts completes on bounded columns, and leaves them as they were unless its
result commits.
-/
theorem columns_complete (driver : Driver) {start : BalanceStore} {history : History}
    (inv : StoreInvariant start history) (bounded : history.db.Bounded)
    (recovered : SessionRow → SqlNumber) {op : Columns.LedgerOp} (nonneg : op.Nonneg)
    : ∃ result db', (history.db.columnsWith recovered).apply driver op = .ok (result, db')
        ∧ (result.commits = false → db' = history.db.columnsWith recovered) := by
  cases op with
  | credit hash micros =>
      obtain ⟨tokens, paid⟩ := creditStmt_completes driver recovered bounded hash nonneg
      refine ⟨.credited, { history.db.columnsWith recovered with tokens }, ?_, nofun⟩
      simp only [Columns.BalanceStore.apply, Columns.BalanceStore.credit, paid]
      rfl
  | creditOnce hash micros orderId atMs =>
      obtain ⟨tokens, paid⟩ := creditStmt_completes driver recovered bounded hash nonneg
      simp only [Columns.BalanceStore.apply, Columns.BalanceStore.creditOnce, paid]
      split
      · exact ⟨_, _, rfl, fun _ => rfl⟩
      · exact ⟨_, _, rfl, nofun⟩
  | beginSession sessionId atMs =>
      obtain ⟨result, db', taken⟩ := beginSession_completes inv.fenced.live sessionId atMs
      obtain ⟨reported, recovered', column, reads, same⟩ :=
        beginSession_columns driver recovered bounded taken
      have commits := reads.commits
      refine ⟨.session reported, db'.columnsWith recovered', ?_, ?_⟩
      · simp only [Columns.BalanceStore.apply, column]
        rfl
      · intro silent
        rw [commits] at silent
        rw [same silent, (beginSession_step taken).change.2 silent]
  | openSessionHold sessionId hash micros holdId atMs =>
      obtain ⟨result, db', taken, step⟩ :=
        openSessionHold_step history.db sessionId hash micros holdId atMs
      refine ⟨.hold result, db'.columnsWith recovered, ?_, ?_⟩
      · simp only [Columns.BalanceStore.apply, openSessionHold_columns driver recovered bounded,
          taken]
        rfl
      · intro silent
        rw [step.change.2 silent]
  | settleSessionHold sessionId holdId charged atMs =>
      obtain ⟨result, db', taken, step⟩ :=
        settleSessionHold_step history.db sessionId holdId charged atMs
      refine ⟨.settlement result, db'.columnsWith recovered, ?_, ?_⟩
      · simp only [Columns.BalanceStore.apply, settleSessionHold_columns driver recovered bounded,
          taken]
        rfl
      · intro silent
        rw [step.change.2 silent]
  | getSessionBalance sessionId hash => exact ⟨_, _, rfl, fun _ => rfl⟩

/-- A safe amount counts. -/
theorem counts_ofInt {n : ℤ} (nonneg : 0 ≤ n) (safe : n ≤ Number.maxSafeInteger)
    : Columns.Counts (.ofInt n) := by
  obtain ⟨micros, rfl⟩ := Int.eq_ofNat_of_zero_le nonneg
  exact ⟨micros, rfl, SqlNumber.toDouble_ofInt (by rwa [abs_of_nonneg nonneg])⟩

/-- Any calls on the columns of a legacy store that fit meet the contract, whatever the driver. -/
theorem columns_contract (driver : Driver) {start : BalanceStore} (legacy : start.Legacy)
    {ops : List LedgerOp} (fits : Fits start ops)
    : Columns.StoreContract driver start.columns (ops.map LedgerOp.columns) := by
  have bounded := run_bounded legacy fits
  have contract := store_contract legacy ops
  have session {front back : List LedgerOp} (whole : front ++ back = ops)
      : (Columns.History.run driver start.columns (front.map LedgerOp.columns)).db.currentSession
        = (History.run start front).db.currentSession := by
    subst whole
    obtain ⟨⟨recovered, same⟩, _⟩ := run_columns driver legacy fits.front
    rw [same, currentSession_columnsWith]
  have current := session (List.append_nil ops)
  obtain ⟨⟨recovered, same⟩, _⟩ := run_columns driver legacy fits
  have tokens
      : (Columns.History.run driver start.columns (ops.map LedgerOp.columns)).db.tokens.rows
        = (History.run start ops).db.tokens.rows.map TokenRow.columns := by
    rw [same]
    rfl
  have holds
      : (Columns.History.run driver start.columns (ops.map LedgerOp.columns)).db.holds.rows
        = (History.run start ops).db.holds.rows.map HoldRow.columns := by
    rw [same]
    rfl
  have settledHolds
      : (Columns.History.run driver start.columns (ops.map LedgerOp.columns)).db.settledHolds.rows
        = (History.run start ops).db.settledHolds.rows.map SettledHoldRow.columns := by
    rw [same]
    rfl
  refine {
    balances := ?_
    reservations := ?_
    conserved := conserved_columns driver legacy fits
    disjoint := ?_
    owned := ?_
    neverRetired := ?_
    neverRevisited := ?_
    completes := ?_
  }
  · rw [tokens]
    intro column member
    obtain ⟨row, stored, rfl⟩ := List.mem_map.mp member
    have safe := (le_abs_self _).trans (bounded.balance row.hash)
    rw [balance_of_mem stored] at safe
    exact counts_ofInt (contract.balances row stored) safe
  · rw [holds]
    intro column member
    obtain ⟨hold, stored, rfl⟩ := List.mem_map.mp member
    exact counts_ofInt (contract.reservations hold stored) (bounded.reserved_le stored)
  · rw [holds, settledHolds]
    intro open' openMember closed closedMember
    obtain ⟨hold, stored, rfl⟩ := List.mem_map.mp openMember
    obtain ⟨settled, tombstone, rfl⟩ := List.mem_map.mp closedMember
    exact contract.disjoint hold stored settled tombstone
  · rw [current, holds, settledHolds]
    intro sessionId now
    obtain ⟨ownHolds, ownTombstones⟩ := contract.owned sessionId now
    exact ⟨List.forall_mem_map.mpr ownHolds, List.forall_mem_map.mpr ownTombstones⟩
  · rw [current, same]
    exact contract.neverRetired
  · intro earlier later rest sessionId whole
    obtain ⟨middle, rest, rfl, split, rfl⟩ := List.map_eq_append_iff.mp whole
    obtain ⟨earlier, later, rfl, rfl, rfl⟩ := List.map_eq_append_iff.mp split
    rw [current, ← List.map_append, session rfl,
      session (List.append_assoc earlier later rest).symm]
    exact contract.neverRevisited earlier later rest sessionId rfl
  · intro op nonneg
    rw [same]
    exact columns_complete driver (run_invariant legacy ops) bounded recovered nonneg

/-- What the columns hold of a ledger that was called from `start`, whatever the driver: the exact
amounts, while no token's funds and credits pass the safe integers; and their sum is reported, while
it has 64 bits.
-/
def CountsExactly (start : BalanceStore) (history : History) : Prop :=
  ∃ ops, history = History.run start ops
    ∧ (Fits start ops
        → ∀ driver,
            Tells (Columns.History.run driver start.columns (ops.map LedgerOp.columns)) history
            ∧ (history.db.liabilityTotal.2 < 2 ^ 63
                → (Columns.History.run driver start.columns
                      (ops.map LedgerOp.columns)).db.liabilityTotal
                  = .ok history.db.liabilityTotal))

theorem History.Reached.countsExactly {start : BalanceStore} {history : History}
    (reached : history.Reached start) (legacy : start.Legacy)
    : CountsExactly start history := by
  obtain ⟨ops, rfl⟩ := reached
  refine ⟨ops, rfl, ?_⟩
  intro fits driver
  have told := run_columns driver legacy fits
  refine ⟨told, ?_⟩
  intro small
  obtain ⟨⟨recovered, same⟩, _⟩ := told
  rw [same]
  exact liabilityTotal_columns recovered (run_bounded legacy fits) small

/-- A store left by an old binary, with one funded token and one journaled hold. -/
def legacyStore : BalanceStore where
  tokens := ⟨[⟨"token", 70⟩], by decide⟩
  appliedOrders := .empty
  holds := ⟨[⟨"legacy-hold", "token", 30, none, none⟩], by decide⟩
  ledgerSession := none
  retiredLedgerSessions := .empty
  settledHolds := .empty

/-- The legacy hold is refunded, a credit is applied, a hold is opened and settled, and a second
session begins.
-/
def takeover : List LedgerOp :=
  [
    .beginSession "first" 1,
    .creditOnce "token" 50 "order" 2,
    .openSessionHold "first" "token" (.ofInt 120) "hold" 3,
    .settleSessionHold "first" "hold" (.ofInt 40) 4,
    .beginSession "second" 5,
    .beginSession "first" 6
  ]

theorem columns_contract_takeover
    : Columns.StoreContract .int52 legacyStore.columns (takeover.map LedgerOp.columns) :=
  columns_contract .int52 ⟨by decide, by decide, rfl, rfl⟩ (by
    intro hash
    have log
        : (History.run legacyStore takeover).log
          = [
              .started "first" [⟨"legacy-hold", "token", 30, none, none⟩],
              .creditedOnce "order" "token" 50,
              .opened ⟨"hold", "token", 120, some "first", some 3⟩,
              .settled ⟨"hold", "token", 120, some "first", some 3⟩ 40,
              .started "second" []
            ] := by
      decide +kernel
    rw [History.creditedTo, log]
    by_cases own : "token" = hash
    · subst own
      decide
    · simp [BalanceStore.funds, BalanceStore.reservedFor, tokenBalance, legacyStore, Table.get?,
        Table.total, HoldRow.reserved, LedgerEvent.credit, own, Number.maxSafeInteger])

end Nullsink.Ledger
