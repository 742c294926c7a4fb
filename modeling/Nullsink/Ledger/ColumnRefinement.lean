import Nullsink.Ledger.Columns
import Nullsink.Ledger.StoreInvariant

/-! The columns count as exact integers do while no token's funds pass the safe integers: each call
on them has the result of the exact store, and leaves the columns of the store that it leaves.
-/

namespace Nullsink.Ledger

open Relational Ecma

-----------------------------------------------------------------------------------------
-- The columns of an exact store
-----------------------------------------------------------------------------------------

def TokenRow.columns (row : TokenRow) : Columns.TokenRow :=
  ⟨row.hash, .ofInt row.balance⟩

def HoldRow.columns (row : HoldRow) : Columns.HoldRow :=
  ⟨row.holdId, row.hash, .ofInt row.micros, row.sessionId, row.openedAt⟩

def SettledHoldRow.columns (row : SettledHoldRow) : Columns.SettledHoldRow :=
  ⟨row.holdId, row.sessionId, .ofInt row.chargedMicros, row.settledAt⟩

theorem TokenRow.hash_columns (row : TokenRow) : row.columns.hash = row.hash := rfl

theorem HoldRow.holdId_columns (row : HoldRow) : row.columns.holdId = row.holdId := rfl

theorem SettledHoldRow.holdId_columns (row : SettledHoldRow) : row.columns.holdId = row.holdId :=
  rfl

def tokenColumns (tokens : Table TokenRow.hash) : Table Columns.TokenRow.hash :=
  tokens.image TokenRow.columns TokenRow.hash_columns

def holdColumns (holds : Table HoldRow.holdId) : Table Columns.HoldRow.holdId :=
  holds.image HoldRow.columns HoldRow.holdId_columns

def settledColumns (settledHolds : Table SettledHoldRow.holdId)
    : Table Columns.SettledHoldRow.holdId :=
  settledHolds.image SettledHoldRow.columns SettledHoldRow.holdId_columns

@[simp] theorem get?_tokenColumns (tokens : Table TokenRow.hash) (hash : String)
    : (tokenColumns tokens).get? hash = (tokens.get? hash).map TokenRow.columns :=
  tokens.get?_image _ _ hash

@[simp] theorem get?_holdColumns (holds : Table HoldRow.holdId) (holdId : String)
    : (holdColumns holds).get? holdId = (holds.get? holdId).map HoldRow.columns :=
  holds.get?_image _ _ holdId

@[simp] theorem get?_settledColumns (settledHolds : Table SettledHoldRow.holdId)
    (holdId : String)
    : (settledColumns settledHolds).get? holdId
      = (settledHolds.get? holdId).map SettledHoldRow.columns :=
  settledHolds.get?_image _ _ holdId

theorem insert?_holdColumns {holds after : Table HoldRow.holdId} {row : HoldRow}
    (inserted : holds.insert? row = some after)
    : (holdColumns holds).insert? row.columns = some (holdColumns after) := by
  rw [holdColumns, Table.image_insert?, inserted]
  rfl

theorem insert?_settledColumns {settledHolds after : Table SettledHoldRow.holdId}
    {row : SettledHoldRow} (inserted : settledHolds.insert? row = some after)
    : (settledColumns settledHolds).insert? row.columns = some (settledColumns after) := by
  rw [settledColumns, Table.image_insert?, inserted]
  rfl

/-- Columns that hold the amounts of a store as INTEGERs. What a session recovered is a sum over all
tokens, which a double may have rounded.
-/
def BalanceStore.columnsWith (db : BalanceStore) (recovered : SessionRow → SqlNumber)
    : Columns.BalanceStore where
  tokens := tokenColumns db.tokens
  appliedOrders := db.appliedOrders
  holds := holdColumns db.holds
  ledgerSession :=
    db.ledgerSession.map
      (fun row => ⟨row.sessionId, row.startedAt, row.recoveredHolds, recovered row⟩)
  retiredLedgerSessions := db.retiredLedgerSessions
  settledHolds := settledColumns db.settledHolds

def BalanceStore.columns (db : BalanceStore) : Columns.BalanceStore :=
  db.columnsWith (fun row => .ofInt row.recoveredMicros)

def LedgerOp.columns : LedgerOp → Columns.LedgerOp
  | .credit hash micros => .credit hash (.ofInt micros)
  | .creditOnce hash micros orderId atMs => .creditOnce hash (.ofInt micros) orderId atMs
  | .beginSession sessionId atMs => .beginSession sessionId atMs
  | .openSessionHold sessionId hash micros holdId atMs =>
      .openSessionHold sessionId hash micros holdId atMs
  | .settleSessionHold sessionId holdId chargedMicros atMs =>
      .settleSessionHold sessionId holdId chargedMicros atMs
  | .getSessionBalance sessionId hash => .getSessionBalance sessionId hash

/-- Columns that hold the amounts of a store. -/
def Represents (db : BalanceStore) (columns : Columns.BalanceStore) : Prop :=
  ∃ recovered, columns = db.columnsWith recovered

/-- The results that a caller of the columns reads in place of those of the exact store. -/
inductive LedgerResult.Reads : LedgerResult → Columns.LedgerResult → Prop
  | credited : Reads .credited .credited
  | creditedOnce (applied : Bool) : Reads (.creditedOnce applied) (.creditedOnce applied)
  | started (recoveredHolds : ℕ) (exact : ℤ) (recoveredMicros : Number)
    : Reads (.session (.started recoveredHolds exact))
        (.session (.started recoveredHolds recoveredMicros))
  | current (recoveredHolds : ℕ) (exact : ℤ) (recoveredMicros : Number)
    : Reads (.session (.current recoveredHolds exact))
        (.session (.current recoveredHolds recoveredMicros))
  | staleSession : Reads (.session .staleSession) (.session .staleSession)
  | hold (result : SessionOpenHoldResult) : Reads (.hold result) (.hold result)
  | settlement (result : SessionSettleHoldResult) : Reads (.settlement result) (.settlement result)
  | stale : Reads (.balance .stale) (.balance .stale)
  | fresh (balance : Option ℤ)
    : Reads (.balance (.fresh balance)) (.balance (.fresh (balance.map Number.ofInt)))

/-- Where every amount of a store is at most a safe integer, and so is what it owes any token. -/
structure BalanceStore.Bounded (db : BalanceStore) : Prop where
  balances : ∀ hash, 0 ≤ tokenBalance db.tokens hash
  reservations : ∀ hold ∈ db.holds.rows, 0 ≤ hold.micros
  charges
    : ∀ settled ∈ db.settledHolds.rows,
        0 ≤ settled.chargedMicros ∧ settled.chargedMicros ≤ Number.maxSafeInteger
  funds : ∀ hash, db.funds hash ≤ Number.maxSafeInteger

theorem reserved_nonneg {rows : List HoldRow} (nonneg : ∀ hold ∈ rows, 0 ≤ hold.micros)
    (hash : String)
    : 0 ≤ (rows.map (HoldRow.reserved hash)).sum := by
  refine List.sum_nonneg ?_
  intro amount member
  obtain ⟨hold, stored, rfl⟩ := List.mem_map.mp member
  have micros := nonneg hold stored
  unfold HoldRow.reserved
  split <;> omega

namespace BalanceStore.Bounded

variable {db : BalanceStore}

theorem balance (bounded : db.Bounded) (hash : String)
    : |tokenBalance db.tokens hash| ≤ Number.maxSafeInteger := by
  have nonneg := bounded.balances hash
  have funds := bounded.funds hash
  have reserved : 0 ≤ db.reservedFor hash := reserved_nonneg bounded.reservations hash
  rw [BalanceStore.funds] at funds
  rw [abs_of_nonneg nonneg]
  omega

/-- A hold reserves no more than its token's funds. -/
theorem reservation (bounded : db.Bounded) {hold : HoldRow} (member : hold ∈ db.holds.rows)
    : tokenBalance db.tokens hold.hash + hold.micros ≤ Number.maxSafeInteger := by
  have funds := bounded.funds hold.hash
  have own : HoldRow.reserved hold.hash hold = hold.micros := if_pos rfl
  have part : HoldRow.reserved hold.hash hold ≤ db.reservedFor hold.hash := by
    refine List.single_le_sum ?_ _ (List.mem_map_of_mem member)
    intro amount among
    obtain ⟨other, stored, rfl⟩ := List.mem_map.mp among
    have micros := bounded.reservations other stored
    unfold HoldRow.reserved
    split <;> omega
  rw [BalanceStore.funds] at funds
  omega

theorem reserved_le (bounded : db.Bounded) {hold : HoldRow} (member : hold ∈ db.holds.rows)
    : hold.micros ≤ Number.maxSafeInteger := by
  have balance := bounded.balances hold.hash
  have sum := bounded.reservation member
  omega

/-- A stored hold is read as it is. -/
theorem readHold (bounded : db.Bounded) {hold : HoldRow} (member : hold ∈ db.holds.rows)
    : (SqlNumber.ofInt hold.micros).toDouble = .ofInt hold.micros := by
  have nonneg := bounded.reservations hold member
  exact SqlNumber.toDouble_ofInt (by rw [abs_of_nonneg nonneg]; exact bounded.reserved_le member)

/-- A stored charge is read as it is. -/
theorem readCharge (bounded : db.Bounded) {settled : SettledHoldRow}
    (member : settled ∈ db.settledHolds.rows)
    : (SqlNumber.ofInt settled.chargedMicros).toDouble = .ofInt settled.chargedMicros := by
  obtain ⟨nonneg, safe⟩ := bounded.charges settled member
  exact SqlNumber.toDouble_ofInt (by rwa [abs_of_nonneg nonneg])

end BalanceStore.Bounded

-----------------------------------------------------------------------------------------
-- Statements
-----------------------------------------------------------------------------------------

section Statements

variable (driver : Driver)

theorem stored_of_denotes {value : SqlNumber} {n : ℤ} (denotes : value.Denotes n)
    (safe : |n| ≤ Number.maxSafeInteger) (column : String)
    : Columns.stored column (some value) = .ok (.ofInt n) := by
  rw [Columns.stored, denotes.integerAffinity safe]

theorem stored_ofInt {n : ℤ} (safe : |n| ≤ Number.maxSafeInteger) (column : String)
    : Columns.stored column (driver.bind (.ofInt n)) = .ok (.ofInt n) := by
  obtain ⟨bound, bind, denotes⟩ := driver.bind_ofInt n
  rw [bind, stored_of_denotes denotes safe]

theorem creditStmt_columns {tokens : Table TokenRow.hash} {hash : String} {micros : ℤ}
    (safe : |micros| ≤ Number.maxSafeInteger)
    (before : |tokenBalance tokens hash| ≤ Number.maxSafeInteger)
    (after : |tokenBalance tokens hash + micros| ≤ Number.maxSafeInteger)
    : Columns.creditStmt driver (tokenColumns tokens) hash (.ofInt micros)
      = .ok (tokenColumns (creditStmt tokens hash micros)) := by
  obtain ⟨bound, bind, denotes⟩ := driver.bind_ofInt micros
  unfold Columns.creditStmt
  simp only [bind, Option.bind_eq_bind, Option.bind_some, get?_tokenColumns]
  cases found : tokens.get? hash with
  | none =>
      simp only [Option.map_none, stored_of_denotes denotes safe]
      refine congrArg Except.ok (Table.image_upsert (fun _ => rfl) rfl ?_)
      intro other present
      exact absurd (found.symm.trans present) (by simp)
  | some row =>
      simp only [tokenBalance, found, Option.elim_some] at before after
      obtain ⟨sum, added, whole⟩ :=
        (SqlNumber.Denotes.integer row.balance).add (driver.excluded_denotes denotes safe) before
          safe after
      simp only [Option.map_some, TokenRow.columns, added, stored_of_denotes whole after]
      refine congrArg Except.ok (Table.image_upsert ?_ rfl ?_)
      · intro absent
        exact absurd (absent.symm.trans found) (by simp)
      · intro other present
        cases present.symm.trans found
        rfl

/-- A covered debit of a safe amount. -/
theorem holdStmt_columns {tokens : Table TokenRow.hash} {hash : String} {micros : ℤ}
    {row : TokenRow} (found : tokens.get? hash = some row) (nonneg : 0 ≤ micros)
    (covered : micros ≤ row.balance) (safe : |row.balance| ≤ Number.maxSafeInteger)
    : Columns.holdStmt driver (tokenColumns tokens) hash (.ofInt micros)
      = .ok ((holdStmt tokens hash micros).map tokenColumns) := by
  have bounds := abs_le.mp safe
  have amount : |micros| ≤ Number.maxSafeInteger := by
    rw [abs_of_nonneg nonneg]
    omega
  have rest : |row.balance - micros| ≤ Number.maxSafeInteger := by
    rw [abs_of_nonneg (by omega)]
    omega
  obtain ⟨bound, bind, denotes⟩ := driver.bind_ofInt micros
  have stored := SqlNumber.Denotes.integer row.balance
  obtain ⟨difference, taken, whole⟩ := stored.sub denotes safe amount rest
  unfold Columns.holdStmt holdStmt
  simp only [bind, get?_tokenColumns, found, Option.map_some, TokenRow.columns,
    (denotes.le stored amount safe).mpr covered, taken, stored_of_denotes whole rest, if_true,
    if_pos covered]
  refine congrArg (fun t => Except.ok (some t)) (Table.image_update ?_)
  intro other member
  by_cases own : other.hash = hash
  · have same : other = row := by
      have present := Table.get?_of_mem member
      rw [own, found] at present
      exact (Option.some.inj present).symm
    subst same
    simp [own, TokenRow.columns]
  · simp [own, TokenRow.columns]

/-- The refund loop, by induction on the holds: what is still to be refunded bounds each sum. -/
theorem refundHolds_columns {tokens : Table TokenRow.hash} {rows : List HoldRow}
    (balances : ∀ hash, 0 ≤ tokenBalance tokens hash)
    (reservations : ∀ hold ∈ rows, 0 ≤ hold.micros)
    (bounded
      : ∀ hash, tokenBalance tokens hash + (rows.map (HoldRow.reserved hash)).sum
          ≤ Number.maxSafeInteger)
    : Columns.refundHolds driver (tokenColumns tokens) (rows.map HoldRow.columns)
      = .ok (tokenColumns (refundHolds tokens rows)) := by
  induction rows generalizing tokens with
  | nil => rfl
  | cons hold rest ih =>
      obtain ⟨nonneg, later⟩ := List.forall_mem_cons.mp reservations
      have balance := balances hold.hash
      have sum := bounded hold.hash
      have remaining := reserved_nonneg later hold.hash
      have own : HoldRow.reserved hold.hash hold = hold.micros := if_pos rfl
      rw [List.map_cons, List.sum_cons, own] at sum
      have safe : |hold.micros| ≤ Number.maxSafeInteger := by
        rw [abs_of_nonneg nonneg]
        omega
      have before : |tokenBalance tokens hold.hash| ≤ Number.maxSafeInteger := by
        rw [abs_of_nonneg balance]
        omega
      have after : |tokenBalance tokens hold.hash + hold.micros| ≤ Number.maxSafeInteger := by
        rw [abs_of_nonneg (by omega)]
        omega
      have credited := creditStmt_columns driver safe before after
      simp only [Columns.refundHolds, List.map_cons, List.foldlM_cons, HoldRow.columns,
        SqlNumber.toDouble_ofInt safe, credited]
      refine ih ?_ later ?_
      · intro hash
        have old := balances hash
        rw [tokenBalance_creditStmt]
        split <;> omega
      · intro hash
        have whole := bounded hash
        rw [tokenBalance_creditStmt]
        simp only [List.map_cons, List.sum_cons, HoldRow.reserved] at whole ⊢
        omega

-----------------------------------------------------------------------------------------
-- Transactions
-----------------------------------------------------------------------------------------

section Transactions

variable {db : BalanceStore} (recovered : SessionRow → SqlNumber)

theorem tokens_columnsWith : (db.columnsWith recovered).tokens = tokenColumns db.tokens := rfl

theorem holds_columnsWith : (db.columnsWith recovered).holds = holdColumns db.holds := rfl

theorem holdRows_columnsWith
    : (db.columnsWith recovered).holds.rows = db.holds.rows.map HoldRow.columns :=
  rfl

theorem settledHolds_columnsWith
    : (db.columnsWith recovered).settledHolds = settledColumns db.settledHolds :=
  rfl

@[simp] theorem currentSession_columnsWith
    : (db.columnsWith recovered).currentSession = db.currentSession := by
  simp [Columns.BalanceStore.currentSession, BalanceStore.currentSession,
    BalanceStore.columnsWith, Function.comp_def]

theorem getBalance_columnsWith (bounded : db.Bounded) (hash : String)
    : (db.columnsWith recovered).getBalance hash = (db.getBalance hash).map Number.ofInt := by
  simp only [Columns.BalanceStore.getBalance, BalanceStore.getBalance, BalanceStore.columnsWith,
    get?_tokenColumns, Option.map_map]
  cases found : db.tokens.get? hash with
  | none => rfl
  | some row =>
      have safe := bounded.balance hash
      simp only [tokenBalance, found, Option.elim_some] at safe
      simp [TokenRow.columns, SqlNumber.toDouble_ofInt safe]

theorem getSessionBalance_columns (bounded : db.Bounded) (sessionId hash : String)
    : (LedgerResult.balance (db.getSessionBalance sessionId hash)).Reads
        (.balance ((db.columnsWith recovered).getSessionBalance sessionId hash)) := by
  unfold Columns.BalanceStore.getSessionBalance BalanceStore.getSessionBalance
  rw [currentSession_columnsWith, getBalance_columnsWith recovered bounded]
  split
  · exact .stale
  · exact .fresh _

/-- A credit of a safe amount to a token whose funds stay safe. -/
theorem credit_columns (bounded : db.Bounded) {hash : String} {micros : ℕ}
    (after : tokenBalance db.tokens hash + micros ≤ Number.maxSafeInteger)
    : Columns.creditStmt driver (db.columnsWith recovered).tokens hash (.ofInt micros)
      = .ok (tokenColumns (creditStmt db.tokens hash micros)) := by
  have balance := bounded.balances hash
  refine creditStmt_columns driver ?_ (bounded.balance hash) ?_
  · rw [abs_of_nonneg (by omega)]
    omega
  · rw [abs_of_nonneg (by omega)]
    omega

/-- A credit of whatever amount of at least zero commits. -/
theorem creditStmt_completes (bounded : db.Bounded) (hash : String) {micros : Number}
    (nonneg : micros.Nonneg)
    : ∃ tokens, Columns.creditStmt driver (db.columnsWith recovered).tokens hash micros
        = .ok tokens := by
  obtain ⟨bound, bind, boundNonneg⟩ := driver.bind_nonneg nonneg
  unfold Columns.creditStmt
  simp only [bind, Option.bind_eq_bind, Option.bind_some, tokens_columnsWith, get?_tokenColumns]
  cases found : db.tokens.get? hash with
  | none => exact ⟨_, rfl⟩
  | some row =>
      have balance := bounded.balances hash
      have safe := bounded.balance hash
      simp only [tokenBalance, found, Option.elim_some] at balance safe
      have held : (SqlNumber.ofInt row.balance).toDouble.Nonneg := by
        rw [SqlNumber.toDouble_ofInt safe]
        exact Int.cast_nonneg balance
      obtain ⟨sum, added⟩ := SqlNumber.add_of_nonneg held (driver.excluded_nonneg boundNonneg)
      simp only [Option.map_some, TokenRow.columns, added]
      exact ⟨_, rfl⟩

/-- A keyed credit, where it is applied of a safe amount to a token whose funds stay safe. -/
theorem creditOnce_columns (bounded : db.Bounded) {hash : String} {micros : ℕ} {orderId : String}
    {atMs : ℤ} {applied : Bool} {db' : BalanceStore}
    (committed : db.creditOnce hash micros orderId atMs = (applied, db'))
    (after
      : applied = true → tokenBalance db.tokens hash + micros ≤ Number.maxSafeInteger)
    : (db.columnsWith recovered).creditOnce driver hash (.ofInt micros) orderId atMs
      = .ok (applied, db'.columnsWith recovered) := by
  have appliedOrders : (db.columnsWith recovered).appliedOrders = db.appliedOrders := rfl
  unfold BalanceStore.creditOnce at committed
  unfold Columns.BalanceStore.creditOnce
  rw [appliedOrders]
  cases marked : db.appliedOrders.insertOrIgnore ⟨orderId, atMs⟩ with
  | mk markers added =>
      rw [marked] at committed
      cases added with
      | false =>
          cases committed
          rfl
      | true =>
          cases committed
          simp only [credit_columns driver recovered bounded (after rfl)]
          rfl

/-- What the refund loop counts is a Number of at least zero, however it rounds. -/
theorem recoveredMicros_nonneg {rows : List HoldRow}
    (holds : ∀ hold ∈ rows, 0 ≤ hold.micros ∧ hold.micros ≤ Number.maxSafeInteger)
    : (Columns.recoveredMicros (rows.map HoldRow.columns)).Nonneg := by
  have along (sum : Number) (start : sum.Nonneg)
      : ((rows.map HoldRow.columns).foldl
          (fun sum row => Number.add .binary64 sum row.micros.toDouble) sum).Nonneg := by
    induction rows generalizing sum with
    | nil => exact start
    | cons hold rest ih =>
        obtain ⟨⟨nonneg, safe⟩, others⟩ := List.forall_mem_cons.mp holds
        refine ih others _ (start.add .binary64 ?_)
        rw [HoldRow.columns, SqlNumber.toDouble_ofInt (by rwa [abs_of_nonneg nonneg])]
        exact Int.cast_nonneg nonneg
  exact along _ le_rfl

theorem retireCurrent_columns (atMs : ℤ)
    : Columns.retireCurrent (db.columnsWith recovered) atMs = retireCurrent db atMs := by
  unfold Columns.retireCurrent retireCurrent BalanceStore.columnsWith
  cases db.ledgerSession <;> rfl

/-- A start refunds the holds, each to a balance it brings to no more than the token's funds. -/
theorem beginSession_columns (bounded : db.Bounded) {sessionId : String} {atMs : ℤ} {result db'}
    (committed : db.beginSession sessionId atMs = .ok (result, db'))
    : ∃ reported recovered',
        (db.columnsWith recovered).beginSession driver sessionId atMs
          = .ok (reported, db'.columnsWith recovered')
        ∧ (LedgerResult.session result).Reads (.session reported)
        ∧ ((LedgerResult.session result).commits = false → recovered' = recovered) := by
  have session
      : (db.columnsWith recovered).ledgerSession.filter
            (fun current => current.sessionId = sessionId)
          = (db.ledgerSession.filter (fun current => current.sessionId = sessionId)).map
            (fun row => ⟨row.sessionId, row.startedAt, row.recoveredHolds, recovered row⟩) := by
    cases current : db.ledgerSession with
    | none => simp [BalanceStore.columnsWith, current]
    | some row =>
        by_cases same : row.sessionId = sessionId <;>
          simp [BalanceStore.columnsWith, current, Option.filter, same]
  unfold Columns.BalanceStore.beginSession
  unfold BalanceStore.beginSession at committed
  rw [session]
  split at committed
  · rename_i current found
    cases committed
    rw [found]
    exact ⟨_, recovered, rfl, .current _ _ _, fun _ => rfl⟩
  rename_i absent
  rw [absent]
  change ∃ _ _, ite ((db.retiredLedgerSessions.get? sessionId).isSome = true) _ _ = _ ∧ _
  split at committed
  · rename_i retired
    cases committed
    rw [if_pos retired]
    exact ⟨_, recovered, rfl, .staleSession, fun _ => rfl⟩
  rename_i fresh
  rw [if_neg fresh, retireCurrent_columns]
  split at committed
  · cases committed
  rename_i retired fenced
  cases committed
  have refunded := refundHolds_columns driver bounded.balances bounded.reservations bounded.funds
  have counted := recoveredMicros_nonneg fun hold member =>
    ⟨bounded.reservations hold member, bounded.reserved_le member⟩
  have notNull : Columns.recoveredMicros (db.holds.rows.map HoldRow.columns) ≠ .nan := by
    intro same
    rw [same] at counted
    exact counted
  obtain ⟨bound, bind⟩ := Option.ne_none_iff_exists'.mp (driver.bind_ne_none notNull)
  refine ⟨.started _ (Columns.recoveredMicros (db.holds.rows.map HoldRow.columns)),
    fun _ => bound.integerAffinity, ?_, .started _ _ _, by simp [LedgerResult.commits]⟩
  simp only [tokens_columnsWith, holdRows_columnsWith, refunded, fenced, bind, Columns.stored,
    List.length_map]
  rfl

/-- The amount check on a Number is that of the safe integer it denotes. -/
theorem amount_valid {micros : Number} {amount : ℤ}
    (valid : micros.safeInteger?.filter (fun amount => 0 ≤ amount) = some amount)
    : micros = .ofInt amount ∧ 0 ≤ amount ∧ amount ≤ Number.maxSafeInteger
      ∧ ¬(micros.safeInteger? = none ∨ micros.lt (.ofInt 0) = true) := by
  obtain ⟨safe, nonneg⟩ := Option.filter_eq_some_iff.mp valid
  have nonneg : 0 ≤ amount := of_decide_eq_true nonneg
  have denotes := Number.eq_ofInt_of_safeInteger? safe
  refine ⟨denotes, nonneg, (le_abs_self amount).trans (Number.abs_le_of_safeInteger? safe), ?_⟩
  rintro (missing | negative)
  · rw [safe] at missing
    cases missing
  · rw [denotes] at negative
    simp only [Number.ofInt, Number.lt, decide_eq_true_eq, Int.cast_lt] at negative
    omega

theorem amount_invalid {micros : Number}
    (invalid : micros.safeInteger?.filter (fun amount => 0 ≤ amount) = none)
    : micros.safeInteger? = none ∨ micros.lt (.ofInt 0) = true := by
  cases safe : micros.safeInteger? with
  | none => exact Or.inl rfl
  | some amount =>
      right
      rw [Number.eq_ofInt_of_safeInteger? safe]
      simpa [safe, Option.filter, Number.ofInt, Number.lt] using invalid

theorem strictEq_ofInt (a b : ℤ) : (Number.ofInt a).strictEq (.ofInt b) = true ↔ a = b := by
  simp [Number.strictEq, Number.ofInt]

/-- A covered debit and its hold on the columns are those on the exact store. -/
theorem opened_columns (bounded : db.Bounded) {sessionId hash holdId : String} {row : TokenRow}
    {amount atMs : ℤ} (unopened : db.holds.get? holdId = none)
    (found : db.tokens.get? hash = some row) (nonneg : 0 ≤ amount)
    (covered : amount ≤ row.balance) (safe : amount ≤ Number.maxSafeInteger)
    : ∃ debited kept,
        holdStmt db.tokens hash amount = some debited
        ∧ Columns.holdStmt driver (tokenColumns db.tokens) hash (.ofInt amount)
          = .ok (some (tokenColumns debited))
        ∧ Columns.stored "holds.micros" (driver.bind (.ofInt amount)) = .ok (.ofInt amount)
        ∧ db.holds.insert? ⟨holdId, hash, amount, some sessionId, some atMs⟩ = some kept
        ∧ (holdColumns db.holds).insert? ⟨holdId, hash, .ofInt amount, some sessionId, some atMs⟩
          = some (holdColumns kept) := by
  have funded := bounded.balance hash
  simp only [tokenBalance, found, Option.elim_some] at funded
  obtain ⟨debited, debit, _⟩ := holdStmt_of_covered found covered
  have kept
      : db.holds.insert? ⟨holdId, hash, amount, some sessionId, some atMs⟩
        = some (db.holds.append ⟨holdId, hash, amount, some sessionId, some atMs⟩ unopened) :=
    Table.insert?_of_fresh unopened
  refine ⟨debited, _, debit, ?_, ?_, kept, insert?_holdColumns kept⟩
  · rw [holdStmt_columns driver found nonneg covered funded, debit]
    rfl
  · exact stored_ofInt driver (by rwa [abs_of_nonneg nonneg]) _

/-- Opening a hold on the columns is opening it on the exact store. -/
theorem openSessionHold_columns (bounded : db.Bounded) (sessionId hash : String)
    (micros : Number) (holdId : String) (atMs : ℤ)
    : (db.columnsWith recovered).openSessionHold driver sessionId hash micros holdId atMs
      = (db.openSessionHold sessionId hash micros holdId atMs).map
          (fun (result, db') => (result, db'.columnsWith recovered)) := by
  unfold Columns.BalanceStore.openSessionHold BalanceStore.openSessionHold
  rw [currentSession_columnsWith, getBalance_columnsWith recovered bounded, holds_columnsWith,
    settledHolds_columnsWith, tokens_columnsWith, get?_holdColumns, get?_settledColumns]
  by_cases other : db.currentSession ≠ some sessionId
  · rw [if_pos other, if_pos other]
    rfl
  rw [if_neg other, if_neg other]
  cases valid : micros.safeInteger?.filter (fun amount => 0 ≤ amount) with
  | none =>
      rw [if_pos (amount_invalid valid)]
      rfl
  | some amount =>
      obtain ⟨rfl, nonneg, safe, whole⟩ := amount_valid valid
      rw [if_neg whole]
      cases stored : db.holds.get? holdId with
      | some existing =>
          have read := bounded.readHold (Table.mem_of_get? stored)
          simp only [Option.map_some, HoldRow.columns, read, strictEq_ofInt]
          by_cases same
            : existing.sessionId = some sessionId ∧ existing.hash = hash ∧ existing.micros = amount
          · rw [if_pos same, if_pos same]
            rfl
          · rw [if_neg same, if_neg same]
            rfl
      | none =>
          simp only [Option.map_none, Option.isSome_map]
          by_cases settled : (db.settledHolds.get? holdId).isSome
          · rw [if_pos settled, if_pos settled]
            rfl
          rw [if_neg settled, if_neg settled]
          cases known : db.getBalance hash with
          | none => rfl
          | some balance =>
              have short : (Number.ofInt balance).lt (.ofInt amount) = true ↔ balance < amount := by
                simp [Number.ofInt, Number.lt]
              simp only [Option.map_some, short]
              by_cases uncovered : balance < amount
              · rw [if_pos uncovered, if_pos uncovered]
                rfl
              rw [if_neg uncovered, if_neg uncovered]
              obtain ⟨row, found, rfl⟩ := Option.map_eq_some_iff.mp known
              have covered : amount ≤ row.balance := not_lt.mp uncovered
              obtain ⟨debited, kept, debit, columnDebit, reserved, inserted, columnInserted⟩ :=
                opened_columns driver bounded stored found nonneg covered safe
              rw [debit, columnDebit, reserved, inserted]
              simp [columnInserted, Except.map, bind, Except.bind, pure, Except.pure,
                BalanceStore.columnsWith]

/-- The charge check on Numbers is that of the safe integer within the hold. -/
theorem charge_valid {charged : Number} {charge micros : ℤ}
    (valid
      : charged.safeInteger?.filter (fun charge => 0 ≤ charge ∧ charge ≤ micros) = some charge)
    : charged = .ofInt charge ∧ 0 ≤ charge ∧ charge ≤ micros
      ∧ ¬(charged.safeInteger? = none ∨ charged.lt (.ofInt 0) = true
          ∨ (Number.ofInt micros).lt charged = true) := by
  obtain ⟨safe, bounds⟩ := Option.filter_eq_some_iff.mp valid
  obtain ⟨nonneg, within⟩ : 0 ≤ charge ∧ charge ≤ micros := of_decide_eq_true bounds
  have denotes := Number.eq_ofInt_of_safeInteger? safe
  refine ⟨denotes, nonneg, within, ?_⟩
  rw [safe, denotes]
  simp only [Number.ofInt, Number.lt, decide_eq_true_eq, Int.cast_lt]
  rintro (missing | negative | above)
  · cases missing
  · omega
  · omega

theorem charge_invalid {charged : Number} {micros : ℤ}
    (invalid
      : charged.safeInteger?.filter (fun charge => 0 ≤ charge ∧ charge ≤ micros) = none)
    : charged.safeInteger? = none ∨ charged.lt (.ofInt 0) = true
      ∨ (Number.ofInt micros).lt charged = true := by
  cases safe : charged.safeInteger? with
  | none => exact Or.inl rfl
  | some charge =>
      right
      rw [Number.eq_ofInt_of_safeInteger? safe]
      simp only [safe, Option.filter, decide_eq_true_eq, ite_eq_right_iff, reduceCtorEq,
        imp_false] at invalid
      simp only [Number.ofInt, Number.lt, decide_eq_true_eq, Int.cast_lt]
      omega

/-- The refund of a settlement stays within the token's funds. -/
theorem refund_columns (bounded : db.Bounded) {hold : HoldRow} (member : hold ∈ db.holds.rows)
    {charge : ℤ} (nonneg : 0 ≤ charge) (within : charge ≤ hold.micros)
    : Columns.refund driver (tokenColumns db.tokens) hold.hash
        (Number.sub .binary64 (.ofInt hold.micros) (.ofInt charge))
      = .ok
          (tokenColumns
            (if hold.micros - charge > 0 then
              creditStmt db.tokens hold.hash (hold.micros - charge)
            else db.tokens)) := by
  have funds := bounded.reservation member
  have balance := bounded.balances hold.hash
  have safe : |hold.micros - charge| ≤ Number.maxSafeInteger := by
    rw [abs_of_nonneg (by omega)]
    omega
  have after : |tokenBalance db.tokens hold.hash + (hold.micros - charge)|
      ≤ Number.maxSafeInteger := by
    rw [abs_of_nonneg (by omega)]
    omega
  have positive
      : (Number.ofInt 0).lt (.ofInt (hold.micros - charge)) = true
        ↔ hold.micros - charge > 0 := by
    simp only [Number.ofInt, Number.lt, decide_eq_true_eq, Int.cast_lt, gt_iff_lt]
  rw [Number.sub_ofInt safe, Columns.refund,
    creditStmt_columns driver safe (bounded.balance hold.hash) after]
  by_cases owed : hold.micros - charge > 0
  · rw [if_pos (positive.mpr owed), if_pos owed]
  · rw [if_neg (mt positive.mp owed), if_neg owed]

/-- Settling a hold on the columns is settling it on the exact store. -/
theorem settleSessionHold_columns (bounded : db.Bounded) (sessionId holdId : String)
    (charged : Number) (atMs : ℤ)
    : (db.columnsWith recovered).settleSessionHold driver sessionId holdId charged atMs
      = (db.settleSessionHold sessionId holdId charged atMs).map
          (fun (result, db') => (result, db'.columnsWith recovered)) := by
  unfold Columns.BalanceStore.settleSessionHold BalanceStore.settleSessionHold
  rw [currentSession_columnsWith, holds_columnsWith, settledHolds_columnsWith, tokens_columnsWith,
    get?_holdColumns, get?_settledColumns]
  by_cases other : db.currentSession ≠ some sessionId
  · rw [if_pos other, if_pos other]
    rfl
  rw [if_neg other, if_neg other]
  cases stored : db.settledHolds.get? holdId with
  | some settled =>
      have read := bounded.readCharge (Table.mem_of_get? stored)
      have strict
          : (Number.ofInt settled.chargedMicros).strictEq charged = true
            ↔ Number.ofInt settled.chargedMicros = charged := by
        simp [Number.strictEq, Number.ofInt]
      simp only [Option.map_some, SettledHoldRow.columns, read, strict]
      by_cases same
        : settled.sessionId = sessionId ∧ Number.ofInt settled.chargedMicros = charged
      · rw [if_pos same, if_pos same]
        rfl
      · rw [if_neg same, if_neg same]
        rfl
  | none =>
      cases found : db.holds.get? holdId with
      | none => rfl
      | some hold =>
          have member := Table.mem_of_get? found
          have reserved := bounded.reserved_le member
          simp only [Option.map_some, Option.map_none, HoldRow.columns, bounded.readHold member]
          by_cases foreign : hold.sessionId ≠ some sessionId
          · rw [if_pos foreign, if_pos foreign]
            rfl
          rw [if_neg foreign, if_neg foreign]
          cases valid
            : charged.safeInteger?.filter (fun charge => 0 ≤ charge ∧ charge ≤ hold.micros) with
          | none =>
              rw [if_pos (charge_invalid valid)]
              rfl
          | some charge =>
              obtain ⟨rfl, nonneg, within, whole⟩ := charge_valid valid
              have kept
                  : db.settledHolds.insert? ⟨holdId, sessionId, charge, atMs⟩
                    = some (db.settledHolds.append ⟨holdId, sessionId, charge, atMs⟩ stored) :=
                Table.insert?_of_fresh stored
              have inserted := insert?_settledColumns kept
              simp only [SettledHoldRow.columns] at inserted
              have deleted
                  : (holdColumns db.holds).delete holdId = holdColumns (db.holds.delete holdId) :=
                db.holds.image_delete holdId
              rw [if_neg whole, refund_columns driver bounded member nonneg within,
                stored_ofInt driver (by rw [abs_of_nonneg nonneg]; omega)]
              simp [kept, inserted, deleted, Except.map, bind, Except.bind, pure, Except.pure,
                BalanceStore.columnsWith]

/-- The liability is reported while it has 64 bits. -/
theorem liabilityTotal_columns (bounded : db.Bounded) (small : db.liabilityTotal.2 < 2 ^ 63)
    : (db.columnsWith recovered).liabilityTotal = .ok db.liabilityTotal := by
  have rows : (db.columnsWith recovered).tokens.rows = db.tokens.rows.map TokenRow.columns := rfl
  have stored (tokens : List TokenRow)
      : (tokens.map TokenRow.columns).mapM (fun row => row.balance.integer?)
          = some ((tokens.map TokenRow.balance).map Int64.ofInt) := by
    induction tokens with
    | nil => rfl
    | cons row rest ih =>
        rw [List.map_cons, List.mapM_cons, ih]
        rfl
  have sum : SqlNumber.sum? ((db.tokens.rows.map TokenRow.balance).map Int64.ofInt)
      = some db.liabilityTotal.2 := by
    refine SqlNumber.sum?_of_nonneg ?_ ?_ small
    · intro amount member
      obtain ⟨row, among, rfl⟩ := List.mem_map.mp member
      rw [← balance_of_mem among]
      exact bounded.balances row.hash
    · intro amount member
      obtain ⟨row, among, rfl⟩ := List.mem_map.mp member
      rw [← balance_of_mem among]
      exact (le_abs_self _).trans (bounded.balance row.hash)
  unfold Columns.BalanceStore.liabilityTotal
  simp only [rows, stored, sum, List.length_map]
  rfl

end Transactions

end Statements

end Nullsink.Ledger
