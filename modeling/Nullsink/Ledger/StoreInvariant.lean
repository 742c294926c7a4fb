import Nullsink.Ledger.StoreHistory

/-! The invariant of the balance store: conservation of money, ownership of holds by the current
session, and the fence that keeps a superseded session from coming back.
-/

namespace Nullsink.Ledger

open Relational Ecma Transition

-----------------------------------------------------------------------------------------
-- Start states and the invariant
-----------------------------------------------------------------------------------------

/-- A store no session has touched: its holds, if any, were journaled by older binaries. -/
structure BalanceStore.Legacy (db : BalanceStore) : Prop where
  balances : ∀ row ∈ db.tokens.rows, 0 ≤ row.balance
  holds : ∀ hold ∈ db.holds.rows, 0 ≤ hold.micros ∧ hold.sessionId = none
  noSession : db.ledgerSession = none
  noTombstone : db.settledHolds.rows = []

/-- What a store owes a hash: its balance with its open holds. -/
def BalanceStore.funds (db : BalanceStore) (hash : String) : ℤ :=
  tokenBalance db.tokens hash + db.reservedFor hash

/-- The sessions that were ever current: each once, the last one current, the others retired. -/
structure Fenced (current : Option String) (retired : Table RetiredSessionRow.sessionId)
    (sessions : List String)
    : Prop where
  live : ∀ sessionId, current = some sessionId → retired.get? sessionId = none
  former : ∀ sessionId ∈ sessions, current = some sessionId ∨ retired.get? sessionId ≠ none
  once : sessions.Nodup
  latest : current = sessions.getLast?

/-- What every call keeps. Legacy holds and session holds are owned alike: the session column
of a hold is the current session, or empty while there is none.
-/
structure StoreInvariant (start : BalanceStore) (history : History) : Prop where
  balances : ∀ hash, 0 ≤ tokenBalance history.db.tokens hash
  reservations : ∀ hold ∈ history.db.holds.rows, 0 ≤ hold.micros
  charges
    : ∀ hold charge, .settled hold charge ∈ history.log → 0 ≤ charge ∧ charge ≤ hold.micros
  conserved
    : ∀ hash, history.db.funds hash + history.chargedTo hash
        = start.funds hash + history.creditedTo hash
  disjoint
    : ∀ holdId, history.db.holds.get? holdId ≠ none
        → history.db.settledHolds.get? holdId = none
  ownedHolds : ∀ hold ∈ history.db.holds.rows, hold.sessionId = history.db.currentSession
  ownedTombstones
    : ∀ settled ∈ history.db.settledHolds.rows,
        history.db.currentSession = some settled.sessionId
  fenced : Fenced history.db.currentSession history.db.retiredLedgerSessions history.sessions

theorem BalanceStore.Legacy.invariant {start : BalanceStore} (legacy : start.Legacy)
    : StoreInvariant start ⟨start, []⟩ where
  balances := by
    intro hash
    unfold tokenBalance
    cases found : start.tokens.get? hash with
    | none => simp
    | some row => simpa using legacy.balances row (Table.mem_of_get? found)
  reservations := fun hold member => (legacy.holds hold member).1
  charges := by simp
  conserved := by simp [History.chargedTo, History.creditedTo]
  disjoint := by simp [Table.get?, legacy.noTombstone]
  ownedHolds := by
    intro hold member
    simpa [BalanceStore.currentSession, legacy.noSession] using (legacy.holds hold member).2
  ownedTombstones := by simp [legacy.noTombstone]
  fenced := by
    constructor <;> simp [BalanceStore.currentSession, legacy.noSession, History.sessions]

-----------------------------------------------------------------------------------------
-- Each change keeps the invariant
-----------------------------------------------------------------------------------------

theorem History.sessions_snoc {history : History} {db' : BalanceStore} {event : LedgerEvent}
    (noStart : event.started? = none)
    : (History.mk db' (history.log ++ [event])).sessions = history.sessions := by
  simp [History.sessions, noStart]

theorem History.sessions_start {history : History} {db' : BalanceStore} {sessionId : String}
    {recovered : List HoldRow}
    : (History.mk db' (history.log ++ [.started sessionId recovered])).sessions
      = history.sessions ++ [sessionId] := by
  simp [History.sessions, LedgerEvent.started?]

/-- Replacing the current session by one that is neither current nor retired. -/
theorem Fenced.start {db : BalanceStore} {sessions : List String} {sessionId : String}
    {atMs : ℤ} {retired} (old : Fenced db.currentSession db.retiredLedgerSessions sessions)
    (other : db.currentSession ≠ some sessionId)
    (fresh : db.retiredLedgerSessions.get? sessionId = none)
    (fenced : retireCurrent db atMs = .ok retired)
    : Fenced (some sessionId) retired (sessions ++ [sessionId]) where
  live := by
    intro current same
    cases same
    simpa [get?_of_retireCurrent fenced, other] using fresh
  former := by
    intro earlier member
    rcases List.mem_append.mp member with before | now
    · right
      rcases old.former earlier before with current | already
      · simp [get?_of_retireCurrent fenced, current]
      · simp only [get?_of_retireCurrent fenced]
        split <;> simp [already]
    · exact Or.inl (congrArg some (List.mem_singleton.mp now).symm)
  once := by
    rw [← List.concat_eq_append]
    apply old.once.concat
    intro before
    rcases old.former _ before with current | already
    · exact other current
    · exact already fresh
  latest := by simp

/-- A credit, with or without an idempotency marker. -/
theorem StoreInvariant.credited {start : BalanceStore} {history : History}
    (inv : StoreInvariant start history) {event : LedgerEvent} {hash : String} {micros : ℕ}
    (appliedOrders : Table AppliedOrderRow.orderId)
    (credit : ∀ other, event.credit other = if hash = other then (micros : ℤ) else 0)
    (charge : ∀ other, event.charge other = 0) (noStart : event.started? = none)
    (noSettle : ∀ hold charge, event ≠ .settled hold charge)
    : StoreInvariant start
        ⟨
          { history.db with appliedOrders, tokens := creditStmt history.db.tokens hash micros },
          history.log ++ [event]
        ⟩ where
  balances := by
    intro other
    have old := inv.balances other
    rw [tokenBalance_creditStmt]
    split <;> omega
  reservations := inv.reservations
  charges := by
    intro hold amount member
    rcases List.mem_append.mp member with earlier | now
    · exact inv.charges hold amount earlier
    · exact (noSettle hold amount (List.mem_singleton.mp now).symm).elim
  conserved := by
    intro other
    have old := inv.conserved other
    simp only [BalanceStore.funds, BalanceStore.reservedFor, History.chargedTo,
      History.creditedTo, tokenBalance_creditStmt, List.map_append, List.map_cons, List.map_nil,
      List.sum_append, List.sum_cons, List.sum_nil, credit, charge] at old ⊢
    omega
  disjoint := inv.disjoint
  ownedHolds := inv.ownedHolds
  ownedTombstones := inv.ownedTombstones
  fenced := by
    rw [History.sessions_snoc noStart]
    exact inv.fenced

/-- A session change: every hold is refunded in full, and the session left behind is retired. -/
theorem StoreInvariant.started {start : BalanceStore} {history : History}
    (inv : StoreInvariant start history) {sessionId : String} {atMs : ℤ} {retired}
    (other : history.db.currentSession ≠ some sessionId)
    (fresh : history.db.retiredLedgerSessions.get? sessionId = none)
    (fenced : retireCurrent history.db atMs = .ok retired)
    : StoreInvariant start
        ⟨
          {
            history.db with
            tokens := refundHolds history.db.tokens history.db.holds.rows
            holds := .empty
            settledHolds := .empty
            retiredLedgerSessions := retired
            ledgerSession := some
              ⟨sessionId, atMs, history.db.holds.rows.length,
                history.db.holds.total HoldRow.micros⟩
          },
          history.log ++ [.started sessionId history.db.holds.rows]
        ⟩ where
  balances := by
    intro hash
    have old := inv.balances hash
    have refunds : 0 ≤ (history.db.holds.rows.map (HoldRow.reserved hash)).sum := by
      refine List.sum_nonneg ?_
      intro value member
      obtain ⟨hold, stored, rfl⟩ := List.mem_map.mp member
      have nonneg := inv.reservations hold stored
      unfold HoldRow.reserved
      split <;> omega
    simp only [tokenBalance_refundHolds]
    omega
  reservations := by simp
  charges := by simpa using inv.charges
  conserved := by
    intro hash
    have old := inv.conserved hash
    simp only [BalanceStore.funds, BalanceStore.reservedFor, History.chargedTo,
      History.creditedTo, tokenBalance_refundHolds, List.map_append, List.map_cons, List.map_nil,
      List.sum_append, List.sum_cons, List.sum_nil, LedgerEvent.charge, LedgerEvent.credit,
      Table.rows_empty, Table.total] at old ⊢
    omega
  disjoint := by simp
  ownedHolds := by simp
  ownedTombstones := by simp
  fenced := by
    rw [History.sessions_start]
    exact inv.fenced.start other fresh fenced

/-- A hold opened by the current session: its micros move from the balance to the hold. -/
theorem StoreInvariant.opened {start : BalanceStore} {history : History}
    (inv : StoreInvariant start history) {hold : HoldRow} {sessionId balance} {tokens}
    (own : hold.sessionId = some sessionId)
    (current : history.db.currentSession = some sessionId)
    (nonneg : 0 ≤ hold.micros) (closed : history.db.holds.get? hold.holdId = none)
    (unsettled : history.db.settledHolds.get? hold.holdId = none)
    (known : history.db.getBalance hold.hash = some balance) (covered : hold.micros ≤ balance)
    (debited
      : ∀ other, tokenBalance tokens other
          = tokenBalance history.db.tokens other - if hold.hash = other then hold.micros else 0)
    : StoreInvariant start
        ⟨
          { history.db with tokens, holds := history.db.holds.append hold closed },
          history.log ++ [.opened hold]
        ⟩ where
  balances := by
    intro other
    have old := inv.balances other
    simp only [debited]
    split
    · rename_i same
      subst same
      obtain ⟨row, stored, rfl⟩ := Option.map_eq_some_iff.mp known
      simp only [tokenBalance, stored, Option.elim_some]
      omega
    · omega
  reservations := by
    intro row member
    rcases List.mem_append.mp member with earlier | now
    · exact inv.reservations row earlier
    · exact List.mem_singleton.mp now ▸ nonneg
  charges := by simpa using inv.charges
  conserved := by
    intro other
    have old := inv.conserved other
    simp only [BalanceStore.funds, BalanceStore.reservedFor, History.chargedTo,
      History.creditedTo, debited, Table.total_append, List.map_append, List.map_cons,
      List.map_nil, List.sum_append, List.sum_cons, List.sum_nil, LedgerEvent.charge,
      LedgerEvent.credit, HoldRow.reserved] at old ⊢
    omega
  disjoint := by
    intro holdId found
    simp only [Table.get?_append] at found
    by_cases same : hold.holdId = holdId
    · exact same ▸ unsettled
    · simp only [if_neg same] at found
      exact inv.disjoint holdId found
  ownedHolds := by
    intro row member
    rcases List.mem_append.mp member with earlier | now
    · exact inv.ownedHolds row earlier
    · rw [List.mem_singleton.mp now, own]
      exact current.symm
  ownedTombstones := inv.ownedTombstones
  fenced := by
    rw [History.sessions_snoc rfl]
    exact inv.fenced

/-- A settlement: the hold splits into the charge that is logged and the refund. -/
theorem StoreInvariant.settled {start : BalanceStore} {history : History}
    (inv : StoreInvariant start history) {row : SettledHoldRow} {hold : HoldRow} {tokens}
    (current : history.db.currentSession = some row.sessionId)
    (found : history.db.holds.get? row.holdId = some hold)
    (unsettled : history.db.settledHolds.get? row.holdId = none)
    (nonneg : 0 ≤ row.chargedMicros) (within : row.chargedMicros ≤ hold.micros)
    (refunded
      : ∀ other, tokenBalance tokens other
          = tokenBalance history.db.tokens other
            + if hold.hash = other then hold.micros - row.chargedMicros else 0)
    : StoreInvariant start
        ⟨
          {
            history.db with
            holds := history.db.holds.delete row.holdId
            settledHolds := history.db.settledHolds.append row unsettled
            tokens
          },
          history.log ++ [.settled hold row.chargedMicros]
        ⟩ where
  balances := by
    intro other
    have old := inv.balances other
    simp only [refunded]
    split <;> omega
  reservations := fun other member => inv.reservations other (List.mem_filter.mp member).1
  charges := by
    intro other charge member
    rcases List.mem_append.mp member with earlier | now
    · exact inv.charges other charge earlier
    · cases List.mem_singleton.mp now
      exact ⟨nonneg, within⟩
  conserved := by
    intro other
    have old := inv.conserved other
    have freed := Table.total_delete found (HoldRow.reserved other)
    simp only [BalanceStore.funds, BalanceStore.reservedFor, History.chargedTo,
      History.creditedTo, refunded, List.map_append, List.map_cons, List.map_nil,
      List.sum_append, List.sum_cons, List.sum_nil, LedgerEvent.charge, LedgerEvent.credit]
      at old ⊢
    have value : HoldRow.reserved other hold = if hold.hash = other then hold.micros else 0 := rfl
    by_cases same : hold.hash = other
    · simp only [if_pos same] at value ⊢
      omega
    · simp only [if_neg same] at value ⊢
      omega
  disjoint := by
    intro holdId still
    simp only [Table.get?_delete, ne_eq, ite_eq_left_iff, not_forall] at still
    obtain ⟨different, still⟩ := still
    simpa [Ne.symm different] using inv.disjoint holdId still
  ownedHolds := fun other member => inv.ownedHolds other (List.mem_filter.mp member).1
  ownedTombstones := by
    intro settled member
    rcases List.mem_append.mp member with earlier | now
    · exact inv.ownedTombstones settled earlier
    · rw [List.mem_singleton.mp now]
      exact current
  fenced := by
    rw [History.sessions_snoc rfl]
    exact inv.fenced

-----------------------------------------------------------------------------------------
-- Every run keeps the invariant
-----------------------------------------------------------------------------------------

/-- Every change keeps the invariant, by its cases. -/
theorem StoreInvariant.change {start : BalanceStore} {history : History}
    (inv : StoreInvariant start history) {events db'} (change : Change history.db events db')
    : StoreInvariant start ⟨db', history.log ++ events⟩ := by
  cases change with
  | unchanged => simpa using inv
  | credited hash micros =>
      exact inv.credited _ (fun _ => rfl) (fun _ => rfl) rfl (fun _ _ => nofun)
  | creditedOnce hash micros orderId atMs fresh =>
      exact inv.credited _ (fun _ => rfl) (fun _ => rfl) rfl (fun _ _ => nofun)
  | started other fresh fenced => exact inv.started other fresh fenced
  | opened own current nonneg closed unsettled known covered debited =>
      exact inv.opened own current nonneg closed unsettled known covered debited
  | settled row current own found unsettled nonneg within refunded =>
      exact inv.settled current found unsettled nonneg within refunded

theorem StoreInvariant.call {start : BalanceStore} {history : History}
    (inv : StoreInvariant start history) (op : LedgerOp)
    : StoreInvariant start (history.call op) := by
  obtain ⟨events, change, logged⟩ := history.call_change op
  have kept := inv.change change
  rwa [← logged] at kept

/-- The invariant holds after any calls, by induction on the run. -/
theorem run_invariant {start : BalanceStore} (legacy : start.Legacy) (ops : List LedgerOp)
    : StoreInvariant start (History.run start ops) := by
  refine (History.run_system start ops).rule (fun _ history => StoreInvariant start history)
    legacy.invariant ?_
  intro earlier history op next _ inv step
  exact step ▸ inv.call op

-----------------------------------------------------------------------------------------
-- The contract of the store
-----------------------------------------------------------------------------------------

/-- What holds after any calls on a legacy store, and of any further call. -/
structure StoreContract (start : BalanceStore) (ops : List LedgerOp) : Prop where
  balances : ∀ row ∈ (History.run start ops).db.tokens.rows, 0 ≤ row.balance
  reservations : ∀ hold ∈ (History.run start ops).db.holds.rows, 0 ≤ hold.micros
  conserved
    : ∀ hash,
        tokenBalance (History.run start ops).db.tokens hash
            + (History.run start ops).db.reservedFor hash + (History.run start ops).chargedTo hash
          = start.funds hash + (History.run start ops).creditedTo hash
  disjoint
    : ∀ hold ∈ (History.run start ops).db.holds.rows,
        ∀ settled ∈ (History.run start ops).db.settledHolds.rows, hold.holdId ≠ settled.holdId
  owned
    : ∀ sessionId, (History.run start ops).db.currentSession = some sessionId
        → (∀ hold ∈ (History.run start ops).db.holds.rows, hold.sessionId = some sessionId)
          ∧ ∀ settled ∈ (History.run start ops).db.settledHolds.rows,
              settled.sessionId = sessionId
  neverRetired
    : ∀ sessionId, (History.run start ops).db.currentSession = some sessionId
        → ∀ retired ∈ (History.run start ops).db.retiredLedgerSessions.rows,
            retired.sessionId ≠ sessionId
  neverRevisited
    : ∀ earlier later rest sessionId, ops = earlier ++ later ++ rest
        → (History.run start earlier).db.currentSession = some sessionId
        → (History.run start (earlier ++ later)).db.currentSession ≠ some sessionId
        → (History.run start ops).db.currentSession ≠ some sessionId
  completes
    : ∀ op, ∃ result db', (History.run start ops).db.apply op = .ok (result, db')
        ∧ (result.commits = false → db' = (History.run start ops).db)

/-- The log only grows, by induction on the later calls. -/
theorem History.log_prefix (history : History) (ops : List LedgerOp)
    : history.log <+: (ops.foldl History.call history).log := by
  induction ops generalizing history with
  | nil => exact List.prefix_rfl
  | cons op rest ih =>
      obtain ⟨events, _, logged⟩ := history.call_change op
      exact (logged ▸ List.prefix_append history.log events).trans (ih (history.call op))

/-- A call after any calls on a legacy store completes. -/
theorem StoreInvariant.apply_completes {start : BalanceStore} {history : History}
    (inv : StoreInvariant start history) (op : LedgerOp)
    : ∃ result db', history.db.apply op = .ok (result, db') := by
  cases op with
  | credit hash micros => exact ⟨_, _, rfl⟩
  | creditOnce hash micros orderId atMs => exact ⟨_, _, rfl⟩
  | beginSession sessionId atMs =>
      obtain ⟨result, db', taken⟩ := beginSession_completes inv.fenced.live sessionId atMs
      exact ⟨.session result, db', by simp [BalanceStore.apply, taken, Except.map]⟩
  | openSessionHold sessionId hash micros holdId atMs =>
      obtain ⟨result, db', taken, _⟩ :=
        openSessionHold_step history.db sessionId hash micros holdId atMs
      exact ⟨.hold result, db', by simp [BalanceStore.apply, taken, Except.map]⟩
  | settleSessionHold sessionId holdId chargedMicros atMs =>
      obtain ⟨result, db', taken, _⟩ :=
        settleSessionHold_step history.db sessionId holdId chargedMicros atMs
      exact ⟨.settlement result, db', by simp [BalanceStore.apply, taken, Except.map]⟩
  | getSessionBalance sessionId hash => exact ⟨_, _, rfl⟩

/-- A session that was current and was left never becomes current again: it stays in the
duplicate-free list of sessions, before its end.
-/
theorem run_neverRevisited {start : BalanceStore} (legacy : start.Legacy)
    (earlier later rest : List LedgerOp) {sessionId : String}
    (current : (History.run start earlier).db.currentSession = some sessionId)
    (left : (History.run start (earlier ++ later)).db.currentSession ≠ some sessionId)
    : (History.run start (earlier ++ later ++ rest)).db.currentSession ≠ some sessionId := by
  have grown (first second : List LedgerOp)
      : (History.run start first).sessions <+: (History.run start (first ++ second)).sessions := by
    rw [History.run_append]
    exact (History.log_prefix _ second).filterMap _
  have visited : sessionId ∈ (History.run start earlier).sessions := by
    rw [(run_invariant legacy earlier).fenced.latest] at current
    exact List.mem_of_getLast? current
  rw [(run_invariant legacy (earlier ++ later)).fenced.latest] at left
  rw [(run_invariant legacy (earlier ++ later ++ rest)).fenced.latest]
  exact Log.getLast?_ne_of_nodup (grown _ rest) (run_invariant legacy _).fenced.once
    ((grown earlier later).subset visited) left

/-- Any calls on a legacy store, with any arguments, meet the contract. -/
theorem store_contract {start : BalanceStore} (legacy : start.Legacy) (ops : List LedgerOp)
    : StoreContract start ops := by
  have inv := run_invariant legacy ops
  exact {
    balances := by
      intro row member
      rw [← balance_of_mem member]
      exact inv.balances row.hash
    reservations := inv.reservations
    conserved := inv.conserved
    disjoint := by
      intro hold open' settled closed same
      have absent := inv.disjoint hold.holdId (by simp [Table.get?_of_mem open'])
      rw [same, Table.get?_of_mem closed] at absent
      cases absent
    owned := by
      intro sessionId current
      refine ⟨fun hold member => (inv.ownedHolds hold member).trans current, ?_⟩
      intro settled member
      have own := inv.ownedTombstones settled member
      rw [current] at own
      exact (Option.some.inj own).symm
    neverRetired := by
      intro sessionId current
      exact Table.get?_eq_none_iff.mp (inv.fenced.live sessionId current)
    neverRevisited := by
      rintro earlier later rest sessionId rfl
      exact run_neverRevisited legacy earlier later rest
    completes := by
      intro op
      obtain ⟨result, db', taken⟩ := inv.apply_completes op
      exact ⟨result, db', taken, (apply_change taken).2⟩
  }

end Nullsink.Ledger
