import Nullsink.Ledger.StoreInvariant

/-! What the log says of holds: each is opened once and settled at most once, and one that was
opened by the current session is open or has its tombstone.
-/

namespace Nullsink.Ledger

open Relational Ecma Transition

/-- The hold id and session an event opens. -/
def LedgerEvent.opened? : LedgerEvent → Option (String × Option String)
  | .opened hold => some (hold.holdId, hold.sessionId)
  | _ => none

/-- The hold id and session an event settles. -/
def LedgerEvent.settled? : LedgerEvent → Option (String × Option String)
  | .settled hold _ => some (hold.holdId, hold.sessionId)
  | _ => none

namespace History

def openedHolds (history : History) : List (String × Option String) :=
  history.log.filterMap LedgerEvent.opened?

def settledHolds (history : History) : List (String × Option String) :=
  history.log.filterMap LedgerEvent.settled?

theorem mem_openedHolds {history : History} {hold : HoldRow}
    (logged : .opened hold ∈ history.log)
    : (hold.holdId, hold.sessionId) ∈ history.openedHolds :=
  List.mem_filterMap.mpr ⟨_, logged, rfl⟩

theorem exists_of_mem_openedHolds {history : History} {holdId : String} {session : Option String}
    (member : (holdId, session) ∈ history.openedHolds)
    : ∃ hold, .opened hold ∈ history.log ∧ hold.holdId = holdId ∧ hold.sessionId = session := by
  obtain ⟨event, logged, found⟩ := List.mem_filterMap.mp member
  cases event <;> simp only [LedgerEvent.opened?, Option.some.injEq, Prod.mk.injEq,
    reduceCtorEq] at found
  exact ⟨_, logged, found⟩

theorem exists_of_mem_settledHolds {history : History} {holdId : String}
    {session : Option String} (member : (holdId, session) ∈ history.settledHolds)
    : ∃ hold charge, .settled hold charge ∈ history.log ∧ hold.holdId = holdId
        ∧ hold.sessionId = session := by
  obtain ⟨event, logged, found⟩ := List.mem_filterMap.mp member
  cases event <;> simp only [LedgerEvent.settled?, Option.some.injEq, Prod.mk.injEq,
    reduceCtorEq] at found
  exact ⟨_, _, logged, found⟩

theorem openedHolds_snoc {history : History} {db' : BalanceStore} {event : LedgerEvent}
    (noOpen : event.opened? = none)
    : (History.mk db' (history.log ++ [event])).openedHolds = history.openedHolds := by
  simp [openedHolds, noOpen]

theorem settledHolds_snoc {history : History} {db' : BalanceStore} {event : LedgerEvent}
    (noSettle : event.settled? = none)
    : (History.mk db' (history.log ++ [event])).settledHolds = history.settledHolds := by
  simp [settledHolds, noSettle]

theorem openedHolds_opened {history : History} {db' : BalanceStore} (hold : HoldRow)
    : (History.mk db' (history.log ++ [.opened hold])).openedHolds
      = history.openedHolds.concat (hold.holdId, hold.sessionId) := by
  simp [openedHolds, LedgerEvent.opened?]

theorem settledHolds_settled {history : History} {db' : BalanceStore} (hold : HoldRow) (charge : ℤ)
    : (History.mk db' (history.log ++ [.settled hold charge])).settledHolds
      = history.settledHolds.concat (hold.holdId, hold.sessionId) := by
  simp [settledHolds, LedgerEvent.settled?]

end History

/-- What every call keeps of the holds in the log. -/
structure HoldInvariant (history : History) : Prop where
  openedOnce : history.openedHolds.Nodup
  settledOnce : history.settledHolds.Nodup
  session
    : ∀ hold, .opened hold ∈ history.log
        → ∃ sessionId ∈ history.sessions, hold.sessionId = some sessionId
  journaled
    : ∀ hold ∈ history.db.holds.rows, hold.sessionId ≠ none → .opened hold ∈ history.log
  tombstoned
    : ∀ row ∈ history.db.settledHolds.rows,
        ∃ hold, .settled hold row.chargedMicros ∈ history.log
          ∧ hold.holdId = row.holdId ∧ hold.sessionId = some row.sessionId
  openFate
    : ∀ hold, .opened hold ∈ history.log → hold.sessionId = history.db.currentSession
        → history.db.holds.get? hold.holdId = some hold
          ∨ ∃ row, history.db.settledHolds.get? hold.holdId = some row
              ∧ .settled hold row.chargedMicros ∈ history.log
  settleFate
    : ∀ hold charge, .settled hold charge ∈ history.log
        → .opened hold ∈ history.log
          ∧ (hold.sessionId = history.db.currentSession
              → ∃ row, history.db.settledHolds.get? hold.holdId = some row
                  ∧ row.chargedMicros = charge)

/-- A store without a session and an empty log. -/
theorem BalanceStore.Legacy.holdInvariant {start : BalanceStore} (legacy : start.Legacy)
    : HoldInvariant ⟨start, []⟩ where
  openedOnce := by simp [History.openedHolds]
  settledOnce := by simp [History.settledHolds]
  session := by simp
  journaled := fun hold member owned => (owned (legacy.holds hold member).2).elim
  tombstoned := by simp [legacy.noTombstone]
  openFate := by simp
  settleFate := by simp

/-- An event about no hold, under an unchanged session. -/
theorem HoldInvariant.credited {history : History} (inv : HoldInvariant history)
    {db' : BalanceStore} {event : LedgerEvent} (noStart : event.started? = none)
    (noOpen : event.opened? = none) (noSettle : event.settled? = none)
    (holds : db'.holds = history.db.holds)
    (settledHolds : db'.settledHolds = history.db.settledHolds)
    (session : db'.currentSession = history.db.currentSession)
    : HoldInvariant ⟨db', history.log ++ [event]⟩ where
  openedOnce := by
    rw [History.openedHolds_snoc noOpen]
    exact inv.openedOnce
  settledOnce := by
    rw [History.settledHolds_snoc noSettle]
    exact inv.settledOnce
  session := by
    intro hold member
    rcases List.mem_append.mp member with earlier | now
    · rw [History.sessions_snoc noStart]
      exact inv.session hold earlier
    · cases List.mem_singleton.mp now
      cases noOpen
  journaled := by
    intro hold member owned
    rw [holds] at member
    exact List.mem_append_left _ (inv.journaled hold member owned)
  tombstoned := by
    intro row member
    rw [settledHolds] at member
    obtain ⟨hold, logged, same⟩ := inv.tombstoned row member
    exact ⟨hold, List.mem_append_left _ logged, same⟩
  openFate := by
    intro hold member current
    rw [session] at current
    rw [holds, settledHolds]
    rcases List.mem_append.mp member with earlier | now
    · rcases inv.openFate hold earlier current with live | ⟨row, found, logged⟩
      · exact Or.inl live
      · exact Or.inr ⟨row, found, List.mem_append_left _ logged⟩
    · cases List.mem_singleton.mp now
      cases noOpen
  settleFate := by
    intro hold charge member
    rw [session, settledHolds]
    rcases List.mem_append.mp member with earlier | now
    · exact (inv.settleFate hold charge earlier).imp_left (List.mem_append_left _)
    · cases List.mem_singleton.mp now
      cases noSettle

/-- A session change: no hold of the log belongs to the new session. -/
theorem HoldInvariant.started {history : History} (inv : HoldInvariant history)
    {db' : BalanceStore} {sessionId : String} (fresh : sessionId ∉ history.sessions)
    (holds : db'.holds = .empty) (settledHolds : db'.settledHolds = .empty)
    (session : db'.currentSession = some sessionId)
    : HoldInvariant ⟨db', history.log ++ [.started sessionId history.db.holds.rows]⟩ := by
  have foreign {hold : HoldRow} (logged : .opened hold ∈ history.log)
      : hold.sessionId ≠ some sessionId := by
    obtain ⟨owner, known, own⟩ := inv.session hold logged
    rw [own]
    rintro ⟨rfl⟩
    exact fresh known
  exact {
    openedOnce := by
      rw [History.openedHolds_snoc rfl]
      exact inv.openedOnce
    settledOnce := by
      rw [History.settledHolds_snoc rfl]
      exact inv.settledOnce
    session := by
      intro hold member
      simp only [List.mem_append, List.mem_singleton, reduceCtorEq, or_false] at member
      rw [History.sessions_start]
      obtain ⟨owner, known, own⟩ := inv.session hold member
      exact ⟨owner, List.mem_append_left _ known, own⟩
    journaled := by simp [holds]
    tombstoned := by simp [settledHolds]
    openFate := by
      intro hold member current
      simp only [List.mem_append, List.mem_singleton, reduceCtorEq, or_false] at member
      exact (foreign member (current.trans session)).elim
    settleFate := by
      intro hold charge member
      simp only [List.mem_append, List.mem_singleton, reduceCtorEq, or_false] at member
      have opened := (inv.settleFate hold charge member).1
      refine ⟨List.mem_append_left _ opened, fun current => ?_⟩
      exact (foreign opened (current.trans session)).elim
  }

/-- A hold opened by the current session: had this session opened its id before, the hold
would be open or tombstoned.
-/
theorem HoldInvariant.opened {start : BalanceStore} {history : History}
    (store : StoreInvariant start history) (inv : HoldInvariant history) {hold : HoldRow}
    {sessionId : String} {tokens} (own : hold.sessionId = some sessionId)
    (current : history.db.currentSession = some sessionId)
    (closed : history.db.holds.get? hold.holdId = none)
    (unsettled : history.db.settledHolds.get? hold.holdId = none)
    : HoldInvariant
        ⟨
          { history.db with tokens, holds := history.db.holds.append hold closed },
          history.log ++ [.opened hold]
        ⟩ := by
  have unopened : (hold.holdId, hold.sessionId) ∉ history.openedHolds := by
    intro member
    obtain ⟨earlier, logged, sameId, sameSession⟩ := History.exists_of_mem_openedHolds member
    have live := inv.openFate earlier logged (by rw [sameSession, own, current])
    simp [sameId, closed, unsettled] at live
  have known : sessionId ∈ history.sessions := by
    have latest := store.fenced.latest
    rw [current] at latest
    exact List.mem_of_getLast? latest.symm
  exact {
    openedOnce := by
      rw [History.openedHolds_opened]
      exact inv.openedOnce.concat unopened
    settledOnce := by
      rw [History.settledHolds_snoc rfl]
      exact inv.settledOnce
    session := by
      intro other member
      rw [History.sessions_snoc rfl]
      rcases List.mem_append.mp member with earlier | now
      · exact inv.session other earlier
      · cases List.mem_singleton.mp now
        exact ⟨sessionId, known, own⟩
    journaled := by
      intro other member owned
      rcases List.mem_append.mp member with earlier | now
      · exact List.mem_append_left _ (inv.journaled other earlier owned)
      · exact List.mem_append_right _ (by simp [List.mem_singleton.mp now])
    tombstoned := by
      intro row member
      obtain ⟨other, logged, same⟩ := inv.tombstoned row member
      exact ⟨other, List.mem_append_left _ logged, same⟩
    openFate := by
      intro other member mine
      simp only [Table.get?_append]
      rcases List.mem_append.mp member with earlier | now
      · rcases inv.openFate other earlier mine with live | ⟨row, found, logged⟩
        · have different : hold.holdId ≠ other.holdId := by
            intro same
            rw [same, live] at closed
            cases closed
          exact Or.inl (by simpa [different] using live)
        · exact Or.inr ⟨row, found, List.mem_append_left _ logged⟩
      · cases List.mem_singleton.mp now
        exact Or.inl (by simp)
    settleFate := by
      intro other charge member
      simp only [List.mem_append, List.mem_singleton, reduceCtorEq, or_false] at member
      exact (inv.settleFate other charge member).imp_left (List.mem_append_left _)
  }

/-- A settlement by the current session: had it settled this id before, its tombstone would
still be there.
-/
theorem HoldInvariant.settled {history : History} (inv : HoldInvariant history)
    {row : SettledHoldRow} {hold : HoldRow} {tokens}
    (current : history.db.currentSession = some row.sessionId)
    (own : hold.sessionId = some row.sessionId)
    (found : history.db.holds.get? row.holdId = some hold)
    (unsettled : history.db.settledHolds.get? row.holdId = none)
    : HoldInvariant
        ⟨
          {
            history.db with
            holds := history.db.holds.delete row.holdId
            settledHolds := history.db.settledHolds.append row unsettled
            tokens
          },
          history.log ++ [.settled hold row.chargedMicros]
        ⟩ := by
  have sameId : hold.holdId = row.holdId := Table.key_of_get? found
  have unlogged : (hold.holdId, hold.sessionId) ∉ history.settledHolds := by
    intro member
    obtain ⟨earlier, charge, logged, sameHold, sameSession⟩ :=
      History.exists_of_mem_settledHolds member
    obtain ⟨tombstone, stored, _⟩ := (inv.settleFate earlier charge logged).2
      (by rw [sameSession, own, current])
    rw [sameHold, sameId, unsettled] at stored
    cases stored
  have opened : .opened hold ∈ history.log :=
    inv.journaled hold (Table.mem_of_get? found) (by simp [own])
  exact {
    openedOnce := by
      rw [History.openedHolds_snoc rfl]
      exact inv.openedOnce
    settledOnce := by
      rw [History.settledHolds_settled]
      exact inv.settledOnce.concat unlogged
    session := by
      intro other member
      simp only [List.mem_append, List.mem_singleton, reduceCtorEq, or_false] at member
      rw [History.sessions_snoc rfl]
      exact inv.session other member
    journaled := by
      intro other member owned
      exact List.mem_append_left _ (inv.journaled other (List.mem_filter.mp member).1 owned)
    tombstoned := by
      intro other member
      rcases List.mem_append.mp member with earlier | now
      · obtain ⟨known, logged, same⟩ := inv.tombstoned other earlier
        exact ⟨known, List.mem_append_left _ logged, same⟩
      · cases List.mem_singleton.mp now
        exact ⟨hold, by simp, sameId, own⟩
    openFate := by
      intro other member mine
      simp only [List.mem_append, List.mem_singleton, reduceCtorEq, or_false] at member
      simp only [Table.get?_delete, Table.get?_append]
      by_cases same : row.holdId = other.holdId
      · right
        rcases inv.openFate other member mine with live | ⟨tombstone, stored, _⟩
        · rw [← same, found] at live
          cases live
          exact ⟨row, by simp [same], by simp⟩
        · rw [← same, unsettled] at stored
          cases stored
      · rcases inv.openFate other member mine with live | ⟨tombstone, stored, logged⟩
        · exact Or.inl (by simpa [Ne.symm same] using live)
        · exact Or.inr ⟨tombstone, by simpa [same] using stored, List.mem_append_left _ logged⟩
    settleFate := by
      intro other charge member
      simp only [Table.get?_append]
      rcases List.mem_append.mp member with earlier | now
      · obtain ⟨wasOpen, fate⟩ := inv.settleFate other charge earlier
        refine ⟨List.mem_append_left _ wasOpen, fun mine => ?_⟩
        obtain ⟨tombstone, stored, charged⟩ := fate mine
        have different : row.holdId ≠ other.holdId := by
          intro same
          rw [same, stored] at unsettled
          cases unsettled
        exact ⟨tombstone, by simpa [different] using stored, charged⟩
      · cases List.mem_singleton.mp now
        exact ⟨List.mem_append_left _ opened, fun _ => ⟨row, by simp [sameId], rfl⟩⟩
  }

/-- Every change keeps the invariant, by its cases. -/
theorem HoldInvariant.change {start : BalanceStore} {history : History}
    (store : StoreInvariant start history) (inv : HoldInvariant history) {events db'}
    (change : Change history.db events db')
    : HoldInvariant ⟨db', history.log ++ events⟩ := by
  cases change with
  | unchanged => simpa using inv
  | credited hash micros => exact inv.credited rfl rfl rfl rfl rfl rfl
  | creditedOnce hash micros orderId atMs fresh => exact inv.credited rfl rfl rfl rfl rfl rfl
  | @started sessionId _ _ other fresh _ =>
      refine inv.started ?_ rfl rfl rfl
      intro member
      rcases store.fenced.former sessionId member with current | already
      · exact other current
      · exact already fresh
  | opened own current _ closed unsettled _ _ _ =>
      exact HoldInvariant.opened store inv own current closed unsettled
  | settled row current own found unsettled _ _ _ => exact inv.settled current own found unsettled

theorem HoldInvariant.call {start : BalanceStore} {history : History}
    (store : StoreInvariant start history) (inv : HoldInvariant history) (op : LedgerOp)
    : HoldInvariant (history.call op) := by
  obtain ⟨events, change, logged⟩ := history.call_change op
  have kept := HoldInvariant.change store inv change
  rwa [← logged] at kept

/-- A session that was current and is not has been replaced by another. -/
theorem StoreInvariant.superseded {start : BalanceStore} {history : History}
    (inv : StoreInvariant start history) {sessionId : String}
    (known : sessionId ∈ history.sessions)
    (left : history.db.currentSession ≠ some sessionId)
    : ∃ later, later ≠ sessionId ∧ history.db.currentSession = some later := by
  cases current : history.db.currentSession with
  | none =>
      rw [inv.fenced.latest, List.getLast?_eq_none_iff] at current
      simp [current] at known
  | some later =>
      refine ⟨later, ?_, rfl⟩
      rintro rfl
      exact left current

/-- What the log moved into the balance of a hash. -/
def History.moved (history : History) (hash : String) : ℤ :=
  (history.log.map (LedgerEvent.movement hash)).sum

/-- A change moves exactly what its events say. -/
theorem Change.movement {db db' : BalanceStore} {events} (change : Change db events db')
    (hash : String)
    : tokenBalance db'.tokens hash
      = tokenBalance db.tokens hash + (events.map (LedgerEvent.movement hash)).sum := by
  cases change with
  | unchanged => simp
  | credited payee micros => simp [BalanceStore.credit, LedgerEvent.movement]
  | creditedOnce payee micros orderId atMs fresh => simp [LedgerEvent.movement]
  | started other fresh fenced => simp [tokenBalance_refundHolds, LedgerEvent.movement]
  | opened own current nonneg closed unsettled known covered debited =>
      simp [debited, LedgerEvent.movement, HoldRow.reserved, sub_eq_add_neg]
  | settled row current own found unsettled nonneg within refunded =>
      simp [refunded, LedgerEvent.movement]

/-- The balances of a history are what its log moved since the start, by induction on the calls. -/
theorem History.Reached.moved {start : BalanceStore} {history : History}
    (reached : history.Reached start) (hash : String)
    : tokenBalance history.db.tokens hash
      = tokenBalance start.tokens hash + history.moved hash := by
  obtain ⟨ops, rfl⟩ := reached
  refine (History.run_system start ops).rule
    (fun _ history => tokenBalance history.db.tokens hash
      = tokenBalance start.tokens hash + history.moved hash)
    (by simp [History.moved]) ?_
  rintro _ history op _ _ before rfl
  obtain ⟨events, change, logged⟩ := history.call_change op
  rw [change.movement, before, History.moved, History.moved, logged, List.map_append,
    List.sum_append, add_assoc]

end Nullsink.Ledger
