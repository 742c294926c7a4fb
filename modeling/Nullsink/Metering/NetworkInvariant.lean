import Nullsink.Metering.Network

/-! The invariant that links the parties: whatever a client has returned, or may still read from an
answer in flight, is confirmed by the ledger's log.
-/

namespace Nullsink.Metering

open Ledger Ecma Relational Transition

-----------------------------------------------------------------------------------------
-- The invariant
-----------------------------------------------------------------------------------------

structure NetworkInvariant (start : BalanceStore) (n : Network) : Prop where
  store : StoreInvariant start n.history
  holds : HoldInvariant n.history
  reached : n.history.Reached start
  asked : ∀ answer ∈ n.answers, ∃ call, n.calls[answer.call]? = some call
  answers
    : ∀ answer ∈ n.answers, ∀ call value, n.calls[answer.call]? = some call
        → answered call.op answer.response = .done (.returned value)
        → Confirms n.history call.sessionId call.op value
  returns
    : ∀ (id : ℕ) call value, n.calls[id]? = some call → call.state = .done (.returned value)
        → Confirms n.history call.sessionId call.op value
  unrejected
    : ∀ (id : ℕ) call, n.calls[id]? = some call → call.op.mutation → ¬call.state.Rejects

/-- A ledger no session has touched, and no client yet. -/
theorem NetworkInvariant.quiet {db : BalanceStore} (legacy : db.Legacy)
    : NetworkInvariant db (.quiet db) where
  store := legacy.invariant
  holds := legacy.holdInvariant
  reached := .start db
  asked := by simp [Network.quiet]
  answers := by simp [Network.quiet]
  returns := by simp [Network.quiet]
  unrejected := by simp [Network.quiet]

/-- A further call waits at a fresh id, which no answer names. -/
theorem NetworkInvariant.issued {start : BalanceStore} {n : Network}
    (inv : NetworkInvariant start n) (sessionId : String) (op : ClientOp) (bytes : ℕ)
    : NetworkInvariant start
        { n with calls := n.calls ++ [⟨sessionId, op, bytes, 1, .awaiting⟩] } := by
  have kept {id : ℕ} {call : Call} (found : n.calls[id]? = some call)
      : (n.calls ++ [⟨sessionId, op, bytes, 1, .awaiting⟩])[id]? = some call := by
    have inside := (List.getElem?_eq_some_iff.mp found).1
    rw [List.getElem?_append_left inside]
    exact found
  exact {
    store := inv.store
    holds := inv.holds
    reached := inv.reached
    asked := by
      intro answer member
      obtain ⟨call, found⟩ := inv.asked answer member
      exact ⟨call, kept found⟩
    answers := by
      intro answer member call value found
      obtain ⟨known, stored⟩ := inv.asked answer member
      have same : known = call := Option.some.inj ((kept stored).symm.trans found)
      subst same
      exact inv.answers answer member known value stored
    returns := by
      intro id call value found done
      rcases Network.lookup_issue found with ⟨_, rfl⟩ | old
      · cases done
      · exact inv.returns id call value old done
    unrejected := by
      intro id call found mutation
      rcases Network.lookup_issue found with ⟨_, rfl⟩ | old
      · exact not_false
      · exact inv.unrejected id call old mutation
  }

/-- A delivered copy: the log grows, and its answer is confirmed by the log it leaves. -/
theorem NetworkInvariant.delivered {start : BalanceStore} {n : Network}
    (inv : NetworkInvariant start n) {id : ℕ} {call : Call} (attempt : ℕ) (nowMs : ℤ)
    (hookThrows : Bool) (found : n.calls[id]? = some call)
    : NetworkInvariant start
        {
          n with
          history := n.history.handle nowMs call.request
          answers := n.answers ++
            [⟨id, attempt, (createLedgerHandler n.history.db nowMs hookThrows call.request).1⟩]
        } := by
  have exchanged := exchange inv.store call.sessionId call.op call.bytes nowMs hookThrows
  have grown : n.history.log ⊆ (n.history.handle nowMs call.request).log := exchanged.grown
  exact {
    store := inv.store.handle nowMs call.request
    holds := HoldInvariant.handle inv.store inv.holds nowMs call.request
    reached := inv.reached.handle nowMs call.request
    asked := by
      intro answer member
      rcases List.mem_append.mp member with earlier | now
      · exact inv.asked answer earlier
      · cases List.mem_singleton.mp now
        exact ⟨call, found⟩
    answers := by
      intro answer member other value stored reads
      rcases List.mem_append.mp member with earlier | now
      · exact (inv.answers answer earlier other value stored reads).mono grown
      · cases List.mem_singleton.mp now
        have same : call = other := Option.some.inj (found.symm.trans stored)
        subst same
        exact exchanged.confirms inv.store inv.holds reads
    returns := by
      intro other call value stored done
      exact (inv.returns other call value stored done).mono grown
    unrejected := inv.unrejected
  }

/-- A call whose state changes to one that returned nothing unconfirmed, and rejected no mutation.
-/
theorem NetworkInvariant.moved {start : BalanceStore} {n : Network}
    (inv : NetworkInvariant start n) {id : ℕ} {call : Call} (state : CallState) (attempts : ℕ)
    (found : n.calls[id]? = some call)
    (confirmed
      : ∀ value, state = .done (.returned value)
          → Confirms n.history call.sessionId call.op value)
    (mutates : call.op.mutation → ¬state.Rejects)
    : NetworkInvariant start { n with calls := n.calls.set id { call with attempts, state } } := by
  have inside := (List.getElem?_eq_some_iff.mp found).1
  exact {
    store := inv.store
    holds := inv.holds
    reached := inv.reached
    asked := by
      intro answer member
      obtain ⟨known, stored⟩ := inv.asked answer member
      by_cases same : id = answer.call
      · exact ⟨{ call with attempts, state }, by rw [← same, List.getElem?_set_self inside]⟩
      · exact ⟨known, by rwa [List.getElem?_set_ne same]⟩
    answers := by
      intro answer member other value stored reads
      rcases Network.lookup_set found stored with ⟨same, rfl⟩ | ⟨_, old⟩
      · exact inv.answers answer member call value (same ▸ found) reads
      · exact inv.answers answer member other value old reads
    returns := by
      intro other found' value stored done
      rcases Network.lookup_set found stored with ⟨_, rfl⟩ | ⟨_, old⟩
      · exact confirmed value done
      · exact inv.returns other found' value old done
    unrejected := by
      intro other found' stored mutation
      rcases Network.lookup_set found stored with ⟨_, rfl⟩ | ⟨_, old⟩
      · exact mutates mutation
      · exact inv.unrejected other found' old mutation
  }

/-- A credit applied beside the protocol. -/
theorem NetworkInvariant.credited {start : BalanceStore} {n : Network}
    (inv : NetworkInvariant start n) (op : LedgerOp)
    : NetworkInvariant start { n with history := n.history.call op } where
  store := inv.store.call op
  holds := HoldInvariant.call inv.store inv.holds op
  reached := inv.reached.call op
  asked := inv.asked
  answers := fun answer member call value found reads =>
    (inv.answers answer member call value found reads).mono (n.history.call_grown op)
  returns := fun id call value found done =>
    (inv.returns id call value found done).mono (n.history.call_grown op)
  unrejected := inv.unrejected

/-- Every action keeps the invariant, by its effect. -/
theorem NetworkInvariant.act {start : BalanceStore} {n n' : Network}
    (inv : NetworkInvariant start n) {action : NetworkAction} (acted : n.act action = some n')
    : NetworkInvariant start n' := by
  cases Network.act_effect acted with
  | issued sessionId op bytes => exact inv.issued sessionId op bytes
  | delivered nowMs hookThrows found sent => exact inv.delivered _ nowMs hookThrows found
  | received given found awaited own =>
      refine inv.moved _ _ found ?_ fun mutation => (mutation_ne_rejects mutation).1 _
      intro value done
      exact inv.answers _ (List.mem_of_getElem? given) _ value found done
  | moved state attempts found more unread mutates alone =>
      exact inv.moved state attempts found (fun value done => (unread value done).elim) mutates
  | credited hash micros orderId nowMs => exact inv.credited _

-----------------------------------------------------------------------------------------
-- Networks only grow
-----------------------------------------------------------------------------------------

namespace Network

/-- A call has been issued, of this session and for this operation. -/
def Issued (n : Network) (call : ℕ) (sessionId : String) (op : ClientOp) : Prop :=
  ∃ found, n.calls[call]? = some found ∧ found.sessionId = sessionId ∧ found.op = op

/-- A later network: its log and its answers have grown, and every call still is what it was issued
as.
-/
structure Extends (earlier later : Network) : Prop where
  log : earlier.history.log ⊆ later.history.log
  answers : earlier.answers <+: later.answers
  calls : ∀ {call sessionId op}, earlier.Issued call sessionId op → later.Issued call sessionId op

theorem Extends.refl (n : Network) : n.Extends n :=
  ⟨List.Subset.refl _, List.prefix_refl _, id⟩

theorem Extends.trans {n middle final : Network} (first : n.Extends middle)
    (second : middle.Extends final)
    : n.Extends final where
  log := List.Subset.trans first.log second.log
  answers := first.answers.trans second.answers
  calls := fun issued => second.calls (first.calls issued)

theorem Extends.opened {n n' : Network} (grown : n.Extends n') {holdId : String}
    {session : Option String} (opened : (holdId, session) ∈ n.history.openedHolds)
    : (holdId, session) ∈ n'.history.openedHolds := by
  obtain ⟨hold, logged, rfl, rfl⟩ := History.exists_of_mem_openedHolds opened
  exact History.mem_openedHolds (grown.log logged)

theorem Extends.issued (n : Network) (sessionId : String) (op : ClientOp) (bytes : ℕ)
    : n.Extends { n with calls := n.calls ++ [⟨sessionId, op, bytes, 1, .awaiting⟩] } := by
  refine ⟨List.Subset.refl _, List.prefix_refl _, ?_⟩
  rintro call _ _ ⟨found, stored, rfl, rfl⟩
  have inside := (List.getElem?_eq_some_iff.mp stored).1
  exact ⟨found, by rw [List.getElem?_append_left inside]; exact stored, rfl, rfl⟩

/-- A call that moves on is still issued as it was. -/
theorem Extends.set {n : Network} {id : ℕ} {replaced : Call} (state : CallState) (attempts : ℕ)
    (found : n.calls[id]? = some replaced)
    : n.Extends { n with calls := n.calls.set id { replaced with attempts, state } } := by
  refine ⟨List.Subset.refl _, List.prefix_refl _, ?_⟩
  rintro call _ _ ⟨own, stored, rfl, rfl⟩
  by_cases same : id = call
  · subst same
    cases stored.symm.trans found
    exact ⟨_, List.getElem?_set_self (List.getElem?_eq_some_iff.mp found).1, rfl, rfl⟩
  · exact ⟨own, by rw [List.getElem?_set_ne same]; exact stored, rfl, rfl⟩

/-- Every action leads to a later network. -/
theorem act_extends {start : BalanceStore} {n n' : Network} {action : NetworkAction}
    (inv : NetworkInvariant start n) (acted : n.act action = some n')
    : n.Extends n' := by
  cases act_effect acted with
  | issued sessionId op bytes => exact .issued n sessionId op bytes
  | @delivered _ attempt call nowMs hookThrows found sent =>
      exact ⟨(exchange inv.store call.sessionId call.op call.bytes nowMs hookThrows).grown,
        List.prefix_append _ _, id⟩
  | received given found awaited own => exact .set _ _ found
  | moved state attempts found more unread mutates alone => exact .set _ _ found
  | credited hash micros orderId nowMs =>
      exact ⟨n.history.call_grown _, List.prefix_refl _, id⟩

end Network

end Nullsink.Metering
