import Mathlib.Tactic.IntervalCases
import Nullsink.Metering.ExactlyOnce

/-! Refused holds. A refusal leaves no trace in the ledger, so a copy of the refused request that is
still in flight is judged anew when it arrives.
-/

namespace Nullsink.Metering

open Ledger Ecma Relational Transition

/-- The hold id a call opens. -/
def Call.holdId? (call : Call) : Option String :=
  match call.op with
  | .openHold _ _ holdId => some holdId
  | _ => none

/-- Whether an action uses a hold id for a second call. -/
def NetworkAction.FreshHold (n : Network) : NetworkAction → Prop
  | .issue _ (.openHold _ _ holdId) _ => ∀ call ∈ n.calls, call.holdId? ≠ some holdId
  | _ => True

instance (n : Network) (action : NetworkAction) : Decidable (action.FreshHold n) := by
  unfold NetworkAction.FreshHold
  split <;> infer_instance

/-- Any number of clients over any network, each hold id opened by one call. -/
def refusalSystem : System Network NetworkAction where
  initial n := ∃ db : BalanceStore, db.Legacy ∧ n = .quiet db
  step n action n' := n.act action = some n' ∧ action.FreshHold n

/-- Actions in sequence, as far as each opens a fresh hold id. -/
def runFresh? (n : Network) (actions : List NetworkAction) : Option Network :=
  actions.foldlM (fun n action => if action.FreshHold n then n.act action else none) n

theorem refusal_run {n n' : Network} {actions : List NetworkAction}
    (ran : runFresh? n actions = some n')
    : refusalSystem.Run n actions n' := by
  refine System.run_of_foldlM ran ?_
  intro state action next _ taken
  split at taken
  · rename_i fresh
    exact ⟨taken, fresh⟩
  · cases taken

theorem runFresh?_of_run {n n' : Network} {actions : List NetworkAction}
    (run : refusalSystem.Run n actions n')
    : runFresh? n actions = some n' := by
  induction run with
  | nil => rfl
  | snoc _ last ih =>
      rw [runFresh?, List.foldlM_append, Option.bind_eq_bind, ← runFresh?, ih]
      simp [last.1, last.2]

/-- The client was told that its hold is refused, and no copy of the request has opened it. -/
def StaysRefused (n : Network) : Prop :=
  ∀ (id : ℕ) call holdId, n.calls[id]? = some call → call.holdId? = some holdId
    → call.state = .done (.returned (.hold false))
    → (holdId, some call.sessionId) ∉ n.history.openedHolds

/-- The tests a copy passes to open its hold, in the order the handler and the store make them. -/
structure Opens (db : BalanceStore) (call : Call) (nowMs : ℤ) : Prop where
  accepted : ∃ op, ledgerCall call.request nowMs = .ok op
  current : db.currentSession = some call.sessionId
  opens
    : ∃ hash micros holdId amount balance, call.op = .openHold hash micros holdId
        ∧ micros.safeInteger? = some amount ∧ 0 ≤ amount
        ∧ db.holds.get? holdId = none ∧ db.settledHolds.get? holdId = none
        ∧ db.getBalance hash = some balance ∧ amount ≤ balance

/-- An answer of the ledger that refuses the hold of its call. -/
def Refuses (n : Network) (index id : ℕ) (call : Call) : Prop :=
  ∃ answer, n.answers[index]? = some answer ∧ answer.call = id ∧ n.calls[id]? = some call
    ∧ answered call.op answer.response = .done (.returned (.hold false))

/-- No copy comes late: once the ledger has given a refusal that the client reads in the run, no
delivery of that request finds a ledger that would open it.
-/
def NoLateOpening (start : Network) (actions : List NetworkAction) : Prop :=
  ∀ earlier id attempt nowMs hookThrows later n index call,
    actions = earlier ++ .deliver id attempt nowMs hookThrows :: later
      → refusalSystem.Run start earlier n
      → Refuses n index id call
      → .receive index ∈ actions
      → ¬Opens n.history.db call nowMs

/-- The operations that return money to a token. -/
def Call.refunds (call : Call) : Bool :=
  match call.op with
  | .startSession => true
  | .settleHold _ _ => true
  | _ => false

/-- The actions that can raise the balance of a token: a payment for it, and the delivery of a
settlement or of a session start.
-/
def NetworkAction.Raises (n : Network) (hash : String) : NetworkAction → Prop
  | .credit credited _ _ _ => credited = hash
  | .deliver id _ _ _ => ∃ call, n.calls[id]? = some call ∧ call.refunds = true
  | _ => False

/-- After a refusal all copies of its request arrive before anything can raise the balance. -/
def CopiesArriveFirst (start : Network) (actions : List NetworkAction) : Prop :=
  ∀ earlier action later n index id call hash micros holdId,
    actions = earlier ++ action :: later
      → refusalSystem.Run start earlier n
      → Refuses n index id call
      → call.op = .openHold hash micros holdId
      → action.Raises n hash
      → ∀ attempt nowMs hookThrows, .deliver id attempt nowMs hookThrows ∉ later

/-- The token is known and has the amount. -/
def Covers (db : BalanceStore) (hash : String) (micros : Number) : Prop :=
  ∃ amount balance, micros.safeInteger? = some amount ∧ db.getBalance hash = some balance
    ∧ amount ≤ balance

/-- No two calls open one hold id. -/
def UniqueHolds (n : Network) : Prop :=
  ∀ (id other : ℕ) call otherCall holdId, n.calls[id]? = some call
    → n.calls[other]? = some otherCall → call.holdId? = some holdId
    → otherCall.holdId? = some holdId → id = other

-----------------------------------------------------------------------------------------
-- One delivery
-----------------------------------------------------------------------------------------

/-- A copy opens its hold exactly where it passes every test. -/
theorem opens_iff {n : Network} {call : Call} {nowMs : ℤ} {holdId : String}
    (asked : call.holdId? = some holdId)
    (fresh : (holdId, some call.sessionId) ∉ n.history.openedHolds)
    : (holdId, some call.sessionId) ∈ (n.history.handle nowMs call.request).openedHolds
      ↔ Opens n.history.db call nowMs := by
  obtain ⟨sessionId, op, bytes, attempts, state⟩ := call
  simp only [Call.request] at fresh ⊢
  cases op with
  | openHold hash micros hold =>
      simp only [Call.holdId?, Option.some.injEq] at asked
      subst asked
      rcases handle_request n.history (.openHold hash micros hold) sessionId bytes nowMs with
        ⟨routed, handled⟩ | ⟨⟨response, routed⟩, handled⟩
      · obtain ⟨outcome, db', taken, step⟩ :=
          openSessionHold_step n.history.db sessionId hash micros hold nowMs
        have called
            : n.history.call (.openSessionHold sessionId hash micros hold nowMs)
              = ⟨db', n.history.log
                  ++ (LedgerOp.openSessionHold sessionId hash micros hold nowMs).events
                    n.history.db (.hold outcome)⟩ := by
          simp [History.call, BalanceStore.apply, taken, Except.map]
        rw [handled, ClientOp.storeOp, called]
        constructor
        · intro opened
          cases step with
          | opened current valid nonneg closed unsettled known covered debited =>
              exact ⟨⟨_, routed⟩, current, hash, micros, hold, _, _, rfl, valid, nonneg, closed,
                unsettled, known, covered⟩
          | _ => exact (fresh (by simpa [LedgerOp.events] using opened)).elim
        · rintro ⟨_, current, hash', micros', hold', amount, balance, same, valid, nonneg,
            closed, unsettled, known, covered⟩
          cases same
          cases step with
          | staleSession other => exact (other current).elim
          | invalidAmount _ invalid =>
              have negative := invalid amount valid
              omega
          | alreadyOpen _ _ _ found => simp [closed] at found
          | conflictHold _ _ _ found => simp [closed] at found
          | conflictSettled _ _ _ _ found => simp [unsettled] at found
          | unknownToken _ _ _ _ _ unknown => simp [known] at unknown
          | insufficientBalance _ valid' _ _ _ known' short =>
              cases valid.symm.trans valid'
              cases known.symm.trans known'
              omega
          | opened => simp [History.openedHolds, LedgerOp.events, valid, LedgerEvent.opened?]
      · rw [handled]
        refine ⟨fun opened => (fresh opened).elim, fun opens => ?_⟩
        obtain ⟨op, accepted⟩ := opens.accepted
        rw [Call.request, routed] at accepted
        cases accepted
  | _ => simp [Call.holdId?] at asked

/-- A delivery opens no hold but the call's own. -/
theorem opened_of_deliver {start : BalanceStore} {n : Network}
    (inv : NetworkInvariant start n) {call : Call} {nowMs : ℤ} {holdId : String}
    {session : Option String}
    (opened : (holdId, session) ∈ (n.history.handle nowMs call.request).openedHolds)
    : (holdId, session) ∈ n.history.openedHolds ∨ call.holdId? = some holdId := by
  obtain ⟨hold, logged, rfl, rfl⟩ := History.exists_of_mem_openedHolds opened
  rcases (exchange inv.store call.sessionId call.op call.bytes nowMs false).opened_inv logged with
    earlier | ⟨asked, _⟩
  · exact Or.inl (History.mem_openedHolds earlier)
  · exact Or.inr (by simp [Call.holdId?, asked])

-----------------------------------------------------------------------------------------
-- Hold ids
-----------------------------------------------------------------------------------------

/-- Replacing a call by one of the same operation leaves every hold id where it was. -/
theorem UniqueHolds.moved {n : Network} (unique : UniqueHolds n) {id : ℕ} {call : Call}
    (found : n.calls[id]? = some call) (attempts : ℕ) (state : CallState)
    : UniqueHolds { n with calls := n.calls.set id { call with attempts, state } } := by
  have old {other : ℕ} {found' : Call}
      (stored : (n.calls.set id { call with attempts, state })[other]? = some found')
      : ∃ known, n.calls[other]? = some known ∧ known.holdId? = found'.holdId? := by
    rcases Network.lookup_set found stored with ⟨rfl, rfl⟩ | ⟨_, known⟩
    · exact ⟨call, found, rfl⟩
    · exact ⟨found', known, rfl⟩
  intro first second firstCall secondCall holdId firstStored secondStored firstHold secondHold
  obtain ⟨firstKnown, firstOld, firstSame⟩ := old firstStored
  obtain ⟨secondKnown, secondOld, secondSame⟩ := old secondStored
  exact unique first second firstKnown secondKnown holdId firstOld secondOld
    (firstSame.trans firstHold) (secondSame.trans secondHold)

/-- A further call opens a fresh hold id, and no other action adds or changes an operation. -/
theorem UniqueHolds.act {n n' : Network} (unique : UniqueHolds n) {action : NetworkAction}
    (acted : n.act action = some n') (fresh : action.FreshHold n)
    : UniqueHolds n' := by
  cases Network.act_effect acted with
  | issued sessionId op bytes =>
      have apart {other : ℕ} {call : Call} {holdId : String} (known : n.calls[other]? = some call)
          (hold : call.holdId? = some holdId)
          : (Call.mk sessionId op bytes 1 .awaiting).holdId? ≠ some holdId := by
        intro same
        cases op <;> simp only [Call.holdId?, reduceCtorEq] at same
        cases same
        exact fresh call (List.mem_of_getElem? known) hold
      intro first second firstCall secondCall holdId firstStored secondStored firstHold secondHold
      rcases Network.lookup_issue firstStored with ⟨rfl, rfl⟩ | firstOld
      · rcases Network.lookup_issue secondStored with ⟨rfl, _⟩ | secondOld
        · rfl
        · exact (apart secondOld secondHold firstHold).elim
      · rcases Network.lookup_issue secondStored with ⟨rfl, rfl⟩ | secondOld
        · exact (apart firstOld firstHold secondHold).elim
        · exact unique first second firstCall secondCall holdId firstOld secondOld firstHold
            secondHold
  | delivered nowMs hookThrows found sent => exact unique
  | received given found awaited own => exact unique.moved found _ _
  | moved state attempts found more unread mutates alone => exact unique.moved found attempts state
  | credited hash micros orderId nowMs => exact unique

/-- A hold that an action opens is opened by a delivered copy of a call that asked for it. -/
theorem opened_of_act {start : BalanceStore} {n n' : Network} (inv : NetworkInvariant start n)
    {action : NetworkAction} (acted : n.act action = some n') {holdId : String}
    {session : Option String} (opened : (holdId, session) ∈ n'.history.openedHolds)
    : (holdId, session) ∈ n.history.openedHolds
      ∨ ∃ id attempt nowMs hookThrows call, action = .deliver id attempt nowMs hookThrows
          ∧ n.calls[id]? = some call ∧ call.holdId? = some holdId
          ∧ (holdId, session) ∈ (n.history.handle nowMs call.request).openedHolds := by
  cases Network.act_effect acted with
  | @delivered id attempt call nowMs hookThrows found sent =>
      rcases opened_of_deliver inv opened with earlier | own
      · exact Or.inl earlier
      · exact Or.inr ⟨id, attempt, nowMs, hookThrows, call, rfl, found, own, opened⟩
  | credited hash micros orderId nowMs =>
      obtain ⟨row, logged, rfl, rfl⟩ := History.exists_of_mem_openedHolds opened
      rcases creditOnce_log logged with earlier | now
      · exact Or.inl (History.mem_openedHolds earlier)
      · cases now
  | _ => exact Or.inl opened

-----------------------------------------------------------------------------------------
-- Refusals
-----------------------------------------------------------------------------------------

theorem Refuses.found {n : Network} {index id : ℕ} {call : Call}
    (refuses : Refuses n index id call)
    : n.calls[id]? = some call := by
  obtain ⟨_, _, _, found, _⟩ := refuses
  exact found

/-- A refusal once given stands. -/
theorem Refuses.later {n n' : Network} (grown : n.Extends n') {index id : ℕ} {call : Call}
    (refuses : Refuses n index id call)
    : ∃ later, Refuses n' index id later ∧ later.op = call.op
        ∧ later.sessionId = call.sessionId := by
  obtain ⟨answer, given, own, found, refusal⟩ := refuses
  obtain ⟨later, reached, sameSession, sameOp⟩ := grown.calls ⟨call, found, rfl, rfl⟩
  obtain ⟨more, same⟩ := grown.answers
  refine ⟨later, ⟨answer, ?_, own, reached, by rwa [sameOp]⟩, sameOp, sameSession⟩
  rw [← same, List.getElem?_append_left (List.getElem?_eq_some_iff.mp given).1]
  exact given

/-- A refusal after an action was there before it or is the answer to the copy it delivers. -/
theorem Refuses.act_inv {start : BalanceStore} {n n' : Network} (inv : NetworkInvariant start n)
    {action : NetworkAction} (acted : n.act action = some n') {index id : ℕ} {call : Call}
    (refuses : Refuses n' index id call)
    : (∃ known, Refuses n index id known ∧ known.op = call.op ∧ known.sessionId = call.sessionId)
      ∨ index = n.answers.length
        ∧ ∃ nowMs hookThrows, n'.history = n.history.handle nowMs call.request
            ∧ answered call.op (createLedgerHandler n.history.db nowMs hookThrows call.request).1
              = .done (.returned (.hold false)) := by
  obtain ⟨answer, given, rfl, found, refusal⟩ := refuses
  have kept (stays : n'.answers = n.answers)
      : ∃ known, Refuses n index answer.call known ∧ known.op = call.op
          ∧ known.sessionId = call.sessionId := by
    rw [stays] at given
    obtain ⟨known, stored⟩ := inv.asked answer (List.mem_of_getElem? given)
    obtain ⟨later, reached, sameSession, sameOp⟩ :=
      (Network.act_extends inv acted).calls ⟨known, stored, rfl, rfl⟩
    cases Option.some.inj (found.symm.trans reached)
    exact ⟨known, ⟨answer, given, rfl, stored, by rwa [← sameOp]⟩, sameOp.symm, sameSession.symm⟩
  cases Network.act_effect acted with
  | @delivered other attempt sender nowMs hookThrows known sent =>
      by_cases inside : index < n.answers.length
      · rw [List.getElem?_append_left inside] at given
        exact Or.inl ⟨call, ⟨answer, given, rfl, found, refusal⟩, rfl, rfl⟩
      · rw [List.getElem?_append_right (by omega)] at given
        obtain ⟨bound, rfl⟩ := List.getElem?_eq_some_iff.mp given
        simp only [List.length_singleton] at bound
        simp only [List.getElem_singleton] at found refusal
        cases Option.some.inj (known.symm.trans found)
        exact Or.inr ⟨by omega, nowMs, hookThrows, rfl, refusal⟩
  | _ => exact Or.inl (kept rfl)

/-- A refused copy changes nothing: its hold was not opened, and the balance is short. -/
theorem refused_inv {history next : History}
    (inv : HoldInvariant history) {sessionId hash holdId : String} {micros : Number} {nowMs : ℤ}
    {response : Response}
    (exchanged : Exchange history sessionId (.openHold hash micros holdId) nowMs response next)
    (refusal
      : answered (.openHold hash micros holdId) response = .done (.returned (.hold false)))
    : next = history ∧ (holdId, some sessionId) ∉ history.openedHolds
      ∧ ¬Covers history.db hash micros := by
  have unopened (current : history.db.currentSession = some sessionId)
      (closed : history.db.holds.get? holdId = none)
      (unsettled : history.db.settledHolds.get? holdId = none)
      : (holdId, some sessionId) ∉ history.openedHolds := by
    intro opened
    obtain ⟨hold, logged, rfl, own⟩ := History.exists_of_mem_openedHolds opened
    have live := inv.openFate hold logged (own.trans current.symm)
    simp [closed, unsettled] at live
  cases exchanged with
  | refused lost => exact (answered_refusal lost refusal).elim
  | handled taken read =>
      rcases read with rfl | lost
      · obtain ⟨outcome, rfl, step⟩ := apply_openSessionHold taken
        rcases answered_hold refusal with ⟨same, _⟩ | ⟨_, negative⟩
        · cases same
        · cases step with
          | unknownToken current valid nonneg closed unsettled unknown =>
              refine ⟨by simp [ClientOp.storeOp, LedgerOp.events],
                unopened current closed unsettled, ?_⟩
              intro covers
              obtain ⟨_, _, _, known, _⟩ := covers
              simp [unknown] at known
          | insufficientBalance current valid nonneg closed unsettled known short =>
              refine ⟨by simp [ClientOp.storeOp, LedgerOp.events],
                unopened current closed unsettled, ?_⟩
              intro covers
              obtain ⟨_, _, valid', known', covered⟩ := covers
              cases valid.symm.trans valid'
              cases known.symm.trans known'
              omega
          | _ => simp at negative
      · exact (answered_refusal lost refusal).elim

-----------------------------------------------------------------------------------------
-- Runs
-----------------------------------------------------------------------------------------

/-- The invariants along a run of the refusal system. -/
theorem refusal_invariant {start : BalanceStore} (legacy : start.Legacy)
    {actions : List NetworkAction} {n : Network}
    (run : refusalSystem.Run (.quiet start) actions n)
    : NetworkInvariant start n ∧ UniqueHolds n := by
  refine run.rule (fun _ n => NetworkInvariant start n ∧ UniqueHolds n) ⟨.quiet legacy, ?_⟩ ?_
  · intro id other call otherCall holdId stored
    simp [Network.quiet] at stored
  · rintro _ _ action _ _ ⟨inv, unique⟩ ⟨acted, fresh⟩
    exact ⟨inv.act acted, unique.act acted fresh⟩

theorem extends_of_run {start : BalanceStore} (legacy : start.Legacy)
    {earlier later : List NetworkAction} {n n' : Network}
    (before : refusalSystem.Run (.quiet start) earlier n) (run : refusalSystem.Run n later n')
    : n.Extends n' := by
  induction run with
  | nil => exact .refl n
  | snoc rest last ih =>
      exact ih.trans (Network.act_extends (refusal_invariant legacy (before.append rest)).1 last.1)

/-- A call that returned `false` read an answer that refuses its hold. -/
theorem read_of_returned {start : BalanceStore} (legacy : start.Legacy)
    {actions : List NetworkAction} {n : Network}
    (run : refusalSystem.Run (.quiet start) actions n) {id : ℕ} {call : Call}
    (found : n.calls[id]? = some call) (returned : call.state = .done (.returned (.hold false)))
    : ∃ index, .receive index ∈ actions ∧ Refuses n index id call := by
  refine run.rule
    (fun actions n => ∀ id call, n.calls[id]? = some call
      → call.state = .done (.returned (.hold false))
      → ∃ index, .receive index ∈ actions ∧ Refuses n index id call)
    ?_ ?_ id call found returned
  · intro id call stored
    simp [Network.quiet] at stored
  · intro earlier n action n' before ih step id call found returned
    have grown := Network.act_extends (refusal_invariant legacy before).1 step.1
    have stood (known : n.calls[id]? = some call)
        : ∃ index, .receive index ∈ earlier ++ [action] ∧ Refuses n' index id call := by
      obtain ⟨index, read, refuses⟩ := ih id call known returned
      obtain ⟨later, refuses', _⟩ := refuses.later grown
      cases Option.some.inj (found.symm.trans refuses'.found)
      exact ⟨index, List.mem_append_left _ read, refuses'⟩
    cases Network.act_effect step.1 with
    | issued sessionId op bytes =>
        rcases Network.lookup_issue found with ⟨_, rfl⟩ | old
        · cases returned
        · exact stood old
    | @received index answer asker given known awaited own =>
        rcases Network.lookup_set known found with ⟨rfl, rfl⟩ | ⟨_, old⟩
        · exact ⟨index, by simp, answer, given, rfl, found, returned⟩
        · exact stood old
    | moved state attempts known more unread mutates alone =>
        rcases Network.lookup_set known found with ⟨_, rfl⟩ | ⟨_, old⟩
        · exact (unread _ returned).elim
        · exact stood old
    | _ => exact stood found

/-- A call whose refusal was read has returned `false`, and never moves again. -/
theorem returned_of_read {start : BalanceStore} (legacy : start.Legacy)
    {actions : List NetworkAction} {n : Network}
    (run : refusalSystem.Run (.quiet start) actions n) {index id : ℕ} {call : Call}
    (read : .receive index ∈ actions) (refuses : Refuses n index id call)
    : call.state = .done (.returned (.hold false)) := by
  refine (run.rule
    (fun actions n => ∀ index, .receive index ∈ actions → index < n.answers.length
      ∧ ∀ id call, Refuses n index id call → call.state = .done (.returned (.hold false)))
    ?_ ?_ index read).2 id call refuses
  · intro index read
    cases read
  · intro earlier n action n' before ih step index read
    have inv := (refusal_invariant legacy before).1
    have grown := Network.act_extends inv step.1
    have longer := grown.answers.length_le
    rcases List.mem_append.mp read with already | now
    · obtain ⟨inside, settled⟩ := ih index already
      refine ⟨by omega, fun id call refuses => ?_⟩
      rcases refuses.act_inv inv step.1 with ⟨known, earlierRefuses, _⟩ | ⟨fresh, _⟩
      · have done := settled id known earlierRefuses
        have stored := earlierRefuses.found
        have found := refuses.found
        cases Network.act_effect step.1 with
        | issued sessionId op bytes =>
            rcases Network.lookup_issue found with ⟨rfl, _⟩ | old
            · simp at stored
            · cases Option.some.inj (stored.symm.trans old)
              exact done
        | received given asked awaited own =>
            rcases Network.lookup_set asked found with ⟨rfl, rfl⟩ | ⟨_, old⟩
            · cases Option.some.inj (stored.symm.trans asked)
              simp [awaited] at done
            · cases Option.some.inj (stored.symm.trans old)
              exact done
        | moved state attempts asked more unread mutates alone pending =>
            rcases Network.lookup_set asked found with ⟨rfl, rfl⟩ | ⟨_, old⟩
            · cases Option.some.inj (stored.symm.trans asked)
              exact (pending _ done).elim
            · cases Option.some.inj (stored.symm.trans old)
              exact done
        | _ =>
            cases Option.some.inj (stored.symm.trans found)
            exact done
      · omega
    · cases List.mem_singleton.mp now
      cases Network.act_effect step.1 with
      | @received _ answer asker given asked awaited own =>
          refine ⟨(List.getElem?_eq_some_iff.mp given).1, ?_⟩
          intro id call ⟨answer', given', sameCall, found, refusal⟩
          cases Option.some.inj (given.symm.trans given')
          subst sameCall
          rcases Network.lookup_set asked found with ⟨_, rfl⟩ | ⟨other, _⟩
          · exact refusal
          · exact (other rfl).elim
      | moved state attempts asked more unread mutates alone => cases alone

/-- While no copy opens a refused hold late, no refused hold that is read is ever open. -/
theorem NoLateOpening.unopened {start : BalanceStore} (legacy : start.Legacy)
    {actions : List NetworkAction} (kept : NoLateOpening (.quiet start) actions)
    {earlier later : List NetworkAction} {n : Network}
    (run : refusalSystem.Run (.quiet start) earlier n) (whole : actions = earlier ++ later)
    {index id : ℕ} {call : Call} {holdId : String} (refuses : Refuses n index id call)
    (read : .receive index ∈ actions) (asked : call.holdId? = some holdId)
    : (holdId, some call.sessionId) ∉ n.history.openedHolds := by
  refine run.rule
    (fun earlier n => ∀ later, actions = earlier ++ later
      → ∀ index id call holdId, Refuses n index id call → .receive index ∈ actions
      → call.holdId? = some holdId → (holdId, some call.sessionId) ∉ n.history.openedHolds)
    ?_ ?_ later whole index id call holdId refuses read asked
  · rintro _ _ _ _ _ _ ⟨_, given, _⟩
    simp [Network.quiet] at given
  · intro earlier n action n' before ih step later whole index id call holdId refuses read asked
    have whole : actions = earlier ++ action :: later := by simpa using whole
    obtain ⟨inv, unique⟩ := refusal_invariant legacy before
    rcases refuses.act_inv inv step.1 with
      ⟨known, refuses', sameOp, sameSession⟩ | ⟨_, nowMs, hookThrows, handled, refusal⟩
    · intro opened
      have asked' : known.holdId? = some holdId := by
        rw [← asked, Call.holdId?, Call.holdId?, sameOp]
      have fresh := ih _ whole index id known holdId refuses' read asked'
      rw [← sameSession] at opened
      rcases opened_of_act inv step.1 opened with already | now
      · exact fresh already
      · obtain ⟨other, attempt, nowMs, hookThrows, sender, rfl, found, own, opens⟩ := now
        cases unique other id sender known holdId found refuses'.found own asked'
        cases Option.some.inj (found.symm.trans refuses'.found)
        exact kept earlier id attempt nowMs hookThrows later n index _ whole before refuses' read
          ((opens_iff own fresh).mp opens)
    · obtain ⟨sessionId, op, bytes, attempts, state⟩ := call
      cases op with
      | openHold hash micros hold =>
          simp only [Call.holdId?, Option.some.injEq] at asked
          subst asked
          have unchanged := refused_inv inv.holds
            (exchange inv.store sessionId (.openHold hash micros hold) bytes nowMs hookThrows)
            refusal
          rw [handled, Call.request, unchanged.1]
          exact unchanged.2.1
      | _ => simp [Call.holdId?] at asked

/-- A copy of an open debits at most one token, and adds none. -/
theorem balance_le_of_open {history next : History} {sessionId asked holdId : String}
    {micros : Number} {nowMs : ℤ} {response : Response}
    (exchanged : Exchange history sessionId (.openHold asked micros holdId) nowMs response next)
    {hash : String} {balance : ℤ} (after : next.db.getBalance hash = some balance)
    : ∃ before, history.db.getBalance hash = some before ∧ balance ≤ before := by
  cases exchanged with
  | refused => exact ⟨balance, after, Int.le_refl _⟩
  | handled taken read =>
      obtain ⟨outcome, rfl, step⟩ := apply_openSessionHold taken
      cases step with
      | @opened amount held tokens current valid nonneg closed unsettled known covered debited
          unlisted =>
          obtain ⟨row, stored, rfl⟩ := Option.map_eq_some_iff.mp after
          have exact' := debited hash
          cases found : history.db.tokens.get? hash with
          | none =>
              simp only at stored
              rw [unlisted hash found] at stored
              cases stored
          | some before =>
              refine ⟨before.balance, by simp [BalanceStore.getBalance, found], ?_⟩
              simp only at stored
              simp only [tokenBalance, stored, found, Option.elim_some] at exact'
              split at exact' <;> omega
      | _ => exact ⟨balance, after, Int.le_refl _⟩

/-- A credit leaves the other tokens alone. -/
theorem balance_of_credit {history : History} {hash other orderId : String} {micros : ℕ} {atMs : ℤ}
    (apart : other ≠ hash)
    : (history.call (.creditOnce other micros orderId atMs)).db.getBalance hash
      = history.db.getBalance hash := by
  cases taken : history.db.creditOnce other micros orderId atMs with
  | mk applied db' =>
      have called : (history.call (.creditOnce other micros orderId atMs)).db = db' := by
        simp [History.call, BalanceStore.apply, taken]
      rw [called]
      cases creditOnce_step taken with
      | already found => rfl
      | applied fresh => simp [BalanceStore.getBalance, creditStmt, Table.get?_upsert, apart]

/-- An action that cannot raise the balance of a token leaves it no higher. -/
theorem balance_le_of_act {start : BalanceStore} {n n' : Network}
    (inv : NetworkInvariant start n) {action : NetworkAction} (acted : n.act action = some n')
    {hash : String} (quiet : ¬action.Raises n hash) {balance : ℤ}
    (after : n'.history.db.getBalance hash = some balance)
    : ∃ before, n.history.db.getBalance hash = some before ∧ balance ≤ before := by
  cases Network.act_effect acted with
  | @delivered id attempt call nowMs hookThrows found sent =>
      obtain ⟨sessionId, op, bytes, attempts, state⟩ := call
      have exchanged := exchange inv.store sessionId op bytes nowMs hookThrows
      cases op with
      | openHold asked micros holdId => exact balance_le_of_open exchanged after
      | getBalance asked =>
          have unchanged := exchanged.replay inv.store inv.holds trivial
          refine ⟨balance, ?_, Int.le_refl _⟩
          rw [← unchanged]
          exact after
      | startSession => exact (quiet ⟨_, found, rfl⟩).elim
      | settleHold holdId charged => exact (quiet ⟨_, found, rfl⟩).elim
  | credited other micros orderId nowMs =>
      exact ⟨balance, (balance_of_credit quiet).symm.trans after, Int.le_refl _⟩
  | _ => exact ⟨balance, after, Int.le_refl _⟩

/-- While copies arrive before the balance can rise, a refused hold stays too large for its token
as long as a copy may still arrive.
-/
theorem CopiesArriveFirst.short {start : BalanceStore} (legacy : start.Legacy)
    {actions : List NetworkAction} (ordered : CopiesArriveFirst (.quiet start) actions)
    {earlier later : List NetworkAction} {n : Network}
    (run : refusalSystem.Run (.quiet start) earlier n) (whole : actions = earlier ++ later)
    {index id : ℕ} {call : Call} {hash holdId : String} {micros : Number}
    (refuses : Refuses n index id call) (asked : call.op = .openHold hash micros holdId)
    {attempt : ℕ} {nowMs : ℤ} {hookThrows : Bool}
    (arrives : .deliver id attempt nowMs hookThrows ∈ later)
    : ¬Covers n.history.db hash micros := by
  refine run.rule
    (fun earlier n => ∀ later, actions = earlier ++ later
      → ∀ index call, Refuses n index id call → call.op = .openHold hash micros holdId
      → .deliver id attempt nowMs hookThrows ∈ later → ¬Covers n.history.db hash micros)
    ?_ ?_ later whole index call refuses asked arrives
  · rintro _ _ _ _ ⟨_, given, _⟩
    simp [Network.quiet] at given
  · intro earlier n action n' before ih step later whole index call refuses asked arrives
    have whole : actions = earlier ++ action :: later := by simpa using whole
    have inv := (refusal_invariant legacy before).1
    rcases refuses.act_inv inv step.1 with
      ⟨known, refuses', sameOp, _⟩ | ⟨_, atMs, throws, handled, refusal⟩
    · have asked' := sameOp.trans asked
      rintro ⟨amount, balance, valid, after, covered⟩
      have quiet : ¬action.Raises n hash := by
        intro raises
        exact ordered earlier action later n index id known hash micros holdId whole before
          refuses' asked' raises _ _ _ arrives
      obtain ⟨funds, was, lower⟩ := balance_le_of_act inv step.1 quiet after
      exact ih _ whole index known refuses' asked' (List.mem_cons_of_mem _ arrives)
        ⟨amount, funds, valid, was, by omega⟩
    · obtain ⟨sessionId, op, bytes, attempts, state⟩ := call
      cases asked
      have unchanged := refused_inv inv.holds
        (exchange inv.store sessionId (.openHold hash micros holdId) bytes atMs throws) refusal
      rw [handled, Call.request, unchanged.1]
      exact unchanged.2.2

/-- A late delivery opens the hold of a call that has returned `false` by the end of the run. -/
theorem noLateOpening_of_kept {start : BalanceStore} (legacy : start.Legacy)
    {actions : List NetworkAction} {final : Network}
    (run : refusalSystem.Run (.quiet start) actions final)
    (every : refusalSystem.EveryState (.quiet start) actions StaysRefused)
    : NoLateOpening (.quiet start) actions := by
  intro earlier id attempt nowMs hookThrows later n index call whole before refuses read opens
  obtain ⟨_, _, hash, micros, holdId, _, _, asked, _⟩ := opens
  have hold : call.holdId? = some holdId := by simp [Call.holdId?, asked]
  have split : refusalSystem.Run (.quiet start)
      ((earlier ++ [.deliver id attempt nowMs hookThrows]) ++ later) final := by
    simpa [whole] using run
  obtain ⟨middle, front, back⟩ := split.split
  obtain ⟨state, reached, step⟩ := front.snoc_inv
  have same : state = n := by
    refine reached.unique ?_ before
    rintro _ _ _ _ ⟨one, _⟩ ⟨other, _⟩
    exact Option.some.inj (one.symm.trans other)
  subst same
  have grown := Network.act_extends (refusal_invariant legacy before).1 step.1
  have opened : (holdId, some call.sessionId) ∈ middle.history.openedHolds := by
    by_cases already : (holdId, some call.sessionId) ∈ state.history.openedHolds
    · exact grown.opened already
    · have delivered := (opens_iff hold already).mpr
        ⟨‹_›, ‹_›, hash, micros, holdId, _, _, asked, ‹_›⟩
      cases Network.act_effect step.1 with
      | delivered nowMs hookThrows found sent =>
          cases Option.some.inj (found.symm.trans refuses.found)
          exact delivered
      | moved state attempts found more unread mutates alone => cases alone
  have onward := extends_of_run legacy front back
  obtain ⟨last, stands, sameOp, sameSession⟩ := refuses.later (grown.trans onward)
  refine every actions [] final (by simp) run id last holdId stands.found ?_
    (returned_of_read legacy run read stands) ?_
  · rw [← hold, Call.holdId?, Call.holdId?, sameOp]
  · rw [sameSession]
    exact onward.opened opened

theorem NoLateOpening.kept {start : BalanceStore} (legacy : start.Legacy)
    {actions : List NetworkAction} (kept : NoLateOpening (.quiet start) actions)
    : refusalSystem.EveryState (.quiet start) actions StaysRefused := by
  intro earlier later n whole before id call holdId found asked returned
  obtain ⟨index, read, refuses⟩ := read_of_returned legacy before found returned
  exact kept.unopened legacy before whole refuses (by simp [whole, read]) asked

theorem CopiesArriveFirst.noLateOpening {start : BalanceStore} (legacy : start.Legacy)
    {actions : List NetworkAction} (ordered : CopiesArriveFirst (.quiet start) actions)
    : NoLateOpening (.quiet start) actions := by
  rintro earlier id attempt nowMs hookThrows later n index call whole before refuses _
    ⟨_, _, hash, micros, holdId, amount, balance, asked, valid, _, _, _, known, covered⟩
  exact ordered.short legacy before whole refuses asked List.mem_cons_self
    ⟨amount, balance, valid, known, covered⟩

/-- A run keeps its refusals in every state exactly when no copy opens one late, and it does when
after each refusal the copies arrive before anything raises the balance.
-/
theorem refusals_kept_iff {start : BalanceStore} (legacy : start.Legacy)
    {actions : List NetworkAction} {final : Network}
    (run : refusalSystem.Run (.quiet start) actions final)
    : (refusalSystem.EveryState (.quiet start) actions StaysRefused
        ↔ NoLateOpening (.quiet start) actions)
      ∧ (CopiesArriveFirst (.quiet start) actions
        → refusalSystem.EveryState (.quiet start) actions StaysRefused) :=
  ⟨⟨noLateOpening_of_kept legacy run, fun kept => kept.kept legacy⟩,
    fun ordered => (ordered.noLateOpening legacy).kept legacy⟩

/-- A refused open whose first copy is still in flight when the token is credited. -/
def lateCopyRun : List NetworkAction :=
  [
    .issue exampleSession .startSession 53,
    .deliver 0 1 10 false,
    .receive 0,
    .issue exampleSession (.openHold exampleHash (.ofInt 150) exampleHold) 200,
    .lose 1 "timeout",
    .retry 1,
    .deliver 1 2 20 false,
    .receive 1,
    .credit exampleHash 100 "order" 25,
    .deliver 1 1 30 false
  ]

/-- The same run with the first copy arriving before the credit: it is refused again. -/
def earlyCopyRun : List NetworkAction :=
  lateCopyRun.take 8 ++ [.deliver 1 1 22 false, .credit exampleHash 100 "order" 25]

/-- In the early run only the credit raises the balance after the refusal, and no copy is left. -/
theorem earlyCopyRun_ordered : CopiesArriveFirst (.quiet fundedStore) earlyCopyRun := by
  intro earlier action later n index id call hash micros holdId whole run refuses asked raises
    attempt nowMs hookThrows arrives
  have front : earlyCopyRun.take earlier.length = earlier := by simp [whole]
  have taken : earlyCopyRun[earlier.length]? = some action := by simp [whole]
  have left : earlyCopyRun.drop (earlier.length + 1) = later := by simp [whole]
  have bound : earlier.length < 10 := by
    have counted := congrArg List.length whole
    simp [earlyCopyRun, lateCopyRun] at counted
    omega
  have ran := runFresh?_of_run run
  rw [← front] at ran
  subst left
  generalize earlier.length = k at ran taken arrives bound
  have ops (expected : List ClientOp)
      (ends
        : (runFresh? (.quiet fundedStore) (earlyCopyRun.take k)).map
            (fun n => n.calls.map Call.op)
          = some expected)
      : n.calls.map Call.op = expected := by
    simpa [ran] using ends
  have opens {ops : List ClientOp} (known : n.calls.map Call.op = ops) {other : ℕ} {hold : String}
      (asks : ops[other]? = some (.openHold exampleHash (.ofInt 150) hold))
      : ¬∃ call, n.calls[other]? = some call ∧ call.refunds = true := by
    rintro ⟨call, stored, refunds⟩
    have same : ops[other]? = some call.op := by simp [← known, stored]
    have asked : call.op = .openHold exampleHash (.ofInt 150) hold :=
      Option.some.inj (same.symm.trans asks)
    simp [Call.refunds, asked] at refunds
  -- only the two deliveries of the hold and the credit come after the session's start
  interval_cases k <;>
    simp only [earlyCopyRun, lateCopyRun, List.take, List.cons_append, List.nil_append,
      List.getElem?_cons_zero, List.getElem?_cons_succ, Option.some.injEq] at taken <;>
    subst taken <;> simp only [NetworkAction.Raises] at raises
  · have found : (n.calls.map Call.op)[id]? = some (.openHold hash micros holdId) := by
      simp [refuses.found, asked]
    rw [ops [.startSession] (by decide +kernel)] at found
    have member := List.mem_of_getElem? found
    simp at member
  · exact opens (ops [.startSession, .openHold exampleHash (.ofInt 150) exampleHold]
      (by decide +kernel)) rfl raises
  · exact opens (ops [.startSession, .openHold exampleHash (.ofInt 150) exampleHold]
      (by decide +kernel)) rfl raises
  · simp [earlyCopyRun, lateCopyRun] at arrives

/-- An early copy: the run keeps its refusal, and no delivery in it comes late. -/
theorem refusals_kept_iff_early
    : refusalSystem.EveryState (.quiet fundedStore) earlyCopyRun StaysRefused
      ∧ NoLateOpening (.quiet fundedStore) earlyCopyRun := by
  have ends : (runFresh? (.quiet fundedStore) earlyCopyRun).isSome = true := by decide +kernel
  obtain ⟨final, ran⟩ := Option.isSome_iff_exists.mp ends
  have legacy : fundedStore.Legacy := ⟨by decide, by decide, rfl, rfl⟩
  have exact' := refusals_kept_iff legacy (refusal_run ran)
  have every := exact'.2 earlyCopyRun_ordered
  exact ⟨every, exact'.1.mp every⟩

/-- The late copy opens the hold that the client was told is refused. -/
theorem late_copy_opens
    : ¬refusalSystem.EveryState (.quiet fundedStore) lateCopyRun StaysRefused := by
  intro every
  have ends
      : (runFresh? (.quiet fundedStore) lateCopyRun).map
          (fun n => (n.calls[1]?, n.history.openedHolds))
        = some (
            some ⟨exampleSession, .openHold exampleHash (.ofInt 150) exampleHold, 200, 2,
              .done (.returned (.hold false))⟩,
            [(exampleHold, some exampleSession)]
          ) := by
    decide +kernel
  obtain ⟨final, ran, reached⟩ := Option.map_eq_some_iff.mp ends
  obtain ⟨stored, opened⟩ := Prod.mk.inj reached
  refine every lateCopyRun [] final (by simp) (refusal_run ran) 1 _ exampleHold stored rfl rfl ?_
  rw [opened]
  exact List.mem_singleton.mpr rfl

end Nullsink.Metering
