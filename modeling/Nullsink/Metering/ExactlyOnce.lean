import Nullsink.Metering.NetworkInvariant

/-! Holds are debited and charged exactly once, whatever the network does with the copies. -/

namespace Nullsink.Metering

open Ledger Ecma Relational Transition

-----------------------------------------------------------------------------------------
-- The protocol
-----------------------------------------------------------------------------------------

/-- What a hold id stands for: one session, one open payload and one charge. -/
structure HoldPlan where
  sessionId : String
  hash : String
  micros : Number
  charge : Number

/-- Clients use a hold id only as planned. -/
def Follows (plan : String → HoldPlan) (sessionId : String) : ClientOp → Prop
  | .openHold hash micros holdId =>
      (plan holdId).sessionId = sessionId ∧ (plan holdId).hash = hash
        ∧ (plan holdId).micros = micros
  | .settleHold holdId chargedMicros =>
      (plan holdId).sessionId = sessionId ∧ (plan holdId).charge = chargedMicros
  | _ => True

instance (plan : String → HoldPlan) (sessionId : String) (op : ClientOp)
    : Decidable (Follows plan sessionId op) := by
  cases op <;> unfold Follows <;> infer_instance

/-- Whether an action issues an operation against the plan. -/
def NetworkAction.Planned (plan : String → HoldPlan) : NetworkAction → Prop
  | .issue sessionId op _ => Follows plan sessionId op
  | _ => True

instance (plan : String → HoldPlan) (action : NetworkAction)
    : Decidable (action.Planned plan) := by
  cases action <;> unfold NetworkAction.Planned <;> infer_instance

/-- Any number of clients over any network, each hold id used for one purpose. -/
def protocol (plan : String → HoldPlan) : System Network NetworkAction where
  initial n := ∃ db : BalanceStore, db.Legacy ∧ n = .quiet db
  step n action n' := n.act action = some n' ∧ action.Planned plan

/-- Running planned actions is a run of the protocol. -/
theorem protocol_run {plan : String → HoldPlan} {n n' : Network} {actions : List NetworkAction}
    (ran : n.run? actions = some n') (planned : ∀ action ∈ actions, action.Planned plan)
    : (protocol plan).Run n actions n' :=
  System.run_of_foldlM ran fun member acted => ⟨acted, planned _ member⟩

-----------------------------------------------------------------------------------------
-- The plan and the log
-----------------------------------------------------------------------------------------

/-- The log holds only what was planned. -/
structure PlanInvariant (plan : String → HoldPlan) (n : Network) : Prop where
  follows
    : ∀ (id : ℕ) call, n.calls[id]? = some call → Follows plan call.sessionId call.op
  opened
    : ∀ hold, .opened hold ∈ n.history.log
        → hold.sessionId = some (plan hold.holdId).sessionId
          ∧ hold.hash = (plan hold.holdId).hash
          ∧ (plan hold.holdId).micros = .ofInt hold.micros
  settled
    : ∀ hold charge, .settled hold charge ∈ n.history.log
        → (plan hold.holdId).charge = .ofInt charge

/-- A credit opens and settles nothing. -/
theorem creditOnce_log {history : History} {hash orderId : String} {micros : ℕ} {atMs : ℤ}
    {event : LedgerEvent}
    (logged : event ∈ (history.call (.creditOnce hash micros orderId atMs)).log)
    : event ∈ history.log ∨ event = .creditedOnce orderId hash micros := by
  unfold History.call at logged
  split at logged
  · rename_i result db taken
    rcases List.mem_append.mp logged with earlier | now
    · exact Or.inl earlier
    · unfold LedgerOp.events at now
      split at now <;> simp_all
  · exact Or.inl logged

theorem PlanInvariant.delivered {plan : String → HoldPlan} {start : BalanceStore} {n : Network}
    (store : StoreInvariant start n.history) (inv : PlanInvariant plan n) {id : ℕ} {call : Call}
    (nowMs : ℤ) (hookThrows : Bool) (answers : List Answer) (found : n.calls[id]? = some call)
    : PlanInvariant plan
        { n with history := n.history.handle nowMs call.request, answers } := by
  have exchanged := exchange store call.sessionId call.op call.bytes nowMs hookThrows
  have planned := inv.follows id call found
  exact {
    follows := inv.follows
    opened := by
      intro hold logged
      rcases exchanged.opened_inv logged with earlier | ⟨asked, own⟩
      · exact inv.opened hold earlier
      · rw [asked] at planned
        obtain ⟨sameSession, sameHash, sameMicros⟩ := planned
        exact ⟨by rw [own, sameSession], sameHash.symm, sameMicros⟩
    settled := by
      intro hold charge logged
      rcases exchanged.settled_inv logged with earlier | asked
      · exact inv.settled hold charge earlier
      · rw [asked] at planned
        exact planned.2
  }

/-- Every planned action keeps the log to the plan. -/
theorem PlanInvariant.act {plan : String → HoldPlan} {start : BalanceStore} {n n' : Network}
    (store : StoreInvariant start n.history) (inv : PlanInvariant plan n)
    {action : NetworkAction} (acted : n.act action = some n') (planned : action.Planned plan)
    : PlanInvariant plan n' := by
  have replaced {id : ℕ} {call : Call} (found : n.calls[id]? = some call) (attempts : ℕ)
      (state : CallState)
      : ∀ (other : ℕ) found', (n.calls.set id { call with attempts, state })[other]? = some found'
          → Follows plan found'.sessionId found'.op := by
    intro other found' stored
    rcases Network.lookup_set found stored with ⟨_, rfl⟩ | ⟨_, old⟩
    · exact inv.follows id call found
    · exact inv.follows other found' old
  cases Network.act_effect acted with
  | issued sessionId op bytes =>
      refine ⟨?_, inv.opened, inv.settled⟩
      intro id call stored
      rcases Network.lookup_issue stored with ⟨_, rfl⟩ | old
      · exact planned
      · exact inv.follows id call old
  | delivered nowMs hookThrows found sent =>
      exact PlanInvariant.delivered store inv nowMs hookThrows _ found
  | received given found awaited own =>
      exact ⟨replaced found _ _, inv.opened, inv.settled⟩
  | moved state attempts found more unread mutates alone =>
      exact ⟨replaced found attempts state, inv.opened, inv.settled⟩
  | credited hash micros orderId nowMs =>
      refine ⟨inv.follows, ?_, ?_⟩
      · intro hold logged
        rcases creditOnce_log logged with earlier | now
        · exact inv.opened hold earlier
        · cases now
      · intro hold charge logged
        rcases creditOnce_log logged with earlier | now
        · exact inv.settled hold charge earlier
        · cases now

-----------------------------------------------------------------------------------------
-- The contract of the protocol
-----------------------------------------------------------------------------------------

/-- What holds of a network, in any state of any run. -/
structure ExactlyOnce (plan : String → HoldPlan) (start : BalanceStore) (n : Network) : Prop where
  debitedOnce : (n.history.openedHolds.map Prod.fst).Nodup
  debitedExactly
    : ∀ hold, .opened hold ∈ n.history.log
        → hold.sessionId = some (plan hold.holdId).sessionId
          ∧ hold.hash = (plan hold.holdId).hash
          ∧ (plan hold.holdId).micros = .ofInt hold.micros
  chargedOnce : (n.history.settledHolds.map Prod.fst).Nodup
  chargedExactly
    : ∀ hold charge, .settled hold charge ∈ n.history.log
        → .opened hold ∈ n.history.log ∧ (plan hold.holdId).charge = .ofInt charge
          ∧ 0 ≤ charge ∧ charge ≤ hold.micros
  balances
    : ∀ hash, tokenBalance n.history.db.tokens hash
        = tokenBalance start.tokens hash + n.history.moved hash
  openReturned
    : ∀ (id : ℕ) call hash micros holdId, n.calls[id]? = some call
        → call.op = .openHold hash micros holdId
        → call.state = .done (.returned (.hold true))
        → ∃ hold, .opened hold ∈ n.history.log ∧ hold.holdId = holdId
            ∧ hold.sessionId = some call.sessionId ∧ hold.hash = hash
            ∧ micros = .ofInt hold.micros
            ∧ (n.history.db.holds.get? holdId = some hold
              ∨ (∃ charge, .settled hold charge ∈ n.history.log)
              ∨ ∃ later, later ≠ call.sessionId ∧ n.history.db.currentSession = some later)
  settleReturned
    : ∀ (id : ℕ) call holdId charged, n.calls[id]? = some call
        → call.op = .settleHold holdId charged
        → call.state = .done (.returned (.settlement true))
        → ∃ hold charge, .settled hold charge ∈ n.history.log ∧ hold.holdId = holdId
            ∧ hold.sessionId = some call.sessionId ∧ charged = .ofInt charge
            ∧ ∀ hold' charge', .settled hold' charge' ∈ n.history.log
                → hold'.holdId = holdId → hold' = hold ∧ charge' = charge
  replayed
    : ∀ id attempt nowMs hookThrows n' call,
        n.act (.deliver id attempt nowMs hookThrows) = some n'
        → n.calls[id]? = some call
        → Committed n.history call.sessionId call.op
        → n'.history = n.history
  fenced
    : ∀ id attempt nowMs hookThrows n' call,
        n.act (.deliver id attempt nowMs hookThrows) = some n'
        → n.calls[id]? = some call
        → call.sessionId ∈ n.history.sessions
        → n.history.db.currentSession ≠ some call.sessionId
        → n'.history = n.history
  conserved
    : ∀ hash, n.history.db.funds hash + n.history.chargedTo hash
        = start.funds hash + n.history.creditedTo hash

/-- Every state of every run over a legacy ledger meets the contract. -/
theorem exactly_once {plan : String → HoldPlan} {start : BalanceStore} (legacy : start.Legacy)
    {actions : List NetworkAction} {n : Network}
    (run : (protocol plan).Run (.quiet start) actions n)
    : ExactlyOnce plan start n := by
  obtain ⟨inv, planned⟩ : NetworkInvariant start n ∧ PlanInvariant plan n := by
    refine run.rule (fun _ n => NetworkInvariant start n ∧ PlanInvariant plan n)
      ⟨.quiet legacy, ?_⟩ ?_
    · constructor <;> simp [Network.quiet]
    · rintro _ _ action _ _ ⟨inv, planned⟩ ⟨acted, follows⟩
      exact ⟨inv.act acted, PlanInvariant.act inv.store planned acted follows⟩
  have chargedOnce : (n.history.settledHolds.map Prod.fst).Nodup := by
    refine Log.nodup_fst (fun holdId => some (plan holdId).sessionId) inv.holds.settledOnce ?_
    rintro ⟨holdId, session⟩ member
    obtain ⟨hold, charge, logged, rfl, rfl⟩ := History.exists_of_mem_settledHolds member
    exact (planned.opened hold (inv.holds.settleFate hold charge logged).1).1
  exact {
    debitedOnce := by
      refine Log.nodup_fst (fun holdId => some (plan holdId).sessionId) inv.holds.openedOnce ?_
      rintro ⟨holdId, session⟩ member
      obtain ⟨hold, logged, rfl, rfl⟩ := History.exists_of_mem_openedHolds member
      exact (planned.opened hold logged).1
    debitedExactly := planned.opened
    chargedOnce
    chargedExactly := fun hold charge logged =>
      ⟨(inv.holds.settleFate hold charge logged).1, planned.settled hold charge logged,
        inv.store.charges hold charge logged⟩
    balances := inv.reached.moved
    openReturned := by
      rintro id call hash micros holdId found asked done
      have confirmed := inv.returns id call _ found done
      rw [asked] at confirmed
      obtain ⟨hold, logged, rfl, own, sameHash, sameMicros⟩ := confirmed
      refine ⟨hold, logged, rfl, own, sameHash, sameMicros, ?_⟩
      by_cases current : n.history.db.currentSession = some call.sessionId
      · rcases inv.holds.openFate hold logged (own.trans current.symm) with live | settled
        · exact Or.inl live
        · obtain ⟨row, _, settled⟩ := settled
          exact Or.inr (Or.inl ⟨_, settled⟩)
      · obtain ⟨owner, known, ownerOf⟩ := inv.holds.session hold logged
        cases Option.some.inj (ownerOf.symm.trans own)
        exact Or.inr (Or.inr (inv.store.superseded known current))
    settleReturned := by
      rintro id call holdId charged found asked done
      have confirmed := inv.returns id call _ found done
      rw [asked] at confirmed
      obtain ⟨hold, charge, logged, sameId, own, sameCharge⟩ := confirmed
      refine ⟨hold, charge, logged, sameId, own, sameCharge, ?_⟩
      intro hold' charge' second sameHold
      have sameSession : hold'.sessionId = hold.sessionId := by
        rw [(planned.opened hold' (inv.holds.settleFate hold' charge' second).1).1,
          (planned.opened hold (inv.holds.settleFate hold charge logged).1).1, sameHold, sameId]
      have unique : LedgerEvent.settled hold' charge' = .settled hold charge :=
        Log.eq_of_nodup_keys inv.holds.settledOnce second logged
          (by rw [LedgerEvent.settled?, sameHold, sameSession, ← sameId]) rfl
      cases unique
      exact ⟨rfl, rfl⟩
    replayed := by
      intro id attempt nowMs hookThrows n' call delivered found committed
      cases Network.act_effect delivered with
      | delivered nowMs hookThrows known sent =>
          cases Option.some.inj (found.symm.trans known)
          exact (exchange inv.store call.sessionId call.op call.bytes nowMs hookThrows).replay
            inv.store inv.holds committed
      | moved state attempts known more unread mutates alone => cases alone
    fenced := by
      intro id attempt nowMs hookThrows n' call delivered found known left
      cases Network.act_effect delivered with
      | delivered nowMs hookThrows stored sent =>
          cases Option.some.inj (found.symm.trans stored)
          exact (exchange inv.store call.sessionId call.op call.bytes nowMs hookThrows).fenced
            inv.store inv.holds known left
      | moved state attempts stored more unread mutates alone => cases alone
    conserved := inv.store.conserved
  }

/-- A hold id of the wire's shape, and a token hash. -/
def exampleHold : String := "a3c1f9d2-7f0e-4a44-8f5b-2f9f64c8e9b0"
def exampleHash : String := "5e884898da28047151d0e56f8dc6292773603d0d6aabbdd62a11ef721d1542d8"

/-- A ledger with one funded token. -/
def fundedStore : BalanceStore :=
  { BalanceStore.empty with tokens := ⟨[⟨exampleHash, 100⟩], by decide⟩ }

/-- A session starts; its open is retried after a lost answer and delivered three times; the
settlement is delivered twice.
-/
def retriedRun : List NetworkAction :=
  [
    .issue exampleSession .startSession 60,
    .deliver 0 1 10 false,
    .receive 0,
    .issue exampleSession (.openHold exampleHash (.ofInt 70) exampleHold) 200,
    .deliver 1 1 20 false,
    .lose 1 "timeout",
    .retry 1,
    .deliver 1 2 21 false,
    .receive 2,
    .issue exampleSession (.settleHold exampleHold (.ofInt 30)) 120,
    .deliver 2 1 30 true,
    .receive 3,
    .retry 2,
    .deliver 2 2 31 false,
    .receive 4,
    .deliver 1 1 40 false
  ]

def examplePlan (_ : String) : HoldPlan :=
  ⟨exampleSession, exampleHash, .ofInt 70, .ofInt 30⟩

/-- The contract in the last state of that run. -/
theorem exactly_once_retried
    : ExactlyOnce examplePlan fundedStore
        (((Network.quiet fundedStore).run? retriedRun).get (by decide +kernel)) :=
  exactly_once ⟨by decide, by decide, rfl, rfl⟩
    (protocol_run (Option.some_get _).symm (by decide +kernel))

end Nullsink.Metering
