import Nullsink.Ledger.ColumnContract
import Nullsink.Service.ProxyMoves

/-! Requests from end to end: what the ledger charges a token is what the requests of that token
have decided, each at most once, whatever the network does with the copies of their calls and
however often the proxy dies.
-/

namespace Nullsink.Proxy

open Ecma Ledger Metering Transition

variable {book : PriceBook} (js : Runtime) (settings : HandlerSettings)

-----------------------------------------------------------------------------------------
-- Runs in step with the network
-----------------------------------------------------------------------------------------

namespace Handling

/-- The call that opened the hold of a run. -/
def openOp (h : Handling book) : ClientOp := .openHold h.hash h.micros h.holdId

/-- The charge that a run has decided. -/
def charge? (h : Handling book) : Option Number :=
  match h.phase with
  | .settling held _ => some (held.settleCharge js h.env)
  | .settled held _ => some (held.settleCharge js h.env)
  | .streaming held state _ => state.settlementDecision.map held.charge
  | _ => none

/-- The charge that a run takes for settled. -/
def confirmed? (h : Handling book) : Option Number :=
  match h.phase with
  | .settled held true => some (held.settleCharge js h.env)
  | .streaming _ state _ => state.billing.completedCharge
  | _ => none

/-- The opened hold of a run. -/
def held? (h : Handling book) : Option (Held book) :=
  match h.phase with
  | .held held => some held
  | .settling held _ => some held
  | .settled held _ => some held
  | .streaming held _ _ => some held
  | _ => none

/-- The ledger has opened the hold that a run was granted. -/
structure Granted (n : Network) (h : Handling book) (held : Held book) : Prop where
  reserved : reserve js settings h.candidates h.req h.env = .ok held
  opened : Confirms n.history h.sessionId h.openOp (.hold true)

/-- The ledger has settled the hold of a run at a charge. -/
def Charged (n : Network) (h : Handling book) (charge : Number) : Prop :=
  Confirms n.history h.sessionId (.settleHold h.holdId charge) (.settlement true)

/-- What the phase of a run says of the network. -/
inductive InPhase (n : Network) (h : Handling book) : RunPhase book → Prop
  | opening {call} (issued : n.Issued call h.sessionId h.openOp) : InPhase n h (.opening call)
  | refused : InPhase n h .refused
  | held {held} (granted : h.Granted js settings n held) : InPhase n h (.held held)
  | settling {held call} (granted : h.Granted js settings n held)
    (issued : n.Issued call h.sessionId (.settleHold h.holdId (held.settleCharge js h.env)))
    : InPhase n h (.settling held call)
  | settled {held confirmed} (granted : h.Granted js settings n held)
    (charged : confirmed = true → h.Charged n (held.settleCharge js h.env))
    : InPhase n h (.settled held confirmed)
  | streaming {held state calls} (granted : h.Granted js settings n held)
    (inv : StreamInvariant state)
    (issued
      : ∀ attempt call, (attempt, call) ∈ calls
          → ∃ decision, state.settlementDecision = some decision
              ∧ n.Issued call h.sessionId (.settleHold h.holdId (held.charge decision)))
    (charged : ∀ charge, state.billing.completedCharge = some charge → h.Charged n charge)
    : InPhase n h (.streaming held state calls)

/-- A run in step with the network. -/
structure InStep (n : Network) (h : Handling book) : Prop where
  asked
    : openCall js settings h.candidates h.req h.env = some (h.hash, h.micros, h.holdId)
  phase : h.InPhase js settings n h.phase

variable {js settings} {n n' : Network} {h : Handling book} {held : Held book}

theorem Granted.grow (granted : h.Granted js settings n held) (grown : n.Extends n')
    : h.Granted js settings n' held :=
  ⟨granted.reserved, granted.opened.mono grown.log⟩

/-- A granted hold is the one that was asked for. -/
theorem Granted.asked (granted : h.Granted js settings n held)
    (asked : openCall js settings h.candidates h.req h.env = some (h.hash, h.micros, h.holdId))
    : held.hash = h.hash ∧ held.holdAmount = h.micros ∧ held.holdId = h.holdId := by
  have same := (openCall_of_reserve granted.reserved).symm.trans asked
  simpa using same

/-- A run that has not moved stays in step with a later network. -/
theorem InPhase.grow {phase : RunPhase book} (inPhase : h.InPhase js settings n phase)
    (grown : n.Extends n')
    : h.InPhase js settings n' phase := by
  cases inPhase with
  | opening issued => exact .opening (grown.calls issued)
  | refused => exact .refused
  | held granted => exact .held (granted.grow grown)
  | settling granted issued => exact .settling (granted.grow grown) (grown.calls issued)
  | settled granted charged =>
      exact .settled (granted.grow grown) fun confirmed => (charged confirmed).mono grown.log
  | streaming granted inv issued charged =>
      refine .streaming (granted.grow grown) inv ?_ fun charge done =>
        (charged charge done).mono grown.log
      intro attempt call waits
      obtain ⟨decision, decided, sent⟩ := issued attempt call waits
      exact ⟨decision, decided, grown.calls sent⟩

/-- What a phase says is about the call of a run, not about the phase that the run records. -/
theorem InPhase.record {phase : RunPhase book} (inPhase : h.InPhase js settings n phase)
    (recorded : RunPhase book)
    : ({ h with phase := recorded } : Handling book).InPhase js settings n phase := by
  cases inPhase with
  | opening issued => exact .opening issued
  | refused => exact .refused
  | held granted => exact .held ⟨granted.reserved, granted.opened⟩
  | settling granted issued => exact .settling ⟨granted.reserved, granted.opened⟩ issued
  | settled granted charged => exact .settled ⟨granted.reserved, granted.opened⟩ charged
  | streaming granted inv issued charged =>
      exact .streaming ⟨granted.reserved, granted.opened⟩ inv issued charged

end Handling

-----------------------------------------------------------------------------------------
-- The invariant
-----------------------------------------------------------------------------------------

/-- A plan agrees with what runs have asked and decided so far. -/
def Agrees (plan : String → HoldPlan) (handlings : List (Handling book)) : Prop :=
  ∀ h ∈ handlings,
    (plan h.holdId).sessionId = h.sessionId
    ∧ (plan h.holdId).hash = h.hash
    ∧ (plan h.holdId).micros = h.micros
    ∧ ∀ charge, h.charge? js = some charge → (plan h.holdId).charge = charge

/-- The proxy's runs are in step with the network, and the network keeps to every plan that agrees
with them.
-/
structure ProxyInvariant (start : BalanceStore) (p : ProxyProcess book) : Prop where
  network : NetworkInvariant start p.network
  once : (p.handlings.map Handling.holdId).Nodup
  inStep : ∀ h ∈ p.handlings, h.InStep js settings p.network
  planned : ∀ plan, Agrees js plan p.handlings → PlanInvariant plan p.network

variable {js settings} {start : BalanceStore} {p : ProxyProcess book}

/-- A plan that agrees with a run that has gone on agrees with it before. -/
theorem Agrees.before {plan : String → HoldPlan} {handlings : List (Handling book)} {run : ℕ}
    {h : Handling book} {phase : RunPhase book}
    (agrees : Agrees js plan (handlings.set run { h with phase }))
    (found : handlings[run]? = some h)
    (kept
      : ∀ charge, h.charge? js = some charge
          → ({ h with phase } : Handling book).charge? js = some charge)
    : Agrees js plan handlings := by
  intro other member
  obtain ⟨index, stored⟩ := List.mem_iff_getElem?.mp member
  by_cases same : run = index
  · subst same
    cases stored.symm.trans found
    have inside := (List.getElem?_eq_some_iff.mp found).1
    obtain ⟨session, hash, micros, charge⟩ :=
      agrees { h with phase } (List.mem_of_getElem? (List.getElem?_set_self inside))
    exact ⟨session, hash, micros, fun decided known => charge decided (kept decided known)⟩
  · have stays : (handlings.set run { h with phase })[index]? = some other := by
      rw [List.getElem?_set_ne same]
      exact stored
    exact agrees other (List.mem_of_getElem? stays)

namespace ProxyInvariant

/-- A ledger that no session has touched, and no request yet. -/
theorem down {db : BalanceStore} (legacy : db.Legacy)
    : ProxyInvariant js settings db (.down db : ProxyProcess book) where
  network := .quiet legacy
  once := List.nodup_nil
  inStep := fun _ member => by cases member
  planned := fun plan _ => by constructor <;> simp [ProxyProcess.down, Network.quiet]

/-- A run that goes on, with the network or without it, and stays in step. -/
theorem goOn (inv : ProxyInvariant js settings start p) {run : ℕ} {h : Handling book}
    (found : p.handlings[run]? = some h) {phase : RunPhase book} {c : Network}
    (network : NetworkInvariant start c) (grown : p.network.Extends c)
    (planned
      : ∀ plan, Agrees js plan (p.handlings.set run { h with phase })
          → PlanInvariant plan p.network → PlanInvariant plan c)
    (inPhase : h.InPhase js settings c phase)
    (kept
      : ∀ charge, h.charge? js = some charge
          → ({ h with phase } : Handling book).charge? js = some charge)
    : ProxyInvariant js settings start
        { p with network := c, handlings := p.handlings.set run { h with phase } } where
  network := network
  once := by
    have same
        : (p.handlings.set run { h with phase }).map Handling.holdId
          = p.handlings.map Handling.holdId := by
      rw [List.map_set]
      refine List.ext_getElem? fun index => ?_
      by_cases own : run = index
      · subst own
        have inside := (List.getElem?_eq_some_iff.mp found).1
        rw [List.getElem?_set_self (by simpa using inside), List.getElem?_map, found]
        rfl
      · rw [List.getElem?_set_ne own]
    rw [same]
    exact inv.once
  inStep := by
    intro other member
    rcases List.mem_or_eq_of_mem_set member with old | rfl
    · exact ⟨(inv.inStep other old).asked, (inv.inStep other old).phase.grow grown⟩
    · exact ⟨(inv.inStep h (List.mem_of_getElem? found)).asked, inPhase.record phase⟩
  planned := fun plan agrees => planned plan agrees (inv.planned plan (agrees.before found kept))

/-- A run that goes on without a ledger call. -/
theorem goOn_alone (inv : ProxyInvariant js settings start p) {run : ℕ} {h : Handling book}
    (found : p.handlings[run]? = some h) {phase : RunPhase book}
    (inPhase : h.InPhase js settings p.network phase)
    (kept
      : ∀ charge, h.charge? js = some charge
          → ({ h with phase } : Handling book).charge? js = some charge)
    : ProxyInvariant js settings start (p.goOn run h phase) :=
  inv.goOn found inv.network (.refl _) (fun _ _ planned => planned) inPhase kept

/-- A run that goes on with the call that settles its hold. -/
theorem call (inv : ProxyInvariant js settings start p) {run : ℕ} {h : Handling book}
    (found : p.handlings[run]? = some h) {charge : Number} (bytes : ℕ) {phase : ℕ → RunPhase book}
    (inPhase
      : ∀ c : Network, p.network.Extends c
          → c.Issued p.network.calls.length h.sessionId (.settleHold h.holdId charge)
          → h.InPhase js settings c (phase p.network.calls.length))
    (decided
      : ({ h with phase := phase p.network.calls.length } : Handling book).charge? js = some charge)
    (kept : ∀ earlier, h.charge? js = some earlier → earlier = charge)
    : ProxyInvariant js settings start
        (p.call run h (.settleHold h.holdId charge) bytes phase) := by
  have grown := p.network.extends_issue h.sessionId (.settleHold h.holdId charge) bytes
  have inside := (List.getElem?_eq_some_iff.mp found).1
  refine inv.goOn found (inv.network.issued _ _ _) grown ?_
    (inPhase _ grown (p.network.issued_issue _ _ _))
    (fun earlier known => decided.trans (congrArg some (kept earlier known).symm))
  intro plan agrees planned
  obtain ⟨session, _, _, charges⟩ :=
    agrees _ (List.mem_of_getElem? (List.getElem?_set_self inside))
  have acted
      : p.network.act (.issue h.sessionId (.settleHold h.holdId charge) bytes)
        = some (p.network.issue h.sessionId (.settleHold h.holdId charge) bytes) := rfl
  exact planned.act inv.network.store acted ⟨session, charges charge decided⟩

/-- A new session, which no plan is about. -/
theorem booted (inv : ProxyInvariant js settings start p) (sessionId : String) (bytes : ℕ)
    (session : Option (String × ℕ))
    : ProxyInvariant js settings start
        { p with network := p.network.issue sessionId .startSession bytes, session } where
  network := inv.network.issued _ _ _
  once := inv.once
  inStep := fun h member =>
    ⟨(inv.inStep h member).asked, (inv.inStep h member).phase.grow (p.network.extends_issue _ _ _)⟩
  planned := by
    intro plan agrees
    have acted
        : p.network.act (.issue sessionId .startSession bytes)
          = some (p.network.issue sessionId .startSession bytes) := rfl
    exact (inv.planned plan agrees).act inv.network.store acted trivial

/-- A new run, with the call that opens its hold. -/
theorem arrived (inv : ProxyInvariant js settings start p) {sessionId hash holdId : String}
    {micros : Number} {candidates : List (Provider book)} {req : MeteredRequest} {env : Environment}
    (bytes : ℕ) (asked : openCall js settings candidates req env = some (hash, micros, holdId))
    (fresh : ∀ h ∈ p.handlings, h.holdId ≠ holdId)
    : ProxyInvariant js settings start
        {
          p with
          network := p.network.issue sessionId (.openHold hash micros holdId) bytes
          handlings := p.handlings ++
            [⟨sessionId, candidates, req, env, hash, micros, holdId,
              .opening p.network.calls.length⟩]
        } where
  network := inv.network.issued _ _ _
  once := by
    rw [List.map_append, List.nodup_append]
    refine ⟨inv.once, List.nodup_singleton _, ?_⟩
    rintro id earlier _ now rfl
    obtain ⟨h, member, rfl⟩ := List.mem_map.mp earlier
    exact fresh h member (List.mem_singleton.mp now)
  inStep := by
    intro h member
    rcases List.mem_append.mp member with earlier | now
    · exact ⟨(inv.inStep h earlier).asked,
        (inv.inStep h earlier).phase.grow (p.network.extends_issue _ _ _)⟩
    · cases List.mem_singleton.mp now
      exact ⟨asked, .opening (p.network.issued_issue _ _ _)⟩
  planned := by
    intro plan agrees
    obtain ⟨session, sameHash, sameMicros, _⟩ :=
      agrees _ (List.mem_append_right _ (List.mem_singleton.mpr rfl))
    have acted
        : p.network.act (.issue sessionId (.openHold hash micros holdId) bytes)
          = some (p.network.issue sessionId (.openHold hash micros holdId) bytes) := rfl
    have before : Agrees js plan p.handlings := fun h member =>
      agrees h (List.mem_append_left _ member)
    exact (inv.planned plan before).act inv.network.store acted ⟨session, sameHash, sameMicros⟩

/-- A step of the network on its own. -/
theorem routed (inv : ProxyInvariant js settings start p) {action : NetworkAction} {c : Network}
    (acted : p.network.act action = some c)
    (unissued : ∀ sessionId op bytes, action ≠ .issue sessionId op bytes)
    : ProxyInvariant js settings start { p with network := c } where
  network := inv.network.act acted
  once := inv.once
  inStep := fun h member =>
    ⟨(inv.inStep h member).asked,
      (inv.inStep h member).phase.grow (Network.act_extends inv.network acted)⟩
  planned := by
    intro plan agrees
    refine (inv.planned plan agrees).act inv.network.store acted ?_
    cases action with
    | issue sessionId op bytes => exact (unissued sessionId op bytes rfl).elim
    | _ => trivial

/-- A stream that goes on stays in step: an answer it is told is confirmed by the log. -/
theorem streams (inv : ProxyInvariant js settings start p) {h : Handling book} {held : Held book}
    {state : StreamState held.scanner} {calls : List (ℕ × ℕ)} {event : StreamEvent}
    (inPhase : h.InPhase js settings p.network (.streaming held state calls))
    (told : event.told p.network calls)
    : h.InPhase js settings p.network (.streaming held (state.step js event) calls) := by
  cases inPhase with
  | streaming granted stream issued charged =>
      have move := stream.move js event
      refine .streaming granted (stream.step move) ?_ ?_
      · intro attempt call waits
        obtain ⟨decision, decided, sent⟩ := issued attempt call waits
        exact ⟨decision, move.decision_kept decided, sent⟩
      · intro charge done
        rcases stream.charged move done with before | ⟨attempt, decision, rfl, decided, rfl⟩
        · exact charged charge before
        · simp only [StreamEvent.told, decide_eq_true_eq] at told
          obtain ⟨call, waits, answered⟩ := Option.bind_eq_some_iff.mp told
          obtain ⟨before, after, rfl, _⟩ := List.lookup_eq_some_iff.mp waits
          obtain ⟨own, same, sent⟩ := issued attempt call (by simp)
          cases decided.symm.trans same
          exact Network.confirms_returned inv.network sent (Network.returned_settlement answered)

/-- The step lemma: every action keeps the runs in step. -/
theorem act (inv : ProxyInvariant js settings start p) {action : ProxyAction book}
    {p' : ProxyProcess book} (acted : p.act js settings action = some p')
    : ProxyInvariant js settings start p' := by
  have inPhase {run : ℕ} {h : Handling book} (found : p.handlings[run]? = some h)
      : h.InPhase js settings p.network h.phase :=
    (inv.inStep h (List.mem_of_getElem? found)).phase
  have asked {run : ℕ} {h : Handling book} (found : p.handlings[run]? = some h)
      : openCall js settings h.candidates h.req h.env = some (h.hash, h.micros, h.holdId) :=
    (inv.inStep h (List.mem_of_getElem? found)).asked
  cases ProxyProcess.act_move acted with
  | booted sessionId bytes fresh => exact inv.booted sessionId bytes _
  | arrived sessionId bytes asked fresh => exact inv.arrived bytes asked fresh
  | @granted run h call held answer found phase answered told reserved =>
      have sent := inPhase found
      rw [phase] at sent
      cases sent with
      | opening issued =>
          have same := (openCall_of_reserve reserved).symm.trans (asked found)
          simp only [Option.some.injEq, Prod.mk.injEq] at same
          obtain ⟨hash, micros, holdId⟩ := same
          have resolved := reserve_resolved reserved
          rw [hash, micros, holdId] at resolved
          cases told.symm.trans resolved
          have opened :=
            Network.confirms_returned inv.network issued (Network.returned_hold answered)
          exact inv.goOn_alone found (.held ⟨reserved, opened⟩) (by simp [Handling.charge?, phase])
  | @refused run h call found phase =>
      refine inv.goOn_alone found .refused ?_
      simp [Handling.charge?, phase]
  | @streamed run h held effects found phase unbilled =>
      have sent := inPhase found
      rw [phase] at sent
      cases sent with
      | held granted =>
          refine inv.goOn_alone found
            (.streaming granted (.start unbilled) ?_ ?_) ?_
          · intro attempt call member
            cases member
          · intro charge done
            cases done
          · simp [Handling.charge?, phase]
  | @called run h held bytes found phase =>
      have sent := inPhase found
      rw [phase] at sent
      cases sent with
      | held granted =>
          obtain ⟨_, _, same⟩ := granted.asked (asked found)
          rw [same]
          refine inv.call found bytes ?_ rfl (by simp [Handling.charge?, phase])
          intro c grown issued
          exact .settling (granted.grow grown) issued
  | @concluded run h held call answer found phase answered =>
      have sent := inPhase found
      rw [phase] at sent
      cases sent with
      | settling granted issued =>
          refine inv.goOn_alone found (.settled granted ?_) (by simp [Handling.charge?, phase])
          rintro rfl
          exact Network.confirms_returned inv.network issued (Network.returned_settlement answered)
  | @fed run h held state calls event found phase told quiet =>
      have sent := inPhase found
      rw [phase] at sent
      refine inv.goOn_alone found (inv.streams sent told) ?_
      cases sent with
      | streaming granted stream issued charged =>
          intro charge known
          simp only [Handling.charge?, phase, Option.map_eq_some_iff] at known ⊢
          obtain ⟨decision, decided, rfl⟩ := known
          exact ⟨decision, (stream.move js event).decision_kept decided, rfl⟩
  | @attempted run h held state calls debit event bytes found phase told called =>
      have sent := inPhase found
      rw [phase] at sent
      have later := inv.streams sent told
      cases sent with
      | streaming granted stream issued charged =>
          have move := stream.move js event
          obtain ⟨decision, decided, rfl⟩ := move.newCall called
          obtain ⟨_, _, same⟩ := granted.asked (asked found)
          rw [same]
          refine inv.call found bytes ?_ ?_ ?_
          · intro c grown sent
            cases later.grow grown with
            | streaming granted next issued charged =>
                refine .streaming granted next ?_ charged
                intro attempt call waits
                rcases List.mem_cons.mp waits with now | earlier
                · cases now
                  exact ⟨decision, decided, sent⟩
                · exact issued attempt call earlier
          · simp [Handling.charge?, decided]
          · intro earlier known
            simp only [Handling.charge?, phase, Option.map_eq_some_iff] at known
            obtain ⟨before, fixed, rfl⟩ := known
            cases (move.decision_kept fixed).symm.trans decided
            rfl
  | routed taken unissued => exact inv.routed taken unissued
  | died => exact ⟨inv.network, inv.once, inv.inStep, inv.planned⟩

end ProxyInvariant

-----------------------------------------------------------------------------------------
-- The contract of the proxy
-----------------------------------------------------------------------------------------

/-- What a run has cost a token, by the ledger's log: its decided charge, if that is settled. -/
def Handling.billed (js : Runtime) (history : History) (hash : String) (h : Handling book) : ℤ :=
  if h.hash = hash ∧ h.holdId ∈ history.settledHolds.map Prod.fst then
    match h.charge? js with
    | some (.finite charge) => ⌊charge⌋
    | _ => 0
  else 0

/-- What holds of the proxy in any state of any run. -/
structure RequestsContract (js : Runtime) (settings : HandlerSettings) (start : BalanceStore)
    (p : ProxyProcess book)
    : Prop where
  granted
    : ∀ h ∈ p.handlings, ∀ held, h.held? = some held
        → reserve js settings h.candidates h.req h.env = .ok held
          ∧ ∃ hold, .opened hold ∈ p.network.history.log ∧ hold.holdId = held.holdId
              ∧ hold.sessionId = some h.sessionId ∧ hold.hash = held.hash
              ∧ held.holdAmount = .ofInt hold.micros
  openedOnce : (p.network.history.openedHolds.map Prod.fst).Nodup
  chargedOnce : (p.network.history.settledHolds.map Prod.fst).Nodup
  charged
    : ∀ hold charge, .settled hold charge ∈ p.network.history.log
        → (∃ h ∈ p.handlings, ∃ held, h.held? = some held ∧ held.holdId = hold.holdId
            ∧ held.hash = hold.hash ∧ h.charge? js = some (.ofInt charge))
          ∧ 0 ≤ charge ∧ charge ≤ hold.micros
  completed
    : ∀ h ∈ p.handlings, ∀ charge, h.confirmed? js = some charge
        → h.charge? js = some charge
          ∧ ∃ hold amount, .settled hold amount ∈ p.network.history.log
              ∧ hold.holdId = h.holdId ∧ hold.hash = h.hash ∧ charge = .ofInt amount
  billed
    : ∀ hash, p.network.history.db.funds hash
          + (p.handlings.map (Handling.billed js p.network.history hash)).sum
        = start.funds hash + p.network.history.creditedTo hash
  columns : CountsExactly start p.network.history
  unrejected
    : ∀ (id : ℕ) call, p.network.calls[id]? = some call → call.op.mutation → ¬call.state.Rejects

/-- The plan of the runs so far. -/
def planOf (js : Runtime) (handlings : List (Handling book)) (holdId : String) : HoldPlan :=
  match handlings.find? (fun h => h.holdId = holdId) with
  | some h => ⟨h.sessionId, h.hash, h.micros, (h.charge? js).getD .nan⟩
  | none => ⟨"", "", .nan, .nan⟩

/-- Runs with distinct hold ids are found by them. -/
theorem find_handling {handlings : List (Handling book)}
    (once : (handlings.map Handling.holdId).Nodup) {h : Handling book} (member : h ∈ handlings)
    : handlings.find? (fun other => other.holdId = h.holdId) = some h := by
  cases found : handlings.find? (fun other => decide (other.holdId = h.holdId)) with
  | none => simpa using List.find?_eq_none.mp found h member
  | some other =>
      have same : other.holdId = h.holdId := by simpa using List.find?_some found
      rw [List.inj_on_of_nodup_map once (List.mem_of_find?_eq_some found) member same]

theorem planOf_agrees {handlings : List (Handling book)}
    (once : (handlings.map Handling.holdId).Nodup)
    : Agrees js (planOf js handlings) handlings := by
  intro h member
  have found := find_handling once member
  unfold planOf
  simp only [found]
  exact ⟨trivial, trivial, trivial, fun charge known => by rw [known]; rfl⟩

namespace ProxyInvariant

/-- Everything settled was decided by a run, of the token it is charged to. -/
theorem decided (inv : ProxyInvariant js settings start p) {hold : HoldRow} {charge : ℤ}
    (logged : .settled hold charge ∈ p.network.history.log)
    : ∃ h ∈ p.handlings, h.holdId = hold.holdId ∧ h.hash = hold.hash
        ∧ h.charge? js = some (.ofInt charge) := by
  have planned := inv.planned _ (planOf_agrees inv.once)
  have opened := planned.opened hold (inv.network.holds.settleFate hold charge logged).1
  have carried := planned.settled hold charge logged
  unfold planOf at opened carried
  cases found : p.handlings.find? (fun h => decide (h.holdId = hold.holdId)) with
  | none => simp [found, Number.ofInt] at carried
  | some h =>
      simp only [found] at opened carried
      have own : h.holdId = hold.holdId := by simpa using List.find?_some found
      refine ⟨h, List.mem_of_find?_eq_some found, own, opened.2.1.symm, ?_⟩
      cases known : h.charge? js with
      | none => simp [known, Number.ofInt] at carried
      | some decided => simpa [known] using carried

/-- A run that has decided a charge holds its hold. -/
theorem held_of_charge {h : Handling book} {charge : Number} (known : h.charge? js = some charge)
    : ∃ held, h.held? = some held := by
  unfold Handling.charge? at known
  unfold Handling.held?
  split at known <;> simp_all

/-- A charge that a run takes for settled is one the ledger has settled. -/
theorem charged (inv : ProxyInvariant js settings start p) {h : Handling book}
    (member : h ∈ p.handlings) {charge : Number} (known : h.confirmed? js = some charge)
    : h.Charged p.network charge := by
  have inPhase := (inv.inStep h member).phase
  unfold Handling.confirmed? at known
  split at known
  · rename_i held phase
    rw [phase] at inPhase
    cases inPhase with
    | settled granted charged =>
        cases known
        exact charged rfl
  · rename_i held state calls phase
    rw [phase] at inPhase
    cases inPhase with
    | streaming granted stream issued charged => exact charged charge known
  · cases known

/-- A run with a hold was granted it. -/
theorem granted (inv : ProxyInvariant js settings start p) {h : Handling book}
    (member : h ∈ p.handlings) {held : Held book} (holds : h.held? = some held)
    : h.Granted js settings p.network held := by
  have inPhase := (inv.inStep h member).phase
  unfold Handling.held? at holds
  split at holds
  all_goals cases holds
  all_goals
    rename_i phase
    rw [phase] at inPhase
  · cases inPhase with
    | held granted => exact granted
  · cases inPhase with
    | settling granted issued => exact granted
  · cases inPhase with
    | settled granted charged => exact granted
  · cases inPhase with
    | streaming granted stream issued charged => exact granted

/-- No hold id is settled twice, not even in two sessions. -/
theorem chargedOnce (inv : ProxyInvariant js settings start p)
    : (p.network.history.settledHolds.map Prod.fst).Nodup := by
  have planned := inv.planned _ (planOf_agrees inv.once)
  refine Log.nodup_fst (fun holdId => some (planOf js p.handlings holdId).sessionId)
    inv.network.holds.settledOnce ?_
  rintro ⟨holdId, session⟩ member
  obtain ⟨hold, charge, logged, rfl, rfl⟩ := History.exists_of_mem_settledHolds member
  exact (planned.opened hold (inv.network.holds.settleFate hold charge logged).1).1

/-- What the ledger has charged a token is what the runs of that token have cost it. -/
theorem billed (inv : ProxyInvariant js settings start p) (hash : String)
    : p.network.history.chargedTo hash
      = (p.handlings.map (Handling.billed js p.network.history hash)).sum := by
  have ids
      : p.network.history.log.filterMap (fun event => event.settled?.map Prod.fst)
        = p.network.history.settledHolds.map Prod.fst := by
    rw [History.settledHolds, List.map_filterMap]
  refine Log.sum_by_owner (ids ▸ inv.chargedOnce) inv.once ?_ ?_ ?_
  · intro event logged unkeyed
    cases event with
    | settled hold charge => cases unkeyed
    | _ => rfl
  · intro event logged holdId keyed
    cases event with
    | settled hold charge =>
        cases keyed
        obtain ⟨h, member, own, sameHash, known⟩ := inv.decided logged
        have settled : hold.holdId ∈ p.network.history.settledHolds.map Prod.fst :=
          ids ▸ List.mem_filterMap.mpr ⟨_, logged, rfl⟩
        refine ⟨h, member, own, ?_⟩
        simp [Handling.billed, LedgerEvent.charge, own, sameHash, settled, known, Number.ofInt]
    | _ => cases keyed
  · intro h member unsettled
    rw [ids] at unsettled
    exact if_neg fun both => unsettled both.2

end ProxyInvariant

/-- The contract holds after any actions. -/
theorem requests_contract {db : BalanceStore} (legacy : db.Legacy)
    {actions : List (ProxyAction book)} {p : ProxyProcess book}
    (ran : (ProxyProcess.down db).run? js settings actions = some p)
    : RequestsContract js settings db p := by
  have inv : ProxyInvariant js settings db p :=
    foldlM_keeps (ProxyInvariant js settings db) ran (.down legacy) fun inv acted => inv.act acted
  have planned := inv.planned _ (planOf_agrees inv.once)
  exact {
    granted := by
      intro h member held holds
      have granted := inv.granted member holds
      obtain ⟨hash, micros, holdId⟩ := granted.asked (inv.inStep h member).asked
      obtain ⟨hold, logged, sameId, session, sameHash, sameMicros⟩ := granted.opened
      exact ⟨granted.reserved, hold, logged, sameId.trans holdId.symm, session,
        sameHash.trans hash.symm, micros.trans sameMicros⟩
    openedOnce := by
      refine Log.nodup_fst (fun holdId => some (planOf js p.handlings holdId).sessionId)
        inv.network.holds.openedOnce ?_
      rintro ⟨holdId, session⟩ member
      obtain ⟨hold, logged, rfl, rfl⟩ := History.exists_of_mem_openedHolds member
      exact (planned.opened hold logged).1
    chargedOnce := inv.chargedOnce
    charged := by
      intro hold charge logged
      refine ⟨?_, inv.network.store.charges hold charge logged⟩
      obtain ⟨h, member, own, sameHash, known⟩ := inv.decided logged
      obtain ⟨held, holds⟩ := ProxyInvariant.held_of_charge known
      obtain ⟨hash, _, holdId⟩ :=
        (inv.granted member holds).asked (inv.inStep h member).asked
      exact ⟨h, member, held, holds, holdId.trans own, hash.trans sameHash, known⟩
    completed := by
      intro h member charge known
      obtain ⟨hold, amount, logged, sameId, _, rfl⟩ := inv.charged member known
      obtain ⟨other, otherMember, own, sameHash, decided⟩ := inv.decided logged
      cases List.inj_on_of_nodup_map inv.once otherMember member (own.trans sameId)
      exact ⟨decided, hold, amount, logged, sameId, sameHash.symm, rfl⟩
    billed := by
      intro hash
      rw [← inv.billed hash]
      exact inv.network.store.conserved hash
    columns := inv.network.reached.countsExactly legacy
    unrejected := inv.network.unrejected
  }

section Example

/-- The parser of a buffered and of a streaming request. -/
def exampleTrafficJs : Runtime :=
  exampleRuntime [(exampleRaw, exampleBody (.ofInt 100)), (exampleStreamRaw, exampleStreamBody)]

/-- A ledger with one funded token, which no session has touched. -/
def exampleFunds : BalanceStore :=
  {
    BalanceStore.empty with
    tokens := ⟨[⟨exampleSettings.hashToken "0sink_example", 1000000⟩], List.nodup_singleton _⟩
  }

/-- A request whose body breaks off, and a stream whose client cancels. The first settlement is lost
and sent again. The proxy dies before the stream's is delivered, which then still settles; the
last copy comes after the next session has begun.
-/
def exampleTraffic : List (ProxyAction exampleBook) :=
  [
    .boot Ledger.exampleSession 60,
    .network (.deliver 0 1 10 false),
    .network (.receive 0),
    .arrive (exampleCandidates exampleTrafficJs) (exampleRequest exampleRaw) exampleEnvironment 200,
    .arrive (exampleCandidates exampleTrafficJs) (exampleRequest exampleStreamRaw)
      { exampleEnvironment with holdId := Metering.exampleHold } 200,
    .network (.deliver 2 1 20 false),
    .network (.deliver 1 1 21 false),
    .network (.receive 2),
    .network (.receive 1),
    .opened 0,
    .opened 1,
    .serve 0 120,
    .serve 1 120,
    .network (.deliver 3 1 30 false),
    .network (.lose 3 "timeout"),
    .network (.retry 3),
    .network (.deliver 3 2 31 false),
    .network (.receive 4),
    .settled 0,
    .stream 1 .clientCancel 0,
    .stream 1 .eof 120,
    .die,
    .network (.deliver 4 1 40 false),
    .boot "7d0c4c4e-3d52-4ddc-9a43-0f1c7a2b6e11" 60,
    .network (.deliver 5 1 50 false),
    .network (.deliver 4 1 60 false)
  ]

/-- The contract after that run. -/
theorem requests_contract_died
    : RequestsContract exampleTrafficJs exampleSettings exampleFunds
        (((ProxyProcess.down exampleFunds).run? exampleTrafficJs exampleSettings exampleTraffic).get
          (by decide +kernel)) :=
  requests_contract ⟨by decide, by decide, rfl, rfl⟩ (Option.some_get _).symm

end Example

end Nullsink.Proxy
