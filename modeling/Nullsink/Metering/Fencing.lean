import Nullsink.Metering.ExactlyOnce

/-! Proxy processes one after another, and the start requests they leave in flight. The ledger
fences a session once it has been replaced; a start that was never admitted is not fenced.
-/

namespace Nullsink.Metering

open Ledger Ecma Relational Transition

/-- The session of a second process. -/
def laterSession : String := "7d0c4c4e-3d52-4ddc-9a43-0f1c7a2b6e11"

/-- A network and the sessions of its proxy processes in the order they were started. A process
is started after the one before it has exited, so only the last one runs.
-/
structure Fleet where
  network : Network
  processes : List String

inductive FleetAction where
  | spawn (sessionId : String)
  | net (action : NetworkAction)

/-- The session whose process takes an action; deliveries and credits need no process. -/
def Network.owner (n : Network) : NetworkAction → Option String
  | .issue sessionId _ _ => some sessionId
  | .receive index =>
      ((n.answers[index]?).bind (fun answer => n.calls[answer.call]?)).map Call.sessionId
  | .lose id _ => (n.calls[id]?).map Call.sessionId
  | .retry id => (n.calls[id]?).map Call.sessionId
  | .giveUp id => (n.calls[id]?).map Call.sessionId
  | .deliver _ _ _ _ => none
  | .credit _ _ _ _ => none

namespace Fleet

/-- A ledger before the first process. -/
def quiet (db : BalanceStore) : Fleet :=
  ⟨.quiet db, []⟩

def act (f : Fleet) : FleetAction → Option Fleet
  | .spawn sessionId =>
      if sessionId ∈ f.processes then none
      else some { f with processes := f.processes ++ [sessionId] }
  | .net action =>
      if (f.network.owner action).all (fun sessionId => f.processes.getLast? = some sessionId) then
        (f.network.act action).map (fun network => { f with network })
      else none

def run? (f : Fleet) (actions : List FleetAction) : Option Fleet :=
  actions.foldlM act f

/-- Processes one after another on one ledger. -/
def system : System Fleet FleetAction where
  initial f := ∃ db : BalanceStore, db.Legacy ∧ f = quiet db
  step f action f' := f.act action = some f'

theorem system_run {f f' : Fleet} {actions : List FleetAction} (ran : f.run? actions = some f')
    : system.Run f actions f' :=
  System.run_of_foldlM ran fun _ acted => acted

/-- A process that exits before its start was delivered, and its successor: the successor is
admitted and opens a hold, and then the start of the first process arrives.
-/
def delayedStartRun : List FleetAction :=
  [
    .spawn exampleSession,
    .net (.issue exampleSession .startSession 53),
    .spawn laterSession,
    .net (.issue laterSession .startSession 53),
    .net (.deliver 1 1 10 false),
    .net (.receive 0),
    .net (.issue laterSession (.openHold exampleHash (.ofInt 70) exampleHold) 200),
    .net (.deliver 2 1 20 false),
    .net (.receive 1),
    .net (.deliver 0 1 30 false)
  ]

/-- The same start delivered once before its process exits, and again after the takeover. -/
def takeoverRun : List FleetAction :=
  [
    .spawn exampleSession,
    .net (.issue exampleSession .startSession 53),
    .net (.deliver 0 1 5 false),
    .spawn laterSession,
    .net (.issue laterSession .startSession 53),
    .net (.deliver 1 1 10 false),
    .net (.receive 1),
    .net (.deliver 0 1 30 false)
  ]

/-- A process's client has received a `started` or `current` result. -/
def Admitted (f : Fleet) (sessionId : String) : Prop :=
  ∃ (id : ℕ) (call : Call) (outcome : String) (holds micros : ℤ),
    f.network.calls[id]? = some call ∧ call.sessionId = sessionId ∧ call.op = .startSession
      ∧ call.state = .done (.returned (.session outcome holds micros))

/-- The delivery of a start copy of an earlier process after a later one was admitted. -/
structure LateStart (f : Fleet) (action : FleetAction) (call : Call) (nowMs : ℤ)
    (later : String)
    : Prop where
  delivery
    : ∃ id attempt hookThrows, action = .net (.deliver id attempt nowMs hookThrows)
        ∧ f.network.calls[id]? = some call
  start : call.op = .startSession
  order : [call.sessionId, later].Sublist f.processes
  admitted : f.Admitted later

/-- A late start changes neither the current session nor any hold of the later process. -/
def StartFenced (f : Fleet) (action : FleetAction) (f' : Fleet) : Prop :=
  ∀ call nowMs later, f.LateStart action call nowMs later
    → f'.network.history.db.currentSession = f.network.history.db.currentSession
      ∧ ∀ hold ∈ f.network.history.db.holds.rows, hold.sessionId = some later
          → hold ∈ f'.network.history.db.holds.rows

/-- A late start names a session the ledger has had before, or is refused before the store. -/
def StartKnown (f : Fleet) (action : FleetAction) (_ : Fleet) : Prop :=
  ∀ call nowMs later, f.LateStart action call nowMs later
    → f.network.history.db.currentSession = some call.sessionId
      ∨ (f.network.history.db.retiredLedgerSessions.get? call.sessionId).isSome
      ∨ ∃ response, ledgerCall call.request nowMs = .error response

/-- Every action of a fleet keeps the invariant of its network. -/
theorem invariant {start : BalanceStore} (legacy : start.Legacy) {actions : List FleetAction}
    {f : Fleet} (run : system.Run (quiet start) actions f)
    : NetworkInvariant start f.network := by
  refine run.rule (fun _ f => NetworkInvariant start f.network) (.quiet legacy) ?_
  intro _ f action f' _ inv step
  cases action with
  | spawn sessionId =>
      simp only [system, act] at step
      split at step
      · cases step
      · cases step
        exact inv
  | net action =>
      simp only [system, act] at step
      split at step
      · obtain ⟨network, acted, rfl⟩ := Option.map_eq_some_iff.mp step
        exact inv.act acted
      · cases step

/-- The ledger after the delivery of a start copy: refused before the store, or the outcome of
its session's start.
-/
theorem deliver_start {start : BalanceStore} {n n' : Network} (inv : NetworkInvariant start n)
    {id attempt : ℕ} {nowMs : ℤ} {hookThrows : Bool} {call : Call}
    (delivered : n.act (.deliver id attempt nowMs hookThrows) = some n')
    (found : n.calls[id]? = some call) (asked : call.op = .startSession)
    : ((∃ response, ledgerCall call.request nowMs = .error response) ∧ n'.history = n.history)
      ∨ (∀ response, ledgerCall call.request nowMs ≠ .error response)
        ∧ ∃ outcome, BeginSessionStep n.history.db call.sessionId nowMs outcome n'.history.db := by
  simp only [Network.act, found] at delivered
  split at delivered
  · cases delivered
    simp only [History.handle]
    have routes := ledgerCall_request call.op call.sessionId call.bytes nowMs
    rw [← Call.request, asked] at routes
    rcases routes with routed | routed | routed
    · right
      obtain ⟨result, db', taken⟩ :=
        inv.store.apply_completes (.beginSession call.sessionId nowMs)
      obtain ⟨outcome, rfl, step⟩ := apply_beginSession taken
      refine ⟨by simp [routed], outcome, ?_⟩
      simpa [routed, ClientOp.storeOp, History.call, taken] using step
    · exact Or.inl ⟨⟨_, routed⟩, by simp [routed]⟩
    · exact Or.inl ⟨⟨_, routed⟩, by simp [routed]⟩
  · cases delivered

/-- A step fences late starts exactly when it delivers none of a session new to the ledger. -/
theorem startFenced_iff {start : BalanceStore} {f f' : Fleet} {action : FleetAction}
    (inv : NetworkInvariant start f.network) (step : system.step f action f')
    : f.StartFenced action f' ↔ f.StartKnown action f' := by
  have effect {call : Call} {nowMs : ℤ} {later : String}
      (late : f.LateStart action call nowMs later)
      : ((∃ response, ledgerCall call.request nowMs = .error response)
          ∧ f'.network.history = f.network.history)
        ∨ (∀ response, ledgerCall call.request nowMs ≠ .error response)
          ∧ ∃ outcome, BeginSessionStep f.network.history.db call.sessionId nowMs outcome
              f'.network.history.db := by
    obtain ⟨id, attempt, hookThrows, rfl, found⟩ := late.delivery
    simp only [system, act] at step
    split at step
    · obtain ⟨network, acted, rfl⟩ := Option.map_eq_some_iff.mp step
      exact deliver_start inv acted found late.start
    · cases step
  constructor
  · intro fenced call nowMs later late
    have kept := (fenced call nowMs later late).1
    rcases effect late with ⟨refused, _⟩ | ⟨_, outcome, begun⟩
    · exact Or.inr (Or.inr refused)
    · generalize f'.network.history.db = db' at begun kept
      cases begun with
      | current found same =>
          exact Or.inl (by simp [BalanceStore.currentSession, found, same])
      | staleSession other retired => exact Or.inr (Or.inl retired)
      | started other fresh fence => exact (other kept.symm).elim
  · intro known call nowMs later late
    rcases effect late with ⟨_, unchanged⟩ | ⟨accepted, outcome, begun⟩
    · rw [unchanged]
      exact ⟨rfl, fun _ member _ => member⟩
    · generalize f'.network.history.db = db' at begun
      cases begun with
      | current found same => exact ⟨rfl, fun _ member _ => member⟩
      | staleSession other retired => exact ⟨rfl, fun _ member _ => member⟩
      | started other fresh fence =>
          rcases known call nowMs later late with current | retired | ⟨response, refused⟩
          · exact (other current).elim
          · simp [fresh] at retired
          · exact (accepted response refused).elim

/-- Along every run late starts are fenced exactly when each of them names a session that the
ledger already has as current or retired.
-/
theorem starts_fenced_iff {start : BalanceStore} (legacy : start.Legacy)
    (actions : List FleetAction)
    : system.EveryStep (quiet start) actions StartFenced
      ↔ system.EveryStep (quiet start) actions StartKnown :=
  System.everyStep_iff fun run step => startFenced_iff (invariant legacy run) step

/-- A start copy that arrives before any answer was read, or of a session the ledger has had. -/
def StartTested (f : Fleet) : FleetAction → Prop
  | .net (.deliver id _ _ _) =>
      (∀ call ∈ f.network.calls, call.state = .awaiting)
      ∨ ∀ call ∈ f.network.calls[id]?,
          f.network.history.db.currentSession = some call.sessionId
            ∨ (f.network.history.db.retiredLedgerSessions.get? call.sessionId).isSome
  | _ => True

instance (f : Fleet) (action : FleetAction) : Decidable (f.StartTested action) := by
  unfold StartTested
  split <;> infer_instance

theorem StartTested.known {f f' : Fleet} {action : FleetAction} (tested : f.StartTested action)
    : f.StartKnown action f' := by
  rintro call nowMs later ⟨⟨id, attempt, hookThrows, rfl, found⟩, _, _, admitted⟩
  rcases tested with waiting | known
  · obtain ⟨other, answered, outcome, holds, micros, stored, _, _, done⟩ := admitted
    simp [waiting answered (List.mem_of_getElem? stored)] at done
  · exact (known call found).imp_right Or.inl

/-- Over a takeover in which the older start was admitted before, late starts are known, so they are
fenced.
-/
theorem starts_fenced_iff_takeover
    : system.EveryStep (quiet fundedStore) takeoverRun StartFenced
      ∧ system.EveryStep (quiet fundedStore) takeoverRun StartKnown := by
  have passes
      : (takeoverRun.foldlM
          (fun (f : Fleet) (action : FleetAction) =>
            if f.StartTested action then f.act action else none)
          (quiet fundedStore)).isSome = true := by
    decide +kernel
  obtain ⟨_, ran⟩ := Option.isSome_iff_exists.mp passes
  have tested
      : system.EveryStep (quiet fundedStore) takeoverRun (fun f action _ => f.StartTested action) :=
    System.everyStep_of_foldlM ran fun step => step
  have known : system.EveryStep (quiet fundedStore) takeoverRun StartKnown :=
    fun earlier action later f f' whole run step =>
      (tested earlier action later f f' whole run step).known
  exact ⟨(starts_fenced_iff ⟨by decide, by decide, rfl, rfl⟩ takeoverRun).mpr known, known⟩

/-- The fleet just before the delayed start is delivered. -/
def beforeDelayedStart : Fleet :=
  ((quiet fundedStore).run? delayedStartRun.dropLast).get (by decide +kernel)

/-- The older start was never admitted: it takes the session from its live successor, whose
open hold it refunds.
-/
theorem delayed_start_not_fenced
    : ¬system.EveryStep (quiet fundedStore) delayedStartRun StartFenced := by
  intro every
  have late
      : beforeDelayedStart.LateStart (.net (.deliver 0 1 30 false))
          ⟨exampleSession, .startSession, 53, 1, .awaiting⟩ 30 laterSession := {
    delivery := ⟨0, 1, false, rfl, by decide +kernel⟩
    start := rfl
    order := by decide +kernel
    admitted :=
      ⟨1, ⟨laterSession, .startSession, 53, 1, .done (.returned (.session "started" 0 0))⟩,
        "started", 0, 0, by decide +kernel, rfl, rfl, rfl⟩
  }
  have takesOver
      : (beforeDelayedStart.act (.net (.deliver 0 1 30 false))).map
            (fun f => f.network.history.db.currentSession)
          = some (some exampleSession)
        ∧ beforeDelayedStart.network.history.db.currentSession = some laterSession := by
    decide +kernel
  obtain ⟨after, acted, taken⟩ := Option.map_eq_some_iff.mp takesOver.1
  have fenced := every delayedStartRun.dropLast (.net (.deliver 0 1 30 false)) []
    beforeDelayedStart after rfl (system_run (Option.some_get _).symm) acted
  have kept := (fenced _ 30 laterSession late).1
  rw [taken, takesOver.2] at kept
  exact absurd kept (by decide)

end Fleet

end Nullsink.Metering
