import Nullsink.Lib.Transition
import Nullsink.Proxy.StreamOutcome

/-! The graceful shutdown of `shutdown.ts` over the streams that the handlers register: the grace
loop, the settlements that it forces, and the streams that it has not read.
-/

namespace Nullsink.Proxy

open Ecma Latch Transition

/-- Where `drainInflight` is. While it settles it waits for the attempt that the `settle` of each
straggler returned; `late` are the streams registered since the stragglers were read.
-/
inductive Drain where
  | idle
  | waiting (deadline : ℤ)
  | settling (stragglers : List (ℕ × Option ℕ)) (late : List ℕ)
  | returned (forceSettled settleErrors : ℕ)
  deriving DecidableEq

/-- The streams that the handlers have registered, oldest first, with what has happened to each,
and whether the server has said that its handlers returned.
-/
structure Shutdown where
  registered : List ℕ
  events : ℕ → List StreamEvent
  handlersDone : Bool
  drain : Drain

/-- What happens in the process. A handler registers its stream, also while it is the last one
that the server waits for; the drain starts, looks at its clock, and goes on when the settlements
that it has started are over.
-/
inductive ShutdownAction where
  | register (i : ℕ)
  | stream (i : ℕ) (event : StreamEvent)
  | handlersReturned
  | drainInflight (now graceMs : ℤ)
  | poll (now : ℤ)
  | allSettled

/-- Whether the promise of an attempt is fulfilled or rejected; none while it is pending. -/
def SettlementAttempt.outcome (attempt : SettlementAttempt) : Option Bool :=
  match attempt.phase with
  | .completed _ => some true
  | .rejected => some false
  | _ => none

namespace Shutdown

variable {book : PriceBook} (js : Runtime) (held : ℕ → Held book) (opened : ℕ → List Effect)

/-- The closures of a stream. -/
def stream (p : Shutdown) (i : ℕ) : StreamState (held i).scanner :=
  streamRun js (held i) (opened i) (p.events i)

/-- The registry, in insertion order. -/
def inflight (p : Shutdown) : List ℕ :=
  p.registered.filter (fun i => (p.stream js held opened i).inflight)

/-- A stream registers before its handler returns the response. -/
def register (p : Shutdown) (i : ℕ) : Shutdown :=
  {
    p with
    registered := p.registered ++ [i]
    events := fun j => if j = i then [] else p.events j
    drain :=
      match p.drain with
      | .settling stragglers late => .settling stragglers (late ++ [i])
      | drain => drain
  }

def record (p : Shutdown) (i : ℕ) (event : StreamEvent) : Shutdown :=
  { p with events := fun j => if j = i then p.events j ++ [event] else p.events j }

/-- `settle("drain")` of every stream in the registry. -/
def settleStragglers (p : Shutdown) : Shutdown :=
  {
    p with
    events := fun i => if i ∈ p.inflight js held opened then p.events i ++ [.drain] else p.events i
  }

/-- The registry is read once, and each straggler's `settle` returns the attempt it waits for. -/
def forceSettle (p : Shutdown) : Shutdown :=
  let settled := p.settleStragglers js held opened
  {
    settled with
    drain :=
      .settling
        ((p.inflight js held opened).map
          (fun i => (i, (settled.stream js held opened i).attempts.latch)))
        []
  }

/-- The result of a straggler's settlement. -/
def outcome (p : Shutdown) (straggler : ℕ × Option ℕ) : Option Bool :=
  (straggler.2.bind ((p.stream js held opened straggler.1).attempts.made[·]?)).bind
    SettlementAttempt.outcome

/-- One action, where it can happen. Only the drain settles with its own reason. -/
def act (p : Shutdown) : ShutdownAction → Option Shutdown
  | .register i => if i ∈ p.registered then none else some (p.register i)
  | .stream _ .drain => none
  | .stream i event => if i ∈ p.registered then some (p.record i event) else none
  | .handlersReturned => some { p with handlersDone := true }
  | .drainInflight now graceMs =>
      match p.drain with
      | .idle => some { p with drain := .waiting (now + graceMs) }
      | _ => none
  | .poll now =>
      match p.drain with
      | .waiting deadline =>
          if (¬p.handlersDone ∨ p.inflight js held opened ≠ []) ∧ now < deadline then some p
          else some (p.forceSettle js held opened)
      | _ => none
  | .allSettled =>
      match p.drain with
      | .settling stragglers _ =>
          let results := stragglers.map (p.outcome js held opened)
          if results.all Option.isSome then
            some
              {
                p with
                drain := .returned (results.count (some true)) (results.count (some false))
              }
          else none
      | _ => none

end Shutdown

/-- The process from its start, over every schedule of handlers, streams and the drain. -/
def shutdown {book : PriceBook} (js : Runtime) (held : ℕ → Held book) (opened : ℕ → List Effect)
    : System Shutdown ShutdownAction where
  initial p := p.registered = [] ∧ p.drain = .idle
  step p action next := p.act js held opened action = some next

/-- A handler got as far as registering a stream. -/
def Served {book : PriceBook} (js : Runtime) (held : Held book) (opened : List Effect) : Prop :=
  ∃ settings candidates req env,
    handleMetered js settings candidates req env = (.streaming held, opened)

-----------------------------------------------------------------------------------------
-- The streams through the actions
-----------------------------------------------------------------------------------------

/-- An attempt that has been made stays among those made. -/
theorem StreamMove.made_kept {book : PriceBook} {js : Runtime} {held : Held book}
    {state next : StreamState held.scanner} {event : StreamEvent}
    (move : StreamMove js state event next) {i : ℕ}
    (made : ∃ attempt, state.attempts.made[i]? = some attempt)
    : ∃ attempt, next.attempts.made[i]? = some attempt := by
  have advanced {j : ℕ} {attempt : SettlementAttempt} (later : SettlementAttempt)
      (found : state.attempts.made[j]? = some attempt)
      : ∃ attempt, (state.attempts.advance j later).made[i]? = some attempt := by
    obtain ⟨before, member⟩ := made
    have seen : ∃ attempt, state.attempts.made[i]? = some attempt ∧ True :=
      ⟨before, member, trivial⟩
    obtain ⟨after, kept, _⟩ := Attempts.exists_advance seen found (fun _ => trivial)
    exact ⟨after, kept⟩
  cases move with
  | fed scan => exact made
  | marked requestedCause kept => exact made
  | attempted terminalCause requestedCause free amount first =>
      obtain ⟨attempt, found⟩ := made
      exact ⟨attempt, Attempts.made_start_of_made found⟩
  | confirmed found => exact advanced _ found
  | denied found => exact advanced _ found
  | finished found => exact advanced _ found
  | gaveUp found => exact advanced _ found

namespace Shutdown

section Streams

variable {book : PriceBook} {js : Runtime} {held : ℕ → Held book} {opened : ℕ → List Effect}
  {p : Shutdown}

theorem mem_inflight {i : ℕ}
    : i ∈ p.inflight js held opened
      ↔ i ∈ p.registered ∧ (p.stream js held opened i).inflight = true := by
  simp [inflight]

theorem stream_record_self (i : ℕ) (event : StreamEvent)
    : (p.record i event).stream js held opened i
      = (p.stream js held opened i).step js event := by
  simp [stream, record, streamRun_snoc]

theorem stream_record_ne {i j : ℕ} (other : j ≠ i) (event : StreamEvent)
    : (p.record i event).stream js held opened j = p.stream js held opened j := by
  simp [stream, record, other]

theorem stream_register {i j : ℕ} (other : j ≠ i)
    : (p.register i).stream js held opened j = p.stream js held opened j := by
  simp [stream, register, other]

theorem stream_settled {i : ℕ} (live : i ∈ p.inflight js held opened)
    : (p.settleStragglers js held opened).stream js held opened i
      = (p.stream js held opened i).step js .drain := by
  simp [stream, settleStragglers, live, streamRun_snoc]

theorem stream_unsettled {i : ℕ} (gone : i ∉ p.inflight js held opened)
    : (p.settleStragglers js held opened).stream js held opened i = p.stream js held opened i := by
  simp [stream, settleStragglers, gone]

/-- Every stream that handlers register keeps the invariant of its settlement. -/
theorem stream_invariant (served : ∀ i, Served js (held i) (opened i)) (p : Shutdown) (i : ℕ)
    : StreamInvariant (p.stream js held opened i) := by
  obtain ⟨settings, candidates, req, env, streams⟩ := served i
  exact streamRun_invariant (handleMetered_unbilled streams) (p.events i)

end Streams

end Shutdown

-----------------------------------------------------------------------------------------
-- What the drain waits for
-----------------------------------------------------------------------------------------

section Drain

variable {book : PriceBook} (js : Runtime) (held : ℕ → Held book) (opened : ℕ → List Effect)

/-- While the drain settles, every stream is late, a straggler, or already out of the registry;
and each straggler has the attempt that its `settle` returned.
-/
structure Settling (p : Shutdown) (stragglers : List (ℕ × Option ℕ)) (late : List ℕ) : Prop where
  known
    : ∀ i ∈ p.registered, i ∈ late ∨ i ∈ stragglers.map Prod.fst
        ∨ (p.stream js held opened i).inflight = false
  attempted
    : ∀ straggler ∈ stragglers, straggler.1 ∈ p.registered
        ∧ ∃ k attempt, straggler.2 = some k
          ∧ (p.stream js held opened straggler.1).attempts.made[k]? = some attempt
  late : ∀ i ∈ late, i ∈ p.registered ∧ i ∉ stragglers.map Prod.fst

variable {js held opened} {p next : Shutdown} {stragglers : List (ℕ × Option ℕ)} {late : List ℕ}

/-- Reading the stragglers starts or joins an attempt for every stream in the registry. -/
theorem Settling.forceSettle (served : ∀ i, Served js (held i) (opened i))
    : Settling js held opened (p.forceSettle js held opened)
        ((p.inflight js held opened).map
          (fun i => (i, ((p.forceSettle js held opened).stream js held opened i).attempts.latch)))
        [] where
  known := by
    intro i registered
    by_cases live : i ∈ p.inflight js held opened
    · refine Or.inr (Or.inl ?_)
      simpa [Function.comp_def] using live
    · refine Or.inr (Or.inr ?_)
      have same := Shutdown.stream_unsettled live
      have gone : (p.stream js held opened i).inflight = false := by
        rw [Shutdown.mem_inflight, not_and] at live
        simpa using live registered
      exact (congrArg StreamState.inflight same).trans gone
  attempted := by
    intro straggler member
    obtain ⟨i, live, rfl⟩ := List.mem_map.mp member
    refine ⟨(Shutdown.mem_inflight.mp live).1, ?_⟩
    have same : (p.forceSettle js held opened).stream js held opened i
        = (p.stream js held opened i).step js .drain :=
      Shutdown.stream_settled live
    obtain ⟨k, attempt, latched, made⟩ :=
      (Shutdown.stream_invariant served p i).settle_latched js .drain
    rw [same]
    exact ⟨k, attempt, latched, made⟩
  late := by simp

/-- What happens to a stream takes it no further than out of the registry. -/
theorem Settling.record (served : ∀ i, Served js (held i) (opened i))
    (settling : Settling js held opened p stragglers late) (i : ℕ) (event : StreamEvent)
    : Settling js held opened (p.record i event) stragglers late where
  known := by
    intro j registered
    refine (settling.known j registered).imp_right fun rest => rest.imp_right fun gone => ?_
    by_cases same : j = i
    · subst same
      rw [Shutdown.stream_record_self]
      exact ((Shutdown.stream_invariant served p j).move js event).released_kept gone
    · rw [Shutdown.stream_record_ne same]
      exact gone
  attempted := by
    intro straggler member
    obtain ⟨registered, k, attempt, latched, made⟩ := settling.attempted straggler member
    refine ⟨registered, k, ?_⟩
    by_cases same : straggler.1 = i
    · rw [same, Shutdown.stream_record_self]
      rw [same] at made
      obtain ⟨later, kept⟩ :=
        ((Shutdown.stream_invariant served p i).move js event).made_kept ⟨attempt, made⟩
      exact ⟨later, latched, kept⟩
    · rw [Shutdown.stream_record_ne same]
      exact ⟨attempt, latched, made⟩
  late := settling.late

/-- A stream that registers now is late. -/
theorem Settling.register (settling : Settling js held opened p stragglers late) {i : ℕ}
    (fresh : i ∉ p.registered)
    : Settling js held opened (p.register i) stragglers (late ++ [i]) where
  known := by
    intro j registered
    rcases List.mem_append.mp registered with earlier | own
    · have other : j ≠ i := fun same => fresh (same ▸ earlier)
      rw [Shutdown.stream_register other]
      exact (settling.known j earlier).imp_left (List.mem_append_left _)
    · exact Or.inl (List.mem_append_right _ own)
  attempted := by
    intro straggler member
    obtain ⟨registered, attempt⟩ := settling.attempted straggler member
    have other : straggler.1 ≠ i := fun same => fresh (same ▸ registered)
    rw [Shutdown.stream_register other]
    exact ⟨List.mem_append_left _ registered, attempt⟩
  late := by
    intro j member
    rcases List.mem_append.mp member with earlier | own
    · obtain ⟨registered, apart⟩ := settling.late j earlier
      exact ⟨List.mem_append_left _ registered, apart⟩
    · refine ⟨List.mem_append_right _ own, fun straggling => ?_⟩
      obtain ⟨straggler, member, same⟩ := List.mem_map.mp straggling
      rw [List.mem_singleton.mp own] at same
      exact fresh (same ▸ (settling.attempted straggler member).1)

/-- Everything an action can do. -/
inductive ShutdownMove (js : Runtime) (held : ℕ → Held book) (opened : ℕ → List Effect)
    (p : Shutdown)
    : ShutdownAction → Shutdown → Prop
  | registered {i} (fresh : i ∉ p.registered)
    : ShutdownMove js held opened p (.register i) (p.register i)
  | happened {i event} (known : i ∈ p.registered)
    : ShutdownMove js held opened p (.stream i event) (p.record i event)
  | handlersReturned
    : ShutdownMove js held opened p .handlersReturned { p with handlersDone := true }
  | started {now graceMs} (idle : p.drain = .idle)
    : ShutdownMove js held opened p (.drainInflight now graceMs)
        { p with drain := .waiting (now + graceMs) }
  | slept {now deadline} (waiting : p.drain = .waiting deadline)
    : ShutdownMove js held opened p (.poll now) p
  | forced {now deadline} (waiting : p.drain = .waiting deadline)
    : ShutdownMove js held opened p (.poll now) (p.forceSettle js held opened)
  | returned {stragglers : List (ℕ × Option ℕ)} {late : List ℕ}
    (settling : p.drain = .settling stragglers late)
    (ended : ∀ straggler ∈ stragglers, (p.outcome js held opened straggler).isSome = true)
    : ShutdownMove js held opened p .allSettled
        {
          p with
          drain :=
            .returned ((stragglers.map (p.outcome js held opened)).count (some true))
              ((stragglers.map (p.outcome js held opened)).count (some false))
        }

/-- Every action is a move. -/
theorem move_of_act {action : ShutdownAction} (step : p.act js held opened action = some next)
    : ShutdownMove js held opened p action next := by
  cases action with
  | register i =>
      simp only [Shutdown.act, Option.ite_none_left_eq_some, Option.some.injEq] at step
      obtain ⟨fresh, rfl⟩ := step
      exact .registered fresh
  | stream i event =>
      have happened
          (acted : (if i ∈ p.registered then some (p.record i event) else none) = some next)
          : ShutdownMove js held opened p (.stream i event) next := by
        rw [Option.ite_none_right_eq_some, Option.some.injEq] at acted
        obtain ⟨known, rfl⟩ := acted
        exact .happened known
      cases event with
      | drain => cases step
      | _ => exact happened step
  | handlersReturned =>
      cases step
      exact .handlersReturned
  | drainInflight now graceMs =>
      simp only [Shutdown.act] at step
      split at step
      · rename_i idle
        cases step
        exact .started idle
      · cases step
  | poll now =>
      simp only [Shutdown.act] at step
      split at step
      · rename_i deadline waiting
        split at step
        · cases step
          exact .slept waiting
        · cases step
          exact .forced waiting
      · cases step
  | allSettled =>
      simp only [Shutdown.act] at step
      split at step
      · rename_i stragglers late settling
        rw [Option.ite_none_right_eq_some, Option.some.injEq] at step
        obtain ⟨ended, rfl⟩ := step
        exact .returned settling (by simpa using ended)
      · cases step

/-- The stragglers and the late streams are known while the drain settles. -/
def ShutdownInvariant (js : Runtime) (held : ℕ → Held book) (opened : ℕ → List Effect)
    (p : Shutdown)
    : Prop :=
  ∀ stragglers late, p.drain = .settling stragglers late → Settling js held opened p stragglers late

/-- A move keeps the invariant. -/
theorem ShutdownInvariant.move (served : ∀ i, Served js (held i) (opened i))
    (inv : ShutdownInvariant js held opened p) {action : ShutdownAction}
    (move : ShutdownMove js held opened p action next)
    : ShutdownInvariant js held opened next := by
  intro stragglers late settling
  cases move with
  | @registered i fresh =>
      cases drain : p.drain with
      | settling stragglers' late' =>
          simp only [Shutdown.register, drain, Drain.settling.injEq] at settling
          obtain ⟨rfl, rfl⟩ := settling
          exact (inv _ _ drain).register fresh
      | _ => simp [Shutdown.register, drain] at settling
  | @happened i event known => exact (inv _ _ settling).record served i event
  | handlersReturned => exact ⟨(inv _ _ settling).known, (inv _ _ settling).attempted,
      (inv _ _ settling).late⟩
  | started idle => cases settling
  | slept waiting => exact inv _ _ settling
  | forced waiting =>
      cases settling
      exact Settling.forceSettle served
  | returned drain ended => cases settling

/-- The invariant holds after every run. -/
theorem shutdown_invariant (served : ∀ i, Served js (held i) (opened i)) {start : Shutdown}
    {actions : List ShutdownAction} (initial : (shutdown js held opened).initial start)
    (run : (shutdown js held opened).Run start actions p)
    : ShutdownInvariant js held opened p := by
  refine run.rule (fun _ p => ShutdownInvariant js held opened p) ?_ ?_
  · intro stragglers late settling
    rw [initial.2] at settling
    cases settling
  · intro _ _ _ _ _ inv step
    exact inv.move served (move_of_act step)

-----------------------------------------------------------------------------------------
-- What the drain promises
-----------------------------------------------------------------------------------------

/-- The ledger has confirmed the settlement of a stream. -/
def Shutdown.Confirmed (js : Runtime) (held : ℕ → Held book) (opened : ℕ → List Effect)
    (p : Shutdown) (i : ℕ)
    : Prop :=
  ConfirmedIn js (held i) (opened i) (p.events i)

/-- The attempt that the drain waited for was rejected. -/
def Shutdown.DrainRejected (js : Runtime) (held : ℕ → Held book) (opened : ℕ → List Effect)
    (p : Shutdown) (stragglers : List (ℕ × Option ℕ)) (i : ℕ)
    : Prop :=
  ∃ straggler ∈ stragglers, straggler.1 = i ∧ p.outcome js held opened straggler = some false

/-- When the drain returns, every stream that was registered is settled or was tried in vain, every
straggler was tried to the end, and the streams counted are those it settled.
-/
structure DrainPromise (js : Runtime) (held : ℕ → Held book) (opened : ℕ → List Effect)
    (p : Shutdown) (stragglers : List (ℕ × Option ℕ)) (forceSettled : ℕ)
    : Prop where
  settled
    : ∀ i ∈ p.registered,
        p.Confirmed js held opened i ∨ p.DrainRejected js held opened stragglers i
  attempted : ∀ straggler ∈ stragglers, (p.outcome js held opened straggler).isSome = true
  forceSettled
    : forceSettled
      = stragglers.countP (fun straggler => p.outcome js held opened straggler = some true)

theorem confirmed_iff (served : ∀ i, Served js (held i) (opened i)) (p : Shutdown) (i : ℕ)
    : p.Confirmed js held opened i ↔ (p.stream js held opened i).inflight = false := by
  obtain ⟨settings, candidates, req, env, streams⟩ := served i
  exact (streamRun_released_iff (handleMetered_unbilled streams) (p.events i)).symm

/-- A settlement that is fulfilled takes its stream out of the registry. -/
theorem released_of_fulfilled (served : ∀ i, Served js (held i) (opened i))
    {straggler : ℕ × Option ℕ} (fulfilled : p.outcome js held opened straggler = some true)
    : (p.stream js held opened straggler.1).inflight = false := by
  have inv := Shutdown.stream_invariant served p straggler.1
  obtain ⟨attempt, found, ended⟩ := Option.bind_eq_some_iff.mp fulfilled
  obtain ⟨k, _, made⟩ := Option.bind_eq_some_iff.mp found
  obtain ⟨decision, terminalCause, phase⟩ := attempt
  cases phase with
  | completed charged =>
      rw [inv.inflight, inv.single.current_of_live made trivial]
      rfl
  | _ => cases ended

/-- The drain keeps its promise when no stream that registered late is left in the registry. -/
theorem Settling.promise_iff (served : ∀ i, Served js (held i) (opened i))
    (settling : Settling js held opened p stragglers late)
    (ended : ∀ straggler ∈ stragglers, (p.outcome js held opened straggler).isSome = true)
    : DrainPromise js held opened p stragglers
        ((stragglers.map (p.outcome js held opened)).count (some true))
      ↔ ∀ i ∈ late, i ∉ p.inflight js held opened := by
  constructor
  · intro promise i lateI live
    obtain ⟨registered, apart⟩ := settling.late i lateI
    rcases promise.settled i registered with confirmed | ⟨straggler, member, rfl, _⟩
    · have gone := (confirmed_iff served p i).mp confirmed
      rw [(Shutdown.mem_inflight.mp live).2] at gone
      cases gone
    · exact apart (List.mem_map_of_mem member)
  · intro gone
    refine ⟨?_, ended, ?_⟩
    · intro i registered
      rcases settling.known i registered with lateI | straggling | released
      · have absent := gone i lateI
        rw [Shutdown.mem_inflight, not_and] at absent
        exact Or.inl ((confirmed_iff served p i).mpr (by simpa using absent registered))
      · obtain ⟨straggler, member, rfl⟩ := List.mem_map.mp straggling
        obtain ⟨result, fulfilled⟩ := Option.isSome_iff_exists.mp (ended straggler member)
        cases result with
        | true =>
            have released := released_of_fulfilled served fulfilled
            exact Or.inl ((confirmed_iff served p _).mpr released)
        | false => exact Or.inr ⟨straggler, member, rfl, fulfilled⟩
      · exact Or.inl ((confirmed_iff served p i).mpr released)
    · rw [List.count, List.countP_map]
      refine List.countP_congr fun straggler _ => ?_
      simp

/-- No handler registers a stream while the drain waits for its settlements. -/
def Undisturbed (p : Shutdown) (action : ShutdownAction) (_ : Shutdown) : Prop :=
  ∀ i stragglers late, action = .register i → p.drain ≠ .settling stragglers late

theorem late_eq_nil {start : Shutdown} {actions : List ShutdownAction}
    (initial : (shutdown js held opened).initial start)
    (run : (shutdown js held opened).Run start actions p)
    (undisturbed : (shutdown js held opened).EveryStep start actions Undisturbed)
    : ∀ stragglers late, p.drain = .settling stragglers late → late = [] := by
  refine run.keeps undisturbed
    (fun p => ∀ stragglers late, p.drain = .settling stragglers late → late = []) ?_ ?_
  · intro stragglers late settling
    rw [initial.2] at settling
    cases settling
  · intro p action next inv step calm stragglers late settling
    cases move_of_act step with
    | @registered i fresh =>
        cases drain : p.drain with
        | settling stragglers' late' => exact (calm i _ _ rfl drain).elim
        | _ => simp [Shutdown.register, drain] at settling
    | happened known => exact inv _ _ settling
    | handlersReturned => exact inv _ _ settling
    | started idle => cases settling
    | slept waiting => exact inv _ _ settling
    | forced waiting =>
        cases settling
        rfl
    | returned drain ended => cases settling

end Drain

-----------------------------------------------------------------------------------------
-- The late streams in the schedule
-----------------------------------------------------------------------------------------

/-- The event of the stream that an action is, if it is one. -/
def ShutdownAction.eventOf? (i : ℕ) : ShutdownAction → Option StreamEvent
  | .stream j event => if j = i then some event else none
  | _ => none

/-- What a schedule has happen to a stream, apart from what the drain does to it. -/
def streamEvents (i : ℕ) (actions : List ShutdownAction) : List StreamEvent :=
  actions.filterMap (ShutdownAction.eventOf? i)

theorem streamEvents_snoc (i : ℕ) (actions : List ShutdownAction) (action : ShutdownAction)
    : streamEvents i (actions ++ [action])
      = streamEvents i actions ++ (action.eventOf? i).toList := by
  cases event : action.eventOf? i <;> simp [streamEvents, event]

/-- Nothing happens to a stream before it registers, and the drain does nothing to a late one. -/
structure Scheduled (actions : List ShutdownAction) (p : Shutdown) : Prop where
  unregistered : ∀ i, i ∉ p.registered → streamEvents i actions = []
  late
    : ∀ stragglers late, p.drain = .settling stragglers late → ∀ i ∈ late,
        i ∈ p.registered ∧ p.events i = streamEvents i actions

section Schedule

variable {book : PriceBook} {js : Runtime} {held : ℕ → Held book} {opened : ℕ → List Effect}
  {p next : Shutdown} {actions : List ShutdownAction}

/-- A move that is no event of a stream, and that neither registers one nor makes one late. -/
theorem Scheduled.same (scheduled : Scheduled actions p) {action : ShutdownAction}
    (silent : ∀ i, action.eventOf? i = none) (registered : next.registered = p.registered)
    (late
      : ∀ stragglers late, next.drain = .settling stragglers late → ∀ i ∈ late,
          p.drain = .settling stragglers late ∧ next.events i = p.events i)
    : Scheduled (actions ++ [action]) next where
  unregistered := by
    intro i absent
    rw [streamEvents_snoc, silent i, scheduled.unregistered i (registered ▸ absent)]
    rfl
  late := by
    intro stragglers ids settling i member
    obtain ⟨before, events⟩ := late stragglers ids settling i member
    obtain ⟨known, same⟩ := scheduled.late stragglers ids before i member
    refine ⟨registered ▸ known, ?_⟩
    rw [streamEvents_snoc, silent i, events, same]
    simp

/-- A stream that registers has no events yet, and is late while the drain settles. -/
theorem Scheduled.register (scheduled : Scheduled actions p) {i : ℕ} (fresh : i ∉ p.registered)
    : Scheduled (actions ++ [.register i]) (p.register i) where
  unregistered := by
    intro j absent
    have earlier : j ∉ p.registered := fun known => absent (List.mem_append_left _ known)
    rw [streamEvents_snoc, scheduled.unregistered j earlier]
    rfl
  late := by
    intro stragglers late settling j member
    rw [streamEvents_snoc]
    cases drain : p.drain with
    | settling stragglers' late' =>
        simp only [Shutdown.register, drain, Drain.settling.injEq] at settling
        obtain ⟨rfl, rfl⟩ := settling
        rcases List.mem_append.mp member with earlier | own
        · obtain ⟨known, same⟩ := scheduled.late _ _ drain j earlier
          have other : j ≠ i := fun equal => fresh (equal ▸ known)
          refine ⟨List.mem_append_left _ known, ?_⟩
          simp [Shutdown.register, other, same, ShutdownAction.eventOf?]
        · have equal := List.mem_singleton.mp own
          subst equal
          refine ⟨List.mem_append_right _ own, ?_⟩
          simp [Shutdown.register, scheduled.unregistered j fresh, ShutdownAction.eventOf?]
    | _ => simp [Shutdown.register, drain] at settling

/-- What happens to a stream is in the schedule. -/
theorem Scheduled.record (scheduled : Scheduled actions p) {i : ℕ} (known : i ∈ p.registered)
    (event : StreamEvent)
    : Scheduled (actions ++ [.stream i event]) (p.record i event) where
  unregistered := by
    intro j absent
    have other : i ≠ j := fun equal => absent (equal ▸ known)
    rw [streamEvents_snoc, scheduled.unregistered j absent]
    simp [ShutdownAction.eventOf?, other]
  late := by
    intro stragglers late settling j member
    obtain ⟨registered, same⟩ := scheduled.late _ _ settling j member
    refine ⟨registered, ?_⟩
    rw [streamEvents_snoc]
    by_cases equal : j = i
    · subst equal
      simp [Shutdown.record, same, ShutdownAction.eventOf?]
    · simp [Shutdown.record, same, ShutdownAction.eventOf?, equal, Ne.symm equal]

/-- Every run keeps to its schedule; by cases on its moves. -/
theorem scheduled_of_run {start : Shutdown} (initial : (shutdown js held opened).initial start)
    (run : (shutdown js held opened).Run start actions p)
    : Scheduled actions p := by
  refine run.rule Scheduled ⟨fun _ _ => rfl, ?_⟩ ?_
  · intro stragglers late settling
    rw [initial.2] at settling
    cases settling
  · intro earlier p action next _ scheduled step
    cases move_of_act step with
    | registered fresh => exact scheduled.register fresh
    | happened known => exact scheduled.record known _
    | handlersReturned =>
        exact scheduled.same (fun _ => rfl) rfl fun _ _ settling _ _ => ⟨settling, rfl⟩
    | started idle => exact scheduled.same (fun _ => rfl) rfl fun _ _ settling => by cases settling
    | slept waiting =>
        exact scheduled.same (fun _ => rfl) rfl fun _ _ settling _ _ => ⟨settling, rfl⟩
    | forced waiting =>
        refine scheduled.same (fun _ => rfl) rfl fun _ _ settling i member => ?_
        cases settling
        cases member
    | returned drain ended =>
        exact scheduled.same (fun _ => rfl) rfl fun _ _ settling => by cases settling

/-- A late stream has left the registry exactly when the schedule has its own settlement confirmed.
-/
theorem late_released_iff (served : ∀ i, Served js (held i) (opened i)) {start : Shutdown}
    (initial : (shutdown js held opened).initial start)
    (run : (shutdown js held opened).Run start actions p) {stragglers : List (ℕ × Option ℕ)}
    {late : List ℕ} (settling : p.drain = .settling stragglers late) {i : ℕ} (member : i ∈ late)
    : i ∉ p.inflight js held opened
      ↔ ConfirmedIn js (held i) (opened i) (streamEvents i actions) := by
  obtain ⟨registered, same⟩ := (scheduled_of_run initial run).late _ _ settling i member
  rw [Shutdown.mem_inflight, not_and, ← same]
  have confirmed := confirmed_iff served p i
  rw [Shutdown.Confirmed] at confirmed
  rw [confirmed]
  simp [registered]

end Schedule

/-- The shutdown drain over every schedule. It settles what it promises when it returns exactly
when no stream that registered after the stragglers were read is left in the registry: exactly when
the schedule has the settlement of each such stream confirmed before the return, as when no handler
registers one from then on. The stragglers are all the streams then in the registry, and the drain
starts or joins an attempt for each of them at once.
-/
theorem drain_promise_iff {book : PriceBook} (js : Runtime) (held : ℕ → Held book)
    (opened : ℕ → List Effect) (served : ∀ i, Served js (held i) (opened i)) {start p : Shutdown}
    {actions : List ShutdownAction} (initial : (shutdown js held opened).initial start)
    (run : (shutdown js held opened).Run start actions p)
    : (∀ now next stragglers late,
        (shutdown js held opened).step p (.poll now) next
        → next.drain = .settling stragglers late
        → stragglers.map Prod.fst = p.inflight js held opened
          ∧ ∀ straggler ∈ stragglers,
              ∃ k attempt,
                straggler.2 = some k
                ∧ (next.stream js held opened straggler.1).attempts.made[k]? = some attempt)
      ∧ ∀ next,
          (shutdown js held opened).step p .allSettled next
          → ∃ stragglers late forceSettled settleErrors,
              p.drain = .settling stragglers late
              ∧ next.drain = .returned forceSettled settleErrors
              ∧ (DrainPromise js held opened p stragglers forceSettled
                ↔ ∀ i ∈ late, i ∉ p.inflight js held opened)
              ∧ (DrainPromise js held opened p stragglers forceSettled
                ↔ ∀ i ∈ late, ConfirmedIn js (held i) (opened i) (streamEvents i actions))
              ∧ ((shutdown js held opened).EveryStep start actions Undisturbed
                → DrainPromise js held opened p stragglers forceSettled) := by
  have inv := shutdown_invariant served initial run
  constructor
  · intro now next stragglers late step settling
    cases move_of_act step with
    | slept waiting =>
        rw [waiting] at settling
        cases settling
    | forced waiting =>
        have read := Settling.forceSettle (p := p) served
        cases settling
        refine ⟨by simp [Function.comp_def], ?_⟩
        intro straggler member
        exact (read.attempted straggler member).2
  · intro next step
    cases move_of_act step with
    | @returned stragglers late settling ended =>
        have promise := (inv _ _ settling).promise_iff served ended
        have released {i : ℕ} (member : i ∈ late) :=
          late_released_iff served initial run settling member
        refine ⟨stragglers, late, _, _, settling, rfl, promise, ?_, fun undisturbed => ?_⟩
        · exact promise.trans (forall₂_congr fun i member => released member)
        · refine promise.mpr fun i member => ?_
          rw [late_eq_nil initial run undisturbed _ _ settling] at member
          cases member

/-- The process before any handler has registered a stream. -/
def bootShutdown : Shutdown := ⟨[], fun _ => [], false, .idle⟩

/-- The process after actions of which each could happen, where every handler serves one request. -/
def exampleShutdown {book : PriceBook} (held : Held book) (opened : List Effect)
    (actions : List ShutdownAction)
    : Option Shutdown :=
  actions.foldlM (Shutdown.act exampleStreamJs (fun _ => held) (fun _ => opened)) bootShutdown

/-- A drain without grace of two streams; the ledger rejects the first and confirms the second. -/
def exampleDrain : List ShutdownAction :=
  [.register 0, .register 1, .drainInflight 0 0, .poll 0, .stream 0 (.ledgerAnswer 0 .rejected),
    .stream 0 (.resume 0), .stream 1 (.ledgerAnswer 0 (.resolved true)), .stream 1 (.resume 0)]

/-- A handler still awaits its upstream when the grace ends, and registers its stream while the
drain waits for the settlement of the other one.
-/
def exampleLate : List ShutdownAction :=
  [.register 0, .drainInflight 0 1000, .poll 1000, .register 1,
    .stream 0 (.ledgerAnswer 0 (.resolved true)), .stream 0 (.resume 0)]

/-- A drain after actions, the streams still in the registry, and what the drain then returns. -/
def drainReport (actions : List ShutdownAction) : Option (Drain × List ℕ × Option Drain) :=
  match handleMetered exampleStreamJs exampleSettings (exampleCandidates exampleStreamJs)
      (exampleRequest exampleStreamRaw) exampleEnvironment with
  | (.streaming held, opened) =>
      (exampleShutdown held opened actions).map
        (fun p =>
          (p.drain, p.inflight exampleStreamJs (fun _ => held) (fun _ => opened),
            (p.act exampleStreamJs (fun _ => held) (fun _ => opened) .allSettled).map
              Shutdown.drain))
  | _ => none

/-- A run whose last state is as reported, and from which the drain returns. -/
structure ReportedRun (actions : List ShutdownAction) (drain : Drain) (inflight : List ℕ)
    (returned : Drain) {book : PriceBook} (held : Held book) (opened : List Effect)
    (p next : Shutdown)
    : Prop where
  served : Served exampleStreamJs held opened
  run
    : (shutdown exampleStreamJs (fun _ => held) (fun _ => opened)).Run bootShutdown actions p
  drain : p.drain = drain
  inflight : p.inflight exampleStreamJs (fun _ => held) (fun _ => opened) = inflight
  step : (shutdown exampleStreamJs (fun _ => held) (fun _ => opened)).step p .allSettled next
  returned : next.drain = returned

theorem exists_reportedRun {actions : List ShutdownAction} {drain returned : Drain}
    {inflight : List ℕ} (report : drainReport actions = some (drain, inflight, some returned))
    : ∃ (held : Held exampleBook) (opened : List Effect) (p next : Shutdown),
        ReportedRun actions drain inflight returned held opened p next := by
  unfold drainReport at report
  split at report
  · rename_i held opened streams
    obtain ⟨p, ran, same⟩ := Option.map_eq_some_iff.mp report
    simp only [Prod.mk.injEq, Option.map_eq_some_iff] at same
    obtain ⟨drained, registry, next, step, returned⟩ := same
    exact ⟨held, opened, p, next, ⟨_, _, _, _, streams⟩,
      System.run_of_foldlM ran (fun _ taken => taken), drained, registry, step, returned⟩
  · cases report

/-- The drain counts the stream it settled, and not the one whose ledger call was rejected. -/
theorem drain_promise_iff_rejected
    : ∃ (held : Held exampleBook) (opened : List Effect) (p : Shutdown),
        DrainPromise exampleStreamJs (fun _ => held) (fun _ => opened) p
          [(0, some 0), (1, some 0)] 1 := by
  have report
      : drainReport exampleDrain
        = some (.settling [(0, some 0), (1, some 0)] [], [0], some (.returned 1 1)) := by
    decide +kernel
  obtain ⟨held, opened, p, next, reported⟩ := exists_reportedRun report
  obtain ⟨stragglers, late, forceSettled, settleErrors, settling, returned, promise, _, _⟩ :=
    (drain_promise_iff exampleStreamJs (fun _ => held) (fun _ => opened)
      (fun _ => reported.served) ⟨rfl, rfl⟩ reported.run).2 next reported.step
  rw [reported.drain] at settling
  rw [reported.returned] at returned
  cases settling
  cases returned
  exact ⟨held, opened, p, promise.mpr (by simp)⟩

/-- The drain returns while the stream that registered late is neither settled nor tried. -/
theorem drain_promise_fails
    : ∃ (held : Held exampleBook) (opened : List Effect) (p next : Shutdown),
        Served exampleStreamJs held opened
        ∧ (shutdown exampleStreamJs (fun _ => held) (fun _ => opened)).Run bootShutdown
            exampleLate p
        ∧ (shutdown exampleStreamJs (fun _ => held) (fun _ => opened)).step p .allSettled next
        ∧ p.drain = .settling [(0, some 0)] [1]
        ∧ next.drain = .returned 1 0
        ∧ 1 ∈ p.registered
        ∧ ¬p.Confirmed exampleStreamJs (fun _ => held) (fun _ => opened) 1
        ∧ ¬p.DrainRejected exampleStreamJs (fun _ => held) (fun _ => opened) [(0, some 0)] 1 := by
  have report
      : drainReport exampleLate
        = some (.settling [(0, some 0)] [1], [1], some (.returned 1 0)) := by
    decide +kernel
  obtain ⟨held, opened, p, next, reported⟩ := exists_reportedRun report
  have live : 1 ∈ p.inflight exampleStreamJs (fun _ => held) (fun _ => opened) := by
    simp [reported.inflight]
  obtain ⟨registered, inflight⟩ := Shutdown.mem_inflight.mp live
  refine ⟨held, opened, p, next, reported.served, reported.run, reported.step, reported.drain,
    reported.returned, registered, ?_, ?_⟩
  · rw [confirmed_iff fun _ => reported.served, inflight]
    simp
  · rintro ⟨straggler, member, same, _⟩
    rw [List.mem_singleton.mp member] at same
    cases same

end Nullsink.Proxy
