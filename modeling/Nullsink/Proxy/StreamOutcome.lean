import Nullsink.Proxy.Buffered
import Nullsink.Proxy.StreamInvariant

/-! How a streamed request is billed, over every order of events: the first terminal cause
decides, one charge is sent, and a confirmed attempt ends it.
-/

namespace Nullsink.Proxy

open Ecma Latch

/-- The reason with which an event calls `settle`. -/
def StreamState.settleReason {scanner : UsageScanner} (state : StreamState scanner)
    : StreamEvent → Option SettleReason
  | .eof => some (.cause (state.requestedOr .complete))
  | .readError timedOut =>
      some (.cause (state.requestedOr (if timedOut then .upstreamTimeout else .upstreamError)))
  | .cancelSettles => some (.cause .clientCancel)
  | .deadline => some (.cause .deadline)
  | .drain => some .drain
  | _ => none

/-- An event that ends a stream from outside: the client cancels, the deadline fires, or the
shutdown drains.
-/
def StreamEvent.Interrupts : StreamEvent → Prop
  | clientCancel => True
  | deadline => True
  | drain => True
  | _ => False

/-- Only the end of an uninterrupted stream settles as complete. -/
theorem StreamState.settleReason_complete {scanner : UsageScanner} {state : StreamState scanner}
    {event : StreamEvent} {reason : SettleReason}
    (settles : state.settleReason event = some reason)
    (complete : reason.terminalCause = .complete)
    : event = .eof ∧ state.requestedCause = none := by
  cases event with
  | eof =>
      refine ⟨rfl, ?_⟩
      cases requested : state.requestedCause with
      | none => rfl
      | some cause =>
          simp only [settleReason, requestedOr, requested, Option.some.injEq] at settles
          subst settles
          cases cause <;> cases complete
  | readError timedOut =>
      simp only [settleReason, Option.some.injEq] at settles
      subst settles
      cases requested : state.requestedCause with
      | none =>
          cases timedOut <;>
            simp [SettleReason.terminalCause, requestedOr, requested] at complete
      | some cause =>
          cases cause <;>
            simp [SettleReason.terminalCause, requestedOr, requested, RequestedCause.terminal]
              at complete
  | cancelSettles =>
      cases settles
      cases complete
  | deadline =>
      cases settles
      cases complete
  | drain =>
      cases settles
      cases complete
  | chunk text => cases settles
  | clientCancel => cases settles
  | ledgerAnswer i answer => cases settles
  | resume i => cases settles

section Decisions

variable {book : PriceBook} {js : Runtime} {held : Held book}
variable {state next : StreamState held.scanner}

@[simp] theorem StreamState.startAttempt_settlementDecision (state : StreamState held.scanner)
    : state.startAttempt.settlementDecision = state.settlementDecision := by
  unfold startAttempt
  split
  · split <;> rfl
  · rfl

/-- Nothing changes a decision. -/
theorem StreamMove.decision_kept {event : StreamEvent} (move : StreamMove js state event next)
    {decision : StreamSettlementDecision} (decided : state.settlementDecision = some decision)
    : next.settlementDecision = some decision := by
  cases move with
  | attempted terminalCause requestedCause free amount first =>
      rcases first with same | undecided
      · exact same.symm.trans decided
      · cases undecided.symm.trans decided
  | _ => exact decided

/-- The registry does not take a stream back. -/
theorem StreamMove.released_kept {event : StreamEvent} (move : StreamMove js state event next)
    (released : state.inflight = false)
    : next.inflight = false := by
  cases move with
  | finished found => rfl
  | _ => exact released

/-- A stream that is marked or decided stays so. -/
theorem StreamMove.guard_kept {event : StreamEvent} (move : StreamMove js state event next)
    (guarded : state.requestedCause.isSome ∨ state.settlementDecision.isSome)
    : next.requestedCause.isSome ∨ next.settlementDecision.isSome := by
  cases move with
  | marked requestedCause kept => exact guarded.imp kept id
  | attempted => exact Or.inr rfl
  | _ => exact guarded

namespace StreamInvariant

/-- A latched attempt has a decision, so an undecided stream settles at once. -/
theorem free_of_undecided (inv : StreamInvariant state)
    (undecided : state.settlementDecision = none)
    : state.attempts.latch = none := by
  cases latched : state.attempts.latch with
  | none => rfl
  | some i =>
      obtain ⟨attempt, found, live⟩ := inv.single.lives i latched
      have decided := (inv.fixed attempt (inv.single.current_of_live found live)).1
      cases undecided.symm.trans decided

/-- The first call of `settle` decides by its own cause. -/
theorem settle_undecided (inv : StreamInvariant state)
    (undecided : state.settlementDecision = none) (reason : SettleReason)
    : (state.settle js reason).settlementDecision
      = decideStreamSettlement js.fp book (state.settlementInput reason.terminalCause) := by
  rw [StreamState.settle, inv.free_of_undecided undecided]
  simp [StreamState.fixDecision, undecided]

/-- After any call of `settle` there is a decision. -/
theorem settle_decides (inv : StreamInvariant state) (reason : SettleReason)
    : (state.settle js reason).settlementDecision.isSome := by
  cases decided : state.settlementDecision with
  | some decision =>
      have kept := (inv.move_settle js .eof reason).decision_kept decided
      rw [kept]
      rfl
  | none =>
      obtain ⟨decision, policy⟩ := state.exists_decision js reason.terminalCause
      rw [inv.settle_undecided decided, policy]
      rfl

/-- The first event that calls `settle` decides by its cause. -/
theorem step_decides (inv : StreamInvariant state) {event : StreamEvent} {reason : SettleReason}
    (undecided : state.settlementDecision = none)
    (settles : state.settleReason event = some reason)
    : (state.step js event).settlementDecision
      = decideStreamSettlement js.fp book (state.settlementInput reason.terminalCause) := by
  cases event with
  | eof =>
      cases settles
      exact inv.settle_undecided undecided _
  | readError timedOut =>
      cases settles
      exact inv.settle_undecided undecided _
  | cancelSettles =>
      cases settles
      exact inv.settle_undecided undecided _
  | deadline =>
      cases settles
      exact (inv.mark (some .deadline)).settle_undecided undecided _
  | drain =>
      cases settles
      exact inv.settle_undecided undecided _
  | chunk text => cases settles
  | clientCancel => cases settles
  | ledgerAnswer i answer => cases settles
  | resume i => cases settles

/-- An event that does not call `settle` decides nothing. -/
theorem step_undecided {event : StreamEvent} (undecided : state.settlementDecision = none)
    (idle : state.settleReason event = none)
    : (state.step js event).settlementDecision = none := by
  cases event with
  | chunk text => exact undecided
  | clientCancel => exact undecided
  | ledgerAnswer i answer =>
      simp only [StreamState.step, StreamState.answered]
      split <;> exact undecided
  | resume i =>
      simp only [StreamState.step, StreamState.resume]
      split <;> exact undecided
  | eof => cases idle
  | readError timedOut => cases idle
  | cancelSettles => cases idle
  | deadline => cases idle
  | drain => cases idle

/-- A decision is complete only where it was before, or by the end of an uninterrupted stream. -/
theorem step_complete (inv : StreamInvariant state) {event : StreamEvent}
    {decision : StreamSettlementDecision}
    (decided : (state.step js event).settlementDecision = some decision)
    (complete : decision.Complete)
    : state.settlementDecision = some decision
      ∨ event = .eof ∧ state.requestedCause = none ∧ state.settlementDecision = none := by
  cases before : state.settlementDecision with
  | some earlier =>
      have kept := (inv.move js event).decision_kept before
      exact Or.inl (kept.symm.trans decided)
  | none =>
      cases settles : state.settleReason event with
      | none => cases (step_undecided before settles).symm.trans decided
      | some reason =>
          rw [inv.step_decides before settles] at decided
          have cause := decideStreamSettlement_complete decided complete
          obtain ⟨ended, unmarked⟩ := StreamState.settleReason_complete settles cause
          exact Or.inr ⟨ended, unmarked, rfl⟩

/-- An interruption leaves a mark or a decision. -/
theorem step_interrupts (inv : StreamInvariant state) {event : StreamEvent}
    (interrupts : event.Interrupts)
    : (state.step js event).requestedCause.isSome
      ∨ (state.step js event).settlementDecision.isSome := by
  cases event with
  | clientCancel => exact Or.inl rfl
  | deadline => exact Or.inr ((inv.mark (some .deadline)).settle_decides _)
  | drain => exact Or.inr (inv.settle_decides _)
  | _ => exact interrupts.elim

end StreamInvariant

/-- A decision, if there is one, is not of a stream that ended by itself. -/
def StreamState.Incomplete (state : StreamState held.scanner) : Prop :=
  ∀ decision, state.settlementDecision = some decision → ¬decision.Complete

/-- Only the end of a stream can complete it. -/
theorem StreamInvariant.step_incomplete (inv : StreamInvariant state) {event : StreamEvent}
    (incomplete : state.Incomplete)
    (guarded : event = .eof → state.requestedCause.isSome ∨ state.settlementDecision.isSome)
    : (state.step js event).Incomplete := by
  intro decision decided complete
  rcases inv.step_complete decided complete with same | ⟨ended, unmarked, undecided⟩
  · exact incomplete decision same complete
  · simp [unmarked, undecided] at guarded
    exact guarded ended

end Decisions

-----------------------------------------------------------------------------------------
-- Runs
-----------------------------------------------------------------------------------------

section Runs

variable {book : PriceBook} {js : Runtime} {held : Held book} {opened : List Effect}

/-- What a request has done before its stream is registered: it has settled nothing and counted
no outcome.
-/
structure Unbilled (opened : List Effect) : Prop where
  settlements : settlements opened = []
  outcomes : primaryOutcomes opened = 0

theorem streamRun_snoc (events : List StreamEvent) (event : StreamEvent)
    : streamRun js held opened (events ++ [event])
      = (streamRun js held opened events).step js event := by
  simp [streamRun]

theorem StreamInvariant.start (unbilled : Unbilled opened)
    : StreamInvariant (StreamState.start held opened) where
  single := .empty
  fixed := fun _ now => by cases now
  caused := fun decided => by cases decided
  amount := fun _ decided => by cases decided
  completedCharge := rfl
  calls := fun call called => by simp [StreamState.start, unbilled.settlements] at called
  inflight := rfl
  outcomes := unbilled.outcomes

/-- The invariant holds after any events; by induction on the last event. -/
theorem streamRun_invariant (unbilled : Unbilled opened) (events : List StreamEvent)
    : StreamInvariant (streamRun js held opened events) := by
  induction events using List.reverseRecOn with
  | nil => exact .start unbilled
  | append_singleton earlier event ih =>
      rw [streamRun_snoc]
      exact ih.step (ih.move js event)

/-- What moves keep, later events keep; by induction on the last of them. -/
theorem streamRun_keeps (holds : StreamState held.scanner → Prop) (unbilled : Unbilled opened)
    {before : List StreamEvent} (base : holds (streamRun js held opened before))
    (keeps
      : ∀ state event,
          StreamInvariant state → holds state → holds (StreamState.step js state event))
    (later : List StreamEvent)
    : holds (streamRun js held opened (before ++ later)) := by
  induction later using List.reverseRecOn with
  | nil => simpa using base
  | append_singleton earlier event ih =>
      rw [← List.append_assoc, streamRun_snoc]
      exact keeps _ event (streamRun_invariant unbilled _) ih

/-- The first terminal cause fixes the decision for good. -/
theorem streamRun_decision (unbilled : Unbilled opened) {before later : List StreamEvent}
    {event : StreamEvent} {reason : SettleReason}
    (undecided : (streamRun js held opened before).settlementDecision = none)
    (settles : (streamRun js held opened before).settleReason event = some reason)
    : ∃ decision,
        decideStreamSettlement js.fp book
            ((streamRun js held opened before).settlementInput reason.terminalCause)
          = some decision
        ∧ (streamRun js held opened (before ++ event :: later)).settlementDecision
          = some decision := by
  obtain ⟨decision, policy⟩ :=
    (streamRun js held opened before).exists_decision js reason.terminalCause
  refine ⟨decision, policy, ?_⟩
  have decided
      : (streamRun js held opened (before ++ [event])).settlementDecision = some decision := by
    rw [streamRun_snoc, (streamRun_invariant unbilled before).step_decides undecided settles]
    exact policy
  have kept :=
    streamRun_keeps (fun state => state.settlementDecision = some decision) unbilled decided
      (fun _ event inv same => (inv.move js event).decision_kept same) later
  simpa using kept

/-- Before its end a stream is not complete; by induction on the last event. -/
theorem streamRun_incomplete (unbilled : Unbilled opened) {events : List StreamEvent}
    (unended : .eof ∉ events)
    : (streamRun js held opened events).Incomplete := by
  induction events using List.reverseRecOn with
  | nil =>
      intro decision decided
      cases decided
  | append_singleton earlier event ih =>
      rw [streamRun_snoc]
      refine (streamRun_invariant unbilled earlier).step_incomplete
        (ih (fun member => unended (List.mem_append_left _ member))) ?_
      intro ended
      exact absurd (by simp [ended]) unended

/-- An interruption that comes before the end of the stream rules out a complete outcome. -/
theorem streamRun_interrupted (unbilled : Unbilled opened) {before later : List StreamEvent}
    {interrupt : StreamEvent} (interrupts : interrupt.Interrupts) (unended : .eof ∉ before)
    {decision : StreamSettlementDecision}
    (decided
      : (streamRun js held opened (before ++ interrupt :: later)).settlementDecision
        = some decision)
    : ¬decision.Complete := by
  have inv : StreamInvariant (streamRun js held opened before) :=
    streamRun_invariant unbilled before
  have incomplete : (streamRun js held opened before).Incomplete :=
    streamRun_incomplete unbilled unended
  have interrupted
      : (streamRun js held opened (before ++ [interrupt])).Incomplete
        ∧ ((streamRun js held opened (before ++ [interrupt])).requestedCause.isSome
          ∨ (streamRun js held opened (before ++ [interrupt])).settlementDecision.isSome) := by
    rw [streamRun_snoc]
    refine ⟨inv.step_incomplete incomplete ?_, inv.step_interrupts interrupts⟩
    intro ended
    exact (ended ▸ interrupts : StreamEvent.Interrupts .eof).elim
  have kept :=
    streamRun_keeps
      (fun state =>
        state.Incomplete
        ∧ (state.requestedCause.isSome ∨ state.settlementDecision.isSome))
      unbilled interrupted
      (fun _ event inv guarded =>
        ⟨inv.step_incomplete guarded.1 (fun _ => guarded.2),
          (inv.move js event).guard_kept guarded.2⟩)
      later
  exact kept.1 decision (by simpa using decided)

-----------------------------------------------------------------------------------------
-- Confirmed attempts
-----------------------------------------------------------------------------------------

/-- An attempt waits for the ledger's answer to its call. -/
def StreamState.Calling (state : StreamState held.scanner) (i : ℕ) : Prop :=
  ∃ decision terminalCause debit,
    state.attempts.made[i]? = some ⟨decision, terminalCause, .calling debit⟩

/-- The ledger has confirmed the call of an attempt that waited for it. -/
def AnsweredIn (js : Runtime) (held : Held book) (opened : List Effect) (i : ℕ)
    (events : List StreamEvent)
    : Prop :=
  ∃ before between,
    events = before ++ .ledgerAnswer i (.resolved true) :: between
    ∧ (streamRun js held opened before).Calling i

/-- The ledger has confirmed the call of an attempt, and the attempt has gone on after it. -/
def ConfirmedIn (js : Runtime) (held : Held book) (opened : List Effect)
    (events : List StreamEvent)
    : Prop :=
  ∃ i before after,
    events = before ++ .resume i :: after ∧ AnsweredIn js held opened i before

theorem AnsweredIn.append {i : ℕ} {events : List StreamEvent}
    (answered : AnsweredIn js held opened i events) (later : List StreamEvent)
    : AnsweredIn js held opened i (events ++ later) := by
  obtain ⟨before, between, rfl, calling⟩ := answered
  exact ⟨before, between ++ later, by simp, calling⟩

theorem ConfirmedIn.append {events : List StreamEvent}
    (confirmed : ConfirmedIn js held opened events) (later : List StreamEvent)
    : ConfirmedIn js held opened (events ++ later) := by
  obtain ⟨i, before, after, rfl, answered⟩ := confirmed
  exact ⟨i, before, after ++ later, by simp, answered⟩

/-- What the events say about the attempts: a charge seen as confirmed was answered so, and the
registry lets go only of an attempt that went on after such an answer.
-/
structure ConfirmLog (js : Runtime) (held : Held book) (opened : List Effect)
    (events : List StreamEvent) (state : StreamState held.scanner)
    : Prop where
  answered
    : ∀ i attempt,
        state.attempts.made[i]? = some attempt
        → attempt.confirmed.isSome
        → AnsweredIn js held opened i events
  released : state.inflight = false → ConfirmedIn js held opened events

/-- A move that confirms nothing and releases nothing keeps the log. -/
theorem ConfirmLog.frame {events : List StreamEvent} {state next : StreamState held.scanner}
    (log : ConfirmLog js held opened events state) (event : StreamEvent)
    (made
      : ∀ (i : ℕ) (attempt : SettlementAttempt),
          next.attempts.made[i]? = some attempt
          → attempt.confirmed.isSome
          → state.attempts.made[i]? = some attempt)
    (inflight : next.inflight = state.inflight)
    : ConfirmLog js held opened (events ++ [event]) next where
  answered := fun i attempt found confirmed =>
    (log.answered i attempt (made i attempt found confirmed) confirmed).append _
  released := fun released => (log.released (inflight ▸ released)).append _

/-- So does an attempt that goes on without a confirmation. -/
theorem ConfirmLog.unconfirmed {events : List StreamEvent} {state next : StreamState held.scanner}
    (log : ConfirmLog js held opened events state) (event : StreamEvent) {i : ℕ}
    {later : SettlementAttempt} (silent : later.confirmed = none)
    (advanced : next.attempts.made = (state.attempts.advance i later).made)
    (inflight : next.inflight = state.inflight)
    : ConfirmLog js held opened (events ++ [event]) next := by
  refine log.frame event ?_ inflight
  intro j attempt found confirmed
  rw [advanced] at found
  rcases Attempts.made_advance found with ⟨_, rfl⟩ | ⟨_, earlier⟩
  · rw [silent] at confirmed
    cases confirmed
  · exact earlier

theorem ConfirmLog.step {events : List StreamEvent} {event : StreamEvent}
    {next : StreamState held.scanner}
    (log : ConfirmLog js held opened events (streamRun js held opened events))
    (move : StreamMove js (streamRun js held opened events) event next)
    : ConfirmLog js held opened (events ++ [event]) next := by
  cases move with
  | fed scan => exact log.frame _ (fun _ _ found _ => found) rfl
  | marked requestedCause kept => exact log.frame _ (fun _ _ found _ => found) rfl
  | attempted terminalCause requestedCause free amount first =>
      refine log.frame _ ?_ rfl
      intro i attempt found confirmed
      rcases Attempts.made_start found with rfl | earlier
      · cases confirmed
      · exact earlier
  | @confirmed i decision terminalCause debit called =>
      constructor
      · intro j attempt found confirmed
        rcases Attempts.made_advance found with ⟨rfl, _⟩ | ⟨_, earlier⟩
        · exact ⟨events, [], rfl, decision, terminalCause, debit, called⟩
        · exact (log.answered j attempt earlier confirmed).append _
      · exact fun released => (log.released released).append _
  | denied called => exact log.unconfirmed _ rfl rfl rfl
  | @finished i decision terminalCause charged billed =>
      have answered := log.answered i _ billed rfl
      constructor
      · intro j attempt found confirmed
        rcases Attempts.made_advance found with ⟨rfl, _⟩ | ⟨_, earlier⟩
        · exact answered.append _
        · exact (log.answered j attempt earlier confirmed).append _
      · exact fun _ => ⟨i, events, [], rfl, answered⟩
  | gaveUp billed => exact log.unconfirmed _ rfl rfl rfl

/-- The log holds after any events; by induction on the last event. -/
theorem streamRun_log (unbilled : Unbilled opened) (events : List StreamEvent)
    : ConfirmLog js held opened events (streamRun js held opened events) := by
  induction events using List.reverseRecOn with
  | nil => exact ⟨fun i _ found => by simp [streamRun, StreamState.start, Attempts.empty] at found,
      fun released => by cases released⟩
  | append_singleton earlier event ih =>
      rw [streamRun_snoc]
      exact ih.step ((streamRun_invariant unbilled earlier).move js event)

/-- Once an attempt has seen its charge confirmed, every move leaves it so. -/
theorem StreamMove.confirmed_kept {state next : StreamState held.scanner} {event : StreamEvent}
    (move : StreamMove js state event next) {i : ℕ}
    (seen
      : ∃ attempt, state.attempts.made[i]? = some attempt ∧ attempt.confirmed.isSome)
    : ∃ attempt, next.attempts.made[i]? = some attempt ∧ attempt.confirmed.isSome := by
  cases move with
  | fed scan => exact seen
  | marked requestedCause kept => exact seen
  | attempted terminalCause requestedCause free amount first =>
      obtain ⟨attempt, found, confirmed⟩ := seen
      exact ⟨attempt, Attempts.made_start_of_made found, confirmed⟩
  | confirmed called => exact Attempts.exists_advance seen called (fun _ => rfl)
  | denied called => exact Attempts.exists_advance seen called id
  | finished billed => exact Attempts.exists_advance seen billed (fun _ => rfl)
  | gaveUp billed => exact Attempts.exists_advance seen billed id

/-- A confirmed answer is seen by the attempt that waits for it. -/
theorem StreamState.Calling.answered {state : StreamState held.scanner} {i : ℕ}
    (calling : state.Calling i) (js : Runtime)
    : ∃ attempt,
        (state.step js (.ledgerAnswer i (.resolved true))).attempts.made[i]? = some attempt
        ∧ attempt.confirmed.isSome := by
  obtain ⟨decision, terminalCause, debit, found⟩ := calling
  have within : i < state.attempts.made.length := (List.getElem?_eq_some_iff.mp found).1
  refine ⟨⟨decision, terminalCause, .billed (.charged debit)⟩, ?_, rfl⟩
  simp only [step, StreamState.answered, found]
  exact List.getElem?_set_self within

/-- An attempt that goes on after its confirmed charge leaves the registry. -/
theorem StreamInvariant.released (inv : StreamInvariant state) {i : ℕ} {attempt : SettlementAttempt}
    (found : state.attempts.made[i]? = some attempt) (confirmed : attempt.confirmed.isSome)
    (js : Runtime)
    : (state.step js (.resume i)).inflight = false := by
  obtain ⟨decision, terminalCause, phase⟩ := attempt
  match phase with
  | .billed (.charged charged) => simp [StreamState.step, StreamState.resume, found]
  | .completed charged =>
      have ended : state.inflight = false := by
        rw [inv.inflight, inv.single.current_of_live found trivial]
        rfl
      simpa [StreamState.step, StreamState.resume, found] using ended

/-- A stream is registered exactly until a confirmed attempt goes on. -/
theorem streamRun_released_iff (unbilled : Unbilled opened) (events : List StreamEvent)
    : (streamRun js held opened events).inflight = false
      ↔ ConfirmedIn js held opened events := by
  refine ⟨(streamRun_log unbilled events).released, ?_⟩
  intro confirmed
  obtain ⟨i, _, after, rfl, before, between, rfl, calling⟩ := confirmed
  have answered
      : ∃ attempt,
          (streamRun js held opened
            (before ++ [.ledgerAnswer i (.resolved true)])).attempts.made[i]? = some attempt
          ∧ attempt.confirmed.isSome := by
    rw [streamRun_snoc]
    exact calling.answered js
  obtain ⟨attempt, found, seen⟩ :=
    streamRun_keeps
      (fun state =>
        ∃ attempt, state.attempts.made[i]? = some attempt ∧ attempt.confirmed.isSome)
      unbilled answered (fun _ event inv seen => (inv.move js event).confirmed_kept seen) between
  have released
      : (streamRun js held opened
          (before ++ .ledgerAnswer i (.resolved true) :: between ++ [.resume i])).inflight
        = false := by
    rw [streamRun_snoc]
    refine (streamRun_invariant unbilled _).released ?_ seen js
    simpa using found
  have kept :=
    streamRun_keeps (fun state => state.inflight = false) unbilled released
      (fun _ event inv released => (inv.move js event).released_kept released) after
  simpa using kept

end Runs

-----------------------------------------------------------------------------------------
-- The start of a stream
-----------------------------------------------------------------------------------------

section Start

variable {book : PriceBook} {js : Runtime} {held : Held book}

theorem respond_ne_streaming (env : Environment) (billing : Billing) (reply : Reply)
    : (respond env billing reply).1 ≠ Attempt.streaming held := by
  unfold respond
  split <;> simp

theorem relayOrSanitizeUpstream_ne_streaming (js : Runtime) (served : Held book)
    (env : Environment) (billing : Billing) (upstream : UpstreamResponse) (text : String)
    : (relayOrSanitizeUpstream js served env billing upstream text).1
      ≠ .streaming held := by
  unfold relayOrSanitizeUpstream
  simp only
  split
  · simp
  · split <;> exact respond_ne_streaming _ _ _

theorem onCharged_ne_streaming {billed : Billed × Billing}
    {next : Billing → Attempt book × Billing} (none : ∀ billing, (next billing).1 ≠ .streaming held)
    : (onCharged billed next).1 ≠ .streaming held := by
  unfold onCharged
  split
  · exact none _
  · simp
  · simp

theorem settleBuffered_ne_streaming (js : Runtime) (served : Held book) (env : Environment)
    (billing : Billing) (upstream : UpstreamResponse) (text : String)
    : (settleBuffered js served env billing upstream text).1 ≠ .streaming held := by
  unfold settleBuffered
  split
  · split
    · simp
    · exact onCharged_ne_streaming (fun _ => respond_ne_streaming _ _ _)
  · exact onCharged_ne_streaming (fun _ => respond_ne_streaming _ _ _)

/-- A response starts a stream before anything is billed. -/
theorem settleResponse_streaming {served : Held book} {env : Environment} {billing after : Billing}
    {upstream : UpstreamResponse}
    (streams
      : settleResponse js served env billing upstream = (.streaming held, after))
    : after = billing := by
  unfold settleResponse at streams
  split at streams
  · split at streams
    · exact (Prod.mk.inj streams).2.symm
    · refine absurd (congrArg Prod.fst streams) (onCharged_ne_streaming ?_)
      intro charged
      cases upstream.read with
      | failed => simp
      | text text => exact relayOrSanitizeUpstream_ne_streaming _ _ _ _ _ _
  · split at streams
    · cases streams
    · split at streams
      · exact absurd (congrArg Prod.fst streams) (settleBuffered_ne_streaming _ _ _ _ _ _)
      · exact absurd (congrArg Prod.fst streams)
          (onCharged_ne_streaming
            (fun _ => relayOrSanitizeUpstream_ne_streaming _ _ _ _ _ _))

theorem settleUpstreamFailure_ne_streaming (js : Runtime) (served : Held book)
    (env : Environment) (billing : Billing) (readFailed : Bool)
    : (settleUpstreamFailure js served env billing readFailed).1 ≠ .streaming held := by
  unfold settleUpstreamFailure
  split
  · split
    · simp
    · split <;> simp [transportFailure]
  · split <;> simp [transportFailure]

/-- The code under the `try` has counted and sent the request of a stream, and nothing else. -/
theorem forward_streaming {served : Held book} {env : Environment} {billing after : Billing}
    (streams : forward js served env billing = (.streaming held, after))
    : after
      = (billing.count .requests).emit
          (.upstreamFetch served.provider.upstreamPath served.sendBody) := by
  unfold forward at streams
  cases answered : env.upstream with
  | buildThrew => simp [answered] at streams
  | fetchThrew => simp [answered] at streams
  | response upstream =>
      simp only [answered] at streams
      exact settleResponse_streaming streams

/-- A request whose stream is registered has opened its hold, and billed nothing. -/
theorem handleMetered_unbilled {settings : HandlerSettings} {candidates : List (Provider book)}
    {req : MeteredRequest} {env : Environment} {opened : List Effect}
    (streams : handleMetered js settings candidates req env = (.streaming held, opened))
    : Unbilled opened := by
  unfold handleMetered at streams
  split at streams
  · rename_i stop _
    cases reply : stop.reply <;> simp [reply] at streams
  · rename_i served _
    unfold serveHeld at streams
    rcases forwarded
        : forward js served env ⟨none, [.openHold served.hash served.holdAmount served.holdId]⟩
      with ⟨attempt, billing⟩
    simp only [forwarded] at streams
    cases attempt with
    | returned reply => cases streams
    | ledgerSettlementError => cases streams
    | threw readFailed =>
        exact absurd (Prod.mk.inj streams).1 (settleUpstreamFailure_ne_streaming _ _ _ _ _)
    | streaming started =>
        obtain ⟨_, rfl⟩ := Prod.mk.inj streams
        rw [forward_streaming forwarded]
        exact ⟨rfl, rfl⟩

end Start

/-- An attempt that has been started and has not ended. -/
def SettlementAttempt.InProgress (attempt : SettlementAttempt) : Prop :=
  match attempt.phase with
  | .calling _ => True
  | .billed _ => True
  | _ => False

theorem SettlementAttempt.InProgress.live {attempt : SettlementAttempt}
    (running : attempt.InProgress)
    : attempt.Live := by
  obtain ⟨decision, terminalCause, phase⟩ := attempt
  cases phase with
  | calling debit => trivial
  | billed result => trivial
  | completed charged => trivial
  | rejected => exact running

/-- All calls of a stream carry one charge within its hold. -/
theorem StreamInvariant.one_charge {book : PriceBook} {held : Held book}
    {state : StreamState held.scanner} (inv : StreamInvariant state)
    : ∃ h c : ℤ, held.holdAmount = .ofInt h ∧ 0 ≤ c ∧ c ≤ h
      ∧ ∀ call ∈ settlements state.billing.effects, call = (held.holdId, .ofInt c) := by
  cases decided : state.settlementDecision with
  | none =>
      obtain ⟨h, whole, nonneg⟩ := held.holdAmount_whole
      refine ⟨h, 0, whole, le_rfl, nonneg, ?_⟩
      intro call called
      obtain ⟨decision, same, _⟩ := inv.calls call called
      cases decided.symm.trans same
  | some decision =>
      obtain ⟨h, c, whole, charge, nonneg, bounded⟩ :=
        held.effectiveDebit_bounds (inv.amount decision decided)
      refine ⟨h, c, whole, nonneg, bounded, ?_⟩
      intro call called
      obtain ⟨own, same, carried⟩ := inv.calls call called
      cases decided.symm.trans same
      rw [carried, Held.charge, charge]

/-- The settlement of one streamed 2xx request, over every order of its events and every answer
of the ledger. The first terminal cause that calls `settle` fixes the decision. All settlement
calls carry one charge within the hold. At most one attempt is in progress. The primary outcome
is counted once, and the registry holds `settle` until then, which is when a confirmed attempt
goes on. An interruption before the end of the stream rules out a complete outcome.
-/
theorem stream_settlement {book : PriceBook} (js : Runtime) (settings : HandlerSettings)
    (candidates : List (Provider book)) (req : MeteredRequest) (env : Environment)
    {held : Held book} {opened : List Effect}
    (streams : handleMetered js settings candidates req env = (.streaming held, opened))
    : (∀ before event later reason,
        (streamRun js held opened before).settlementDecision = none
        → (streamRun js held opened before).settleReason event = some reason
        → ∃ decision,
            decideStreamSettlement js.fp book
                ((streamRun js held opened before).settlementInput reason.terminalCause)
              = some decision
            ∧ (streamRun js held opened (before ++ event :: later)).settlementDecision
              = some decision)
      ∧ (∀ events,
          ∃ h c : ℤ, held.holdAmount = .ofInt h ∧ 0 ≤ c ∧ c ≤ h
            ∧ ∀ call ∈ settlements (streamRun js held opened events).billing.effects,
                call = (held.holdId, .ofInt c))
      ∧ (∀ events (i j : ℕ) (first second : SettlementAttempt),
          (streamRun js held opened events).attempts.made[i]? = some first
          → (streamRun js held opened events).attempts.made[j]? = some second
          → first.InProgress
          → second.InProgress
          → i = j)
      ∧ (∀ events,
          primaryOutcomes (streamRun js held opened events).billing.effects
            = if (streamRun js held opened events).inflight then 0 else 1)
      ∧ (∀ events,
          (streamRun js held opened events).inflight = false
          ↔ ConfirmedIn js held opened events)
      ∧ ∀ before interrupt later decision,
          StreamEvent.Interrupts interrupt
          → .eof ∉ before
          → (streamRun js held opened (before ++ interrupt :: later)).settlementDecision
            = some decision
          → ¬decision.Complete := by
  have unbilled := handleMetered_unbilled streams
  have invariant (events : List StreamEvent)
      : StreamInvariant (streamRun js held opened events) :=
    streamRun_invariant unbilled events
  refine ⟨?_, fun events => (invariant events).one_charge, ?_,
    fun events => (invariant events).outcomes, streamRun_released_iff unbilled, ?_⟩
  · intro before event later reason undecided settles
    exact streamRun_decision unbilled undecided settles
  · intro events i j first second foundFirst foundSecond firstRuns secondRuns
    exact (invariant events).single.unique foundFirst foundSecond firstRuns.live secondRuns.live
  · intro before interrupt later decision interrupts unended decided
    exact streamRun_interrupted unbilled interrupts unended decided

section Example

def exampleStreamRaw : String :=
  "\x7b\"model\":\"claude-haiku-4-5\",\"max_tokens\":100,\"stream\":true\x7d"

def exampleStreamBody : Json :=
  .object
    [("model", .string "claude-haiku-4-5"), ("max_tokens", .number (.ofInt 100)),
      ("stream", .bool true)]

def exampleStreamJs : Runtime := exampleRuntime [(exampleStreamRaw, exampleStreamBody)]

/-- A client cancels, which wakes the read as done; the ledger throws, and a drain retries. -/
def exampleEvents : List StreamEvent :=
  [.clientCancel, .eof, .cancelSettles, .ledgerAnswer 0 .rejected, .resume 0, .drain,
    .ledgerAnswer 1 (.resolved true), .resume 1]

/-- The retried settlement of a cancelled stream carries the charge of the first attempt: the
input floor of a request of 59 bytes.
-/
theorem stream_settlement_retried
    : ∃ held opened,
        handleMetered exampleStreamJs exampleSettings (exampleCandidates exampleStreamJs)
            (exampleRequest exampleStreamRaw) exampleEnvironment
          = (.streaming held, opened)
        ∧ (settlements (streamRun exampleStreamJs held opened exampleEvents).billing.effects).map
            Prod.snd
          = [.ofInt 15, .ofInt 15]
        ∧ primaryOutcomes (streamRun exampleStreamJs held opened exampleEvents).billing.effects
          = 1 := by
  have evaluated
      : (match handleMetered exampleStreamJs exampleSettings (exampleCandidates exampleStreamJs)
            (exampleRequest exampleStreamRaw) exampleEnvironment with
          | (.streaming held, opened) =>
              some
                ((settlements
                  (streamRun exampleStreamJs held opened exampleEvents).billing.effects).map
                  Prod.snd,
                  (streamRun exampleStreamJs held opened exampleEvents).inflight)
          | _ => none)
        = some ([.ofInt 15, .ofInt 15], false) := by
    decide +kernel
  rcases run : handleMetered exampleStreamJs exampleSettings (exampleCandidates exampleStreamJs)
      (exampleRequest exampleStreamRaw) exampleEnvironment with ⟨outcome, opened⟩
  rw [run] at evaluated
  cases outcome with
  | replied reply => cases evaluated
  | failed => cases evaluated
  | streaming held =>
      obtain ⟨called, released⟩ := Prod.mk.inj (Option.some.inj evaluated)
      obtain ⟨_, _, _, outcomes, _⟩ :=
        stream_settlement exampleStreamJs exampleSettings (exampleCandidates exampleStreamJs)
          (exampleRequest exampleStreamRaw) exampleEnvironment run
      refine ⟨held, opened, rfl, called, ?_⟩
      rw [outcomes exampleEvents, released]
      rfl

end Example

end Nullsink.Proxy
