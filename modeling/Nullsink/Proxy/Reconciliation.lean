import Nullsink.Lib.Interleaving
import Nullsink.Proxy.HoldWire
import Nullsink.Proxy.Metrics
import Nullsink.Proxy.StreamOutcome

/-! How the counters of the metered requests reconcile. A request is stopped at one gate, or it is
counted as forwarded and ends with one outcome, whatever order the requests count in.
-/

namespace Nullsink.Proxy

open Ecma Transition

-----------------------------------------------------------------------------------------
-- Gates
-----------------------------------------------------------------------------------------

/-- Where a computation stops, it has counted a gate. -/
def Gated {β : Type*} (result : Except Stop β) : Prop :=
  ∀ stop, result = .error stop → stop.gate.isSome

namespace Gated

variable {α : Type} {β : Type*}

theorem ok (value : β) : Gated (.ok value : Except Stop β) := by
  intro stop stopped
  cases stopped

theorem error {stop : Stop} (counts : stop.gate.isSome) : Gated (.error stop : Except Stop β) := by
  intro other stopped
  cases stopped
  exact counts

theorem orStop {value : Option α} {stop : Stop} {next : α → Except Stop β}
    (counts : stop.gate.isSome) (later : ∀ found, Gated (next found))
    : Gated (orStop value stop next) := by
  cases value with
  | none => exact .error counts
  | some found => exact later found

theorem await {answer : Answer α} {next : α → Except Stop β} (answers : answer ≠ .rejected)
    (later : ∀ value, Gated (next value))
    : Gated (answer.await next) := by
  cases answer with
  | rejected => exact absurd rfl answers
  | resolved value => exact later value

end Gated

section Gates

variable {book : PriceBook} (js : Runtime) (settings : HandlerSettings)
variable (candidates : List (Provider book)) (req : MeteredRequest)

/-- A request that a gate stops counts that gate, where the ledger's reads succeed. -/
theorem gate_gated {ledger : LedgerAnswers} (routed : candidates ≠ [])
    (knownBalance : ledger.knownBalance ≠ .rejected)
    (preBalance : ledger.preBalance ≠ .rejected)
    : Gated (gate js settings candidates req ledger) := by
  obtain ⟨representative, others, rfl⟩ := List.exists_cons_of_ne_nil routed
  unfold gate
  simp only [List.head?_cons, orStop]
  split
  · exact .error rfl
  · refine .orStop rfl fun token => .await knownBalance fun balance => .orStop rfl fun _ => ?_
    refine .orStop rfl fun parsed => .orStop rfl fun rawModel => ?_
    split
    · exact .error rfl
    · split
      · exact .error rfl
      · exact .error rfl
      · refine .await preBalance fun preBalance => .orStop rfl fun funds => ?_
        split
        · exact .error rfl
        · exact .ok _

/-- A hold that the ledger does not open counts a gate. -/
theorem openHold_gated {admission : Admission book} {estimate : HoldResult} {env : Environment}
    (opens : ∀ hash micros holdId, env.ledger.openHold hash micros holdId ≠ .rejected)
    (goneBalance : env.ledger.goneBalance ≠ .rejected)
    : Gated (openHold js admission estimate env) := by
  unfold openHold
  simp only
  split
  · rename_i rejected
    exact absurd rejected (opens _ _ _)
  · split
    · rename_i rejected
      exact absurd rejected goneBalance
    · rename_i gone _
      cases gone with
      | none => exact .error rfl
      | some balance => exact .error rfl
  · exact .ok _

/-- The estimate of an admitted request exists. -/
theorem Admission.exists_estimate (admission : Admission book) (inputTokenCount : Option Json)
    : ∃ estimate, admission.estimateHold js inputTokenCount = some estimate := by
  obtain ⟨rate, found⟩ :=
    PriceBook.exists_rate (admission.provider.owns_priced admission.model admission.owned)
  obtain ⟨estimate, sized, _⟩ := admission.estimateHold_micros js found inputTokenCount
  exact ⟨estimate, sized⟩

/-- A request that ends before its hold is opened counts one gate. -/
theorem reserve_gated {env : Environment} (routed : candidates ≠ [])
    (knownBalance : env.ledger.knownBalance ≠ .rejected)
    (preBalance : env.ledger.preBalance ≠ .rejected)
    (opens : ∀ hash micros holdId, env.ledger.openHold hash micros holdId ≠ .rejected)
    (goneBalance : env.ledger.goneBalance ≠ .rejected)
    : Gated (reserve js settings candidates req env) := by
  unfold reserve
  split
  · rename_i stop stopped
    exact .error (gate_gated js settings candidates req routed knownBalance preBalance stop stopped)
  · rename_i admission _
    obtain ⟨estimate, sized⟩ := admission.exists_estimate js env.inputTokenCount
    rw [sized]
    exact openHold_gated js opens goneBalance

theorem Stop.counters_effects {stop : Stop} {kind : GateKind} (counts : stop.gate = some kind)
    : counters stop.effects = [.gate kind] := by
  obtain ⟨attempted, _, _⟩ := stop
  cases counts
  cases attempted <;> rfl

end Gates

-----------------------------------------------------------------------------------------
-- The forward
-----------------------------------------------------------------------------------------

/-- A request that has been counted and sent, and has settled nothing. -/
structure Billing.Sent (billing : Billing) : Prop extends billing.Untouched where
  forwarded : accounted billing.effects = [.requests]

section Forward

variable {book : PriceBook} (js : Runtime) (held : Held book) (env : Environment)

/-- How the code under the `try` leaves the counters of a request. -/
inductive ForwardCounts : Attempt book × Billing → Prop
  | returned {reply billing outcome} (primary : outcome.primary)
      (accounted : accounted billing.effects = [.requests, outcome])
      : ForwardCounts (.returned reply, billing)
  | streaming {started billing} (accounted : accounted billing.effects = [.requests])
      : ForwardCounts (.streaming started, billing)
  | refused {billing} (unconfirmed : env.ledger.settleHold 0 ≠ .resolved true)
      (called : settlements billing.effects ≠ [])
      : ForwardCounts (.ledgerSettlementError, billing)
  | threw {readFailed billing} (sent : billing.Sent)
      : ForwardCounts (.threw readFailed, billing)
  | threwRefunded {billing} (accounted : accounted billing.effects = [.requests])
      (settled : billing.Settled held.holdId (.ofInt 0))
      : ForwardCounts (.threw false, billing)

/-- How a held request leaves the counters: its stream starts, it ends, or its only settlement is
not confirmed.
-/
inductive HeldCounts : Outcome book × List Effect → Prop
  | streaming {started effects} (accounted : accounted effects = [.requests])
      : HeldCounts (.streaming started, effects)
  | ended {reply effects outcome} (primary : outcome.primary)
      (accounted : accounted effects = [.requests, outcome])
      : HeldCounts (.replied reply, effects)
  | refused {effects} (unconfirmed : env.ledger.settleHold 0 ≠ .resolved true)
      (called : settlements effects ≠ [])
      : HeldCounts (.failed, effects)

variable {held env}

/-- The first charge of a request counts no outcome: it is settled, or not confirmed. -/
theorem Billing.Sent.charge {billing after : Billing} {actual : Number} {result : Billed}
    (sent : billing.Sent) (billed : billActual held env.ledger billing actual = (result, after))
    : accounted after.effects = [.requests]
      ∧ ((result = .charged (effectiveDebit held.holdAmount actual)
          ∧ after.Settled held.holdId (effectiveDebit held.holdAmount actual))
        ∨ (result = .ledgerSettlementError
          ∧ env.ledger.settleHold 0 ≠ .resolved true
          ∧ settlements after.effects ≠ [])) := by
  have kept := accounted_billActual held env.ledger billing actual
  rw [billed] at kept
  refine ⟨kept.trans sent.forwarded, ?_⟩
  rcases sent.toUntouched.charge billed with ⟨_, charged, settled⟩ | ⟨unconfirmed, refused, called⟩
  · exact Or.inl ⟨charged, settled⟩
  · exact Or.inr ⟨refused, unconfirmed, by rw [called]; exact List.cons_ne_nil _ _⟩

/-- A charge is followed by what comes next, or the ledger has not confirmed it. -/
theorem ForwardCounts.onCharged {billing : Billing} {actual : Number}
    {next : Billing → Attempt book × Billing} (sent : billing.Sent)
    (later
      : ∀ charged : Billing,
          accounted charged.effects = [.requests]
          → charged.Settled held.holdId (effectiveDebit held.holdAmount actual)
          → ForwardCounts held env (next charged))
    : ForwardCounts held env (onCharged (billActual held env.ledger billing actual) next) := by
  rcases billed : billActual held env.ledger billing actual with ⟨result, after⟩
  obtain ⟨forwarded, ⟨rfl, settled⟩ | ⟨rfl, unconfirmed, called⟩⟩ := sent.charge billed
  · exact later after forwarded settled
  · exact .refused unconfirmed called

/-- A response is constructed after its outcome has been counted. -/
theorem ForwardCounts.respond {billing : Billing} {outcome : Counter} (reply : Reply)
    (constructs : env.responseThrows = false) (primary : outcome.primary)
    (forwarded : accounted billing.effects = [.requests])
    : ForwardCounts held env (respond env (billing.count outcome) reply) := by
  rw [Proxy.respond, constructs]
  exact .returned primary (accounted_outcome forwarded primary)

/-- A relayed or masked upstream error is one upstream outcome. -/
theorem ForwardCounts.relay {billing : Billing} (upstream : UpstreamResponse) (text : String)
    (constructs : env.responseThrows = false)
    (forwarded : accounted billing.effects = [.requests])
    : ForwardCounts held env (relayOrSanitizeUpstream js held env billing upstream text) := by
  unfold relayOrSanitizeUpstream
  simp only
  split
  · exact .returned rfl (accounted_outcome forwarded rfl)
  · split
    · exact .respond _ constructs rfl forwarded
    · exact .respond _ constructs rfl forwarded

/-- A buffered 2xx body is served, or refunded in full, or its model has no price. -/
theorem ForwardCounts.settleBuffered {billing : Billing} (upstream : UpstreamResponse)
    (text : String) (constructs : env.responseThrows = false) (sent : billing.Sent)
    : ForwardCounts held env (settleBuffered js held env billing upstream text) := by
  unfold Proxy.settleBuffered
  cases held.provider.extractUsage text with
  | none => exact .onCharged sent fun _ forwarded _ => .respond _ constructs rfl forwarded
  | some metered =>
      cases priced : priceUsage js.fp book metered.model metered.usage held.model with
      | none =>
          simp only [priced]
          exact .threw sent
      | some cost =>
          simp only [priced]
          exact .onCharged sent fun _ forwarded _ => .respond _ constructs rfl forwarded

theorem ForwardCounts.settleResponse {billing : Billing} (upstream : UpstreamResponse)
    (constructs : env.responseThrows = false) (sent : billing.Sent)
    : ForwardCounts held env (settleResponse js held env billing upstream) := by
  have refunded {next : Billing → Attempt book × Billing}
      (later
        : ∀ charged : Billing,
            accounted charged.effects = [.requests]
            → charged.Settled held.holdId (.ofInt 0)
            → ForwardCounts held env (next charged))
      : ForwardCounts held env
          (Proxy.onCharged (billActual held env.ledger billing (.ofInt 0)) next) := by
    refine .onCharged sent fun charged forwarded settled => later charged forwarded ?_
    rw [held.effectiveDebit_zero] at settled
    exact settled
  unfold Proxy.settleResponse
  split
  · split
    · exact .streaming sent.forwarded
    · apply refunded
      intro charged forwarded settled
      cases upstream.read with
      | failed => exact .threwRefunded forwarded settled
      | text text => exact .relay js upstream text constructs forwarded
  · cases upstream.read with
    | failed => exact .threw sent
    | text text =>
        simp only
        split
        · exact .settleBuffered js upstream text constructs sent
        · exact refunded fun _ forwarded _ => .relay js upstream text constructs forwarded

/-- The code under the `try` counts the request, and leaves one outcome or none. -/
theorem ForwardCounts.forward {billing : Billing} (builds : env.upstream ≠ .buildThrew)
    (constructs : env.responseThrows = false) (untouched : billing.Untouched)
    (uncounted : accounted billing.effects = [])
    : ForwardCounts held env (forward js held env billing) := by
  have sent (path body : String)
      : ((billing.count .requests).emit (.upstreamFetch path body)).Sent := by
    refine ⟨⟨untouched.completedCharge, ?_⟩, ?_⟩
    · rw [Billing.emit, settlements_append, settlements_count, untouched.settlements]
      rfl
    · rw [accounted_upstreamFetch, accounted_count, uncounted]
      rfl
  unfold Proxy.forward
  cases answered : env.upstream with
  | buildThrew => exact absurd answered builds
  | fetchThrew => exact .threw (sent _ _)
  | response upstream => exact .settleResponse js upstream constructs (sent _ _)

/-- A transport failure is one upstream outcome. -/
theorem HeldCounts.transportFailure {billing : Billing}
    (forwarded : accounted billing.effects = [.requests])
    : HeldCounts env
        ((transportFailure held env billing).1,
          (transportFailure held env billing).2.effects) := by
  refine .ended ?_ (accounted_outcome forwarded ?_)
  · rfl
  · rfl

/-- The handler's `catch` charges a request that is open, and counts one upstream outcome. -/
theorem HeldCounts.settleUpstreamFailure {billing : Billing} (readFailed : Bool)
    (sent : billing.Sent)
    : HeldCounts env
        ((settleUpstreamFailure js held env billing readFailed).1,
          (settleUpstreamFailure js held env billing readFailed).2.effects) := by
  unfold Proxy.settleUpstreamFailure
  cases readFailed with
  | true =>
      obtain ⟨inputFloor, floor⟩ :=
        Option.isSome_iff_exists.mp (acceptedInputFloor_isSome js held)
      rcases billed : billActual held env.ledger billing inputFloor with ⟨result, after⟩
      obtain ⟨forwarded, ⟨rfl, _⟩ | ⟨rfl, unconfirmed, called⟩⟩ := sent.charge billed
      · simp only [if_pos, floor, billed]
        apply HeldCounts.transportFailure
        rw [accounted_count, forwarded]
        rfl
      · simp only [if_pos, floor, billed]
        exact .refused unconfirmed called
  | false =>
      rcases billed : billActual held env.ledger billing (.ofInt 0) with ⟨result, after⟩
      obtain ⟨forwarded, ⟨rfl, _⟩ | ⟨rfl, unconfirmed, called⟩⟩ := sent.charge billed
      · exact .transportFailure forwarded
      · exact .refused unconfirmed called

/-- After a full refund the handler's `catch` finds the same charge settled. -/
theorem HeldCounts.settleUpstreamFailure_refunded {billing : Billing}
    (forwarded : accounted billing.effects = [.requests])
    (settled : billing.Settled held.holdId (.ofInt 0))
    : HeldCounts env
        ((Proxy.settleUpstreamFailure js held env billing false).1,
          (Proxy.settleUpstreamFailure js held env billing false).2.effects) := by
  have call := billCall_charged held (.ofInt 0) settled.completedCharge
  rw [held.effectiveDebit_zero] at call
  have billed : billActual held env.ledger billing (.ofInt 0)
      = (.charged (.ofInt 0), noteExcess held billing (.ofInt 0)) := by
    rw [billActual, call]
    rfl
  simp only [Proxy.settleUpstreamFailure, Bool.false_eq_true, if_false, billed]
  apply HeldCounts.transportFailure
  rw [accounted_noteExcess]
  exact forwarded

/-- A held request is forwarded once and ends with one outcome, or its stream starts. -/
theorem serveHeld_counts (builds : env.upstream ≠ .buildThrew)
    (constructs : env.responseThrows = false)
    : HeldCounts env (serveHeld js held env) := by
  have counts : ForwardCounts held env
      (forward js held env ⟨none, [.openHold held.hash held.holdAmount held.holdId]⟩) :=
    .forward js builds constructs ⟨rfl, rfl⟩ rfl
  rcases forwarded
      : forward js held env ⟨none, [.openHold held.hash held.holdAmount held.holdId]⟩ with
    ⟨attempt, billing⟩
  rw [forwarded] at counts
  simp only [serveHeld, forwarded]
  cases counts with
  | returned primary accounted => exact .ended primary accounted
  | streaming accounted => exact .streaming accounted
  | refused unconfirmed called => exact .refused unconfirmed called
  | threw sent => exact .settleUpstreamFailure js _ sent
  | threwRefunded forwarded settled =>
      exact .settleUpstreamFailure_refunded js forwarded settled

end Forward

-----------------------------------------------------------------------------------------
-- Streams
-----------------------------------------------------------------------------------------

section Streams

variable {book : PriceBook} {js : Runtime} {held : Held book}

/-- A stream has added nothing to the counters before it was registered while it is registered,
and its outcome since.
-/
def StreamState.Accounted (state : StreamState held.scanner) (opened : List Effect) : Prop :=
  if state.inflight then accounted state.billing.effects = accounted opened
  else
    ∃ outcome : Counter, outcome.primary
      ∧ accounted state.billing.effects = accounted opened ++ [outcome]

/-- An event that neither counts nor releases keeps the account. -/
theorem StreamState.Accounted.frame {state next : StreamState held.scanner} {opened : List Effect}
    (account : state.Accounted opened)
    (same : accounted next.billing.effects = accounted state.billing.effects)
    (registered : next.inflight = state.inflight)
    : next.Accounted opened := by
  rw [Accounted, registered, same]
  exact account

/-- A move keeps the account. -/
theorem StreamInvariant.step_accounted {state next : StreamState held.scanner}
    (inv : StreamInvariant state) {event : StreamEvent} (move : StreamMove js state event next)
    {opened : List Effect} (account : state.Accounted opened)
    : next.Accounted opened := by
  cases move with
  | fed scan => exact account
  | marked requestedCause kept => exact account
  | attempted terminalCause requestedCause free amount first =>
      refine account.frame ?_ rfl
      rw [accounted_settleHold, accounted_noteExcess]
  | confirmed found => exact account
  | denied found => exact account
  | @finished i decision terminalCause charged found =>
      obtain ⟨registered, _⟩ := inv.unfinished found trivial rfl
      obtain ⟨outcome, primary, counted⟩ :=
        SettlementAttempt.accounted ⟨decision, terminalCause, .completed charged⟩ charged
      rw [StreamState.Accounted, registered] at account
      refine ⟨outcome, primary, ?_⟩
      rw [accounted_counters, counted]
      exact congrArg (· ++ [outcome]) account
  | gaveUp found => exact account

/-- The account holds after any events of a stream. -/
theorem streamRun_accounted {opened : List Effect} (unbilled : Unbilled opened)
    (events : List StreamEvent)
    : (streamRun js held opened events).Accounted opened := by
  have base : (streamRun js held opened []).Accounted opened := rfl
  simpa using streamRun_keeps (fun state => state.Accounted opened) unbilled base
    (fun _ event inv account => inv.step_accounted (inv.move js event) account) events

end Streams

-----------------------------------------------------------------------------------------
-- Runs
-----------------------------------------------------------------------------------------

/-- A metered request, what its run is answered, and the events of its stream, if it starts one. -/
structure MeteredRun (book : PriceBook) where
  candidates : List (Provider book)
  req : MeteredRequest
  env : Environment
  events : List StreamEvent

/-- A request counts one gate and nothing else, or that it is forwarded and then one outcome. -/
def Reconciled (counters : List Counter) : Prop :=
  (∃ kind, counters = [.gate kind])
  ∨ ∃ outcome : Counter, outcome.primary
      ∧ counters.filter (fun counter => !counter.annotates) = [.requests, outcome]

section Runs

variable {book : PriceBook} (js : Runtime) (settings : HandlerSettings)

namespace MeteredRun

def handled (run : MeteredRun book) : Outcome book × List Effect :=
  handleMetered js settings run.candidates run.req run.env

/-- All effects of a request, those of its stream included. -/
def effects (run : MeteredRun book) : List Effect :=
  match run.handled js settings with
  | (.streaming held, opened) => (streamRun js held opened run.events).billing.effects
  | (_, effects) => effects

/-- The ledger confirms every settlement of a request, that of a stream after any retries. -/
def Confirmed (run : MeteredRun book) : Prop :=
  match run.handled js settings with
  | (.streaming held, opened) => ConfirmedIn js held opened run.events
  | (_, effects) =>
      ∀ i < (settlements effects).length, run.env.ledger.settleHold i = .resolved true

/-- A run on a served path whose ledger reads succeed and whose settlements are confirmed, where
building the request and constructing the response do not throw. The call that opens its hold is
a mutation of the ledger's client, which never rejects.
-/
structure Undisturbed (run : MeteredRun book) : Prop where
  routed : run.candidates ≠ []
  knownBalance : run.env.ledger.knownBalance ≠ .rejected
  preBalance : run.env.ledger.preBalance ≠ .rejected
  goneBalance : run.env.ledger.goneBalance ≠ .rejected
  opens : ∀ hash micros holdId, run.env.ledger.openHold hash micros holdId ≠ .rejected
  builds : run.env.upstream ≠ .buildThrew
  constructs : run.env.responseThrows = false
  confirmed : run.Confirmed js settings

variable {js settings}

/-- An undisturbed run reconciles. -/
theorem Undisturbed.reconciled {run : MeteredRun book} (undisturbed : run.Undisturbed js settings)
    : Reconciled (counters (run.effects js settings)) := by
  have confirmed := undisturbed.confirmed
  unfold Confirmed handled at confirmed
  unfold effects handled
  cases reserved : reserve js settings run.candidates run.req run.env with
  | error stop =>
      have gated := reserve_gated js settings run.candidates run.req undisturbed.routed
        undisturbed.knownBalance undisturbed.preBalance undisturbed.opens undisturbed.goneBalance
        stop reserved
      obtain ⟨kind, counts⟩ := Option.isSome_iff_exists.mp gated
      simp only [handleMetered, reserved]
      cases stop.reply with
      | none => exact Or.inl ⟨kind, stop.counters_effects counts⟩
      | some reply => exact Or.inl ⟨kind, stop.counters_effects counts⟩
  | ok held =>
      have counts : HeldCounts run.env (serveHeld js held run.env) :=
        serveHeld_counts js undisturbed.builds undisturbed.constructs
      have served : handleMetered js settings run.candidates run.req run.env
          = serveHeld js held run.env := by
        simp only [handleMetered, reserved]
      rcases ended : serveHeld js held run.env with ⟨outcome, effects⟩
      rw [ended] at counts served
      rw [served] at confirmed ⊢
      cases counts with
      | ended primary forwarded => exact Or.inr ⟨_, primary, forwarded⟩
      | refused unconfirmed called =>
          exact absurd (confirmed 0 (List.length_pos_of_ne_nil called)) unconfirmed
      | @streaming started _ forwarded =>
          have unbilled := handleMetered_unbilled served
          have account : (streamRun js started effects run.events).Accounted effects :=
            streamRun_accounted unbilled run.events
          rw [StreamState.Accounted, (streamRun_released_iff unbilled run.events).mpr confirmed]
            at account
          obtain ⟨outcome, primary, counted⟩ := account
          rw [forwarded] at counted
          exact Or.inr ⟨outcome, primary, counted⟩

end MeteredRun

/-- A reconciled request counts as often that it is forwarded as an outcome. -/
theorem Reconciled.balanced {counters : List Counter} (reconciled : Reconciled counters)
    : counters.countP (· = .requests) = counters.countP Counter.primary := by
  rcases reconciled with ⟨kind, rfl⟩ | ⟨outcome, primary, forwarded⟩
  · rfl
  · have other : outcome ≠ .requests := by
      rintro rfl
      cases primary
    rw [← countP_unannotated (by simp [Counter.annotates]),
      ← countP_unannotated fun _ => Counter.annotates_of_primary, forwarded]
    simp only [List.countP_cons, List.countP_nil, primary, other]
    rfl

/-- Requests that reconcile one by one are forwarded as often as they count an outcome. -/
theorem Reconciled.balanced_flatten {scripts : List (List Counter)}
    (reconciled : ∀ script ∈ scripts, Reconciled script)
    : scripts.flatten.countP (· = .requests) = scripts.flatten.countP Counter.primary := by
  rw [List.countP_flatten, List.countP_flatten]
  apply congrArg List.sum
  apply List.map_congr_left
  intro script member
  exact (reconciled script member).balanced

end Runs

/-- Any finite set of undisturbed metered requests, whose counters are incremented in any
interleaving. Each of them counts one gate and nothing else, or once that it is forwarded and then
exactly one outcome. When all of them are over, the forwarded requests are as many as the outcomes.
-/
theorem metrics_reconcile {book : PriceBook} (js : Runtime) (settings : HandlerSettings)
    (runs : List (MeteredRun book)) (undisturbed : ∀ run ∈ runs, run.Undisturbed js settings)
    {log : List (ℕ × Counter)} {rest : List (List Counter)}
    (interleaved
      : (interleaving Counter).Run
          (runs.map (fun run => counters (run.effects js settings))) log rest)
    (quiescent : Ended rest)
    : (∀ i run, runs[i]? = some run → Reconciled (eventsOf i log))
      ∧ let metrics := Metrics.zero.recordAll js.fp (log.map Prod.snd)
        metrics.requests
          = metrics.served + metrics.servedPartial + metrics.streamAborted
            + metrics.bill .refundedInFull + metrics.upstreamTotal := by
  constructor
  · intro i run found
    have script : (runs.map (fun run => counters (run.effects js settings)))[i]?
        = some (counters (run.effects js settings)) := by
      rw [List.getElem?_map, found]
      rfl
    rw [eventsOf_ended interleaved quiescent script]
    exact (undisturbed run (List.mem_of_getElem? found)).reconciled
  · intro metrics
    have balanced
        : (log.map Prod.snd).countP (· = .requests)
          = (log.map Prod.snd).countP Counter.primary := by
      have perm := perm_ended interleaved quiescent
      rw [perm.countP_eq, perm.countP_eq]
      apply Reconciled.balanced_flatten
      intro script member
      obtain ⟨run, own, rfl⟩ := List.mem_map.mp member
      exact (undisturbed run own).reconciled
    have requests : metrics.requests = 0 + (log.map Prod.snd).countP (· = .requests) :=
      Metrics.recordAll_count (by simpa using Metrics.record_requests js.fp) .zero _
    have outcomes : metrics.outcomes = 0 + (log.map Prod.snd).countP Counter.primary :=
      Metrics.recordAll_count (Metrics.record_outcomes js.fp) .zero _
    calc metrics.requests
      _ = metrics.outcomes := by rw [requests, outcomes, balanced]
      _ = metrics.served + metrics.servedPartial + metrics.streamAborted
            + metrics.bill .refundedInFull + metrics.upstreamTotal := rfl

section Example

/-- A request whose stream is cancelled by its client. -/
def exampleStreamed : MeteredRun exampleBook where
  candidates := exampleCandidates exampleStreamJs
  req := exampleRequest exampleStreamRaw
  env := exampleEnvironment
  events := exampleEvents

/-- A request without a token. -/
def exampleStopped : MeteredRun exampleBook where
  candidates := exampleCandidates exampleStreamJs
  req := { exampleRequest exampleStreamRaw with apiKey := none }
  env := exampleEnvironment
  events := []

def exampleRuns : List (MeteredRun exampleBook) := [exampleStreamed, exampleStopped]

/-- The second request is stopped while the first one is under way. -/
def exampleLog : List (ℕ × Counter) := [(0, .requests), (1, .gate .auth), (0, .servedPartial)]

theorem exampleStopped_handled
    : exampleStopped.handled exampleStreamJs exampleSettings
      = (.replied (.error "anthropic" 401 "missing_api_key"), [.count (.gate .auth)]) :=
  rfl

theorem exampleStreamed_handled
    : counters (exampleStreamed.effects exampleStreamJs exampleSettings)
        = [.requests, .servedPartial]
      ∧ exampleStreamed.Confirmed exampleStreamJs exampleSettings := by
  have evaluated
      : (match exampleStreamed.handled exampleStreamJs exampleSettings with
          | (.streaming held, opened) =>
              some
                ((streamRun exampleStreamJs held opened exampleEvents).inflight,
                  counters
                    (streamRun exampleStreamJs held opened exampleEvents).billing.effects)
          | _ => none)
        = some (false, [.requests, .servedPartial]) := by
    decide +kernel
  rcases run : exampleStreamed.handled exampleStreamJs exampleSettings with ⟨outcome, opened⟩
  rw [run] at evaluated
  cases outcome with
  | replied reply => cases evaluated
  | failed => cases evaluated
  | streaming held =>
      obtain ⟨released, counted⟩ := Prod.mk.inj (Option.some.inj evaluated)
      rw [MeteredRun.effects, MeteredRun.Confirmed, run]
      exact ⟨counted, (streamRun_released_iff (handleMetered_unbilled run) _).mp released⟩

theorem exampleRuns_undisturbed
    : ∀ run ∈ exampleRuns, run.Undisturbed exampleStreamJs exampleSettings := by
  have opens (hash : String) (micros : Number) (holdId : String)
      : exampleEnvironment.ledger.openHold hash micros holdId ≠ .rejected := by
    simp [exampleEnvironment, exampleLedger]
  intro run member
  rcases List.mem_pair.mp member with rfl | rfl
  · exact ⟨List.cons_ne_nil _ _, nofun, nofun, nofun, opens, nofun, rfl,
      exampleStreamed_handled.2⟩
  · refine ⟨List.cons_ne_nil _ _, nofun, nofun, nofun, opens, nofun, rfl, ?_⟩
    rw [MeteredRun.Confirmed, exampleStopped_handled]
    intro i below
    cases below

theorem exampleLog_interleaved
    : (interleaving Counter).Run
        (exampleRuns.map (fun run => counters (run.effects exampleStreamJs exampleSettings)))
        exampleLog [[], []] := by
  have forwards
      : (interleaving Counter).step [[.requests, .servedPartial], [.gate .auth]] (0, .requests)
          [[.servedPartial], [.gate .auth]] :=
    ⟨_, rfl, rfl⟩
  have stops
      : (interleaving Counter).step [[.servedPartial], [.gate .auth]] (1, .gate .auth)
          [[.servedPartial], []] :=
    ⟨_, rfl, rfl⟩
  have ends
      : (interleaving Counter).step [[.servedPartial], []] (0, .servedPartial) [[], []] :=
    ⟨_, rfl, rfl⟩
  have scripts
      : exampleRuns.map (fun run => counters (run.effects exampleStreamJs exampleSettings))
        = [[.requests, .servedPartial], [.gate .auth]] := by
    rw [exampleRuns, List.map_cons, List.map_singleton, exampleStreamed_handled.1,
      MeteredRun.effects, exampleStopped_handled]
    rfl
  rw [scripts]
  exact ((System.Run.nil.snoc forwards).snoc stops).snoc ends

/-- The counters of two requests that overlap reconcile. -/
theorem metrics_reconcile_overlapping
    : Reconciled (eventsOf 0 exampleLog)
      ∧ Reconciled (eventsOf 1 exampleLog)
      ∧ (Metrics.zero.recordAll .binary64 (exampleLog.map Prod.snd)).requests
        = (Metrics.zero.recordAll .binary64 (exampleLog.map Prod.snd)).outcomes := by
  obtain ⟨each, total⟩ :=
    metrics_reconcile exampleStreamJs exampleSettings exampleRuns exampleRuns_undisturbed
      exampleLog_interleaved (by simp [Ended])
  exact ⟨each 0 _ rfl, each 1 _ rfl, total⟩

end Example

end Nullsink.Proxy
