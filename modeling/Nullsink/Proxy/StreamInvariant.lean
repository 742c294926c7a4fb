import Nullsink.Proxy.Charge
import Nullsink.Proxy.StreamSettlement

/-! What every event keeps of a live stream: one attempt at a time, one decision, one charge, and
an outcome that is counted when the registry lets go.
-/

namespace Nullsink.Proxy

open Ecma Latch

/-- The counters of which one request increments one: its primary outcome. -/
def Counter.primary : Counter → Bool
  | served => true
  | servedPartial => true
  | streamAborted => true
  | bill .refundedInFull => true
  | upstream _ => true
  | _ => false

/-- An anomaly or a detail next to an outcome, which the reconciliation leaves out. -/
def Counter.annotates : Counter → Bool
  | bill .holdExceeded => true
  | failure _ _ => true
  | _ => false

theorem Counter.annotates_of_primary {counter : Counter} (primary : counter.primary)
    : counter.annotates = false := by
  cases counter with
  | bill kind => cases kind <;> first | rfl | cases primary
  | failure kind micros => cases primary
  | _ => rfl

/-- What is never an annotation is counted as often without the annotations. -/
theorem countP_unannotated {adds : Counter → Bool}
    (apart : ∀ counter, adds counter → counter.annotates = false) (counters : List Counter)
    : (counters.filter (fun counter => !counter.annotates)).countP adds
      = counters.countP adds := by
  rw [List.countP_filter]
  apply List.countP_congr
  intro counter _
  simpa using apart counter

def Effect.primary : Effect → Bool
  | count counter => counter.primary
  | _ => false

/-- How often a trace counts a primary outcome. -/
def primaryOutcomes (effects : List Effect) : ℕ := effects.countP Effect.primary

@[simp] theorem primaryOutcomes_emit (billing : Billing) (effect : Effect)
    : primaryOutcomes (billing.emit effect).effects
      = primaryOutcomes billing.effects + if effect.primary then 1 else 0 := by
  simp [Billing.emit, primaryOutcomes, List.countP_append, List.countP_cons]

@[simp] theorem primaryOutcomes_noteExcess {book : PriceBook} (held : Held book)
    (billing : Billing) (actual : Number)
    : primaryOutcomes (noteExcess held billing actual).effects
      = primaryOutcomes billing.effects := by
  unfold noteExcess
  split
  · exact primaryOutcomes_emit _ _
  · rfl

/-- Counters that are counted in order add their primary ones; by induction on the counters. -/
theorem primaryOutcomes_counters (billing : Billing) (counters : List Counter)
    : primaryOutcomes (counters.foldl Billing.count billing).effects
      = primaryOutcomes billing.effects + counters.countP Counter.primary := by
  induction counters generalizing billing with
  | nil => rfl
  | cons counter rest ih =>
      rw [List.foldl_cons, ih, Billing.count, primaryOutcomes_emit, List.countP_cons]
      by_cases primary : counter.primary <;> simp [Effect.primary, primary]
      omega

/-- What one counter keeps of a billing, any counters keep; by induction on the counters. -/
theorem Billing.counters_keep {β : Type*} (part : Billing → β)
    (kept : ∀ billing counter, part (count billing counter) = part billing) (billing : Billing)
    (counters : List Counter)
    : part (counters.foldl count billing) = part billing := by
  induction counters generalizing billing with
  | nil => rfl
  | cons counter rest ih => rw [List.foldl_cons, ih, kept]

/-- Counters settle nothing. -/
theorem settlements_counters (billing : Billing) (counters : List Counter)
    : settlements (counters.foldl Billing.count billing).effects
      = settlements billing.effects :=
  Billing.counters_keep (settlements ·.effects) settlements_count billing counters

theorem completedCharge_counters (billing : Billing) (counters : List Counter)
    : (counters.foldl Billing.count billing).completedCharge = billing.completedCharge :=
  Billing.counters_keep Billing.completedCharge completedCharge_count billing counters

/-- Every decision has one primary outcome, and details next to it. -/
theorem SettlementAttempt.accounted (attempt : SettlementAttempt) (charged : Number)
    : ∃ outcome : Counter, outcome.primary
        ∧ (attempt.counters charged).filter (fun counter => !counter.annotates) = [outcome] := by
  obtain ⟨decision, terminalCause, _⟩ := attempt
  have silent
      : (if terminalCause = .upstreamTimeout then
            [Counter.failure .streamTimeout (.ofInt 0)]
          else []).filter (fun counter => !counter.annotates)
        = [] := by
    split <;> rfl
  cases decision with
  | served cost => exact ⟨.served, rfl, rfl⟩
  | servedPartial cost => exact ⟨.servedPartial, rfl, rfl⟩
  | upstreamPartial cost evidence =>
      refine ⟨.servedPartial, rfl, ?_⟩
      cases evidence <;>
        simp only [counters, List.cons_append, List.filter_cons, List.filter_append, silent] <;>
        rfl
  | upstreamAborted =>
      refine ⟨.streamAborted, rfl, ?_⟩
      simp only [counters, List.filter_append, silent]
      rfl
  | shutdownAborted => exact ⟨.streamAborted, rfl, rfl⟩
  | unmeteredComplete => exact ⟨.bill .refundedInFull, rfl, rfl⟩

theorem SettlementAttempt.countP_primary (attempt : SettlementAttempt) (charged : Number)
    : (attempt.counters charged).countP Counter.primary = 1 := by
  obtain ⟨outcome, primary, accounted⟩ := attempt.accounted charged
  rw [← countP_unannotated fun _ => Counter.annotates_of_primary, accounted]
  simpa using primary

-----------------------------------------------------------------------------------------
-- Decisions
-----------------------------------------------------------------------------------------

/-- A decision bills an amount. -/
theorem decideStreamSettlement_amount {fp : Rounding} {book : PriceBook} {input : StreamEnd}
    {decision : StreamSettlementDecision}
    (decided : decideStreamSettlement fp book input = some decision)
    : decision.cost.Amount := by
  have free : (Number.ofInt 0).Amount := Or.inl ⟨0, rfl, le_rfl⟩
  unfold decideStreamSettlement at decided
  simp only at decided
  split at decided
  · obtain ⟨cost, price, rfl⟩ := Option.map_eq_some_iff.mp decided
    have amount := priceUsage_amount fp price
    split
    · exact amount
    · split <;> exact amount
  · split at decided
    · cases decided
      exact free
    · split at decided
      · obtain ⟨cost, price, rfl⟩ := Option.map_eq_some_iff.mp decided
        exact priceUsage_amount fp price
      · split at decided <;> cases decided <;> exact free

/-- Only a stream that ended by itself is billed as complete. -/
theorem decideStreamSettlement_complete {fp : Rounding} {book : PriceBook} {input : StreamEnd}
    {decision : StreamSettlementDecision}
    (decided : decideStreamSettlement fp book input = some decision)
    (complete : decision.Complete)
    : input.cause = .complete := by
  unfold decideStreamSettlement at decided
  simp only at decided
  split at decided
  · obtain ⟨cost, _, rfl⟩ := Option.map_eq_some_iff.mp decided
    by_contra interrupted
    split at complete
    · exact complete
    · exact complete
  · split at decided
    · cases decided
      exact complete.elim
    · split at decided
      · obtain ⟨cost, _, rfl⟩ := Option.map_eq_some_iff.mp decided
        exact complete.elim
      · split at decided
        · cases decided
          exact complete.elim
        · rename_i ended notCaller notDrain
          cases cause : input.cause <;>
            simp_all [StreamTerminalCause.upstreamFailed]

/-- Named usage and a priced request leave `priceUsage` nothing to throw at. -/
theorem decideStreamSettlement_isSome {book : PriceBook} (fp : Rounding) {input : StreamEnd}
    (named : ∀ metered, input.metered = some metered → metered.model.string?.isSome)
    (gated : (book.findModel input.requestModel).isSome)
    : (decideStreamSettlement fp book input).isSome := by
  unfold decideStreamSettlement
  simp only
  split
  · rename_i metered found
    obtain ⟨name, model⟩ := Json.string?_isSome.mp (named metered found)
    rw [Option.isSome_map, model]
    exact priceUsage_isSome fp name metered.usage gated
  · split
    · rfl
    · split
      · rw [Option.isSome_map]
        exact priceUsage_isSome fp _ _ gated
      · split <;> rfl

section Machine

variable {book : PriceBook} {js : Runtime} {held : Held book}

/-- What a scanner of an admitted request hands over has a decision. -/
theorem StreamState.exists_decision (js : Runtime) (state : StreamState held.scanner)
    (cause : StreamTerminalCause)
    : ∃ decision,
        decideStreamSettlement js.fp book (state.settlementInput cause) = some decision :=
  Option.isSome_iff_exists.mp
    (decideStreamSettlement_isSome js.fp (held.scanner.result_named _ _) held.model_priced)

-----------------------------------------------------------------------------------------
-- What one event does
-----------------------------------------------------------------------------------------

/-- The charge of a decision. -/
def Held.charge (held : Held book) (decision : StreamSettlementDecision) : Number :=
  effectiveDebit held.holdAmount decision.cost

/-- Everything an event can do to a stream. -/
inductive StreamMove (js : Runtime) (state : StreamState held.scanner)
    : StreamEvent → StreamState held.scanner → Prop
  | fed {text} (scan : held.scanner.State) : StreamMove js state (.chunk text) { state with scan }
  | marked {event} (requestedCause : Option RequestedCause)
    (kept : state.requestedCause.isSome → requestedCause.isSome)
    : StreamMove js state event { state with requestedCause }
  | attempted {event decision} (terminalCause : StreamTerminalCause)
    (requestedCause : Option RequestedCause) (free : state.attempts.latch = none)
    (amount : decision.cost.Amount)
    (first : state.settlementDecision = some decision ∨ state.settlementDecision = none)
    : StreamMove js state event
        {
          state with
          requestedCause
          settlementDecision := some decision
          settlementCause := some terminalCause
          attempts :=
            state.attempts.start ⟨decision, terminalCause, .calling (held.charge decision)⟩
          billing :=
            (noteExcess held state.billing decision.cost).emit
              (.settleHold held.holdId (held.charge decision))
        }
  | confirmed {i decision terminalCause debit}
    (found : state.attempts.made[i]? = some ⟨decision, terminalCause, .calling debit⟩)
    : StreamMove js state (.ledgerAnswer i (.resolved true))
        {
          state with
          attempts :=
            state.attempts.advance i ⟨decision, terminalCause, .billed (.charged debit)⟩
          billing := { state.billing with completedCharge := some debit }
        }
  | denied {i answer decision terminalCause debit}
    (found : state.attempts.made[i]? = some ⟨decision, terminalCause, .calling debit⟩)
    : StreamMove js state (.ledgerAnswer i answer)
        {
          state with
          attempts :=
            state.attempts.advance i ⟨decision, terminalCause, .billed .ledgerSettlementError⟩
        }
  | finished {i decision terminalCause charged}
    (found : state.attempts.made[i]?
      = some ⟨decision, terminalCause, .billed (.charged charged)⟩)
    : StreamMove js state (.resume i)
        {
          state with
          attempts := state.attempts.advance i ⟨decision, terminalCause, .completed charged⟩
          billing :=
            (SettlementAttempt.counters ⟨decision, terminalCause, .completed charged⟩
              charged).foldl
              Billing.count state.billing
          inflight := false
        }
  | gaveUp {i decision terminalCause}
    (found : state.attempts.made[i]?
      = some ⟨decision, terminalCause, .billed .ledgerSettlementError⟩)
    : StreamMove js state (.resume i)
        { state with attempts := state.attempts.giveUp i ⟨decision, terminalCause, .rejected⟩ }

/-- What a deadline does after it has marked its cause is a move of the unmarked state. -/
theorem StreamMove.of_marked {state next : StreamState held.scanner}
    {cause : RequestedCause}
    (moved : StreamMove js { state with requestedCause := some cause } .deadline next)
    : StreamMove js state .deadline next := by
  cases moved with
  | marked later kept => exact .marked later (fun _ => kept rfl)
  | attempted terminalCause later free amount first =>
      exact .attempted terminalCause later free amount first

/-- An attempt that has not been given up. -/
def SettlementAttempt.Live (attempt : SettlementAttempt) : Prop :=
  match attempt.phase with
  | .rejected => False
  | _ => True

/-- The confirmed charge that an attempt has seen. -/
def SettlementAttempt.confirmed (attempt : SettlementAttempt) : Option Number :=
  match attempt.phase with
  | .billed (.charged amount) => some amount
  | .completed charged => some charged
  | _ => none

/-- An attempt past its last step. -/
def SettlementAttempt.ended (attempt : SettlementAttempt) : Bool :=
  match attempt.phase with
  | .completed _ => true
  | _ => false

/-- An attempt carries the charge of its decision, and has not met another one. -/
def SettlementAttempt.Faithful (attempt : SettlementAttempt) (held : Held book) : Prop :=
  match attempt.phase with
  | .calling debit => debit = held.charge attempt.decision
  | .billed (.charged amount) => amount = held.charge attempt.decision
  | .billed .conflictingCharge => False
  | _ => True

/-- What holds of a stream after any events. -/
structure StreamInvariant (state : StreamState held.scanner) : Prop where
  single : state.attempts.Single SettlementAttempt.Live
  fixed
    : ∀ attempt,
        state.attempts.current = some attempt
        → state.settlementDecision = some attempt.decision ∧ attempt.Faithful held
  caused : state.settlementDecision.isSome → state.settlementCause.isSome
  amount : ∀ decision, state.settlementDecision = some decision → decision.cost.Amount
  completedCharge
    : state.billing.completedCharge
      = state.attempts.current.bind SettlementAttempt.confirmed
  calls
    : ∀ call ∈ settlements state.billing.effects,
        ∃ decision,
          state.settlementDecision = some decision
          ∧ call = (held.holdId, held.charge decision)
  inflight : state.inflight = !state.attempts.current.any SettlementAttempt.ended
  outcomes : primaryOutcomes state.billing.effects = if state.inflight then 0 else 1

namespace StreamInvariant

variable {state : StreamState held.scanner}

/-- While the latch is free nothing is charged. -/
theorem uncharged (inv : StreamInvariant state) (free : state.attempts.latch = none)
    : state.billing.completedCharge = none := by
  rw [inv.completedCharge, Attempts.current, free]
  rfl

/-- Where no attempt holds the latch, `settle` makes one. -/
theorem settle_free (inv : StreamInvariant state) (js : Runtime) (reason : SettleReason)
    (free : state.attempts.latch = none)
    : ∃ (decision : StreamSettlementDecision) (terminalCause : StreamTerminalCause)
          (requestedCause : Option RequestedCause),
        decision.cost.Amount
        ∧ (state.settlementDecision = some decision ∨ state.settlementDecision = none)
        ∧ state.settle js reason
          = {
            state with
            requestedCause
            settlementDecision := some decision
            settlementCause := some terminalCause
            attempts :=
              state.attempts.start ⟨decision, terminalCause, .calling (held.charge decision)⟩
            billing :=
              (noteExcess held state.billing decision.cost).emit
                (.settleHold held.holdId (held.charge decision))
          } := by
  have first (actual : Number) := billCall_uncharged held actual (inv.uncharged free)
  cases decided : state.settlementDecision with
  | some decision =>
      obtain ⟨terminalCause, caused⟩ :=
        Option.isSome_iff_exists.mp (inv.caused (by simp [decided]))
      refine ⟨decision, terminalCause, state.requestedCause, inv.amount decision decided,
        Or.inl rfl, ?_⟩
      simp [StreamState.settle, free, StreamState.fixDecision, StreamState.startAttempt, decided,
        caused, first, Held.charge]
  | none =>
      obtain ⟨decision, policy⟩ := state.exists_decision js reason.terminalCause
      refine ⟨decision, reason.terminalCause, (state.fixDecision js reason).requestedCause,
        decideStreamSettlement_amount policy, Or.inr rfl, ?_⟩
      simp [StreamState.settle, free, StreamState.fixDecision, StreamState.startAttempt, decided,
        policy, first, Held.charge]

/-- `settle` joins the latched attempt or makes one. -/
theorem move_settle (inv : StreamInvariant state) (js : Runtime) (event : StreamEvent)
    (reason : SettleReason)
    : StreamMove js state event (state.settle js reason) := by
  cases latched : state.attempts.latch with
  | some i =>
      simp only [StreamState.settle, latched]
      exact .marked state.requestedCause id
  | none =>
      obtain ⟨decision, terminalCause, requestedCause, amount, first, same⟩ :=
        inv.settle_free js reason latched
      rw [same]
      exact .attempted terminalCause requestedCause latched amount first

/-- Once `settle` has been called, an attempt holds the latch. -/
theorem settle_latched (inv : StreamInvariant state) (js : Runtime) (reason : SettleReason)
    : ∃ i attempt,
        (state.settle js reason).attempts.latch = some i
        ∧ (state.settle js reason).attempts.made[i]? = some attempt := by
  cases latched : state.attempts.latch with
  | some i =>
      obtain ⟨attempt, found, _⟩ := inv.single.lives i latched
      refine ⟨i, attempt, ?_, ?_⟩
      · simp [StreamState.settle, latched]
      · simpa [StreamState.settle, latched] using found
  | none =>
      obtain ⟨decision, terminalCause, requestedCause, _, _, same⟩ :=
        inv.settle_free js reason latched
      rw [same]
      refine ⟨state.attempts.made.length,
        ⟨decision, terminalCause, .calling (held.charge decision)⟩, rfl, ?_⟩
      simp [Attempts.start]

/-- A marked cause is not part of the invariant. -/
theorem mark (inv : StreamInvariant state) (requestedCause : Option RequestedCause)
    : StreamInvariant { state with requestedCause } :=
  ⟨inv.single, inv.fixed, inv.caused, inv.amount, inv.completedCharge, inv.calls, inv.inflight,
    inv.outcomes⟩

/-- Every event is a move. -/
theorem move (inv : StreamInvariant state) (js : Runtime) (event : StreamEvent)
    : StreamMove js state event (state.step js event) := by
  cases event with
  | chunk text => exact .fed _
  | eof => exact inv.move_settle js _ _
  | readError timedOut => exact inv.move_settle js _ _
  | clientCancel => exact .marked _ (fun _ => rfl)
  | cancelSettles => exact inv.move_settle js _ _
  | deadline => exact ((inv.mark (some .deadline)).move_settle js _ _).of_marked
  | drain => exact inv.move_settle js _ _
  | ledgerAnswer i answer =>
      simp only [StreamState.step, StreamState.answered]
      split
      · rename_i found
        cases answer with
        | rejected => exact .denied found
        | resolved confirmed =>
            cases confirmed with
            | true => exact .confirmed found
            | false => exact .denied found
      · exact .marked state.requestedCause id
  | resume i =>
      simp only [StreamState.step, StreamState.resume]
      split
      · rename_i found
        exact .finished found
      · rename_i result unequal found
        cases result with
        | charged amount => exact absurd rfl (unequal amount)
        | ledgerSettlementError => exact .gaveUp found
        | conflictingCharge =>
            have current := inv.single.current_of_live found trivial
            exact (inv.fixed _ current).2.elim
      · exact .marked state.requestedCause id

/-- A new attempt carries the charge of the decision it captures. -/
theorem attempted (inv : StreamInvariant state) {decision : StreamSettlementDecision}
    (terminalCause : StreamTerminalCause) (requestedCause : Option RequestedCause)
    (free : state.attempts.latch = none) (amount : decision.cost.Amount)
    (first : state.settlementDecision = some decision ∨ state.settlementDecision = none)
    : StreamInvariant
        {
          state with
          requestedCause
          settlementDecision := some decision
          settlementCause := some terminalCause
          attempts :=
            state.attempts.start ⟨decision, terminalCause, .calling (held.charge decision)⟩
          billing :=
            (noteExcess held state.billing decision.cost).emit
              (.settleHold held.holdId (held.charge decision))
        } := by
  have idle : state.attempts.current = none := by simp [Attempts.current, free]
  have live : state.inflight = true := by simpa [idle] using inv.inflight
  refine ⟨inv.single.start free trivial, ?_, fun _ => rfl, ?_, ?_, ?_, ?_, ?_⟩
  · intro attempt now
    rw [Attempts.current_start] at now
    cases now
    exact ⟨rfl, rfl⟩
  · intro other same
    cases same
    exact amount
  · rw [Attempts.current_start]
    exact (completedCharge_noteExcess held state.billing decision.cost).trans (inv.uncharged free)
  · intro call called
    rw [settlements_settleHold, settlements_noteExcess] at called
    rcases List.mem_append.mp called with earlier | own
    · obtain ⟨before, decided, same⟩ := inv.calls call earlier
      rcases first with again | undecided
      · rw [decided] at again
        exact ⟨before, again ▸ rfl, same⟩
      · rw [decided] at undecided
        cases undecided
    · exact ⟨decision, rfl, List.mem_singleton.mp own⟩
  · rw [Attempts.current_start]
    exact live
  · rw [primaryOutcomes_emit, primaryOutcomes_noteExcess]
    exact inv.outcomes

/-- The current attempt goes on, with the charge that its billing has confirmed. -/
theorem advanced (inv : StreamInvariant state) {i : ℕ} {attempt later : SettlementAttempt}
    {billing : Billing} {inflight : Bool} (found : state.attempts.made[i]? = some attempt)
    (live : attempt.Live) (stays : later.Live) (same : later.decision = attempt.decision)
    (faithful : later.Faithful held) (confirmed : billing.completedCharge = later.confirmed)
    (calls : settlements billing.effects = settlements state.billing.effects)
    (released : inflight = !later.ended)
    (outcomes : primaryOutcomes billing.effects = if inflight then 0 else 1)
    : StreamInvariant
        { state with attempts := state.attempts.advance i later, billing, inflight } := by
  have current := inv.single.current_of_live found live
  have advanced := inv.single.current_advance later found live
  refine ⟨inv.single.advance found live stays, ?_, inv.caused, inv.amount, ?_, ?_, ?_, outcomes⟩
  · intro other now
    rw [advanced] at now
    cases now
    exact ⟨same ▸ (inv.fixed attempt current).1, faithful⟩
  · rw [advanced]
    exact confirmed
  · rw [calls]
    exact inv.calls
  · rw [advanced]
    exact released

/-- The current attempt is given up without a charge. -/
theorem gaveUp (inv : StreamInvariant state) {i : ℕ} {attempt later : SettlementAttempt}
    (found : state.attempts.made[i]? = some attempt) (live : attempt.Live) (dead : ¬later.Live)
    (unconfirmed : attempt.confirmed = none) (unfinished : attempt.ended = false)
    : StreamInvariant { state with attempts := state.attempts.giveUp i later } := by
  have current := inv.single.current_of_live found live
  refine ⟨inv.single.giveUp found live dead, ?_, inv.caused, inv.amount, ?_, inv.calls, ?_,
    inv.outcomes⟩
  · intro other now
    rw [Attempts.current_giveUp] at now
    cases now
  · rw [Attempts.current_giveUp, inv.completedCharge, current]
    exact unconfirmed
  · rw [Attempts.current_giveUp, inv.inflight, current]
    simp [unfinished]

/-- An attempt that is not over has counted nothing, and the registry still holds `settle`. -/
theorem unfinished (inv : StreamInvariant state) {i : ℕ} {attempt : SettlementAttempt}
    (found : state.attempts.made[i]? = some attempt) (live : attempt.Live)
    (unfinished : attempt.ended = false)
    : state.inflight = true ∧ primaryOutcomes state.billing.effects = 0 := by
  have held : state.inflight = true := by
    rw [inv.inflight, inv.single.current_of_live found live]
    simp [unfinished]
  exact ⟨held, by rw [inv.outcomes, held]; rfl⟩

/-- A move keeps the invariant. -/
theorem step (inv : StreamInvariant state) {event : StreamEvent}
    {next : StreamState held.scanner} (move : StreamMove js state event next)
    : StreamInvariant next := by
  cases move with
  | fed scan =>
      exact ⟨inv.single, inv.fixed, inv.caused, inv.amount, inv.completedCharge, inv.calls,
        inv.inflight, inv.outcomes⟩
  | marked requestedCause _ => exact inv.mark requestedCause
  | attempted terminalCause requestedCause free amount first =>
      exact inv.attempted terminalCause requestedCause free amount first
  | confirmed found =>
      obtain ⟨registered, uncounted⟩ := inv.unfinished found trivial rfl
      have own := (inv.fixed _ (inv.single.current_of_live found trivial)).2
      exact inv.advanced found trivial trivial rfl own rfl rfl registered
        (by rw [registered]; exact uncounted)
  | denied found =>
      obtain ⟨registered, uncounted⟩ := inv.unfinished found trivial rfl
      have uncharged := inv.completedCharge
      rw [inv.single.current_of_live found trivial] at uncharged
      exact inv.advanced found trivial trivial rfl trivial uncharged rfl registered
        (by rw [registered]; exact uncounted)
  | finished found =>
      obtain ⟨_, uncounted⟩ := inv.unfinished found trivial rfl
      have charged := inv.completedCharge
      rw [inv.single.current_of_live found trivial] at charged
      refine inv.advanced found trivial trivial rfl trivial ?_ (settlements_counters _ _) rfl ?_
      · rw [completedCharge_counters]
        exact charged
      · rw [primaryOutcomes_counters, uncounted, SettlementAttempt.countP_primary]
        rfl
  | gaveUp found => exact inv.gaveUp found trivial id rfl rfl

end StreamInvariant

end Machine

end Nullsink.Proxy
