import Nullsink.Proxy.Buffered
import Nullsink.Proxy.StreamOutcome

/-! The ledger mutations of one run of `handleMetered`: the call that opens its hold, the one call
that settles a run without a stream, and the call of each settlement attempt of a stream.
-/

namespace Nullsink.Proxy

open Ecma Latch

-----------------------------------------------------------------------------------------
-- The call that opens the hold
-----------------------------------------------------------------------------------------

section Opening

variable {book : PriceBook} (js : Runtime) (settings : HandlerSettings)

/-- The arguments of the `openHold` call of a run, `none` where it stops before. -/
def openCall (candidates : List (Provider book)) (req : MeteredRequest) (env : Environment)
    : Option (String × Number × String) :=
  match reserve js settings candidates req env with
  | .ok held => some (held.hash, held.holdAmount, held.holdId)
  | .error stop => stop.attempted

variable {js settings}

/-- A hold is reserved only when the ledger has opened it. -/
theorem reserve_resolved {candidates : List (Provider book)} {req : MeteredRequest}
    {env : Environment} {held : Held book}
    (reserved : reserve js settings candidates req env = .ok held)
    : env.ledger.openHold held.hash held.holdAmount held.holdId = .resolved true := by
  unfold reserve at reserved
  split at reserved
  · cases reserved
  · obtain ⟨estimate, _, reserved⟩ := orStop_eq_ok.mp reserved
    unfold openHold at reserved
    simp only at reserved
    split at reserved
    · cases reserved
    · split at reserved <;> cases reserved
    · rename_i opened
      cases reserved
      exact opened

theorem openCall_of_reserve {candidates : List (Provider book)} {req : MeteredRequest}
    {env : Environment} {held : Held book}
    (reserved : reserve js settings candidates req env = .ok held)
    : openCall js settings candidates req env = some (held.hash, held.holdAmount, held.holdId) := by
  simp only [openCall, reserved]

end Opening

-----------------------------------------------------------------------------------------
-- The call of a run without a stream
-----------------------------------------------------------------------------------------

section Settling

variable {book : PriceBook} (js : Runtime) (held : Held book)

/-- The charge of a run that starts no stream. A streaming request that gets no stream pays nothing.
-/
def Held.settleCharge (env : Environment) : Number :=
  effectiveDebit held.holdAmount
    (if held.streaming then .ofInt 0 else bufferedCost js held env)

variable {js held}

/-- The code under the `try` of a streaming request starts the stream, or ends as a buffered run
whose upstream was never reached: it costs nothing.
-/
theorem forward_streaming_ends {env : Environment} {billing : Billing}
    (streams : held.streaming = true) (untouched : billing.Untouched)
    : (∃ after, forward js held env billing = (.streaming held, after))
      ∨ ForwardEnds js held { env with upstream := .fetchThrew } (forward js held env billing) := by
  have free : bufferedCost js held { env with upstream := .fetchThrew } = .ofInt 0 := rfl
  have sent (body : String)
      : ((billing.count .requests).emit
          (.upstreamFetch held.provider.upstreamPath body)).Untouched :=
    ⟨untouched.completedCharge, by
      rw [Billing.emit, settlements_append, settlements_count, untouched.settlements]
      rfl⟩
  unfold forward
  cases answered : env.upstream with
  | buildThrew => exact Or.inr (.threwRefund untouched free)
  | fetchThrew => exact Or.inr (.threwRefund (sent _) free)
  | response upstream =>
      by_cases live : upstream.ok ∧ upstream.hasBody
      · exact Or.inl ⟨_, by simp only [settleResponse, streams, live, if_true]; rfl⟩
      · refine Or.inr ?_
        simp only [settleResponse, streams, if_true, if_neg live]
        refine ForwardEnds.charge (sent _) ?_
        intro charged confirmed settled
        cases upstream.read with
        | failed => exact .threwSettled confirmed settled
        | text text => exact ForwardEnds.relay upstream text confirmed settled

/-- What follows the `try` settles once, whatever upstream its charge is read off. -/
theorem serveHeld_ends {env : Environment} {upstream : UpstreamAnswer}
    (ends
      : ForwardEnds js held { env with upstream }
          (forward js held env ⟨none, [.openHold held.hash held.holdAmount held.holdId]⟩))
    : settlements (serveHeld js held env).2
        = [(held.holdId,
            effectiveDebit held.holdAmount (bufferedCost js held { env with upstream }))]
      ∧ ∀ streamed, (serveHeld js held env).1 ≠ .streaming streamed := by
  rcases forwarded
      : forward js held env ⟨none, [.openHold held.hash held.holdAmount held.holdId]⟩ with
    ⟨attempt, billing⟩
  rw [forwarded] at ends
  simp only [serveHeld, forwarded]
  cases ends with
  | returned confirmed settled => exact ⟨settled.settlements, by simp⟩
  | refused unconfirmed called => exact ⟨called, by simp⟩
  | threwSettled confirmed settled =>
      exact ⟨(settleUpstreamFailure_settled (.threwSettled confirmed settled)).settlements,
        fun _ => settleUpstreamFailure_ne_streaming js held env billing false⟩
  | threwRefund untouched free =>
      exact ⟨(settleUpstreamFailure_settled (.threwRefund untouched free)).settlements,
        fun _ => settleUpstreamFailure_ne_streaming js held env billing false⟩
  | readFailed untouched floor cost =>
      exact ⟨(settleUpstreamFailure_settled (.readFailed untouched floor cost)).settlements,
        fun _ => settleUpstreamFailure_ne_streaming js held env billing true⟩

/-- How a run goes on from its opened hold. -/
inductive HeldServes (js : Runtime) (held : Held book) (env : Environment)
    : Outcome book × List Effect → Prop where
  | streamed {effects} (unbilled : Unbilled effects)
    : HeldServes js held env (.streaming held, effects)
  | settled {ended} (called : settlements ended.2 = [(held.holdId, held.settleCharge js env)])
    (ends : ∀ streamed, ended.1 ≠ .streaming streamed)
    : HeldServes js held env ended

/-- A run from its opened hold starts its stream, or makes one settlement call with its charge. -/
theorem serveHeld_serves (js : Runtime) (held : Held book) (env : Environment)
    : HeldServes js held env (serveHeld js held env) := by
  have untouched
      : Billing.Untouched ⟨none, [.openHold held.hash held.holdAmount held.holdId]⟩ :=
    ⟨rfl, rfl⟩
  cases streams : held.streaming with
  | false =>
      have ends
          : ForwardEnds js held { env with upstream := env.upstream }
              (forward js held env ⟨none, [.openHold held.hash held.holdAmount held.holdId]⟩) :=
        .forward streams untouched
      obtain ⟨called, outcome⟩ := serveHeld_ends ends
      refine .settled ?_ outcome
      rw [called, Held.settleCharge, streams]
      rfl
  | true =>
      have ends := @forward_streaming_ends book js held env _ streams untouched
      rcases ends with ⟨after, forwarded⟩ | ends
      · have started : serveHeld js held env = (.streaming held, after.effects) := by
          simp only [serveHeld, forwarded]
        rw [started]
        refine .streamed ?_
        rw [forward_streaming forwarded]
        exact ⟨rfl, rfl⟩
      · obtain ⟨called, outcome⟩ := serveHeld_ends ends
        refine .settled ?_ outcome
        rw [called, Held.settleCharge, streams]
        rfl

end Settling

-----------------------------------------------------------------------------------------
-- The calls of a stream
-----------------------------------------------------------------------------------------

section Streaming

variable {book : PriceBook} {js : Runtime} {held : Held book}

/-- The debit of the settlement call that a step of a stream made, if it started an attempt. -/
def newCall (state next : StreamState held.scanner) : Option Number :=
  match next.attempts.made[state.attempts.made.length]? with
  | some ⟨_, _, .calling debit⟩ => some debit
  | _ => none

/-- The call of a new attempt carries the charge of the stream's decision. -/
theorem StreamMove.newCall {state next : StreamState held.scanner} {event : StreamEvent}
    (move : StreamMove js state event next) {debit : Number}
    (called : Proxy.newCall state next = some debit)
    : ∃ decision, next.settlementDecision = some decision ∧ debit = held.charge decision := by
  unfold Proxy.newCall at called
  cases move with
  | attempted terminalCause requestedCause free amount first =>
      simp [Attempts.start] at called
      exact ⟨_, rfl, called.symm⟩
  | fed scan => simp at called
  | marked requestedCause kept => simp at called
  | confirmed found => simp [Attempts.advance] at called
  | denied found => simp [Attempts.advance] at called
  | finished found => simp [Attempts.advance] at called
  | gaveUp found => simp [Attempts.giveUp] at called

/-- A charge becomes definite with a confirmation of the ledger, and is the one of the decision. -/
theorem StreamInvariant.charged {state next : StreamState held.scanner} {event : StreamEvent}
    (inv : StreamInvariant state) (move : StreamMove js state event next) {charge : Number}
    (charged : next.billing.completedCharge = some charge)
    : state.billing.completedCharge = some charge
      ∨ ∃ i decision, event = .ledgerAnswer i (.resolved true)
          ∧ state.settlementDecision = some decision ∧ charge = held.charge decision := by
  cases move with
  | fed scan => exact Or.inl charged
  | marked requestedCause kept => exact Or.inl charged
  | attempted terminalCause requestedCause free amount first =>
      simp only [Billing.emit, completedCharge_noteExcess] at charged
      exact Or.inl charged
  | confirmed found =>
      obtain ⟨decided, faithful⟩ := inv.fixed _ (inv.single.current_of_live found trivial)
      cases charged
      exact Or.inr ⟨_, _, rfl, decided, faithful⟩
  | denied found => exact Or.inl charged
  | finished found =>
      rw [completedCharge_counters] at charged
      exact Or.inl charged
  | gaveUp found => exact Or.inl charged

end Streaming

end Nullsink.Proxy
