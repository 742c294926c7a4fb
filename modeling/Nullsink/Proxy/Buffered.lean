import Nullsink.Proxy.Charge

/-! A buffered request settles its hold with one charge, which its upstream's behaviour fixes:
the invariant is what the trace and the cached charge say about the only settlement call.
-/

namespace Nullsink.Proxy

open Ecma

/-- Nothing has been settled. -/
structure Billing.Untouched (billing : Billing) : Prop where
  completedCharge : billing.completedCharge = none
  settlements : settlements billing.effects = []

/-- One call has settled a hold, definitely. -/
structure Billing.Settled (billing : Billing) (holdId : String) (charge : Number) : Prop where
  completedCharge : billing.completedCharge = some charge
  settlements : settlements billing.effects = [(holdId, charge)]

/-- A counter leaves the settlement as it is. -/
theorem Billing.Settled.count {billing : Billing} {holdId : String} {charge : Number}
    (settled : billing.Settled holdId charge) (counter : Counter)
    : (billing.count counter).Settled holdId charge :=
  ⟨settled.completedCharge, by simpa using settled.settlements⟩

section Charges

variable {book : PriceBook} (js : Runtime) (held : Held book)

/-- What the first call of `billActual` does: its only settlement call carries the charge. -/
theorem billActual_untouched (ledger : LedgerAnswers) {billing : Billing} (actual : Number)
    (untouched : billing.Untouched)
    : (ledger.settleHold 0 = .resolved true
        ∧ (billActual held ledger billing actual).1
          = .charged (effectiveDebit held.holdAmount actual)
        ∧ (billActual held ledger billing actual).2.Settled held.holdId
          (effectiveDebit held.holdAmount actual))
      ∨ (ledger.settleHold 0 ≠ .resolved true
        ∧ (billActual held ledger billing actual).1 = .ledgerSettlementError
        ∧ settlements (billActual held ledger billing actual).2.effects
          = [(held.holdId, effectiveDebit held.holdAmount actual)]) := by
  have called
      : settlements
          ((noteExcess held billing actual).emit
            (.settleHold held.holdId (effectiveDebit held.holdAmount actual))).effects
        = [(held.holdId, effectiveDebit held.holdAmount actual)] := by
    simp [untouched.settlements]
  unfold billActual
  simp only [billCall_uncharged held actual untouched.completedCharge, untouched.settlements,
    List.length_nil]
  cases answered : ledger.settleHold 0 with
  | rejected => exact Or.inr ⟨by simp, rfl, called⟩
  | resolved confirmed =>
      cases confirmed with
      | false => exact Or.inr ⟨by simp, rfl, called⟩
      | true => exact Or.inl ⟨rfl, rfl, rfl, called⟩

variable {held} in
/-- How the first charge of a billing ends: settled, or not confirmed. -/
theorem Billing.Untouched.charge {ledger : LedgerAnswers} {billing after : Billing}
    {actual : Number} {result : Billed} (untouched : billing.Untouched)
    (billed : billActual held ledger billing actual = (result, after))
    : (ledger.settleHold 0 = .resolved true
        ∧ result = .charged (effectiveDebit held.holdAmount actual)
        ∧ after.Settled held.holdId (effectiveDebit held.holdAmount actual))
      ∨ (ledger.settleHold 0 ≠ .resolved true
        ∧ result = .ledgerSettlementError
        ∧ Proxy.settlements after.effects
          = [(held.holdId, effectiveDebit held.holdAmount actual)]) := by
  have ends := billActual_untouched held ledger actual untouched
  rwa [billed] at ends

/-- After a definite settlement `billActual` makes no call. -/
theorem billActual_settled (ledger : LedgerAnswers) {billing : Billing} {charge : Number}
    (actual : Number) (settled : billing.Settled held.holdId charge)
    : settlements (billActual held ledger billing actual).2.effects = [(held.holdId, charge)] := by
  unfold billActual
  simp only [billCall_charged held actual settled.completedCharge, settlements_noteExcess,
    settled.settlements]

/-- The actual cost of a buffered run, before the clamp. -/
def bufferedCost (env : Environment) : Number :=
  match env.upstream with
  | .response upstream =>
      if upstream.ok then
        match upstream.read with
        | .failed => (acceptedInputFloor js held).getD (.ofInt 0)
        | .text text =>
            match held.provider.extractUsage text with
            | none => .ofInt 0
            | some metered =>
                (priceUsage js.fp book metered.model metered.usage held.model).getD (.ofInt 0)
      else .ofInt 0
  | _ => .ofInt 0

/-- How the code under the `try` leaves the billing of a buffered run. -/
inductive ForwardEnds (env : Environment) : Attempt book × Billing → Prop where
  | returned {reply billing} (confirmed : env.ledger.settleHold 0 = .resolved true)
      (settled : billing.Settled held.holdId
        (effectiveDebit held.holdAmount (bufferedCost js held env)))
      : ForwardEnds env (.returned reply, billing)
  | threwSettled {billing} (confirmed : env.ledger.settleHold 0 = .resolved true)
      (settled : billing.Settled held.holdId
        (effectiveDebit held.holdAmount (bufferedCost js held env)))
      : ForwardEnds env (.threw false, billing)
  | refused {billing} (unconfirmed : env.ledger.settleHold 0 ≠ .resolved true)
      (settlements : settlements billing.effects
        = [(held.holdId, effectiveDebit held.holdAmount (bufferedCost js held env))])
      : ForwardEnds env (.ledgerSettlementError, billing)
  | threwRefund {billing} (untouched : billing.Untouched)
      (free : bufferedCost js held env = .ofInt 0)
      : ForwardEnds env (.threw false, billing)
  | readFailed {billing} {inputFloor} (untouched : billing.Untouched)
      (floor : acceptedInputFloor js held = some inputFloor)
      (cost : bufferedCost js held env = inputFloor)
      : ForwardEnds env (.threw true, billing)

variable {js held}

/-- Constructing a response after a definite settlement keeps it. -/
theorem ForwardEnds.respond {env : Environment} {billing : Billing} (reply : Reply)
    (confirmed : env.ledger.settleHold 0 = .resolved true)
    (settled : billing.Settled held.holdId
      (effectiveDebit held.holdAmount (bufferedCost js held env)))
    : ForwardEnds js held env (respond env billing reply) := by
  unfold Proxy.respond
  split
  · exact .threwSettled confirmed settled
  · exact .returned confirmed settled

theorem ForwardEnds.relay {env : Environment} {billing : Billing} (upstream : UpstreamResponse)
    (text : String) (confirmed : env.ledger.settleHold 0 = .resolved true)
    (settled : billing.Settled held.holdId
      (effectiveDebit held.holdAmount (bufferedCost js held env)))
    : ForwardEnds js held env (relayOrSanitizeUpstream js held env billing upstream text) := by
  have counted := settled.count (.upstream (upstreamKind js upstream.status text))
  unfold relayOrSanitizeUpstream
  simp only
  split
  · exact .returned confirmed counted
  · split
    · exact .respond _ confirmed counted
    · exact .respond _ confirmed counted

/-- The first charge of a run is that of its actual cost, and what follows keeps it. -/
theorem ForwardEnds.charge {env : Environment} {billing : Billing}
    {next : Billing → Attempt book × Billing} (untouched : billing.Untouched)
    (keeps
      : ∀ billing : Billing,
          env.ledger.settleHold 0 = .resolved true
          → billing.Settled held.holdId
            (effectiveDebit held.holdAmount (bufferedCost js held env))
          → ForwardEnds js held env (next billing))
    : ForwardEnds js held env
        (onCharged (billActual held env.ledger billing (bufferedCost js held env)) next) := by
  unfold onCharged
  rcases billActual_untouched held env.ledger (bufferedCost js held env) untouched with
    ⟨confirmed, charged, settled⟩ | ⟨unconfirmed, refused, called⟩
  · rw [charged]
    exact keeps _ confirmed settled
  · rw [refused]
    exact .refused unconfirmed called

/-- A buffered 2xx body is billed once, by its usage. -/
theorem ForwardEnds.settleBuffered {env : Environment} {billing : Billing}
    {upstream : UpstreamResponse} {text : String} (untouched : billing.Untouched)
    (answered : env.upstream = .response upstream) (ok : upstream.ok)
    (read : upstream.read = .text text)
    : ForwardEnds js held env (settleBuffered js held env billing upstream text) := by
  unfold Proxy.settleBuffered
  cases extracted : held.provider.extractUsage text with
  | none =>
      have free : bufferedCost js held env = .ofInt 0 := by
        simp [bufferedCost, answered, ok, read, extracted]
      simp only [← free]
      exact .charge untouched
        (fun billing confirmed settled => .respond _ confirmed (settled.count _))
  | some metered =>
      cases price : priceUsage js.fp book metered.model metered.usage held.model with
      | none =>
          have free : bufferedCost js held env = .ofInt 0 := by
            simp [bufferedCost, answered, ok, read, extracted, price]
          simp only [price]
          exact .threwRefund untouched free
      | some cost =>
          have actual : bufferedCost js held env = cost := by
            simp [bufferedCost, answered, ok, read, extracted, price]
          simp only [price, ← actual]
          exact .charge untouched
            (fun billing confirmed settled => .respond _ confirmed (settled.count _))

/-- The code under the `try`, for a buffered request. -/
theorem ForwardEnds.forward {env : Environment} {billing : Billing}
    (buffered : held.streaming = false) (untouched : billing.Untouched)
    : ForwardEnds js held env (forward js held env billing) := by
  have sent (body : String)
      : ((billing.count .requests).emit
          (.upstreamFetch held.provider.upstreamPath body)).Untouched :=
    ⟨untouched.completedCharge, by
      rw [Billing.emit, settlements_append, settlements_count, untouched.settlements]
      rfl⟩
  unfold Proxy.forward
  cases answered : env.upstream with
  | buildThrew => exact .threwRefund untouched (by simp [bufferedCost, answered])
  | fetchThrew => exact .threwRefund (sent _) (by simp [bufferedCost, answered])
  | response upstream =>
      unfold settleResponse
      simp only [buffered, Bool.false_eq_true, if_false]
      cases read : upstream.read with
      | failed =>
          cases ok : upstream.ok with
          | false => exact .threwRefund (sent _) (by simp [bufferedCost, answered, ok])
          | true =>
              obtain ⟨inputFloor, floor⟩ :=
                Option.isSome_iff_exists.mp (acceptedInputFloor_isSome js held)
              exact .readFailed (sent _) floor
                (by simp [bufferedCost, answered, ok, read, floor])
      | text text =>
          cases ok : upstream.ok with
          | true => exact .settleBuffered (sent _) answered ok read
          | false =>
              have free : bufferedCost js held env = .ofInt 0 := by
                simp [bufferedCost, answered, ok]
              simp only [Bool.false_eq_true, if_false, ← free]
              exact .charge (sent _)
                (fun billing confirmed settled => .relay upstream text confirmed settled)

/-- How a run ends: its settlement calls are one call with one charge, and where the ledger did
not confirm it the run fails.
-/
structure SettledOnce (held : Held book) (env : Environment) (charge : Number)
    (ended : Outcome book × List Effect)
    : Prop where
  settlements : settlements ended.2 = [(held.holdId, charge)]
  failed : env.ledger.settleHold 0 ≠ .resolved true → ended.1 = .failed

/-- A reply to a transport failure changes no settlement. -/
theorem settlements_transportFailure (env : Environment) (billing : Billing)
    : settlements (transportFailure held env billing).2.effects
      = settlements billing.effects := by
  simp [transportFailure]

/-- The handler's `catch` settles what its `try` left open, and nothing twice. -/
theorem settleUpstreamFailure_settled {env : Environment} {billing : Billing} {readFailed : Bool}
    (ends : ForwardEnds js held env (.threw readFailed, billing))
    : SettledOnce held env (effectiveDebit held.holdAmount (bufferedCost js held env))
        ((settleUpstreamFailure js held env billing readFailed).1,
          (settleUpstreamFailure js held env billing readFailed).2.effects) := by
  cases ends with
  | threwSettled confirmed settled =>
      have kept := billActual_settled held env.ledger (.ofInt 0) settled
      refine ⟨?_, fun unconfirmed => absurd confirmed unconfirmed⟩
      rcases billed : billActual held env.ledger billing (.ofInt 0) with ⟨result, after⟩
      rw [billed] at kept
      cases result <;> simp [settleUpstreamFailure, billed, settlements_transportFailure, kept]
  | threwRefund untouched free =>
      rw [free]
      rcases billed : billActual held env.ledger billing (.ofInt 0) with ⟨result, after⟩
      rcases untouched.charge billed with ⟨confirmed, rfl, settled⟩ | ⟨unconfirmed, rfl, called⟩
      · exact ⟨
          by
            simp [settleUpstreamFailure, billed, settlements_transportFailure,
              settled.settlements],
          fun unconfirmed => absurd confirmed unconfirmed
        ⟩
      · exact ⟨
          by simpa [settleUpstreamFailure, billed] using called,
          fun _ => by simp [settleUpstreamFailure, billed]
        ⟩
  | @readFailed _ inputFloor untouched floor cost =>
      rw [cost]
      rcases billed : billActual held env.ledger billing inputFloor with ⟨result, after⟩
      rcases untouched.charge billed with ⟨confirmed, rfl, settled⟩ | ⟨unconfirmed, rfl, called⟩
      · exact ⟨
          by
            simp [settleUpstreamFailure, floor, billed, settlements_transportFailure,
              settled.settlements],
          fun unconfirmed => absurd confirmed unconfirmed
        ⟩
      · exact ⟨
          by simpa [settleUpstreamFailure, floor, billed] using called,
          fun _ => by simp [settleUpstreamFailure, floor, billed]
        ⟩

/-- A buffered run from its opened hold settles once, at the charge of its actual cost. -/
theorem serveHeld_settled (js : Runtime) (env : Environment) (buffered : held.streaming = false)
    : SettledOnce held env (effectiveDebit held.holdAmount (bufferedCost js held env))
        (serveHeld js held env) := by
  have ends : ForwardEnds js held env
      (forward js held env ⟨none, [.openHold held.hash held.holdAmount held.holdId]⟩) :=
    .forward buffered ⟨rfl, rfl⟩
  rcases forwarded
      : forward js held env ⟨none, [.openHold held.hash held.holdAmount held.holdId]⟩ with
    ⟨attempt, billing⟩
  rw [forwarded] at ends
  simp only [serveHeld, forwarded]
  cases ends with
  | returned confirmed settled =>
      exact ⟨settled.settlements, fun unconfirmed => absurd confirmed unconfirmed⟩
  | refused unconfirmed called => exact ⟨called, fun _ => rfl⟩
  | threwSettled confirmed settled =>
      exact settleUpstreamFailure_settled (.threwSettled confirmed settled)
  | threwRefund untouched free =>
      exact settleUpstreamFailure_settled (.threwRefund untouched free)
  | readFailed untouched floor cost =>
      exact settleUpstreamFailure_settled (.readFailed untouched floor cost)

/-- A run that stops before its hold is opened sends and settles nothing. -/
theorem Stop.no_upstreamFetch (stop : Stop) (path body : String)
    : Effect.upstreamFetch path body ∉ stop.effects := by
  simp [Stop.effects]

/-- A buffered run has a price to bill: usage under a string model, or a body that broke off
after a 2xx status.
-/
def PricedBuffered (held : Held book) (env : Environment) : Prop :=
  ∃ upstream, env.upstream = .response upstream ∧ upstream.ok
    ∧ (upstream.read = .failed
      ∨ ∃ text metered, upstream.read = .text text
        ∧ held.provider.extractUsage text = some metered ∧ metered.model.string?.isSome)

theorem bufferedCost_of_not_priced {env : Environment} (free : ¬PricedBuffered held env)
    : bufferedCost js held env = .ofInt 0 := by
  unfold bufferedCost
  split
  · rename_i upstream answered
    split
    · rename_i ok
      cases read : upstream.read with
      | failed => exact absurd ⟨upstream, answered, ok, Or.inl read⟩ free
      | text text =>
          cases extracted : held.provider.extractUsage text with
          | none => simp only [extracted]
          | some metered =>
              cases named : metered.model.string? with
              | none =>
                  simp only [extracted, priceUsage_eq_none js.fp _ _ named, Option.getD_none]
              | some name =>
                  exact absurd
                    ⟨upstream, answered, ok,
                      Or.inr ⟨text, metered, read, extracted, by simp [named]⟩⟩
                    free
    · rfl
  · rfl

end Charges

/-- A buffered request whose hold is opened makes exactly one settlement call before its run
ends, whatever the upstream and the ledger do: at the price of its usage, at its input floor or
at zero. A run whose settlement is not confirmed fails. A run without a hold sends nothing.
-/
theorem buffered_settlement {book : PriceBook} (js : Runtime) (settings : HandlerSettings)
    (candidates : List (Provider book)) (req : MeteredRequest) (env : Environment)
    : (∀ held,
        reserve js settings candidates req env = .ok held
        → held.streaming = false
        → ∃ c,
            settlements (handleMetered js settings candidates req env).2 = [(held.holdId, c)]
            ∧ (∀ upstream text metered,
                env.upstream = .response upstream
                → upstream.ok
                → upstream.read = .text text
                → held.provider.extractUsage text = some metered
                → metered.model.string?.isSome
                → ∃ price,
                    priceUsage js.fp book metered.model metered.usage held.model = some price
                    ∧ c = (Number.max (.ofInt 0) price).min held.holdAmount)
            ∧ (∀ upstream,
                env.upstream = .response upstream
                → upstream.ok
                → upstream.read = .failed
                → ∃ price,
                    priceUsage js.fp book (.string held.model)
                      (inputFloorUsage held.billableInputTokens) held.model = some price
                    ∧ c = (Number.max (.ofInt 0) price).min held.holdAmount)
            ∧ (¬PricedBuffered held env → c = .ofInt 0)
            ∧ (env.ledger.settleHold 0 ≠ .resolved true
              → (handleMetered js settings candidates req env).1 = .failed))
      ∧ ((∀ held, reserve js settings candidates req env ≠ .ok held)
        → ∀ path body,
            Effect.upstreamFetch path body
              ∉ (handleMetered js settings candidates req env).2) := by
  constructor
  · intro held opened buffered
    have settled := serveHeld_settled js env buffered
    have served : handleMetered js settings candidates req env = serveHeld js held env := by
      simp [handleMetered, opened]
    rw [served]
    refine ⟨effectiveDebit held.holdAmount (bufferedCost js held env), settled.settlements,
      ?_, ?_, ?_, settled.failed⟩
    · intro upstream text metered answered ok read extracted named
      obtain ⟨name, model⟩ := Json.string?_isSome.mp named
      obtain ⟨price, found⟩ :=
        Option.isSome_iff_exists.mp
          (priceUsage_isSome js.fp name metered.usage held.model_priced)
      refine ⟨price, by rw [model]; exact found, ?_⟩
      simp [bufferedCost, answered, ok, read, extracted, model, found, effectiveDebit]
    · intro upstream answered ok read
      obtain ⟨price, floor⟩ := Option.isSome_iff_exists.mp (acceptedInputFloor_isSome js held)
      refine ⟨price, floor, ?_⟩
      simp [bufferedCost, answered, ok, read, floor, effectiveDebit]
    · intro free
      rw [bufferedCost_of_not_priced free]
      exact held.effectiveDebit_zero
  · intro unopened path body
    cases stopped : reserve js settings candidates req env with
    | ok held => exact absurd stopped (unopened held)
    | error stop =>
        simp only [handleMetered, stopped]
        exact stop.no_upstreamFetch path body

section Example

/-- A runtime that parses the texts of an example. Nothing is serialized in them. -/
def exampleRuntime (texts : List (String × Json)) : Runtime where
  fp := .binary64
  parse := fun text => (texts.find? (fun entry => entry.1 = text)).map Prod.snd
  stringify := fun _ => ""

def exampleRate : Rate where
  input := 1000000
  output := 5000000
  cacheRead := 100000
  cacheWrite := 1250000
  cacheWrite1h := 2000000
  input_nonneg := by norm_num
  output_nonneg := by norm_num
  cacheRead_nonneg := by norm_num
  cacheWrite_nonneg := by norm_num
  cacheWrite_le := by norm_num

/-- A price book of one model. -/
def exampleBook : PriceBook where
  prices := [("claude-haiku-4-5", ⟨"anthropic", exampleRate⟩)]
  ids_nodup := by simp
  ids_named := by simp

def exampleSettings : HandlerSettings where
  maxMessagesBodyBytes := .ofInt 33554432
  defaultMaxOutputTokens := .ofInt 0
  knownProviderIds := ["anthropic"]
  hashToken := fun _ => "9f86d081884c7d659a2feaa0c55ad015a3bf4f1b2b0b822cd15d6c15b0f00a08"

def exampleBody (maxTokens : Number) : Json :=
  .object [("model", .string "claude-haiku-4-5"), ("max_tokens", .number maxTokens)]

def exampleRaw : String := "\x7b\"model\":\"claude-haiku-4-5\",\"max_tokens\":100\x7d"

def exampleJs : Runtime := exampleRuntime [(exampleRaw, exampleBody (.ofInt 100))]

def exampleCandidates (js : Runtime) : List (Provider exampleBook) :=
  [makeAnthropicProvider js exampleBook .countTokensHold]

def exampleRequest (raw : String) : MeteredRequest where
  contentLength := .ofInt raw.utf8ByteSize
  apiKey := some "0sink_example"
  bearer := none
  raw := raw

/-- A funded token, and a ledger that opens what its parser accepts. -/
def exampleLedger (settled : Answer Bool) : LedgerAnswers where
  knownBalance := .resolved (some 1000000)
  preBalance := .resolved (some 1000000)
  openHold := fun _ micros _ => .resolved (Ledger.safeMicros (some (.number micros))).isSome
  goneBalance := .resolved (some 1000000)
  settleHold := fun _ => settled
  opens_accepted := by
    intro _ micros _ opened
    obtain ⟨accepted, found⟩ := Option.isSome_iff_exists.mp (Answer.resolved.inj opened)
    have same := (Option.filter_eq_some_iff.mp found).1
    simp only [Option.bind_some, Json.number?, Option.some.injEq] at same
    rw [found, same]

/-- A 2xx response whose body breaks off. -/
def exampleEnvironment : Environment where
  ledger := exampleLedger (.resolved true)
  holdId := "3b241101-e2bb-4255-8caf-4136c566a962"
  inputTokenCount := none
  upstream := .response ⟨200, true, .failed⟩
  timedOut := false
  responseThrows := false

/-- A body that breaks off after a 2xx status bills a quarter of the request's 45 bytes. -/
theorem buffered_settlement_read_failure
    : ∃ held c,
        reserve exampleJs exampleSettings (exampleCandidates exampleJs) (exampleRequest exampleRaw)
            exampleEnvironment
          = .ok held
        ∧ settlements
            (handleMetered exampleJs exampleSettings (exampleCandidates exampleJs)
              (exampleRequest exampleRaw) exampleEnvironment).2
          = [(held.holdId, c)]
        ∧ c = .ofInt 12 := by
  have admitted
      : ((reserve exampleJs exampleSettings (exampleCandidates exampleJs)
          (exampleRequest exampleRaw) exampleEnvironment).toOption.map
            (fun held => held.streaming))
        = some false := by
    decide +kernel
  have charged
      : (settlements
          (handleMetered exampleJs exampleSettings (exampleCandidates exampleJs)
            (exampleRequest exampleRaw) exampleEnvironment).2).map Prod.snd
        = [.ofInt 12] := by
    decide +kernel
  obtain ⟨held, found, buffered⟩ := Option.map_eq_some_iff.mp admitted
  have opened := ok_of_toOption found
  obtain ⟨c, called, _⟩ :=
    (buffered_settlement exampleJs exampleSettings (exampleCandidates exampleJs)
      (exampleRequest exampleRaw) exampleEnvironment).1 held opened buffered
  rw [called] at charged
  exact ⟨held, c, opened, called, by simpa using charged⟩

end Example

end Nullsink.Proxy
