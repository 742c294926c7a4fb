import Nullsink.Ledger.Wire
import Nullsink.Proxy.Providers

/-! The metered money path of `handler.ts`: the gates, the hold, the forward and the buffered
settlement, as a function of what the ledger, the counter and the upstream answer.
-/

namespace Nullsink.Proxy

open Ecma

-----------------------------------------------------------------------------------------
-- Effects
-----------------------------------------------------------------------------------------

inductive GateKind where
  | auth
  | request
  | model
  | premium
  | funds
  deriving DecidableEq

inductive UpstreamKind where
  | throttle
  | server
  | auth
  | billing
  | timeout
  | unreachable
  | relayed4xx
  | notfound
  | other
  deriving DecidableEq

inductive BillKind where
  | refundedInFull
  | holdExceeded
  deriving DecidableEq

inductive FailureKind where
  | streamReported
  | streamEstimated
  | streamRefunded
  | streamTimeout
  | bufferedInputFloor
  deriving DecidableEq

/-- An increment of one of the counters of `metrics.ts`. -/
inductive Counter where
  | gate (kind : GateKind)
  | requests
  | served
  | servedPartial
  | streamAborted
  | bill (kind : BillKind)
  | upstream (kind : UpstreamKind)
  | failure (kind : FailureKind) (micros : Number)
  deriving DecidableEq

/-- What a request does to the world outside it. -/
inductive Effect where
  | openHold (hash : String) (micros : Number) (holdId : String)
  | upstreamFetch (path : String) (body : String)
  | settleHold (holdId : String) (chargedMicros : Number)
  | count (counter : Counter)
  deriving DecidableEq

-----------------------------------------------------------------------------------------
-- What the world answers
-----------------------------------------------------------------------------------------

/-- How a promise ends. -/
inductive Answer (α : Type) where
  | resolved (value : α)
  | rejected
  deriving DecidableEq

/-- The answers of a `MeteringLedgerPort`. An opened hold has passed the ledger's parser. -/
structure LedgerAnswers where
  knownBalance : Answer (Option ℤ)
  preBalance : Answer (Option ℤ)
  openHold : String → Number → String → Answer Bool
  goneBalance : Answer (Option ℤ)
  settleHold : ℕ → Answer Bool
  opens_accepted : ∀ hash micros holdId, openHold hash micros holdId = .resolved true
    → Ledger.safeMicros (some (.number micros)) = some micros

/-- How reading an upstream body ends. -/
inductive BodyRead where
  | text (value : String)
  | failed

structure UpstreamResponse where
  status : ℕ
  hasBody : Bool
  read : BodyRead

/-- `upstream.ok`. -/
def UpstreamResponse.ok (upstream : UpstreamResponse) : Bool :=
  200 ≤ upstream.status ∧ upstream.status < 300

/-- How the forward goes: building the request throws, the fetch does, or it is answered. -/
inductive UpstreamAnswer where
  | buildThrew
  | fetchThrew
  | response (upstream : UpstreamResponse)

/-- What one run of `handleMetered` is answered. `timedOut` is how its `catch` classifies an
error, `responseThrows` whether constructing the response it relays throws.
-/
structure Environment where
  ledger : LedgerAnswers
  holdId : String
  inputTokenCount : Option Json
  upstream : UpstreamAnswer
  timedOut : Bool
  responseThrows : Bool

/-- The headers and the body that are read. -/
structure MeteredRequest where
  contentLength : Number
  apiKey : Option String
  bearer : Option String
  raw : String

/-- A response to the client. -/
inductive Reply where
  | error (providerId : String) (status : ℕ) (code : String)
  | relayed (status : ℕ) (text : String) (shouldRetry : Option Bool)

/-- A run that ends before its hold is opened: the call it may have made, the gate it counts,
and its reply, `none` where its promise rejects.
-/
structure Stop where
  attempted : Option (String × Number × String)
  gate : Option GateKind
  reply : Option Reply

def Stop.effects (stop : Stop) : List Effect :=
  (stop.attempted.map (fun call => Effect.openHold call.1 call.2.1 call.2.2)).toList
    ++ (stop.gate.map (fun kind => Effect.count (.gate kind))).toList

/-- Go on with the value of a promise, whose rejection ends the run. -/
def Answer.await {α : Type} {β : Type*} (answer : Answer α) (next : α → Except Stop β)
    : Except Stop β :=
  match answer with
  | resolved value => next value
  | rejected => .error ⟨none, none, none⟩

/-- Go on with a value that is there, or stop. -/
def orStop {α β : Type*} (value : Option α) (stop : Stop) (next : α → Except Stop β)
    : Except Stop β :=
  match value with
  | some found => next found
  | none => .error stop

theorem Answer.await_eq_ok {α : Type} {β : Type*} {answer : Answer α} {next : α → Except Stop β}
    {result : β}
    : answer.await next = .ok result
      ↔ ∃ value, answer = .resolved value ∧ next value = .ok result := by
  cases answer <;> simp [Answer.await]

theorem orStop_eq_ok {α β : Type*} {value : Option α} {stop : Stop} {next : α → Except Stop β}
    {result : β}
    : orStop value stop next = .ok result
      ↔ ∃ found, value = some found ∧ next found = .ok result := by
  cases value <;> simp [orStop]

theorem ok_of_toOption {α : Type*} {stopped : Except Stop α} {value : α}
    (found : stopped.toOption = some value)
    : stopped = .ok value := by
  cases stopped with
  | error stop => cases found
  | ok value => exact congrArg Except.ok (Option.some.inj found)

-----------------------------------------------------------------------------------------
-- The gates and the hold
-----------------------------------------------------------------------------------------

structure HandlerSettings where
  maxMessagesBodyBytes : Number
  defaultMaxOutputTokens : Number
  knownProviderIds : List String
  hashToken : String → String

/-- A request that has passed the gates. -/
structure Admission (book : PriceBook) where
  provider : Provider book
  model : String
  body : Json
  effectiveRaw : String
  streaming : Bool
  clientCap : Option Number
  maxTokens : Number
  hash : String
  owned : provider.ownsModel model
  positive : (Number.ofInt 0).lt maxTokens

/-- The body that goes upstream for an admitted request. -/
def Admission.sendBody {book : PriceBook} (admission : Admission book) : String :=
  admission.provider.prepareBody admission.effectiveRaw admission.body admission.streaming
    (if admission.clientCap.isNone then some admission.maxTokens else none)

/-- An admitted request whose hold the ledger has opened. -/
structure Held (book : PriceBook) extends Admission book where
  holdId : String
  holdAmount : Number
  billableInputTokens : Number
  accepted : Ledger.safeMicros (some (.number holdAmount)) = some holdAmount

section Gates

variable {book : PriceBook}

/-- `metrics.recordGate(kind); return denyApi(provider, status, code)`. -/
def denied (kind : GateKind) (provider : Provider book) (status : ℕ) (code : String) : Stop :=
  ⟨none, some kind, some (.error provider.id status code)⟩

/-- The request's output cap, or the default where it omits one. -/
def maxTokensOf (settings : HandlerSettings) (provider : Provider book) (body : Json)
    : Option Number :=
  (provider.outputCap body).or
    (some settings.defaultMaxOutputTokens |>.filter (fun m => (Number.ofInt 0).lt m))

theorem maxTokensOf_positive {settings : HandlerSettings} {provider : Provider book} {body : Json}
    {maxTokens : Number} (found : maxTokensOf settings provider body = some maxTokens)
    : (Number.ofInt 0).lt maxTokens := by
  rcases Option.or_eq_some_iff.mp found with own | ⟨_, default⟩
  · exact provider.outputCap_positive body maxTokens own
  · exact (Option.filter_eq_some_iff.mp default).2

variable (js : Runtime) (settings : HandlerSettings) (candidates : List (Provider book))

/-- The gates of `handleMetered`, in order. The first candidate shapes the errors of the gates
that come before the model has selected one.
-/
def gate (req : MeteredRequest) (ledger : LedgerAnswers) : Except Stop (Admission book) :=
  orStop candidates.head? ⟨none, none, none⟩ fun representative =>
  if settings.maxMessagesBodyBytes.lt req.contentLength then
    .error (denied .request representative 413 "payload_too_large")
  else
  orStop ((readProxyToken representative.prefer req.apiKey req.bearer).filter (· ≠ ""))
    (denied .auth representative 401 "missing_api_key") fun token =>
  ledger.knownBalance.await fun knownBalance =>
  orStop knownBalance (denied .auth representative 401 "invalid_token") fun _ =>
  orStop (js.parse req.raw) (denied .request representative 400 "invalid_json") fun parsed =>
  orStop (((parsed.get? "model").bind Json.string?).filter (· ≠ ""))
    (denied .model representative 400 "unsupported_model") fun rawModel =>
  match resolveProvider candidates rawModel settings.knownProviderIds with
  | .error unresolved => .error (denied .model representative 400 unresolved.code)
  | .ok resolved =>
      let provider := resolved.provider
      let body :=
        if resolved.prefixed then
          .object (Json.setField parsed.spread "model" (.string resolved.model))
        else parsed
      match provider.premiumReject body, capped : maxTokensOf settings provider body with
      | some reject, _ => .error (denied .premium provider reject.status reject.error)
      | none, none => .error (denied .request provider 400 "max_tokens_required")
      | none, some maxTokens =>
          ledger.preBalance.await fun preBalance =>
          orStop preBalance (denied .auth provider 401 "invalid_token") fun preBalance =>
          if preBalance ≤ 0 then .error (denied .funds provider 402 "insufficient_balance")
          else
            .ok {
              provider
              model := resolved.model
              body
              effectiveRaw := if resolved.prefixed then js.stringify body else req.raw
              streaming := Json.isTrue (parsed.get? "stream")
              clientCap := provider.outputCap body
              maxTokens
              hash := settings.hashToken token
              owned := resolved.owned
              positive := maxTokensOf_positive capped
            }

/-- `provider.estimateHold` of an admitted request, from the counter's answer. -/
def Admission.estimateHold (admission : Admission book) (inputTokenCount : Option Json)
    : Option HoldResult :=
  admission.provider.estimator.estimate js book
    {
      model := admission.model
      raw := admission.effectiveRaw
      body := admission.body
      maxTokens := admission.maxTokens
      oneHourCache := admission.provider.oneHourCache admission.body
    }
    inputTokenCount

/-- The tokens a fallback charge uses: the count, or a quarter of the byte bound. -/
def billableInput (estimate : HoldResult) : Number :=
  match estimate.inputTokensSource with
  | .counted => estimate.inputTokens
  | .byteBound => (estimate.inputTokens.divBy js.fp 4).ceil

/-- The reply to a hold that was not opened: the token is gone, or its balance lost the race. -/
def unopened (provider : Provider book) (goneBalance : Option ℤ) : Stop :=
  match goneBalance with
  | none => denied .auth provider 401 "invalid_token"
  | some _ => denied .funds provider 402 "insufficient_balance"

/-- The hold of an admitted request, by the ledger's answer to the call that opens it. -/
def openHold (admission : Admission book) (estimate : HoldResult) (env : Environment)
    : Except Stop (Held book) :=
  let call := some (admission.hash, estimate.micros, env.holdId)
  match opened : env.ledger.openHold admission.hash estimate.micros env.holdId with
  | .rejected => .error ⟨call, none, none⟩
  | .resolved false =>
      match env.ledger.goneBalance with
      | .rejected => .error ⟨call, none, none⟩
      | .resolved goneBalance =>
          .error { unopened admission.provider goneBalance with attempted := call }
  | .resolved true =>
      .ok {
        admission with
        holdId := env.holdId
        holdAmount := estimate.micros
        billableInputTokens := billableInput js estimate
        accepted := env.ledger.opens_accepted _ _ _ opened
      }

/-- From the request to its opened hold. -/
def reserve (req : MeteredRequest) (env : Environment) : Except Stop (Held book) :=
  match gate js settings candidates req env.ledger with
  | .error stop => .error stop
  | .ok admission =>
      orStop (admission.estimateHold js env.inputTokenCount) ⟨none, none, none⟩ fun estimate =>
      openHold js admission estimate env

variable {js settings candidates} {req : MeteredRequest}

/-- The body that is gated: the parsed one, under its native model. -/
def gatedBody (resolved : Resolved book) (parsed : Json) : Json :=
  if resolved.prefixed then .object (Json.setField parsed.spread "model" (.string resolved.model))
  else parsed

/-- How an admission comes of a request. -/
structure AdmittedFrom (js : Runtime) (settings : HandlerSettings) (raw : String) (parsed : Json)
    (rawModel : String) (resolved : Resolved book) (admission : Admission book)
    : Prop where
  read : js.parse raw = some parsed
  asked : parsed.get? "model" = some (.string rawModel)
  provider : admission.provider = resolved.provider
  model : admission.model = resolved.model
  body : admission.body = gatedBody resolved parsed
  effectiveRaw
    : admission.effectiveRaw = if resolved.prefixed then js.stringify admission.body else raw
  streaming : admission.streaming = Json.isTrue (parsed.get? "stream")
  clientCap : admission.clientCap = admission.provider.outputCap admission.body
  unpremium : admission.provider.premiumReject admission.body = none
  maxTokens : maxTokensOf settings admission.provider admission.body = some admission.maxTokens

/-- Everything the gates have established of a request they let through. -/
theorem gate_admits {ledger : LedgerAnswers} {admission : Admission book}
    (passed : gate js settings candidates req ledger = .ok admission)
    : ∃ parsed rawModel resolved,
        resolveProvider candidates rawModel settings.knownProviderIds = .ok resolved
        ∧ AdmittedFrom js settings req.raw parsed rawModel resolved admission := by
  unfold gate at passed
  obtain ⟨_, _, passed⟩ := orStop_eq_ok.mp passed
  split at passed
  · cases passed
  · obtain ⟨_, _, passed⟩ := orStop_eq_ok.mp passed
    obtain ⟨_, _, passed⟩ := Answer.await_eq_ok.mp passed
    obtain ⟨_, _, passed⟩ := orStop_eq_ok.mp passed
    obtain ⟨parsed, read, passed⟩ := orStop_eq_ok.mp passed
    obtain ⟨rawModel, named, passed⟩ := orStop_eq_ok.mp passed
    split at passed
    · cases passed
    · rename_i resolved selected
      simp only at passed
      split at passed
      · cases passed
      · cases passed
      · rename_i maxTokens unpremium capped
        obtain ⟨_, _, passed⟩ := Answer.await_eq_ok.mp passed
        obtain ⟨_, _, passed⟩ := orStop_eq_ok.mp passed
        split at passed
        · cases passed
        · obtain rfl := Except.ok.inj passed
          obtain ⟨model, asked, text⟩ :=
            Option.bind_eq_some_iff.mp (Option.filter_eq_some_iff.mp named).1
          have asked : parsed.get? "model" = some (.string rawModel) := by
            obtain ⟨name, rfl⟩ := Json.string?_isSome.mp (by rw [text]; rfl)
            rw [asked, ← Option.some.inj text]
          exact ⟨parsed, rawModel, resolved, selected, read, asked, rfl, rfl, rfl, rfl, rfl, rfl,
            unpremium, capped⟩

/-- Only a candidate passes the gates. -/
theorem gate_provider {ledger : LedgerAnswers} {admission : Admission book}
    (passed : gate js settings candidates req ledger = .ok admission)
    : admission.provider ∈ candidates := by
  obtain ⟨parsed, rawModel, resolved, selected, admitted⟩ := gate_admits passed
  rw [admitted.provider]
  exact resolveProvider_mem selected

theorem openHold_admission {admission : Admission book} {estimate : HoldResult}
    {env : Environment} {held : Held book} (opened : openHold js admission estimate env = .ok held)
    : held.toAdmission = admission := by
  unfold openHold at opened
  simp only at opened
  split at opened
  · cases opened
  · split at opened
    · cases opened
    · cases opened
  · obtain rfl := Except.ok.inj opened
    rfl

theorem reserve_provider {env : Environment} {held : Held book}
    (opened : reserve js settings candidates req env = .ok held)
    : held.provider ∈ candidates := by
  unfold reserve at opened
  split at opened
  · cases opened
  · rename_i admission passed
    obtain ⟨estimate, _, opened⟩ := orStop_eq_ok.mp opened
    rw [openHold_admission opened]
    exact gate_provider passed

end Gates

-----------------------------------------------------------------------------------------
-- Billing
-----------------------------------------------------------------------------------------

/-- What a request's billing has done: the settled charge, if definite, and all effects. -/
structure Billing where
  completedCharge : Option Number
  effects : List Effect

namespace Billing

def emit (billing : Billing) (effect : Effect) : Billing :=
  { billing with effects := billing.effects ++ [effect] }

def count (billing : Billing) (counter : Counter) : Billing := billing.emit (.count counter)

end Billing

/-- How `billActual` ends. -/
inductive Billed where
  | charged (amount : Number)
  | ledgerSettlementError
  | conflictingCharge

/-- The charge of an actual cost: floored at 0, and clamped at the hold. -/
def effectiveDebit (holdAmount actual : Number) : Number :=
  (Number.max (.ofInt 0) actual).min holdAmount

/-- The settlement calls of a trace: hold id and charge. -/
def settlements (effects : List Effect) : List (String × Number) :=
  effects.filterMap (fun effect =>
    match effect with
    | .settleHold holdId chargedMicros => some (holdId, chargedMicros)
    | _ => none)

/-- A priced input without any output. -/
def inputFloorUsage (inputTokens : Number) : Usage where
  inputTokens := some (.number inputTokens)
  outputTokens := some (.number (.ofInt 0))
  cacheCreationInputTokens := some (.number (.ofInt 0))
  cacheReadInputTokens := some (.number (.ofInt 0))
  cacheCreation1hInputTokens := none

section Billing

variable {book : PriceBook} (js : Runtime)

/-- Where `billActual` first stops: at its settlement call, or without one. -/
inductive BillCall where
  | calling (debit : Number)
  | ended (billed : Billed)

/-- The anomaly counter of an actual cost above its hold. -/
def noteExcess (held : Held book) (billing : Billing) (actual : Number) : Billing :=
  if held.holdAmount.lt actual then billing.count (.bill .holdExceeded) else billing

/-- `billActual` as far as its settlement call. -/
def billCall (held : Held book) (billing : Billing) (actual : Number) : BillCall × Billing :=
  let noted := noteExcess held billing actual
  let debit := effectiveDebit held.holdAmount actual
  match billing.completedCharge with
  | some charge =>
      (.ended (if charge.strictEq debit then .charged charge else .conflictingCharge), noted)
  | none => (.calling debit, noted.emit (.settleHold held.holdId debit))

/-- `billActual` from the answer to its settlement call. -/
def billAnswered (billing : Billing) (debit : Number) (answer : Answer Bool) : Billed × Billing :=
  match answer with
  | .resolved true => (.charged debit, { billing with completedCharge := some debit })
  | .resolved false => (.ledgerSettlementError, billing)
  | .rejected => (.ledgerSettlementError, billing)

/-- `billActual`, against the ledger's answer to each of its settlement calls. -/
def billActual (held : Held book) (ledger : LedgerAnswers) (billing : Billing) (actual : Number)
    : Billed × Billing :=
  match billCall held billing actual with
  | (.ended billed, billing) => (billed, billing)
  | (.calling debit, called) =>
      billAnswered called debit (ledger.settleHold (settlements billing.effects).length)

/-- `acceptedInputFloor`. -/
def acceptedInputFloor (held : Held book) : Option Number :=
  priceUsage js.fp book (.string held.model) (inputFloorUsage held.billableInputTokens) held.model

-----------------------------------------------------------------------------------------
-- Relaying an upstream error
-----------------------------------------------------------------------------------------

/-- The `error` object of a parsed body. -/
def upstreamError (parsed : Json) : Option Json :=
  (parsed.get? "error").filter (fun err =>
    match err with
    | .object _ => true
    | .array _ => true
    | _ => false)

/-- The phrases of an out-of-funds account, in either case. -/
def billingPhrase (text : String) : Bool :=
  ["credit balance is too low", "purchase credits"].any
    (fun phrase => phrase.toList <:+: text.toList.map Char.toLower)

/-- Whether `type` or `code` of an error is one of the tags. -/
def taggedWith (err : Json) (tags : List String) : Bool :=
  tags.any (fun tag => Json.isText (err.get? "type") tag ∨ Json.isText (err.get? "code") tag)

def isBillingError (text : String) : Bool :=
  match js.parse text with
  | none => billingPhrase text
  | some parsed =>
      match upstreamError parsed with
      | none => false
      | some err =>
          taggedWith err ["insufficient_quota", "billing_error"]
          || billingPhrase (((err.get? "message").bind Json.string?).getD "")

def isOperatorAuthError (status : ℕ) (text : String) : Bool :=
  status ∈ [401, 403, 407]
  ∨ ((js.parse text).bind upstreamError).any
      (taggedWith · ["authentication_error", "permission_error", "invalid_api_key"])

def isModelNotFound (status : ℕ) (text : String) : Bool :=
  status = 404
  ∨ ((js.parse text).bind upstreamError).any
      (fun err => Json.isText (err.get? "code") "model_not_found")

/-- The counter of a relayed or masked upstream error. -/
def upstreamKind (status : ℕ) (text : String) : UpstreamKind :=
  if isOperatorAuthError js status text then .auth
  else if isBillingError js text ∨ status = 402 then .billing
  else if isModelNotFound js status text then .notfound
  else if status = 429 then .throttle
  else if status ≥ 500 then .server
  else if status ∈ [400, 413, 422] then .relayed4xx
  else .other

/-- Whether an upstream error exposes the operator's account. -/
def masked (status : ℕ) (text : String) : Bool :=
  isOperatorAuthError js status text ∨ isBillingError js text ∨ status = 402

/-- How a run of the code under the handler's `try` ends. -/
inductive Attempt (book : PriceBook) where
  | returned (reply : Reply)
  | streaming (held : Held book)
  | ledgerSettlementError
  | threw (bufferedReadFailedAfterOk : Bool)

/-- The response a run constructs last, or the throw of its constructor. -/
def respond (env : Environment) (billing : Billing) (reply : Reply) : Attempt book × Billing :=
  if env.responseThrows then (.threw false, billing) else (.returned reply, billing)

def relayOrSanitizeUpstream (held : Held book) (env : Environment) (billing : Billing)
    (upstream : UpstreamResponse) (text : String)
    : Attempt book × Billing :=
  let billing := billing.count (.upstream (upstreamKind js upstream.status text))
  if masked js upstream.status text then
    (.returned (.error held.provider.id 503 "service_unavailable"), billing)
  else if isModelNotFound js upstream.status text then
    respond env billing (.relayed upstream.status text (some false))
  else
    respond env billing
      (.relayed upstream.status text
        (some (upstream.status = 429 ∨ upstream.status = 529 ∨ upstream.status ≥ 500)))

-----------------------------------------------------------------------------------------
-- The forward
-----------------------------------------------------------------------------------------

/-- Go on after a charge; an error of `billActual` leaves the `try`. -/
def onCharged (billed : Billed × Billing) (next : Billing → Attempt book × Billing)
    : Attempt book × Billing :=
  match billed.1 with
  | .charged _ => next billed.2
  | .ledgerSettlementError => (.ledgerSettlementError, billed.2)
  | .conflictingCharge => (.threw false, billed.2)

/-- A buffered 2xx body: billed by its usage, or refunded where it reports none. -/
def settleBuffered (held : Held book) (env : Environment) (billing : Billing)
    (upstream : UpstreamResponse) (text : String)
    : Attempt book × Billing :=
  match held.provider.extractUsage text with
  | some metered =>
      match priceUsage js.fp book metered.model metered.usage held.model with
      | none => (.threw false, billing)
      | some cost =>
          onCharged (billActual held env.ledger billing cost)
            (fun billing =>
              respond env (billing.count .served) (.relayed upstream.status text none))
  | none =>
      onCharged (billActual held env.ledger billing (.ofInt 0))
        (fun billing =>
          respond env (billing.count (.bill .refundedInFull))
            (.relayed upstream.status text none))

/-- The answered forward of a request. -/
def settleResponse (held : Held book) (env : Environment) (billing : Billing)
    (upstream : UpstreamResponse)
    : Attempt book × Billing :=
  if held.streaming then
    if upstream.ok ∧ upstream.hasBody then (.streaming held, billing)
    else
      onCharged (billActual held env.ledger billing (.ofInt 0))
        (fun billing =>
          match upstream.read with
          | .failed => (.threw false, billing)
          | .text text => relayOrSanitizeUpstream js held env billing upstream text)
  else
    match upstream.read with
    | .failed => (.threw upstream.ok, billing)
    | .text text =>
        if upstream.ok then settleBuffered js held env billing upstream text
        else
          onCharged (billActual held env.ledger billing (.ofInt 0))
            (fun billing => relayOrSanitizeUpstream js held env billing upstream text)

/-- The code under the handler's `try`. -/
def forward (held : Held book) (env : Environment) (billing : Billing)
    : Attempt book × Billing :=
  let sent :=
    (billing.count .requests).emit (.upstreamFetch held.provider.upstreamPath held.sendBody)
  match env.upstream with
  | .buildThrew => (.threw false, billing)
  | .fetchThrew => (.threw false, sent)
  | .response upstream => settleResponse js held env sent upstream

/-- How a run of `handleMetered` ends. -/
inductive Outcome (book : PriceBook) where
  | replied (reply : Reply)
  | streaming (held : Held book)
  | failed

/-- The reply to a transport failure. -/
def transportFailure (held : Held book) (env : Environment) (billing : Billing)
    : Outcome book × Billing :=
  (.replied
      (if env.timedOut then .error held.provider.id 504 "upstream_timeout"
      else .error held.provider.id 502 "upstream_unreachable"),
    billing.count (.upstream (if env.timedOut then .timeout else .unreachable)))

/-- The handler's `catch`, for an error that is no `LedgerSettlementError`. -/
def settleUpstreamFailure (held : Held book) (env : Environment) (billing : Billing)
    (bufferedReadFailedAfterOk : Bool)
    : Outcome book × Billing :=
  if bufferedReadFailedAfterOk then
    match acceptedInputFloor js held with
    | none => (.failed, billing)
    | some inputFloor =>
        match billActual held env.ledger billing inputFloor with
        | (.charged amount, billing) =>
            transportFailure held env (billing.count (.failure .bufferedInputFloor amount))
        | (_, billing) => (.failed, billing)
  else
    match billActual held env.ledger billing (.ofInt 0) with
    | (.charged _, billing) => transportFailure held env billing
    | (_, billing) => (.failed, billing)

/-- A held request, to its end or to the start of its stream. -/
def serveHeld (held : Held book) (env : Environment) : Outcome book × List Effect :=
  let opened : Billing := ⟨none, [.openHold held.hash held.holdAmount held.holdId]⟩
  let ended : Outcome book × Billing :=
    match forward js held env opened with
    | (.returned reply, billing) => (.replied reply, billing)
    | (.streaming held, billing) => (.streaming held, billing)
    | (.ledgerSettlementError, billing) => (.failed, billing)
    | (.threw readFailed, billing) => settleUpstreamFailure js held env billing readFailed
  (ended.1, ended.2.effects)

/-- `handleMetered`: how the run ends and what it has done. -/
def handleMetered (settings : HandlerSettings) (candidates : List (Provider book))
    (req : MeteredRequest) (env : Environment)
    : Outcome book × List Effect :=
  match reserve js settings candidates req env with
  | .error stop => ((stop.reply.map Outcome.replied).getD .failed, stop.effects)
  | .ok held => serveHeld js held env

end Billing

end Nullsink.Proxy
