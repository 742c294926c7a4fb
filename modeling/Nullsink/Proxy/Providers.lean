import Nullsink.Proxy.Hold
import Nullsink.Proxy.Usage

/-! The provider seam of `providers`: everything that differs between upstream API shapes, and
how a request's model selects one.
-/

namespace Nullsink.Proxy

open Ecma

/-- Which header convention a provider's clients use first. -/
inductive TokenPreference where
  | apiKey
  | bearer

/-- `readProxyToken`: the preferred token, or the other where that is absent or empty. -/
def readProxyToken (prefer : TokenPreference) (apiKey bearer : Option String) : Option String :=
  match prefer with
  | .apiKey => (apiKey.filter (· ≠ "")).or bearer
  | .bearer => (bearer.filter (· ≠ "")).or apiKey

/-- A status and an error code. -/
structure Reject where
  status : ℕ
  error : String

/-- A provider over a price book. It owns only priced models, and admits only caps above zero. -/
structure Provider (book : PriceBook) where
  id : String
  upstreamPath : String
  estimator : HoldEstimator
  oneHourCache : Json → Bool
  prefer : TokenPreference
  premiumReject : Json → Option Reject
  outputCap : Json → Option Number
  ownsModel : String → Bool
  prepareBody : String → Json → Bool → Option Number → String
  extractUsage : String → Option Metered
  makeScanner : ScannerCtx → UsageScanner
  owns_priced : ∀ model, ownsModel model → (book.findModel model).isSome
  outputCap_positive : ∀ body cap, outputCap body = some cap → (Number.ofInt 0).lt cap

-----------------------------------------------------------------------------------------
-- Fields of a request body
-----------------------------------------------------------------------------------------

/-- A number above zero. -/
def positiveNumber (value : Option Json) : Option Number :=
  (value.bind Json.number?).filter (fun m => (Number.ofInt 0).lt m)

theorem positiveNumber_positive {value : Option Json} {cap : Number}
    (found : positiveNumber value = some cap)
    : (Number.ofInt 0).lt cap :=
  (Option.filter_eq_some_iff.mp found).2

/-- A tool whose type starts with one of the markers. -/
def hasToolOf (markers : List String) (tools : Option Json) : Bool :=
  ((tools.bind Json.array?).getD []).any
    (fun tool =>
      markers.any
        (fun marker =>
          marker.toList.isPrefixOf (((tool.get? "type").bind Json.string?).getD "").toList))

/-- A value that is present and not the number 1. -/
def presentNotOne (value : Option Json) : Bool :=
  Json.present value ∧ value.bind Json.number? ≠ some (.ofInt 1)

/-- An item of a list whose content holds an `input_audio` part. -/
def hasInputAudio (items : Option Json) : Bool :=
  ((items.bind Json.array?).getD []).any
    (fun item =>
      (((item.get? "content").bind Json.array?).getD []).any
        (fun part => Json.isText (part.get? "type") "input_audio"))

/-- A service tier other than the two that bill at the card's rates. -/
def offCardTier (body : Json) : Bool :=
  Json.present (body.get? "service_tier")
  ∧ ¬Json.isText (body.get? "service_tier") "auto"
  ∧ ¬Json.isText (body.get? "service_tier") "default"

/-- Modalities other than exactly `["text"]`. -/
def nonTextModalities (body : Json) : Bool :=
  Json.present (body.get? "modalities")
  ∧ ((((body.get? "modalities").bind Json.array?).getD []).map
      (fun modality => Json.isText (some modality) "text")) ≠ [true]

/-- `stream_options` with usage included. -/
def includeUsage (body : Json) : Json :=
  .object
    (Json.setField (((body.get? "stream_options").getD .null).spread) "include_usage"
      (.bool true))

/-- A body with an output cap written into a field of it, if there is one to write. -/
def injectField (fields : List (String × Json)) (key : String) (cap : Option Number)
    : List (String × Json) :=
  match cap with
  | none => fields
  | some cap => Json.setField fields key (.number cap)

-----------------------------------------------------------------------------------------
-- The providers
-----------------------------------------------------------------------------------------

mutual

/-- A `cache_control` with a `ttl` of `"1h"` anywhere in a value. -/
def hasOneHourCacheControl : Json → Bool
  | .array items => anyOneHour items
  | .object fields =>
      Json.isText (((Json.object fields).get? "cache_control").bind (·.get? "ttl")) "1h"
      || anyOneHourField fields
  | _ => false

def anyOneHour : List Json → Bool
  | [] => false
  | item :: rest => hasOneHourCacheControl item || anyOneHour rest

def anyOneHourField : List (String × Json) → Bool
  | [] => false
  | (_, value) :: rest => hasOneHourCacheControl value || anyOneHourField rest

end

section Factories

variable (js : Runtime) (book : PriceBook)

def anthropicPremiumReject (body : Json) : Option Reject :=
  if Json.present (body.get? "inference_geo") then some ⟨400, "unsupported_option"⟩
  else if hasToolOf ["web_search", "code_execution"] (body.get? "tools") then
    some ⟨400, "unsupported_tool"⟩
  else none

/-- The exact bytes, unless a default cap has to be injected. -/
def anthropicPrepareBody (raw : String) (body : Json) (injectCap : Option Number) : String :=
  match injectCap with
  | none => raw
  | some cap => js.stringify (.object (Json.setField body.spread "max_tokens" (.number cap)))

theorem owns_priced_of {provider : String} {model : String}
    (owned : book.providerOf model = some provider)
    : (book.findModel model).isSome := by
  obtain ⟨priced, found, _⟩ := Option.map_eq_some_iff.mp owned
  simp [found]

def makeAnthropicProvider (estimator : HoldEstimator) : Provider book where
  id := "anthropic"
  upstreamPath := "/v1/messages"
  estimator
  oneHourCache := hasOneHourCacheControl
  prefer := .apiKey
  premiumReject := anthropicPremiumReject
  outputCap := fun body => positiveNumber (body.get? "max_tokens")
  ownsModel := fun model => book.providerOf model = some "anthropic"
  prepareBody := fun raw body _ injectCap => anthropicPrepareBody js raw body injectCap
  extractUsage := Proxy.extractUsage js
  makeScanner := fun _ => streamUsageScanner js
  owns_priced := fun _ owned => owns_priced_of book (by simpa using owned)
  outputCap_positive := fun _ _ found => positiveNumber_positive found

/-- `OPENAI_CHAT_REJECTS`, in order: when, and the error. -/
def openaiChatRejects : List ((Json → Bool) × String) := [
    (offCardTier, "unsupported_option"),
    (fun b => Json.present (b.get? "web_search_options"), "unsupported_tool"),
    (fun b => presentNotOne (b.get? "n"), "unsupported_option"),
    (nonTextModalities, "unsupported_option"),
    (fun b => Json.present (b.get? "audio"), "unsupported_option"),
    (fun b => hasInputAudio (b.get? "messages"), "unsupported_option")
  ]

def openaiChatPremiumReject (body : Json) : Option Reject :=
  (openaiChatRejects.find? (fun rule => rule.1 body)).map (fun rule => ⟨400, rule.2⟩)

/-- `max_completion_tokens`, or the legacy `max_tokens`. -/
def openaiChatOutputCap (body : Json) : Option Number :=
  positiveNumber (Json.coalesce (body.get? "max_completion_tokens") (body.get? "max_tokens"))

def openaiChatPrepareBody (body : Json) (streaming : Bool) (injectCap : Option Number)
    : String :=
  let stored := Json.setField body.spread "store" (.bool false)
  let capped := injectField stored "max_completion_tokens" injectCap
  js.stringify
    (.object
      (if streaming then Json.setField capped "stream_options" (includeUsage body) else capped))

def openaiResponsesPremiumReject (body : Json) : Option Reject :=
  if offCardTier body then some ⟨400, "unsupported_option"⟩
  else if
    hasToolOf ["web_search", "file_search", "code_interpreter", "computer_use", "image_generation"]
      (body.get? "tools")
  then some ⟨400, "unsupported_tool"⟩
  else if hasInputAudio (body.get? "input") then some ⟨400, "unsupported_option"⟩
  else none

def openaiResponsesOutputCap (body : Json) : Option Number :=
  positiveNumber (body.get? "max_output_tokens")

def openaiResponsesPrepareBody (body : Json) (injectCap : Option Number) : String :=
  js.stringify
    (.object
      (injectField (Json.setField body.spread "store" (.bool false)) "max_output_tokens"
        injectCap))

/-- A model of a provider that is not off the rate card. -/
def ownsCardModel (provider model : String) : Bool :=
  book.providerOf model = some provider ∧ ¬isOffCardModel model

theorem ownsCardModel_priced {provider model : String}
    (owned : ownsCardModel book provider model)
    : (book.findModel model).isSome := by
  simp only [ownsCardModel, decide_eq_true_eq] at owned
  exact owns_priced_of book owned.1

/-- The Chat Completions half of `makeOpenAIProviders`. -/
def makeOpenAIChatProvider (estimator : HoldEstimator) : Provider book where
  id := "openai"
  upstreamPath := "/v1/chat/completions"
  estimator
  oneHourCache := fun _ => false
  prefer := .bearer
  premiumReject := openaiChatPremiumReject
  outputCap := openaiChatOutputCap
  ownsModel := ownsCardModel book "openai"
  prepareBody := fun _ body streaming injectCap => openaiChatPrepareBody js body streaming injectCap
  extractUsage := extractOpenAIChatUsage js
  makeScanner := openaiChatScanner js
  owns_priced := fun _ owned => ownsCardModel_priced book owned
  outputCap_positive := fun _ _ found => positiveNumber_positive found

/-- The Responses half of `makeOpenAIProviders`. -/
def makeOpenAIResponsesProvider (estimator : HoldEstimator) : Provider book where
  id := "openai"
  upstreamPath := "/v1/responses"
  estimator
  oneHourCache := fun _ => false
  prefer := .bearer
  premiumReject := openaiResponsesPremiumReject
  outputCap := openaiResponsesOutputCap
  ownsModel := ownsCardModel book "openai"
  prepareBody := fun _ body _ injectCap => openaiResponsesPrepareBody js body injectCap
  extractUsage := extractOpenAIResponsesUsage js
  makeScanner := openaiResponsesScanner js
  owns_priced := fun _ owned => ownsCardModel_priced book owned
  outputCap_positive := fun _ _ found => positiveNumber_positive found

def tinfoilPremiumReject (body : Json) : Option Reject :=
  if presentNotOne (body.get? "n") then some ⟨400, "unsupported_option"⟩
  else if presentNotOne (body.get? "best_of") then some ⟨400, "unsupported_option"⟩
  else if Json.present (body.get? "web_search_options")
    ∨ Json.present (body.get? "code_execution_options")
  then some ⟨400, "unsupported_option"⟩
  else none

def tinfoilOutputCap (body : Json) : Option Number :=
  positiveNumber (Json.coalesce (body.get? "max_completion_tokens") (body.get? "max_tokens"))

/-- One unambiguous ceiling: `max_completion_tokens`, without the legacy field. -/
def tinfoilPrepareBody (body : Json) (streaming : Bool) (injectCap : Option Number) : String :=
  let cap :=
    Json.coalesce (injectCap.map Json.number)
      (Json.coalesce (body.get? "max_completion_tokens") (body.get? "max_tokens"))
  let capped :=
    match Json.coalesce cap none with
    | none => body.spread
    | some cap => Json.setField body.spread "max_completion_tokens" cap
  let single := capped.filter (fun field => field.1 ≠ "max_tokens")
  js.stringify
    (.object
      (if streaming then Json.setField single "stream_options" (includeUsage body) else single))

def makeTinfoilProvider (estimator : HoldEstimator) : Provider book where
  id := "tinfoil"
  upstreamPath := "/v1/chat/completions"
  estimator
  oneHourCache := fun _ => false
  prefer := .bearer
  premiumReject := tinfoilPremiumReject
  outputCap := tinfoilOutputCap
  ownsModel := ownsCardModel book "tinfoil"
  prepareBody := fun _ body streaming injectCap => tinfoilPrepareBody js body streaming injectCap
  extractUsage := extractOpenAIChatUsage js
  makeScanner := openaiChatScanner js
  owns_priced := fun _ owned => ownsCardModel_priced book owned
  outputCap_positive := fun _ _ found => positiveNumber_positive found

/-- The estimators of the providers whose key is configured. -/
structure ProvidersConfig where
  anthropic : Option HoldEstimator
  openai : Option HoldEstimator
  tinfoil : Option HoldEstimator

/-- The active providers of `selectProviders`, in registration order. -/
def activeProviders (cfg : ProvidersConfig) : List (Provider book) :=
  (cfg.anthropic.map (makeAnthropicProvider js book)).toList
    ++ (cfg.openai.map (makeOpenAIChatProvider js book)).toList
    ++ (cfg.openai.map (makeOpenAIResponsesProvider js book)).toList
    ++ (cfg.tinfoil.map (makeTinfoilProvider js book)).toList

/-- `selectProviders(cfg).get(path)`: the active providers of an exact path. -/
def providersForPath (cfg : ProvidersConfig) (path : String) : List (Provider book) :=
  (activeProviders js book cfg).filter (fun provider => provider.upstreamPath = path)

end Factories

-----------------------------------------------------------------------------------------
-- Routing by model
-----------------------------------------------------------------------------------------

inductive ResolutionError where
  | unsupportedModel
  | ambiguousModel
  deriving DecidableEq

def ResolutionError.code : ResolutionError → String
  | unsupportedModel => "unsupported_model"
  | ambiguousModel => "ambiguous_model"

structure Resolved (book : PriceBook) where
  provider : Provider book
  model : String
  prefixed : Bool
  owned : provider.ownsModel model

/-- `resolveProvider`: the one owner of the verbatim id, else the provider a prefix names. -/
def resolveProvider {book : PriceBook} (candidates : List (Provider book)) (rawModel : String)
    (knownProviderIds : List String)
    : Except ResolutionError (Resolved book) :=
  match owners : candidates.filter (fun c => c.ownsModel rawModel) with
  | [provider] =>
      .ok ⟨provider, rawModel, false, by
        have member : provider ∈ candidates.filter (fun c => c.ownsModel rawModel) := by
          simp [owners]
        exact (List.mem_filter.mp member).2⟩
  | _ :: _ :: _ => .error .ambiguousModel
  | [] =>
      let hint := rawModel.toList.takeWhile (· ≠ '/')
      let bareModel := String.ofList (rawModel.toList.drop (hint.length + 1))
      if '/' ∉ rawModel.toList ∨ hint = [] ∨ String.ofList hint ∉ knownProviderIds then
        .error .unsupportedModel
      else
        match candidates.find? (fun c => c.id = String.ofList hint) with
        | none => .error .unsupportedModel
        | some hinted =>
            if owned : hinted.ownsModel bareModel then .ok ⟨hinted, bareModel, true, owned⟩
            else .error .unsupportedModel

/-- A resolved provider is one of the candidates. -/
theorem resolveProvider_mem {book : PriceBook} {candidates : List (Provider book)}
    {rawModel : String} {knownProviderIds : List String} {resolved : Resolved book}
    (found : resolveProvider candidates rawModel knownProviderIds = .ok resolved)
    : resolved.provider ∈ candidates := by
  unfold resolveProvider at found
  split at found
  · rename_i provider owners
    obtain rfl := Except.ok.inj found
    have member : provider ∈ candidates.filter (fun c => c.ownsModel rawModel) := by
      simp [owners]
    exact List.mem_of_mem_filter member
  · cases found
  · simp only at found
    split at found
    · cases found
    · split at found
      · cases found
      · rename_i hinted selected
        split at found
        · obtain rfl := Except.ok.inj found
          exact List.mem_of_find?_eq_some selected
        · cases found

end Nullsink.Proxy
