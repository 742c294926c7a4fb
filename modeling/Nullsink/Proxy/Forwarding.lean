import Mathlib.Data.List.Find
import Nullsink.Lib.Fields
import Nullsink.Proxy.ModelMatching

/-! What a gated request forwards: every provider's `prepareBody` writes the cap the hold is sized
from, the resolved model and the fields billing needs, and leaves the client's other fields alone.
-/

namespace Nullsink.Proxy

open Ecma

-----------------------------------------------------------------------------------------
-- What is read of a body
-----------------------------------------------------------------------------------------

/-- The fields the proxy may write. -/
def rewrittenFields : List String :=
  ["model", "store", "stream_options", "max_tokens", "max_completion_tokens", "max_output_tokens"]

/-- A body with the client's other fields. -/
def KeepsFields (body out : Json) : Prop :=
  ∀ key, key ∉ rewrittenFields → out.get? key = body.get? key

theorem positiveNumber_eq_some {value : Option Json} {cap : Number}
    : positiveNumber value = some cap
      ↔ value = some (.number cap) ∧ (Number.ofInt 0).lt cap := by
  constructor
  · intro found
    obtain ⟨read, positive⟩ := Option.filter_eq_some_iff.mp found
    obtain ⟨json, rfl, number⟩ := Option.bind_eq_some_iff.mp read
    cases json with
    | number m =>
        obtain rfl := Option.some.inj number
        exact ⟨rfl, positive⟩
    | _ => cases number
  · rintro ⟨rfl, positive⟩
    exact Option.filter_eq_some_iff.mpr ⟨rfl, positive⟩

section Providers

variable {js : Runtime} {book : PriceBook} {provider : Provider book}

/-- The premium gates read no field that is rewritten. -/
theorem MadeProvider.premiumReject_kept (made : MadeProvider js book provider) {body out : Json}
    (keeps : KeepsFields body out)
    : provider.premiumReject out = provider.premiumReject body := by
  have kept (key : String) (other : key ∉ rewrittenFields) := keeps key other
  have tier : offCardTier out = offCardTier body := by
    unfold offCardTier
    rw [kept "service_tier" (by decide)]
  have modalities : nonTextModalities out = nonTextModalities body := by
    unfold nonTextModalities
    rw [kept "modalities" (by decide)]
  cases made with
  | anthropic estimator =>
      simp only [makeAnthropicProvider, anthropicPremiumReject,
        kept "inference_geo" (by decide), kept "tools" (by decide)]
  | openaiChat estimator =>
      have rules : ∀ rule ∈ openaiChatRejects, rule.1 out = rule.1 body := by
        simp only [openaiChatRejects, List.forall_mem_cons, tier, modalities,
          kept "web_search_options" (by decide), kept "n" (by decide), kept "audio" (by decide),
          kept "messages" (by decide)]
        simp
      exact congrArg (Option.map _) (List.find?_congr rules)
  | openaiResponses estimator =>
      simp only [makeOpenAIResponsesProvider, openaiResponsesPremiumReject, tier,
        kept "tools" (by decide), kept "input" (by decide)]
  | tinfoil estimator =>
      simp only [makeTinfoilProvider, tinfoilPremiumReject, kept "n" (by decide),
        kept "best_of" (by decide), kept "web_search_options" (by decide),
        kept "code_execution_options" (by decide)]

-----------------------------------------------------------------------------------------
-- What is written
-----------------------------------------------------------------------------------------

/-- A body as it may be sent for one that was gated under a cap. -/
structure Prepared (provider : Provider book) (streaming : Bool) (maxTokens : Number)
    (body out : Json)
    : Prop where
  capped : provider.outputCap out = some maxTokens
  model : out.get? "model" = body.get? "model"
  keeps : KeepsFields body out
  usageIncluded
    : provider.upstreamPath = "/v1/chat/completions" → streaming = true
      → (out.get? "stream_options").bind (·.get? "include_usage") = some (.bool true)
  unstored : provider.id = "openai" → out.get? "store" = some (.bool false)
  oneCap : provider.id = "tinfoil" → out.get? "max_tokens" = none

/-- A text that is written from a plain object, or the client's own. -/
def WrittenFrom (js : Runtime) (raw : String) (body : Json) (text : String) (out : Json) : Prop :=
  (text = js.stringify out ∧ out.Plain ∧ out.isObject = true) ∨ (text = raw ∧ out = body)

/-- The cap that is injected where the body has none of its own. -/
def injectedCap (provider : Provider book) (body : Json) (maxTokens : Number) : Option Number :=
  if (provider.outputCap body).isNone then some maxTokens else none

/-- A body gated under a cap either has it or gets it injected, and the cap is finite where the
default and the body's numbers are.
-/
structure CappedAt (provider : Provider book) (body : Json) (maxTokens : Number) : Prop where
  positive : (Number.ofInt 0).lt maxTokens
  plain : (Json.number maxTokens).Plain
  own : ∀ cap, provider.outputCap body = some cap → cap = maxTokens

theorem includeUsage_get? (body : Json)
    : (includeUsage body).get? "include_usage" = some (.bool true) := by
  simp [includeUsage, Json.get?_setField]

theorem includeUsage_plain {body : Json} (plain : body.Plain) : (includeUsage body).Plain := by
  refine Json.Plain.setField ?_ (.bool true)
  cases found : body.get? "stream_options" with
  | none => exact .object [] List.nodup_nil (by simp)
  | some options => exact (plain.get? found).spread

/-- The assignment of an injected cap to a field. -/
theorem injectField_plain {fields : List (String × Json)} {capField : String}
    {injectCap : Option Number} (plain : (Json.object fields).Plain)
    (finite : ∀ cap ∈ injectCap, (Json.number cap).Plain)
    : (Json.object (injectField fields capField injectCap)).Plain := by
  cases injectCap with
  | none => exact plain
  | some cap => exact plain.setField (finite cap rfl)

theorem injectField_get? {fields : List (String × Json)} {capField name : String}
    {injectCap : Option Number} (other : name ≠ capField)
    : (Json.object (injectField fields capField injectCap)).get? name
      = (Json.object fields).get? name := by
  cases injectCap with
  | none => rfl
  | some cap => simp [injectField, Json.get?_setField, other]

/-- The cap field of a body that a cap may be injected in. -/
theorem injectField_get?_cap (fields : List (String × Json)) (capField : String)
    (injectCap : Option Number)
    : (Json.object (injectField fields capField injectCap)).get? capField
      = (injectCap.map Json.number).or ((Json.object fields).get? capField) := by
  cases injectCap with
  | none => rfl
  | some cap => simp [injectField, Json.get?_setField]

/-- `stream_options` with usage included where the request streams. -/
def withUsage (streaming : Bool) (body : Json) (fields : List (String × Json))
    : List (String × Json) :=
  if streaming then Json.setField fields "stream_options" (includeUsage body) else fields

theorem withUsage_plain {streaming : Bool} {body : Json} {fields : List (String × Json)}
    (plain : (Json.object fields).Plain) (bodyPlain : body.Plain)
    : (Json.object (withUsage streaming body fields)).Plain := by
  unfold withUsage
  split
  · exact plain.setField (includeUsage_plain bodyPlain)
  · exact plain

theorem withUsage_get? {streaming : Bool} {body : Json} {fields : List (String × Json)}
    {name : String} (other : name ≠ "stream_options")
    : (Json.object (withUsage streaming body fields)).get? name
      = (Json.object fields).get? name := by
  unfold withUsage
  split
  · simp [Json.get?_setField, other]
  · rfl

theorem withUsage_included (body : Json) (fields : List (String × Json))
    : ((Json.object (withUsage true body fields)).get? "stream_options").bind
        (·.get? "include_usage")
      = some (.bool true) := by
  simp [withUsage, Json.get?_setField, includeUsage_get?]

section Prepare

variable {fields : List (String × Json)} {raw : String} {streaming : Bool} {maxTokens : Number}
  (estimator : HoldEstimator) (plain : (Json.object fields).Plain)

theorem injectedCap_finite {body : Json} (capped : CappedAt provider body maxTokens)
    : ∀ cap ∈ injectedCap provider body maxTokens, (Json.number cap).Plain := by
  intro cap injected
  obtain ⟨_, same⟩ := Option.ite_none_right_eq_some.mp injected
  rw [← Option.some.inj same]
  exact capped.plain

/-- Either the body has the cap of its own and none is injected, or it is the one injected. -/
theorem CappedAt.injected {body : Json} (capped : CappedAt provider body maxTokens)
    {injected : Option Number} (same : injectedCap provider body maxTokens = injected)
    : (injected = none ∧ provider.outputCap body = some maxTokens)
      ∨ injected = some maxTokens := by
  cases own : provider.outputCap body with
  | some cap =>
      rw [capped.own cap own]
      exact Or.inl ⟨by simpa [injectedCap, own] using same.symm, rfl⟩
  | none => exact Or.inr (by simpa [injectedCap, own] using same.symm)

include plain in
theorem anthropic_prepares
    (capped : CappedAt (makeAnthropicProvider js book estimator) (.object fields) maxTokens)
    : ∃ out,
        WrittenFrom js raw (.object fields)
          ((makeAnthropicProvider js book estimator).prepareBody raw (.object fields) streaming
            (injectedCap (makeAnthropicProvider js book estimator) (.object fields) maxTokens))
          out
        ∧ Prepared (makeAnthropicProvider js book estimator) streaming maxTokens
            (.object fields) out := by
  have elsewhere : (makeAnthropicProvider js book estimator).upstreamPath
      ≠ "/v1/chat/completions" := by
    simp [makeAnthropicProvider]
  have notOpenai : (makeAnthropicProvider js book estimator).id ≠ "openai" := by
    simp [makeAnthropicProvider]
  have notTinfoil : (makeAnthropicProvider js book estimator).id ≠ "tinfoil" := by
    simp [makeAnthropicProvider]
  generalize same
    : injectedCap (makeAnthropicProvider js book estimator) (.object fields) maxTokens = injected
  rcases capped.injected same with ⟨rfl, own⟩ | rfl
  · refine ⟨.object fields, Or.inr ⟨rfl, rfl⟩, ?_⟩
    exact ⟨own, rfl, fun _ _ => rfl, fun here => absurd here elsewhere,
      fun here => absurd here notOpenai, fun here => absurd here notTinfoil⟩
  · refine ⟨.object (Json.setField fields "max_tokens" (.number maxTokens)),
      Or.inl ⟨rfl, plain.setField capped.plain, rfl⟩, ?_⟩
    refine ⟨?_, ?_, ?_, fun here => absurd here elsewhere,
      fun here => absurd here notOpenai, fun here => absurd here notTinfoil⟩
    · exact positiveNumber_eq_some.mpr ⟨by simp [Json.get?_setField], capped.positive⟩
    · simp [Json.get?_setField]
    · intro key other
      have untouched : key ≠ "max_tokens" := by
        rintro rfl
        simp [rewrittenFields] at other
      simp [Json.get?_setField, untouched]

include plain in
theorem openaiChat_prepares
    (capped : CappedAt (makeOpenAIChatProvider js book estimator) (.object fields) maxTokens)
    : ∃ out,
        WrittenFrom js raw (.object fields)
          ((makeOpenAIChatProvider js book estimator).prepareBody raw (.object fields) streaming
            (injectedCap (makeOpenAIChatProvider js book estimator) (.object fields) maxTokens))
          out
        ∧ Prepared (makeOpenAIChatProvider js book estimator) streaming maxTokens
            (.object fields) out := by
  have notTinfoil : (makeOpenAIChatProvider js book estimator).id ≠ "tinfoil" := by
    simp [makeOpenAIChatProvider]
  generalize same
    : injectedCap (makeOpenAIChatProvider js book estimator) (.object fields) maxTokens = injected
  have finite := injectedCap_finite capped
  rw [same] at finite
  let stored := Json.setField fields "store" (.bool false)
  let sent :=
    withUsage streaming (.object fields) (injectField stored "max_completion_tokens" injected)
  have kept (name : String) (unstreamed : name ≠ "stream_options")
      (uncapped : name ≠ "max_completion_tokens") (unstored : name ≠ "store")
      : (Json.object sent).get? name = (Json.object fields).get? name := by
    rw [withUsage_get? unstreamed, injectField_get? uncapped]
    simp [stored, Json.get?_setField, unstored]
  refine ⟨.object sent, Or.inl ⟨rfl, ?_, rfl⟩, ?_⟩
  · exact withUsage_plain (injectField_plain (plain.setField (.bool false)) finite) plain
  · refine ⟨?_, kept "model" (by decide) (by decide) (by decide), ?_, ?_, ?_,
      fun here => absurd here notTinfoil⟩
    · have current : (Json.object sent).get? "max_completion_tokens"
          = (injected.map Json.number).or
              ((Json.object fields).get? "max_completion_tokens") := by
        rw [withUsage_get? (by decide), injectField_get?_cap, Json.get?_setField,
          if_neg (by decide)]
      have legacy := kept "max_tokens" (by decide) (by decide) (by decide)
      simp only [makeOpenAIChatProvider, openaiChatOutputCap, current, legacy]
      rcases capped.injected same with ⟨rfl, own⟩ | rfl
      · exact own
      · exact positiveNumber_eq_some.mpr ⟨rfl, capped.positive⟩
    · intro key other
      simp only [rewrittenFields, List.mem_cons, not_or] at other
      exact kept key other.2.2.1 other.2.2.2.2.1 other.2.1
    · rintro _ rfl
      exact withUsage_included _ _
    · intro _
      rw [withUsage_get? (by decide), injectField_get? (by decide)]
      simp [stored, Json.get?_setField]

include plain in
theorem openaiResponses_prepares
    (capped : CappedAt (makeOpenAIResponsesProvider js book estimator) (.object fields) maxTokens)
    : ∃ out,
        WrittenFrom js raw (.object fields)
          ((makeOpenAIResponsesProvider js book estimator).prepareBody raw (.object fields)
            streaming
            (injectedCap (makeOpenAIResponsesProvider js book estimator) (.object fields)
              maxTokens))
          out
        ∧ Prepared (makeOpenAIResponsesProvider js book estimator) streaming maxTokens
            (.object fields) out := by
  have elsewhere : (makeOpenAIResponsesProvider js book estimator).upstreamPath
      ≠ "/v1/chat/completions" := by
    simp [makeOpenAIResponsesProvider]
  have notTinfoil : (makeOpenAIResponsesProvider js book estimator).id ≠ "tinfoil" := by
    simp [makeOpenAIResponsesProvider]
  generalize same
    : injectedCap (makeOpenAIResponsesProvider js book estimator) (.object fields) maxTokens
      = injected
  have finite := injectedCap_finite capped
  rw [same] at finite
  let stored := Json.setField fields "store" (.bool false)
  let sent := injectField stored "max_output_tokens" injected
  have kept (name : String) (uncapped : name ≠ "max_output_tokens") (unstored : name ≠ "store")
      : (Json.object sent).get? name = (Json.object fields).get? name := by
    rw [injectField_get? uncapped]
    simp [stored, Json.get?_setField, unstored]
  refine ⟨.object sent, Or.inl ⟨rfl, ?_, rfl⟩, ?_⟩
  · exact injectField_plain (plain.setField (.bool false)) finite
  · refine ⟨?_, kept "model" (by decide) (by decide), ?_, fun here => absurd here elsewhere, ?_,
      fun here => absurd here notTinfoil⟩
    · have current : (Json.object sent).get? "max_output_tokens"
          = (injected.map Json.number).or ((Json.object fields).get? "max_output_tokens") := by
        rw [injectField_get?_cap, Json.get?_setField, if_neg (by decide)]
      simp only [makeOpenAIResponsesProvider, openaiResponsesOutputCap, current]
      rcases capped.injected same with ⟨rfl, own⟩ | rfl
      · exact own
      · exact positiveNumber_eq_some.mpr ⟨rfl, capped.positive⟩
    · intro key other
      simp only [rewrittenFields, List.mem_cons, not_or] at other
      exact kept key other.2.2.2.2.2.1 other.2.1
    · intro _
      rw [injectField_get? (by decide)]
      simp [stored, Json.get?_setField]

include plain in
theorem tinfoil_prepares
    (capped : CappedAt (makeTinfoilProvider js book estimator) (.object fields) maxTokens)
    : ∃ out,
        WrittenFrom js raw (.object fields)
          ((makeTinfoilProvider js book estimator).prepareBody raw (.object fields) streaming
            (injectedCap (makeTinfoilProvider js book estimator) (.object fields) maxTokens))
          out
        ∧ Prepared (makeTinfoilProvider js book estimator) streaming maxTokens
            (.object fields) out := by
  have notOpenai : (makeTinfoilProvider js book estimator).id ≠ "openai" := by
    simp [makeTinfoilProvider]
  generalize same
    : injectedCap (makeTinfoilProvider js book estimator) (.object fields) maxTokens = injected
  -- Whichever of the three the ceiling comes from, it is the cap of the hold.
  have ceiling : Json.coalesce
        (Json.coalesce (injected.map Json.number)
          (Json.coalesce ((Json.object fields).get? "max_completion_tokens")
            ((Json.object fields).get? "max_tokens")))
        none
      = some (.number maxTokens) := by
    rcases capped.injected same with ⟨rfl, own⟩ | rfl
    · rw [Option.map_none, Json.coalesce.eq_1, (positiveNumber_eq_some.mp own).1]
      rfl
    · rfl
  let single :=
    (Json.setField fields "max_completion_tokens" (.number maxTokens)).filter
      (fun field => field.1 ≠ "max_tokens")
  let sent := withUsage streaming (.object fields) single
  have kept (name : String) (unstreamed : name ≠ "stream_options")
      (uncapped : name ≠ "max_completion_tokens") (legacy : name ≠ "max_tokens")
      : (Json.object sent).get? name = (Json.object fields).get? name := by
    rw [withUsage_get? unstreamed, Json.get?_delete, if_neg legacy, Json.get?_setField,
      if_neg uncapped]
  have written : tinfoilPrepareBody js (.object fields) streaming injected
      = js.stringify (.object sent) := by
    simp only [tinfoilPrepareBody, ceiling]
    rfl
  refine ⟨.object sent, Or.inl ⟨written, ?_, rfl⟩, ?_⟩
  · exact withUsage_plain ((plain.setField capped.plain).delete _) plain
  · have current : (Json.object sent).get? "max_completion_tokens"
        = some (.number maxTokens) := by
      rw [withUsage_get? (by decide), Json.get?_delete, if_neg (by decide), Json.get?_setField,
        if_pos rfl]
    refine ⟨?_, kept "model" (by decide) (by decide) (by decide), ?_, ?_,
      fun here => absurd here notOpenai, ?_⟩
    · simp only [makeTinfoilProvider, tinfoilOutputCap, current]
      exact positiveNumber_eq_some.mpr ⟨rfl, capped.positive⟩
    · intro key other
      simp only [rewrittenFields, List.mem_cons, not_or] at other
      exact kept key other.2.2.1 other.2.2.2.2.1 other.2.2.2.1
    · rintro _ rfl
      exact withUsage_included _ _
    · intro _
      rw [withUsage_get? (by decide), Json.get?_delete, if_pos rfl]

end Prepare

/-- What every provider prepares for a body that was gated under a cap. -/
theorem MadeProvider.prepares (made : MadeProvider js book provider) {body : Json}
    {streaming : Bool} {maxTokens : Number} (raw : String) (plain : body.Plain)
    (object : body.isObject = true) (capped : CappedAt provider body maxTokens)
    : ∃ out,
        WrittenFrom js raw body
          (provider.prepareBody raw body streaming (injectedCap provider body maxTokens)) out
        ∧ Prepared provider streaming maxTokens body out := by
  cases body with
  | object fields =>
      cases made with
      | anthropic estimator => exact anthropic_prepares estimator plain capped
      | openaiChat estimator => exact openaiChat_prepares estimator plain capped
      | openaiResponses estimator => exact openaiResponses_prepares estimator plain capped
      | tinfoil estimator => exact tinfoil_prepares estimator plain capped
  | _ => cases object

end Providers

-----------------------------------------------------------------------------------------
-- What the gates let through
-----------------------------------------------------------------------------------------

theorem coalesce_mem {value fallback : Option Json} {found : Json}
    (read : Json.coalesce value fallback = some found)
    : value = some found ∨ fallback = some found := by
  unfold Json.coalesce at read
  split at read
  · exact Or.inr read
  · exact Or.inr read
  · exact Or.inl read

/-- A cap a provider reads is a number of the body. -/
theorem MadeProvider.outputCap_plain {js : Runtime} {book : PriceBook} {provider : Provider book}
    (made : MadeProvider js book provider) {body : Json} (plain : body.Plain) {cap : Number}
    (own : provider.outputCap body = some cap)
    : (Json.number cap).Plain := by
  have either (read : Json.coalesce (body.get? "max_completion_tokens") (body.get? "max_tokens")
        = some (.number cap))
      : (Json.number cap).Plain := by
    rcases coalesce_mem read with current | legacy
    · exact plain.get? current
    · exact plain.get? legacy
  cases made with
  | anthropic estimator => exact plain.get? (positiveNumber_eq_some.mp own).1
  | openaiChat estimator => exact either (positiveNumber_eq_some.mp own).1
  | openaiResponses estimator => exact plain.get? (positiveNumber_eq_some.mp own).1
  | tinfoil estimator => exact either (positiveNumber_eq_some.mp own).1

/-- A model that no prefix was stripped from is the one that was asked for. -/
theorem resolveProvider_unprefixed {book : PriceBook} {candidates : List (Provider book)}
    {rawModel : String} {knownProviderIds : List String} {resolved : Resolved book}
    (found : resolveProvider candidates rawModel knownProviderIds = .ok resolved)
    (unprefixed : resolved.prefixed = false)
    : resolved.model = rawModel := by
  unfold resolveProvider at found
  split at found
  · obtain rfl := Except.ok.inj found
    rfl
  · cases found
  · simp only at found
    split at found
    · cases found
    · split at found
      · cases found
      · split at found
        · obtain rfl := Except.ok.inj found
          cases unprefixed
        · cases found

section Gate

variable {js : Runtime} {book : PriceBook} {settings : HandlerSettings} {raw rawModel : String}
  {parsed : Json} {resolved : Resolved book} {admission : Admission book}
  (admitted : AdmittedFrom js settings raw parsed rawModel resolved admission)

include admitted

/-- The gated body is a plain object where the parsed one is. -/
theorem AdmittedFrom.body_plain (plain : parsed.Plain) (object : parsed.isObject = true)
    : admission.body.Plain ∧ admission.body.isObject = true := by
  rw [admitted.body]
  unfold gatedBody
  split
  · exact ⟨plain.spread.setField (.string _), rfl⟩
  · exact ⟨plain, object⟩

theorem AdmittedFrom.body_model {candidates : List (Provider book)}
    (selected : resolveProvider candidates rawModel settings.knownProviderIds = .ok resolved)
    : admission.body.get? "model" = some (.string admission.model) := by
  rw [admitted.body, admitted.model]
  unfold gatedBody
  split
  · simp [Json.get?_setField]
  · rename_i unprefixed
    rw [admitted.asked, resolveProvider_unprefixed selected (by simpa using unprefixed)]

theorem AdmittedFrom.body_keeps (object : parsed.isObject = true)
    : KeepsFields parsed admission.body := by
  rw [admitted.body]
  intro key other
  unfold gatedBody
  split
  · cases parsed with
    | object fields =>
        have named : key ≠ "model" := by
          rintro rfl
          simp [rewrittenFields] at other
        simp [Json.get?_setField, Json.spread, named]
    | _ => cases object
  · rfl

/-- Whichever cap admits a request, it is positive, finite and the body's own if it has one. -/
theorem AdmittedFrom.cappedAt (made : MadeProvider js book admission.provider)
    (plain : parsed.Plain) (object : parsed.isObject = true)
    (default : ∃ q, settings.defaultMaxOutputTokens = .finite q)
    : CappedAt admission.provider admission.body admission.maxTokens where
  positive := admission.positive
  plain := by
    rcases Option.or_eq_some_iff.mp admitted.maxTokens with own | ⟨_, injected⟩
    · exact made.outputCap_plain (admitted.body_plain plain object).1 own
    · obtain ⟨q, finite⟩ := default
      have same := (Option.filter_eq_some_iff.mp injected).1
      rw [finite] at same
      rw [← Option.some.inj same]
      exact .number q
  own := by
    intro cap own
    have capped := admitted.maxTokens
    rw [maxTokensOf, own] at capped
    exact Option.some.inj capped

end Gate

-----------------------------------------------------------------------------------------
-- What was gated is what is forwarded
-----------------------------------------------------------------------------------------

/-- What the upstream reads of an admitted request whose client sent `parsed`. -/
structure Forwarded {book : PriceBook} (admission : Admission book) (parsed out : Json)
    : Prop where
  object : out.isObject = true
  capped : admission.provider.outputCap out = some admission.maxTokens
  model : out.get? "model" = some (.string admission.model)
  unpremium : admission.provider.premiumReject out = none
  usageIncluded
    : admission.provider.upstreamPath = "/v1/chat/completions"
      → parsed.get? "stream" = some (.bool true)
      → (out.get? "stream_options").bind (·.get? "include_usage") = some (.bool true)
  unstored : admission.provider.id = "openai" → out.get? "store" = some (.bool false)
  oneCap : admission.provider.id = "tinfoil" → out.get? "max_tokens" = none
  keeps : KeepsFields parsed out

/-- What was gated is what is forwarded, for every configuration of the providers, every path and
every plain object a client sends.
-/
theorem forwarded_as_gated (js : Runtime) (book : PriceBook) (cfg : ProvidersConfig)
    (path : String) (settings : HandlerSettings) (req : MeteredRequest) (ledger : LedgerAnswers)
    (admission : Admission book) (parsed : Json)
    (default : ∃ q, settings.defaultMaxOutputTokens = .finite q)
    (read : js.parse req.raw = some parsed) (object : parsed.isObject = true)
    (plain : parsed.Plain)
    (passed : gate js settings (providersForPath js book cfg path) req ledger = .ok admission)
    (identity : js.Restores admission.sendBody)
    : ∃ out,
        js.parse admission.sendBody = some out ∧ Forwarded admission parsed out := by
  have made := madeProvider_of_active (List.mem_of_mem_filter (gate_provider passed))
  obtain ⟨parsed', rawModel, resolved, selected, admitted⟩ := gate_admits passed
  obtain rfl : parsed = parsed' := Option.some.inj (read.symm.trans admitted.read)
  obtain ⟨bodyPlain, bodyObject⟩ := admitted.body_plain plain object
  obtain ⟨out, written, prepared⟩ :=
    made.prepares admission.effectiveRaw bodyPlain bodyObject
      (admitted.cappedAt made plain object default)
  have sent : admission.sendBody
      = admission.provider.prepareBody admission.effectiveRaw admission.body admission.streaming
          (injectedCap admission.provider admission.body admission.maxTokens) := by
    rw [Admission.sendBody, admitted.clientCap, injectedCap]
  rw [← sent] at written
  have keeps : KeepsFields parsed out := fun key other =>
    (prepared.keeps key other).trans (admitted.body_keeps object key other)
  have streamed (streams : parsed.get? "stream" = some (.bool true))
      : admission.streaming = true := by
    rw [admitted.streaming, streams]
    rfl
  have restored : js.parse admission.sendBody = some out ∧ out.isObject = true := by
    rcases written with ⟨text, outPlain, outObject⟩ | ⟨text, rfl⟩
    · exact ⟨identity out outPlain text.symm, outObject⟩
    · refine ⟨?_, bodyObject⟩
      cases stripped : resolved.prefixed with
      | true =>
          refine identity admission.body bodyPlain ?_
          rw [text, admitted.effectiveRaw, stripped, if_pos rfl]
      | false =>
          rw [text, admitted.effectiveRaw, stripped, if_neg (by simp), read, admitted.body,
            gatedBody, stripped, if_neg (by simp)]
  refine ⟨out, restored.1, restored.2, prepared.capped, ?_, ?_, ?_, prepared.unstored,
    prepared.oneCap, keeps⟩
  · exact prepared.model.trans (admitted.body_model selected)
  · exact (made.premiumReject_kept prepared.keeps).trans admitted.unpremium
  · exact fun chat streams => prepared.usageIncluded chat (streamed streams)

section Example

def exampleForwardBook : PriceBook where
  prices := [("gpt-4o", ⟨"openai", exampleRate⟩)]
  ids_nodup := by simp
  ids_named := by simp

def exampleForwardSettings : HandlerSettings where
  maxMessagesBodyBytes := .ofInt 33554432
  defaultMaxOutputTokens := .ofInt 4096
  knownProviderIds := ["anthropic", "openai", "tinfoil"]
  hashToken := fun _ => "9f86d081884c7d659a2feaa0c55ad015a3bf4f1b2b0b822cd15d6c15b0f00a08"

def exampleForwardConfig : ProvidersConfig where
  anthropic := none
  openai := some .byteBoundHold
  tinfoil := none

/-- A streamed request under a prefix, whose cap is a text and counts as missing. -/
def exampleForwardBody (model : String) : Json :=
  .object
    [("model", .string model), ("stream", .bool true), ("max_completion_tokens", .string "90")]

def exampleForwardRaw (model : String) : String :=
  "\x7b\"model\":\"" ++ model ++ "\",\"stream\":true,\"max_completion_tokens\":\"90\"\x7d"

def exampleForwardSent : Json :=
  .object
    [("model", .string "gpt-4o"), ("stream", .bool true),
      ("max_completion_tokens", .number (.ofInt 4096)), ("store", .bool false),
      ("stream_options", .object [("include_usage", .bool true)])]

def exampleForwardSentRaw : String :=
  "\x7b\"model\":\"gpt-4o\",\"stream\":true,\"max_completion_tokens\":4096,\"store\":false,"
    ++ "\"stream_options\":\x7b\"include_usage\":true\x7d\x7d"

open Classical in
/-- A runtime on the values of the example. -/
noncomputable def exampleForwardJs : Runtime where
  fp := .binary64
  parse := fun text =>
    if text = exampleForwardRaw "openai/gpt-4o" then some (exampleForwardBody "openai/gpt-4o")
    else if text = exampleForwardSentRaw then some exampleForwardSent
    else none
  stringify := fun value =>
    if value = exampleForwardSent then exampleForwardSentRaw
    else if value = exampleForwardBody "gpt-4o" then exampleForwardRaw "gpt-4o"
    else ""

/-- The prefix is stripped, the mistyped cap gives way to the default, and usage is asked for. -/
theorem forwarded_as_gated_prefixed
    : ∃ admission out,
        gate exampleForwardJs exampleForwardSettings
            (providersForPath exampleForwardJs exampleForwardBook exampleForwardConfig
              "/v1/chat/completions")
            (exampleRequest (exampleForwardRaw "openai/gpt-4o"))
            (exampleLedger (.resolved true))
          = .ok admission
        ∧ exampleForwardJs.parse exampleForwardSentRaw = some out
        ∧ Forwarded admission (exampleForwardBody "openai/gpt-4o") out := by
  have sent : ((gate exampleForwardJs exampleForwardSettings
          (providersForPath exampleForwardJs exampleForwardBook exampleForwardConfig
            "/v1/chat/completions")
          (exampleRequest (exampleForwardRaw "openai/gpt-4o"))
          (exampleLedger (.resolved true))).toOption.map Admission.sendBody)
      = some (exampleForwardJs.stringify exampleForwardSent) := by
    rfl
  have written : exampleForwardJs.stringify exampleForwardSent = exampleForwardSentRaw :=
    if_pos rfl
  have apart : exampleForwardSentRaw ≠ exampleForwardRaw "openai/gpt-4o"
      ∧ exampleForwardRaw "gpt-4o" ≠ exampleForwardSentRaw ∧ "" ≠ exampleForwardSentRaw := by
    decide +kernel
  obtain ⟨admission, found, body⟩ := Option.map_eq_some_iff.mp sent
  rw [written] at body
  have passed := ok_of_toOption found
  have restores : exampleForwardJs.Restores admission.sendBody := by
    intro value _ text
    rw [body] at text ⊢
    have same : value = exampleForwardSent := by
      by_contra other
      simp only [exampleForwardJs, if_neg other] at text
      split at text
      · exact apart.2.1 text
      · exact apart.2.2 text
    simp only [exampleForwardJs, if_neg apart.1, if_true, same]
  have plain : (exampleForwardBody "openai/gpt-4o").Plain := by
    refine .object _ (by simp) ?_
    simp only [List.forall_mem_cons, List.not_mem_nil, false_implies, implies_true, and_true]
    exact ⟨.string _, .bool _, .string _⟩
  have received : exampleForwardJs.parse (exampleForwardRaw "openai/gpt-4o")
      = some (exampleForwardBody "openai/gpt-4o") := by
    simp only [exampleForwardJs, if_true]
  obtain ⟨out, read, forwarded⟩ :=
    forwarded_as_gated exampleForwardJs exampleForwardBook exampleForwardConfig
      "/v1/chat/completions" exampleForwardSettings
      (exampleRequest (exampleForwardRaw "openai/gpt-4o")) (exampleLedger (.resolved true))
      admission (exampleForwardBody "openai/gpt-4o") ⟨4096, rfl⟩ received rfl plain passed
      restores
  exact ⟨admission, out, passed, by rw [← body]; exact read, forwarded⟩

end Example

end Nullsink.Proxy
