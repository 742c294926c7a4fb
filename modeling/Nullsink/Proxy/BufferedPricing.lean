import Nullsink.Proxy.Buffered
import Nullsink.Proxy.ExactCost
import Nullsink.Proxy.ScannerFeed

/-! Pricing what a buffered extractor returns: the lookups are total on every string model, and
throw on every other value, which refunds a served response in full.
-/

namespace Nullsink.Proxy

open Ecma

section Extractors

variable (js : Runtime)

/-- How a shape's buffered extractor flattens a usage object. -/
def StreamShape.mapUsage : StreamShape → Json → Usage
  | anthropic => flattenAnthropicUsage
  | openaiChat => mapOpenAIChatUsage js
  | openaiResponses => mapOpenAIResponsesUsage js

/-- The buffered extractor of a shape. -/
def StreamShape.extract : StreamShape → String → Option Metered
  | anthropic => extractUsage js
  | openaiChat => extractOpenAIChatUsage js
  | openaiResponses => extractOpenAIResponsesUsage js

theorem StreamShape.extract_eq (shape : StreamShape)
    : shape.extract js = extractMetered js (shape.mapUsage js) := by
  cases shape <;> rfl

/-- Every active provider extracts in the shape it streams in. -/
theorem StreamShape.exists_extract {book : PriceBook} {cfg : ProvidersConfig}
    {provider : Provider book} (active : provider ∈ activeProviders js book cfg)
    : ∃ shape : StreamShape,
        provider.makeScanner = shape.scanner js ∧ provider.extractUsage = shape.extract js := by
  simp only [activeProviders, List.mem_append, Option.mem_toList,
    Option.map_eq_some_iff] at active
  rcases active with ((anthropic | chat) | responses) | tinfoil
  · obtain ⟨estimator, _, rfl⟩ := anthropic
    exact ⟨.anthropic, rfl, rfl⟩
  · obtain ⟨estimator, _, rfl⟩ := chat
    exact ⟨.openaiChat, rfl, rfl⟩
  · obtain ⟨estimator, _, rfl⟩ := responses
    exact ⟨.openaiResponses, rfl, rfl⟩
  · obtain ⟨estimator, _, rfl⟩ := tinfoil
    exact ⟨.openaiChat, rfl, rfl⟩

/-- Whether the `model` of a JSON body is a string. -/
def namesModel (text : String) : Bool :=
  (((js.parse text).bind (·.get? "model")).bind Json.string?).isSome

variable {js}

/-- An extractor returns what it returns from a truthy model and a truthy usage. -/
theorem extractMetered_eq_some_iff {mapUsage : Json → Usage} {text : String} {metered : Metered}
    : extractMetered js mapUsage text = some metered
      ↔ ∃ obj model usage,
          js.parse text = some obj
          ∧ (obj.get? "model").filter Json.truthy = some model
          ∧ (obj.get? "usage").filter Json.truthy = some usage
          ∧ metered = ⟨model, mapUsage usage, .reported⟩ := by
  unfold extractMetered
  constructor
  · intro found
    split at found
    · cases found
    · rename_i obj parsed
      split at found
      · rename_i model usage named reported
        exact ⟨obj, model, usage, parsed, named, reported, (Option.some.inj found).symm⟩
      · cases found
  · rintro ⟨obj, model, usage, parsed, named, reported, rfl⟩
    simp only [parsed, named, reported]

/-- A metered model is the body's. -/
theorem extract_model {shape : StreamShape} {text : String} {metered : Metered}
    (extracted : shape.extract js text = some metered)
    : metered.model.string?.isSome = namesModel js text := by
  rw [shape.extract_eq, extractMetered_eq_some_iff] at extracted
  obtain ⟨obj, model, usage, parsed, named, _, rfl⟩ := extracted
  simp [namesModel, parsed, (Option.filter_eq_some_iff.mp named).1]

end Extractors

-----------------------------------------------------------------------------------------
-- The price of a metered response
-----------------------------------------------------------------------------------------

section Prices

/-- The rate of a response: its own model's if that is priced, and the request's otherwise. -/
def billedRate (book : PriceBook) (model : Json) (requestModel : String) : Option Rate :=
  (model.string?.bind book.findRate).or (book.findRate requestModel)

variable {book : PriceBook} {requestModel : String}

/-- A string model is billed at a rate, under a priced request model. -/
theorem priceUsage_string (fp : Rounding) (name : String) (usage : Usage)
    (gated : (book.findModel requestModel).isSome)
    : ∃ rate,
        billedRate book (.string name) requestModel = some rate
        ∧ priceUsage fp book (.string name) usage requestModel
          = some (costOf fp rate usage) := by
  have named := PriceBook.findModel_named gated
  obtain ⟨own, request⟩ := PriceBook.exists_rate gated
  cases priced : book.findRate name with
  | some rate =>
      exact ⟨rate, by simp [billedRate, Json.string?, priced], by simp [priceUsage, priced]⟩
  | none =>
      exact ⟨own, by simp [billedRate, Json.string?, priced, request],
        by simp [priceUsage, priced, named, request]⟩

end Prices

-----------------------------------------------------------------------------------------
-- The run of a metered response
-----------------------------------------------------------------------------------------

section Runs

variable {book : PriceBook} {js : Runtime} {held : Held book} {env : Environment}

/-- A run that ends as if the upstream had not answered, with its whole hold refunded. -/
structure RefundedAsTransportFailure (held : Held book) (run : Outcome book × List Effect)
    : Prop where
  replied : run.1 = .replied (.error held.provider.id 504 "upstream_timeout")
    ∨ run.1 = .replied (.error held.provider.id 502 "upstream_unreachable")
  settlements : settlements run.2 = [(held.holdId, .ofInt 0)]

/-- The forward of a run whose upstream body is read. -/
theorem forward_text (billing : Billing) {upstream : UpstreamResponse} {text : String}
    (buffered : held.streaming = false) (answered : env.upstream = .response upstream)
    (ok : upstream.ok) (read : upstream.read = .text text)
    : forward js held env billing
      = settleBuffered js held env
          ((billing.count .requests).emit
            (.upstreamFetch held.provider.upstreamPath held.sendBody))
          upstream text := by
  simp [forward, answered, settleResponse, buffered, read, ok]

/-- A body that is metered under no string is refunded as a transport failure, where the ledger
confirms it.
-/
theorem serveHeld_unpriced {upstream : UpstreamResponse} {text : String} {metered : Metered}
    (buffered : held.streaming = false) (answered : env.upstream = .response upstream)
    (ok : upstream.ok) (read : upstream.read = .text text)
    (extracted : held.provider.extractUsage text = some metered)
    (unnamed : metered.model.string? = none)
    : RefundedAsTransportFailure held (serveHeld js held env)
      ↔ env.ledger.settleHold 0 = .resolved true := by
  let sent :=
    ((⟨none, [.openHold held.hash held.holdAmount held.holdId]⟩ : Billing).count .requests).emit
      (.upstreamFetch held.provider.upstreamPath held.sendBody)
  have untouched : sent.Untouched := ⟨rfl, rfl⟩
  have threw : serveHeld js held env
      = ((settleUpstreamFailure js held env sent false).1,
        (settleUpstreamFailure js held env sent false).2.effects) := by
    simp only [serveHeld, forward_text _ buffered answered ok read, settleBuffered, extracted,
      priceUsage_eq_none js.fp _ _ unnamed]
    rfl
  rw [threw]
  rcases billed : billActual held env.ledger sent (.ofInt 0) with ⟨result, after⟩
  have ends := untouched.charge billed
  rw [held.effectiveDebit_zero] at ends
  rcases ends with ⟨confirmed, rfl, settled⟩ | ⟨unconfirmed, rfl, called⟩
  · refine iff_of_true ⟨?_, ?_⟩ confirmed
    · cases timedOut : env.timedOut <;>
        simp [settleUpstreamFailure, billed, transportFailure, timedOut]
    · simpa [settleUpstreamFailure, billed, settlements_transportFailure]
        using settled.settlements
  · refine iff_of_false ?_ unconfirmed
    rintro ⟨replied, _⟩
    simp [settleUpstreamFailure, billed] at replied

variable (js) in
/-- A body that is metered under a string is relayed, or its run fails with the ledger. -/
theorem serveHeld_priced {upstream : UpstreamResponse} {text : String} {metered : Metered}
    (buffered : held.streaming = false) (answered : env.upstream = .response upstream)
    (ok : upstream.ok) (read : upstream.read = .text text)
    (extracted : held.provider.extractUsage text = some metered)
    (named : metered.model.string?.isSome) (constructs : env.responseThrows = false)
    : (serveHeld js held env).1
      = if env.ledger.settleHold 0 = .resolved true then
          .replied (.relayed upstream.status text none)
        else .failed := by
  let sent :=
    ((⟨none, [.openHold held.hash held.holdAmount held.holdId]⟩ : Billing).count .requests).emit
      (.upstreamFetch held.provider.upstreamPath held.sendBody)
  have untouched : sent.Untouched := ⟨rfl, rfl⟩
  obtain ⟨name, model⟩ := Json.string?_isSome.mp named
  obtain ⟨cost, price⟩ :=
    Option.isSome_iff_exists.mp (priceUsage_isSome js.fp name metered.usage held.model_priced)
  have ended : forward js held env ⟨none, [.openHold held.hash held.holdAmount held.holdId]⟩
      = onCharged (billActual held env.ledger sent cost)
          (fun billing =>
            respond env (billing.count .served) (.relayed upstream.status text none)) := by
    simp only [forward_text _ buffered answered ok read, settleBuffered, extracted, model, price]
    rfl
  rcases billActual_untouched held env.ledger cost untouched with
    ⟨confirmed, charged, _⟩ | ⟨unconfirmed, refused, _⟩
  · simp [serveHeld, ended, onCharged, charged, respond, constructs, confirmed]
  · simp [serveHeld, ended, onCharged, refused, unconfirmed]

end Runs

/-- Metered usage has a price, a whole number of micros at the rate of the response or of the
request, exactly where the body's model is a string. Where it is not, and only then, a served
response with reported usage is refunded in full as a transport failure.
-/
theorem buffered_pricing_iff (js : Runtime) (exact : js.fp = .exact) (book : PriceBook)
    (shape : StreamShape) (text : String) (metered : Metered)
    (extracted : shape.extract js text = some metered)
    : (∀ requestModel,
        (book.findModel requestModel).isSome
        → ((∃ (rate : Rate) (n : ℤ),
              billedRate book metered.model requestModel = some rate
              ∧ priceUsage js.fp book metered.model metered.usage requestModel = some (.ofInt n)
              ∧ costOf js.fp rate metered.usage = .ofInt n
              ∧ 0 ≤ n)
            ↔ namesModel js text))
      ∧ ∀ settings candidates req env (held : Held book) upstream,
          reserve js settings candidates req env = .ok held
          → held.provider.extractUsage = shape.extract js
          → held.streaming = false
          → env.upstream = .response upstream
          → upstream.ok
          → upstream.read = .text text
          → env.responseThrows = false
          → (RefundedAsTransportFailure held (handleMetered js settings candidates req env)
            ↔ env.ledger.settleHold 0 = .resolved true ∧ ¬namesModel js text) := by
  have named := extract_model extracted
  refine ⟨?_, ?_⟩
  · intro requestModel gated
    rw [← named]
    constructor
    · rintro ⟨rate, n, _, price, _⟩
      by_contra unnamed
      have none : priceUsage js.fp book metered.model metered.usage requestModel = none :=
        priceUsage_eq_none js.fp _ _ (Option.not_isSome_iff_eq_none.mp unnamed)
      cases none.symm.trans price
    · intro isNamed
      obtain ⟨name, model⟩ := Json.string?_isSome.mp isNamed
      obtain ⟨rate, billed, price⟩ := priceUsage_string js.fp name metered.usage gated
      obtain ⟨n, cost, nonneg⟩ := costOf_whole rate metered.usage
      rw [model]
      exact ⟨rate, n, billed, by rw [price, exact, cost], by rw [exact, cost], nonneg⟩
  · intro settings candidates req env held upstream opened extracts buffered answered ok read
      constructs
    have served : handleMetered js settings candidates req env = serveHeld js held env := by
      simp [handleMetered, opened]
    rw [← extracts] at extracted
    rw [served, ← named]
    cases isNamed : metered.model.string? with
    | none =>
        rw [serveHeld_unpriced buffered answered ok read extracted isNamed]
        simp
    | some name =>
        have ended := serveHeld_priced js buffered answered ok read extracted
          (by rw [isNamed]; rfl) constructs
        refine iff_of_false ?_ (by simp)
        rintro ⟨replied, _⟩
        rw [ended] at replied
        split at replied
        · simp at replied
        · simp at replied

section Example

def exampleUsage : Json :=
  .object [("input_tokens", .number (.ofInt 3)), ("output_tokens", .number (.ofInt 5))]

def exampleUsageRaw : String := "\x7b\"input_tokens\":3,\"output_tokens\":5\x7d"

def exampleNamedRaw : String :=
  "\x7b\"model\":\"claude-haiku-4-5-20251001\",\"usage\":" ++ exampleUsageRaw ++ "\x7d"

def exampleNumberedRaw : String :=
  "\x7b\"model\":5,\"usage\":" ++ exampleUsageRaw ++ "\x7d"

/-- A body whose model is a string, and one whose model is a number. -/
def examplePricedJs : Runtime :=
  { exampleRuntime [(exampleRaw, exampleBody (.ofInt 100)),
      (exampleNamedRaw,
        .object [("model", .string "claude-haiku-4-5-20251001"), ("usage", exampleUsage)]),
      (exampleNumberedRaw,
        .object [("model", .number (.ofInt 5)), ("usage", exampleUsage)])] with
    fp := .exact }

def exampleAnswered (text : String) : Environment :=
  { exampleEnvironment with upstream := .response ⟨200, true, .text text⟩ }

/-- A dated model is billed at its base model's rate, and a number is refunded. -/
theorem buffered_pricing_iff_dated
    : (∃ n : ℤ,
        priceUsage .exact exampleBook (.string "claude-haiku-4-5-20251001")
            (flattenAnthropicUsage exampleUsage) "claude-haiku-4-5"
          = some (.ofInt n)
        ∧ 0 ≤ n)
      ∧ ∃ held,
          RefundedAsTransportFailure held
            (handleMetered examplePricedJs exampleSettings (exampleCandidates examplePricedJs)
              (exampleRequest exampleRaw) (exampleAnswered exampleNumberedRaw)) := by
  constructor
  · obtain ⟨rate, n, _, price, _, nonneg⟩ :=
      ((buffered_pricing_iff examplePricedJs rfl exampleBook .anthropic exampleNamedRaw
        ⟨.string "claude-haiku-4-5-20251001", flattenAnthropicUsage exampleUsage, .reported⟩
        (by rfl)).1 "claude-haiku-4-5" (by decide +kernel)).mpr (by decide +kernel)
    exact ⟨n, price, nonneg⟩
  · have admitted
        : ((reserve examplePricedJs exampleSettings (exampleCandidates examplePricedJs)
            (exampleRequest exampleRaw) (exampleAnswered exampleNumberedRaw)).toOption.map
              (fun held => held.streaming))
          = some false := by
      decide +kernel
    obtain ⟨held, found, buffered⟩ := Option.map_eq_some_iff.mp admitted
    have opened := ok_of_toOption found
    have extracts : held.provider.extractUsage = extractUsage examplePricedJs := by
      rw [List.mem_singleton.mp (reserve_provider opened)]
      rfl
    exact ⟨held,
      ((buffered_pricing_iff examplePricedJs rfl exampleBook .anthropic exampleNumberedRaw
        ⟨.number (.ofInt 5), flattenAnthropicUsage exampleUsage, .reported⟩ (by rfl)).2
        exampleSettings (exampleCandidates examplePricedJs) (exampleRequest exampleRaw)
        (exampleAnswered exampleNumberedRaw) held ⟨200, true, .text exampleNumberedRaw⟩ opened
        extracts buffered rfl rfl rfl rfl).mpr ⟨rfl, by decide +kernel⟩⟩

/-- A truthy model that is no string is extracted, and its price throws. -/
theorem buffered_pricing_fails
    : ¬∀ text metered,
        extractUsage examplePricedJs text = some metered
        → ∃ n : ℤ,
            priceUsage .exact exampleBook metered.model metered.usage "claude-haiku-4-5"
              = some (.ofInt n)
            ∧ 0 ≤ n := by
  intro priced
  obtain ⟨n, price, _⟩ :=
    priced exampleNumberedRaw
      ⟨.number (.ofInt 5), flattenAnthropicUsage exampleUsage, .reported⟩ (by rfl)
  cases price

end Example

end Nullsink.Proxy
