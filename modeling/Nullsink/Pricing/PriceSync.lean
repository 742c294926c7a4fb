import Nullsink.Lib.Coercion
import Nullsink.Proxy.Pricing

/-! The price sync of `cli/sync-prices.ts` and the price table of `cost/pricing.ts`: which models of
a catalogue get into the price file, and what the proxy reads from that file when it boots.
-/

namespace Nullsink.Pricing

open Ecma Proxy

-----------------------------------------------------------------------------------------
-- Entries
-----------------------------------------------------------------------------------------

/-- The rates of an entry, in the order of its fields. -/
inductive RateField where
  | input
  | output
  | cacheRead
  | cacheWrite
  | cacheWrite1h
  deriving DecidableEq

namespace RateField

def key : RateField → String
  | input => "input"
  | output => "output"
  | cacheRead => "cache_read"
  | cacheWrite => "cache_write"
  | cacheWrite1h => "cache_write_1h"

end RateField

/-- An entry of the price file: USD per million tokens, and the provider's tag. -/
structure RawEntry where
  provider : String
  rates : RateField → Number

/-- A price file: the entries by model id, in the order of the file. -/
abbrev PriceFile := List (String × RawEntry)

-----------------------------------------------------------------------------------------
-- The catalogue
-----------------------------------------------------------------------------------------

/-- A provider to sync, with the ids that its API has retired. -/
structure SyncedProvider where
  name : String
  retired : List String
  cacheReadDefaultsToInput : Bool

/-- `ANTHROPIC_RETIRED`. -/
def anthropicRetired : List String :=
  ["claude-3-5-haiku-20241022", "claude-3-5-haiku-latest", "claude-3-5-sonnet-20240620",
    "claude-3-5-sonnet-20241022", "claude-3-7-sonnet-20250219", "claude-3-haiku-20240307",
    "claude-3-opus-20240229", "claude-3-sonnet-20240229", "claude-opus-4-0",
    "claude-opus-4-20250514", "claude-sonnet-4-0", "claude-sonnet-4-20250514"]

/-- `OPENAI_RETIRED`. -/
def openaiRetired : List String := ["gpt-5.3-codex-spark", "o1-mini", "o1-preview", "o3-pro"]

/-- `PROVIDERS`. -/
def syncedProviders : List SyncedProvider :=
  [⟨"anthropic", anthropicRetired, false⟩, ⟨"openai", openaiRetired, false⟩,
    ⟨"tinfoil", [], true⟩]

/-- `data[name]?.models ?? {}`. -/
def catalogueModels (data : Json) (name : String) : List (String × Json) :=
  ((Json.coalesce ((data.get? name).bind (Json.get? · "models")) none).map Json.spread).getD []

/-- The names that `in` finds in every plain object. -/
def inheritedNames : List String :=
  ["constructor", "__defineGetter__", "__defineSetter__", "hasOwnProperty", "__lookupGetter__",
    "__lookupSetter__", "isPrototypeOf", "propertyIsEnumerable", "toString", "valueOf",
    "__proto__", "toLocaleString"]

-----------------------------------------------------------------------------------------
-- The sync
-----------------------------------------------------------------------------------------

/-- A finite number of at least zero. -/
def saneRate (x : Number) : Bool :=
  match x with
  | .finite q => 0 ≤ q
  | _ => false

section Sync

variable (decimals : Decimals)

/-- Whether a model is priced by its tokens and puts out text only. Comparing the output price can
throw.
-/
def billableTextModel (m : Json) : Except String Bool := do
  let cost := m.get? "cost"
  let input := cost.bind (Json.get? · "input")
  let output := cost.bind (Json.get? · "output")
  if ¬Json.holds cost ∨ ¬Json.present input ∨ ¬Json.present output then
    return false
  let price ← (Json.orElse output .null).toNumber decimals
  if ¬(Number.ofInt 0).lt price then
    return false
  match ((m.get? "modalities").bind (Json.get? · "output")).bind Json.array? with
  | some [.string modality] => return modality = "text"
  | _ => return false

/-- The rates of a model as the catalogue has them, or their defaults. -/
def catalogueRates (provider : SyncedProvider) (cost : Json)
    : Except String (RateField → Json) := do
  let input := Json.orElse (cost.get? "input") .null
  let cacheWrite := Json.orElse (cost.get? "cache_write") (.number (.ofInt 0))
  let cacheWrite1h ←
    match Json.coalesce (cost.get? "cache_write_1h") none with
    | some rate => pure rate
    | none =>
        if provider.name = "anthropic" then do
          let base ← input.toNumber decimals
          pure (.number (Number.mul .binary64 (.ofInt 2) base))
        else pure cacheWrite
  return fun
    | .input => input
    | .output => Json.orElse (cost.get? "output") .null
    | .cacheRead =>
        Json.orElse (cost.get? "cache_read")
          (if provider.cacheReadDefaultsToInput then input else .number (.ofInt 0))
    | .cacheWrite => cacheWrite
    | .cacheWrite1h => cacheWrite1h

/-- A rate has to be a finite number of at least zero. -/
def checkedRate (id : String) (field : RateField) (value : Json) : Except String Number :=
  match value.number?.filter saneRate with
  | some rate => .ok rate
  | none => do
      let text ← value.text decimals
      .error s!"{id}: rate {field.key} is not a finite non-negative number: {text}"

/-- The entry of a model that is priced. -/
def priceEntry (provider : SyncedProvider) (id : String) (cost : Json)
    : Except String RawEntry := do
  let rates ← catalogueRates decimals provider cost
  let input ← checkedRate decimals id .input (rates .input)
  let output ← checkedRate decimals id .output (rates .output)
  let cacheRead ← checkedRate decimals id .cacheRead (rates .cacheRead)
  let cacheWrite ← checkedRate decimals id .cacheWrite (rates .cacheWrite)
  let cacheWrite1h ← checkedRate decimals id .cacheWrite1h (rates .cacheWrite1h)
  if cacheWrite1h.lt cacheWrite then
    let written := decimals.write cacheWrite
    let written1h := decimals.write cacheWrite1h
    throw s!"{id}: cache_write_1h ({written1h}) < cache_write ({written}) would let a 1h-classified write bill less"
  return {
    provider := provider.name
    rates := fun
      | .input => input
      | .output => output
      | .cacheRead => cacheRead
      | .cacheWrite => cacheWrite
      | .cacheWrite1h => cacheWrite1h
  }

/-- Whether a model of a provider gets into the price file. -/
def selected (provider : SyncedProvider) (model : String × Json) : Except String Bool := do
  if model.1 ∈ provider.retired then
    return false
  if ¬(← billableTextModel decimals model.2) then
    return false
  return ¬isOffCardModel model.1

/-- One round of the loop over a provider's models. -/
def syncModel (provider : SyncedProvider) (out : PriceFile) (model : String × Json)
    : Except String PriceFile := do
  if ¬(← selected decimals provider model) then
    return out
  if model.1 ∈ out.map Prod.fst ∨ model.1 ∈ inheritedNames then
    let owner := ((out.lookup model.1).map RawEntry.provider).getD "undefined"
    throw s!"duplicate priced model id \"{model.1}\" across providers ({owner} vs {provider.name}) — pricing must key by (provider, id)"
  let entry ← priceEntry decimals provider model.1 (Json.orElse (model.2.get? "cost") .null)
  return out ++ [(model.1, entry)]

/-- The models of all providers, one after the other. -/
def catalogueListing (data : Json) : List (SyncedProvider × String × Json) :=
  syncedProviders.flatMap (fun provider =>
    (catalogueModels data provider.name).map (fun model => (provider, model)))

/-- The price file of a catalogue, or what the script throws. `listed` is the order in which the
sorted entries are written and read back.
-/
def syncPrices (listed : PriceFile → PriceFile) (data : Json) : Except String PriceFile := do
  if data.isNull then
    throw "null is not an object"
  let out ← (catalogueListing data).foldlM
    (fun out listing => syncModel decimals listing.1 out listing.2) []
  return listed out

end Sync

-----------------------------------------------------------------------------------------
-- The table
-----------------------------------------------------------------------------------------

/-- `Math.round(x)`. -/
def roundNumber : Number → Number
  | .finite q => .ofInt (Binary64.mathRound q)
  | other => other

/-- `mergeRawPrices(...sources)`. -/
def mergeRawPrices (sources : List PriceFile) : Except String PriceFile :=
  sources.flatten.foldlM
    (fun merged entry =>
      if entry.1 ∈ merged.map Prod.fst then
        .error s!"duplicate priced model id \"{entry.1}\" across price sources — pricing must move to (provider, id) keys (see the handler's provider/model routing)"
      else .ok (merged ++ [entry]))
    []

/-- Micro-dollars per million tokens. -/
def scaledRate (entry : RawEntry) (field : RateField) : Number :=
  roundNumber (Number.mul .binary64 (entry.rates field) (.ofInt 1000000))

/-- A rate that is finite and at least zero, with the proof. -/
def saneRate? : Number → Option { q : ℚ // 0 ≤ q }
  | .finite q => if nonneg : 0 ≤ q then some ⟨q, nonneg⟩ else none
  | _ => none

section Load

variable (decimals : Decimals)

def assertSane (id : String) (field : RateField) (value : Number)
    : Except String { q : ℚ // 0 ≤ q } :=
  match saneRate? value with
  | some rate => .ok rate
  | none =>
      let text := decimals.write value
      .error s!"prices.json: {id}.{field.key} is not a finite non-negative rate: {text}"

/-- The rates that pass, as the cost functions bill with them. -/
def assertRateInvariants (id : String) (rate : RateField → Number) : Except String Rate := do
  let input ← assertSane decimals id .input (rate .input)
  let output ← assertSane decimals id .output (rate .output)
  let cacheRead ← assertSane decimals id .cacheRead (rate .cacheRead)
  let cacheWrite ← assertSane decimals id .cacheWrite (rate .cacheWrite)
  let cacheWrite1h ← assertSane decimals id .cacheWrite1h (rate .cacheWrite1h)
  if ordered : cacheWrite.1 ≤ cacheWrite1h.1 then
    return {
      input := input
      output := output
      cacheRead := cacheRead
      cacheWrite := cacheWrite
      cacheWrite1h := cacheWrite1h
      input_nonneg := input.2
      output_nonneg := output.2
      cacheRead_nonneg := cacheRead.2
      cacheWrite_nonneg := cacheWrite.2
      cacheWrite_le := ordered
    }
  else
    let written := decimals.write (rate .cacheWrite)
    let written1h := decimals.write (rate .cacheWrite1h)
    throw s!"prices.json: {id}.cache_write_1h ({written1h}) < cache_write ({written}) — a 1h-classified write would bill less"

/-- One entry of the table. -/
def pricedModel (entry : String × RawEntry) : Except String (String × PricedModel) := do
  let rate ← assertRateInvariants decimals entry.1 (scaledRate entry.2)
  return (entry.1, ⟨entry.2.provider, rate⟩)

/-- The table of a price file, or what loading the module throws. -/
def loadPrices (file : PriceFile) : Except String (List (String × PricedModel)) := do
  let raw ← mergeRawPrices [file]
  raw.mapM (pricedModel decimals)

end Load

end Nullsink.Pricing
