import Mathlib.Data.List.Infix
import Mathlib.Data.List.Sort
import Nullsink.Lib.Arithmetic
import Nullsink.Lib.Json

/-! Per-model pricing of `cost/pricing.ts`: the price book, the cost of realized usage and the
bound a hold is sized by. Amounts are micro-dollars; the cost functions take their arithmetic.
-/

namespace Nullsink.Proxy

open Ecma

/-- A model's micro-dollars per million tokens, as `assertRateInvariants` lets it pass. -/
structure Rate where
  input : ℚ
  output : ℚ
  cacheRead : ℚ
  cacheWrite : ℚ
  cacheWrite1h : ℚ
  input_nonneg : 0 ≤ input
  output_nonneg : 0 ≤ output
  cacheRead_nonneg : 0 ≤ cacheRead
  cacheWrite_nonneg : 0 ≤ cacheWrite
  cacheWrite_le : cacheWrite ≤ cacheWrite1h

theorem Rate.cacheWrite1h_nonneg (rate : Rate) : 0 ≤ rate.cacheWrite1h :=
  rate.cacheWrite_nonneg.trans rate.cacheWrite_le

/-- A price book entry: which provider owns the model, and its rate. -/
structure PricedModel where
  provider : String
  rate : Rate

/-- `RAW_PRICES`: priced models by id, each id once and none empty. -/
structure PriceBook where
  prices : List (String × PricedModel)
  ids_nodup : (prices.map Prod.fst).Nodup
  ids_named : ∀ entry ∈ prices, entry.1 ≠ ""

/-- A usage object: the five counts that are read from it, of any JSON type. -/
structure Usage where
  inputTokens : Option Json
  outputTokens : Option Json
  cacheCreationInputTokens : Option Json
  cacheReadInputTokens : Option Json
  cacheCreation1hInputTokens : Option Json

namespace PriceBook

/-- `RATES`: the longest ids first. -/
def rates (book : PriceBook) : List (String × PricedModel) :=
  book.prices.insertionSort
    (fun a b => Json.stringLength b.1 ≤ Json.stringLength a.1)

/-- `DATED_SUFFIX.test`. -/
def datedSuffix (value : List Char) : Bool :=
  (value.length = 8 ∧ value.all Char.isDigit)
  ∨ (value.length = 10
    ∧ value.zipIdx.all (fun c => if c.2 ∈ [4, 7] then c.1 = '-' else c.1.isDigit))

/-- Whether an id prices a model: exactly, or as its base under a dated suffix. -/
def pricesModel (id model : String) : Bool :=
  model = id
  ∨ ((id ++ "-").toList.isPrefixOf model.toList
    ∧ datedSuffix (model.toList.drop ((id ++ "-").toList.length)))

def findModel (book : PriceBook) (model : String) : Option PricedModel :=
  (book.rates.find? (fun entry => pricesModel entry.1 model)).map Prod.snd

def findRate (book : PriceBook) (model : String) : Option Rate :=
  (book.findModel model).map PricedModel.rate

def providerOf (book : PriceBook) (model : String) : Option String :=
  (book.findModel model).map PricedModel.provider

/-- A priced model has a rate. -/
theorem exists_rate {book : PriceBook} {model : String} (priced : (book.findModel model).isSome)
    : ∃ rate, book.findRate model = some rate := by
  obtain ⟨found, hit⟩ := Option.isSome_iff_exists.mp priced
  exact ⟨found.rate, by rw [findRate, hit]; rfl⟩

theorem findModel_named {book : PriceBook} {model : String} (found : (book.findModel model).isSome)
    : model ≠ "" := by
  rintro rfl
  obtain ⟨entry, hit⟩ := Option.isSome_iff_exists.mp (Option.isSome_map ▸ found)
  have listed : entry ∈ book.prices :=
    (List.mem_insertionSort _).mp (List.mem_of_find?_eq_some hit)
  have matched := List.find?_some hit
  have named := book.ids_named entry listed
  simp [pricesModel, named.symm] at matched

end PriceBook

/-- `OFF_CARD_MODEL_MARKERS`. -/
def offCardModelMarkers : List String := ["deep-research", "search", "audio", "realtime"]

def isOffCardModel (model : String) : Bool :=
  offCardModelMarkers.any (fun marker => marker.toList <:+: model.toList)

/-- A reported count: a finite number of at least zero, and 0 for anything else. -/
def sanitizeCount : Option Json → Number
  | some (.number (.finite q)) => if 0 ≤ q then .finite q else .finite 0
  | _ => .finite 0

theorem sanitizeCount_finiteNonneg (x : Option Json) : (sanitizeCount x).FiniteNonneg := by
  unfold sanitizeCount
  split
  · split
    · assumption
    · exact le_rfl
  · exact le_rfl

section Cost

variable (fp : Rounding)

/-- `tokens * rate`. -/
def priced (tokens : Number) (rate : ℚ) : Number := tokens.mul fp (.finite rate)

/-- The 1-hour slice of the cache writes, at most their total. -/
def write1hTokens (usage : Usage) : Number :=
  (sanitizeCount usage.cacheCreation1hInputTokens).min
    (sanitizeCount usage.cacheCreationInputTokens)

/-- The cache writes outside the 1-hour slice. -/
def write5mTokens (usage : Usage) : Number :=
  (sanitizeCount usage.cacheCreationInputTokens).sub fp (write1hTokens usage)

/-- The cost of realized usage at a rate. -/
def costOf (rate : Rate) (usage : Usage) : Number :=
  let input := priced fp (sanitizeCount usage.inputTokens) rate.input
  let output := priced fp (sanitizeCount usage.outputTokens) rate.output
  let write5m := priced fp (write5mTokens fp usage) rate.cacheWrite
  let write1h := priced fp (write1hTokens usage) rate.cacheWrite1h
  let cacheRead := priced fp (sanitizeCount usage.cacheReadInputTokens) rate.cacheRead
  (((((input.add fp output).add fp write5m).add fp write1h).add fp cacheRead).divBy fp
    1000000).floor

theorem priced_count_nonneg (x : Option Json) {rate : ℚ} (nonneg : 0 ≤ rate)
    : (priced fp (sanitizeCount x) rate).Nonneg :=
  (sanitizeCount_finiteNonneg x).mul fp nonneg

theorem priced_write5m_nonneg (usage : Usage) {rate : ℚ} (nonneg : 0 ≤ rate)
    : (priced fp (write5mTokens fp usage) rate).Nonneg :=
  Number.FiniteNonneg.mul fp
    ((sanitizeCount_finiteNonneg _).sub_min fp (sanitizeCount_finiteNonneg _)) nonneg

theorem priced_write1h_nonneg (usage : Usage) {rate : ℚ} (nonneg : 0 ≤ rate)
    : (priced fp (write1hTokens usage) rate).Nonneg :=
  Number.FiniteNonneg.mul fp
    ((sanitizeCount_finiteNonneg _).min (sanitizeCount_finiteNonneg _)) nonneg

/-- Every cost is a whole number of micro-dollars, or infinite where it overflows. -/
theorem costOf_amount (rate : Rate) (usage : Usage) : (costOf fp rate usage).Amount :=
  (((((priced_count_nonneg fp _ rate.input_nonneg).add fp
    (priced_count_nonneg fp _ rate.output_nonneg)).add fp
    (priced_write5m_nonneg fp usage rate.cacheWrite_nonneg)).add fp
    (priced_write1h_nonneg fp usage rate.cacheWrite1h_nonneg)).add fp
    (priced_count_nonneg fp _ rate.cacheRead_nonneg)).divBy fp (by norm_num) |>.floor

/-- The cost at the model's rate, else at the fallback's; `none` is a throw, as is every lookup
of a model that is no string.
-/
def priceUsage (book : PriceBook) (model : Json) (usage : Usage) (fallback : String)
    : Option Number :=
  match model with
  | .string name =>
      ((book.findRate name).or (if fallback = "" then none else book.findRate fallback)).map
        (costOf fp · usage)
  | _ => none

theorem priceUsage_amount {book : PriceBook} {model : Json} {usage : Usage} {fallback : String}
    {cost : Number} (found : priceUsage fp book model usage fallback = some cost)
    : cost.Amount := by
  unfold priceUsage at found
  split at found
  · obtain ⟨rate, _, rfl⟩ := Option.map_eq_some_iff.mp found
    exact costOf_amount fp rate usage
  · cases found

/-- With a priced fallback every string model has a cost. -/
theorem priceUsage_isSome {book : PriceBook} (name : String) (usage : Usage) {fallback : String}
    (gated : (book.findModel fallback).isSome)
    : (priceUsage fp book (.string name) usage fallback).isSome := by
  simp [priceUsage, PriceBook.findModel_named gated, PriceBook.findRate, gated]

theorem priceUsage_eq_none {book : PriceBook} {model : Json} (usage : Usage) (fallback : String)
    (unnamed : model.string? = none)
    : priceUsage fp book model usage fallback = none := by
  cases model with
  | string name => cases unnamed
  | _ => rfl

/-- The dearest rate an input token can bill at. -/
def maxInputRate (rate : Rate) (oneHourCache : Bool) : ℚ :=
  let standard := max (max rate.input rate.cacheRead) rate.cacheWrite
  if oneHourCache then max standard rate.cacheWrite1h else standard

theorem maxInputRate_nonneg (rate : Rate) (oneHourCache : Bool)
    : 0 ≤ maxInputRate rate oneHourCache := by
  have standard : 0 ≤ max (max rate.input rate.cacheRead) rate.cacheWrite :=
    le_max_of_le_left (le_max_of_le_left rate.input_nonneg)
  unfold maxInputRate
  split
  · exact le_max_of_le_left standard
  · exact standard

/-- The bound of `holdBoundOf` before it is scaled to micro-dollars. -/
def holdNumerator (rate : Rate) (inputTokens maxTokens : Number) (oneHourCache : Bool) : Number :=
  (priced fp inputTokens (maxInputRate rate oneHourCache)).add fp (priced fp maxTokens rate.output)

/-- An upper bound on the cost of a request, to size its hold. -/
def holdBoundOf (rate : Rate) (inputTokens maxTokens : Number) (oneHourCache : Bool) : Number :=
  ((holdNumerator fp rate inputTokens maxTokens oneHourCache).divBy fp 1000000).floor

/-- `none` is a throw. -/
def priceHoldBound (book : PriceBook) (model : String) (inputTokens maxTokens : Number)
    (oneHourCache : Bool)
    : Option Number :=
  (book.findRate model).map (holdBoundOf fp · inputTokens maxTokens oneHourCache)

end Cost

end Nullsink.Proxy
