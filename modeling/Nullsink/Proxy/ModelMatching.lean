import Nullsink.Lib.FirstMatch
import Nullsink.Proxy.Buffered

/-! Model matching and routing: a model string is priced by at most one exact and at most one dated
id, in any order of the table, and resolves to the same provider in any order of the candidates.
-/

namespace Nullsink.Proxy

open Ecma

-----------------------------------------------------------------------------------------
-- Dated suffixes
-----------------------------------------------------------------------------------------

/-- The model is the id, a dash and a dated suffix. -/
def DatedBase (id model : String) : Prop :=
  ∃ suffix,
    model.toList = id.toList ++ '-' :: suffix ∧ PriceBook.datedSuffix suffix = true

theorem pricesModel_iff {id model : String}
    : PriceBook.pricesModel id model = true ↔ model = id ∨ DatedBase id model := by
  simp only [PriceBook.pricesModel, decide_eq_true_eq, List.isPrefixOf_iff_prefix, DatedBase,
    String.toList_append]
  constructor
  · rintro (same | ⟨⟨suffix, whole⟩, dated⟩)
    · exact Or.inl same
    · rw [← whole, List.drop_left] at dated
      exact Or.inr ⟨suffix, by simp [← whole], dated⟩
  · rintro (same | ⟨suffix, whole, dated⟩)
    · exact Or.inl same
    · have split : model.toList = (id.toList ++ "-".toList) ++ suffix := by simp [whole]
      refine Or.inr ⟨⟨suffix, split.symm⟩, ?_⟩
      rw [split, List.drop_left]
      exact dated

/-- A dated suffix is eight digits, or has a dash before its last five. -/
theorem datedSuffix_cases {suffix : List Char} (dated : PriceBook.datedSuffix suffix = true)
    : (suffix.length = 8 ∧ ∀ c ∈ suffix, c ≠ '-')
      ∨ (suffix.length = 10 ∧ suffix[4]? = some '-') := by
  simp only [PriceBook.datedSuffix, decide_eq_true_eq, List.all_eq_true] at dated
  rcases dated with ⟨length, digits⟩ | ⟨length, dashed⟩
  · refine Or.inl ⟨length, ?_⟩
    rintro c member rfl
    exact absurd (digits '-' member) (by decide)
  · refine Or.inr ⟨length, ?_⟩
    have within : 4 < suffix.length := by omega
    have fourth : (suffix[4], 4) ∈ suffix.zipIdx := by
      simp [List.mk_mem_zipIdx_iff_getElem?, within]
    have dash := dashed _ fourth
    simpa [within] using dash

/-- Dated suffixes of one text have one length: the last eight characters of the longer form hold
a dash.
-/
theorem datedSuffix_length {front front' suffix suffix' : List Char}
    (same : front ++ suffix = front' ++ suffix')
    (dated : PriceBook.datedSuffix suffix = true) (dated' : PriceBook.datedSuffix suffix' = true)
    : suffix.length = suffix'.length := by
  have apart {front front' short long : List Char} (same : front ++ short = front' ++ long)
      (eight : short.length = 8) (digits : ∀ c ∈ short, c ≠ '-') (ten : long.length = 10)
      (dash : long[4]? = some '-')
      : False := by
    have shorter : short <:+ long :=
      List.suffix_of_suffix_length_le ⟨front, same⟩ ⟨front', rfl⟩ (by omega)
    obtain ⟨first, rfl⟩ := shorter
    have two : first.length = 2 := by
      simp only [List.length_append] at ten
      omega
    rw [List.getElem?_append_right (by omega)] at dash
    exact digits '-' (List.mem_of_getElem? dash) rfl
  rcases datedSuffix_cases dated with ⟨eight, digits⟩ | ⟨ten, dash⟩
  · rcases datedSuffix_cases dated' with ⟨eight', _⟩ | ⟨ten', dash'⟩
    · rw [eight, eight']
    · exact (apart same eight digits ten' dash').elim
  · rcases datedSuffix_cases dated' with ⟨eight', digits'⟩ | ⟨ten', _⟩
    · exact (apart same.symm eight' digits' ten dash).elim
    · rw [ten, ten']

/-- A model has at most one dated base. -/
theorem DatedBase.unique {id id' model : String} (first : DatedBase id model)
    (second : DatedBase id' model)
    : id = id' := by
  obtain ⟨suffix, whole, dated⟩ := first
  obtain ⟨suffix', whole', dated'⟩ := second
  have same : (id.toList ++ ['-']) ++ suffix = (id'.toList ++ ['-']) ++ suffix' := by
    simpa [whole] using whole'
  have fronts := (List.append_inj' same (datedSuffix_length same dated dated')).1
  exact String.toList_inj.mp (List.append_inj' fronts rfl).1

theorem stringLength_pos_of_cons (c : Char) (rest : List Char)
    : 0 < ((c :: rest).map (fun c => if c.toNat < 0x10000 then 1 else 2)).sum := by
  rw [List.map_cons, List.sum_cons]
  split <;> omega

/-- A dated base is shorter than its model. -/
theorem DatedBase.shorter {id model : String} (dated : DatedBase id model)
    : Json.stringLength id < Json.stringLength model := by
  obtain ⟨suffix, whole, _⟩ := dated
  have positive := stringLength_pos_of_cons '-' suffix
  simp only [Json.stringLength, whole, List.map_append, List.sum_append]
  omega

-----------------------------------------------------------------------------------------
-- Price tables
-----------------------------------------------------------------------------------------

/-- `findModel` over a table of prices. -/
def findPriced (prices : List (String × PricedModel)) (model : String) : Option PricedModel :=
  ((prices.insertionSort
      (fun a b => Json.stringLength b.1 ≤ Json.stringLength a.1)).find?
    (fun entry => PriceBook.pricesModel entry.1 model)).map Prod.snd

theorem findModel_eq (book : PriceBook) (model : String)
    : book.findModel model = findPriced book.prices model := rfl

/-- What a table prices a model as: the exact entry, else the dated base. -/
inductive PricedAs (prices : List (String × PricedModel)) (model : String)
    : PricedModel → Prop
  | exact (priced : PricedModel) (listed : (model, priced) ∈ prices)
    : PricedAs prices model priced
  | dated (id : String) (priced : PricedModel) (listed : (id, priced) ∈ prices)
    (base : DatedBase id model) (unlisted : model ∉ prices.map Prod.fst)
    : PricedAs prices model priced

instance : Std.Total
    (fun a b : String × PricedModel => Json.stringLength b.1 ≤ Json.stringLength a.1) :=
  ⟨fun a b => Nat.le_total (Json.stringLength b.1) (Json.stringLength a.1)⟩

instance : IsTrans (String × PricedModel)
    (fun a b => Json.stringLength b.1 ≤ Json.stringLength a.1) :=
  ⟨fun _ _ _ first second => Nat.le_trans second first⟩

section Tables

variable {prices : List (String × PricedModel)} (once : (prices.map Prod.fst).Nodup)
  {model : String}

include once

/-- Entries under one id are one. -/
theorem entry_unique {entry entry' : String × PricedModel} (listed : entry ∈ prices)
    (listed' : entry' ∈ prices) (same : entry.1 = entry'.1)
    : entry = entry' :=
  List.inj_on_of_nodup_map once listed listed' same

/-- The longest-first scan finds exactly what the table prices the model as. -/
theorem findPriced_eq_some_iff {priced : PricedModel}
    : findPriced prices model = some priced ↔ PricedAs prices model priced := by
  have exact_found {priced : PricedModel} (listed : (model, priced) ∈ prices)
      : findPriced prices model = some priced := by
    unfold findPriced
    rw [List.find?_insertionSort listed (pricesModel_iff.mpr (Or.inl rfl))]
    · rfl
    · intro other stored hit longer
      rcases pricesModel_iff.mp hit with same | dated
      · exact entry_unique once stored listed same.symm
      · exact absurd dated.shorter (not_lt.mpr longer)
  constructor
  · intro found
    obtain ⟨entry, first, rfl⟩ := Option.map_eq_some_iff.mp found
    have listed : entry ∈ prices :=
      (List.mem_insertionSort _).mp (List.mem_of_find?_eq_some first)
    have hit := List.find?_some first
    rcases pricesModel_iff.mp hit with rfl | dated
    · exact .exact entry.2 listed
    · by_cases named : model ∈ prices.map Prod.fst
      · obtain ⟨own, ownListed, rfl⟩ := List.mem_map.mp named
        have same := Option.some.inj ((exact_found ownListed).symm.trans found)
        exact .exact entry.2 (by rw [← same]; exact ownListed)
      · exact .dated entry.1 entry.2 listed dated named
  · intro pricedAs
    cases pricedAs with
    | exact _ listed => exact exact_found listed
    | dated id _ listed base unlisted =>
        unfold findPriced
        rw [List.find?_insertionSort listed (pricesModel_iff.mpr (Or.inr base))]
        · rfl
        · intro other stored hit _
          rcases pricesModel_iff.mp hit with same | dated
          · exact absurd (List.mem_map.mpr ⟨other, stored, same.symm⟩) unlisted
          · exact entry_unique once stored listed (dated.unique base)

/-- The order of the table does not matter. -/
theorem findPriced_perm {prices' : List (String × PricedModel)} (same : prices.Perm prices')
    : findPriced prices model = findPriced prices' model := by
  have once' : (prices'.map Prod.fst).Nodup := (same.map Prod.fst).nodup_iff.mp once
  ext priced
  rw [findPriced_eq_some_iff once, findPriced_eq_some_iff once']
  constructor
  · rintro (⟨_, listed⟩ | ⟨id, _, listed, base, unlisted⟩)
    · exact .exact _ (same.mem_iff.mp listed)
    · exact .dated id _ (same.mem_iff.mp listed) base
        (mt (same.map Prod.fst).mem_iff.mpr unlisted)
  · rintro (⟨_, listed⟩ | ⟨id, _, listed, base, unlisted⟩)
    · exact .exact _ (same.mem_iff.mpr listed)
    · exact .dated id _ (same.mem_iff.mpr listed) base
        (mt (same.map Prod.fst).mem_iff.mp unlisted)

end Tables

-----------------------------------------------------------------------------------------
-- Routing
-----------------------------------------------------------------------------------------

section Routing

variable (js : Runtime) (book : PriceBook)

/-- The providers the registry makes. -/
inductive MadeProvider : Provider book → Prop
  | anthropic (estimator : HoldEstimator)
    : MadeProvider (makeAnthropicProvider js book estimator)
  | openaiChat (estimator : HoldEstimator)
    : MadeProvider (makeOpenAIChatProvider js book estimator)
  | openaiResponses (estimator : HoldEstimator)
    : MadeProvider (makeOpenAIResponsesProvider js book estimator)
  | tinfoil (estimator : HoldEstimator)
    : MadeProvider (makeTinfoilProvider js book estimator)

variable {js book}

/-- Every active provider is one of them. -/
theorem madeProvider_of_active {cfg : ProvidersConfig} {provider : Provider book}
    (active : provider ∈ activeProviders js book cfg)
    : MadeProvider js book provider := by
  simp only [activeProviders, List.mem_append, Option.mem_toList,
    Option.map_eq_some_iff] at active
  rcases active with ((anthropic | chat) | responses) | tinfoil
  · obtain ⟨estimator, _, rfl⟩ := anthropic
    exact .anthropic estimator
  · obtain ⟨estimator, _, rfl⟩ := chat
    exact .openaiChat estimator
  · obtain ⟨estimator, _, rfl⟩ := responses
    exact .openaiResponses estimator
  · obtain ⟨estimator, _, rfl⟩ := tinfoil
    exact .tinfoil estimator

/-- A provider owns only models that are priced under its tag. -/
theorem MadeProvider.tagged {provider : Provider book} (made : MadeProvider js book provider)
    {model : String} (owned : provider.ownsModel model = true)
    : book.providerOf model = some provider.id := by
  have card {tag : String} (owned : ownsCardModel book tag model = true)
      : book.providerOf model = some tag := by
    simp only [ownsCardModel, decide_eq_true_eq] at owned
    exact owned.1
  cases made with
  | anthropic estimator => exact of_decide_eq_true owned
  | openaiChat estimator => exact card owned
  | openaiResponses estimator => exact card owned
  | tinfoil estimator => exact card owned

variable {candidates candidates' : List (Provider book)}

/-- The order of candidates with distinct ids does not matter. -/
theorem resolveProvider_perm (ids : (candidates.map Provider.id).Nodup)
    (same : candidates.Perm candidates') (rawModel : String) (knownProviderIds : List String)
    : resolveProvider candidates rawModel knownProviderIds
      = resolveProvider candidates' rawModel knownProviderIds := by
  have owners := same.filter (fun c => c.ownsModel rawModel)
  have hinted (hint : String)
      : candidates.find? (fun c => c.id = hint) = candidates'.find? (fun c => c.id = hint) :=
    same.find?_key ids hint
  unfold resolveProvider
  split
  · rename_i provider single
    rw [single] at owners
    have single' := List.singleton_perm.mp owners
    split
    · rename_i provider' found
      rw [found] at single'
      obtain rfl := (List.singleton_inj.mp single')
      rfl
    · rename_i found
      rw [found] at single'
      cases single'
    · rename_i found
      rw [found] at single'
      cases single'
  · rename_i several
    rw [several] at owners
    have length := owners.length_eq
    split
    · rename_i found
      rw [found] at length
      simp at length
    · rfl
    · rename_i found
      rw [found] at length
      simp at length
  · rename_i nobody
    rw [nobody] at owners
    have nobody' := List.nil_perm.mp owners
    split
    · rename_i found
      rw [nobody'] at found
      cases found
    · rename_i found
      rw [nobody'] at found
      cases found
    · simp only [hinted]

end Routing

-----------------------------------------------------------------------------------------
-- Unambiguous matching and routing
-----------------------------------------------------------------------------------------

/-- A model has one exact and one dated entry at most, the lookup finds the first of them there is
in any order of the table, and routing finds one provider in any order of the candidates, whose
tag the model is priced under: the lookups of the hold and of the fallback do not throw.
-/
theorem model_routing (js : Runtime) (book : PriceBook)
    : (∀ prices : List (String × PricedModel), (prices.map Prod.fst).Nodup
        → ∀ model : String,
          (∀ entry ∈ prices, ∀ entry' ∈ prices,
            entry.1 = model → entry'.1 = model → entry = entry')
          ∧ (∀ entry ∈ prices, ∀ entry' ∈ prices,
              DatedBase entry.1 model → DatedBase entry'.1 model → entry = entry')
          ∧ (∀ priced, findPriced prices model = some priced ↔ PricedAs prices model priced)
          ∧ (∀ prices', prices.Perm prices'
              → findPriced prices' model = findPriced prices model)
          ∧ ∀ priced, (model, priced) ∈ prices → findPriced prices model = some priced)
      ∧ (∀ model, book.findModel model = findPriced book.prices model)
      ∧ ∀ (candidates : List (Provider book)) rawModel knownProviderIds,
          (candidates.map Provider.id).Nodup
          → (∀ candidates', candidates.Perm candidates'
              → resolveProvider candidates' rawModel knownProviderIds
                = resolveProvider candidates rawModel knownProviderIds)
            ∧ ∀ resolved,
                resolveProvider candidates rawModel knownProviderIds = .ok resolved
                → (∀ candidate ∈ candidates, MadeProvider js book candidate)
                → resolved.provider.ownsModel resolved.model = true
                  ∧ (∃ rate,
                      book.findModel resolved.model = some ⟨resolved.provider.id, rate⟩)
                  ∧ (∀ inputTokens maxTokens oneHourCache,
                      (priceHoldBound js.fp book resolved.model inputTokens maxTokens
                        oneHourCache).isSome)
                  ∧ ∀ name usage,
                      (priceUsage js.fp book (.string name) usage resolved.model).isSome := by
  refine ⟨?_, fun _ => rfl, ?_⟩
  · intro prices once model
    refine ⟨?_, ?_, ?_, ?_, ?_⟩
    · intro entry listed entry' listed' own own'
      exact entry_unique once listed listed' (own.trans own'.symm)
    · intro entry listed entry' listed' base base'
      exact entry_unique once listed listed' (base.unique base')
    · exact fun priced => findPriced_eq_some_iff once
    · exact fun prices' same => (findPriced_perm once same).symm
    · exact fun priced listed => (findPriced_eq_some_iff once).mpr (.exact priced listed)
  · intro candidates rawModel knownProviderIds ids
    refine ⟨fun candidates' same => (resolveProvider_perm ids same _ _).symm, ?_⟩
    intro resolved found made
    have tagged := (made _ (resolveProvider_mem found)).tagged resolved.owned
    have priced := resolved.provider.owns_priced resolved.model resolved.owned
    obtain ⟨⟨tag, rate⟩, model, same⟩ := Option.map_eq_some_iff.mp tagged
    cases same
    obtain ⟨_, rated⟩ := PriceBook.exists_rate priced
    refine ⟨resolved.owned, ⟨rate, model⟩, ?_, ?_⟩
    · intro inputTokens maxTokens oneHourCache
      simp [priceHoldBound, rated]
    · exact fun name usage => priceUsage_isSome js.fp name usage priced

/-- The dated and the undated id of a model, at different providers. -/
def exampleDated : List (String × PricedModel) :=
  [("gpt-4o-2024-08-06", ⟨"tinfoil", exampleRate⟩), ("gpt-4o", ⟨"openai", exampleRate⟩)]

def exampleRouted (js : Runtime) : List (Provider exampleBook) :=
  [makeOpenAIChatProvider js exampleBook .countTokensHold,
    makeAnthropicProvider js exampleBook .countTokensHold]

/-- A listed date is its own model, and one that is not listed is its base, under either order of
the table. A request for a dated id goes to the one provider of its base, under whose tag it is
priced.
-/
theorem model_routing_dated
    : findPriced exampleDated.reverse "gpt-4o-2024-08-06" = some ⟨"tinfoil", exampleRate⟩
      ∧ findPriced exampleDated "gpt-4o-2024-11-20" = some ⟨"openai", exampleRate⟩
      ∧ ∃ resolved : Resolved exampleBook,
          resolveProvider (exampleRouted exampleJs).reverse "claude-haiku-4-5-20251001" []
            = .ok resolved
          ∧ (∃ rate, exampleBook.findModel resolved.model = some ⟨resolved.provider.id, rate⟩)
          ∧ (priceHoldBound .binary64 exampleBook resolved.model (.ofInt 10) (.ofInt 100)
              false).isSome := by
  have once : (exampleDated.map Prod.fst).Nodup := by simp [exampleDated]
  obtain ⟨_, _, _, order, listed⟩ :=
    (model_routing exampleJs exampleBook).1 _ once "gpt-4o-2024-08-06"
  obtain ⟨_, _, prices, _, _⟩ :=
    (model_routing exampleJs exampleBook).1 _ once "gpt-4o-2024-11-20"
  refine ⟨?_, ?_, ?_⟩
  · rw [order _ (List.reverse_perm _).symm]
    exact listed _ (by simp [exampleDated])
  · rw [prices]
    exact .dated "gpt-4o" _ (by simp [exampleDated])
      ⟨"2024-11-20".toList, by rfl, by decide +kernel⟩ (by simp [exampleDated])
  · have ids : ((exampleRouted exampleJs).map Provider.id).Nodup := by decide
    obtain ⟨order, routed⟩ :=
      (model_routing exampleJs exampleBook).2.2 _ "claude-haiku-4-5-20251001" [] ids
    have made : ∀ candidate ∈ exampleRouted exampleJs,
        MadeProvider exampleJs exampleBook candidate := by
      intro candidate member
      rcases List.mem_pair.mp member with rfl | rfl
      · exact .openaiChat _
      · exact .anthropic _
    cases found : resolveProvider (exampleRouted exampleJs) "claude-haiku-4-5-20251001" [] with
    | error failure =>
        have routes
            : (resolveProvider (exampleRouted exampleJs) "claude-haiku-4-5-20251001"
                []).toOption.isSome := by
          decide +kernel
        rw [found] at routes
        cases routes
    | ok resolved =>
        obtain ⟨_, tagged, bounded, _⟩ := routed resolved found made
        exact ⟨resolved, (order _ (List.reverse_perm _).symm).trans found, tagged,
          bounded _ _ _⟩

end Nullsink.Proxy
