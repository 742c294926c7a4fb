import Nullsink.Lib.RoundingOrder
import Nullsink.Pricing.PriceSync
import Nullsink.Proxy.ModelMatching

/-! What a completed sync has written, and what the proxy then loads: exactly the priced models of
the catalogue, each once and under its provider, at rates that the table rounds.
-/

namespace Nullsink.Pricing

open Ecma Proxy

-----------------------------------------------------------------------------------------
-- Entries
-----------------------------------------------------------------------------------------

/-- The rates of an entry are finite numbers of at least zero, and its 1-hour cache writes cost what
the others do at least.
-/
structure RawEntry.Sane (entry : RawEntry) : Prop where
  finite : ∀ field, ∃ q : ℚ, entry.rates field = .finite q ∧ 0 ≤ q
  ordered : (entry.rates .cacheWrite1h).lt (entry.rates .cacheWrite) = false

theorem saneRate_iff {x : Number} : saneRate x ↔ ∃ q : ℚ, x = .finite q ∧ 0 ≤ q := by
  cases x <;> simp [saneRate]

section Sync

variable {decimals : Decimals}

/-- A rate that is checked is a number of the catalogue. -/
theorem checkedRate_eq_ok {id : String} {field : RateField} {value : Json} {rate : Number}
    : checkedRate decimals id field value = .ok rate ↔ value = .number rate ∧ saneRate rate := by
  unfold checkedRate
  cases found : value.number?.filter saneRate with
  | some sane =>
      obtain ⟨number, passes⟩ := Option.filter_eq_some_iff.mp found
      have whole : value = .number sane := by
        cases value <;> simp_all [Json.number?]
      constructor
      · intro same
        cases same
        exact ⟨whole, passes⟩
      · rintro ⟨same, _⟩
        rw [whole] at same
        cases same
        rfl
  | none =>
      constructor
      · intro checked
        obtain ⟨text, _, thrown⟩ := Except.bind_eq_ok.mp checked
        cases thrown
      · rintro ⟨rfl, sane⟩
        simp [Json.number?, sane] at found

/-- What an entry says of its model: the catalogue's rates, or their defaults. -/
structure Priced (decimals : Decimals) (provider : SyncedProvider) (cost : Json) (entry : RawEntry)
    : Prop where
  owner : entry.provider = provider.name
  rates
    : ∃ rates, catalogueRates decimals provider cost = .ok rates
        ∧ ∀ field, rates field = .number (entry.rates field)
  sane : entry.Sane

/-- A model has one entry. -/
theorem Priced.unique {provider : SyncedProvider} {cost : Json} {entry entry' : RawEntry}
    (priced : Priced decimals provider cost entry) (priced' : Priced decimals provider cost entry')
    : entry = entry' := by
  obtain ⟨owner, ⟨rates, catalogued, same⟩, _⟩ := priced
  obtain ⟨owner', ⟨rates', catalogued', same'⟩, _⟩ := priced'
  cases catalogued.symm.trans catalogued'
  obtain ⟨tag, numbers⟩ := entry
  obtain ⟨tag', numbers'⟩ := entry'
  have numbersSame : numbers = numbers' := by
    funext field
    have rate := (same field).symm.trans (same' field)
    injection rate
  rw [numbersSame, RawEntry.mk.injEq]
  exact ⟨owner.trans owner'.symm, rfl⟩

theorem priceEntry_eq_ok {provider : SyncedProvider} {id : String} {cost : Json} {entry : RawEntry}
    : priceEntry decimals provider id cost = .ok entry ↔ Priced decimals provider cost entry := by
  constructor
  · intro priced
    obtain ⟨rates, catalogued, priced⟩ := Except.bind_eq_ok.mp priced
    obtain ⟨input, checked, priced⟩ := Except.bind_eq_ok.mp priced
    obtain ⟨inputRate, inputSane⟩ := checkedRate_eq_ok.mp checked
    obtain ⟨output, checked, priced⟩ := Except.bind_eq_ok.mp priced
    obtain ⟨outputRate, outputSane⟩ := checkedRate_eq_ok.mp checked
    obtain ⟨cacheRead, checked, priced⟩ := Except.bind_eq_ok.mp priced
    obtain ⟨cacheReadRate, cacheReadSane⟩ := checkedRate_eq_ok.mp checked
    obtain ⟨cacheWrite, checked, priced⟩ := Except.bind_eq_ok.mp priced
    obtain ⟨cacheWriteRate, cacheWriteSane⟩ := checkedRate_eq_ok.mp checked
    obtain ⟨cacheWrite1h, checked, priced⟩ := Except.bind_eq_ok.mp priced
    obtain ⟨cacheWrite1hRate, cacheWrite1hSane⟩ := checkedRate_eq_ok.mp checked
    by_cases cheaper : cacheWrite1h.lt cacheWrite = true
    · rw [if_pos cheaper] at priced
      cases priced
    · rw [if_neg cheaper] at priced
      cases priced
      refine ⟨rfl, ⟨rates, catalogued, ?_⟩, ?_, Bool.not_eq_true _ ▸ cheaper⟩
      · intro field
        cases field <;> assumption
      · intro field
        cases field <;> exact saneRate_iff.mp (by assumption)
  · rintro ⟨owner, ⟨rates, catalogued, same⟩, sane⟩
    have checked (field : RateField)
        : checkedRate decimals id field (rates field) = .ok (entry.rates field) :=
      checkedRate_eq_ok.mpr ⟨same field, saneRate_iff.mpr (sane.finite field)⟩
    obtain ⟨provider', rates'⟩ := entry
    simp only at owner
    subst owner
    simp only [priceEntry, catalogued, checked, bind, Except.bind, sane.ordered]
    simp only [Bool.false_eq_true, if_false, pure, Except.pure, Except.ok.injEq,
      RawEntry.mk.injEq, true_and]
    funext field
    cases field <;> rfl

-----------------------------------------------------------------------------------------
-- The loop
-----------------------------------------------------------------------------------------

/-- The cost of a model, as the sync reads it. -/
def modelCost (model : Json) : Json := Json.orElse (model.get? "cost") .null

/-- What one model changes of the price file. -/
theorem syncModel_cases {provider : SyncedProvider} {out next : PriceFile} {model : String × Json}
    (synced : syncModel decimals provider out model = .ok next)
    : (selected decimals provider model = .ok false ∧ next = out)
      ∨ (selected decimals provider model = .ok true
          ∧ model.1 ∉ out.map Prod.fst
          ∧ ∃ entry, Priced decimals provider (modelCost model.2) entry
              ∧ next = out ++ [(model.1, entry)]) := by
  obtain ⟨picked, selecting, synced⟩ := Except.bind_eq_ok.mp synced
  cases picked with
  | false =>
      cases synced
      exact Or.inl ⟨selecting, rfl⟩
  | true =>
      simp only [not_true_eq_false, if_false] at synced
      by_cases taken : model.1 ∈ out.map Prod.fst ∨ model.1 ∈ inheritedNames
      · rw [if_pos taken] at synced
        cases synced
      · rw [if_neg taken] at synced
        obtain ⟨entry, priced, added⟩ := Except.bind_eq_ok.mp synced
        cases added
        push Not at taken
        exact Or.inr ⟨selecting, taken.1, entry, priceEntry_eq_ok.mp priced, rfl⟩

/-- The models of a listing that a sync has put into the price file. -/
def Catalogued (decimals : Decimals) (listing : List (SyncedProvider × String × Json)) (id : String)
    (entry : RawEntry)
    : Prop :=
  ∃ provider model, (provider, id, model) ∈ listing
    ∧ selected decimals provider (id, model) = .ok true
    ∧ Priced decimals provider (modelCost model) entry

/-- A model that a sync has passed was decided, and if it is selected, it has an entry. -/
def Decided (decimals : Decimals) (listing : SyncedProvider × String × Json) : Prop :=
  selected decimals listing.1 listing.2 = .ok false
  ∨ selected decimals listing.1 listing.2 = .ok true
    ∧ ∃ entry, Priced decimals listing.1 (modelCost listing.2.2) entry

/-- The loop writes each selected model once, and nothing else; by induction on the models. -/
theorem sync_loop {listing : List (SyncedProvider × String × Json)} {start out : PriceFile}
    (synced
      : listing.foldlM (fun out listing => syncModel decimals listing.1 out listing.2) start
        = .ok out)
    (once : (start.map Prod.fst).Nodup)
    : (out.map Prod.fst).Nodup
      ∧ (∀ id entry,
          (id, entry) ∈ out ↔ (id, entry) ∈ start ∨ Catalogued decimals listing id entry)
      ∧ ∀ listed ∈ listing, Decided decimals listed := by
  induction listing generalizing start with
  | nil =>
      cases synced
      refine ⟨once, fun id entry => ⟨Or.inl, ?_⟩, by simp⟩
      rintro (known | ⟨_, _, member, _⟩)
      · exact known
      · cases member
  | cons first rest ih =>
      obtain ⟨next, taken, later⟩ := Except.bind_eq_ok.mp synced
      have split (id : String) (entry : RawEntry)
          : Catalogued decimals (first :: rest) id entry
            ↔ Catalogued decimals [first] id entry ∨ Catalogued decimals rest id entry := by
        constructor
        · rintro ⟨provider, model, member, picked⟩
          rcases List.mem_cons.mp member with same | among
          · exact Or.inl ⟨provider, model, List.mem_singleton.mpr same, picked⟩
          · exact Or.inr ⟨provider, model, among, picked⟩
        · rintro (⟨provider, model, member, picked⟩ | ⟨provider, model, member, picked⟩)
          · have listed : (provider, id, model) ∈ first :: rest :=
              List.mem_cons.mpr (Or.inl (List.mem_singleton.mp member))
            exact ⟨provider, model, listed, picked⟩
          · exact ⟨provider, model, List.mem_cons_of_mem _ member, picked⟩
      rcases syncModel_cases taken with ⟨skipped, rfl⟩ | ⟨picked, fresh, entry, priced, rfl⟩
      · obtain ⟨distinct, members, decided⟩ := ih later once
        refine ⟨distinct, fun id entry => ?_, List.forall_mem_cons.mpr ⟨Or.inl skipped, decided⟩⟩
        have absent : ¬Catalogued decimals [first] id entry := by
          rintro ⟨provider, model, member, picked, _⟩
          rw [← List.mem_singleton.mp member] at skipped
          cases skipped.symm.trans picked
        rw [members, split]
        tauto
      · have distinct : ((start ++ [(first.2.1, entry)]).map Prod.fst).Nodup := by
          rw [List.map_append, List.nodup_append]
          refine ⟨once, by simp, ?_⟩
          rintro id known other added rfl
          exact fresh (List.mem_singleton.mp added ▸ known)
        obtain ⟨distinct, members, decided⟩ := ih later distinct
        refine ⟨distinct, fun id other => ?_,
          List.forall_mem_cons.mpr ⟨Or.inr ⟨picked, entry, priced⟩, decided⟩⟩
        have own : Catalogued decimals [first] id other ↔ (id, other) = (first.2.1, entry) := by
          constructor
          · rintro ⟨provider, model, member, _, other⟩
            have same := List.mem_singleton.mp member
            rw [← same] at priced ⊢
            rw [other.unique priced]
          · intro same
            cases same
            exact ⟨first.1, first.2.2, List.mem_singleton_self _, picked, priced⟩
        rw [members, split, own, List.mem_append, List.mem_singleton]
        tauto

/-- A price file has exactly the selected models of the catalogue, each once. -/
theorem syncPrices_file {listed : PriceFile → PriceFile}
    (reorders : ∀ file, (listed file).Perm file)
    {data : Json} {file : PriceFile} (synced : syncPrices decimals listed data = .ok file)
    : (file.map Prod.fst).Nodup
      ∧ (∀ id entry,
          (id, entry) ∈ file ↔ Catalogued decimals (catalogueListing data) id entry)
      ∧ ∀ listing ∈ catalogueListing data, Decided decimals listing := by
  unfold syncPrices at synced
  by_cases absent : data.isNull = true
  · rw [if_pos absent] at synced
    cases synced
  · rw [if_neg absent] at synced
    obtain ⟨out, looped, written⟩ := Except.bind_eq_ok.mp synced
    cases written
    obtain ⟨once, members, decided⟩ := sync_loop looped (by simp)
    refine ⟨((reorders out).map Prod.fst).nodup_iff.mpr once, fun id entry => ?_, decided⟩
    rw [(reorders out).mem_iff, members]
    simp

end Sync

-----------------------------------------------------------------------------------------
-- The table
-----------------------------------------------------------------------------------------

/-- Sources are merged if and only if no id is in them twice; by induction on their entries. -/
theorem mergeRawPrices_eq_ok {sources : List PriceFile} {merged : PriceFile}
    : mergeRawPrices sources = .ok merged
      ↔ merged = sources.flatten ∧ (sources.flatten.map Prod.fst).Nodup := by
  suffices loop
      : ∀ (entries start : PriceFile), (start.map Prod.fst).Nodup →
          (entries.foldlM
              (fun merged entry =>
                if entry.1 ∈ merged.map Prod.fst then
                  .error s!"duplicate priced model id \"{entry.1}\" across price sources — pricing must move to (provider, id) keys (see the handler's provider/model routing)"
                else .ok (merged ++ [entry]))
              start = (.ok merged : Except String PriceFile)
            ↔ merged = start ++ entries ∧ ((start ++ entries).map Prod.fst).Nodup) by
    exact loop _ [] (by simp)
  intro entries
  induction entries with
  | nil =>
      intro start once
      rw [List.append_nil]
      constructor
      · intro done
        cases done
        exact ⟨rfl, once⟩
      · rintro ⟨rfl, _⟩
        rfl
  | cons entry rest ih =>
      intro start once
      rw [List.foldlM_cons]
      by_cases taken : entry.1 ∈ start.map Prod.fst
      · rw [if_pos taken]
        constructor
        · intro done
          cases done
        · rintro ⟨_, distinct⟩
          rw [List.map_append, List.nodup_append] at distinct
          exact (distinct.2.2 _ taken _ (by simp) rfl).elim
      · rw [if_neg taken]
        have added : ((start ++ [entry]).map Prod.fst).Nodup := by
          rw [List.map_append, List.nodup_append]
          refine ⟨once, by simp, ?_⟩
          rintro id known other new rfl
          exact taken (List.mem_singleton.mp new ▸ known)
        have later := ih (start ++ [entry]) added
        rw [List.append_assoc, List.singleton_append] at later
        exact later

/-- A rate by the name of its field. -/
def rateOf (rate : Rate) : RateField → ℚ
  | .input => rate.input
  | .output => rate.output
  | .cacheRead => rate.cacheRead
  | .cacheWrite => rate.cacheWrite
  | .cacheWrite1h => rate.cacheWrite1h

section Load

variable {decimals : Decimals}

theorem assertSane_eq_ok {id : String} {field : RateField} {value : Number}
    {rate : { q : ℚ // 0 ≤ q }}
    : assertSane decimals id field value = .ok rate ↔ value = .finite rate := by
  unfold assertSane saneRate?
  cases value with
  | finite q =>
      by_cases nonneg : 0 ≤ q
      · simp only [nonneg, dif_pos, Except.ok.injEq, Number.finite.injEq]
        constructor
        · rintro rfl
          rfl
        · rintro rfl
          rfl
      · simp only [nonneg, dif_neg, not_false_iff, reduceCtorEq, Number.finite.injEq, false_iff]
        rintro rfl
        exact nonneg rate.2
  | infinity negative => simp
  | nan => simp

/-- Rates pass exactly where all of them are finite, none below zero and the 1-hour writes in order.
-/
theorem assertRateInvariants_eq_ok {id : String} {numbers : RateField → Number} {rate : Rate}
    : assertRateInvariants decimals id numbers = .ok rate
      ↔ ∀ field, numbers field = .finite (rateOf rate field) := by
  constructor
  · intro asserted
    obtain ⟨input, passed, asserted⟩ := Except.bind_eq_ok.mp asserted
    have inputRate := assertSane_eq_ok.mp passed
    obtain ⟨output, passed, asserted⟩ := Except.bind_eq_ok.mp asserted
    have outputRate := assertSane_eq_ok.mp passed
    obtain ⟨cacheRead, passed, asserted⟩ := Except.bind_eq_ok.mp asserted
    have cacheReadRate := assertSane_eq_ok.mp passed
    obtain ⟨cacheWrite, passed, asserted⟩ := Except.bind_eq_ok.mp asserted
    have cacheWriteRate := assertSane_eq_ok.mp passed
    obtain ⟨cacheWrite1h, passed, asserted⟩ := Except.bind_eq_ok.mp asserted
    have cacheWrite1hRate := assertSane_eq_ok.mp passed
    by_cases ordered : cacheWrite.1 ≤ cacheWrite1h.1
    · rw [dif_pos ordered] at asserted
      cases asserted
      intro field
      cases field <;> assumption
    · rw [dif_neg ordered] at asserted
      cases asserted
  · intro same
    have passed (field : RateField) (nonneg : 0 ≤ rateOf rate field)
        : assertSane decimals id field (numbers field) = .ok ⟨rateOf rate field, nonneg⟩ :=
      assertSane_eq_ok.mpr (same field)
    simp only [assertRateInvariants, passed .input rate.input_nonneg,
      passed .output rate.output_nonneg, passed .cacheRead rate.cacheRead_nonneg,
      passed .cacheWrite rate.cacheWrite_nonneg, passed .cacheWrite1h rate.cacheWrite1h_nonneg,
      bind, Except.bind]
    exact dif_pos (show rateOf rate .cacheWrite ≤ rateOf rate .cacheWrite1h from rate.cacheWrite_le)

end Load

-----------------------------------------------------------------------------------------
-- Scaling
-----------------------------------------------------------------------------------------

/-- The micro-dollars of a listed price, before they are rounded to whole ones. -/
def scaledPrice (q : ℚ) : ℚ := Binary64.round (q * 1000000)

/-- No listed price is scaled to infinity. -/
def RawEntry.InRange (entry : RawEntry) : Prop :=
  ∀ field q, entry.rates field = .finite q → scaledPrice q < 2 ^ 1024

/-- The rate of an entry: each of its prices, scaled and rounded. -/
def RawEntry.RatedAs (entry : RawEntry) (rate : Rate) : Prop :=
  ∀ field, ∃ q, entry.rates field = .finite q
    ∧ rateOf rate field = Binary64.mathRound (scaledPrice q)

theorem scaledRate_cases {entry : RawEntry} {field : RateField} {q : ℚ}
    (price : entry.rates field = .finite q) (nonneg : 0 ≤ q)
    : (scaledPrice q < 2 ^ 1024
        ∧ scaledRate entry field = .finite (Binary64.mathRound (scaledPrice q)))
      ∨ (2 ^ 1024 ≤ scaledPrice q ∧ scaledRate entry field = .infinity false) := by
  have product : Number.mul .binary64 (entry.rates field) (.ofInt 1000000)
      = Rounding.binary64.toNumber (q * 1000000) := by
    rw [price]
    rfl
  rcases Rounding.binary64_toNumber (q := q * 1000000) (by positivity)
    with ⟨finite, small⟩ | ⟨infinite, large⟩
  · refine Or.inl ⟨small, ?_⟩
    rw [scaledRate, product, finite]
    rfl
  · refine Or.inr ⟨large, ?_⟩
    rw [scaledRate, product, infinite]
    rfl

/-- Dearer prices have dearer rates. -/
theorem rounded_mono {p q : ℚ} (nonneg : 0 ≤ p) (le : p ≤ q)
    : (Binary64.mathRound (scaledPrice p) : ℚ) ≤ Binary64.mathRound (scaledPrice q) := by
  have scaled : scaledPrice p ≤ scaledPrice q :=
    Binary64.round_mono (by positivity) (mul_le_mul_of_nonneg_right le (by norm_num))
  exact_mod_cast Int.floor_le_floor (add_le_add_left scaled (1 / 2))

namespace RawEntry.Sane

variable {decimals : Decimals} {entry : RawEntry} (sane : entry.Sane) (id : String)

include sane

/-- The rates of an entry pass when none of its prices is out of range. -/
theorem rated_iff
    : (∃ rate, assertRateInvariants decimals id (scaledRate entry) = .ok rate) ↔ entry.InRange := by
  constructor
  · rintro ⟨rate, asserted⟩ field q price
    obtain ⟨p, same, nonneg⟩ := sane.finite field
    cases price.symm.trans same
    have finite := assertRateInvariants_eq_ok.mp asserted field
    rcases scaledRate_cases price nonneg with ⟨small, _⟩ | ⟨_, infinite⟩
    · exact small
    · cases finite.symm.trans infinite
  · intro within
    choose price same nonneg using sane.finite
    have rates (field : RateField)
        : scaledRate entry field = .finite (Binary64.mathRound (scaledPrice (price field))) := by
      rcases scaledRate_cases (same field) (nonneg field) with ⟨_, finite⟩ | ⟨large, _⟩
      · exact finite
      · exact absurd (within field _ (same field)) (not_lt.mpr large)
    have zero : (Binary64.mathRound (scaledPrice 0) : ℚ) = 0 := by
      norm_num [scaledPrice, Binary64.round, Binary64.roundHalfEven, Binary64.mathRound]
    have positive (field : RateField)
        : (0 : ℚ) ≤ Binary64.mathRound (scaledPrice (price field)) := by
      rw [← zero]
      exact rounded_mono le_rfl (nonneg field)
    have ordered : price .cacheWrite ≤ price .cacheWrite1h := by
      have order := sane.ordered
      rw [same, same] at order
      simpa [Number.lt] using order
    refine ⟨{
      input := Binary64.mathRound (scaledPrice (price .input))
      output := Binary64.mathRound (scaledPrice (price .output))
      cacheRead := Binary64.mathRound (scaledPrice (price .cacheRead))
      cacheWrite := Binary64.mathRound (scaledPrice (price .cacheWrite))
      cacheWrite1h := Binary64.mathRound (scaledPrice (price .cacheWrite1h))
      input_nonneg := positive .input
      output_nonneg := positive .output
      cacheRead_nonneg := positive .cacheRead
      cacheWrite_nonneg := positive .cacheWrite
      cacheWrite_le := rounded_mono (nonneg .cacheWrite) ordered
    }, assertRateInvariants_eq_ok.mpr fun field => ?_⟩
    rw [rates]
    cases field <;> rfl

theorem ratedAs {rate : Rate}
    (asserted : assertRateInvariants decimals id (scaledRate entry) = .ok rate)
    : entry.RatedAs rate := by
  intro field
  obtain ⟨q, price, nonneg⟩ := sane.finite field
  have finite := assertRateInvariants_eq_ok.mp asserted field
  refine ⟨q, price, ?_⟩
  rcases scaledRate_cases price nonneg with ⟨_, rounded⟩ | ⟨_, infinite⟩
  · exact Number.finite.inj (finite.symm.trans rounded)
  · cases finite.symm.trans infinite

end RawEntry.Sane

/-- What a step makes of each element in turn; by induction on the elements. -/
theorem mapM_eq_ok {α β ε : Type} {step : α → Except ε β} {inputs : List α} {outputs : List β}
    : inputs.mapM step = .ok outputs
      ↔ List.Forall₂ (fun input output => step input = .ok output) inputs outputs := by
  induction inputs generalizing outputs with
  | nil =>
      rw [List.mapM_nil, List.forall₂_nil_left_iff]
      constructor
      · intro done
        cases done
        rfl
      · rintro rfl
        rfl
  | cons first rest ih =>
      rw [List.mapM_cons, List.forall₂_cons_left_iff, Except.bind_eq_ok]
      constructor
      · rintro ⟨output, taken, mapped⟩
        obtain ⟨others, later, done⟩ := Except.bind_eq_ok.mp mapped
        cases done
        exact ⟨output, others, taken, ih.mp later, rfl⟩
      · rintro ⟨output, others, taken, later, rfl⟩
        refine ⟨output, taken, Except.bind_eq_ok.mpr ⟨others, ih.mpr later, rfl⟩⟩

/-- How an entry of the table comes from an entry of the file. -/
def Loaded (entry : String × RawEntry) (priced : String × PricedModel) : Prop :=
  priced.1 = entry.1 ∧ priced.2.provider = entry.2.provider ∧ entry.2.RatedAs priced.2.rate

/-- A table has the ids and the tags of its file; by induction on its entries. -/
theorem Loaded.entries {file : PriceFile} {table : List (String × PricedModel)}
    (loaded : List.Forall₂ Loaded file table) {id tag : String}
    : (∃ priced, (id, priced) ∈ table ∧ priced.provider = tag)
      ↔ ∃ entry, (id, entry) ∈ file ∧ entry.provider = tag := by
  induction loaded with
  | nil => simp
  | @cons entry priced rest others first _ ih =>
      obtain ⟨ids, tags, _⟩ := first
      constructor
      · rintro ⟨found, member, rfl⟩
        rcases List.mem_cons.mp member with rfl | later
        · exact ⟨entry.2, List.mem_cons.mpr (Or.inl (Prod.ext ids rfl)), tags.symm⟩
        · obtain ⟨other, among, same⟩ := ih.mp ⟨found, later, rfl⟩
          exact ⟨other, List.mem_cons_of_mem _ among, same⟩
      · rintro ⟨found, member, rfl⟩
        rcases List.mem_cons.mp member with rfl | later
        · exact ⟨priced.2, List.mem_cons.mpr (Or.inl (Prod.ext ids.symm rfl)), tags⟩
        · obtain ⟨other, among, same⟩ := ih.mpr ⟨found, later, rfl⟩
          exact ⟨other, List.mem_cons_of_mem _ among, same⟩

/-- A book has the ids of its file. -/
theorem ids_of_book {file : PriceFile} {table : List (String × PricedModel)} {book : PriceBook}
    (loaded : List.Forall₂ Loaded file table) (same : book.prices.Perm table) {id : String}
    : id ∈ book.prices.map Prod.fst ↔ id ∈ file.map Prod.fst := by
  rw [(same.map Prod.fst).mem_iff]
  constructor
  · intro member
    obtain ⟨⟨_, priced⟩, listed, rfl⟩ := List.mem_map.mp member
    obtain ⟨entry, present, _⟩ := (Loaded.entries loaded).mp ⟨priced, listed, rfl⟩
    exact List.mem_map_of_mem present
  · intro member
    obtain ⟨⟨_, entry⟩, present, rfl⟩ := List.mem_map.mp member
    obtain ⟨priced, listed, _⟩ := (Loaded.entries loaded).mpr ⟨entry, present, rfl⟩
    exact List.mem_map_of_mem listed

section File

variable {decimals : Decimals} {file : PriceFile} (once : (file.map Prod.fst).Nodup)
  (sane : ∀ entry ∈ file, entry.2.Sane)

include once

theorem loadPrices_eq
    : loadPrices decimals file = file.mapM (pricedModel decimals) := by
  have merged : mergeRawPrices [file] = .ok file := by
    rw [mergeRawPrices_eq_ok]
    simpa using once
  simp only [loadPrices, merged, bind, Except.bind]

include sane

/-- The table of a file has its entries, in the file's order. -/
theorem loadPrices_loaded {table : List (String × PricedModel)}
    (loads : loadPrices decimals file = .ok table)
    : List.Forall₂ Loaded file table := by
  rw [loadPrices_eq once] at loads
  have entries := mapM_eq_ok.mp loads
  rw [List.forall₂_iff_get] at entries ⊢
  refine ⟨entries.1, fun i within within' => ?_⟩
  obtain ⟨rate, asserted, built⟩ := Except.bind_eq_ok.mp (entries.2 i within within')
  rw [← Except.ok.inj built]
  exact ⟨rfl, rfl, (sane _ (List.get_mem _ _)).ratedAs _ asserted⟩

/-- A file loads exactly where none of its prices is out of range. -/
theorem loadPrices_iff
    : (∃ table, loadPrices decimals file = .ok table) ↔ ∀ entry ∈ file, entry.2.InRange := by
  rw [loadPrices_eq once]
  have each (entry : String × RawEntry) (member : entry ∈ file)
      : (∃ priced, pricedModel decimals entry = .ok priced) ↔ entry.2.InRange := by
    rw [← (sane entry member).rated_iff entry.1]
    constructor
    · rintro ⟨priced, built⟩
      obtain ⟨rate, asserted, _⟩ := Except.bind_eq_ok.mp built
      exact ⟨rate, asserted⟩
    · rintro ⟨rate, asserted⟩
      exact ⟨_, Except.bind_eq_ok.mpr ⟨rate, asserted, rfl⟩⟩
  clear once sane
  induction file with
  | nil => exact ⟨fun _ => by simp, fun _ => ⟨[], rfl⟩⟩
  | cons entry rest ih =>
      have later := ih fun other member => each other (List.mem_cons_of_mem _ member)
      rw [List.forall_mem_cons]
      constructor
      · rintro ⟨table, loads⟩
        obtain ⟨priced, others, built, mapped, rfl⟩ :=
          List.forall₂_cons_left_iff.mp (mapM_eq_ok.mp loads)
        exact ⟨(each entry List.mem_cons_self).mp ⟨priced, built⟩,
          later.mp ⟨others, mapM_eq_ok.mpr mapped⟩⟩
      · rintro ⟨first, others⟩
        obtain ⟨priced, built⟩ := (each entry List.mem_cons_self).mpr first
        obtain ⟨others, mapped⟩ := later.mpr others
        exact ⟨priced :: others, mapM_eq_ok.mpr (.cons built (mapM_eq_ok.mp mapped))⟩

end File

-----------------------------------------------------------------------------------------
-- Off the card
-----------------------------------------------------------------------------------------

/-- A dated suffix has digits and dashes only. -/
theorem datedSuffix_chars {suffix : List Char} (dated : PriceBook.datedSuffix suffix = true)
    : ∀ c ∈ suffix, c = '-' ∨ c.isDigit := by
  simp only [PriceBook.datedSuffix, decide_eq_true_eq, List.all_eq_true] at dated
  intro c member
  rcases dated with ⟨_, digits⟩ | ⟨_, dashed⟩
  · exact Or.inr (digits c member)
  · obtain ⟨i, within, found⟩ := List.mem_iff_getElem.mp member
    have place := dashed (suffix[i], i) (by simp [List.mk_mem_zipIdx_iff_getElem?, within])
    rw [found] at place
    split at place
    · exact Or.inl (of_decide_eq_true place)
    · exact Or.inr place

/-- A text that ends in a letter is not found where a dated suffix is. -/
theorem infix_of_dated {marker id model : List Char} {last : Char} {front : List Char}
    (ends : marker = front ++ [last]) (letter : last ≠ '-' ∧ last.isDigit = false)
    {suffix : List Char} (whole : model = id ++ '-' :: suffix)
    (dated : PriceBook.datedSuffix suffix = true) (found : marker <:+: model)
    : marker <:+: id := by
  obtain ⟨before, after, split⟩ := found
  rw [whole] at split
  rcases List.append_eq_append_iff.mp split with ⟨rest, inside, _⟩ | ⟨rest, inside, tail⟩
  · exact ⟨before, rest, inside.symm⟩
  · rcases List.eq_nil_or_concat rest with rfl | ⟨start, final, rfl⟩
    · exact ⟨before, [], by simpa using inside⟩
    · have same : (before ++ front) ++ [last] = (id ++ start) ++ [final] := by
        rw [ends] at inside
        simpa using inside
      have final_eq : last = final := List.singleton_inj.mp (List.append_inj' same rfl).2
      have among : final ∈ '-' :: suffix := by
        rw [tail]
        simp
      rcases List.mem_cons.mp among with dash | later
      · exact absurd (final_eq.trans dash) letter.1
      · rcases datedSuffix_chars dated final later with dash | digit
        · exact absurd (final_eq.trans dash) letter.1
        · rw [← final_eq, letter.2] at digit
          cases digit

/-- Every marker ends in a letter. -/
theorem marker_ends : ∀ marker ∈ offCardModelMarkers,
    ∃ front last, marker.toList = front ++ [last] ∧ last ≠ '-' ∧ last.isDigit = false := by
  intro marker member
  simp only [offCardModelMarkers, List.mem_cons, List.not_mem_nil, or_false] at member
  rcases member with rfl | rfl | rfl | rfl
  · exact ⟨"deep-researc".toList, 'h', by decide⟩
  · exact ⟨"searc".toList, 'h', by decide⟩
  · exact ⟨"audi".toList, 'o', by decide⟩
  · exact ⟨"realtim".toList, 'e', by decide⟩

/-- A dated form of a model is off the card only where the model is. -/
theorem offCard_of_dated {id model : String} (dated : DatedBase id model)
    (marked : isOffCardModel model = true)
    : isOffCardModel id = true := by
  obtain ⟨suffix, whole, suffixDated⟩ := dated
  obtain ⟨marker, member, found⟩ := List.any_eq_true.mp marked
  obtain ⟨front, last, ends, letter⟩ := marker_ends marker member
  refine List.any_eq_true.mpr ⟨marker, member, decide_eq_true ?_⟩
  exact infix_of_dated ends letter whole suffixDated (of_decide_eq_true found)

/-- The book of a file without off-card ids prices no off-card model. -/
theorem findModel_onCard {file : PriceFile} {table : List (String × PricedModel)} {book : PriceBook}
    (loaded : List.Forall₂ Loaded file table) (same : book.prices.Perm table)
    (onCard : ∀ entry ∈ file, isOffCardModel entry.1 = false) {model : String}
    (priced : (book.findModel model).isSome)
    : isOffCardModel model = false := by
  have listedOnCard {id : String} {found : PricedModel} (listed : (id, found) ∈ book.prices)
      : isOffCardModel id = false := by
    obtain ⟨entry, present, rfl⟩ :=
      List.mem_map.mp ((ids_of_book loaded same).mp (List.mem_map_of_mem listed))
    exact onCard entry present
  obtain ⟨found, hit⟩ := Option.isSome_iff_exists.mp priced
  rw [findModel_eq, findPriced_eq_some_iff book.ids_nodup] at hit
  cases hit with
  | exact _ listed => exact listedOnCard listed
  | dated id _ listed base _ =>
      by_contra marked
      have off := offCard_of_dated base (Bool.not_eq_false _ ▸ marked)
      rw [listedOnCard listed] at off
      cases off

-----------------------------------------------------------------------------------------
-- From the catalogue to the book
-----------------------------------------------------------------------------------------

/-- A selected model is on the card. -/
theorem selected_onCard {decimals : Decimals} {provider : SyncedProvider} {model : String × Json}
    (picked : selected decimals provider model = .ok true)
    : isOffCardModel model.1 = false := by
  unfold selected at picked
  by_cases retired : model.1 ∈ provider.retired
  · rw [if_pos retired] at picked
    cases picked
  · rw [if_neg retired] at picked
    obtain ⟨billable, _, picked⟩ := Except.bind_eq_ok.mp picked
    cases billable with
    | false => cases picked
    | true => simpa [pure, Except.pure] using picked

/-- What a completed sync has written. -/
structure SyncedFile (decimals : Decimals) (data : Json) (file : PriceFile) : Prop where
  once : (file.map Prod.fst).Nodup
  members
    : ∀ id entry, (id, entry) ∈ file ↔ Catalogued decimals (catalogueListing data) id entry
  decided : ∀ listing ∈ catalogueListing data, Decided decimals listing
  sane : ∀ entry ∈ file, entry.2.Sane
  onCard : ∀ entry ∈ file, isOffCardModel entry.1 = false
  tagged : ∀ entry ∈ file, entry.2.provider ∈ syncedProviders.map SyncedProvider.name

theorem syncedFile {decimals : Decimals} {listed : PriceFile → PriceFile}
    (reorders : ∀ file, (listed file).Perm file) {data : Json} {file : PriceFile}
    (synced : syncPrices decimals listed data = .ok file)
    : SyncedFile decimals data file := by
  obtain ⟨once, members, decided⟩ := syncPrices_file reorders synced
  refine ⟨once, members, decided, ?_, ?_, ?_⟩
  · rintro ⟨id, entry⟩ member
    obtain ⟨_, _, _, _, priced⟩ := (members id entry).mp member
    exact priced.sane
  · rintro ⟨id, entry⟩ member
    obtain ⟨_, _, _, picked, _⟩ := (members id entry).mp member
    exact selected_onCard picked
  · rintro ⟨id, entry⟩ member
    obtain ⟨provider, _, listing, _, priced⟩ := (members id entry).mp member
    obtain ⟨own, known, model⟩ := List.mem_flatMap.mp listing
    obtain ⟨_, _, pair⟩ := List.mem_map.mp model
    cases pair
    rw [priced.owner]
    exact List.mem_map_of_mem known

/-- What a completed sync has written, and what the proxy makes of it. The file has the models that
are selected under some provider, each once and under one provider, with the catalogue's prices or
their defaults, all finite and in order; it loads exactly where no price is out of range, as a table
of the same models and providers whose rates are the prices, scaled and rounded; and a book of that
table prices no model off the card, under any dated form of its ids, so that the tag alone says
which provider owns a model.
-/
theorem price_sync_exact (decimals : Decimals) {listed : PriceFile → PriceFile}
    (reorders : ∀ file, (listed file).Perm file) {data : Json} {file : PriceFile}
    (synced : syncPrices decimals listed data = .ok file)
    : (file.map Prod.fst).Nodup
      ∧ (∀ id entry, (id, entry) ∈ file ↔ Catalogued decimals (catalogueListing data) id entry)
      ∧ (∀ provider id model, (provider, id, model) ∈ catalogueListing data
          → selected decimals provider (id, model) = .ok true
          → ∃ entry, (id, entry) ∈ file ∧ Priced decimals provider (modelCost model) entry
              ∧ ∀ other, (id, other) ∈ file → other.provider = provider.name)
      ∧ (∀ entry ∈ file, entry.2.Sane)
      ∧ ((∃ table, loadPrices decimals file = .ok table) ↔ ∀ entry ∈ file, entry.2.InRange)
      ∧ ∀ table, loadPrices decimals file = .ok table →
          List.Forall₂ Loaded file table
          ∧ ∀ book : PriceBook, book.prices.Perm table → ∀ model,
              ((book.findModel model).isSome → isOffCardModel model = false)
              ∧ ∀ tag, ownsCardModel book tag model ↔ book.providerOf model = some tag := by
  obtain ⟨once, members, decided, sane, onCard, _⟩ := syncedFile reorders synced
  refine ⟨once, members, ?_, sane, loadPrices_iff once sane, ?_⟩
  · intro provider id model member picked
    rcases decided _ member with skipped | ⟨_, entry, priced⟩
    · cases skipped.symm.trans picked
    · have written : (id, entry) ∈ file := (members id entry).mpr ⟨_, _, member, picked, priced⟩
      refine ⟨entry, written, priced, fun other present => ?_⟩
      have same := List.inj_on_of_nodup_map once present written rfl
      rw [(Prod.mk.inj same).2, priced.owner]
  · intro table loads
    have loaded := loadPrices_loaded once sane loads
    refine ⟨loaded, fun book same model => ?_⟩
    refine ⟨findModel_onCard loaded same onCard, fun tag => ?_⟩
    simp only [ownsCardModel, decide_eq_true_eq, and_iff_left_iff_imp]
    intro tagged
    have priced : (book.findModel model).isSome := by
      obtain ⟨_, hit, _⟩ := Option.map_eq_some_iff.mp tagged
      rw [hit]
      rfl
    simp [findModel_onCard loaded same onCard priced]

section Example

def blankDecimals : Decimals := ⟨fun _ => "", fun _ => .nan⟩

def exampleModel (cost : List (String × Json)) : Json :=
  .object
    [("cost", .object cost), ("modalities", .object [("output", .array [.string "text"])])]

/-- A retired model, two that are priced, one that searches, and one that costs nothing to run. -/
def exampleCatalogue : Json :=
  let haiku := exampleModel
    [("input", .number (.ofInt 1)), ("output", .number (.ofInt 5)),
      ("cache_write", .number (.finite (5 / 4)))]
  let oss := exampleModel [("input", .number (.ofInt 1)), ("output", .number (.ofInt 2))]
  let embed := exampleModel [("input", .number (.ofInt 1)), ("output", .number (.ofInt 0))]
  .object
    [("anthropic", .object
        [("models", .object [("claude-opus-4-0", haiku), ("claude-haiku-4-5", haiku)])]),
      ("openai", .object [("models", .object [("gpt-4o-search-preview", oss)])]),
      ("tinfoil", .object [("models", .object [("gpt-oss-120b", oss), ("embed", embed)])])]

/-- The example's two priced models get into the file and the table, which price nothing off the
card.
-/
theorem price_sync_exact_catalogue
    : ∃ file table, syncPrices blankDecimals id exampleCatalogue = .ok file
        ∧ file.map Prod.fst = ["claude-haiku-4-5", "gpt-oss-120b"]
        ∧ loadPrices blankDecimals file = .ok table
        ∧ List.Forall₂ Loaded file table
        ∧ ∀ entry ∈ file, entry.2.InRange := by
  have evaluated
      : (match syncPrices blankDecimals id exampleCatalogue with
          | .ok file =>
              match loadPrices blankDecimals file with
              | .ok table => some (file.map Prod.fst, table.map Prod.fst)
              | .error _ => none
          | .error _ => none)
        = some (["claude-haiku-4-5", "gpt-oss-120b"], ["claude-haiku-4-5", "gpt-oss-120b"]) := by
    decide +kernel
  cases synced : syncPrices blankDecimals id exampleCatalogue with
  | error thrown =>
      rw [synced] at evaluated
      cases evaluated
  | ok file =>
      rw [synced] at evaluated
      cases loads : loadPrices blankDecimals file with
      | error thrown =>
          simp only [loads] at evaluated
          cases evaluated
      | ok table =>
          simp only [loads, Option.some.injEq, Prod.mk.injEq] at evaluated
          obtain ⟨_, _, _, _, loadable, loaded⟩ :=
            price_sync_exact blankDecimals (fun file => .refl file) synced
          exact ⟨file, table, rfl, evaluated.1, loads, (loaded table loads).1,
            loadable.mp ⟨table, loads⟩⟩

end Example

end Nullsink.Pricing
