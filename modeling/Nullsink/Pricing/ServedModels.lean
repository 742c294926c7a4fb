import Mathlib.Data.List.Lex
import Nullsink.Pricing.SyncExactness

/-! The models that one price file makes the service show: the listing of `GET /v1/models`, the gate
of the metered paths and the snapshot of the client's models page.
-/

namespace Nullsink.Pricing

open Ecma Proxy

-----------------------------------------------------------------------------------------
-- The listing
-----------------------------------------------------------------------------------------

/-- What `<` compares of a string. -/
def unitValues (text : String) : List ℕ := (codeUnits text).map BitVec.toNat

/-- A model of the listing, with its prices as the file has them. -/
structure ModelListing where
  id : String
  provider : String
  input : Number
  output : Number
  cacheRead : Number
  cacheWrite : Number

/-- What the listing says of an entry. -/
def modelListing (entry : String × RawEntry) : ModelListing where
  id := entry.1
  provider := entry.2.provider
  input := entry.2.rates .input
  output := entry.2.rates .output
  cacheRead := entry.2.rates .cacheRead
  cacheWrite := entry.2.rates .cacheWrite

/-- The price book, sorted by id. -/
def pricedModels (file : PriceFile) : List ModelListing :=
  (file.map modelListing).insertionSort (fun a b => unitValues a.id ≤ unitValues b.id)

instance : Std.Total (fun a b : ModelListing => unitValues a.id ≤ unitValues b.id) :=
  ⟨fun a b => le_total (unitValues a.id) (unitValues b.id)⟩

instance : IsTrans ModelListing (fun a b => unitValues a.id ≤ unitValues b.id) :=
  ⟨fun _ _ _ first second => le_trans first second⟩

/-- `SERVED_MODELS`: the priced models that an active provider owns. -/
def servedModels (js : Runtime) (book : PriceBook) (cfg : ProvidersConfig) (file : PriceFile)
    : List ModelListing :=
  (pricedModels file).filter (fun m =>
    (activeProviders js book cfg).any (fun provider => provider.ownsModel m.id))

-----------------------------------------------------------------------------------------
-- The models page
-----------------------------------------------------------------------------------------

/-- `DATED.exec(id)?.index`. -/
def datedIndex (id : String) : Option ℕ :=
  (List.range id.toList.length).find? (fun i =>
    id.toList[i]? = some '-' ∧ PriceBook.datedSuffix (id.toList.drop (i + 1)))

/-- Whether an id is a priced model under a date. -/
def isDatedAlias (priced : List String) (id : String) : Bool :=
  (datedIndex id).any (fun i => String.ofList (id.toList.take i) ∈ priced)

/-- A provider's models on the page. -/
structure PageGroup where
  id : String
  label : String
  models : List String

/-- `PROVIDERS` of the client's sync. -/
def pageProviders : List (String × String) :=
  [("anthropic", "Anthropic"), ("openai", "OpenAI"), ("tinfoil", "Tinfoil")]

/-- The snapshot of the models page. `ordered` is the order of a provider's models. -/
def syncModels (ordered : String → List String → List String) (file : PriceFile)
    : List PageGroup :=
  let ids := file.map Prod.fst
  (pageProviders.map fun provider =>
      {
        id := provider.1
        label := provider.2
        models :=
          ordered provider.1
            ((file.filter (fun entry => entry.2.provider = provider.1)).map Prod.fst
              |>.filter (fun id => ¬isDatedAlias ids id))
      }).filter
    (fun group => group.models ≠ [])

/-- The page shows a model. -/
def Shown (page : List PageGroup) (id : String) : Prop :=
  ∃ group ∈ page, id ∈ group.models

-----------------------------------------------------------------------------------------
-- Dated aliases
-----------------------------------------------------------------------------------------

/-- A model that is an id with dates after it, one at least or none. -/
inductive Redated (id : String) : String → Prop
  | same : Redated id id
  | dated {base model : String} (below : Redated id base) (dated : DatedBase base model)
    : Redated id model

/-- What is before an index of a date is a dated base. -/
theorem datedBase_of_index {id : String} {i : ℕ} (dash : id.toList[i]? = some '-')
    (dated : PriceBook.datedSuffix (id.toList.drop (i + 1)) = true)
    : DatedBase (String.ofList (id.toList.take i)) id := by
  refine ⟨id.toList.drop (i + 1), ?_, dated⟩
  obtain ⟨within, found⟩ := List.getElem?_eq_some_iff.mp dash
  rw [String.toList_ofList, ← found, ← List.drop_eq_getElem_cons within, List.take_append_drop]

theorem datedIndex_base {id : String} {i : ℕ} (found : datedIndex id = some i)
    : DatedBase (String.ofList (id.toList.take i)) id := by
  have holds := List.find?_some found
  rw [decide_eq_true_eq] at holds
  exact datedBase_of_index holds.1 holds.2

/-- The aliases are the ids with a priced base. -/
theorem isDatedAlias_iff {priced : List String} {id : String}
    : isDatedAlias priced id ↔ ∃ base ∈ priced, DatedBase base id := by
  unfold isDatedAlias
  rw [Option.any_eq_true]
  constructor
  · rintro ⟨i, found, listed⟩
    exact ⟨_, of_decide_eq_true listed, datedIndex_base found⟩
  · rintro ⟨base, listed, suffix, whole, dated⟩
    have place : id.toList[base.toList.length]? = some '-' := by simp [whole]
    have rest : id.toList.drop (base.toList.length + 1) = suffix := by simp [whole]
    cases found : datedIndex id with
    | none =>
        have absent := List.find?_eq_none.mp found base.toList.length (by simp [whole])
        rw [decide_eq_true_eq] at absent
        exact (absent ⟨place, rest ▸ dated⟩).elim
    | some i =>
        have same := (datedIndex_base found).unique ⟨suffix, whole, dated⟩
        exact ⟨i, rfl, decide_eq_true (same ▸ listed)⟩

section Page

variable {ordered : String → List String → List String}
  (reorders : ∀ provider ids, (ordered provider ids).Perm ids) {file : PriceFile}

include reorders

/-- The page shows the ids of its providers that are no dated aliases. -/
theorem shown_iff {id : String}
    : Shown (syncModels ordered file) id
      ↔ (∃ entry, (id, entry) ∈ file ∧ entry.provider ∈ pageProviders.map Prod.fst)
        ∧ ¬∃ base ∈ file.map Prod.fst, DatedBase base id := by
  rw [← isDatedAlias_iff]
  constructor
  · rintro ⟨group, member, listed⟩
    obtain ⟨provider, known, rfl⟩ := List.mem_map.mp (List.mem_of_mem_filter member)
    have own := (reorders provider.1 _).mem_iff.mp listed
    obtain ⟨among, undated⟩ := List.mem_filter.mp own
    obtain ⟨⟨_, entry⟩, present, rfl⟩ := List.mem_map.mp among
    obtain ⟨inside, tag⟩ := List.mem_filter.mp present
    refine ⟨⟨entry, inside, ?_⟩, of_decide_eq_true undated⟩
    rw [of_decide_eq_true tag]
    exact List.mem_map_of_mem known
  · rintro ⟨⟨entry, inside, tagged⟩, undated⟩
    obtain ⟨provider, known, tag⟩ := List.mem_map.mp tagged
    have shown : id ∈ ordered provider.1
        (((file.filter (fun entry => entry.2.provider = provider.1)).map Prod.fst).filter
          (fun id => ¬isDatedAlias (file.map Prod.fst) id)) := by
      rw [(reorders provider.1 _).mem_iff, List.mem_filter]
      refine ⟨List.mem_map.mpr ⟨(id, entry), ?_, rfl⟩, decide_eq_true undated⟩
      exact List.mem_filter.mpr ⟨inside, decide_eq_true tag.symm⟩
    exact ⟨_, List.mem_filter.mpr ⟨List.mem_map_of_mem known,
      decide_eq_true (List.ne_nil_of_mem shown)⟩, shown⟩

/-- Every id of the page's providers is an id that is shown, with dates after it; by induction on
the length of the id.
-/
theorem redated_of_file (tagged : ∀ entry ∈ file, entry.2.provider ∈ pageProviders.map Prod.fst)
    {id : String} (listed : id ∈ file.map Prod.fst)
    : ∃ root, Shown (syncModels ordered file) root ∧ Redated root id := by
  induction length : Json.stringLength id using Nat.strong_induction_on generalizing id with
  | _ n ih =>
      by_cases redated : ∃ base ∈ file.map Prod.fst, DatedBase base id
      · obtain ⟨base, known, dated⟩ := redated
        obtain ⟨root, shown, below⟩ := ih _ (length ▸ dated.shorter) known rfl
        exact ⟨root, shown, .dated below dated⟩
      · obtain ⟨entry, member, rfl⟩ := List.mem_map.mp listed
        have shown := (shown_iff reorders).mpr ⟨⟨entry.2, member, tagged _ member⟩, redated⟩
        exact ⟨entry.1, shown, .same⟩

end Page

-----------------------------------------------------------------------------------------
-- The gate
-----------------------------------------------------------------------------------------

section Gate

variable {file : PriceFile} {table : List (String × PricedModel)} {book : PriceBook}
  (loaded : List.Forall₂ Loaded file table) (same : book.prices.Perm table)

include loaded same

/-- A model is priced under the tag of its own entry, or of its dated base's where it has none. -/
theorem providerOf_iff {model tag : String}
    : book.providerOf model = some tag
      ↔ ∃ id entry, (id, entry) ∈ file ∧ entry.provider = tag
          ∧ (model = id ∨ (DatedBase id model ∧ model ∉ file.map Prod.fst)) := by
  rw [PriceBook.providerOf, Option.map_eq_some_iff]
  constructor
  · rintro ⟨found, hit, rfl⟩
    rw [findModel_eq, findPriced_eq_some_iff book.ids_nodup] at hit
    cases hit with
    | exact _ listed =>
        obtain ⟨entry, present, tag⟩ :=
          (Loaded.entries loaded).mp ⟨found, same.mem_iff.mp listed, rfl⟩
        exact ⟨model, entry, present, tag, Or.inl rfl⟩
    | dated id _ listed base unlisted =>
        obtain ⟨entry, present, tag⟩ :=
          (Loaded.entries loaded).mp ⟨found, same.mem_iff.mp listed, rfl⟩
        exact ⟨id, entry, present, tag, Or.inr ⟨base, mt (ids_of_book loaded same).mpr unlisted⟩⟩
  · rintro ⟨id, entry, present, rfl, named⟩
    obtain ⟨priced, listed, tag⟩ := (Loaded.entries loaded).mpr ⟨entry, present, rfl⟩
    refine ⟨priced, ?_, tag⟩
    rw [findModel_eq, findPriced_eq_some_iff book.ids_nodup]
    rcases named with rfl | ⟨base, unlisted⟩
    · exact .exact _ (same.mem_iff.mpr listed)
    · exact .dated id _ (same.mem_iff.mpr listed) base (mt (ids_of_book loaded same).mp unlisted)

variable (onCard : ∀ entry ∈ file, isOffCardModel entry.1 = false)

include onCard

/-- A provider owns exactly the models that are priced under its tag. -/
theorem owns_iff {js : Runtime} {provider : Provider book} (made : MadeProvider js book provider)
    {model : String}
    : provider.ownsModel model ↔ book.providerOf model = some provider.id := by
  refine ⟨made.tagged, fun tagged => ?_⟩
  have card : isOffCardModel model = false := by
    refine findModel_onCard loaded same onCard ?_
    obtain ⟨_, hit, _⟩ := Option.map_eq_some_iff.mp tagged
    rw [hit]
    rfl
  cases made with
  | anthropic estimator => exact decide_eq_true tagged
  | openaiChat estimator => exact decide_eq_true ⟨tagged, by simp [card]⟩
  | openaiResponses estimator => exact decide_eq_true ⟨tagged, by simp [card]⟩
  | tinfoil estimator => exact decide_eq_true ⟨tagged, by simp [card]⟩

/-- The listing has the entries of the active providers. -/
theorem mem_servedModels {js : Runtime} {cfg : ProvidersConfig} (once : (file.map Prod.fst).Nodup)
    {m : ModelListing}
    : m ∈ servedModels js book cfg file
      ↔ ∃ entry ∈ file, m = modelListing entry
          ∧ ∃ provider ∈ activeProviders js book cfg, provider.id = entry.2.provider := by
  have own {entry : String × RawEntry} (present : entry ∈ file) {tag : String}
      : book.providerOf entry.1 = some tag ↔ tag = entry.2.provider := by
    rw [providerOf_iff loaded same]
    constructor
    · rintro ⟨id, other, member, rfl, rfl | ⟨_, unlisted⟩⟩
      · have twin := List.inj_on_of_nodup_map once member present rfl
        rw [← twin]
      · exact (unlisted (List.mem_map_of_mem present)).elim
    · rintro rfl
      exact ⟨entry.1, entry.2, present, rfl, Or.inl rfl⟩
  rw [servedModels, List.mem_filter, pricedModels, List.mem_insertionSort, List.mem_map,
    List.any_eq_true]
  constructor
  · rintro ⟨⟨entry, present, rfl⟩, provider, active, owned⟩
    have tagged := (owns_iff loaded same onCard (madeProvider_of_active active)).mp owned
    exact ⟨entry, present, rfl, provider, active, (own present).mp tagged⟩
  · rintro ⟨entry, present, rfl, provider, active, tag⟩
    refine ⟨⟨entry, present, rfl⟩, provider, active, ?_⟩
    exact (owns_iff loaded same onCard (madeProvider_of_active active)).mpr ((own present).mpr tag)

/-- The gate lets pass what the listing shows, and what it shows the dated base of. -/
theorem gate_iff {js : Runtime} {cfg : ProvidersConfig} (once : (file.map Prod.fst).Nodup)
    {model : String}
    : (∃ provider ∈ activeProviders js book cfg, provider.ownsModel model)
      ↔ ∃ m ∈ servedModels js book cfg file,
          model = m.id ∨ (DatedBase m.id model ∧ model ∉ file.map Prod.fst) := by
  constructor
  · rintro ⟨provider, active, owned⟩
    have tagged := (owns_iff loaded same onCard (madeProvider_of_active active)).mp owned
    obtain ⟨id, entry, present, tag, named⟩ := (providerOf_iff loaded same).mp tagged
    refine ⟨modelListing (id, entry), (mem_servedModels loaded same onCard once).mpr ?_, named⟩
    exact ⟨_, present, rfl, provider, active, tag.symm⟩
  · rintro ⟨m, listed, named⟩
    obtain ⟨entry, present, rfl, provider, active, tag⟩ :=
      (mem_servedModels loaded same onCard once).mp listed
    refine ⟨provider, active, ?_⟩
    rw [owns_iff loaded same onCard (madeProvider_of_active active), providerOf_iff loaded same]
    exact ⟨entry.1, entry.2, present, tag.symm, named⟩

end Gate

-----------------------------------------------------------------------------------------
-- One file, three views
-----------------------------------------------------------------------------------------

/-- What the service shows of a synced price file. The listing has, sorted by id, the entries of the
active providers; the gate of the metered paths lets a model pass if and only if the listing shows
it, or shows the dated base of a model that has no entry of its own; and the models page shows the
ids that are no dated form of another one, under dates of which every priced model is found.
-/
theorem served_models_exact (decimals : Decimals) {listed : PriceFile → PriceFile}
    (reorders : ∀ file, (listed file).Perm file) {data : Json} {file : PriceFile}
    (synced : syncPrices decimals listed data = .ok file) {table : List (String × PricedModel)}
    (loads : loadPrices decimals file = .ok table) {book : PriceBook}
    (same : book.prices.Perm table) (js : Runtime) (cfg : ProvidersConfig)
    {ordered : String → List String → List String}
    (reordersPage : ∀ provider ids, (ordered provider ids).Perm ids)
    : let served := servedModels js book cfg file
      let page := syncModels ordered file
      ((served.map ModelListing.id).Nodup
          ∧ served.Pairwise (fun a b => unitValues a.id ≤ unitValues b.id))
      ∧ (∀ m, m ∈ served
          ↔ ∃ entry ∈ file, m = modelListing entry
              ∧ ∃ provider ∈ activeProviders js book cfg, provider.id = entry.2.provider)
      ∧ (∀ model, (∃ provider ∈ activeProviders js book cfg, provider.ownsModel model)
          ↔ ∃ m ∈ served, model = m.id ∨ (DatedBase m.id model ∧ model ∉ file.map Prod.fst))
      ∧ (∀ id, Shown page id
          ↔ id ∈ file.map Prod.fst ∧ ¬∃ base ∈ file.map Prod.fst, DatedBase base id)
      ∧ ∀ model, (book.findModel model).isSome → ∃ root, Shown page root ∧ Redated root model := by
  obtain ⟨once, _, _, sane, onCard, synced⟩ := syncedFile reorders synced
  have tagged : ∀ entry ∈ file, entry.2.provider ∈ pageProviders.map Prod.fst := synced
  have loaded := loadPrices_loaded once sane loads
  refine ⟨⟨?_, ?_⟩, ?_, ?_, ?_, ?_⟩
  · have ids : ((pricedModels file).map ModelListing.id).Perm (file.map Prod.fst) := by
      have sorted := (List.perm_insertionSort
        (fun a b => unitValues a.id ≤ unitValues b.id) (file.map modelListing)).map ModelListing.id
      rw [List.map_map] at sorted
      exact sorted
    exact (List.filter_sublist.map ModelListing.id).nodup (ids.nodup_iff.mpr once)
  · exact (List.pairwise_insertionSort _ _).filter _
  · exact fun m => mem_servedModels loaded same onCard once
  · exact fun model => gate_iff loaded same onCard once
  · intro id
    rw [shown_iff reordersPage]
    refine and_congr_left fun _ => ⟨?_, ?_⟩
    · rintro ⟨entry, member, _⟩
      exact List.mem_map_of_mem member
    · intro member
      obtain ⟨entry, present, rfl⟩ := List.mem_map.mp member
      exact ⟨entry.2, present, tagged entry present⟩
  · intro model priced
    obtain ⟨found, hit⟩ := Option.isSome_iff_exists.mp priced
    have tag : book.providerOf model = some found.provider := by
      rw [PriceBook.providerOf, hit]
      rfl
    obtain ⟨id, entry, present, _, named⟩ := (providerOf_iff loaded same).mp tag
    obtain ⟨root, shown, below⟩ :=
      redated_of_file reordersPage tagged (List.mem_map_of_mem present)
    rcases named with rfl | ⟨base, _⟩
    · exact ⟨root, shown, below⟩
    · exact ⟨root, shown, .dated below base⟩

section Example

/-- An instance with an Anthropic key only. -/
def exampleProviders : ProvidersConfig := ⟨some .countTokensHold, none, none⟩

/-- The example's instance serves a dated form of the model it lists, and not the model of a
provider without a key, which the models page shows.
-/
theorem served_models_exact_catalogue
    : ∃ file table, ∃ book : PriceBook, syncPrices blankDecimals id exampleCatalogue = .ok file
        ∧ loadPrices blankDecimals file = .ok table
        ∧ book.prices = table
        ∧ (∃ provider ∈ activeProviders exampleJs book exampleProviders,
            provider.ownsModel "claude-haiku-4-5-20251001")
        ∧ (¬∃ provider ∈ activeProviders exampleJs book exampleProviders,
            provider.ownsModel "gpt-oss-120b")
        ∧ ∃ root,
            Shown (syncModels (fun _ ids => ids) file) root ∧ Redated root "gpt-oss-120b" := by
  have evaluated
      : (match syncPrices blankDecimals id exampleCatalogue with
          | .ok file =>
              match loadPrices blankDecimals file with
              | .ok table =>
                  some (file.map (fun entry => (entry.1, entry.2.provider)), table.map Prod.fst)
              | .error _ => none
          | .error _ => none)
        = some ([("claude-haiku-4-5", "anthropic"), ("gpt-oss-120b", "tinfoil")],
            ["claude-haiku-4-5", "gpt-oss-120b"]) := by
    decide +kernel
  cases synced : syncPrices blankDecimals id exampleCatalogue with
  | error thrown =>
      rw [synced] at evaluated
      cases evaluated
  | ok file =>
      rw [synced] at evaluated
      cases loads : loadPrices blankDecimals file with
      | error thrown =>
          simp only [loads] at evaluated
          cases evaluated
      | ok table =>
          simp only [loads, Option.some.injEq, Prod.mk.injEq] at evaluated
          obtain ⟨tags, ids⟩ := evaluated
          have named : ∀ entry ∈ table, entry.1 ≠ "" := by
            intro entry member
            have known : entry.1 ∈ table.map Prod.fst := List.mem_map_of_mem member
            rw [ids] at known
            rintro empty
            simp [empty] at known
          let book : PriceBook := ⟨table, by rw [ids]; decide, named⟩
          obtain ⟨_, listing, gate, _, page⟩ :=
            served_models_exact blankDecimals (fun file => .refl file) synced loads
              (List.Perm.refl book.prices) exampleJs exampleProviders
              (fun _ ids => List.Perm.refl ids)
          have fileIds : file.map Prod.fst = ["claude-haiku-4-5", "gpt-oss-120b"] := by
            have fronts := congrArg (List.map Prod.fst) tags
            rw [List.map_map] at fronts
            exact fronts
          refine ⟨file, table, book, rfl, loads, rfl, (gate _).mpr ?_, fun served => ?_, page _ ?_⟩
          · have present : ("claude-haiku-4-5", "anthropic")
                ∈ file.map (fun entry => (entry.1, entry.2.provider)) := by
              rw [tags]
              simp
            obtain ⟨entry, member, own⟩ := List.mem_map.mp present
            obtain ⟨id, tag⟩ := Prod.mk.inj own
            refine ⟨modelListing entry, (listing _).mpr ⟨entry, member, rfl, ?_⟩, Or.inr ⟨?_, ?_⟩⟩
            · exact ⟨makeAnthropicProvider exampleJs book .countTokensHold, by
                simp [activeProviders, exampleProviders], tag.symm⟩
            · rw [show (modelListing entry).id = "claude-haiku-4-5" from id]
              exact ⟨"20251001".toList, rfl, by decide +kernel⟩
            · rw [fileIds]
              simp
          · obtain ⟨m, shown, named⟩ := (gate _).mp served
            obtain ⟨entry, member, rfl, provider, active, tag⟩ := (listing m).mp shown
            rcases named with id | ⟨_, unlisted⟩
            · have own : (entry.1, entry.2.provider)
                  ∈ file.map (fun entry => (entry.1, entry.2.provider)) :=
                List.mem_map_of_mem member
              have made : provider = makeAnthropicProvider exampleJs book .countTokensHold := by
                simpa [activeProviders, exampleProviders] using active
              rw [tags, ← tag, made, show entry.1 = "gpt-oss-120b" from id.symm] at own
              simp [makeAnthropicProvider] at own
            · rw [fileIds] at unlisted
              simp at unlisted
          · have known : "gpt-oss-120b" ∈ table.map Prod.fst := by
              rw [ids]
              simp
            obtain ⟨⟨_, priced⟩, listed, rfl⟩ := List.mem_map.mp known
            rw [findModel_eq, (findPriced_eq_some_iff book.ids_nodup).mpr (.exact priced listed)]
            rfl

end Example

end Nullsink.Pricing
