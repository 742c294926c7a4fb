import Mathlib.Algebra.BigOperators.Group.List.Basic
import Mathlib.Data.List.Nodup

/-! Logs that record each key at most once: lists of entries some of which carry a key. And logs
that are written in blocks.
-/

namespace Log

variable {Entry Key : Type}

/-- In a log without repeated keys an entry is determined by its key; by induction on the log. -/
theorem eq_of_nodup_keys {key? : Entry → Option Key} {log : List Entry}
    (once : (log.filterMap key?).Nodup) {first second : Entry} {key : Key}
    (firstMember : first ∈ log) (secondMember : second ∈ log)
    (firstKey : key? first = some key) (secondKey : key? second = some key)
    : first = second := by
  induction log with
  | nil => simp at firstMember
  | cons head rest ih =>
      have onceRest : (rest.filterMap key?).Nodup :=
        ((List.sublist_cons_self head rest).filterMap key?).nodup once
      have absent (headKey : key? head = some key) {other : Entry} (later : other ∈ rest)
          : key? other ≠ some key := by
        intro otherKey
        rw [List.filterMap_cons_some headKey, List.nodup_cons] at once
        exact once.1 (List.mem_filterMap.mpr ⟨other, later, otherKey⟩)
      rcases List.mem_cons.mp firstMember with rfl | firstLater
      · rcases List.mem_cons.mp secondMember with rfl | secondLater
        · rfl
        · exact (absent firstKey secondLater secondKey).elim
      · rcases List.mem_cons.mp secondMember with rfl | secondLater
        · exact (absent secondKey firstLater firstKey).elim
        · exact ih onceRest firstLater secondLater

/-- In a duplicate-free list that extends `front`, what `front` holds before its end never comes
last again.
-/
theorem getLast?_ne_of_nodup {front whole : List Key} {entry : Key} (grown : front <+: whole)
    (once : whole.Nodup) (member : entry ∈ front) (left : front.getLast? ≠ some entry)
    : whole.getLast? ≠ some entry := by
  obtain ⟨later, rfl⟩ := grown
  intro last
  rcases List.eq_nil_or_concat later with rfl | ⟨before, final, rfl⟩
  · exact left (by simpa using last)
  · have same : final = entry := by simpa using last
    subst same
    exact (List.nodup_append.mp once).2.2 final member final (by simp) rfl

/-- Pairs whose second component follows from the first stay distinct without it. -/
theorem nodup_fst {Value : Type} {pairs : List (Key × Value)} (value : Key → Value)
    (once : pairs.Nodup) (own : ∀ pair ∈ pairs, pair.2 = value pair.1)
    : (pairs.map Prod.fst).Nodup := by
  refine List.Nodup.map_on ?_ once
  intro first firstMember second secondMember same
  refine Prod.ext same ?_
  rw [own first firstMember, own second secondMember, same]

-----------------------------------------------------------------------------------------
-- Sums by owner
-----------------------------------------------------------------------------------------

/-- Owners of distinct keys: the bills are that of one owner and those of the others; by induction
on the owners.
-/
theorem sum_without [DecidableEq Key] {Weight : Type*} [AddCommMonoid Weight] {Owner : Type*}
    {owners : List Owner} {key : Owner → Key} (distinct : (owners.map key).Nodup) {owner : Owner}
    (member : owner ∈ owners) (bill : Owner → Weight)
    : (owners.map bill).sum
      = bill owner
        + (owners.map (fun other => if key other = key owner then 0 else bill other)).sum := by
  induction owners with
  | nil => cases member
  | cons head rest ih =>
      obtain ⟨absent, others⟩ := List.nodup_cons.mp distinct
      rw [List.map_cons, List.sum_cons, List.map_cons, List.sum_cons]
      rcases List.mem_cons.mp member with rfl | inside
      · have untouched
            : rest.map (fun other => if key other = key owner then 0 else bill other)
              = rest.map bill := by
          refine List.map_congr_left fun other later => ?_
          have apart : key other ≠ key owner := fun same =>
            absent (same ▸ List.mem_map_of_mem later)
          exact if_neg apart
        rw [untouched, if_pos rfl, zero_add]
      · have apart : key head ≠ key owner := fun same =>
          absent (same ▸ List.mem_map_of_mem inside)
        rw [ih others inside, if_neg apart, add_left_comm]

/-- Where each keyed entry of a log without repeated keys is billed to the owner of its key, and the
owners pay for nothing else, the entries sum to the bills; by induction on the log.
-/
theorem sum_by_owner [DecidableEq Key] {Weight : Type*} [AddCommMonoid Weight]
    {key? : Entry → Option Key} {log : List Entry} (once : (log.filterMap key?).Nodup)
    {Owner : Type*} {owners : List Owner} {key : Owner → Key}
    (distinct : (owners.map key).Nodup) {value : Entry → Weight} {bill : Owner → Weight}
    (silent : ∀ entry ∈ log, key? entry = none → value entry = 0)
    (owned
      : ∀ entry ∈ log, ∀ k, key? entry = some k
          → ∃ owner ∈ owners, key owner = k ∧ bill owner = value entry)
    (free : ∀ owner ∈ owners, key owner ∉ log.filterMap key? → bill owner = 0)
    : (log.map value).sum = (owners.map bill).sum := by
  induction log generalizing bill with
  | nil =>
      have nothing : owners.map bill = owners.map (fun _ => 0) :=
        List.map_congr_left fun owner member => free owner member (by simp)
      simp [nothing]
  | cons entry rest ih =>
      rw [List.map_cons, List.sum_cons]
      cases keyed : key? entry with
      | none =>
          rw [silent entry List.mem_cons_self keyed, zero_add]
          rw [List.filterMap_cons_none keyed] at once free
          exact ih once (fun other member => silent other (List.mem_cons_of_mem _ member))
            (fun other member => owned other (List.mem_cons_of_mem _ member)) free
      | some k =>
          obtain ⟨owner, member, rfl, pays⟩ := owned entry List.mem_cons_self k keyed
          rw [List.filterMap_cons_some keyed] at once free
          obtain ⟨absent, later⟩ := List.nodup_cons.mp once
          rw [sum_without distinct member bill, pays]
          congr 1
          refine ih later (fun other inside => silent other (List.mem_cons_of_mem _ inside)) ?_ ?_
          · intro other inside k keyedOther
            obtain ⟨payer, known, rfl, payment⟩ :=
              owned other (List.mem_cons_of_mem _ inside) k keyedOther
            have apart : key payer ≠ key owner := fun same =>
              absent (List.mem_filterMap.mpr ⟨other, inside, by rw [keyedOther, same]⟩)
            exact ⟨payer, known, rfl, by rw [if_neg apart, payment]⟩
          · intro payer known absentPayer
            by_cases own : key payer = key owner
            · exact if_pos own
            · rw [if_neg own]
              refine free payer known fun inside => ?_
              rcases List.mem_cons.mp inside with same | deeper
              · exact own same
              · exact absentPayer deeper

/-- Of entries with keys of their own, a lookup among those that are kept finds each by its key; by
induction on the entries.
-/
theorem lookup_kept {Value : Type} [DecidableEq Key] {key : Entry → Key} (value : Entry → Value)
    (kept : Entry → Bool) {entries : List Entry} (distinct : (entries.map key).Nodup)
    {entry : Entry}
    (member : entry ∈ entries)
    : ((entries.filter kept).map (fun entry => (key entry, value entry))).lookup (key entry)
      = if kept entry then some (value entry) else none := by
  induction entries with
  | nil => cases member
  | cons first rest ih =>
      obtain ⟨fresh, distinct⟩ := List.nodup_cons.mp distinct
      rcases List.mem_cons.mp member with rfl | later
      · by_cases shown : kept entry
        · rw [List.filter_cons_of_pos shown, List.map_cons, List.lookup_cons_self, if_pos shown]
        · rw [List.filter_cons_of_neg shown, if_neg shown, List.lookup_eq_none_iff]
          intro pair found
          obtain ⟨other, inside, rfl⟩ := List.mem_map.mp found
          have apart : key entry ≠ key other := fun same =>
            fresh (same ▸ List.mem_map_of_mem (List.mem_of_mem_filter inside))
          exact bne_iff_ne.mpr apart
      · have apart : key entry ≠ key first := fun same =>
          fresh (same ▸ List.mem_map_of_mem later)
        by_cases shown : kept first
        · rw [List.filter_cons_of_pos shown, List.map_cons, List.lookup_cons,
            beq_false_of_ne apart]
          exact ih distinct later
        · rw [List.filter_cons_of_neg shown, ih distinct later]

/-- An element of blocks in sequence is in one of them. -/
theorem mem_block {Item : Type} {blocks : List (List Item)} {before after : List Item} {item : Item}
    (split : blocks.flatten = before ++ item :: after)
    : ∃ earlier block later front back, blocks = earlier ++ block :: later
        ∧ block = front ++ item :: back ∧ before = earlier.flatten ++ front := by
  rcases List.flatten_eq_append_iff.mp split with
    ⟨earlier, rest, rfl, rfl, later⟩ | ⟨earlier, front, first, back, rest, rfl, rfl, same⟩
  · obtain ⟨empty, back, others, rfl, nil, _⟩ := List.flatten_eq_cons_iff.mp later.symm
    refine ⟨earlier ++ empty, _, others, [], back, by simp, rfl, ?_⟩
    simp [List.flatten_eq_nil_iff.mpr nil]
  · obtain ⟨rfl, _⟩ := List.cons.inj same
    exact ⟨earlier, _, rest, front, back, rfl, rfl, rfl⟩

end Log
