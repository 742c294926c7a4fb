import Mathlib.Data.List.Nodup
import Nullsink.Lib.Runtime

/-! The fields of a JSON object that a program assigns and deletes: what it then reads there, and
that a value with finite numbers and distinct keys stays one.
-/

namespace Ecma

namespace Json

/-- A value that its text restores: its numbers are finite and no object has a key twice. -/
inductive Plain : Json → Prop
  | null : Plain .null
  | bool (value : Bool) : Plain (.bool value)
  | number (q : ℚ) : Plain (.number (.finite q))
  | string (value : String) : Plain (.string value)
  | array (items : List Json) (each : ∀ item ∈ items, Plain item) : Plain (.array items)
  | object (fields : List (String × Json)) (once : (fields.map Prod.fst).Nodup)
    (each : ∀ field ∈ fields, Plain field.2)
    : Plain (.object fields)

/-- Plain items make a plain object under their indices. -/
theorem Plain.indexed {items : List Json} (each : ∀ item ∈ items, item.Plain)
    : (Json.object (Json.indexed items)).Plain := by
  refine .object _ ?_ ?_
  · have keys : (Json.indexed items).map Prod.fst = (List.range' 0 items.length).map Nat.repr := by
      rw [Json.indexed, List.map_map, ← List.zipIdx_map_snd, List.map_map]
      rfl
    rw [keys]
    refine List.Nodup.map ?_ List.nodup_range'
    intro m n same
    have digits : Nat.toDigits 10 m = Nat.toDigits 10 n := by
      rw [← Nat.toList_repr, ← Nat.toList_repr, same]
    rw [← @Nat.ofDigitChars_ten_toDigits m, digits, Nat.ofDigitChars_ten_toDigits]
  · intro field member
    obtain ⟨⟨item, index⟩, listed, rfl⟩ := List.mem_map.mp member
    exact each item (List.fst_mem_of_mem_zipIdx listed)

/-- What an object of a plain value spreads is plain. -/
theorem Plain.spread {value : Json} (plain : value.Plain) : (Json.object value.spread).Plain := by
  cases plain with
  | object fields once each => exact .object fields once each
  | array items each => exact .indexed each
  | string text =>
      refine .indexed ?_
      intro item member
      obtain ⟨unit, _, rfl⟩ := List.mem_map.mp member
      exact .string unit
  | _ => exact .object [] List.nodup_nil (by simp)

theorem Plain.get? {value inner : Json} {key : String} (plain : value.Plain)
    (found : value.get? key = some inner)
    : inner.Plain := by
  cases plain with
  | object fields once each =>
      obtain ⟨field, first, rfl⟩ := Option.map_eq_some_iff.mp found
      exact each field (List.mem_of_find?_eq_some first)
  | _ => cases found

section Assignment

variable {fields : List (String × Json)}

theorem keys_setField (key : String) (value : Json)
    : (setField fields key value).map Prod.fst
      = if key ∈ fields.map Prod.fst then fields.map Prod.fst
        else fields.map Prod.fst ++ [key] := by
  have named : (fields.any (fun field => field.1 = key)) = true ↔ key ∈ fields.map Prod.fst := by
    simp
  unfold setField
  by_cases stored : key ∈ fields.map Prod.fst
  · rw [if_pos (named.mpr stored), if_pos stored, List.map_map]
    refine List.map_congr_left (fun field _ => ?_)
    by_cases same : field.1 = key <;> simp [same]
  · rw [if_neg (mt named.mp stored), if_neg stored]
    simp

/-- An assigned field is read back, and the others are what they were. -/
theorem get?_setField (key name : String) (value : Json)
    : (Json.object (setField fields key value)).get? name
      = if name = key then some value else (Json.object fields).get? name := by
  have kept (fields : List (String × Json)) (other : name ≠ key)
      : (fields.map (fun field => if field.1 = key then (key, value) else field)).find?
          (fun field => field.1 = name)
        = fields.find? (fun field => field.1 = name) := by
    induction fields with
    | nil => rfl
    | cons field rest ih =>
        by_cases assigned : field.1 = key
        · simpa [assigned, other.symm] using ih
        · by_cases found : field.1 = name
          · simp [found, other]
          · simpa [assigned, found] using ih
  have assigned (fields : List (String × Json)) (stored : key ∈ fields.map Prod.fst)
      : (fields.map (fun field => if field.1 = key then (key, value) else field)).find?
          (fun field => field.1 = key)
        = some (key, value) := by
    induction fields with
    | nil => cases stored
    | cons field rest ih =>
        by_cases here : field.1 = key
        · simp [here]
        · have later : key ∈ rest.map Prod.fst := by
            simpa [Ne.symm here] using stored
          simpa [here] using ih later
  by_cases stored : key ∈ fields.map Prod.fst
  · have present : fields.any (fun field => field.1 = key) = true := by simpa using stored
    simp only [setField, present, if_true, get?]
    by_cases same : name = key
    · rw [same, assigned fields stored]
      simp
    · rw [kept fields same, if_neg same]
  · have missed : fields.find? (fun field => field.1 = key) = none := by
      refine List.find?_eq_none.mpr (fun field member named => stored ?_)
      exact List.mem_map.mpr ⟨field, member, of_decide_eq_true named⟩
    have absent : fields.any (fun field => field.1 = key) = false := by simpa using missed
    simp only [setField, absent, get?]
    by_cases same : name = key
    · simp [List.find?_append, same, missed]
    · simp [List.find?_append, same, Ne.symm same]

/-- A deleted field is not there, and the others are what they were. -/
theorem get?_delete (key name : String)
    : (Json.object (fields.filter (fun field => field.1 ≠ key))).get? name
      = if name = key then none else (Json.object fields).get? name := by
  simp only [get?]
  induction fields with
  | nil => simp
  | cons field rest ih =>
      by_cases deleted : field.1 = key
      · by_cases same : name = key
        · simp [same]
        · simpa [deleted, same, Ne.symm same] using ih
      · by_cases found : field.1 = name
        · have other : name ≠ key := fun same => deleted (found.trans same)
          simp [found, other]
        · simpa [deleted, found] using ih

theorem Plain.setField {key : String} {value : Json} (plain : (Json.object fields).Plain)
    (assigned : value.Plain)
    : (Json.object (setField fields key value)).Plain := by
  cases plain with
  | object _ once each =>
      refine .object _ ?_ ?_
      · rw [keys_setField]
        split
        · exact once
        · rename_i new
          exact once.append (List.nodup_singleton key)
            (List.disjoint_singleton.mpr new)
      · intro field member
        unfold Json.setField at member
        split at member
        · obtain ⟨old, stored, rfl⟩ := List.mem_map.mp member
          split
          · exact assigned
          · exact each old stored
        · rcases List.mem_append.mp member with stored | last
          · exact each field stored
          · obtain rfl := List.mem_singleton.mp last
            exact assigned

theorem Plain.delete (plain : (Json.object fields).Plain) (key : String)
    : (Json.object (fields.filter (fun field => field.1 ≠ key))).Plain := by
  cases plain with
  | object _ once each =>
      exact .object _ (once.sublist (List.filter_sublist.map Prod.fst))
        (fun field member => each field (List.mem_of_mem_filter member))

end Assignment

end Json

/-- A text restores the plain values it is written from: `JSON.parse` after `JSON.stringify` is
the identity there.
-/
def Runtime.Restores (js : Runtime) (text : String) : Prop :=
  ∀ value : Json, value.Plain → js.stringify value = text → js.parse text = some value

end Ecma
