import Mathlib.Algebra.BigOperators.Group.Finset.Basic
import Mathlib.Algebra.BigOperators.Group.List.Basic
import Mathlib.Algebra.Order.BigOperators.Group.List
import Mathlib.Algebra.Order.Ring.Int
import Mathlib.Data.List.Nodup

/-! Tables of rows under a primary key, and the statements a relational store runs on them.
Rows keep insertion order. The key constraint is a field, so a table with two rows under one
key cannot be built.
-/

namespace Relational

/-- Rows in insertion order, no two of which share their primary key. -/
@[ext]
structure Table {Row Key : Type} (key : Row → Key) where
  rows : List Row
  nodup : (rows.map key).Nodup

namespace Table

variable {Row Key : Type} {key : Row → Key}

/-- The table without rows. -/
def empty : Table key := ⟨[], by simp⟩

instance : Inhabited (Table key) := ⟨empty⟩

/-- `DELETE FROM t WHERE NOT keep`. -/
def filter (t : Table key) (keep : Row → Bool) : Table key :=
  ⟨t.rows.filter keep, (List.filter_sublist.map key).nodup t.nodup⟩

/-- `UPDATE t SET row = f row`, for an `f` that leaves the key alone. -/
def update (t : Table key) (f : Row → Row) (keeps : ∀ row, key (f row) = key row)
    : Table key :=
  ⟨t.rows.map f, by simpa [List.map_map, Function.comp_def, keeps] using t.nodup⟩

/-- The rows written another way, under the keys they had. -/
def image {Row' : Type} {key' : Row' → Key} (t : Table key) (f : Row → Row')
    (keeps : ∀ row, key' (f row) = key row)
    : Table key' :=
  ⟨t.rows.map f, by simpa [List.map_map, Function.comp_def, keeps] using t.nodup⟩

/-- The sum of a column over all rows. -/
def total (t : Table key) (column : Row → ℤ) : ℤ :=
  (t.rows.map column).sum

@[simp] theorem rows_empty : (empty : Table key).rows = [] := rfl

/-- An update that writes the image of what another writes, of the rows that are there. -/
theorem image_update {Row' : Type} {key' : Row' → Key} {f : Row → Row'}
    {keeps : ∀ row, key' (f row) = key row} {t : Table key} {g : Row → Row} {g' : Row' → Row'}
    {keepsG : ∀ row, key (g row) = key row} {keepsG' : ∀ row, key' (g' row) = key' row}
    (same : ∀ row ∈ t.rows, g' (f row) = f (g row))
    : (t.image f keeps).update g' keepsG' = (t.update g keepsG).image f keeps := by
  ext1
  simpa [image, update] using same

variable [DecidableEq Key]

/-- `SELECT * FROM t WHERE key = k`. -/
def get? (t : Table key) (k : Key) : Option Row :=
  t.rows.find? (fun row => key row = k)

/-- `DELETE FROM t WHERE key = k`. -/
def delete (t : Table key) (k : Key) : Table key :=
  t.filter (fun row => key row ≠ k)

/-- A row whose key the table does not hold yet goes last. -/
def append (t : Table key) (row : Row) (fresh : t.get? (key row) = none) : Table key where
  rows := t.rows ++ [row]
  nodup := by
    have absent : key row ∉ t.rows.map key := by
      simpa [get?, List.find?_eq_none] using fresh
    simp [List.nodup_append, t.nodup]
    simpa using absent

/-- `INSERT INTO t`: `none` when the primary key is taken. -/
def insert? (t : Table key) (row : Row) : Option (Table key) :=
  if fresh : t.get? (key row) = none then some (t.append row fresh) else none

/-- `INSERT OR IGNORE INTO t`, with whether a row was added. -/
def insertOrIgnore (t : Table key) (row : Row) : Table key × Bool :=
  if fresh : t.get? (key row) = none then (t.append row fresh, true) else (t, false)

/-- `INSERT INTO t ... ON CONFLICT DO UPDATE SET row = merge row`. -/
def upsert (t : Table key) (row : Row) (merge : Row → Row)
    (keeps : ∀ other, key (merge other) = key other)
    : Table key :=
  if fresh : t.get? (key row) = none then t.append row fresh
  else
    t.update (fun other => if key other = key row then merge other else other) (by
      intro other
      split <;> simp [keeps])

-----------------------------------------------------------------------------------------
-- Lookup
-----------------------------------------------------------------------------------------

@[simp] theorem get?_empty (k : Key) : (empty : Table key).get? k = none := rfl

@[simp] theorem rows_append (t : Table key) (row : Row) (fresh : t.get? (key row) = none)
    : (t.append row fresh).rows = t.rows ++ [row] := rfl

theorem key_of_get? {t : Table key} {k : Key} {row : Row} (found : t.get? k = some row)
    : key row = k := by
  simpa using List.find?_some found

theorem mem_of_get? {t : Table key} {k : Key} {row : Row} (found : t.get? k = some row)
    : row ∈ t.rows :=
  List.mem_of_find?_eq_some found

/-- A stored row is what its own key looks up: no other row has that key. -/
theorem get?_of_mem {t : Table key} {row : Row} (member : row ∈ t.rows)
    : t.get? (key row) = some row := by
  obtain ⟨rows, nodup⟩ := t
  simp only [get?] at member ⊢
  induction rows with
  | nil => simp at member
  | cons head tail ih =>
      simp only [List.map_cons, List.nodup_cons] at nodup
      rcases List.mem_cons.mp member with rfl | later
      · simp
      · have other : key head ≠ key row := by
          intro same
          exact nodup.1 (same ▸ List.mem_map_of_mem later)
        simp [other, ih nodup.2 later]

theorem get?_eq_some_iff {t : Table key} {k : Key} {row : Row}
    : t.get? k = some row ↔ row ∈ t.rows ∧ key row = k := by
  constructor
  · intro found
    exact ⟨mem_of_get? found, key_of_get? found⟩
  · rintro ⟨member, rfl⟩
    exact get?_of_mem member

theorem get?_eq_none_iff {t : Table key} {k : Key}
    : t.get? k = none ↔ ∀ row ∈ t.rows, key row ≠ k := by
  simp [get?, List.find?_eq_none]

@[simp] theorem get?_append (t : Table key) (row : Row)
    (fresh : t.get? (key row) = none) (k : Key)
    : (t.append row fresh).get? k = if key row = k then some row else t.get? k := by
  by_cases same : key row = k
  · subst same
    have absent : List.find? (fun other => decide (key other = key row)) t.rows = none := fresh
    simp [get?, List.find?_append, absent]
  · simp [get?, List.find?_append, same]

theorem get?_filter (t : Table key) (keep : Row → Bool) (k : Key)
    : (t.filter keep).get? k = (t.get? k).filter keep := by
  cases found : t.get? k with
  | none =>
      simp only [Option.filter_none]
      rw [get?_eq_none_iff] at found ⊢
      intro row member
      exact found row (List.mem_filter.mp member).1
  | some row =>
      obtain ⟨member, same⟩ := get?_eq_some_iff.mp found
      cases kept : keep row with
      | true =>
          rw [Option.filter_some_pos kept, get?_eq_some_iff]
          exact ⟨List.mem_filter.mpr ⟨member, kept⟩, same⟩
      | false =>
          rw [Option.filter_some_neg (by simpa using kept), get?_eq_none_iff]
          intro other otherMember otherKey
          obtain ⟨otherStored, otherKept⟩ := List.mem_filter.mp otherMember
          have := get?_of_mem otherStored
          rw [otherKey, found] at this
          cases this
          simp [kept] at otherKept

@[simp] theorem get?_delete (t : Table key) (k other : Key)
    : (t.delete k).get? other = if other = k then none else t.get? other := by
  rw [delete, get?_filter]
  cases found : t.get? other with
  | none => simp
  | some row =>
      have same := key_of_get? found
      by_cases deleted : other = k <;> simp [Option.filter, same, deleted]

theorem get?_image {Row' : Type} {key' : Row' → Key} (t : Table key) (f : Row → Row')
    (keeps : ∀ row, key' (f row) = key row) (k : Key)
    : (t.image f keeps).get? k = (t.get? k).map f := by
  have same : (fun row => decide (key' row = k)) ∘ f = fun row => decide (key row = k) := by
    funext row
    simp [keeps]
  simp only [get?, image, List.find?_map, same]

theorem get?_update (t : Table key) (f : Row → Row)
    (keeps : ∀ row, key (f row) = key row) (k : Key)
    : (t.update f keeps).get? k = (t.get? k).map f :=
  t.get?_image f keeps k

/-- An upsert writes one key: it merges into the row there or adds the new row. -/
theorem get?_upsert (t : Table key) (row : Row) (merge : Row → Row)
    (keeps : ∀ other, key (merge other) = key other) (k : Key)
    : (t.upsert row merge keeps).get? k
      = if key row = k then some ((t.get? k).elim row merge) else t.get? k := by
  unfold upsert
  split
  · rename_i fresh
    by_cases same : key row = k
    · subst same
      simp [fresh]
    · simp [same]
  · rename_i taken
    rw [get?_update]
    by_cases same : key row = k
    · subst same
      obtain ⟨old, found⟩ := Option.ne_none_iff_exists'.mp taken
      simp [found, key_of_get? found]
    · cases found : t.get? k with
      | none => simp [same]
      | some old => simp [same, key_of_get? found, Ne.symm same]

theorem insert?_eq_some_iff {t t' : Table key} {row : Row}
    : t.insert? row = some t' ↔ ∃ fresh, t' = t.append row fresh := by
  unfold insert?
  split
  · rename_i fresh
    simp [fresh, eq_comm]
  · rename_i taken
    simp [taken]

theorem insert?_of_fresh {t : Table key} {row : Row} (fresh : t.get? (key row) = none)
    : t.insert? row = some (t.append row fresh) := by
  simp [insert?, fresh]

theorem insertOrIgnore_added_iff (t : Table key) (row : Row)
    : (t.insertOrIgnore row).2 = true ↔ t.get? (key row) = none := by
  unfold insertOrIgnore
  split
  · rename_i fresh
    simp [fresh]
  · rename_i taken
    simp [taken]

-----------------------------------------------------------------------------------------
-- Rows written another way
-----------------------------------------------------------------------------------------

section Image

variable {Row' : Type} {key' : Row' → Key} {f : Row → Row'}
  {keeps : ∀ row, key' (f row) = key row}

theorem image_append (t : Table key) (row : Row) (fresh : t.get? (key row) = none)
    : (t.append row fresh).image f keeps
      = (t.image f keeps).append (f row) (by simp [get?_image, keeps, fresh]) := by
  ext1
  simp [image]

theorem image_insert? (t : Table key) (row : Row)
    : (t.image f keeps).insert? (f row) = (t.insert? row).map (fun t => t.image f keeps) := by
  unfold insert?
  by_cases fresh : t.get? (key row) = none
  · simp [get?_image, keeps, fresh, image_append]
  · simp [get?_image, keeps, fresh]

theorem image_delete (t : Table key) (k : Key)
    : (t.image f keeps).delete k = (t.delete k).image f keeps := by
  ext1
  simp [image, delete, filter, List.filter_map, Function.comp_def, keeps]

/-- An upsert that merges into the one row of its key what another does. -/
theorem image_upsert {t : Table key} {row : Row} {merge : Row → Row} {merge' : Row' → Row'}
    {keepsM : ∀ other, key (merge other) = key other}
    {keepsM' : ∀ other, key' (merge' other) = key' other} {row' : Row'}
    (added : t.get? (key row) = none → row' = f row) (own : key' row' = key row)
    (same : ∀ other, t.get? (key row) = some other → merge' (f other) = f (merge other))
    : (t.image f keeps).upsert row' merge' keepsM' = (t.upsert row merge keepsM).image f keeps := by
  unfold upsert
  by_cases fresh : t.get? (key row) = none
  · obtain rfl := added fresh
    simp [get?_image, keeps, fresh, image_append]
  · simp only [get?_image, own, fresh, Option.map_eq_none_iff, dite_false]
    refine image_update ?_
    intro other member
    rw [keeps]
    split
    · rename_i sameKey
      exact same other (sameKey ▸ get?_of_mem member)
    · rfl

end Image

-----------------------------------------------------------------------------------------
-- Column sums
-----------------------------------------------------------------------------------------

@[simp] theorem total_append (t : Table key) (row : Row)
    (fresh : t.get? (key row) = none) (column : Row → ℤ)
    : (t.append row fresh).total column = t.total column + column row := by
  simp [total]

/-- Deleting a stored row takes exactly its value out of every column sum. -/
theorem total_delete {t : Table key} {k : Key} {row : Row} (found : t.get? k = some row)
    (column : Row → ℤ)
    : (t.delete k).total column + column row = t.total column := by
  obtain ⟨member, same⟩ := get?_eq_some_iff.mp found
  obtain ⟨rows, nodup⟩ := t
  simp only [total, delete, filter] at member ⊢
  clear found
  induction rows with
  | nil => simp at member
  | cons head tail ih =>
      simp only [List.map_cons, List.nodup_cons] at nodup
      rcases List.mem_cons.mp member with rfl | later
      · have untouched : tail.filter (fun other => key other ≠ k) = tail := by
          rw [List.filter_eq_self]
          intro other otherMember
          have distinct : key other ≠ k := by
            intro equal
            exact nodup.1 (same.trans equal.symm ▸ List.mem_map_of_mem otherMember)
          simpa using distinct
        simp only [List.filter_cons, same, ne_eq, not_true_eq_false, decide_false,
          Bool.false_eq_true, if_false, List.map_cons, List.sum_cons]
        rw [untouched]
        omega
      · have other : key head ≠ k := by
          intro equal
          exact nodup.1 (equal.trans same.symm ▸ List.mem_map_of_mem later)
        have rest := ih nodup.2 later
        simp only [List.filter_cons, ne_eq, other, not_false_eq_true, decide_true, if_true,
          List.map_cons, List.sum_cons] at rest ⊢
        omega

/-- The rows of one key are at most one row; by induction on the rows. -/
theorem total_at (t : Table key) (k : Key) (column : Row → ℤ)
    : t.total (fun row => if key row = k then column row else 0) = (t.get? k).elim 0 column := by
  obtain ⟨rows, nodup⟩ := t
  simp only [total, get?]
  induction rows with
  | nil => rfl
  | cons head tail ih =>
      simp only [List.map_cons, List.nodup_cons] at nodup
      rw [List.map_cons, List.sum_cons, ih nodup.2, List.find?_cons]
      by_cases own : key head = k
      · have absent : tail.find? (fun row => decide (key row = k)) = none := by
          rw [List.find?_eq_none]
          intro row member
          have other : key row ≠ k := by
            intro same
            exact nodup.1 (own ▸ same ▸ List.mem_map_of_mem member)
          simpa using other
        simp [own, absent]
      · simp [own]

end Table

/-- Where `keys` hold the keys of all entries, what the entries give each key sums to what they give
in all; by induction on the entries.
-/
theorem sum_by_key {Entry Key : Type} {keys : Finset Key} {amount : Key → Entry → ℤ}
    {total : Entry → ℤ} {entries : List Entry}
    (each : ∀ entry ∈ entries, ∑ k ∈ keys, amount k entry = total entry)
    : ∑ k ∈ keys, (entries.map (amount k)).sum = (entries.map total).sum := by
  induction entries with
  | nil => simp
  | cons entry rest ih =>
      obtain ⟨first, others⟩ := List.forall_mem_cons.mp each
      simp only [List.map_cons, List.sum_cons, Finset.sum_add_distrib, first, ih others]

end Relational
