import Mathlib.Algebra.Order.Floor.Ring
import Nullsink.Lib.Arithmetic

/-! Arithmetic on Numbers under the exact rounding: that of the rationals. -/

namespace Ecma

@[simp] theorem Rounding.exact_toNumber (q : ℚ) : Rounding.exact.toNumber q = .finite q := rfl

namespace Number

@[simp] theorem add_exact (a b : ℚ) : add .exact (.finite a) (.finite b) = .finite (a + b) := rfl

@[simp] theorem mul_exact (a b : ℚ) : mul .exact (.finite a) (.finite b) = .finite (a * b) := rfl

@[simp] theorem sub_exact (a b : ℚ) : sub .exact (.finite a) (.finite b) = .finite (a - b) := by
  simp only [sub]
  split <;> rfl

@[simp] theorem divBy_exact (a d : ℚ) : divBy .exact (.finite a) d = .finite (a / d) := rfl

@[simp] theorem ceil_finite (q : ℚ) : ceil (.finite q) = .finite ⌈q⌉ := rfl

@[simp] theorem floor_finite (q : ℚ) : floor (.finite q) = .ofInt ⌊q⌋ := rfl

theorem min_finite (a b : ℚ)
    : Number.min (.finite a) (.finite b) = .finite (Min.min a b) := by
  by_cases less : b < a
  · simp [Number.min, lt, less, min_eq_right less.le]
  · simp [Number.min, lt, less, min_eq_left (not_lt.mp less)]

theorem max_finite (a b : ℚ)
    : Number.max (.finite a) (.finite b) = .finite (Max.max a b) := by
  by_cases less : a < b
  · simp [Number.max, lt, less, max_eq_right less.le]
  · simp [Number.max, lt, less, max_eq_left (not_lt.mp less)]

/-- The exact sum of Numbers. -/
def exactSum (xs : List Number) : Number := xs.foldr (add .exact) (ofInt 0)

theorem exactSum_map_ofInt (ns : List ℤ) : exactSum (ns.map ofInt) = ofInt ns.sum := by
  induction ns with
  | nil => rfl
  | cons n rest ih =>
      simp only [exactSum, List.map_cons, List.foldr_cons, List.sum_cons] at ih ⊢
      rw [ih]
      simp [ofInt]

/-- Whole numbers, of which the first is at most the second. -/
def WholeLe (x y : Number) : Prop := ∃ a b : ℤ, x = .ofInt a ∧ y = .ofInt b ∧ a ≤ b

namespace WholeLe

theorem of_floor {p q : ℚ} (le : p ≤ q) : WholeLe (floor (.finite p)) (floor (.finite q)) :=
  ⟨⌊p⌋, ⌊q⌋, rfl, rfl, Int.floor_mono le⟩

/-- The lesser of two bounds is a bound. -/
theorem min {x y z : Number} (first : WholeLe x y) (second : WholeLe x z)
    : WholeLe x (Number.min y z) := by
  obtain ⟨a, b, rfl, rfl, le⟩ := first
  obtain ⟨a', c, same, rfl, le'⟩ := second
  obtain rfl := ofInt_injective same
  refine ⟨a, Min.min b c, rfl, ?_, le_min le le'⟩
  simp only [ofInt, min_finite]
  push_cast
  rfl

/-- A value at most another does not exceed it. -/
theorem not_lt {x y : Number} (le : WholeLe x y) : Number.lt y x = false := by
  obtain ⟨a, b, rfl, rfl, le⟩ := le
  simpa [ofInt, lt] using le

end WholeLe

end Number

end Ecma
