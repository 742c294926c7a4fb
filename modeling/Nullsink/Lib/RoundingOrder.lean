import Mathlib.Tactic.GCongr
import Nullsink.Lib.Arithmetic

/-! Binary64 rounding keeps the order of exact results, and so do the operations over it; and
where the rounded results sit that `Math.round` takes to a safe integer of at least zero.
-/

namespace Ecma

namespace Binary64

theorem roundHalfEven_le_floor_add_one (q : ℚ) : roundHalfEven q ≤ ⌊q⌋ + 1 := by
  unfold roundHalfEven
  split
  · omega
  · split
    · omega
    · split <;> omega

theorem roundHalfEven_of_above {q : ℚ} (above : 1 / 2 < q - ⌊q⌋)
    : roundHalfEven q = ⌊q⌋ + 1 := by
  rw [roundHalfEven, if_neg above.le.not_gt, if_pos above]

theorem roundHalfEven_mono {p q : ℚ} (le : p ≤ q) : roundHalfEven p ≤ roundHalfEven q := by
  rcases (Int.floor_le_floor le).eq_or_lt with same | less
  · rcases lt_trichotomy (p - ⌊p⌋) (1 / 2) with below | tie | above
    · have down : roundHalfEven p = ⌊p⌋ := by rw [roundHalfEven, if_pos below]
      rw [down, same]
      exact floor_le_roundHalfEven q
    · rcases le.eq_or_lt with rfl | larger
      · exact le_rfl
      · have above : 1 / 2 < q - ⌊q⌋ := by
          rw [← same]
          linarith
        rw [roundHalfEven_of_above above, ← same]
        exact roundHalfEven_le_floor_add_one p
    · have above' : 1 / 2 < q - ⌊q⌋ := by
        rw [← same]
        linarith
      rw [roundHalfEven_of_above above, roundHalfEven_of_above above', same]
  · exact (roundHalfEven_le_floor_add_one p).trans
      ((Int.add_one_le_iff.mpr less).trans (floor_le_roundHalfEven q))

theorem roundHalfEven_intCast (n : ℤ) : roundHalfEven n = n := by
  simp [roundHalfEven]

/-- A power of two on the grid of a value is a whole number of its units. -/
theorem exists_units {q : ℚ} {k : ℤ} (grid : ulpExponent q ≤ k)
    : ∃ n : ℤ, (2 : ℚ) ^ k = n * 2 ^ ulpExponent q := by
  obtain ⟨n, shift⟩ := Int.le.dest grid
  refine ⟨2 ^ n, ?_⟩
  rw [← shift, zpow_add₀ two_ne_zero]
  push_cast
  rw [zpow_natCast]
  ring

/-- Integers below 2^53 are on their grid: they are not rounded. -/
theorem round_intCast {n : ℤ} (small : |n| < 2 ^ 53) : round n = n := by
  have grid : ulpExponent (n : ℚ) ≤ 0 := by
    rcases eq_or_ne n 0 with rfl | nonzero
    · simp [ulpExponent]
    · have positive : 0 < |(n : ℚ)| := abs_pos.mpr (by exact_mod_cast nonzero)
      have below : |(n : ℚ)| < (2 : ℕ) ^ (53 : ℤ) := by exact_mod_cast small
      have log := (Int.lt_zpow_iff_log_lt (by norm_num) positive).mp below
      unfold ulpExponent
      omega
  obtain ⟨units, scaled⟩ := exists_units grid
  have unit : (2 : ℚ) ^ ulpExponent (n : ℚ) ≠ 0 := zpow_ne_zero _ two_ne_zero
  have whole : (n : ℚ) / 2 ^ ulpExponent (n : ℚ) = (n * units : ℤ) := by
    rw [zpow_zero] at scaled
    rw [div_eq_iff unit]
    push_cast
    rw [mul_assoc, ← scaled, mul_one]
  rw [round, whole, roundHalfEven_intCast, ← whole, div_mul_cancel₀ _ unit]

/-- A power of two on the grid of a value bounds its rounding where it bounds the value. -/
theorem round_le_two_zpow {q : ℚ} {k : ℤ} (grid : ulpExponent q ≤ k) (le : q ≤ 2 ^ k)
    : round q ≤ 2 ^ k := by
  obtain ⟨n, units⟩ := exists_units grid
  have unit : (0 : ℚ) < 2 ^ ulpExponent q := zpow_pos two_pos _
  rw [units] at le ⊢
  have whole := roundHalfEven_mono ((div_le_iff₀ unit).mpr le)
  rw [roundHalfEven_intCast] at whole
  exact mul_le_mul_of_nonneg_right (by exact_mod_cast whole) unit.le

theorem two_zpow_le_round {q : ℚ} {k : ℤ} (grid : ulpExponent q ≤ k) (le : 2 ^ k ≤ q)
    : 2 ^ k ≤ round q := by
  obtain ⟨n, units⟩ := exists_units grid
  have unit : (0 : ℚ) < 2 ^ ulpExponent q := zpow_pos two_pos _
  rw [units] at le ⊢
  have whole := roundHalfEven_mono ((le_div_iff₀ unit).mpr le)
  rw [roundHalfEven_intCast] at whole
  exact mul_le_mul_of_nonneg_right (by exact_mod_cast whole) unit.le

/-- Rounding is monotone: between two grids there is a power of two that is on both. -/
theorem round_mono {p q : ℚ} (nonneg : 0 ≤ p) (le : p ≤ q) : round p ≤ round q := by
  rcases nonneg.eq_or_lt with rfl | positive
  · have zero : round 0 = 0 := by
      rw [round, zero_div, show roundHalfEven 0 = 0 from roundHalfEven_intCast 0]
      simp
    rw [zero]
    exact round_nonneg le
  have logs : Int.log 2 p ≤ Int.log 2 q := Int.log_mono_right positive le
  rcases eq_or_ne (ulpExponent p) (ulpExponent q) with same | changed
  · have unit : (0 : ℚ) < 2 ^ ulpExponent q := zpow_pos two_pos _
    have whole := roundHalfEven_mono (div_le_div_of_nonneg_right le unit.le)
    unfold round
    rw [same]
    exact mul_le_mul_of_nonneg_right (by exact_mod_cast whole) unit.le
  · have apart : ulpExponent p ≤ Int.log 2 q ∧ ulpExponent q ≤ Int.log 2 q
        ∧ Int.log 2 p < Int.log 2 q := by
      unfold ulpExponent at changed ⊢
      rw [abs_of_pos positive, abs_of_pos (positive.trans_le le)] at *
      omega
    obtain ⟨gridP, gridQ, less⟩ := apart
    have below : p ≤ 2 ^ Int.log 2 q :=
      ((Int.lt_zpow_iff_log_lt Nat.one_lt_two positive).mpr less).le
    have above : (2 : ℚ) ^ Int.log 2 q ≤ q :=
      Int.zpow_log_le_self Nat.one_lt_two (positive.trans_le le)
    exact (round_le_two_zpow gridP below).trans (two_zpow_le_round gridQ above)

theorem roundHalfEven_neg (q : ℚ) : roundHalfEven (-q) = -roundHalfEven q := by
  have below := Int.floor_le q
  have above := Int.lt_floor_add_one q
  rcases below.eq_or_lt with whole | fractional
  · rw [← whole, ← Int.cast_neg, roundHalfEven_intCast, roundHalfEven_intCast]
  · have floored : ⌊-q⌋ = -⌊q⌋ - 1 := by
      rw [Int.floor_eq_iff]
      push_cast
      constructor <;> linarith
    unfold roundHalfEven
    rw [floored]
    push_cast
    rcases lt_trichotomy (q - ⌊q⌋) (1 / 2) with down | tie | up
    · rw [if_neg (by linarith), if_pos (by linarith), if_pos down]
      ring
    · have left : ¬-q - (-⌊q⌋ - 1) < 1 / 2 ∧ ¬1 / 2 < -q - (-⌊q⌋ - 1 : ℚ) :=
        ⟨by linarith, by linarith⟩
      have right : ¬q - ⌊q⌋ < 1 / 2 ∧ ¬1 / 2 < q - ⌊q⌋ := ⟨by linarith, by linarith⟩
      rw [if_neg left.1, if_neg left.2, if_neg right.1, if_neg right.2]
      split <;> split <;> omega
    · rw [if_pos (by linarith), if_neg (by linarith), if_pos up]
      ring

theorem round_neg (q : ℚ) : round (-q) = -round q := by
  have unit : ulpExponent (-q) = ulpExponent q := by simp [ulpExponent]
  rw [round, round, unit, neg_div, roundHalfEven_neg]
  push_cast
  ring

/-- A value rounds to an even integer or below when it is at most one half above it. -/
theorem roundHalfEven_le_iff {q : ℚ} {n : ℤ} (even : n % 2 = 0)
    : roundHalfEven q ≤ n ↔ q ≤ n + 1 / 2 := by
  have below := Int.floor_le q
  have above := Int.lt_floor_add_one q
  constructor
  · intro rounded
    have bounds := (roundHalfEven_bounds q).1
    have cast : (roundHalfEven q : ℚ) ≤ n := by exact_mod_cast rounded
    linarith
  · intro near
    rcases lt_trichotomy ⌊q⌋ n with lower | same | higher
    · exact (roundHalfEven_le_floor_add_one q).trans lower
    · unfold roundHalfEven
      rw [same]
      rw [if_neg (by linarith : ¬1 / 2 < q - n), if_pos even]
      split <;> exact le_rfl
    · have cast : (n : ℚ) + 1 ≤ ⌊q⌋ := by exact_mod_cast higher
      linarith

/-- The values that round to one half or below. -/
theorem round_le_half_iff {q : ℚ} (nonneg : 0 ≤ q)
    : round q ≤ 1 / 2 ↔ q ≤ 1 / 2 + 1 / 2 ^ 54 := by
  have half : (2 : ℚ) ^ (-1 : ℤ) = 1 / 2 := by norm_num
  rcases lt_or_ge q (1 / 2) with small | reached
  · have grid : ulpExponent q ≤ -1 := by
      have below : Int.log 2 |q| < 0 ∨ q = 0 := by
        rcases nonneg.eq_or_lt with rfl | positive
        · exact Or.inr rfl
        · rw [abs_of_pos positive]
          exact Or.inl ((Int.lt_zpow_iff_log_lt Nat.one_lt_two positive).mp (by norm_num; linarith))
      unfold ulpExponent
      rcases below with below | rfl
      · omega
      · simp
    have rounded := round_le_two_zpow grid (by rw [half]; exact small.le)
    rw [half] at rounded
    constructor
    · intro _
      linarith
    · intro _
      exact rounded
  · have positive : 0 < q := lt_of_lt_of_le (by norm_num) reached
    rcases lt_or_ge q 1 with small | large
    · -- One half is an even number of the units between it and one.
      have unit : ulpExponent q = -53 := by
        have upper : Int.log 2 q < 0 :=
          (Int.lt_zpow_iff_log_lt Nat.one_lt_two positive).mp (by simpa using small)
        have lower : -1 ≤ Int.log 2 q :=
          (Int.zpow_le_iff_le_log Nat.one_lt_two positive).mp (by simpa [half] using reached)
        unfold ulpExponent
        rw [abs_of_pos positive]
        omega
      have units := roundHalfEven_le_iff (q := q / 2 ^ (-53 : ℤ)) (n := 2 ^ 52) (by norm_num)
      have scale : (2 : ℚ) ^ (-53 : ℤ) = 1 / 2 ^ 53 := by norm_num
      rw [round, unit, ← le_div_iff₀ (zpow_pos two_pos _)]
      calc
        (roundHalfEven (q / 2 ^ (-53 : ℤ)) : ℚ) ≤ 1 / 2 / 2 ^ (-53 : ℤ)
          ↔ roundHalfEven (q / 2 ^ (-53 : ℤ)) ≤ 2 ^ 52 := by
            have middle : (1 : ℚ) / 2 / (1 / 2 ^ 53) = ((2 ^ 52 : ℤ) : ℚ) := by norm_num
            rw [scale, middle, Int.cast_le]
        _ ↔ q / 2 ^ (-53 : ℤ) ≤ (2 ^ 52 : ℤ) + 1 / 2 := units
        _ ↔ q ≤ 1 / 2 + 1 / 2 ^ 54 := by
            rw [div_le_iff₀ (zpow_pos two_pos _), scale]
            norm_num
    · have grid : ulpExponent 1 ≤ 0 := ulpExponent_nonpos zero_le_one (by norm_num)
      have one := two_zpow_le_round grid (zpow_zero (2 : ℚ)).le
      rw [zpow_zero] at one
      have above := one.trans (round_mono zero_le_one large)
      constructor
      · intro rounded
        linarith
      · intro near
        linarith [show (1 : ℚ) / 2 ^ 54 < 1 / 2 by norm_num]

/-- `Math.round` of a rounded value is negative only well below minus one half. -/
theorem mathRound_round_nonneg_iff (q : ℚ)
    : 0 ≤ mathRound (round q) ↔ -(1 / 2 + 1 / 2 ^ 54) ≤ q := by
  rw [mathRound, Int.floor_nonneg]
  rcases le_or_gt 0 q with nonneg | negative
  · have rounded := round_nonneg nonneg
    constructor
    · intro _
      linarith [show (0 : ℚ) < 1 / 2 ^ 54 by norm_num]
    · intro _
      linarith
  · have mirrored := round_le_half_iff (q := -q) (by linarith)
    rw [round_neg] at mirrored
    constructor
    · intro above
      linarith [mirrored.mp (by linarith)]
    · intro above
      linarith [mirrored.mpr (by linarith)]

/-- `Math.round` of a rounded value is a safe integer below half a unit before 2^53. -/
theorem mathRound_round_le_iff (q : ℚ)
    : mathRound (round q) ≤ 2 ^ 53 - 1 ↔ q < 2 ^ 53 - 1 / 2 := by
  rw [mathRound, Int.le_sub_one_iff, Int.floor_lt]
  rcases le_or_gt 0 q with nonneg | negative
  · constructor
    · intro below
      push_cast at below
      exact (round_lt_two_pow_53_iff nonneg).mp (by linarith)
    · intro small
      push_cast
      rcases lt_or_ge q (2 ^ 52) with below | reached
      · have grid : ulpExponent q ≤ 0 := ulpExponent_nonpos nonneg (by linarith)
        have rounded := round_le_two_zpow (grid.trans (by norm_num : (0 : ℤ) ≤ 52)) below.le
        norm_num at rounded ⊢
        linarith
      · -- From 2^52 on the rounded values are whole.
        have unit := ulpExponent_eq_zero reached (by linarith)
        have rounded := (round_lt_two_pow_53_iff nonneg).mpr small
        rw [round, unit, zpow_zero, mul_one] at rounded ⊢
        have whole : roundHalfEven (q / 1) ≤ 2 ^ 53 - 1 := by
          rw [Int.le_sub_one_iff]
          exact_mod_cast rounded
        have cast : (roundHalfEven (q / 1) : ℚ) ≤ 2 ^ 53 - 1 := by exact_mod_cast whole
        linarith
  · have rounded := round_nonneg (q := -q) (by linarith)
    rw [round_neg] at rounded
    push_cast
    constructor
    · intro _
      linarith
    · intro _
      linarith

end Binary64

namespace Number

/-- `x <= y`, false when either is NaN. -/
def le : Number → Number → Bool
  | .finite a, .finite b => a ≤ b
  | .finite _, .infinity t => !t
  | .infinity s, .finite _ => s
  | .infinity s, .infinity t => s || !t
  | _, _ => false

theorem Nonneg.le_refl {x : Number} (hx : x.Nonneg) : x.le x := by
  rcases hx.cases with ⟨a, rfl, _⟩ | rfl <;> simp [le]

/-- What an order between values of at least zero says. -/
theorem Nonneg.le_cases {x y : Number} (hx : x.Nonneg) (hxy : x.le y)
    : (∃ a b, x = .finite a ∧ y = .finite b ∧ 0 ≤ a ∧ a ≤ b) ∨ y = .infinity false := by
  rcases hx.cases with ⟨a, rfl, nonneg⟩ | rfl
  · cases y with
    | finite b => exact Or.inl ⟨a, b, rfl, rfl, nonneg, by simpa [le] using hxy⟩
    | infinity negative => simp_all [le]
    | nan => cases hxy
  · cases y with
    | finite b => cases hxy
    | infinity negative => simp_all [le]
    | nan => cases hxy

theorem Nonneg.le_infinity {x : Number} (hx : x.Nonneg) : x.le (.infinity false) := by
  rcases hx.cases with ⟨a, rfl, _⟩ | rfl <;> rfl

end Number

/-- Safe integers are Numbers as they are. -/
theorem Rounding.binary64_ofInt {n : ℤ} (safe : |n| ≤ Number.maxSafeInteger)
    : binary64.toNumber n = .ofInt n := by
  have small : |n| < 2 ^ 53 := by
    rw [Number.maxSafeInteger] at safe
    omega
  have below : |(n : ℚ)| < 2 ^ 1024 := by
    calc |(n : ℚ)|
      _ < 2 ^ 53 := by exact_mod_cast small
      _ ≤ 2 ^ 1024 := pow_le_pow_right₀ one_le_two (by norm_num)
  have rounded : binary64.round (n : ℚ) = n := Binary64.round_intCast small
  have finite : binary64.overflows (n : ℚ) = false := by
    simpa [binary64, Binary64.round_intCast small] using below
  rw [toNumber, finite, if_neg Bool.false_ne_true, rounded, Number.ofInt]

/-- Sums and differences that are safe integers are exact. -/
theorem Number.add_ofInt {a b : ℤ} (safe : |a + b| ≤ maxSafeInteger)
    : Number.add .binary64 (.ofInt a) (.ofInt b) = .ofInt (a + b) := by
  have sum : (a : ℚ) + b = (a + b : ℤ) := by push_cast; rfl
  rw [ofInt, ofInt, add, sum, Rounding.binary64_ofInt safe]

theorem Number.sub_ofInt {a b : ℤ} (safe : |a - b| ≤ maxSafeInteger)
    : Number.sub .binary64 (.ofInt a) (.ofInt b) = .ofInt (a - b) := by
  have difference : (a : ℚ) - b = (a - b : ℤ) := by push_cast; rfl
  have small : |a - b| < 2 ^ 53 := by
    rw [maxSafeInteger] at safe
    omega
  have rounded : Rounding.binary64.round ((a - b : ℤ) : ℚ) = (a - b : ℤ) :=
    Binary64.round_intCast small
  rw [ofInt, ofInt, sub, difference, rounded, Rounding.binary64_ofInt safe, ofInt, ite_self]

/-- A rounding that keeps the order of results of at least zero. -/
def Rounding.Monotone (fp : Rounding) : Prop :=
  ∀ p q, 0 ≤ p → p ≤ q → (fp.toNumber p).le (fp.toNumber q)

theorem Rounding.binary64_monotone : binary64.Monotone := by
  intro p q nonneg le
  have rounded := Binary64.round_mono nonneg le
  rcases binary64_toNumber (nonneg.trans le) with ⟨finite, small⟩ | ⟨infinite, _⟩
  · rcases binary64_toNumber nonneg with ⟨below, _⟩ | ⟨_, large⟩
    · simpa [finite, below, Number.le] using rounded
    · exact absurd (large.trans rounded) (not_le.mpr small)
  · rw [infinite]
    exact (binary64.toNumber_nonneg nonneg).le_infinity

namespace Number

variable {fp : Rounding}

theorem add_le_add (monotone : fp.Monotone) {x x' y y' : Number} (hx : x.Nonneg)
    (hy : y.Nonneg) (hxx : x.le x') (hyy : y.le y')
    : (Number.add fp x y).le (Number.add fp x' y') := by
  have nonneg := hx.add fp hy
  rcases hx.le_cases hxx with ⟨a, a', rfl, rfl, a_nonneg, le⟩ | rfl
  · rcases hy.le_cases hyy with ⟨b, b', rfl, rfl, b_nonneg, le'⟩ | rfl
    · exact monotone _ _ (add_nonneg a_nonneg b_nonneg) (by linarith)
    · exact nonneg.le_infinity
  · rcases hy.le_cases hyy with ⟨b, b', rfl, rfl, b_nonneg, le'⟩ | rfl
    · exact nonneg.le_infinity
    · exact nonneg.le_infinity

theorem divBy_le_divBy (monotone : fp.Monotone) {x y : Number} {d : ℚ} (hx : x.Nonneg)
    (hxy : x.le y) (positive : 0 < d)
    : (x.divBy fp d).le (y.divBy fp d) := by
  have nonneg := hx.divBy fp positive
  rcases hx.le_cases hxy with ⟨a, b, rfl, rfl, a_nonneg, le⟩ | rfl
  · exact monotone _ _ (div_nonneg a_nonneg positive.le)
      (div_le_div_of_nonneg_right le positive.le)
  · have infinite : (Number.infinity false).divBy fp d = .infinity false := by
      simp [Number.divBy, positive.le]
    rw [infinite]
    exact nonneg.le_infinity

theorem floor_le_floor {x y : Number} (hx : x.Nonneg) (hxy : x.le y) : x.floor.le y.floor := by
  rcases hx.le_cases hxy with ⟨a, b, rfl, rfl, _, le⟩ | rfl
  · simpa [Number.floor, ofInt, Number.le] using Int.floor_le_floor le
  · rcases hx.cases with ⟨a, rfl, _⟩ | rfl <;> rfl

end Number

end Ecma
