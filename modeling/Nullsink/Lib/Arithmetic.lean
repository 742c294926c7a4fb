import Mathlib.Tactic.Linarith
import Mathlib.Tactic.NormNum
import Nullsink.Lib.Number

/-! Arithmetic on Numbers, over a rounding of exact results. With `Rounding.binary64` it is
ECMAScript's; with `Rounding.exact` it is that of the rationals.
-/

namespace Ecma

namespace Number

/-- Zero, a positive value or positive infinity. -/
def Nonneg : Number → Prop
  | .finite q => 0 ≤ q
  | .infinity negative => negative = false
  | .nan => False

/-- A finite value of at least zero. -/
def FiniteNonneg : Number → Prop
  | .finite q => 0 ≤ q
  | _ => False

/-- An integer of at least zero, or positive infinity. -/
def Amount (x : Number) : Prop :=
  (∃ n : ℤ, x = ofInt n ∧ 0 ≤ n) ∨ x = .infinity false

theorem FiniteNonneg.exists_finite {x : Number} (h : x.FiniteNonneg)
    : ∃ q, x = .finite q ∧ 0 ≤ q := by
  cases x with
  | finite q => exact ⟨q, rfl, h⟩
  | infinity negative => exact h.elim
  | nan => exact h.elim

theorem Nonneg.cases {x : Number} (h : x.Nonneg)
    : (∃ q, x = .finite q ∧ 0 ≤ q) ∨ x = .infinity false := by
  cases x with
  | finite q => exact Or.inl ⟨q, rfl, h⟩
  | infinity negative => exact Or.inr (by rw [show negative = false from h])
  | nan => exact h.elim

end Number

/-- How an exact result becomes a Number: its rounding, or an infinity where it overflows. -/
structure Rounding where
  round : ℚ → ℚ
  overflows : ℚ → Bool
  round_nonneg : ∀ q, 0 ≤ q → 0 ≤ round q

namespace Rounding

def toNumber (fp : Rounding) (q : ℚ) : Number :=
  if fp.overflows q then .infinity (q < 0) else .finite (fp.round q)

theorem toNumber_nonneg (fp : Rounding) {q : ℚ} (h : 0 ≤ q) : (fp.toNumber q).Nonneg := by
  unfold toNumber
  split
  · simpa [Number.Nonneg] using h
  · exact fp.round_nonneg q h

end Rounding

namespace Binary64

theorem roundHalfEven_bounds (q : ℚ)
    : q - 1 / 2 ≤ roundHalfEven q ∧ (roundHalfEven q : ℚ) ≤ q + 1 / 2 := by
  have below := Int.floor_le q
  have above := Int.lt_floor_add_one q
  unfold roundHalfEven
  split
  · constructor <;> linarith
  · split
    · push_cast
      constructor <;> linarith
    · split
      · constructor <;> linarith
      · push_cast
        constructor <;> linarith

theorem floor_le_roundHalfEven (q : ℚ) : ⌊q⌋ ≤ roundHalfEven q := by
  unfold roundHalfEven
  split
  · exact le_rfl
  · split
    · omega
    · split <;> omega

theorem round_nonneg {q : ℚ} (h : 0 ≤ q) : 0 ≤ round q := by
  have unit : (0 : ℚ) < 2 ^ ulpExponent q := zpow_pos (by norm_num) _
  have whole : 0 ≤ roundHalfEven (q / 2 ^ ulpExponent q) :=
    (Int.floor_nonneg.mpr (div_nonneg h unit.le)).trans (floor_le_roundHalfEven _)
  exact mul_nonneg (by exact_mod_cast whole) unit.le

theorem round_le_add_half_ulp (q : ℚ) : round q ≤ q + 2 ^ ulpExponent q / 2 := by
  have unit : (0 : ℚ) < 2 ^ ulpExponent q := zpow_pos (by norm_num) _
  calc
    round q ≤ (q / 2 ^ ulpExponent q + 1 / 2) * 2 ^ ulpExponent q :=
      mul_le_mul_of_nonneg_right (roundHalfEven_bounds _).2 unit.le
    _ = q + 2 ^ ulpExponent q / 2 := by
      field_simp

/-- The unit in the last place is at most one below 2^53. -/
theorem ulpExponent_nonpos {q : ℚ} (nonneg : 0 ≤ q) (small : q < 2 ^ 53) : ulpExponent q ≤ 0 := by
  have below : Int.log 2 |q| ≤ 52 := by
    rcases nonneg.eq_or_lt with rfl | positive
    · simp
    · rw [abs_of_nonneg nonneg]
      have bounded := (Int.lt_zpow_iff_log_lt Nat.one_lt_two positive (x := 53)).mp
        (by exact_mod_cast small)
      omega
  unfold ulpExponent
  omega

/-- The unit in the last place is one between 2^52 and 2^53. -/
theorem ulpExponent_eq_zero {q : ℚ} (large : 2 ^ 52 ≤ q) (small : q < 2 ^ 53)
    : ulpExponent q = 0 := by
  have positive : 0 < q := lt_of_lt_of_le (by norm_num) large
  have nonpos := ulpExponent_nonpos positive.le small
  have reached := (Int.zpow_le_iff_le_log Nat.one_lt_two positive (x := 52)).mp
    (by exact_mod_cast large)
  unfold ulpExponent at nonpos ⊢
  rw [abs_of_pos positive] at *
  omega

/-- A value never rounds below a power of two, from 2^53 on. -/
theorem two_pow_le_round {k : ℕ} (wide : 53 ≤ k) {q : ℚ} (large : 2 ^ k ≤ q)
    : 2 ^ k ≤ round q := by
  have positive : 0 < q := lt_of_lt_of_le (by positivity) large
  have reached : (k : ℤ) ≤ Int.log 2 q :=
    (Int.zpow_le_iff_le_log Nat.one_lt_two positive).mp (by exact_mod_cast large)
  have exponent : ulpExponent q = Int.log 2 q - 52 := by
    unfold ulpExponent
    rw [abs_of_pos positive]
    omega
  have unit : (0 : ℚ) < 2 ^ ulpExponent q := zpow_pos (by norm_num) _
  have scale : (2 : ℚ) ^ 52 * 2 ^ ulpExponent q = 2 ^ Int.log 2 q := by
    rw [exponent, zpow_sub₀ (by norm_num)]
    norm_num
    ring
  have significand : (2 : ℚ) ^ 52 ≤ q / 2 ^ ulpExponent q := by
    rw [le_div_iff₀ unit, scale]
    exact_mod_cast Int.zpow_log_le_self Nat.one_lt_two positive
  have floored : (2 : ℤ) ^ 52 ≤ roundHalfEven (q / 2 ^ ulpExponent q) :=
    (Int.le_floor.mpr (by exact_mod_cast significand)).trans (floor_le_roundHalfEven _)
  have whole : (2 : ℚ) ^ 52 ≤ roundHalfEven (q / 2 ^ ulpExponent q) := by
    exact_mod_cast floored
  calc
    (2 : ℚ) ^ k = 2 ^ (k : ℤ) := (zpow_natCast 2 k).symm
    _ ≤ 2 ^ Int.log 2 q := zpow_le_zpow_right₀ (by norm_num) reached
    _ = 2 ^ 52 * 2 ^ ulpExponent q := scale.symm
    _ ≤ round q := mul_le_mul_of_nonneg_right whole unit.le

/-- The values that round below 2^53: half a unit is enough to reach it. -/
theorem round_lt_two_pow_53_iff {q : ℚ} (nonneg : 0 ≤ q)
    : round q < 2 ^ 53 ↔ q < 2 ^ 53 - 1 / 2 := by
  constructor
  · intro rounded
    by_contra reached
    rw [not_lt] at reached
    rcases lt_or_ge q (2 ^ 53) with small | large
    · -- The last integer below 2^53 is odd, so a tie goes up.
      have unit := ulpExponent_eq_zero (by linarith) small
      have floored : ⌊q⌋ = 2 ^ 53 - 1 := by
        rw [Int.floor_eq_iff]
        push_cast
        constructor <;> linarith
      have up : roundHalfEven q = 2 ^ 53 := by
        unfold roundHalfEven
        rw [floored]
        push_cast
        rw [if_neg (by linarith)]
        norm_num
      rw [round, unit, zpow_zero, div_one, mul_one, up] at rounded
      norm_num at rounded
    · exact absurd (two_pow_le_round le_rfl large) (not_le.mpr rounded)
  · intro small
    have unit : (2 : ℚ) ^ ulpExponent q ≤ 1 :=
      zpow_le_one_of_nonpos₀ (by norm_num) (ulpExponent_nonpos nonneg (by linarith))
    have bounded := round_le_add_half_ulp q
    linarith

end Binary64

namespace Rounding

/-- Binary64: to nearest, ties to even, infinite from 2^1024 on. -/
def binary64 : Rounding where
  round := Binary64.round
  overflows := fun q => 2 ^ 1024 ≤ |Binary64.round q|
  round_nonneg := fun _ h => Binary64.round_nonneg h

theorem binary64_toNumber {q : ℚ} (nonneg : 0 ≤ q)
    : (binary64.toNumber q = .finite (Binary64.round q) ∧ Binary64.round q < 2 ^ 1024)
      ∨ (binary64.toNumber q = .infinity false ∧ 2 ^ 1024 ≤ Binary64.round q) := by
  have rounded := abs_of_nonneg (Binary64.round_nonneg nonneg)
  by_cases overflow : (2 : ℚ) ^ 1024 ≤ Binary64.round q
  · exact Or.inr
      ⟨by simp [toNumber, binary64, rounded, overflow, nonneg.not_gt], overflow⟩
  · exact Or.inl ⟨by simp [toNumber, binary64, rounded, overflow], not_le.mp overflow⟩

/-- Exact rational arithmetic. -/
def exact : Rounding where
  round := id
  overflows := fun _ => false
  round_nonneg := fun _ h => h

end Rounding

-----------------------------------------------------------------------------------------
-- Operations
-----------------------------------------------------------------------------------------

namespace Number

/-- `x + y`. -/
def add (fp : Rounding) : Number → Number → Number
  | .finite a, .finite b => fp.toNumber (a + b)
  | .infinity s, .infinity t => if s = t then .infinity s else .nan
  | .infinity s, .finite _ => .infinity s
  | .finite _, .infinity t => .infinity t
  | _, _ => .nan

/-- `x - y`. The difference of two values of one sign is no larger than they are, so it does
not overflow.
-/
def sub (fp : Rounding) : Number → Number → Number
  | .finite a, .finite b =>
      if 0 ≤ a ∧ 0 ≤ b then .finite (fp.round (a - b)) else fp.toNumber (a - b)
  | x, .finite b => add fp x (.finite (-b))
  | x, .infinity t => add fp x (.infinity (!t))
  | _, .nan => .nan

/-- `x * y`. -/
def mul (fp : Rounding) : Number → Number → Number
  | .finite a, .finite b => fp.toNumber (a * b)
  | .infinity s, .infinity t => .infinity (s != t)
  | .infinity s, .finite b => if b = 0 then .nan else .infinity (s != decide (b < 0))
  | .finite a, .infinity t => if a = 0 then .nan else .infinity (t != decide (a < 0))
  | _, _ => .nan

/-- `x / d` for a non-zero constant. -/
def divBy (fp : Rounding) (x : Number) (d : ℚ) : Number :=
  match x with
  | .finite a => fp.toNumber (a / d)
  | .infinity s => .infinity (s != decide (d < 0))
  | .nan => .nan

/-- `Math.floor(x)`. -/
def floor : Number → Number
  | .finite q => ofInt ⌊q⌋
  | other => other

/-- `Math.ceil(x)`. -/
def ceil : Number → Number
  | .finite q => ofInt ⌈q⌉
  | other => other

/-- `x < y`, false when either is NaN. -/
def lt : Number → Number → Bool
  | .finite a, .finite b => a < b
  | .finite _, .infinity t => !t
  | .infinity s, .finite _ => s
  | .infinity s, .infinity t => s && !t
  | _, _ => false

/-- `Math.min(x, y)`. -/
def min (x y : Number) : Number :=
  if x = .nan ∨ y = .nan then .nan else if lt y x then y else x

/-- `Math.max(x, y)`. -/
def max (x y : Number) : Number :=
  if x = .nan ∨ y = .nan then .nan else if lt x y then y else x

/-- `x === y`. -/
def strictEq (x y : Number) : Bool := x ≠ .nan ∧ x = y

-----------------------------------------------------------------------------------------
-- Signs
-----------------------------------------------------------------------------------------

theorem Nonneg.add {x y : Number} (fp : Rounding) (hx : x.Nonneg) (hy : y.Nonneg)
    : (Number.add fp x y).Nonneg := by
  rcases hx.cases with ⟨a, rfl, a_nonneg⟩ | rfl
  · rcases hy.cases with ⟨b, rfl, b_nonneg⟩ | rfl
    · exact fp.toNumber_nonneg (add_nonneg a_nonneg b_nonneg)
    · rfl
  · rcases hy.cases with ⟨b, rfl, b_nonneg⟩ | rfl
    · rfl
    · rfl

theorem FiniteNonneg.min {x y : Number} (hx : x.FiniteNonneg) (hy : y.FiniteNonneg)
    : (Number.min x y).FiniteNonneg := by
  obtain ⟨a, rfl, a_nonneg⟩ := hx.exists_finite
  obtain ⟨b, rfl, b_nonneg⟩ := hy.exists_finite
  simp only [Number.min, reduceCtorEq, or_self, if_false]
  split
  · exact b_nonneg
  · exact a_nonneg

/-- What a minimum leaves of a count is a count. -/
theorem FiniteNonneg.sub_min {x y : Number} (fp : Rounding) (hx : x.FiniteNonneg)
    (hy : y.FiniteNonneg)
    : (Number.sub fp x (Number.min y x)).FiniteNonneg := by
  obtain ⟨a, rfl, a_nonneg⟩ := hx.exists_finite
  obtain ⟨b, rfl, b_nonneg⟩ := hy.exists_finite
  simp only [Number.min, reduceCtorEq, or_self, if_false, lt]
  by_cases less : a < b
  · simpa [less, Number.sub, a_nonneg, FiniteNonneg] using fp.round_nonneg 0 le_rfl
  · simpa [less, Number.sub, a_nonneg, b_nonneg, FiniteNonneg]
      using fp.round_nonneg (a - b) (by linarith)

theorem FiniteNonneg.mul {x y : Number} (fp : Rounding) (hx : x.FiniteNonneg)
    (hy : y.FiniteNonneg)
    : (Number.mul fp x y).Nonneg := by
  obtain ⟨a, rfl, a_nonneg⟩ := hx.exists_finite
  obtain ⟨b, rfl, b_nonneg⟩ := hy.exists_finite
  exact fp.toNumber_nonneg (mul_nonneg a_nonneg b_nonneg)

theorem Nonneg.divBy {x : Number} (fp : Rounding) {d : ℚ} (hx : x.Nonneg) (positive : 0 < d)
    : (Number.divBy fp x d).Nonneg := by
  rcases hx.cases with ⟨a, rfl, a_nonneg⟩ | rfl
  · exact fp.toNumber_nonneg (div_nonneg a_nonneg positive.le)
  · simp [Number.divBy, Nonneg, positive.le]

theorem Nonneg.floor {x : Number} (hx : x.Nonneg) : x.floor.Amount := by
  rcases hx.cases with ⟨a, rfl, a_nonneg⟩ | rfl
  · exact Or.inl ⟨⌊a⌋, rfl, Int.floor_nonneg.mpr a_nonneg⟩
  · exact Or.inr rfl

theorem Amount.nonneg {x : Number} (hx : x.Amount) : x.Nonneg := by
  rcases hx with ⟨n, rfl, nonneg⟩ | rfl
  · exact Int.cast_nonneg nonneg
  · rfl

theorem Nonneg.ceil {x : Number} (hx : x.Nonneg) : x.ceil.Nonneg := by
  rcases hx.cases with ⟨a, rfl, a_nonneg⟩ | rfl
  · exact Int.cast_nonneg (Int.ceil_nonneg a_nonneg)
  · rfl

theorem Amount.min {x y : Number} (hx : x.Amount) (hy : y.Amount) : (Number.min x y).Amount := by
  unfold Number.min
  split
  · rename_i undefined
    rcases undefined with rfl | rfl
    · rcases hx with ⟨n, whole, _⟩ | infinite
      · cases whole
      · cases infinite
    · rcases hy with ⟨n, whole, _⟩ | infinite
      · cases whole
      · cases infinite
  · split
    · exact hy
    · exact hx

/-- Clamped between zero and a whole bound, an amount is a whole number in between. -/
theorem Amount.clamp {x : Number} {bound : ℤ} (hx : x.Amount) (bound_nonneg : 0 ≤ bound)
    : ∃ n : ℤ, (Number.max (ofInt 0) x).min (ofInt bound) = ofInt n ∧ 0 ≤ n ∧ n ≤ bound := by
  rcases hx with ⟨n, rfl, n_nonneg⟩ | rfl
  · have floored : Number.max (ofInt 0) (ofInt n) = ofInt n := by
      rcases n_nonneg.eq_or_lt with rfl | positive
      · simp [Number.max, ofInt, lt]
      · simp [Number.max, ofInt, lt, positive]
    rw [floored]
    by_cases above : bound < n
    · exact ⟨bound, by simp [Number.min, ofInt, lt, above], bound_nonneg, le_rfl⟩
    · exact ⟨n, by simp [Number.min, ofInt, lt, above], n_nonneg, by omega⟩
  · exact ⟨bound, by simp [Number.max, Number.min, ofInt, lt], bound_nonneg, le_rfl⟩

/-- A rounded value floors to a safe integer exactly below 2^53. -/
theorem safeInteger?_floor_toNumber {q : ℚ} (nonneg : 0 ≤ q)
    : (Rounding.binary64.toNumber q).floor.safeInteger?.isSome ↔ Binary64.round q < 2 ^ 53 := by
  rcases Rounding.binary64_toNumber nonneg with ⟨rounded, _⟩ | ⟨overflow, large⟩
  · have floored : 0 ≤ ⌊Binary64.round q⌋ :=
      Int.floor_nonneg.mpr (Binary64.round_nonneg nonneg)
    have below : ⌊Binary64.round q⌋ ≤ maxSafeInteger ↔ Binary64.round q < 2 ^ 53 := by
      rw [maxSafeInteger, Int.le_sub_one_iff, Int.floor_lt]
      norm_num
    simp [rounded, floor, safeInteger?_ofInt, abs_of_nonneg floored, below]
  · have bound : (2 : ℚ) ^ 53 ≤ 2 ^ 1024 := pow_le_pow_right₀ (by norm_num) (by norm_num)
    simp [overflow, floor, safeInteger?, bound.trans large]

/-- A quotient floors to a safe integer exactly below half a unit under 2^53 divisors. -/
theorem Nonneg.safeInteger?_floor_divBy {x : Number} {d : ℚ} (hx : x.Nonneg) (positive : 0 < d)
    : (x.divBy .binary64 d).floor.safeInteger?.isSome
      ↔ ∃ q, x = .finite q ∧ q < (2 ^ 53 - 1 / 2) * d := by
  rcases hx.cases with ⟨q, rfl, q_nonneg⟩ | rfl
  · have quotient : 0 ≤ q / d := div_nonneg q_nonneg positive.le
    have reached := Binary64.round_lt_two_pow_53_iff quotient
    rw [div_lt_iff₀ positive] at reached
    simp only [finite.injEq, exists_eq_left', ← reached]
    exact safeInteger?_floor_toNumber quotient
  · simp [Number.divBy, Number.floor, safeInteger?]

end Number

end Ecma
