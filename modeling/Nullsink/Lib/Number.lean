import Mathlib.Algebra.Order.Ring.Rat
import Mathlib.Data.Int.Log
import Mathlib.Data.Rat.Floor

/-! ECMAScript Number values: binary64 data, with arithmetic that rounds to nearest, ties to
even. A finite value is kept as the rational it denotes, so the two zeros are one value.
-/

namespace Ecma

namespace Binary64

/-- The exponent of one unit in the last place of a 53-bit significand at `q`, which stops at
the subnormal spacing.
-/
def ulpExponent (q : ℚ) : ℤ :=
  max (Int.log 2 |q| - 52) (-1074)

/-- The nearest integer, and the even one of two equally near. -/
def roundHalfEven (q : ℚ) : ℤ :=
  if q - ⌊q⌋ < 1 / 2 then ⌊q⌋
  else if 1 / 2 < q - ⌊q⌋ then ⌊q⌋ + 1
  else if ⌊q⌋ % 2 = 0 then ⌊q⌋
  else ⌊q⌋ + 1

/-- The nearest binary64 value with an unbounded exponent above: overflow is the caller's. -/
def round (q : ℚ) : ℚ :=
  roundHalfEven (q / 2 ^ ulpExponent q) * 2 ^ ulpExponent q

/-- `Math.round`: the nearest integer, and the greater one of two equally near. -/
def mathRound (q : ℚ) : ℤ := ⌊q + 1 / 2⌋

/-- The factors of 49/98 = 1/2 round to less than one half in sequence. -/
example : round (49 * round (1 / 98)) < 1 / 2 := by decide +kernel

end Binary64

/-- A Number: a finite value, one of the infinities, or NaN. -/
inductive Number where
  | finite (value : ℚ)
  | infinity (negative : Bool)
  | nan
  deriving DecidableEq

namespace Number

/-- `Number.MAX_SAFE_INTEGER`. -/
def maxSafeInteger : ℤ := 2 ^ 53 - 1

/-- An integer as a Number, exact up to `maxSafeInteger`. -/
def ofInt (n : ℤ) : Number := .finite n

/-- `Number.isSafeInteger(x)`, with the integer it finds. -/
def safeInteger? : Number → Option ℤ
  | .finite q => if q.den = 1 ∧ |q.num| ≤ maxSafeInteger then some q.num else none
  | _ => none

/-- A safe integer denotes the integer it is read as. -/
theorem eq_ofInt_of_safeInteger? {x : Number} {n : ℤ} (h : x.safeInteger? = some n)
    : x = ofInt n := by
  cases x with
  | finite q =>
      simp only [safeInteger?, Option.ite_none_right_eq_some, Option.some.injEq] at h
      obtain ⟨⟨whole, _⟩, rfl⟩ := h
      simp [ofInt, Rat.coe_int_num_of_den_eq_one whole]
  | infinity negative => simp [safeInteger?] at h
  | nan => simp [safeInteger?] at h

theorem ofInt_injective {a b : ℤ} (h : ofInt a = ofInt b) : a = b := by
  simpa [ofInt] using h

theorem safeInteger?_ofInt {n : ℤ}
    : (ofInt n).safeInteger? = if |n| ≤ maxSafeInteger then some n else none := by
  simp [ofInt, safeInteger?]

/-- A whole number is a safe integer of at least zero exactly within these bounds. -/
theorem filter_safeInteger?_ofInt (n : ℤ)
    : ((ofInt n).safeInteger?.filter (fun amount => 0 ≤ amount)).isSome
      ↔ 0 ≤ n ∧ n ≤ maxSafeInteger := by
  rw [safeInteger?_ofInt]
  constructor
  · intro accepted
    obtain ⟨amount, found⟩ := Option.isSome_iff_exists.mp accepted
    obtain ⟨safe, nonneg⟩ := Option.filter_eq_some_iff.mp found
    obtain ⟨bound, same⟩ := Option.ite_none_right_eq_some.mp safe
    cases same
    exact ⟨of_decide_eq_true nonneg, (le_abs_self n).trans bound⟩
  · rintro ⟨nonneg, bound⟩
    rw [if_pos (by rwa [abs_of_nonneg nonneg])]
    simp [nonneg]

theorem abs_le_of_safeInteger? {x : Number} {n : ℤ} (h : x.safeInteger? = some n)
    : |n| ≤ maxSafeInteger := by
  rw [eq_ofInt_of_safeInteger? h, safeInteger?_ofInt] at h
  by_contra large
  simp [large] at h

end Number

end Ecma
