import Mathlib.Algebra.Order.BigOperators.Group.List
import Nullsink.Lib.RoundingOrder

/-! Numbers as a SQL store keeps them: 64-bit INTEGERs and binary64 REALs, in columns of INTEGER
affinity, behind a driver that speaks Numbers. Where every value is a safe integer the columns count
exactly; past that a sum becomes a REAL, and a read rounds.
-/

namespace Relational

open Ecma

/-- A stored number. NaN is stored as NULL, so it is no REAL. -/
inductive SqlNumber where
  | integer (value : Int64)
  | real (value : Number) (notNull : value ≠ .nan)
  deriving DecidableEq

namespace SqlNumber

/-- The INTEGER of a whole number of 64 bits. -/
def ofInt (n : ℤ) : SqlNumber := .integer (Int64.ofInt n)

/-- The REAL of a double, or NULL. -/
def ofReal (x : Number) : Option SqlNumber :=
  if notNull : x ≠ .nan then some (.real x notNull) else none

/-- The value itself. -/
def toNumber : SqlNumber → Number
  | .integer value => .ofInt value.toInt
  | .real value _ => value

/-- The value as a double, which is what a driver reads and REAL arithmetic starts from. -/
def toDouble : SqlNumber → Number
  | .integer value => Rounding.binary64.toNumber value.toInt
  | .real value _ => value

/-- An operator on two INTEGERs whose result has 64 bits, and on doubles otherwise. -/
def arith (exact : ℤ → ℤ → ℤ) (double : Number → Number → Number)
    : SqlNumber → SqlNumber → Option SqlNumber
  | .integer a, .integer b =>
      let result := exact a.toInt b.toInt
      if -2 ^ 63 ≤ result ∧ result < 2 ^ 63 then some (ofInt result)
      else ofReal (double (toDouble (.integer a)) (toDouble (.integer b)))
  | x, y => ofReal (double x.toDouble y.toDouble)

/-- `x + y`. -/
def add : SqlNumber → SqlNumber → Option SqlNumber :=
  arith (· + ·) (Number.add .binary64)

/-- `x - y`. -/
def sub : SqlNumber → SqlNumber → Option SqlNumber :=
  arith (· - ·) (Number.sub .binary64)

/-- `x <= y`: values are compared exactly, whatever they are stored as. -/
def le (x y : SqlNumber) : Bool := x.toNumber.le y.toNumber

/-- What a column of INTEGER affinity keeps: a REAL that is a whole number becomes an INTEGER, the
first and the last of 64 bits apart.
-/
def integerAffinity : SqlNumber → SqlNumber
  | .integer value => .integer value
  | .real (.finite q) notNull =>
      if q.den = 1 ∧ -2 ^ 63 < q.num ∧ q.num < 2 ^ 63 - 1 then ofInt q.num
      else .real (.finite q) notNull
  | .real value notNull => .real value notNull

/-- The value of an INTEGER. -/
def integer? : SqlNumber → Option Int64
  | .integer value => some value
  | .real _ _ => none

/-- `SUM` over INTEGERs, which fails past 64 bits; by the running sum. -/
def sum? : List Int64 → Option ℤ :=
  List.foldl
    (fun sum value => do
      let result := (← sum) + value.toInt
      if -2 ^ 63 ≤ result ∧ result < 2 ^ 63 then some result else none)
    (some 0)

end SqlNumber

/-- What a driver and the store leave open: which whole numbers are bound as INTEGERs, the others
being bound as REALs, and whether a row that an upsert excludes has the columns' affinity.
-/
structure Driver where
  bindsInteger : ℤ → Bool
  convertsExcluded : Bool

/-- The driver that binds the whole numbers of 52 bits as INTEGERs. -/
def Driver.int52 : Driver where
  bindsInteger n := -2 ^ 51 ≤ n ∧ n < 2 ^ 51
  convertsExcluded := true

namespace Driver

variable (driver : Driver)

/-- The stored number a Number is bound as; NaN is bound as NULL. -/
def bind : Number → Option SqlNumber
  | .finite q =>
      if q.den = 1 ∧ -2 ^ 63 ≤ q.num ∧ q.num < 2 ^ 63 ∧ driver.bindsInteger q.num then
        some (.ofInt q.num)
      else SqlNumber.ofReal (.finite q)
  | x => SqlNumber.ofReal x

/-- A bound number as `excluded` gives it. -/
def excluded (bound : SqlNumber) : SqlNumber :=
  if driver.convertsExcluded then bound.integerAffinity else bound

end Driver

-----------------------------------------------------------------------------------------
-- Safe integers
-----------------------------------------------------------------------------------------

namespace SqlNumber

variable {x y : SqlNumber} {n m : ℤ}

/-- The stored forms of a whole number. -/
inductive Denotes : SqlNumber → ℤ → Prop
  | integer (n : ℤ) : Denotes (ofInt n) n
  | real (n : ℤ) (notNull : Number.ofInt n ≠ .nan) : Denotes (.real (.ofInt n) notNull) n

theorem toInt_ofInt (safe : |n| ≤ Number.maxSafeInteger) : (Int64.ofInt n).toInt = n := by
  have bounds := abs_le.mp safe
  unfold Number.maxSafeInteger at bounds
  exact Int64.toInt_ofInt_of_le (by omega) (by omega)

theorem toNumber_ofInt (safe : |n| ≤ Number.maxSafeInteger) : (ofInt n).toNumber = .ofInt n := by
  rw [ofInt, toNumber, toInt_ofInt safe]

theorem toDouble_ofInt (safe : |n| ≤ Number.maxSafeInteger) : (ofInt n).toDouble = .ofInt n := by
  rw [ofInt, toDouble, toInt_ofInt safe, Rounding.binary64_ofInt safe]

theorem ofReal_ofInt (n : ℤ) : ∃ notNull, ofReal (.ofInt n) = some (.real (.ofInt n) notNull) := by
  have notNull : Number.ofInt n ≠ .nan := by simp [Number.ofInt]
  exact ⟨notNull, dif_pos notNull⟩

theorem Denotes.toDouble (denotes : x.Denotes n) (safe : |n| ≤ Number.maxSafeInteger)
    : x.toDouble = .ofInt n := by
  cases denotes with
  | integer => exact toDouble_ofInt safe
  | real => rfl

theorem Denotes.toNumber (denotes : x.Denotes n) (safe : |n| ≤ Number.maxSafeInteger)
    : x.toNumber = .ofInt n := by
  cases denotes with
  | integer => exact toNumber_ofInt safe
  | real => rfl

/-- A column of INTEGER affinity keeps a safe integer as an INTEGER. -/
theorem Denotes.integerAffinity (denotes : x.Denotes n) (safe : |n| ≤ Number.maxSafeInteger)
    : x.integerAffinity = ofInt n := by
  cases denotes with
  | integer => rfl
  | real =>
      have bounds := abs_le.mp safe
      unfold Number.maxSafeInteger at bounds
      have whole : (n : ℚ).den = 1 ∧ -2 ^ 63 < (n : ℚ).num ∧ (n : ℚ).num < 2 ^ 63 - 1 := by
        rw [Rat.num_intCast]
        exact ⟨Rat.den_intCast n, by omega, by omega⟩
      simp only [Number.ofInt, SqlNumber.integerAffinity]
      rw [if_pos whole, Rat.num_intCast]

theorem Denotes.le (first : x.Denotes n) (second : y.Denotes m)
    (safeFirst : |n| ≤ Number.maxSafeInteger) (safeSecond : |m| ≤ Number.maxSafeInteger)
    : x.le y = true ↔ n ≤ m := by
  rw [SqlNumber.le, first.toNumber safeFirst, second.toNumber safeSecond]
  simp [Number.ofInt, Number.le]

/-- An operator that is exact on doubles is exact on stored numbers. -/
theorem arith_denotes {exact : ℤ → ℤ → ℤ} {double : Number → Number → Number}
    (first : x.Denotes n) (second : y.Denotes m) (safeFirst : |n| ≤ Number.maxSafeInteger)
    (safeSecond : |m| ≤ Number.maxSafeInteger) (safe : |exact n m| ≤ Number.maxSafeInteger)
    (doubles : double (.ofInt n) (.ofInt m) = .ofInt (exact n m))
    : ∃ result, arith exact double x y = some result ∧ result.Denotes (exact n m) := by
  have onDoubles
      : ∃ result, ofReal (double x.toDouble y.toDouble) = some result
          ∧ result.Denotes (exact n m) := by
    obtain ⟨notNull, stored⟩ := ofReal_ofInt (exact n m)
    rw [first.toDouble safeFirst, second.toDouble safeSecond, doubles]
    exact ⟨_, stored, .real _ _⟩
  cases first with
  | real => exact onDoubles
  | integer =>
      cases second with
      | real => exact onDoubles
      | integer =>
          have bounds := abs_le.mp safe
          unfold Number.maxSafeInteger at bounds
          have small : -2 ^ 63 ≤ exact n m ∧ exact n m < 2 ^ 63 := by omega
          refine ⟨ofInt (exact n m), ?_, .integer _⟩
          simp only [ofInt, arith, toInt_ofInt safeFirst, toInt_ofInt safeSecond, if_pos small]

theorem Denotes.add (first : x.Denotes n) (second : y.Denotes m)
    (safeFirst : |n| ≤ Number.maxSafeInteger) (safeSecond : |m| ≤ Number.maxSafeInteger)
    (safe : |n + m| ≤ Number.maxSafeInteger)
    : ∃ result, x.add y = some result ∧ result.Denotes (n + m) :=
  arith_denotes first second safeFirst safeSecond safe (Number.add_ofInt safe)

theorem Denotes.sub (first : x.Denotes n) (second : y.Denotes m)
    (safeFirst : |n| ≤ Number.maxSafeInteger) (safeSecond : |m| ≤ Number.maxSafeInteger)
    (safe : |n - m| ≤ Number.maxSafeInteger)
    : ∃ result, x.sub y = some result ∧ result.Denotes (n - m) :=
  arith_denotes first second safeFirst safeSecond safe (Number.sub_ofInt safe)

theorem toDouble_nonneg (zero : 0 ≤ n) (small : n < 2 ^ 63) : (ofInt n).toDouble.Nonneg := by
  rw [ofInt, toDouble, Int64.toInt_ofInt_of_le (by omega) small]
  exact Rounding.binary64.toNumber_nonneg (by exact_mod_cast zero)

theorem integerAffinity_nonneg (nonneg : x.toDouble.Nonneg)
    : x.integerAffinity.toDouble.Nonneg := by
  cases x with
  | integer value => exact nonneg
  | real value notNull =>
      cases value with
      | finite q =>
          simp only [SqlNumber.integerAffinity]
          split
          · exact toDouble_nonneg (Rat.num_nonneg.mpr nonneg) (by omega)
          · exact nonneg
      | infinity negative => exact nonneg
      | nan => exact absurd rfl notNull

/-- Amounts of at least zero are summed while their total has 64 bits; by induction on them. -/
theorem sum?_of_nonneg {ns : List ℤ} (nonneg : ∀ n ∈ ns, 0 ≤ n)
    (safe : ∀ n ∈ ns, n ≤ Number.maxSafeInteger) (small : ns.sum < 2 ^ 63)
    : sum? (ns.map Int64.ofInt) = some ns.sum := by
  have along (earlier : ℤ) (zero : 0 ≤ earlier) (bound : earlier + ns.sum < 2 ^ 63)
      : (ns.map Int64.ofInt).foldl
            (fun sum value => do
              let result := (← sum) + value.toInt
              if -2 ^ 63 ≤ result ∧ result < 2 ^ 63 then some result else none)
            (some earlier)
          = some (earlier + ns.sum) := by
    induction ns generalizing earlier with
    | nil => simp
    | cons n rest ih =>
        obtain ⟨first, others⟩ := List.forall_mem_cons.mp nonneg
        obtain ⟨firstSafe, othersSafe⟩ := List.forall_mem_cons.mp safe
        have later : 0 ≤ rest.sum := List.sum_nonneg others
        rw [List.sum_cons] at bound
        have value : (Int64.ofInt n).toInt = n := toInt_ofInt (by rwa [abs_of_nonneg first])
        have kept : -2 ^ 63 ≤ earlier + n ∧ earlier + n < 2 ^ 63 := by omega
        rw [List.map_cons, List.foldl_cons, List.sum_cons, ← add_assoc]
        simp only [Option.bind_eq_bind, Option.bind_some, value, if_pos kept]
        exact ih others othersSafe (by rw [List.sum_cons] at small; omega) _ (by omega) (by omega)
  have total := along 0 le_rfl (by rwa [zero_add])
  rwa [zero_add] at total

/-- Values that read as at least zero have a sum. -/
theorem add_of_nonneg (first : x.toDouble.Nonneg) (second : y.toDouble.Nonneg)
    : ∃ sum, x.add y = some sum := by
  have notNull : Number.add .binary64 x.toDouble y.toDouble ≠ .nan := by
    intro same
    have sum := first.add .binary64 second
    rw [same] at sum
    exact sum
  cases x with
  | real value _ => exact ⟨_, dif_pos notNull⟩
  | integer a =>
      cases y with
      | real value _ => exact ⟨_, dif_pos notNull⟩
      | integer b =>
          simp only [SqlNumber.add, arith]
          split
          · exact ⟨_, rfl⟩
          · exact ⟨_, dif_pos notNull⟩

end SqlNumber

/-- Whatever the driver, a whole number is bound as one of its stored forms. -/
theorem Driver.bind_ofInt (driver : Driver) (n : ℤ)
    : ∃ bound, driver.bind (.ofInt n) = some bound ∧ bound.Denotes n := by
  simp only [Number.ofInt, Driver.bind]
  by_cases bound
    : (n : ℚ).den = 1 ∧ -2 ^ 63 ≤ (n : ℚ).num ∧ (n : ℚ).num < 2 ^ 63
      ∧ driver.bindsInteger (n : ℚ).num
  · rw [if_pos bound, Rat.num_intCast]
    exact ⟨_, rfl, .integer n⟩
  · rw [if_neg bound]
    obtain ⟨notNull, stored⟩ := SqlNumber.ofReal_ofInt n
    exact ⟨_, stored, .real n notNull⟩

/-- Only NaN is bound as NULL. -/
theorem Driver.bind_ne_none (driver : Driver) {x : Number} (notNull : x ≠ .nan)
    : driver.bind x ≠ none := by
  cases x with
  | finite q =>
      rw [Driver.bind, SqlNumber.ofReal, dif_pos notNull]
      split <;> simp
  | infinity negative => simp [Driver.bind, SqlNumber.ofReal]
  | nan => exact absurd rfl notNull

/-- What a driver binds of a value of at least zero reads as one. -/
theorem Driver.bind_nonneg (driver : Driver) {x : Number} (nonneg : x.Nonneg)
    : ∃ bound, driver.bind x = some bound ∧ bound.toDouble.Nonneg := by
  rcases nonneg.cases with ⟨q, rfl, zero⟩ | rfl
  · rw [Driver.bind]
    split
    · rename_i bounds
      exact ⟨_, rfl, SqlNumber.toDouble_nonneg (Rat.num_nonneg.mpr zero) bounds.2.2.1⟩
    · exact ⟨_, dif_pos (by simp), zero⟩
  · exact ⟨.real (.infinity false) (by simp), by simp [Driver.bind, SqlNumber.ofReal], rfl⟩

theorem Driver.excluded_nonneg (driver : Driver) {bound : SqlNumber}
    (nonneg : bound.toDouble.Nonneg)
    : (driver.excluded bound).toDouble.Nonneg := by
  unfold Driver.excluded
  split
  · exact SqlNumber.integerAffinity_nonneg nonneg
  · exact nonneg

theorem Driver.excluded_denotes (driver : Driver) {bound : SqlNumber} {n : ℤ}
    (denotes : bound.Denotes n) (safe : |n| ≤ Number.maxSafeInteger)
    : (driver.excluded bound).Denotes n := by
  unfold Driver.excluded
  split
  · rw [denotes.integerAffinity safe]
    exact .integer _
  · exact denotes

end Relational
