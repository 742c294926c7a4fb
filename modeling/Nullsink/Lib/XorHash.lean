import Mathlib.Data.Nat.ModEq
import Mathlib.Data.Nat.Prime.Basic

/-! Hashes that xor each character into their state and multiply it by an odd number, as FNV-1a
does: a state of fewer bits is the hash of fewer bits, and two texts that differ in one character,
or in the order of two neighbours, never have the same hash.
-/

namespace Checksum

-----------------------------------------------------------------------------------------
-- States that agree but for their low bits
-----------------------------------------------------------------------------------------

section AgreeAbove

variable {w k : ℕ}

/-- Equal but for the low bits. -/
def AgreeAbove (k : ℕ) (x y : BitVec w) : Prop :=
  x.toNat / 2 ^ k = y.toNat / 2 ^ k

theorem AgreeAbove.symm {x y : BitVec w} (agree : AgreeAbove k x y) : AgreeAbove k y x :=
  Eq.symm agree

theorem AgreeAbove.trans {x y z : BitVec w} (first : AgreeAbove k x y)
    (second : AgreeAbove k y z)
    : AgreeAbove k x z :=
  Eq.trans first second

/-- A small character changes the low bits only. -/
theorem agreeAbove_xor {c : BitVec w} (small : c.toNat < 2 ^ k) (x : BitVec w)
    : AgreeAbove k (x ^^^ c) x := by
  unfold AgreeAbove
  rw [BitVec.toNat_xor, Nat.xor_div_two_pow, Nat.div_eq_of_lt small, Nat.xor_zero]

/-- Numbers in one block of a size are less than the size apart. -/
theorem lt_add_of_div_eq {size a b : ℕ} (positive : 0 < size) (same : a / size = b / size)
    : b < a + size := by
  have above : b < size * (b / size + 1) := Nat.lt_mul_div_succ b positive
  have below : size * (a / size) ≤ a := Nat.mul_div_le a size
  rw [same] at below
  rw [Nat.mul_add, Nat.mul_one] at above
  omega

/-- A multiplier that is large against a block and small against the modulus takes two numbers of
one block to different blocks: their products are at least a block apart, and do not wrap around.
-/
theorem mul_mod_div_ne {size multiplier modulus a b : ℕ} (positive : 0 < size) (lt : a < b)
    (same : a / size = b / size) (large : size ≤ multiplier)
    (fits : multiplier * size + size ≤ modulus)
    : a * multiplier % modulus / size ≠ b * multiplier % modulus / size := by
  intro products
  obtain ⟨gap, rfl⟩ := Nat.exists_eq_add_of_lt lt
  have near := lt_add_of_div_eq positive same
  have above := lt_add_of_div_eq positive products
  have below := lt_add_of_div_eq positive products.symm
  have first := Nat.div_add_mod (a * multiplier) modulus
  have second := Nat.div_add_mod ((a + gap + 1) * multiplier) modulus
  have apart : (a + gap + 1) * multiplier = a * multiplier + (gap + 1) * multiplier := by
    rw [Nat.add_assoc, Nat.add_mul]
  have atLeast : multiplier ≤ (gap + 1) * multiplier := Nat.le_mul_of_pos_left _ (by omega)
  have atMost : (gap + 1) * multiplier ≤ multiplier * size := by
    rw [Nat.mul_comm]
    exact Nat.mul_le_mul_left _ (by omega)
  rcases Nat.lt_or_ge (a * multiplier / modulus) ((a + gap + 1) * multiplier / modulus)
    with wrapped | straight
  · have turn := Nat.mul_le_mul_left modulus wrapped
    rw [Nat.mul_succ] at turn
    omega
  · have turn := Nat.mul_le_mul_left modulus straight
    omega

/-- So states that agree above the low bits before and after such a multiplication are equal. -/
theorem AgreeAbove.eq_of_mul {x y multiplier : BitVec w}
    (agree : AgreeAbove k x y) (products : AgreeAbove k (x * multiplier) (y * multiplier))
    (large : 2 ^ k ≤ multiplier.toNat)
    (fits : multiplier.toNat * 2 ^ k + 2 ^ k ≤ 2 ^ w)
    : x = y := by
  have positive : 0 < 2 ^ k := Nat.two_pow_pos k
  apply BitVec.eq_of_toNat_eq
  rcases Nat.lt_trichotomy x.toNat y.toNat with lt | same | gt
  · exact absurd products (mul_mod_div_ne positive lt agree large fits)
  · exact same
  · exact absurd products.symm (mul_mod_div_ne positive gt agree.symm large fits)

end AgreeAbove

-----------------------------------------------------------------------------------------
-- The hash
-----------------------------------------------------------------------------------------

/-- A hash of texts whose characters are as wide as its state. -/
structure XorHash (w : ℕ) where
  basis : BitVec w
  multiplier : BitVec w
  odd : Odd multiplier.toNat

namespace XorHash

variable {w : ℕ} (hash : XorHash w)

def step (state c : BitVec w) : BitVec w := (state ^^^ c) * hash.multiplier

/-- The state after a text. -/
def run (state : BitVec w) (chars : List (BitVec w)) : BitVec w := chars.foldl hash.step state

def digest (chars : List (BitVec w)) : BitVec w := hash.run hash.basis chars

theorem run_append (state : BitVec w) (first second : List (BitVec w))
    : hash.run state (first ++ second) = hash.run (hash.run state first) second :=
  List.foldl_append

/-- The hash of the low bits. -/
def truncate {n : ℕ} (hash : XorHash w) (within : n ≤ w) (some : n ≠ 0) : XorHash n where
  basis := hash.basis.setWidth n
  multiplier := hash.multiplier.setWidth n
  odd := by
    obtain ⟨m, rfl⟩ := Nat.exists_eq_succ_of_ne_zero some
    have odd := hash.odd
    rw [Nat.odd_iff] at odd ⊢
    rw [BitVec.toNat_setWidth, Nat.pow_succ, Nat.mod_mul_left_mod, odd]

variable {hash} {state state' : BitVec w} {c c' : BitVec w} {rest : List (BitVec w)}

theorem mul_cancel {x y : BitVec w} (same : x * hash.multiplier = y * hash.multiplier)
    : x = y := by
  have coprime : Nat.gcd (2 ^ w) hash.multiplier.toNat = 1 :=
    hash.odd.coprime_two_left.pow_left w
  have congruent : x.toNat * hash.multiplier.toNat ≡ y.toNat * hash.multiplier.toNat [MOD 2 ^ w] :=
    congrArg BitVec.toNat same
  exact BitVec.eq_of_toNat_eq
    ((congruent.cancel_right_of_coprime coprime).eq_of_lt_of_lt x.isLt y.isLt)

/-- Nothing that is read after two states brings them together; by induction on what is read. -/
theorem run_injective (chars : List (BitVec w))
    (same : hash.run state chars = hash.run state' chars)
    : state = state' := by
  induction chars generalizing state state' with
  | nil => exact same
  | cons c rest ih => exact (BitVec.xor_left_inj c).mp (mul_cancel (ih same))

/-- A replaced character changes the hash. -/
theorem digest_replace_ne (before after : List (BitVec w)) (other : c' ≠ c)
    : hash.digest (before ++ c' :: after) ≠ hash.digest (before ++ c :: after) := by
  intro same
  rw [digest, digest, run_append, run_append] at same
  have steps := run_injective after same
  exact other ((BitVec.xor_right_inj _).mp (mul_cancel steps))

/-- Two neighbours that are swapped change the hash, where characters fill low bits that the
multiplier spreads.
-/
theorem digest_swap_ne {k : ℕ} (large : 2 ^ k ≤ hash.multiplier.toNat)
    (fits : hash.multiplier.toNat * 2 ^ k + 2 ^ k ≤ 2 ^ w) (before after : List (BitVec w))
    (small : c.toNat < 2 ^ k) (small' : c'.toNat < 2 ^ k) (other : c' ≠ c)
    : hash.digest (before ++ c' :: c :: after) ≠ hash.digest (before ++ c :: c' :: after) := by
  intro same
  rw [digest, digest, run_append, run_append] at same
  generalize reached : hash.run hash.basis before = state at same
  have steps : (state ^^^ c') * hash.multiplier ^^^ c = (state ^^^ c) * hash.multiplier ^^^ c' :=
    mul_cancel (run_injective after same)
  have agree : AgreeAbove k (state ^^^ c') (state ^^^ c) :=
    (agreeAbove_xor small' state).trans (agreeAbove_xor small state).symm
  have products
      : AgreeAbove k ((state ^^^ c') * hash.multiplier) ((state ^^^ c) * hash.multiplier) := by
    refine (agreeAbove_xor small _).symm.trans ?_
    rw [steps]
    exact agreeAbove_xor small' _
  exact other ((BitVec.xor_right_inj state).mp (agree.eq_of_mul products large fits))

/-- The low bits of a hash are the hash of the low bits; by induction on the text. -/
theorem setWidth_run {n : ℕ} (within : n ≤ w) (some : n ≠ 0) (state : BitVec w)
    (chars : List (BitVec w))
    : (hash.run state chars).setWidth n
      = (hash.truncate within some).run (state.setWidth n) (chars.map (BitVec.setWidth n)) := by
  induction chars generalizing state with
  | nil => rfl
  | cons c rest ih =>
      have stepped : (hash.step state c).setWidth n
          = (hash.truncate within some).step (state.setWidth n) (c.setWidth n) := by
        simp only [step, truncate, BitVec.setWidth_mul _ _ within, BitVec.setWidth_xor]
      show (hash.run (hash.step state c) rest).setWidth n = _
      rw [ih, stepped]
      rfl

theorem setWidth_digest {n : ℕ} (within : n ≤ w) (some : n ≠ 0) (chars : List (BitVec w))
    : (hash.digest chars).setWidth n
      = (hash.truncate within some).digest (chars.map (BitVec.setWidth n)) :=
  setWidth_run within some _ chars

end XorHash

end Checksum
