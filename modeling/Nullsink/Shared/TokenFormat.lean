import Mathlib.Data.List.GetD
import Mathlib.Data.List.Nodup
import Nullsink.Lib.Json
import Nullsink.Lib.XorHash

/-! The token format of `token-format.ts`: what a minted token is, and the checksum that tells a
mistyped one from it.
-/

namespace Nullsink.Shared

open Checksum Ecma

-----------------------------------------------------------------------------------------
-- The format
-----------------------------------------------------------------------------------------

/-- `text.slice(start, stop)`. -/
def slice (text : List CodeUnit) (start stop : ℕ) : List CodeUnit := (text.take stop).drop start

def alphabet : List CodeUnit :=
  codeUnits "ABCDEFGHIJKLMNOPQRSTUVWXYZabcdefghijklmnopqrstuvwxyz0123456789-_"

/-- `ALPHABET[v & 63]`. -/
def digit (v : BitVec 32) : CodeUnit := alphabet.getD (v &&& 63#32).toNat 0

/-- A range of a character class. -/
def inRange (first last : Char) (c : CodeUnit) : Bool :=
  first.toNat ≤ c.toNat ∧ c.toNat ≤ last.toNat

/-- `[A-Za-z0-9_-]`. -/
def isBase64Url (c : CodeUnit) : Bool :=
  inRange 'A' 'Z' c || inRange 'a' 'z' c || inRange '0' '9' c || inRange '_' '_' c
    || inRange '-' '-' c

def tokenPrefix : List CodeUnit := codeUnits "0sink_"

/-- `TOKEN_RE.test(token)`. -/
def tokenRe (token : List CodeUnit) : Bool :=
  token.take 6 = tokenPrefix ∧ (token.drop 6).length = 47 ∧ (token.drop 6).all isBase64Url

/-- `tokenChecksum`, whose `Math.imul` keeps the low 32 bits of a product. -/
def tokenChecksum (random : List CodeUnit) : List CodeUnit :=
  let h := random.foldl (fun h c => (h ^^^ c.setWidth 32) * 0x01000193#32) 0x811c9dc5#32
  let v := h &&& 0xffffff#32
  [digit (v >>> 18), digit (v >>> 12), digit (v >>> 6), digit v]

def isValidTokenFormat (token : List CodeUnit) : Bool :=
  if ¬tokenRe token then false
  else
    let random := slice token 6 49
    tokenChecksum random = token.drop 49

/-- `mintToken`, from the text of its random bytes. -/
def mintToken (random : List CodeUnit) : List CodeUnit :=
  tokenPrefix ++ random ++ tokenChecksum random

-----------------------------------------------------------------------------------------
-- The checksum
-----------------------------------------------------------------------------------------

/-- FNV-1a with 32 bits. -/
def fnv1a : XorHash 32 where
  basis := 0x811c9dc5#32
  multiplier := 0x01000193#32
  odd := by decide

/-- The 24 bits of it that the checksum keeps. -/
def lowFnv1a : XorHash 24 := fnv1a.truncate (by decide) (by decide)

/-- A code unit as the low hash reads it. -/
def widen (c : CodeUnit) : BitVec 24 := (c.setWidth 32).setWidth 24

theorem toNat_widen (c : CodeUnit) : (widen c).toNat = c.toNat := by
  have small := c.isLt
  simp only [widen, BitVec.toNat_setWidth]
  omega

theorem widen_injective {c c' : CodeUnit} (same : widen c = widen c') : c = c' := by
  apply BitVec.eq_of_toNat_eq
  rw [← toNat_widen c, ← toNat_widen c', same]

theorem alphabet_nodup : alphabet.Nodup := by decide +kernel

theorem toNat_and_63 (v : BitVec 32) : (v &&& 63#32).toNat = v.toNat % 64 := by
  rw [BitVec.toNat_and]
  exact Nat.and_two_pow_sub_one_eq_mod v.toNat 6

theorem and_63_lt (v : BitVec 32) : (v &&& 63#32).toNat < alphabet.length := by
  have size : alphabet.length = 64 := by decide +kernel
  rw [toNat_and_63, size]
  exact Nat.mod_lt _ (by decide)

/-- A digit tells its six bits. -/
theorem digit_injective {v v' : BitVec 32} (same : digit v = digit v')
    : v.toNat % 64 = v'.toNat % 64 := by
  rw [digit, digit, List.getD_eq_getElem _ _ (and_63_lt v),
    List.getD_eq_getElem _ _ (and_63_lt v')] at same
  rw [← toNat_and_63, ← toNat_and_63]
  exact alphabet_nodup.getElem_inj_iff.mp same

/-- Four digits tell a number of 24 bits. -/
theorem digits_injective {v v' : BitVec 32} (small : v.toNat < 2 ^ 24) (small' : v'.toNat < 2 ^ 24)
    (same
      : [digit (v >>> 18), digit (v >>> 12), digit (v >>> 6), digit v]
        = [digit (v' >>> 18), digit (v' >>> 12), digit (v' >>> 6), digit v'])
    : v = v' := by
  simp only [List.cons.injEq, and_true] at same
  obtain ⟨first, second, third, fourth⟩ := same
  have high := digit_injective first
  have upper := digit_injective second
  have lower := digit_injective third
  have last := digit_injective fourth
  simp only [BitVec.toNat_ushiftRight, Nat.shiftRight_eq_div_pow] at high upper lower
  apply BitVec.eq_of_toNat_eq
  omega

theorem toNat_low (h : BitVec 32) : (h &&& 0xffffff#32).toNat = (h.setWidth 24).toNat := by
  rw [BitVec.toNat_and, BitVec.toNat_setWidth]
  exact Nat.and_two_pow_sub_one_eq_mod h.toNat 24

/-- The low bits of the state are the low hash of the text. -/
theorem setWidth_foldl (random : List CodeUnit)
    : (random.foldl (fun h c => (h ^^^ c.setWidth 32) * 0x01000193#32) 0x811c9dc5#32).setWidth 24
      = lowFnv1a.digest (random.map widen) := by
  have whole
      : random.foldl (fun h c => (h ^^^ c.setWidth 32) * 0x01000193#32) 0x811c9dc5#32
        = fnv1a.digest (random.map (BitVec.setWidth 32)) := by
    rw [XorHash.digest, XorHash.run, List.foldl_map]
    rfl
  rw [whole, XorHash.setWidth_digest (by decide) (by decide), List.map_map]
  rfl

/-- A checksum tells the low hash it was made of. -/
theorem digest_of_tokenChecksum {random random' : List CodeUnit}
    (same : tokenChecksum random = tokenChecksum random')
    : lowFnv1a.digest (random.map widen) = lowFnv1a.digest (random'.map widen) := by
  have small (h : BitVec 32) : (h &&& 0xffffff#32).toNat < 2 ^ 24 := by
    rw [toNat_low]
    exact (h.setWidth 24).isLt
  rw [← setWidth_foldl, ← setWidth_foldl]
  apply BitVec.eq_of_toNat_eq
  rw [← toNat_low, ← toNat_low, digits_injective (small _) (small _) same]

/-- A replaced character of the random part has another checksum. -/
theorem tokenChecksum_replace_ne (before after : List CodeUnit) {c c' : CodeUnit}
    (other : c' ≠ c)
    : tokenChecksum (before ++ c' :: after) ≠ tokenChecksum (before ++ c :: after) := by
  intro same
  have digests := digest_of_tokenChecksum same
  rw [List.map_append, List.map_append, List.map_cons, List.map_cons] at digests
  exact XorHash.digest_replace_ne _ _ (fun wide => other (widen_injective wide)) digests

/-- Swapped neighbours of seven bits have another checksum. -/
theorem tokenChecksum_swap_ne (before after : List CodeUnit) {c c' : CodeUnit}
    (ascii : c.toNat < 128) (ascii' : c'.toNat < 128) (other : c' ≠ c)
    : tokenChecksum (before ++ c' :: c :: after) ≠ tokenChecksum (before ++ c :: c' :: after) := by
  intro same
  have digests := digest_of_tokenChecksum same
  simp only [List.map_append, List.map_cons] at digests
  refine XorHash.digest_swap_ne (k := 7) ?_ ?_ _ _ ?_ ?_
    (fun wide => other (widen_injective wide)) digests
  · decide
  · decide
  · rw [toNat_widen]
    exact ascii
  · rw [toNat_widen]
    exact ascii'

-----------------------------------------------------------------------------------------
-- Valid tokens
-----------------------------------------------------------------------------------------

/-- A token that passes both checks. -/
structure ValidToken (token : List CodeUnit) : Prop where
  head : token.take 6 = tokenPrefix
  length : token.length = 53
  base64Url : ∀ c ∈ token.drop 6, isBase64Url c = true
  checksum : tokenChecksum (slice token 6 49) = token.drop 49

theorem tokenPrefix_length : tokenPrefix.length = 6 := by decide

theorem isValidTokenFormat_iff {token : List CodeUnit}
    : isValidTokenFormat token = true ↔ ValidToken token := by
  have shape : tokenRe token = true
      ↔ token.take 6 = tokenPrefix ∧ token.length = 53
        ∧ ∀ c ∈ token.drop 6, isBase64Url c = true := by
    simp only [tokenRe, decide_eq_true_eq, List.all_eq_true]
    refine and_congr_right fun _ => and_congr_left fun _ => ?_
    rw [List.length_drop]
    omega
  unfold isValidTokenFormat
  by_cases matched : tokenRe token = true
  · obtain ⟨head, length, base64Url⟩ := shape.mp matched
    simp only [matched, not_true_eq_false, if_false, decide_eq_true_eq]
    exact ⟨fun checksum => ⟨head, length, base64Url, checksum⟩, ValidToken.checksum⟩
  · simp only [matched, not_false_eq_true, if_true, Bool.false_eq_true, false_iff]
    exact fun valid => matched (shape.mpr ⟨valid.head, valid.length, valid.base64Url⟩)

theorem isBase64Url_digit (v : BitVec 32) : isBase64Url (digit v) = true := by
  have all : alphabet.all isBase64Url = true := by decide +kernel
  rw [digit, List.getD_eq_getElem _ _ (and_63_lt v)]
  exact List.all_eq_true.mp all _ (List.getElem_mem _)

/-- What is minted of 43 characters is valid. -/
theorem mintToken_valid {random : List CodeUnit} (length : random.length = 43)
    (base64Url : ∀ c ∈ random, isBase64Url c = true)
    : isValidTokenFormat (mintToken random) = true := by
  have head : (tokenPrefix ++ random).length = 49 := by
    rw [List.length_append, tokenPrefix_length, length]
  refine isValidTokenFormat_iff.mpr ⟨?_, ?_, ?_, ?_⟩
  · rw [mintToken, List.append_assoc, List.take_left' tokenPrefix_length]
  · rw [mintToken, List.length_append, head]
    rfl
  · rw [mintToken, List.append_assoc, List.drop_left' tokenPrefix_length]
    intro c member
    rcases List.mem_append.mp member with drawn | check
    · exact base64Url c drawn
    · simp only [tokenChecksum, List.mem_cons, List.not_mem_nil, or_false] at check
      rcases check with rfl | rfl | rfl | rfl <;> exact isBase64Url_digit _
  · rw [slice, mintToken, List.take_left' head, List.drop_left' head,
      List.drop_left' tokenPrefix_length]

example : tokenChecksum (codeUnits "aaaaaaaaaaaaaaaaaaaaaaaaaaaaaaaaaaaaaaaaaaa")
    = codeUnits "ZkL6" := by
  decide +kernel

/-- The characters of the random part have seven bits. -/
theorem isBase64Url_ascii {c : CodeUnit} (found : isBase64Url c = true) : c.toNat < 128 := by
  simp only [isBase64Url, inRange, Bool.or_eq_true, decide_eq_true_eq] at found
  rcases found with (((⟨_, upper⟩ | ⟨_, lower⟩) | ⟨_, number⟩) | ⟨_, underscore⟩) | ⟨_, dash⟩
  · exact upper.trans_lt (by decide)
  · exact lower.trans_lt (by decide)
  · exact number.trans_lt (by decide)
  · exact underscore.trans_lt (by decide)
  · exact dash.trans_lt (by decide)

section Change

variable {before middle middle' after : List CodeUnit}

/-- What is read of a token around a piece of its random part. -/
theorem slice_middle (middle after : List CodeUnit) (start : 6 ≤ before.length)
    (stop : before.length + middle.length ≤ 49)
    : slice (before ++ middle ++ after) 6 49
        = before.drop 6 ++ middle ++ after.take (49 - (before.length + middle.length))
      ∧ (before ++ middle ++ after).drop 49
        = after.drop (49 - (before.length + middle.length)) := by
  have whole : (before ++ middle).length = before.length + middle.length := List.length_append
  constructor
  · rw [slice, List.take_append, List.take_of_length_le (by omega), whole, List.append_assoc,
      List.drop_append_of_le_length start, List.append_assoc]
  · rw [List.drop_append, List.drop_of_length_le (by omega), whole, List.nil_append]

/-- Two tokens that differ in a piece of their random part have the same checksum if both are
valid.
-/
theorem ValidToken.same_checksum (valid : ValidToken (before ++ middle ++ after))
    (valid' : ValidToken (before ++ middle' ++ after)) (start : 6 ≤ before.length)
    (stop : before.length + middle.length ≤ 49) (same : middle'.length = middle.length)
    : ∃ front back,
        tokenChecksum (front ++ middle' ++ back) = tokenChecksum (front ++ middle ++ back) := by
  obtain ⟨random, rest⟩ := slice_middle middle after start stop
  obtain ⟨random', rest'⟩ := slice_middle middle' after start (same ▸ stop)
  have checksum := valid.checksum
  have checksum' := valid'.checksum
  rw [random, rest] at checksum
  rw [random', rest', same, ← checksum] at checksum'
  exact ⟨_, _, checksum'⟩

variable {c c' : CodeUnit}

/-- A valid token has no other valid token in one character's distance. -/
theorem ValidToken.replace (valid : ValidToken (before ++ [c] ++ after))
    (valid' : ValidToken (before ++ [c'] ++ after))
    : c' = c := by
  have at' (c : CodeUnit) : (before ++ [c] ++ after)[before.length]? = some c := by simp
  rcases Nat.lt_or_ge before.length 6 with inPrefix | start
  · -- The prefix is the same for all tokens.
    have heads := congrArg (fun part => part[before.length]?) (valid'.head.trans valid.head.symm)
    simp only [List.getElem?_take_of_lt inPrefix, at'] at heads
    exact Option.some.inj heads
  · rcases Nat.lt_or_ge before.length 49 with inRandom | inChecksum
    · by_contra other
      obtain ⟨front, back, same⟩ := valid.same_checksum valid' start inRandom rfl
      simp only [List.append_assoc, List.singleton_append] at same
      exact tokenChecksum_replace_ne front back other same
    · -- The checksum is that of a random part that has not changed.
      have random (c : CodeUnit) : slice (before ++ [c] ++ after) 6 49 = slice before 6 49 := by
        rw [slice, slice, List.append_assoc, List.take_append_of_le_length inChecksum]
      have checksums := valid'.checksum.symm.trans
        (((congrArg tokenChecksum ((random c').trans (random c).symm))).trans valid.checksum)
      have tails := congrArg (fun part => part[before.length - 49]?) checksums
      simp only [List.getElem?_drop, Nat.add_sub_cancel' inChecksum, at'] at tails
      exact Option.some.inj tails

/-- Neighbours of the random part cannot be swapped in a valid token. -/
theorem ValidToken.swap (valid : ValidToken (before ++ [c, c'] ++ after))
    (valid' : ValidToken (before ++ [c', c] ++ after)) (start : 6 ≤ before.length)
    (stop : before.length + 2 ≤ 49)
    : c' = c := by
  by_contra other
  have ascii {x : CodeUnit} (member : x ∈ [c, c']) : x.toNat < 128 := by
    refine isBase64Url_ascii (valid.base64Url x ?_)
    rw [List.append_assoc, List.drop_append_of_le_length start]
    simp only [List.mem_append]
    exact Or.inr (Or.inl member)
  obtain ⟨front, back, same⟩ := valid.same_checksum valid' start stop rfl
  simp only [List.append_assoc, List.cons_append, List.nil_append] at same
  exact tokenChecksum_swap_ne front back (ascii (by simp)) (ascii (by simp)) other same

end Change

/-- The checksum detects the common typos. In a valid token no character can be replaced, neither
by another one (whether it has one code unit or two) nor by any other text, and no two different
neighbours of the random part can be swapped. Every minted token is valid.
-/
theorem token_typos_detected {token : List CodeUnit} (valid : isValidTokenFormat token = true)
    : (∀ before c after other,
        token = before ++ c :: after → other ≠ [c]
        → isValidTokenFormat (before ++ other ++ after) = false)
      ∧ (∀ before first second after,
          token = before ++ first :: second :: after
          → 6 ≤ before.length → before.length + 2 ≤ 49
          → first ≠ second
          → isValidTokenFormat (before ++ second :: first :: after) = false)
      ∧ ∀ random : List CodeUnit,
          random.length = 43
          → (∀ c ∈ random, isBase64Url c = true)
          → isValidTokenFormat (mintToken random) = true := by
  rw [isValidTokenFormat_iff] at valid
  refine ⟨?_, ?_, fun _ => mintToken_valid⟩
  · rintro before c after other rfl apart
    rw [Bool.eq_false_iff, Ne, isValidTokenFormat_iff]
    intro valid'
    -- A text of another length makes the token longer or shorter.
    have one : other.length = 1 := by
      have length := valid.length
      have length' := valid'.length
      simp only [List.length_append, List.length_cons] at length length'
      omega
    obtain ⟨c', rfl⟩ := List.length_eq_one_iff.mp one
    rw [List.append_cons] at valid
    exact apart (congrArg (fun x => [x]) (valid.replace valid'))
  · rintro before first second after rfl start stop other
    rw [Bool.eq_false_iff, Ne, isValidTokenFormat_iff]
    intro valid'
    have unswapped : ValidToken (before ++ [first, second] ++ after) := by simpa using valid
    have swapped : ValidToken (before ++ [second, first] ++ after) := by simpa using valid'
    exact other (unswapped.swap swapped start stop).symm

/-- A token of the test vectors from its third random character on. -/
def exampleTail : List CodeUnit :=
  codeUnits "e000000000000000000000000000000000000000zT6N"

/-- Neither a capital for its first character nor its neighbours "at" swapped make a valid token. -/
theorem token_typos_detected_rate
    : isValidTokenFormat
          (codeUnits "0sink_" ++ codeUnits "R" ++ (0x61#16 :: 0x74#16 :: exampleTail))
        = false
      ∧ isValidTokenFormat (codeUnits "0sink_r" ++ 0x74#16 :: 0x61#16 :: exampleTail) = false := by
  have valid
      : isValidTokenFormat (codeUnits "0sink_r" ++ 0x61#16 :: 0x74#16 :: exampleTail) = true := by
    decide +kernel
  have detected := token_typos_detected valid
  constructor
  · exact detected.1 (codeUnits "0sink_") 0x72#16 (0x61#16 :: 0x74#16 :: exampleTail)
      (codeUnits "R") (by decide +kernel) (by decide +kernel)
  · exact detected.2.1 (codeUnits "0sink_r") 0x61#16 0x74#16 exampleTail rfl (by decide +kernel)
      (by decide +kernel) (by decide)

end Nullsink.Shared
