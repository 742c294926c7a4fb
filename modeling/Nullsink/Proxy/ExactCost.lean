import Nullsink.Lib.ExactArithmetic
import Nullsink.Proxy.Usage

/-! The cost functions in exact arithmetic: a usage is five classes of tokens, a rate bills each of
them, and the cost is the whole number of micro-dollars of the bill.
-/

namespace Nullsink.Proxy

open Ecma

/-- The number of tokens a reported count stands for. -/
def countOf : Option Json → ℚ
  | some (.number (.finite q)) => max 0 q
  | _ => 0

theorem countOf_nonneg (x : Option Json) : 0 ≤ countOf x := by
  unfold countOf
  split
  · exact le_max_left _ _
  · exact le_rfl

@[simp] theorem countOf_none : countOf none = 0 := rfl

@[simp] theorem countOf_finite (q : ℚ) : countOf (some (.number (.finite q))) = max 0 q := rfl

theorem sanitizeCount_eq (x : Option Json) : sanitizeCount x = .finite (countOf x) := by
  unfold sanitizeCount
  split
  · rename_i q
    rw [countOf_finite]
    split
    · rename_i nonneg
      rw [max_eq_right nonneg]
    · rename_i negative
      rw [max_eq_left (not_le.mp negative).le]
  · rename_i other
    unfold countOf
    split
    · exact (other _ rfl).elim
    · rfl

/-- Tokens by the rate they bill at. -/
structure TokenClasses where
  input : ℚ
  output : ℚ
  write5m : ℚ
  write1h : ℚ
  cacheRead : ℚ

/-- The classes of a usage, its 1-hour slice clamped to the cache writes it is a part of. -/
def Usage.classes (usage : Usage) : TokenClasses :=
  let written := countOf usage.cacheCreationInputTokens
  let write1h := min (countOf usage.cacheCreation1hInputTokens) written
  {
    input := countOf usage.inputTokens
    output := countOf usage.outputTokens
    write5m := written - write1h
    write1h
    cacheRead := countOf usage.cacheReadInputTokens
  }

/-- What the classes bill, in millionths of a micro-dollar. -/
def Rate.bill (rate : Rate) (c : TokenClasses) : ℚ :=
  c.input * rate.input + c.output * rate.output + c.write5m * rate.cacheWrite
    + c.write1h * rate.cacheWrite1h
    + c.cacheRead * rate.cacheRead

/-- Every class of a usage is a count. -/
structure TokenClasses.Nonneg (c : TokenClasses) : Prop where
  input : 0 ≤ c.input
  output : 0 ≤ c.output
  write5m : 0 ≤ c.write5m
  write1h : 0 ≤ c.write1h
  cacheRead : 0 ≤ c.cacheRead

theorem Usage.classes_nonneg (usage : Usage) : usage.classes.Nonneg where
  input := countOf_nonneg _
  output := countOf_nonneg _
  write5m := sub_nonneg.mpr (min_le_right _ _)
  write1h := le_min (countOf_nonneg _) (countOf_nonneg _)
  cacheRead := countOf_nonneg _

/-- The two slices of the cache writes make up their total. -/
theorem Usage.classes_written (usage : Usage)
    : usage.classes.write5m + usage.classes.write1h
      = countOf usage.cacheCreationInputTokens := by
  simp [classes]

/-- The cost of a usage is its bill in whole micro-dollars. -/
theorem costOf_exact (rate : Rate) (usage : Usage)
    : costOf .exact rate usage = .ofInt ⌊rate.bill usage.classes / 1000000⌋ := by
  simp only [costOf, priced, write5mTokens, write1hTokens, sanitizeCount_eq, Number.min_finite,
    Number.sub_exact, Number.mul_exact, Number.add_exact, Number.divBy_exact, Number.floor_finite]
  rfl

/-- What never bills less never costs less. -/
theorem costOf_le {rate rate' : Rate} {usage usage' : Usage}
    (le : rate.bill usage.classes ≤ rate'.bill usage'.classes)
    : (costOf .exact rate usage).WholeLe (costOf .exact rate' usage') := by
  rw [costOf_exact, costOf_exact]
  exact .of_floor (div_le_div_of_nonneg_right le (by norm_num))

/-- More tokens in a class, and no fewer in any, never bill less. -/
theorem Rate.bill_mono (rate : Rate) {c c' : TokenClasses} (input : c.input ≤ c'.input)
    (output : c.output ≤ c'.output) (write5m : c.write5m ≤ c'.write5m)
    (write1h : c.write1h ≤ c'.write1h) (cacheRead : c.cacheRead ≤ c'.cacheRead)
    : rate.bill c ≤ rate.bill c' := by
  have inputs := mul_le_mul_of_nonneg_right input rate.input_nonneg
  have outputs := mul_le_mul_of_nonneg_right output rate.output_nonneg
  have standard := mul_le_mul_of_nonneg_right write5m rate.cacheWrite_nonneg
  have hourly := mul_le_mul_of_nonneg_right write1h rate.cacheWrite1h_nonneg
  have reads := mul_le_mul_of_nonneg_right cacheRead rate.cacheRead_nonneg
  unfold bill
  linarith

theorem Rate.bill_nonneg (rate : Rate) {c : TokenClasses} (nonneg : c.Nonneg)
    : 0 ≤ rate.bill c := by
  have empty : rate.bill ⟨0, 0, 0, 0, 0⟩ = 0 := by simp [bill]
  rw [← empty]
  exact rate.bill_mono nonneg.input nonneg.output nonneg.write5m nonneg.write1h nonneg.cacheRead

/-- Every cost is a whole number of micro-dollars of at least zero. -/
theorem costOf_whole (rate : Rate) (usage : Usage)
    : ∃ n : ℤ, costOf .exact rate usage = .ofInt n ∧ 0 ≤ n :=
  ⟨_, costOf_exact rate usage,
    Int.floor_nonneg.mpr (div_nonneg (rate.bill_nonneg usage.classes_nonneg) (by norm_num))⟩

section Split

variable {js : Runtime} (exact : js.fp = .exact) (total cached written output : Option Json)

/-- The split of a reported total by reported slices, of any JSON types. -/
def splitReport (js : Runtime) : Usage :=
  splitOpenAIInput js (sanitizeCount total) (sanitizeCount cached) (sanitizeCount written)
    (sanitizeCount output)

/-- Both OpenAI shapes are split reports. -/
theorem mapOpenAIUsage_eq (js : Runtime) (input details out : String) (u : Json)
    : mapOpenAIUsage js input details out u
      = splitReport (u.get? input) (((u.get? details).getD .null).get? "cached_tokens")
        (((u.get? details).getD .null).get? "cache_write_tokens") (u.get? out) js :=
  rfl

include exact

/-- The slices of a split report: what is cached, written and fresh of the total. -/
theorem splitReport_slices
    : ∃ fresh read write : ℚ,
        (splitReport total cached written output js)
          = {
            inputTokens := some (.number (.finite fresh))
            outputTokens := some (.number (.finite (countOf output)))
            cacheCreationInputTokens := some (.number (.finite write))
            cacheReadInputTokens := some (.number (.finite read))
            cacheCreation1hInputTokens := none
          }
        ∧ (0 ≤ fresh ∧ 0 ≤ read ∧ 0 ≤ write)
        ∧ read = min (countOf cached) (countOf total)
        ∧ write = min (countOf written) (countOf total - read)
        ∧ fresh = countOf total - read - write := by
  refine ⟨_, _, _, ?_, ⟨?_, ?_, ?_⟩, rfl, rfl, rfl⟩
  · simp only [splitReport, splitOpenAIInput, exact, sanitizeCount_eq, Number.min_finite,
      Number.sub_exact]
  · exact sub_nonneg.mpr (min_le_right _ _)
  · exact le_min (countOf_nonneg _) (countOf_nonneg _)
  · exact le_min (countOf_nonneg _) (sub_nonneg.mpr (min_le_right _ _))

/-- The classes of a split report are its slices, without a 1-hour tier. -/
theorem splitReport_classes
    : ∃ fresh read write : ℚ,
        (splitReport total cached written output js).classes
          = ⟨fresh, countOf output, write, 0, read⟩
        ∧ read = min (countOf cached) (countOf total)
        ∧ write = min (countOf written) (countOf total - read)
        ∧ fresh = countOf total - read - write := by
  obtain ⟨fresh, read, write, split, ⟨fresh_nonneg, read_nonneg, write_nonneg⟩, slices⟩ :=
    splitReport_slices exact total cached written output
  refine ⟨fresh, read, write, ?_, slices⟩
  rw [split]
  simp only [Usage.classes, countOf_finite, countOf_none, max_eq_right fresh_nonneg,
    max_eq_right read_nonneg, max_eq_right write_nonneg, max_eq_right (countOf_nonneg output),
    min_eq_left write_nonneg, sub_zero]

end Split

end Nullsink.Proxy
