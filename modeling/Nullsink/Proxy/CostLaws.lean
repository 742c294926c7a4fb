import Nullsink.Proxy.Buffered
import Nullsink.Proxy.ExactCost

/-! The cost function cannot be gamed: it is monotone in every reported count, across every clamp
of the 1-hour slice and of the slices of a total. In exact arithmetic.
-/

namespace Nullsink.Proxy

open Ecma

inductive UsageField where
  | inputTokens
  | outputTokens
  | cacheCreationInputTokens
  | cacheReadInputTokens
  | cacheCreation1hInputTokens
  deriving DecidableEq

/-- `{ ...usage, [field]: value }`. -/
def Usage.set (usage : Usage) (field : UsageField) (value : Option Json) : Usage :=
  match field with
  | .inputTokens => { usage with inputTokens := value }
  | .outputTokens => { usage with outputTokens := value }
  | .cacheCreationInputTokens => { usage with cacheCreationInputTokens := value }
  | .cacheReadInputTokens => { usage with cacheReadInputTokens := value }
  | .cacheCreation1hInputTokens => { usage with cacheCreation1hInputTokens := value }

/-- A usage that reports a number in a field. -/
abbrev Usage.report (usage : Usage) (field : UsageField) (tokens : ℚ) : Usage :=
  usage.set field (some (.number (.finite tokens)))

section Bills

variable (rate : Rate)

/-- Cache writes bill at the standard rate, and their 1-hour slice at what is added to it. -/
theorem Rate.bill_writes (c : TokenClasses)
    : rate.bill c
      = c.input * rate.input + c.output * rate.output
        + (c.write5m + c.write1h) * rate.cacheWrite
        + c.write1h * (rate.cacheWrite1h - rate.cacheWrite)
        + c.cacheRead * rate.cacheRead := by
  unfold bill
  ring

/-- More cache writes with a slice that is no smaller never bill less, also where the rest of the
writes shrinks.
-/
theorem Rate.bill_mono_writes {c c' : TokenClasses} (input : c.input ≤ c'.input)
    (output : c.output ≤ c'.output)
    (written : c.write5m + c.write1h ≤ c'.write5m + c'.write1h)
    (write1h : c.write1h ≤ c'.write1h) (cacheRead : c.cacheRead ≤ c'.cacheRead)
    : rate.bill c ≤ rate.bill c' := by
  have dearer : 0 ≤ rate.cacheWrite1h - rate.cacheWrite := sub_nonneg.mpr rate.cacheWrite_le
  have inputs := mul_le_mul_of_nonneg_right input rate.input_nonneg
  have outputs := mul_le_mul_of_nonneg_right output rate.output_nonneg
  have writes := mul_le_mul_of_nonneg_right written rate.cacheWrite_nonneg
  have hourly := mul_le_mul_of_nonneg_right write1h dearer
  have reads := mul_le_mul_of_nonneg_right cacheRead rate.cacheRead_nonneg
  rw [rate.bill_writes, rate.bill_writes]
  linarith

/-- A larger count in one field never bills less, whatever the others hold. -/
theorem Rate.bill_report_mono (usage : Usage) (field : UsageField) {tokens more : ℚ}
    (le : tokens ≤ more)
    : rate.bill (usage.report field tokens).classes ≤ rate.bill (usage.report field more).classes
    := by
  have counts : max 0 tokens ≤ max 0 more := max_le_max le_rfl le
  apply rate.bill_mono_writes
  · cases field with
    | inputTokens => exact counts
    | _ => exact le_rfl
  · cases field with
    | outputTokens => exact counts
    | _ => exact le_rfl
  · rw [Usage.classes_written, Usage.classes_written]
    cases field with
    | cacheCreationInputTokens => exact counts
    | _ => exact le_rfl
  · -- The slice is clamped to the total: both grow where either field does.
    cases field with
    | cacheCreationInputTokens => exact min_le_min le_rfl counts
    | cacheCreation1hInputTokens => exact min_le_min counts le_rfl
    | _ => exact le_rfl
  · cases field with
    | cacheReadInputTokens => exact counts
    | _ => exact le_rfl

/-- Writes that move to the 1-hour slice never bill less. -/
theorem Rate.bill_move (usage : Usage) {moved : ℚ} (nonneg : 0 ≤ moved)
    (within : moved ≤ usage.classes.write5m)
    : rate.bill usage.classes
      ≤ rate.bill
        (usage.report .cacheCreation1hInputTokens (usage.classes.write1h + moved)).classes := by
  have total := usage.classes_written
  have slice_nonneg := usage.classes_nonneg.write1h
  have moved_slice
      : (usage.report .cacheCreation1hInputTokens (usage.classes.write1h + moved)).classes.write1h
        = usage.classes.write1h + moved := by
    have clamp : usage.classes.write1h + moved ≤ countOf usage.cacheCreationInputTokens := by
      linarith
    show min (max 0 (usage.classes.write1h + moved)) (countOf usage.cacheCreationInputTokens)
      = usage.classes.write1h + moved
    rw [max_eq_right (add_nonneg slice_nonneg nonneg), min_eq_left clamp]
  apply rate.bill_mono_writes
  · exact le_rfl
  · exact le_rfl
  · rw [Usage.classes_written, Usage.classes_written]
    rfl
  · rw [moved_slice]
    exact le_add_of_nonneg_right nonneg
  · exact le_rfl

/-- What a slice leaves of a total grows with the total. -/
theorem sub_min_mono (slice : ℚ) {total more : ℚ} (le : total ≤ more)
    : total - min slice total ≤ more - min slice more := by
  rcases le_total slice total with below | above
  · rw [min_eq_left below, min_eq_left (below.trans le)]
    exact sub_le_sub_right le slice
  · rw [min_eq_right above, sub_self]
    exact sub_nonneg.mpr (min_le_right _ _)

/-- A larger total never bills less: each slice and what they leave of it grow with it. -/
theorem Rate.bill_split_mono {js : Runtime} (exact : js.fp = .exact)
    {total total' cached written output output' : Option Json}
    (more : countOf total ≤ countOf total') (longer : countOf output ≤ countOf output')
    : rate.bill (splitReport total cached written output js).classes
      ≤ rate.bill (splitReport total' cached written output' js).classes := by
  obtain ⟨fresh, read, write, classes, cut, taken, rest⟩ :=
    splitReport_classes exact total cached written output
  obtain ⟨fresh', read', write', classes', cut', taken', rest'⟩ :=
    splitReport_classes exact total' cached written output'
  have uncached : countOf total - read ≤ countOf total' - read' := by
    rw [cut, cut']
    exact sub_min_mono _ more
  rw [classes, classes']
  apply rate.bill_mono
  · show fresh ≤ fresh'
    rw [rest, rest', taken, taken']
    exact sub_min_mono _ uncached
  · exact longer
  · show write ≤ write'
    rw [taken, taken']
    exact min_le_min le_rfl uncached
  · exact le_rfl
  · show read ≤ read'
    rw [cut, cut']
    exact min_le_min le_rfl more

end Bills

/-- The slices of a split usage: counts of at least zero that make up the total. -/
def SlicesOf (total : ℚ) (usage : Usage) : Prop :=
  ∃ fresh read write : ℚ,
    usage.inputTokens = some (.number (.finite fresh))
    ∧ usage.cacheReadInputTokens = some (.number (.finite read))
    ∧ usage.cacheCreationInputTokens = some (.number (.finite write))
    ∧ 0 ≤ fresh ∧ 0 ≤ read ∧ 0 ≤ write
    ∧ fresh + read + write = total

/-- No report lowers its cost by claiming more: of any usage the cost is a whole amount, it is
monotone in each field and under a move of cache writes to the dearer tier, and of a split report
it is monotone in the total and the output, whatever the slices claim. Both OpenAI shapes report
split usage.
-/
theorem cost_not_gameable {js : Runtime} (exact : js.fp = .exact) (rate : Rate)
    : (∀ usage, ∃ cost : ℤ, costOf js.fp rate usage = .ofInt cost ∧ 0 ≤ cost)
      ∧ (∀ (usage : Usage) field tokens more, tokens ≤ more
          → (costOf js.fp rate (usage.report field tokens)).WholeLe
              (costOf js.fp rate (usage.report field more)))
      ∧ (∀ (usage : Usage) moved, 0 ≤ moved → moved ≤ usage.classes.write5m
          → (costOf js.fp rate usage).WholeLe
              (costOf js.fp rate
                (usage.report .cacheCreation1hInputTokens (usage.classes.write1h + moved))))
      ∧ (∀ total cached written output,
          SlicesOf (countOf total) (splitReport total cached written output js))
      ∧ (∀ total total' cached written output output',
          countOf total ≤ countOf total' → countOf output ≤ countOf output'
          → (costOf js.fp rate (splitReport total cached written output js)).WholeLe
              (costOf js.fp rate (splitReport total' cached written output' js)))
      ∧ ∀ input details out u,
          mapOpenAIUsage js input details out u
          = splitReport (u.get? input) (((u.get? details).getD .null).get? "cached_tokens")
            (((u.get? details).getD .null).get? "cache_write_tokens") (u.get? out) js := by
  simp only [exact]
  refine ⟨fun usage => costOf_whole rate usage, ?_, ?_, ?_, ?_, mapOpenAIUsage_eq js⟩
  · intro usage field tokens more le
    exact costOf_le (rate.bill_report_mono usage field le)
  · intro usage moved nonneg within
    exact costOf_le (rate.bill_move usage nonneg within)
  · intro total cached written output
    obtain ⟨fresh, read, write, split, ⟨freshNonneg, readNonneg, writeNonneg⟩, _, _, rest⟩ :=
      splitReport_slices exact total cached written output
    rw [split]
    exact ⟨fresh, read, write, rfl, rfl, rfl, freshNonneg, readNonneg, writeNonneg,
      by rw [rest]; ring⟩
  · intro total total' cached written output output' more longer
    exact costOf_le (rate.bill_split_mono exact more longer)

section Example

/-- Three mistyped fields, beside a 1-hour slice of 40 tokens. -/
def exampleOneHour : Usage where
  inputTokens := some (.string "10")
  outputTokens := some .null
  cacheCreationInputTokens := none
  cacheReadInputTokens := some (.number .nan)
  cacheCreation1hInputTokens := some (.number (.finite 40))

/-- A larger total of cache writes costs more on both sides of the 1-hour slice it clamps. -/
theorem cost_not_gameable_clamp
    : costOf .exact exampleRate (exampleOneHour.report .cacheCreationInputTokens 10) = .ofInt 20
      ∧ costOf .exact exampleRate (exampleOneHour.report .cacheCreationInputTokens 50)
        = .ofInt 92
      ∧ (costOf .exact exampleRate (exampleOneHour.report .cacheCreationInputTokens 10)).WholeLe
          (costOf .exact exampleRate
            (exampleOneHour.report .cacheCreationInputTokens 50)) := by
  have exact : ({ exampleJs with fp := .exact } : Runtime).fp = .exact := rfl
  refine ⟨by decide +kernel, by decide +kernel, ?_⟩
  exact (cost_not_gameable exact exampleRate).2.1 exampleOneHour .cacheCreationInputTokens 10 50
    (by norm_num)

end Example

end Nullsink.Proxy
