import Nullsink.Proxy.Buffered
import Nullsink.Proxy.ExactCost

/-! Hold soundness: the bound a hold is sized by covers every usage within its token bounds, so
the clamp of the charge at the hold changes nothing. In exact arithmetic.
-/

namespace Nullsink.Proxy

open Ecma

-----------------------------------------------------------------------------------------
-- The bound of a rate
-----------------------------------------------------------------------------------------

/-- Classes within a bound on the input tokens and one on the output tokens. 1-hour writes are
only among them where the request asked for the tier.
-/
structure TokenClasses.Within (c : TokenClasses) (n m : ℚ) (oneHourCache : Bool) : Prop where
  input : c.input + c.write5m + c.write1h + c.cacheRead ≤ n
  output : c.output ≤ m
  tier : oneHourCache = false → c.write1h = 0

section Bound

variable (rate : Rate) (n m : ℚ) (oneHourCache : Bool)

/-- The bound in millionths of a micro-dollar: all input at the dearest rate. -/
def Rate.boundBill : ℚ := n * maxInputRate rate oneHourCache + m * rate.output

theorem holdBoundOf_exact
    : holdBoundOf .exact rate (.finite n) (.finite m) oneHourCache
      = .ofInt ⌊rate.boundBill n m oneHourCache / 1000000⌋ := rfl

theorem input_le_maxInputRate : rate.input ≤ maxInputRate rate oneHourCache := by
  unfold maxInputRate
  split <;> simp

theorem cacheRead_le_maxInputRate : rate.cacheRead ≤ maxInputRate rate oneHourCache := by
  unfold maxInputRate
  split <;> simp

theorem cacheWrite_le_maxInputRate : rate.cacheWrite ≤ maxInputRate rate oneHourCache := by
  unfold maxInputRate
  split <;> simp

theorem cacheWrite1h_le_maxInputRate : rate.cacheWrite1h ≤ maxInputRate rate true := by
  simp [maxInputRate]

variable {rate n m oneHourCache}

/-- Each class bills at most the dearest input rate, so all of them bill at most the bound. -/
theorem TokenClasses.Within.bill_le {c : TokenClasses} (within : c.Within n m oneHourCache)
    (nonneg : c.Nonneg)
    : rate.bill c ≤ rate.boundBill n m oneHourCache := by
  have fresh : c.input * rate.input ≤ c.input * maxInputRate rate oneHourCache :=
    mul_le_mul_of_nonneg_left (input_le_maxInputRate rate oneHourCache) nonneg.input
  have standard : c.write5m * rate.cacheWrite ≤ c.write5m * maxInputRate rate oneHourCache :=
    mul_le_mul_of_nonneg_left (cacheWrite_le_maxInputRate rate oneHourCache) nonneg.write5m
  have hourly : c.write1h * rate.cacheWrite1h ≤ c.write1h * maxInputRate rate oneHourCache := by
    cases oneHourCache with
    | false => simp [within.tier rfl]
    | true => exact mul_le_mul_of_nonneg_left (cacheWrite1h_le_maxInputRate rate) nonneg.write1h
  have reads : c.cacheRead * rate.cacheRead ≤ c.cacheRead * maxInputRate rate oneHourCache :=
    mul_le_mul_of_nonneg_left (cacheRead_le_maxInputRate rate oneHourCache) nonneg.cacheRead
  have inputs : (c.input + c.write5m + c.write1h + c.cacheRead) * maxInputRate rate oneHourCache
      ≤ n * maxInputRate rate oneHourCache :=
    mul_le_mul_of_nonneg_right within.input (maxInputRate_nonneg rate oneHourCache)
  have outputs : c.output * rate.output ≤ m * rate.output :=
    mul_le_mul_of_nonneg_right within.output rate.output_nonneg
  unfold Rate.bill Rate.boundBill
  linarith

theorem costOf_le_holdBoundOf {usage : Usage} (within : usage.classes.Within n m oneHourCache)
    : (costOf .exact rate usage).WholeLe
        (holdBoundOf .exact rate (.finite n) (.finite m) oneHourCache) := by
  rw [costOf_exact, holdBoundOf_exact]
  exact .of_floor
    (div_le_div_of_nonneg_right (within.bill_le usage.classes_nonneg) (by norm_num))

end Bound

-----------------------------------------------------------------------------------------
-- The usages a bound covers
-----------------------------------------------------------------------------------------

/-- A usage within bounds, as either shape reports it: Anthropic's classes beside each other, or
OpenAI's slices of one total, which may exceed it.
-/
inductive ReportedWithin (js : Runtime) (n m : ℚ) (oneHourCache : Bool) : Usage → Prop
  | anthropic (usage : Usage)
    (input
      : countOf usage.inputTokens + countOf usage.cacheCreationInputTokens
          + countOf usage.cacheReadInputTokens
        ≤ n)
    (output : countOf usage.outputTokens ≤ m)
    (tier : oneHourCache = false → countOf usage.cacheCreation1hInputTokens = 0)
    : ReportedWithin js n m oneHourCache usage
  | openai (total cached written output : Option Json) (input : countOf total ≤ n)
    (capped : countOf output ≤ m)
    : ReportedWithin js n m oneHourCache (splitReport total cached written output js)

theorem ReportedWithin.within {js : Runtime} (exact : js.fp = .exact) {n m : ℚ}
    {oneHourCache : Bool} {usage : Usage} (reported : ReportedWithin js n m oneHourCache usage)
    : usage.classes.Within n m oneHourCache := by
  cases reported with
  | anthropic _ input output tier =>
      have written := usage.classes_written
      refine ⟨?_, output, fun standard => ?_⟩
      · have fresh : usage.classes.input = countOf usage.inputTokens := rfl
        have reads : usage.classes.cacheRead = countOf usage.cacheReadInputTokens := rfl
        linarith
      · simp [Usage.classes, tier standard, countOf_nonneg]
  | openai total cached written output input capped =>
      obtain ⟨fresh, read, write, classes, _, _, rest⟩ :=
        splitReport_classes exact total cached written output
      rw [classes]
      refine ⟨?_, capped, fun _ => rfl⟩
      simp only
      linarith

-----------------------------------------------------------------------------------------
-- The estimators
-----------------------------------------------------------------------------------------

section Estimators

variable {js : Runtime} (book : PriceBook)

/-- A cost at most the hold is charged as it is. -/
theorem effectiveDebit_of_le {holdAmount cost : Number} (le : cost.WholeLe holdAmount)
    (amount : cost.Amount)
    : effectiveDebit holdAmount cost = cost := by
  obtain ⟨c, h, rfl, rfl, le⟩ := le
  obtain ⟨_, same, nonneg⟩ | infinite := amount
  · obtain rfl := Number.ofInt_injective same
    have nonneg' : (0 : ℚ) ≤ c := by exact_mod_cast nonneg
    have le' : (c : ℚ) ≤ h := by exact_mod_cast le
    simp [effectiveDebit, Number.ofInt, Number.max_finite, Number.min_finite, nonneg', le']
  · cases infinite

/-- The input tokens an answer of the counter bounds: the bytes of the body, and no more than the
padded count where there is one.
-/
def inputBound (input : HoldInput) (answer : Option Json) : ℚ :=
  match answer.bind countedTokens with
  | some (.finite q) => min input.raw.utf8ByteSize (⌈q * (11 / 10)⌉ + 64)
  | _ => input.raw.utf8ByteSize

theorem countedTokens_finite {data : Json} {tokens : Number}
    (counted : countedTokens data = some tokens)
    : ∃ q, tokens = .finite q := by
  unfold countedTokens at counted
  split at counted
  · split at counted
    · cases counted
    · exact ⟨_, (Option.some.inj counted).symm⟩
  · cases counted

theorem paddedTokens_exact (exact : js.fp = .exact) (q : ℚ)
    : paddedTokens js (.finite q) = .finite (⌈q * (11 / 10)⌉ + 64) := by
  simp [paddedTokens, exact, Number.ofInt]

/-- What a hold covers: no usage within its bounds costs more, at the rate it was sized with, and
so each of them is charged what it costs.
-/
structure Covers (js : Runtime) (rate : Rate) (n m : ℚ) (oneHourCache : Bool) (micros : Number)
    : Prop where
  bound
    : ∀ usage, ReportedWithin js n m oneHourCache usage
        → (costOf js.fp rate usage).WholeLe micros
  charged
    : ∀ usage, ReportedWithin js n m oneHourCache usage
        → effectiveDebit micros (costOf js.fp rate usage) = costOf js.fp rate usage
          ∧ micros.lt (costOf js.fp rate usage) = false

theorem Covers.of_bound {rate : Rate} {n m : ℚ} {oneHourCache : Bool} {micros : Number}
    (bound
      : ∀ usage, ReportedWithin js n m oneHourCache usage
          → (costOf js.fp rate usage).WholeLe micros)
    : Covers js rate n m oneHourCache micros where
  bound
  charged := fun usage reported =>
    ⟨effectiveDebit_of_le (bound usage reported) (costOf_amount js.fp rate usage),
      (bound usage reported).not_lt⟩

/-- The bound of a rate covers. -/
theorem holdBoundOf_covers (exact : js.fp = .exact) (rate : Rate) (n m : ℚ) (oneHourCache : Bool)
    : Covers js rate n m oneHourCache
        (holdBoundOf js.fp rate (.finite n) (.finite m) oneHourCache) := by
  refine .of_bound fun usage reported => ?_
  rw [exact]
  exact costOf_le_holdBoundOf (reported.within exact)

/-- Fewer tokens are covered by what covers more. -/
theorem ReportedWithin.mono {n n' m : ℚ} {oneHourCache : Bool} {usage : Usage} (le : n ≤ n')
    (reported : ReportedWithin js n m oneHourCache usage)
    : ReportedWithin js n' m oneHourCache usage := by
  cases reported with
  | anthropic _ input output tier => exact .anthropic _ (input.trans le) output tier
  | openai total cached written output input capped =>
      exact .openai total cached written output (input.trans le) capped

variable {book} {input : HoldInput} {m : ℚ} {rate : Rate} {result : HoldResult}

theorem byteBoundHold_covers (exact : js.fp = .exact) (capped : input.maxTokens = .finite m)
    (priced : book.findRate input.model = some rate)
    (sized : byteBoundHold js book input = some result)
    : Covers js rate input.raw.utf8ByteSize m input.oneHourCache result.micros := by
  simp only [byteBoundHold, priceHoldBound, priced, capped, Option.map_some, Option.some.injEq]
    at sized
  rw [← sized]
  simpa [utf8Bytes, Number.ofInt] using
    holdBoundOf_covers exact rate input.raw.utf8ByteSize m input.oneHourCache

/-- The lesser of two covering holds covers what both cover. -/
theorem Covers.min {n n' : ℚ} {oneHourCache : Bool} {micros micros' : Number}
    (first : Covers js rate n m oneHourCache micros)
    (second : Covers js rate n' m oneHourCache micros')
    : Covers js rate (Min.min n n') m oneHourCache (micros.min micros') :=
  .of_bound fun usage reported =>
    (first.bound usage (reported.mono (min_le_left _ _))).min
      (second.bound usage (reported.mono (min_le_right _ _)))

theorem countTokensHold_covers (exact : js.fp = .exact) (capped : input.maxTokens = .finite m)
    (priced : book.findRate input.model = some rate) {answer : Option Json}
    (sized : countTokensHold js book input answer = some result)
    : Covers js rate (inputBound input answer) m input.oneHourCache result.micros := by
  unfold countTokensHold at sized
  cases counted : answer.bind countedTokens with
  | none =>
      rw [counted] at sized
      simpa [inputBound, counted] using byteBoundHold_covers exact capped priced sized
  | some tokens =>
      obtain ⟨data, _, found⟩ := Option.bind_eq_some_iff.mp counted
      obtain ⟨q, rfl⟩ := countedTokens_finite found
      cases bytes : byteBoundHold js book input with
      | none => simp [byteBoundHold, priceHoldBound, priced] at bytes
      | some byteBound =>
          simp only [counted, bytes, priceHoldBound, priced, Option.map_some,
            Option.some.injEq] at sized
          rw [← sized]
          have padded := holdBoundOf_covers exact rate (⌈q * (11 / 10)⌉ + 64) m input.oneHourCache
          rw [← paddedTokens_exact exact q, ← capped] at padded
          have bytesCovered := byteBoundHold_covers exact capped priced bytes
          simpa [inputBound, counted] using bytesCovered.min padded

end Estimators

-----------------------------------------------------------------------------------------
-- Soundness
-----------------------------------------------------------------------------------------

/-- Every bound of a rate covers the usages within it, and with it every hold: the byte bound
those with no more input tokens than the body has bytes, and the counted one those with no more
than the padded count as well.
-/
theorem hold_soundness {js : Runtime} (exact : js.fp = .exact) (book : PriceBook)
    : (∀ rate n m oneHourCache usage,
        ReportedWithin js n m oneHourCache usage
        → (costOf js.fp rate usage).WholeLe
            (holdBoundOf js.fp rate (.finite n) (.finite m) oneHourCache))
      ∧ (∀ (input : HoldInput) m rate,
          input.maxTokens = .finite m → book.findRate input.model = some rate
          → (∀ result, byteBoundHold js book input = some result
              → Covers js rate input.raw.utf8ByteSize m input.oneHourCache result.micros)
            ∧ ∀ answer result, countTokensHold js book input answer = some result
              → Covers js rate (inputBound input answer) m input.oneHourCache result.micros) := by
  constructor
  · intro rate n m oneHourCache usage reported
    exact (holdBoundOf_covers exact rate n m oneHourCache).bound usage reported
  · intro input m rate capped priced
    constructor
    · intro result sized
      exact byteBoundHold_covers exact capped priced sized
    · intro answer result sized
      exact countTokensHold_covers exact capped priced sized

section Example

def exampleExactJs : Runtime := { exampleJs with fp := .exact }

def exampleHoldInput : HoldInput where
  model := "claude-haiku-4-5"
  raw := exampleRaw
  body := exampleBody (.ofInt 100)
  maxTokens := .ofInt 100
  oneHourCache := false

/-- A report of 40 input tokens whose slices claim 120 of them. -/
def exampleOverlapping : Usage :=
  splitReport (some (.number (.ofInt 40))) (some (.number (.ofInt 30)))
    (some (.number (.ofInt 90))) (some (.number (.ofInt 100))) exampleExactJs

/-- The counted hold of a short body, for 20 tokens and so 86 with their headroom, is charged
nothing but the cost of 40 tokens whose slices overlap.
-/
theorem hold_soundness_overlapping
    : ∃ result,
        countTokensHold exampleExactJs exampleBook exampleHoldInput
            (some (.object [("input_tokens", .number (.ofInt 20))]))
          = some result
        ∧ effectiveDebit result.micros (costOf .exact exampleRate exampleOverlapping)
          = costOf .exact exampleRate exampleOverlapping := by
  have exact : exampleExactJs.fp = .exact := rfl
  have priced : exampleBook.findRate exampleHoldInput.model = some exampleRate := rfl
  have capped : exampleHoldInput.maxTokens = .finite 100 := by
    simp [exampleHoldInput, Number.ofInt]
  obtain ⟨result, sized⟩ : ∃ result,
      countTokensHold exampleExactJs exampleBook exampleHoldInput
          (some (.object [("input_tokens", .number (.ofInt 20))]))
        = some result :=
    ⟨_, rfl⟩
  refine ⟨result, sized, ?_⟩
  have sound :=
    ((hold_soundness exact exampleBook).2 exampleHoldInput 100 exampleRate capped priced).2 _
      result sized
  refine (sound.charged exampleOverlapping (.openai _ _ _ _ ?_ ?_)).1
  · decide +kernel
  · decide +kernel

end Example

end Nullsink.Proxy
