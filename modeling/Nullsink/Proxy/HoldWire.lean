import Nullsink.Ledger.HoldAmount
import Nullsink.Proxy.Buffered

/-! From the gates to the ledger's wire: for which requests the estimated hold is an amount the
ledger accepts.
-/

namespace Nullsink.Proxy

open Ecma Ledger

/-- What an estimate costs in doubles: both products and their sum rounded. -/
def reserves (rate : Rate) (oneHourCache : Bool) (tokens cap : ℚ) : ℚ :=
  Binary64.round
    (Binary64.round (tokens * maxInputRate rate oneHourCache)
      + Binary64.round (cap * rate.output))

/-- Half a micro-dollar under 2^53 of them, in the units of a rate. -/
def reservationLimit : ℚ := (2 ^ 53 - 1 / 2) * 1000000

section Bounds

variable {rate : Rate} {oneHourCache : Bool}

theorem reservationLimit_lt : reservationLimit < 2 ^ 1024 :=
  lt_of_lt_of_le (by norm_num [reservationLimit])
    (pow_le_pow_right₀ (by norm_num) (by norm_num : 80 ≤ 1024))

/-- Where an estimate of finite numbers is in range. -/
theorem holdNumerator_lt_iff {tokens cap : ℚ} (tokens_nonneg : 0 ≤ tokens) (cap_nonneg : 0 ≤ cap)
    : (∃ q, holdNumerator .binary64 rate (.finite tokens) (.finite cap) oneHourCache = .finite q
        ∧ q < reservationLimit)
      ↔ reserves rate oneHourCache tokens cap < reservationLimit := by
  have input : 0 ≤ tokens * maxInputRate rate oneHourCache :=
    mul_nonneg tokens_nonneg (maxInputRate_nonneg rate oneHourCache)
  have output : 0 ≤ cap * rate.output := mul_nonneg cap_nonneg rate.output_nonneg
  have input_rounded := Binary64.round_nonneg input
  have output_rounded := Binary64.round_nonneg output
  have overflow (large
      : 2 ^ 1024 ≤ Binary64.round (tokens * maxInputRate rate oneHourCache)
          + Binary64.round (cap * rate.output))
      : ¬reserves rate oneHourCache tokens cap < reservationLimit :=
    not_lt.mpr
      (reservationLimit_lt.le.trans (Binary64.two_pow_le_round (by decide : 53 ≤ 1024) large))
  unfold holdNumerator priced Number.mul
  simp only
  rcases Rounding.binary64_toNumber input with ⟨inputFinite, _⟩ | ⟨inputLarge, large⟩
  · rcases Rounding.binary64_toNumber output with ⟨outputFinite, _⟩ | ⟨outputLarge, large⟩
    · rw [inputFinite, outputFinite]
      rcases Rounding.binary64_toNumber (add_nonneg input_rounded output_rounded) with
        ⟨sumFinite, _⟩ | ⟨sumLarge, large⟩
      · simp [Number.add, sumFinite, reserves]
      · have outside : ¬reserves rate oneHourCache tokens cap < reservationLimit :=
          not_lt.mpr (reservationLimit_lt.le.trans large)
        simp [Number.add, sumLarge, outside]
    · rw [inputFinite, outputLarge]
      simp [Number.add, overflow (large.trans (le_add_of_nonneg_left input_rounded))]
  · rw [inputLarge]
    have outside := overflow (large.trans (le_add_of_nonneg_right output_rounded))
    rcases Rounding.binary64_toNumber output with ⟨outputFinite, _⟩ | ⟨outputLarge, _⟩
    · simp [outputFinite, Number.add, outside]
    · simp [outputLarge, Number.add, outside]

theorem holdNumerator_nonneg {tokens cap : ℚ} (tokens_nonneg : 0 ≤ tokens) (cap_nonneg : 0 ≤ cap)
    : (holdNumerator .binary64 rate (.finite tokens) (.finite cap) oneHourCache).Nonneg := by
  have input : (priced .binary64 (.finite tokens) (maxInputRate rate oneHourCache)).Nonneg :=
    Number.FiniteNonneg.mul _ tokens_nonneg (maxInputRate_nonneg rate oneHourCache)
  have output : (priced .binary64 (.finite cap) rate.output).Nonneg :=
    Number.FiniteNonneg.mul _ cap_nonneg rate.output_nonneg
  exact input.add _ output

/-- A bound of finite numbers is a whole amount, or infinite. -/
theorem holdBoundOf_amount (rate : Rate) (oneHourCache : Bool) {tokens cap : ℚ}
    (tokens_nonneg : 0 ≤ tokens) (cap_nonneg : 0 ≤ cap)
    : (holdBoundOf .binary64 rate (.finite tokens) (.finite cap) oneHourCache).Amount :=
  ((holdNumerator_nonneg tokens_nonneg cap_nonneg).divBy _ (by norm_num)).floor

/-- A bound of finite numbers is a safe integer exactly where it is in range. -/
theorem holdBoundOf_safe_iff (rate : Rate) (oneHourCache : Bool) {tokens cap : ℚ}
    (tokens_nonneg : 0 ≤ tokens) (cap_nonneg : 0 ≤ cap)
    : (holdBoundOf .binary64 rate (.finite tokens) (.finite cap)
          oneHourCache).safeInteger?.isSome
      ↔ reserves rate oneHourCache tokens cap < reservationLimit := by
  rw [← holdNumerator_lt_iff tokens_nonneg cap_nonneg]
  exact (holdNumerator_nonneg tokens_nonneg cap_nonneg).safeInteger?_floor_divBy (by norm_num)

/-- No finite value. -/
def Unbounded (x : Number) : Prop := x = .nan ∨ ∃ s, x = .infinity s

theorem Unbounded.unholdable {x : Number} (unbounded : Unbounded x) : ¬HoldableAmount x := by
  rintro ⟨n, whole, _⟩
  rcases unbounded with rfl | ⟨s, rfl⟩ <;> cases whole

theorem Unbounded.min {x y : Number} (hx : Unbounded x) (hy : Unbounded y)
    : Unbounded (Number.min x y) := by
  unfold Number.min
  split
  · exact Or.inl rfl
  · split
    · exact hy
    · exact hx

/-- An infinite cap leaves no finite bound. -/
theorem holdBoundOf_infinite_cap (tokens : Number)
    : Unbounded (holdBoundOf .binary64 rate tokens (.infinity false) oneHourCache) := by
  have output : Unbounded (priced .binary64 (.infinity false) rate.output) := by
    unfold priced Number.mul
    by_cases free : rate.output = 0
    · exact Or.inl (by simp [free])
    · exact Or.inr ⟨false, by simp [free, rate.output_nonneg.not_gt]⟩
  have scaled {x : Number} (outside : Unbounded x)
      : Unbounded (x.divBy .binary64 1000000).floor := by
    rcases outside with rfl | ⟨s, rfl⟩
    · exact Or.inl rfl
    · exact Or.inr ⟨_, rfl⟩
  refine scaled ?_
  unfold holdNumerator
  generalize priced .binary64 tokens (maxInputRate rate oneHourCache) = input
  rcases output with nan | ⟨s, infinite⟩
  · rw [nan]
    cases input <;> exact Or.inl rfl
  · rw [infinite]
    cases input with
    | finite q => exact Or.inr ⟨s, rfl⟩
    | infinity t =>
        by_cases same : t = s
        · exact Or.inr ⟨t, by simp [Number.add, same]⟩
        · exact Or.inl (by simp [Number.add, same])
    | nan => exact Or.inl rfl

/-- An infinite count leaves no finite bound, and none at all where input is free. -/
theorem holdBoundOf_infinite_tokens {cap : ℚ} (cap_nonneg : 0 ≤ cap)
    : holdBoundOf .binary64 rate (.infinity false) (.finite cap) oneHourCache
      = if maxInputRate rate oneHourCache = 0 then .nan else .infinity false := by
  have output : (priced .binary64 (.finite cap) rate.output).Nonneg :=
    Number.FiniteNonneg.mul _ cap_nonneg rate.output_nonneg
  unfold holdBoundOf holdNumerator
  by_cases free : maxInputRate rate oneHourCache = 0
  · have input : priced .binary64 (.infinity false) (maxInputRate rate oneHourCache) = .nan := by
      simp [priced, Number.mul, free]
    rw [input, if_pos free]
    rfl
  · have input
        : priced .binary64 (.infinity false) (maxInputRate rate oneHourCache)
          = .infinity false := by
      simp [priced, Number.mul, free, (maxInputRate_nonneg rate oneHourCache).not_gt]
    rw [input, if_neg free]
    rcases output.cases with ⟨q, finite, _⟩ | infinite
    · rw [finite]
      simp [Number.add, Number.divBy, Number.floor]
    · rw [infinite]
      simp [Number.add, Number.divBy, Number.floor]

theorem min_ofInt (a b : ℤ) : Number.min (.ofInt a) (.ofInt b) = .ofInt (min a b) := by
  rcases lt_or_ge b a with less | least
  · simp [Number.min, Number.lt, Number.ofInt, less, less.le]
  · simp [Number.min, Number.lt, Number.ofInt, not_lt.mpr least, least]

/-- The lesser of two amounts is a safe integer where either is. -/
theorem safeInteger?_min {x y : Number} (hx : x.Amount) (hy : y.Amount)
    : (Number.min x y).safeInteger?.isSome ↔ x.safeInteger?.isSome ∨ y.safeInteger?.isSome := by
  rcases hx with ⟨a, rfl, a_nonneg⟩ | rfl
  · rcases hy with ⟨b, rfl, b_nonneg⟩ | rfl
    · rw [min_ofInt]
      simp only [Number.safeInteger?_ofInt, abs_of_nonneg a_nonneg, abs_of_nonneg b_nonneg,
        abs_of_nonneg (le_min a_nonneg b_nonneg)]
      split_ifs <;> simp
      all_goals omega
    · simp [Number.min, Number.lt, Number.ofInt, Number.safeInteger?]
  · rcases hy with ⟨b, rfl, b_nonneg⟩ | rfl
    · simp [Number.min, Number.lt, Number.ofInt, Number.safeInteger?]
    · simp [Number.min, Number.lt, Number.safeInteger?]

theorem holdable_iff_safe {micros : Number} (amount : micros.Amount)
    : HoldableAmount micros ↔ micros.safeInteger?.isSome := by
  constructor
  · intro holdable
    obtain ⟨n, _, valid⟩ := holdable.valid
    simp [valid]
  · intro safe
    rcases amount with ⟨n, rfl, nonneg⟩ | rfl
    · obtain ⟨m, valid⟩ := Option.isSome_iff_exists.mp safe
      refine ⟨n.toNat, by rw [Int.toNat_of_nonneg nonneg], ?_⟩
      rw [Int.toNat_of_nonneg nonneg]
      have bound := Number.abs_le_of_safeInteger? valid
      rw [← Number.ofInt_injective (Number.eq_ofInt_of_safeInteger? valid)] at bound
      exact (le_abs_self n).trans bound
    · cases safe

end Bounds

section Agreement

variable {book : PriceBook} (js : Runtime) (admission : Admission book)

/-- Whether the estimate for a number of input tokens is in range under a finite cap. -/
def Admission.InRange (rate : Rate) (tokens cap : ℚ) : Prop :=
  reserves rate (admission.provider.oneHourCache admission.body) tokens cap < reservationLimit

/-- The UTF-8 bytes of the body that is forwarded. -/
def Admission.bytes : ℚ := ((admission.effectiveRaw.utf8ByteSize : ℤ) : ℚ)

/-- Whether the lesser of the byte bound and the bound of a padded count is in range. -/
def Admission.CountInRange (rate : Rate) (cap : ℚ) : Number → Prop
  | .finite padded =>
      admission.InRange rate admission.bytes cap ∨ admission.InRange rate padded cap
  | _ =>
      admission.InRange rate admission.bytes cap
      ∧ 0 < maxInputRate rate (admission.provider.oneHourCache admission.body)

/-- Whether the estimate under a finite cap is in range, by the estimator and its count. -/
def Admission.EstimateInRange (rate : Rate) (cap : ℚ) (inputTokenCount : Option Json) : Prop :=
  match admission.provider.estimator, inputTokenCount.bind countedTokens with
  | .countTokensHold, some inputTokens =>
      admission.CountInRange rate cap (paddedTokens js inputTokens)
  | _, _ => admission.InRange rate admission.bytes cap

/-- The requests whose estimate the ledger accepts: the cap is finite, and the body's bytes or
the padded count stay in range with it; an infinite padded count must not meet a free input.
-/
def Admission.Reservable (inputTokenCount : Option Json) : Prop :=
  ∃ rate cap, book.findRate admission.model = some rate ∧ admission.maxTokens = .finite cap
    ∧ admission.EstimateInRange js rate cap inputTokenCount

/-- The cap of an admitted request is positive, or infinite. -/
theorem Admission.maxTokens_cases
    : (∃ cap, admission.maxTokens = .finite cap ∧ 0 ≤ cap)
      ∨ admission.maxTokens = .infinity false := by
  have positive := admission.positive
  cases limit : admission.maxTokens with
  | finite cap =>
      rw [limit] at positive
      have above : (0 : ℚ) < cap := by simpa [Number.lt, Number.ofInt] using positive
      exact Or.inl ⟨cap, rfl, above.le⟩
  | infinity negative =>
      rw [limit] at positive
      have above : negative = false := by simpa [Number.lt, Number.ofInt] using positive
      exact Or.inr (by rw [above])
  | nan =>
      rw [limit] at positive
      cases positive

/-- A usable count is a finite number of at least 1. -/
theorem countedTokens_inv {data : Json} {inputTokens : Number}
    (counted : countedTokens data = some inputTokens)
    : ∃ q, inputTokens = .finite q ∧ 1 ≤ q := by
  unfold countedTokens at counted
  split at counted
  · rename_i q found
    split at counted
    · cases counted
    · rename_i large
      exact ⟨q, (Option.some.inj counted).symm, not_lt.mp large⟩
  · cases counted

/-- A padded count is at least zero. -/
theorem paddedTokens_nonneg {q : ℚ} (large : 1 ≤ q) : (paddedTokens js (.finite q)).Nonneg := by
  have margin : (js.fp.toNumber (11 / 10)).Nonneg := js.fp.toNumber_nonneg (by norm_num)
  have scaled : ((Number.finite q).mul js.fp (js.fp.toNumber (11 / 10))).Nonneg := by
    rcases margin.cases with ⟨m, finite, nonneg⟩ | infinite
    · rw [finite]
      exact js.fp.toNumber_nonneg (mul_nonneg (by linarith) nonneg)
    · have positive : ¬q = 0 := by linarith
      rw [infinite]
      simp [Number.mul, positive, Number.Nonneg, (zero_le_one.trans large).not_gt]
  exact (Number.Nonneg.ceil scaled).add _ (by norm_num : (0 : ℚ) ≤ ((64 : ℤ) : ℚ))

/-- The byte bound of an admitted request. -/
def Admission.byteBound (rate : Rate) : Number :=
  holdBoundOf js.fp rate (.finite admission.bytes) admission.maxTokens
    (admission.provider.oneHourCache admission.body)

/-- The bound of an admitted request for a count. -/
def Admission.countBound (rate : Rate) (inputTokens : Number) : Number :=
  holdBoundOf js.fp rate (paddedTokens js inputTokens) admission.maxTokens
    (admission.provider.oneHourCache admission.body)

/-- The estimator never throws for an admitted request, and returns one of two amounts. -/
theorem Admission.estimateHold_micros {rate : Rate}
    (found : book.findRate admission.model = some rate) (inputTokenCount : Option Json)
    : ∃ estimate, admission.estimateHold js inputTokenCount = some estimate
        ∧ estimate.micros
          = match admission.provider.estimator, inputTokenCount.bind countedTokens with
            | .countTokensHold, some inputTokens =>
                (admission.byteBound js rate).min (admission.countBound js rate inputTokens)
            | _, _ => admission.byteBound js rate := by
  unfold Admission.estimateHold HoldEstimator.estimate
  cases admission.provider.estimator with
  | byteBoundHold => exact ⟨_, by simp [Proxy.byteBoundHold, priceHoldBound, found]; rfl, rfl⟩
  | countTokensHold =>
      cases counted : inputTokenCount.bind countedTokens with
      | none =>
          simp only [Proxy.countTokensHold, counted]
          exact ⟨_, by simp [Proxy.byteBoundHold, priceHoldBound, found]; rfl, rfl⟩
      | some inputTokens =>
          simp only [Proxy.countTokensHold, counted, Proxy.byteBoundHold, priceHoldBound, found,
            Option.map_some]
          exact ⟨_, rfl, rfl⟩

variable {js admission}

theorem Admission.bytes_nonneg : 0 ≤ admission.bytes := by
  simp [Admission.bytes]

/-- The byte bound of an admitted request is holdable exactly where it is in range. -/
theorem byteBound_holdable_iff {rate : Rate} {cap : ℚ} (cap_nonneg : 0 ≤ cap)
    : HoldableAmount
          (holdBoundOf .binary64 rate (.finite admission.bytes) (.finite cap)
            (admission.provider.oneHourCache admission.body))
      ↔ admission.InRange rate admission.bytes cap := by
  rw [holdable_iff_safe (holdBoundOf_amount rate _ Admission.bytes_nonneg cap_nonneg)]
  exact holdBoundOf_safe_iff rate _ Admission.bytes_nonneg cap_nonneg

/-- The lesser of the byte bound and a counted bound, likewise. -/
theorem countedBound_holdable_iff {rate : Rate} {cap : ℚ} {padded : Number}
    (cap_nonneg : 0 ≤ cap) (padded_nonneg : padded.Nonneg)
    : HoldableAmount
          ((holdBoundOf .binary64 rate (.finite admission.bytes) (.finite cap)
              (admission.provider.oneHourCache admission.body)).min
            (holdBoundOf .binary64 rate padded (.finite cap)
              (admission.provider.oneHourCache admission.body)))
      ↔ admission.CountInRange rate cap padded := by
  have bytes := holdBoundOf_amount rate (admission.provider.oneHourCache admission.body)
    admission.bytes_nonneg cap_nonneg
  have inRange := holdBoundOf_safe_iff rate (admission.provider.oneHourCache admission.body)
    admission.bytes_nonneg cap_nonneg
  rcases padded_nonneg.cases with ⟨p, rfl, p_nonneg⟩ | rfl
  · have counted := holdBoundOf_amount rate (admission.provider.oneHourCache admission.body)
      p_nonneg cap_nonneg
    rw [holdable_iff_safe (bytes.min counted), safeInteger?_min bytes counted, inRange,
      holdBoundOf_safe_iff rate _ p_nonneg cap_nonneg]
    rfl
  · rw [holdBoundOf_infinite_tokens cap_nonneg]
    rcases (maxInputRate_nonneg rate
      (admission.provider.oneHourCache admission.body)).eq_or_lt with free | positive
    · rw [if_pos free.symm]
      have undefined : Unbounded (Number.min
          (holdBoundOf .binary64 rate (.finite admission.bytes) (.finite cap)
            (admission.provider.oneHourCache admission.body)) .nan) := by
        simp [Unbounded, Number.min]
      exact iff_of_false undefined.unholdable (fun reservable => free.not_lt reservable.2)
    · rw [if_neg positive.ne', holdable_iff_safe (bytes.min (Or.inr rfl)),
        safeInteger?_min bytes (Or.inr rfl), inRange]
      simp [Admission.CountInRange, Admission.InRange, Number.safeInteger?, positive]

theorem Admission.reservable_iff {rate : Rate} {cap : ℚ} {inputTokenCount : Option Json}
    (found : book.findRate admission.model = some rate)
    (limit : admission.maxTokens = .finite cap)
    : admission.Reservable js inputTokenCount
      ↔ admission.EstimateInRange js rate cap inputTokenCount := by
  constructor
  · rintro ⟨rate', cap', found', limit', inRange⟩
    obtain rfl := Option.some.inj (found'.symm.trans found)
    obtain rfl := Number.finite.inj (limit'.symm.trans limit)
    exact inRange
  · exact fun inRange => ⟨rate, cap, found, limit, inRange⟩

/-- The gate lets no request through that the estimator cannot price, and what it estimates is
holdable exactly for the reservable requests.
-/
theorem Admission.estimateHold_holdable_iff (doubles : js.fp = .binary64)
    (inputTokenCount : Option Json)
    : ∃ estimate, admission.estimateHold js inputTokenCount = some estimate
        ∧ (HoldableAmount estimate.micros ↔ admission.Reservable js inputTokenCount) := by
  obtain ⟨rate, found⟩ :=
    PriceBook.exists_rate (admission.provider.owns_priced admission.model admission.owned)
  obtain ⟨estimate, sized, micros⟩ :=
    admission.estimateHold_micros js found inputTokenCount
  refine ⟨estimate, sized, ?_⟩
  rw [micros]
  rcases admission.maxTokens_cases with ⟨cap, limit, cap_nonneg⟩ | limit
  · rw [Admission.reservable_iff found limit]
    unfold Admission.EstimateInRange Admission.byteBound Admission.countBound
    rw [doubles, limit]
    split
    · rename_i inputTokens counting counted
      obtain ⟨data, _, usable⟩ := Option.bind_eq_some_iff.mp counted
      obtain ⟨q, rfl, large⟩ := countedTokens_inv usable
      exact countedBound_holdable_iff cap_nonneg (paddedTokens_nonneg js large)
    · exact byteBound_holdable_iff cap_nonneg
  · have unreservable : ¬admission.Reservable js inputTokenCount := by
      rintro ⟨rate, cap, _, finite, _⟩
      rw [limit] at finite
      cases finite
    refine iff_of_false ?_ unreservable
    unfold Admission.byteBound Admission.countBound
    rw [doubles, limit]
    split
    · exact ((holdBoundOf_infinite_cap _).min (holdBoundOf_infinite_cap _)).unholdable
    · exact (holdBoundOf_infinite_cap _).unholdable

end Agreement

/-- Gate-to-wire agreement, exactly: for every request that passes the gates and every answer of
the token counter, the estimate exists, and it is an amount the ledger accepts and answers
without ending the proxy if and only if the request is reservable. Otherwise every ledger ends the
proxy that asks it for that hold.
-/
theorem hold_agreement_iff {book : PriceBook} (js : Runtime) (settings : HandlerSettings)
    (candidates : List (Provider book)) (req : MeteredRequest) (ledger : LedgerAnswers)
    (doubles : js.fp = .binary64)
    : ∀ admission,
        gate js settings candidates req ledger = .ok admission
        → ∀ inputTokenCount,
            ((∃ estimate, admission.estimateHold js inputTokenCount = some estimate
              ∧ WireAgreement admission.hash estimate.micros)
            ↔ admission.Reservable js inputTokenCount)
            ∧ ∀ estimate,
                admission.estimateHold js inputTokenCount = some estimate
                → ¬admission.Reservable js inputTokenCount
                → ∀ db sessionId holdId bytes nowMs hookThrows,
                    ∃ message,
                      answered (.openHold admission.hash estimate.micros holdId)
                          (createLedgerHandler db nowMs hookThrows
                            ((ClientOp.openHold admission.hash estimate.micros holdId).request
                              sessionId bytes)).1
                        = .done (.fatal message) := by
  intro admission _ inputTokenCount
  obtain ⟨estimate, sized, holdable⟩ :=
    admission.estimateHold_holdable_iff doubles inputTokenCount
  rw [← holdable]
  refine ⟨⟨?_, fun amount => ⟨estimate, sized, wireAgreement_iff.mpr amount⟩⟩, ?_⟩
  · rintro ⟨other, same, agreement⟩
    obtain rfl := Option.some.inj (same.symm.trans sized)
    exact wireAgreement_iff.mp agreement
  · intro other same refused db sessionId holdId bytes nowMs hookThrows
    obtain rfl := Option.some.inj (same.symm.trans sized)
    exact answered_unholdable db sessionId admission.hash holdId bytes refused nowMs hookThrows

section Example

/-- A cap of 100 tokens is reservable, and its estimate agrees with the wire. -/
theorem hold_agreement_iff_small
    : ∃ admission estimate,
        gate exampleJs exampleSettings (exampleCandidates exampleJs) (exampleRequest exampleRaw)
            (exampleLedger (.resolved true))
          = .ok admission
        ∧ admission.estimateHold exampleJs none = some estimate
        ∧ WireAgreement admission.hash estimate.micros := by
  have admitted
      : (gate exampleJs exampleSettings (exampleCandidates exampleJs)
          (exampleRequest exampleRaw) (exampleLedger (.resolved true))).toOption.map
            (fun admission =>
              (admission.model, admission.maxTokens, admission.effectiveRaw,
                admission.provider.oneHourCache admission.body))
        = some ("claude-haiku-4-5", .finite 100, exampleRaw, false) := by
    decide +kernel
  obtain ⟨admission, found, facts⟩ := Option.map_eq_some_iff.mp admitted
  obtain ⟨model, limit, raw, standard⟩ := by simpa only [Prod.mk.injEq] using facts
  have passed := ok_of_toOption found
  have inRange : admission.InRange exampleRate admission.bytes 100 := by
    rw [Admission.InRange, Admission.bytes, raw, standard]
    decide +kernel
  have reservable : admission.Reservable exampleJs none := by
    refine ⟨exampleRate, 100, by rw [model]; rfl, limit, ?_⟩
    unfold Admission.EstimateInRange
    split
    · rename_i counted
      cases counted
    · exact inRange
  obtain ⟨estimate, sized, agreement⟩ :=
    (hold_agreement_iff exampleJs exampleSettings (exampleCandidates exampleJs)
      (exampleRequest exampleRaw) (exampleLedger (.resolved true)) rfl admission passed
      none).1.mpr reservable
  exact ⟨admission, estimate, passed, sized, agreement⟩

def hugeRaw : String := "\x7b\"model\":\"claude-haiku-4-5\",\"max_tokens\":1e300\x7d"

def hugeJs : Runtime :=
  exampleRuntime [(hugeRaw, exampleBody (.finite (Binary64.round (10 ^ 300))))]

/-- A ledger with one funded token, under the current session of the proxy. -/
def exampleStore : BalanceStore :=
  {
    BalanceStore.empty with
    tokens := ⟨[⟨exampleSettings.hashToken "0sink_example", 1000000⟩], by decide⟩
    ledgerSession := some ⟨exampleSession, 0, 0, 0⟩
  }

/-- A cap of 1e300 passes the gates, but its hold is no amount the wire accepts: the ledger
refuses the request as malformed, and the client ends the process.
-/
theorem hold_agreement_fails
    : ∃ admission estimate,
        gate hugeJs exampleSettings (exampleCandidates hugeJs) (exampleRequest hugeRaw)
            (exampleLedger (.resolved true))
          = .ok admission
        ∧ admission.estimateHold hugeJs none = some estimate
        ∧ ¬WireAmount estimate.micros
        ∧ WellFormed exampleSession exampleEnvironment.holdId admission.hash
        ∧ Answerable exampleStore exampleSession admission.hash exampleEnvironment.holdId
            estimate.micros
        ∧ answered (.openHold admission.hash estimate.micros exampleEnvironment.holdId)
              (createLedgerHandler exampleStore 0 false
                ((ClientOp.openHold admission.hash estimate.micros
                  exampleEnvironment.holdId).request exampleSession 200)).1
            = .done (.fatal "ledger protocol failure /hold/open: invalid_request") := by
  have admitted
      : (gate hugeJs exampleSettings (exampleCandidates hugeJs) (exampleRequest hugeRaw)
          (exampleLedger (.resolved true))).toOption.map
            (fun admission =>
              (admission.estimateHold hugeJs none).map
                (fun estimate =>
                  (decide (safeMicros (some (Json.transmit (.number estimate.micros))) = none),
                    hashHex admission.hash,
                    answered
                      (.openHold admission.hash estimate.micros exampleEnvironment.holdId)
                      (createLedgerHandler exampleStore 0 false
                        ((ClientOp.openHold admission.hash estimate.micros
                          exampleEnvironment.holdId).request exampleSession 200)).1)))
        = some (some
            (true, true,
              .done (.fatal "ledger protocol failure /hold/open: invalid_request"))) := by
    decide +kernel
  obtain ⟨admission, found, estimated⟩ := Option.map_eq_some_iff.mp admitted
  obtain ⟨estimate, sized, facts⟩ := Option.map_eq_some_iff.mp estimated
  obtain ⟨refused, hex, fatal⟩ := by simpa only [Prod.mk.injEq] using facts
  have unaccepted : ¬WireAmount estimate.micros := by
    rw [WireAmount, of_decide_eq_true refused]
    simp
  exact ⟨admission, estimate, ok_of_toOption found, sized, unaccepted,
    ⟨by decide +kernel, by decide +kernel, hex⟩, .fresh (by decide) (by decide) (by decide),
    fatal⟩

end Example

end Nullsink.Proxy
