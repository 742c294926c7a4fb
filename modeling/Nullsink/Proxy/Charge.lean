import Nullsink.Proxy.Handler

/-! The charge of a held request, and what one pass of `billActual` does to its billing. -/

namespace Nullsink.Proxy

open Ecma

@[simp] theorem settlements_append (first later : List Effect)
    : settlements (first ++ later) = settlements first ++ settlements later := by
  simp [settlements]

@[simp] theorem settlements_settleHold (billing : Billing) (holdId : String) (charge : Number)
    : settlements (billing.emit (.settleHold holdId charge)).effects
      = settlements billing.effects ++ [(holdId, charge)] := by
  rw [Billing.emit, settlements_append]
  rfl

@[simp] theorem settlements_count (billing : Billing) (counter : Counter)
    : settlements (billing.count counter).effects = settlements billing.effects := by
  simp [Billing.count, Billing.emit, settlements]

@[simp] theorem completedCharge_count (billing : Billing) (counter : Counter)
    : (billing.count counter).completedCharge = billing.completedCharge :=
  rfl

section Charges

variable {book : PriceBook} (js : Runtime) (held : Held book)

/-- An admitted hold is a whole number of micros. -/
theorem Held.holdAmount_whole : ∃ h : ℤ, held.holdAmount = .ofInt h ∧ 0 ≤ h := by
  obtain ⟨h, found⟩ :=
    Option.isSome_iff_exists.mp (Option.filter_eq_some_iff.mp held.accepted).2
  obtain ⟨safe, nonneg⟩ := Option.filter_eq_some_iff.mp found
  exact ⟨h, Number.eq_ofInt_of_safeInteger? safe, by simpa using nonneg⟩

/-- The charge of an amount is a whole number between zero and the hold. -/
theorem Held.effectiveDebit_bounds {actual : Number} (amount : actual.Amount)
    : ∃ h c : ℤ, held.holdAmount = .ofInt h ∧ effectiveDebit held.holdAmount actual = .ofInt c
      ∧ 0 ≤ c ∧ c ≤ h := by
  obtain ⟨h, whole, nonneg⟩ := held.holdAmount_whole
  obtain ⟨c, charge, bounds⟩ := amount.clamp nonneg
  exact ⟨h, c, whole, by rw [whole]; exact charge, bounds⟩

theorem Held.effectiveDebit_zero : effectiveDebit held.holdAmount (.ofInt 0) = .ofInt 0 := by
  obtain ⟨h, whole, nonneg⟩ := held.holdAmount_whole
  rw [whole]
  simp [effectiveDebit, Number.max, Number.min, Number.ofInt, Number.lt, nonneg.not_gt]

theorem Held.model_priced : (book.findModel held.model).isSome :=
  held.provider.owns_priced held.model held.owned

/-- The gate makes the input floor of a held request a price. -/
theorem acceptedInputFloor_isSome : (acceptedInputFloor js held).isSome :=
  priceUsage_isSome js.fp _ _ held.model_priced

@[simp] theorem completedCharge_noteExcess (billing : Billing) (actual : Number)
    : (noteExcess held billing actual).completedCharge = billing.completedCharge := by
  unfold noteExcess
  split <;> rfl

@[simp] theorem settlements_noteExcess (billing : Billing) (actual : Number)
    : settlements (noteExcess held billing actual).effects = settlements billing.effects := by
  unfold noteExcess
  split
  · exact settlements_count _ _
  · rfl

/-- A first pass of `billActual` stops at its settlement call, which carries the charge. -/
theorem billCall_uncharged {billing : Billing} (actual : Number)
    (uncharged : billing.completedCharge = none)
    : billCall held billing actual
      = (.calling (effectiveDebit held.holdAmount actual),
        (noteExcess held billing actual).emit
          (.settleHold held.holdId (effectiveDebit held.holdAmount actual))) := by
  simp only [billCall, uncharged]

/-- After a definite settlement `billActual` ends without a call. -/
theorem billCall_charged {billing : Billing} {charge : Number} (actual : Number)
    (charged : billing.completedCharge = some charge)
    : billCall held billing actual
      = (.ended
          (if charge.strictEq (effectiveDebit held.holdAmount actual) then .charged charge
          else .conflictingCharge),
        noteExcess held billing actual) := by
  simp only [billCall, charged]

end Charges

end Nullsink.Proxy
