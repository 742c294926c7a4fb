import Mathlib.Tactic.FieldSimp
import Mathlib.Tactic.Linarith
import Mathlib.Tactic.Positivity
import Mathlib.Tactic.Ring
import Nullsink.Payments.Buy

/-! The margin of a sale: what `settle` credits for an order of `/buy`, against what it books, in
exact arithmetic.
-/

namespace Nullsink.Payments

open Ecma

/-- A settlement credits and books them under the rounding of binary64. -/
theorem settlementFor_amounts (now : ℤ) (cfg : SettleConfig) (g : CreditGroup) (o : PendingOrder)
    : (settlementFor now cfg g o).micros
        = shareOf Binary64.round o.creditMicros o.expectedAtomic g.amount
      ∧ (settlementFor now cfg g o).grossMicros
        = grossOf Binary64.round g.amount cfg.scale o.rateUsd :=
  ⟨rfl, rfl⟩

theorem mathRound_le (q : ℚ) : (Binary64.mathRound q : ℚ) ≤ q + 1 / 2 := Int.floor_le _

theorem le_mathRound (q : ℚ) : q - 1 / 2 ≤ Binary64.mathRound q := by
  have above := Int.lt_floor_add_one (q + 1 / 2)
  unfold Binary64.mathRound
  linarith

theorem mathRound_mono {p q : ℚ} (le : p ≤ q) : Binary64.mathRound p ≤ Binary64.mathRound q :=
  Int.floor_mono (by linarith)

theorem mathRound_intCast (n : ℤ) : Binary64.mathRound n = n := by
  unfold Binary64.mathRound
  rw [Int.floor_intCast_add]
  norm_num

namespace Draft

variable {cfg : BuyConfig} (draft : Draft cfg)

theorem creditUsd_pos : 0 < draft.creditUsd :=
  cfg.buyMinUsd_pos.trans_le draft.accepted.1

theorem margin_pos (cfg : BuyConfig) : 0 < cfg.margin := one_pos.trans_le cfg.margin_ge

/-- The quote is at least the price. -/
theorem price_le_expectedAtomic
    : draft.creditUsd * cfg.margin / draft.rate * draft.rail.scale
      ≤ draft.expectedAtomic id :=
  Int.le_ceil _

theorem expectedAtomic_pos : 0 < draft.expectedAtomic id := by
  have credit := draft.creditUsd_pos
  have margin := margin_pos cfg
  have rate := draft.rate_pos
  have scale := draft.rail.scale_pos
  have price : 0 < draft.creditUsd * cfg.margin / draft.rate * draft.rail.scale := by positivity
  exact Int.ceil_pos.mpr price

theorem lockedMicros_nonneg : 0 ≤ lockedMicros id draft.creditUsd := by
  have credit := draft.creditUsd_pos
  refine Int.floor_nonneg.mpr ?_
  simp only [id]
  positivity

end Draft

/-- A larger payment is credited no less. -/
theorem shareOf_mono {creditMicros expectedAtomic : ℤ} (credit : 0 ≤ creditMicros)
    (expects : 0 < expectedAtomic) {a b : ℚ} (le : a ≤ b)
    : shareOf id creditMicros expectedAtomic a ≤ shareOf id creditMicros expectedAtomic b := by
  have ratio : a / expectedAtomic ≤ b / expectedAtomic := by gcongr
  exact mathRound_mono (mul_le_mul_of_nonneg_left ratio (by exact_mod_cast credit))

/-- The whole quote is credited with the whole credit. -/
theorem shareOf_expected {expectedAtomic : ℤ} (creditMicros : ℤ) (expects : 0 < expectedAtomic)
    : shareOf id creditMicros expectedAtomic expectedAtomic = creditMicros := by
  have nonzero : (expectedAtomic : ℚ) ≠ 0 := by exact_mod_cast expects.ne'
  simp only [shareOf, id, div_self nonzero, mul_one]
  exact mathRound_intCast creditMicros

/-- What is credited for an amount, times the margin, exceeds what is booked for it by at most the
three roundings.
-/
theorem Draft.margin_kept {cfg : BuyConfig} (draft : Draft cfg) {amount : ℚ}
    (nonneg : 0 ≤ amount)
    : (shareOf id (lockedMicros id draft.creditUsd) (draft.expectedAtomic id) amount : ℚ)
        * cfg.margin
      ≤ grossOf id amount draft.rail.scale draft.rate
        + 1 / 2 + cfg.margin / 2 * (1 + amount / draft.expectedAtomic id) := by
  obtain ⟨expected, quoted⟩ : ∃ expected : ℤ, draft.expectedAtomic id = expected := ⟨_, rfl⟩
  have expects : (0 : ℚ) < expected := by
    rw [← quoted]
    exact_mod_cast draft.expectedAtomic_pos
  have margin := Draft.margin_pos cfg
  have rate := draft.rate_pos
  have scale := draft.rail.scale_pos
  have ratio : 0 ≤ amount / expected := by positivity
  rw [quoted]
  -- The share and the locked credit round to the nearest.
  have credited : (shareOf id (lockedMicros id draft.creditUsd) expected amount : ℚ)
      ≤ (draft.creditUsd * 1000000 + 1 / 2) * (amount / expected) + 1 / 2 :=
    calc (shareOf id (lockedMicros id draft.creditUsd) expected amount : ℚ)
        ≤ lockedMicros id draft.creditUsd * (amount / expected) + 1 / 2 := mathRound_le _
      _ ≤ (draft.creditUsd * 1000000 + 1 / 2) * (amount / expected) + 1 / 2 := by
          have locked := mathRound_le (draft.creditUsd * 1000000)
          gcongr
          exact locked
  -- The quote rounds up, so that the coin is worth the price of what it buys.
  have worth : draft.creditUsd * cfg.margin * (amount / expected)
      ≤ amount / draft.rail.scale * draft.rate := by
    have price := draft.price_le_expectedAtomic
    rw [quoted, div_mul_eq_mul_div, div_le_iff₀ rate] at price
    rw [div_mul_eq_mul_div, mul_div_assoc', div_le_div_iff₀ expects scale]
    calc draft.creditUsd * cfg.margin * amount * draft.rail.scale
        = draft.creditUsd * cfg.margin * draft.rail.scale * amount := by ring
      _ ≤ expected * draft.rate * amount := by gcongr
      _ = amount * draft.rate * expected := by ring
  have booked : amount / draft.rail.scale * draft.rate * 1000000 - 1 / 2
      ≤ grossOf id amount draft.rail.scale draft.rate :=
    le_mathRound _
  calc (shareOf id (lockedMicros id draft.creditUsd) expected amount : ℚ) * cfg.margin
      ≤ ((draft.creditUsd * 1000000 + 1 / 2) * (amount / expected) + 1 / 2) * cfg.margin := by
        gcongr
    _ = draft.creditUsd * cfg.margin * (amount / expected) * 1000000
          + cfg.margin / 2 * (1 + amount / expected) := by ring
    _ ≤ amount / draft.rail.scale * draft.rate * 1000000
          + cfg.margin / 2 * (1 + amount / expected) := by gcongr
    _ ≤ grossOf id amount draft.rail.scale draft.rate
          + 1 / 2 + cfg.margin / 2 * (1 + amount / expected) := by linarith

/-- For every order of the handler the credited share grows with the payment, is the locked credit
at the quoted amount, and times the margin is covered by the gross but for rounding. Settlement
credits that share and books that gross, with the rounding of doubles.
-/
theorem margin_never_eroded (cfg : BuyConfig) (draft : Draft cfg) (address : NewAddress)
    : let order := draft.order id address
      0 < order.expectedAtomic
      ∧ (∀ a b : ℚ, a ≤ b
          → shareOf id order.creditMicros order.expectedAtomic a
            ≤ shareOf id order.creditMicros order.expectedAtomic b)
      ∧ shareOf id order.creditMicros order.expectedAtomic order.expectedAtomic
        = order.creditMicros
      ∧ (∀ a : ℚ, 0 ≤ a
          → (shareOf id order.creditMicros order.expectedAtomic a : ℚ) * cfg.margin
            ≤ grossOf id a draft.rail.scale order.rateUsd
              + 1 / 2 + cfg.margin / 2 * (1 + a / order.expectedAtomic))
      ∧ ∀ now settled group (o : PendingOrder),
          (settlementFor now settled group o).micros
              = shareOf Binary64.round o.creditMicros o.expectedAtomic group.amount
            ∧ (settlementFor now settled group o).grossMicros
              = grossOf Binary64.round group.amount settled.scale o.rateUsd := by
  refine ⟨draft.expectedAtomic_pos, ?_, ?_, ?_, settlementFor_amounts⟩
  · exact fun a b le => shareOf_mono draft.lockedMicros_nonneg draft.expectedAtomic_pos le
  · exact shareOf_expected _ draft.expectedAtomic_pos
  · exact fun a nonneg => draft.margin_kept nonneg

section Example

/-- Piconero, as the rail of the examples counts. -/
def exampleRail : RailView :=
  ⟨"monero", 1000000000000, "XMR", 10, by norm_num⟩

def exampleBuyConfig : BuyConfig where
  rails := [exampleRail]
  defaultRail := "monero"
  margin := 11 / 10
  buyMinUsd := 2
  buyMaxUsd := 2000
  orderTtlMs := 3600000
  maxOpenOrders := 1
  margin_ge := by norm_num
  buyMinUsd_pos := by norm_num

def exampleDraft : Draft exampleBuyConfig where
  hash := "9f86d081884c7d659a2feaa0c55ad015a3bf4f1b2b0b822cd15d6c15b0f00a08"
  creditUsd := 10
  rail := exampleRail
  accepted := by norm_num [exampleBuyConfig]
  rate := 150
  createdAt := 0
  rate_pos := by norm_num

/-- Half of the quote of ten dollars. -/
theorem margin_never_eroded_half
    : (shareOf id 10000000 73333333334 36666666667 : ℚ) * (11 / 10)
      ≤ grossOf id 36666666667 1000000000000 150
        + 1 / 2 + 11 / 10 / 2 * (1 + 36666666667 / 73333333334) := by
  have expected : (exampleDraft.order id ⟨"4AdUnd", 7⟩).expectedAtomic = 73333333334 := by
    decide +kernel
  have credit : (exampleDraft.order id ⟨"4AdUnd", 7⟩).creditMicros = 10000000 := by
    decide +kernel
  obtain ⟨_, _, _, covered, _⟩ :=
    margin_never_eroded exampleBuyConfig exampleDraft ⟨"4AdUnd", 7⟩
  have kept := covered 36666666667 (by norm_num)
  rw [expected, credit] at kept
  push_cast at kept
  exact kept

end Example

end Nullsink.Payments
