import Nullsink.Ledger.Wire
import Nullsink.Payments.Settle

/-! `POST /buy`: what the handler checks of a request, what it quotes, and the order it opens, from
one of its awaits to the next.
-/

namespace Nullsink.Payments

open Relational Ecma

/-- The part of a pay rail that the handlers read. -/
structure RailView where
  name : String
  scale : ℚ
  unit : String
  confirmations : ℕ
  scale_pos : 0 < scale

/-- A receive address with the rail's index for it. -/
structure NewAddress where
  address : String
  orderIndex : ℤ

/-- The configuration of the handlers, within the bounds its loader enforces. -/
structure BuyConfig where
  rails : List RailView
  defaultRail : String
  margin : ℚ
  buyMinUsd : ℚ
  buyMaxUsd : ℚ
  orderTtlMs : ℤ
  maxOpenOrders : ℤ
  margin_ge : 1 ≤ margin
  buyMinUsd_pos : 0 < buyMinUsd

/-- `RAILS.get(name)`. -/
def BuyConfig.rail? (cfg : BuyConfig) (name : String) : Option RailView :=
  cfg.rails.find? (fun rail => rail.name = name)

/-- An error response: its status and code. -/
structure Denial where
  status : ℕ
  error : String
  deriving DecidableEq

/-- A request the handler accepts. -/
structure Purchase (cfg : BuyConfig) where
  hash : String
  creditUsd : ℚ
  rail : RailView
  accepted : cfg.buyMinUsd ≤ creditUsd ∧ creditUsd ≤ cfg.buyMaxUsd

/-- The handler's checks of a body. -/
def parsePurchase (cfg : BuyConfig) (body : Json) : Except Denial (Purchase cfg) :=
  match Ledger.validHash (body.get? "hash") with
  | none => .error ⟨400, "invalid_hash"⟩
  | some hash =>
      match (body.get? "credit_usd").bind Json.number? with
      | some (.finite creditUsd) =>
          if accepted : cfg.buyMinUsd ≤ creditUsd ∧ creditUsd ≤ cfg.buyMaxUsd then
            match cfg.rail? (((body.get? "rail").bind Json.string?).getD cfg.defaultRail) with
            | none => .error ⟨400, "unknown_rail"⟩
            | some rail => .ok ⟨hash, creditUsd, rail, accepted⟩
          else .error ⟨400, "invalid_amount"⟩
      | _ => .error ⟨400, "invalid_amount"⟩

/-- The rate of a rail's answer, unless the fetch failed or the rate poisons the quote. -/
def usableRate (answer : Except String Number) : Option {rate : ℚ // 0 < rate} :=
  match answer with
  | .ok (.finite rate) => if positive : 0 < rate then some ⟨rate, positive⟩ else none
  | _ => none

section Rounded

variable (round : ℚ → ℚ)

/-- The atomic units asked for a credit at a rate, rounded up. -/
def quoteAtomic (creditUsd margin rate scale : ℚ) : ℤ :=
  ⌈round (round (round (creditUsd * margin) / rate) * scale)⌉

/-- The micro-dollars a credit is locked at. -/
def lockedMicros (creditUsd : ℚ) : ℤ :=
  Binary64.mathRound (round (creditUsd * 1000000))

end Rounded

/-- A purchase at a rate: what the handler carries across `createAddress`. -/
structure Draft (cfg : BuyConfig) extends Purchase cfg where
  rate : ℚ
  createdAt : ℤ
  rate_pos : 0 < rate

namespace Draft

variable {cfg : BuyConfig} (draft : Draft cfg)

def expectedAtomic (round : ℚ → ℚ) : ℤ :=
  quoteAtomic round draft.creditUsd cfg.margin draft.rate draft.rail.scale

/-- The row the handler inserts for a minted address. -/
def order (round : ℚ → ℚ) (address : NewAddress) : PendingOrder where
  rail := draft.rail.name
  orderIndex := address.orderIndex
  address := address.address
  hash := draft.hash
  expectedAtomic := draft.expectedAtomic round
  creditMicros := lockedMicros round draft.creditUsd
  receivedAtomic := 0
  createdAt := draft.createdAt
  rateUsd := draft.rate
  seenAt := none

end Draft

/-- What a buyer is told to pay. The amount is of whole coins. -/
structure Quote where
  payTo : String
  amount : ℚ
  unit : String
  rateUsd : ℚ
  confirmationsRequired : ℕ
  expiresAt : ℤ

/-- The quote of an order. -/
def Draft.quote {cfg : BuyConfig} (draft : Draft cfg) (address : NewAddress) : Quote where
  payTo := address.address
  amount := Binary64.round (draft.expectedAtomic Binary64.round / draft.rail.scale)
  unit := draft.rail.unit
  rateUsd := draft.rate
  confirmationsRequired := draft.rail.confirmations
  expiresAt := draft.createdAt + cfg.orderTtlMs

/-- `openCount()`, over every rail. -/
def OrdersStore.openCount (orders : OrdersStore) : ℤ :=
  orders.pendingOrders.rows.length

/-- How a call of the handler ends. -/
inductive BuyReply where
  | denied (denial : Denial)
  | quoted (quote : Quote)
  | threw (error : String)

end Nullsink.Payments
