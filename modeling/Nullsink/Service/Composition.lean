import Nullsink.Metering.NetworkInvariant
import Nullsink.Payments.CreditOnce

/-! The whole service: the payments process and its drain, the proxies, and the one ledger between
them. Credits reach the ledger by the credit socket only, and session calls by the metering socket
only; the two sockets share nothing but the ledger's store.
-/

namespace Nullsink

open Relational Transition Ecma Ledger Metering Payments

/-- The payments side with its wire and the ledger, and what passed on the metering socket. -/
structure Service where
  crossing : Crossing
  calls : List Call
  answers : List Answer

inductive ServiceAction where
  | payments (action : CrossingAction)
  | metering (action : NetworkAction)

/-- The actions that stand for the rest of the service in the model of one side. -/
def ServiceAction.outside : ServiceAction → Bool
  | .payments (.ledger _) => true
  | .metering (.credit _ _ _ _) => true
  | _ => false

namespace Service

def ledger (s : Service) : History := s.crossing.ledger

/-- What the proxies see of the service. -/
def metering (s : Service) : Network :=
  ⟨s.crossing.ledger, s.calls, s.answers⟩

/-- The service after a step of the metering side. -/
def meter (s : Service) (n : Network) : Service :=
  ⟨{ s.crossing with ledger := n.history }, n.calls, n.answers⟩

/-- One action, `none` where it is not possible. -/
def act (s : Service) (action : ServiceAction) : Option Service :=
  if action.outside then none
  else
    match action with
    | .payments action => (s.crossing.act action).map (fun crossing => { s with crossing })
    | .metering action => (s.metering.act action).map s.meter

/-- Actions in sequence. -/
def run? (s : Service) (actions : List ServiceAction) : Option Service :=
  actions.foldlM act s

/-- The stores of both sides, before any process has started. -/
def quiet (orders : OrdersStore) (db : BalanceStore) : Service :=
  ⟨.quiet orders db, [], []⟩

end Service

/-- The payments side enqueues only credits that the ledger's parser accepts. -/
def ServiceAction.Deliverable : ServiceAction → Prop
  | .payments action => action.Deliverable
  | _ => True

instance (action : ServiceAction) : Decidable action.Deliverable := by
  cases action <;> unfold ServiceAction.Deliverable <;> infer_instance

/-- Both sides over any network, from the stores that earlier processes left. -/
def service : System Service ServiceAction where
  initial s :=
    ∃ orders db, s = .quiet orders db ∧ db.Legacy ∧ (Crossing.quiet orders db).Inherited
  step s action s' := s.act action = some s' ∧ action.Deliverable

-----------------------------------------------------------------------------------------
-- What each side sees
-----------------------------------------------------------------------------------------

/-- An accepted credit request asks for a keyed credit. -/
theorem creditCall_ok {req : Request} {nowMs : ℤ} {op : LedgerOp}
    (asked : creditCall req nowMs = .ok op)
    : ∃ hash micros orderId, op = .creditOnce hash micros orderId nowMs := by
  unfold creditCall at asked
  split at asked
  · cases asked
  · split at asked
    · cases asked
    · split at asked
      · cases asked
      · split at asked
        · cases asked
        · cases asked
          exact ⟨_, _, _, rfl⟩

/-- A credit request is at most one credit of the ledger. -/
theorem creditHistory_cases (history : History) (nowMs : ℤ) (req : Request)
    : creditHistory history nowMs req = history
      ∨ ∃ hash micros orderId,
          creditHistory history nowMs req
          = history.call (.creditOnce hash micros orderId nowMs) := by
  unfold creditHistory
  cases asked : creditCall req nowMs with
  | error response => exact Or.inl rfl
  | ok op =>
      obtain ⟨hash, micros, orderId, rfl⟩ := creditCall_ok asked
      exact Or.inr ⟨hash, micros, orderId, rfl⟩

namespace Service

variable {s s' : Service} {action : ServiceAction}

/-- What the proxies see of an action: one of their own, or a credit. -/
theorem act_metering (acted : s.act action = some s')
    : s'.metering = s.metering ∨ ∃ seen, s.metering.act seen = some s'.metering := by
  unfold act at acted
  split at acted
  · cases acted
  · cases action with
    | metering action =>
        obtain ⟨n, taken, rfl⟩ := Option.map_eq_some_iff.mp acted
        exact Or.inr ⟨action, taken⟩
    | payments action =>
        obtain ⟨c, taken, rfl⟩ := Option.map_eq_some_iff.mp acted
        cases Crossing.act_effect taken with
        | @delivered copy row nowMs found =>
            rcases creditHistory_cases s.crossing.ledger nowMs (creditRequest row) with
              same | ⟨hash, micros, orderId, called⟩
            · left
              simp only [metering, same]
            · right
              refine ⟨.credit hash micros orderId nowMs, ?_⟩
              simp only [metering, called]
              rfl
        | worked op other => simp [ServiceAction.outside] at *
        | _ => exact Or.inl rfl

end Service

/-- What both sides and the ledger keep. -/
structure ServiceInvariant (start s : Service) : Prop where
  crossing : CrossingInvariant start.crossing s.crossing
  metering : NetworkInvariant start.ledger.db s.metering

end Nullsink
