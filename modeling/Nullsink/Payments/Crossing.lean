import Nullsink.Payments.CreditWire
import Nullsink.Payments.Outbox

/-! The credit crossing as a system: the payments store and its single-flight drain, the copies on
the wire, and the ledger.

A payments process that dies loses its drain and nothing else; a ledger that dies loses answers,
which need never be received. A copy that was posted may reach the ledger at any time and any
number of times, also after the process that posted it has died.
-/

namespace Nullsink.Payments

open Relational Transition Ecma Ledger

/-- A drain under way: the rows it listed and has not delivered, and the copy it awaits. -/
structure Drain where
  now : ℤ
  remaining : List CreditOutboxRow
  awaiting : Option ℕ

structure Crossing where
  payments : OrderHistory
  up : Bool
  drain : Option Drain
  sent : List CreditOutboxRow
  answers : List (ℕ × Response)
  ledger : History

inductive CrossingAction where
  | write (write : OrdersWrite)
  | startDrain (now : ℤ)
  | send
  | deliver (copy : ℕ) (nowMs : ℤ)
  | receive (answer : ℕ)
  | fail
  | finish
  | crash
  | restart
  | ledger (op : LedgerOp)

/-- The writes of startup and of the drain itself. -/
def OrdersWrite.delivers : OrdersWrite → Bool
  | .ackCredit _ _ => true
  | .rearmLegacyAckedCredits => true
  | _ => false

/-- The call that only the credit socket makes. -/
def creditsOnce : LedgerOp → Bool
  | .creditOnce _ _ _ _ => true
  | _ => false

namespace Crossing

/-- The drain acknowledges on a definite result and goes on; it stops at any other. -/
def conclude (c : Crossing) (now : ℤ) (row : CreditOutboxRow) (rest : List CreditOutboxRow)
    : DeliveryResult → Crossing
  | .ambiguous _ => { c with drain := none }
  | _ =>
      {
        c with
        payments := c.payments.write (.ackCredit row.idempotencyKey now)
        drain := some ⟨now, rest, none⟩
      }

/-- One action, `none` where it is not possible. -/
def act (c : Crossing) : CrossingAction → Option Crossing
  | .write write =>
      if c.up ∧ ¬write.delivers then some { c with payments := c.payments.write write } else none
  | .startDrain now =>
      match c.up, c.drain with
      | true, none =>
          some { c with drain := some ⟨now, c.payments.orders.listUnackedCredits, none⟩ }
      | _, _ => none
  | .send =>
      match c.drain with
      | some ⟨now, row :: rest, none⟩ =>
          some
            { c with sent := c.sent ++ [row], drain := some ⟨now, row :: rest, some c.sent.length⟩ }
      | _ => none
  | .deliver copy nowMs =>
      match c.sent[copy]? with
      | none => none
      | some row =>
          some
            {
              c with
              ledger := creditHistory c.ledger nowMs (creditRequest row)
              answers := c.answers
                ++ [(copy, (createCreditHandler c.ledger.db nowMs (creditRequest row)).1)]
            }
  | .receive answer =>
      match c.answers[answer]?, c.drain with
      | some (copy, response), some ⟨now, row :: rest, some awaited⟩ =>
          if copy = awaited then some (c.conclude now row rest (deliveryResult response)) else none
      | _, _ => none
  | .fail =>
      match c.drain with
      | some ⟨_, _, some _⟩ => some { c with drain := none }
      | _ => none
  | .finish =>
      match c.drain with
      | some ⟨_, [], _⟩ => some { c with drain := none }
      | _ => none
  | .crash => if c.up then some { c with up := false, drain := none } else none
  | .restart =>
      if c.up then none
      else some { c with up := true, payments := c.payments.write .rearmLegacyAckedCredits }
  | .ledger op => if creditsOnce op then none else some { c with ledger := c.ledger.call op }

/-- Actions in sequence. -/
def run? (c : Crossing) (actions : List CrossingAction) : Option Crossing :=
  actions.foldlM act c

/-- A payments process that has not started, with nothing on the wire. -/
def quiet (orders : OrdersStore) (db : BalanceStore) : Crossing :=
  ⟨⟨orders, [], [], []⟩, false, none, [], [], ⟨db, []⟩⟩

/-- The effect of an action, by the part of the crossing it changes. -/
inductive Effect (c : Crossing) : CrossingAction → Crossing → Prop
  | written (write : OrdersWrite) (settles : write.delivers = false)
    : Effect c (.write write) { c with payments := c.payments.write write }
  | listed (now : ℤ)
    : Effect c (.startDrain now)
        { c with drain := some ⟨now, c.payments.orders.listUnackedCredits, none⟩ }
  | posted {now row rest} (draining : c.drain = some ⟨now, row :: rest, none⟩)
    : Effect c .send
        { c with sent := c.sent ++ [row], drain := some ⟨now, row :: rest, some c.sent.length⟩ }
  | delivered {copy row} (nowMs : ℤ) (found : c.sent[copy]? = some row)
    : Effect c (.deliver copy nowMs)
        {
          c with
          ledger := creditHistory c.ledger nowMs (creditRequest row)
          answers := c.answers
            ++ [(copy, (createCreditHandler c.ledger.db nowMs (creditRequest row)).1)]
        }
  | acknowledged {answer copy response now row rest} (given : (copy, response) ∈ c.answers)
    (draining : c.drain = some ⟨now, row :: rest, some copy⟩)
    (definite : ∀ reason, deliveryResult response ≠ .ambiguous reason)
    : Effect c (.receive answer)
        {
          c with
          payments := c.payments.write (.ackCredit row.idempotencyKey now)
          drain := some ⟨now, rest, none⟩
        }
  | stopped {action : CrossingAction} (up : Bool)
    : Effect c action { c with up, drain := none }
  | restarted
    : Effect c .restart
        { c with up := true, payments := c.payments.write .rearmLegacyAckedCredits }
  | worked (op : LedgerOp) (other : creditsOnce op = false)
    : Effect c (.ledger op) { c with ledger := c.ledger.call op }

/-- Every possible action has one of the effects. -/
theorem act_effect {c c' : Crossing} {action : CrossingAction} (acted : c.act action = some c')
    : Effect c action c' := by
  cases action with
  | write write =>
      simp only [act, Option.ite_none_right_eq_some, Option.some.injEq] at acted
      obtain ⟨⟨_, settles⟩, rfl⟩ := acted
      exact .written write (by simpa using settles)
  | startDrain now =>
      simp only [act] at acted
      split at acted
      · cases acted
        exact .listed now
      · cases acted
  | send =>
      simp only [act] at acted
      split at acted
      · rename_i draining
        cases acted
        exact .posted draining
      · cases acted
  | deliver copy nowMs =>
      simp only [act] at acted
      split at acted
      · cases acted
      · rename_i row found
        cases acted
        exact .delivered nowMs found
  | receive answer =>
      simp only [act] at acted
      split at acted
      · rename_i copy response now row rest awaited given draining
        split at acted
        · rename_i own
          subst own
          cases acted
          unfold conclude
          split
          · exact .stopped c.up
          · rename_i definite
            exact .acknowledged (List.mem_of_getElem? given) draining definite
        · cases acted
      · cases acted
  | fail =>
      simp only [act] at acted
      split at acted
      · cases acted
        exact .stopped c.up
      · cases acted
  | finish =>
      simp only [act] at acted
      split at acted
      · cases acted
        exact .stopped c.up
      · cases acted
  | crash =>
      simp only [act, Option.ite_none_right_eq_some, Option.some.injEq] at acted
      obtain ⟨_, rfl⟩ := acted
      exact .stopped false
  | restart =>
      simp only [act, Option.ite_none_left_eq_some, Option.some.injEq] at acted
      obtain ⟨_, rfl⟩ := acted
      exact .restarted
  | ledger op =>
      simp only [act, Option.ite_none_left_eq_some, Option.some.injEq] at acted
      obtain ⟨other, rfl⟩ := acted
      exact .worked op (by simpa using other)

end Crossing

end Nullsink.Payments
