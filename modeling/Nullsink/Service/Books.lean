import Mathlib.Algebra.BigOperators.Group.Finset.Piecewise
import Nullsink.Metering.ExactlyOnce
import Nullsink.Service.Composition

/-! The books of the service balance: what the sales book says was sold is what the ledger owes,
holds and has charged, and what still waits in the outbox.
-/

namespace Nullsink

open Relational Transition Ecma Ledger Metering Payments

-----------------------------------------------------------------------------------------
-- The accounts
-----------------------------------------------------------------------------------------

/-- The credit that sales issued: `creditMicros` of `summarizeRevenue`. -/
def Payments.creditIssued (rows : List RevenueRow) : ℤ :=
  (rows.map RevenueRow.usdMicros).sum

/-- What the open holds reserve. -/
def Ledger.BalanceStore.heldTotal (db : BalanceStore) : ℤ :=
  db.holds.total HoldRow.micros

/-- What an event charged, to whichever token. -/
def Ledger.LedgerEvent.charged : LedgerEvent → ℤ
  | .settled _ charge => charge
  | _ => 0

/-- The token that an event charged. -/
def Ledger.LedgerEvent.chargedHash? : LedgerEvent → Option String
  | .settled hold _ => some hold.hash
  | _ => none

/-- The charges of a log. -/
def Ledger.History.chargedTotal (history : History) : ℤ :=
  (history.log.map LedgerEvent.charged).sum

/-- What the outbox holds that the ledger has not applied. -/
def Payments.Crossing.undeliveredTotal (c : Crossing) : ℤ :=
  c.payments.orders.creditOutbox.total
    (fun row => if c.marked row.idempotencyKey then 0 else row.micros)

/-- What the outbox started with and what was enqueued since. -/
def Payments.Crossing.pledgedTotal (c start : Crossing) : ℤ :=
  ((c.pledges start).map CreditOutboxRow.micros).sum

/-- The part of it that the ledger had applied before the start. -/
def Payments.Crossing.settledBeforeTotal (c start : Crossing) : ℤ :=
  ((c.pledges start).map
    (fun origin => if start.marked origin.idempotencyKey then origin.micros else 0)).sum

/-- A plain credit is logged by a plain credit only. -/
theorem credited_of_call {history : History} {op : LedgerOp} {hash : String} {micros : ℤ}
    (logged : .credited hash micros ∈ (history.call op).log)
    : .credited hash micros ∈ history.log ∨ ∃ amount, op = .credit hash amount := by
  unfold History.call at logged
  split at logged
  · rename_i result db taken
    rcases List.mem_append.mp logged with earlier | now
    · exact Or.inl earlier
    · right
      unfold LedgerOp.events at now
      split at now <;> simp at now
      obtain ⟨rfl, _⟩ := now
      exact ⟨_, rfl⟩
  · exact Or.inl logged

/-- Every credit of the service is a keyed one. -/
def Keyed (s : Service) : Prop :=
  ∀ hash micros, .credited hash micros ∉ s.ledger.log

/-- No action of the service makes a plain credit. -/
theorem Keyed.act {s s' : Service} {action : ServiceAction} (keyed : Keyed s)
    (acted : s.act action = some s')
    : Keyed s' := by
  have called {history : History} {op : LedgerOp}
      (before : ∀ hash micros, .credited hash micros ∉ history.log)
      (other : ∀ hash amount, op ≠ .credit hash amount) (hash : String) (micros : ℤ)
      : .credited hash micros ∉ (history.call op).log := by
    intro logged
    rcases credited_of_call logged with earlier | ⟨amount, same⟩
    · exact before hash micros earlier
    · exact other hash amount same
  have ledger : s'.ledger = s'.metering.history := rfl
  rcases Service.act_metering acted with same | ⟨seen, taken⟩
  · unfold Keyed
    rw [ledger, same]
    exact keyed
  · unfold Keyed
    rw [ledger]
    generalize s'.metering = n at taken
    cases Network.act_effect taken with
    | @delivered id attempt call nowMs hookThrows found sent =>
        rcases handle_request s.metering.history call.op call.sessionId call.bytes nowMs with
          ⟨_, handled⟩ | ⟨_, handled⟩
        · simp only [Call.request, handled]
          refine called keyed ?_
          intro hash amount
          cases call.op <;> simp [ClientOp.storeOp]
        · simp only [Call.request, handled]
          exact keyed
    | credited hash micros orderId nowMs => exact called keyed (by simp)
    | _ => exact keyed

/-- What keyed credits gave a hash. -/
theorem Keyed.creditedTo {s : Service} (keyed : Keyed s) (hash : String)
    : s.ledger.creditedTo hash = s.crossing.credited hash := by
  have along {log : List LedgerEvent} (plain : ∀ hash micros, .credited hash micros ∉ log)
      : (log.map (LedgerEvent.credit hash)).sum
        = ((log.filterMap appliedCredit?).map (KeyedCredit.amount hash)).sum := by
    induction log with
    | nil => rfl
    | cons event rest ih =>
        have later := ih fun hash micros member => plain hash micros (List.mem_cons_of_mem _ member)
        cases event with
        | credited payee micros => exact (plain payee micros List.mem_cons_self).elim
        | creditedOnce orderId payee micros =>
            simp [LedgerEvent.credit, appliedCredit?, KeyedCredit.amount, later]
        | _ =>
            rw [List.filterMap_cons_none rfl]
            simpa [LedgerEvent.credit] using later
  exact along keyed

-----------------------------------------------------------------------------------------
-- Sums over all tokens
-----------------------------------------------------------------------------------------

section Totals

variable {keys : Finset String}

/-- The balances of all tokens are the liability. -/
theorem sum_tokenBalance {tokens : Table TokenRow.hash}
    (named : ∀ row ∈ tokens.rows, row.hash ∈ keys)
    : ∑ hash ∈ keys, tokenBalance tokens hash = tokens.total TokenRow.balance := by
  have rows (hash : String)
      : tokenBalance tokens hash
        = (tokens.rows.map (fun row => if row.hash = hash then row.balance else 0)).sum :=
    (tokens.total_at hash TokenRow.balance).symm
  simp only [rows]
  exact sum_by_key fun row member => by simp [named row member]

/-- What a store owes all tokens. -/
theorem sum_funds {db : BalanceStore} (tokens : ∀ row ∈ db.tokens.rows, row.hash ∈ keys)
    (holds : ∀ hold ∈ db.holds.rows, hold.hash ∈ keys)
    : ∑ hash ∈ keys, db.funds hash = db.liabilityTotal.2 + db.heldTotal := by
  have reserved : ∑ hash ∈ keys, db.reservedFor hash = db.heldTotal :=
    sum_by_key fun hold member => by simp [HoldRow.reserved, holds hold member]
  simp only [BalanceStore.funds, Finset.sum_add_distrib, sum_tokenBalance tokens, reserved]
  rfl

/-- What a log charged all tokens. -/
theorem sum_chargedTo {history : History}
    (named : ∀ hold charge, .settled hold charge ∈ history.log → hold.hash ∈ keys)
    : ∑ hash ∈ keys, history.chargedTo hash = history.chargedTotal := by
  refine sum_by_key ?_
  intro event member
  cases event with
  | settled hold charge =>
      simp [LedgerEvent.charge, LedgerEvent.charged, named hold charge member]
  | _ => simp [LedgerEvent.charge, LedgerEvent.charged]

/-- What an outbox row gives all tokens. -/
theorem sum_amount {row : CreditOutboxRow} (named : row.hash ∈ keys)
    : ∑ hash ∈ keys, row.payload.amount hash = row.micros := by
  change ∑ hash ∈ keys, (if row.hash = hash then row.micros else 0) = row.micros
  simp [named]

/-- What waits for all tokens. -/
theorem sum_undelivered {c : Crossing}
    (named : ∀ row ∈ c.payments.orders.creditOutbox.rows, row.hash ∈ keys)
    : ∑ hash ∈ keys, c.undelivered hash = c.undeliveredTotal := by
  refine sum_by_key ?_
  intro row member
  cases c.marked row.idempotencyKey with
  | true => simp
  | false => simpa using sum_amount (named row member)

/-- What was pledged to all tokens. -/
theorem sum_pledged {start c : Crossing} (named : ∀ row ∈ c.pledges start, row.hash ∈ keys)
    : ∑ hash ∈ keys, c.pledged start hash = c.pledgedTotal start :=
  sum_by_key fun row member => sum_amount (named row member)

/-- What all tokens had got before the start. -/
theorem sum_settledBefore {start c : Crossing} (named : ∀ row ∈ c.pledges start, row.hash ∈ keys)
    : ∑ hash ∈ keys, c.settledBefore start hash = c.settledBeforeTotal start := by
  refine sum_by_key ?_
  intro row member
  cases start.marked row.idempotencyKey with
  | true => simpa using sum_amount (named row member)
  | false => simp

end Totals

-----------------------------------------------------------------------------------------
-- The books balance
-----------------------------------------------------------------------------------------

/-- The accounts of each token. -/
theorem ServiceInvariant.token {start s : Service} (inv : ServiceInvariant start s)
    (keyed : Keyed s) (hash : String)
    : s.ledger.db.funds hash + s.ledger.chargedTo hash + s.crossing.undelivered hash
        + s.crossing.settledBefore start.crossing hash
      = start.ledger.db.funds hash + s.crossing.pledged start.crossing hash := by
  have kept := inv.metering.store.conserved hash
  have crossed := inv.crossing.conserved hash
  have credited := keyed.creditedTo hash
  simp only [Service.metering, Service.ledger] at kept crossed credited ⊢
  omega

/-- Every pledge is of a non-negative amount. -/
theorem pledge_nonneg {start c : Crossing} (inv : CrossingInvariant start c)
    {origin : CreditOutboxRow} (pledged : origin ∈ c.pledges start) (hash : String)
    : 0 ≤ origin.payload.amount hash := by
  have nonneg : 0 ≤ origin.micros := by
    rcases inv.payable origin pledged with valid | ⟨tombstone, _⟩
    · obtain ⟨micros, amount, _⟩ := creditCall_request valid 0
      omega
    · rw [tombstone.2.2]
  unfold KeyedCredit.amount
  split
  · exact nonneg
  · exact le_rfl

/-- What any part of the pledges gives a token is not negative. -/
theorem sum_pledges_nonneg {start c : Crossing} (inv : CrossingInvariant start c) (hash : String)
    {part : CreditOutboxRow → ℤ}
    (counts : ∀ origin, part origin = 0 ∨ part origin = origin.payload.amount hash)
    : 0 ≤ ((c.pledges start).map part).sum := by
  refine List.sum_nonneg ?_
  intro amount member
  obtain ⟨origin, pledged, rfl⟩ := List.mem_map.mp member
  rcases counts origin with none | whole
  · exact none.ge
  · rw [whole]
    exact pledge_nonneg inv pledged hash

/-- No run charges a token more than it was given. -/
theorem ServiceInvariant.covered {start s : Service} (inv : ServiceInvariant start s)
    (keyed : Keyed s) (hash : String)
    : s.ledger.chargedTo hash
      ≤ start.ledger.db.funds hash + s.crossing.pledged start.crossing hash := by
  have balance : 0 ≤ tokenBalance s.ledger.db.tokens hash := inv.metering.store.balances hash
  have reserved : 0 ≤ s.ledger.db.reservedFor hash := by
    refine List.sum_nonneg ?_
    intro amount member
    obtain ⟨hold, stored, rfl⟩ := List.mem_map.mp member
    have nonneg := inv.metering.store.reservations hold stored
    unfold HoldRow.reserved
    split
    · exact nonneg
    · exact le_rfl
  have waiting : 0 ≤ s.crossing.undelivered hash := by
    rw [inv.crossing.undelivered_eq]
    refine sum_pledges_nonneg inv.crossing hash fun origin => ?_
    split
    · exact Or.inl rfl
    · exact Or.inr rfl
  have before : 0 ≤ s.crossing.settledBefore start.crossing hash := by
    refine sum_pledges_nonneg inv.crossing hash fun origin => ?_
    split
    · exact Or.inr rfl
    · exact Or.inl rfl
  have accounts := inv.token keyed hash
  simp only [BalanceStore.funds] at accounts ⊢
  omega

/-- Every hash that one of the books names, then or now. -/
def Service.hashes (start s : Service) : List String :=
  start.ledger.db.tokens.rows.map TokenRow.hash ++ start.ledger.db.holds.rows.map HoldRow.hash
    ++ s.ledger.db.tokens.rows.map TokenRow.hash ++ s.ledger.db.holds.rows.map HoldRow.hash
    ++ s.ledger.log.filterMap LedgerEvent.chargedHash?
    ++ s.crossing.payments.orders.creditOutbox.rows.map CreditOutboxRow.hash
    ++ (s.crossing.pledges start.crossing).map CreditOutboxRow.hash

/-- The accounts of all tokens together. -/
theorem ServiceInvariant.total {start s : Service} (inv : ServiceInvariant start s)
    (keyed : Keyed s)
    : s.ledger.db.liabilityTotal.2 + s.ledger.db.heldTotal + s.ledger.chargedTotal
        + s.crossing.undeliveredTotal + s.crossing.settledBeforeTotal start.crossing
      = start.ledger.db.liabilityTotal.2 + start.ledger.db.heldTotal
        + s.crossing.pledgedTotal start.crossing := by
  have named {hash : String} (member : hash ∈ start.hashes s) : hash ∈ (start.hashes s).toFinset :=
    List.mem_toFinset.mpr member
  generalize (start.hashes s).toFinset = keys at named
  have pledges : ∀ row ∈ s.crossing.pledges start.crossing, row.hash ∈ keys := by
    intro row member
    exact named (by simp [Service.hashes, List.mem_map_of_mem member])
  have before
      : ∑ hash ∈ keys, start.ledger.db.funds hash
        = start.ledger.db.liabilityTotal.2 + start.ledger.db.heldTotal :=
    sum_funds (fun row member => named (by simp [Service.hashes, List.mem_map_of_mem member]))
      (fun hold member => named (by simp [Service.hashes, List.mem_map_of_mem member]))
  have now
      : ∑ hash ∈ keys, s.ledger.db.funds hash
        = s.ledger.db.liabilityTotal.2 + s.ledger.db.heldTotal :=
    sum_funds (fun row member => named (by simp [Service.hashes, List.mem_map_of_mem member]))
      (fun hold member => named (by simp [Service.hashes, List.mem_map_of_mem member]))
  have charged : ∑ hash ∈ keys, s.ledger.chargedTo hash = s.ledger.chargedTotal := by
    refine sum_chargedTo fun hold charge logged => named ?_
    simp only [Service.hashes, List.mem_append, List.mem_filterMap]
    exact Or.inl (Or.inl (Or.inr ⟨_, logged, rfl⟩))
  have waiting : ∑ hash ∈ keys, s.crossing.undelivered hash = s.crossing.undeliveredTotal :=
    sum_undelivered fun row member =>
      named (by simp [Service.hashes, List.mem_map_of_mem member])
  rw [← now, ← before, ← charged, ← waiting, ← sum_settledBefore pledges, ← sum_pledged pledges]
  simp only [← Finset.sum_add_distrib]
  exact Finset.sum_congr rfl fun hash _ => inv.token keyed hash

/-- What the sales book says was issued is what was enqueued. -/
theorem ServiceInvariant.issued {start s : Service} (inv : ServiceInvariant start s)
    : s.crossing.pledgedTotal start.crossing + creditIssued start.crossing.payments.orders.revenue
      = start.crossing.payments.orders.creditOutbox.total CreditOutboxRow.micros
        + creditIssued s.crossing.payments.orders.revenue := by
  have booked := inv.crossing.outbox.booked
  have sales (settlements : List Settlement)
      : creditIssued (settlements.map Settlement.sale)
        = ((settlements.map Settlement.credit).map CreditOutboxRow.micros).sum := by
    simp [creditIssued, Settlement.sale, Settlement.credit, Function.comp_def]
  have appended (earlier later : List RevenueRow)
      : creditIssued (earlier ++ later) = creditIssued earlier + creditIssued later := by
    simp [creditIssued]
  rw [booked, appended, sales, Crossing.pledgedTotal, Crossing.pledges, List.map_append,
    List.sum_append, Table.total]
  omega

end Nullsink
