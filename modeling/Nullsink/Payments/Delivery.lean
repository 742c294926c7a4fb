import Nullsink.Ledger.HoldHistory
import Nullsink.Payments.Crossing

/-! What the payments side has pledged and what the ledger has credited, and what the drain does
whatever is enqueued: it acknowledges only what is marked, and no key is credited twice.
-/

namespace Nullsink.Payments

open Relational Transition Ecma Ledger

-----------------------------------------------------------------------------------------
-- What was promised and what was credited
-----------------------------------------------------------------------------------------

/-- A credit under its idempotency key. -/
structure KeyedCredit where
  key : String
  hash : String
  micros : ℤ
  deriving DecidableEq

/-- The payload of an outbox row. -/
def CreditOutboxRow.payload (row : CreditOutboxRow) : KeyedCredit :=
  ⟨row.idempotencyKey, row.hash, row.micros⟩

/-- The credit of a `creditOnce` that was applied. -/
def appliedCredit? : LedgerEvent → Option KeyedCredit
  | .creditedOnce orderId hash micros => some ⟨orderId, hash, micros⟩
  | _ => none

/-- What a credit gives a hash. -/
def KeyedCredit.amount (hash : String) (credit : KeyedCredit) : ℤ :=
  if credit.hash = hash then credit.micros else 0

namespace Crossing

/-- The credits the ledger has applied, oldest first. -/
def credits (c : Crossing) : List KeyedCredit :=
  c.ledger.log.filterMap appliedCredit?

/-- The rows the outbox started with and the first enqueue of every later key. -/
def pledges (c start : Crossing) : List CreditOutboxRow :=
  start.payments.orders.creditOutbox.rows ++ c.payments.enqueued.map Settlement.credit

/-- Whether the ledger holds the marker of a key. -/
def marked (c : Crossing) (key : String) : Bool :=
  (c.ledger.db.appliedOrders.get? key).isSome

def credited (c : Crossing) (hash : String) : ℤ :=
  (c.credits.map (KeyedCredit.amount hash)).sum

/-- What calls other than keyed credits moved into the balance of a hash, or out of it. -/
def moved (c : Crossing) (hash : String) : ℤ :=
  ((c.ledger.log.filter (fun event => (appliedCredit? event).isNone)).map
    (LedgerEvent.movement hash)).sum

/-- What the pledges give a hash. -/
def pledged (c start : Crossing) (hash : String) : ℤ :=
  ((c.pledges start).map (fun origin => origin.payload.amount hash)).sum

/-- What the pledges give a hash that the ledger had applied before the start. -/
def settledBefore (c start : Crossing) (hash : String) : ℤ :=
  ((c.pledges start).map
    (fun origin =>
      if start.marked origin.idempotencyKey then origin.payload.amount hash else 0)).sum

/-- What rows of the outbox give a hash that the ledger has not applied. -/
def undelivered (c : Crossing) (hash : String) : ℤ :=
  c.payments.orders.creditOutbox.total
    (fun row => if c.marked row.idempotencyKey then 0 else row.payload.amount hash)

/-- The ledger's movements are the keyed credits and the others, by induction on the log. -/
theorem ledger_moved (c : Crossing) (hash : String)
    : c.ledger.moved hash = c.credited hash + c.moved hash := by
  unfold History.moved credited credits moved
  induction c.ledger.log with
  | nil => rfl
  | cons event rest ih =>
      cases event with
      | creditedOnce orderId payee micros =>
          simp only [List.map_cons, List.sum_cons, List.filterMap_cons, List.filter_cons, ih,
            appliedCredit?, LedgerEvent.movement, KeyedCredit.amount, Option.isNone_some,
            Bool.false_eq_true, if_false, add_assoc]
      | _ =>
          simp only [List.map_cons, List.sum_cons, List.filterMap_cons, List.filter_cons, ih,
            appliedCredit?, Option.isNone_none, if_true]
          ring

end Crossing

/-- A row that kept nothing but its key. -/
def CreditOutboxRow.Tombstone (row : CreditOutboxRow) : Prop :=
  row.ackedAt ≠ none ∧ row.hash = "" ∧ row.micros = 0

instance (row : CreditOutboxRow) : Decidable row.Tombstone := by
  unfold CreditOutboxRow.Tombstone
  infer_instance

-----------------------------------------------------------------------------------------
-- Calls of the ledger
-----------------------------------------------------------------------------------------

/-- A credit whose marker is there changes nothing; another is applied and marked. -/
theorem call_creditOnce (history : History) (hash : String) (micros : ℕ) (orderId : String)
    (atMs : ℤ)
    : ((history.db.appliedOrders.get? orderId).isSome
        ∧ history.call (.creditOnce hash micros orderId atMs) = history)
      ∨ ∃ fresh : history.db.appliedOrders.get? orderId = none,
          (history.call (.creditOnce hash micros orderId atMs)).log
            = history.log ++ [.creditedOnce orderId hash micros]
          ∧ (history.call (.creditOnce hash micros orderId atMs)).db.appliedOrders
            = history.db.appliedOrders.append ⟨orderId, atMs⟩ fresh := by
  cases taken : history.db.creditOnce hash micros orderId atMs with
  | mk applied db =>
      simp only [History.call, BalanceStore.apply, taken]
      cases creditOnce_step taken with
      | already found => exact Or.inl ⟨by simp [found], by simp [LedgerOp.events]⟩
      | applied fresh => exact Or.inr ⟨fresh, by simp [LedgerOp.events], rfl⟩

/-- No other call applies a keyed credit. -/
theorem call_other (history : History) {op : LedgerOp} (other : creditsOnce op = false)
    : (history.call op).log.filterMap appliedCredit? = history.log.filterMap appliedCredit?
      ∧ (history.call op).db.appliedOrders = history.db.appliedOrders := by
  have unkeyed (result : LedgerResult)
      : (op.events history.db result).filterMap appliedCredit? = [] := by
    rw [List.filterMap_eq_nil_iff]
    intro event logged
    unfold LedgerOp.events at logged
    split at logged <;> simp [creditsOnce] at other logged
    · rw [logged]
      rfl
    · rw [logged]
      rfl
    · obtain ⟨amount, _, rfl⟩ := logged
      rfl
    · obtain ⟨hold, _, charge, _, rfl⟩ := logged
      rfl
  cases taken : history.db.apply op with
  | error thrown => simp [History.call, taken]
  | ok committed =>
      obtain ⟨result, db⟩ := committed
      simp only [History.call, taken, List.filterMap_append, unkeyed, List.append_nil, true_and]
      have silent := unkeyed result
      have change := (apply_change taken).1
      generalize op.events history.db result = events at silent change
      cases change with
      | creditedOnce hash micros orderId atMs fresh => simp [appliedCredit?] at silent
      | _ => rfl

-----------------------------------------------------------------------------------------
-- The drain
-----------------------------------------------------------------------------------------

/-- A drain holds rows that still wait in the outbox, each once, and awaits its first one. -/
def Crossing.Draining (c : Crossing) : Prop :=
  ∀ now remaining awaiting, c.drain = some ⟨now, remaining, awaiting⟩
    → (remaining.map CreditOutboxRow.idempotencyKey).Nodup
      ∧ (∀ row ∈ remaining, row ∈ c.payments.orders.creditOutbox.rows ∧ row.ackedAt = none)
      ∧ ∀ copy, awaiting = some copy
          → ∃ row, remaining.head? = some row ∧ c.sent[copy]? = some row

/-- A row that waits survives a write that does not acknowledge its key. -/
theorem OrderHistory.waits {h : OrderHistory} {write : OrdersWrite} {row : CreditOutboxRow}
    (stored : row ∈ h.orders.creditOutbox.rows) (waiting : row.ackedAt = none)
    (other : ∀ key atMs, write = .ackCredit key atMs → row.idempotencyKey ≠ key)
    : row ∈ (h.write write).orders.creditOutbox.rows := by
  simp only [OrderHistory.write]
  rw [h.orders.write_outbox write]
  refine List.mem_append_left _ (List.mem_map.mpr ⟨row, stored, ?_⟩)
  cases write with
  | ackCredit key atMs => simp [OrdersWrite.creditAfter, OrdersStore.scrubbed, other key atMs rfl]
  | rearmLegacyAckedCredits => simp [OrdersWrite.creditAfter, OrdersStore.rearmed, waiting]
  | _ => rfl

-----------------------------------------------------------------------------------------
-- The invariant
-----------------------------------------------------------------------------------------

/-- What holds of the crossing whatever is enqueued: a definite answer is about a copy whose key is
marked, and the markers are those of the start and of the credits, each under its own key.
-/
structure DeliveryInvariant (start c : Crossing) : Prop where
  draining : c.Draining
  answered
    : ∀ copy response, (copy, response) ∈ c.answers
        → (∀ reason, deliveryResult response ≠ .ambiguous reason)
        → ∃ row, c.sent[copy]? = some row ∧ c.marked row.idempotencyKey = true
  creditedOnce : (c.credits.map KeyedCredit.key).Nodup
  creditedNew : ∀ credit ∈ c.credits, start.marked credit.key = false
  marks
    : ∀ key, c.marked key = true
        ↔ start.marked key = true ∨ key ∈ c.credits.map KeyedCredit.key

/-- The receiver refuses a row that its parser rejects. -/
theorem creditCall_undeliverable {row : CreditOutboxRow} (invalid : ¬Deliverable row) (nowMs : ℤ)
    : creditCall (creditRequest row) nowMs = .error (jsonError "invalid_credit" 400) := by
  have rejected : parseCreditRequest (creditBody row) = none := by
    simpa [Deliverable] using invalid
  simp [creditCall, creditRequest, rejected]

namespace DeliveryInvariant

variable {start c : Crossing}

/-- Nothing is on the way in a process that has not started. -/
theorem quiet (orders : OrdersStore) (db : BalanceStore)
    : DeliveryInvariant (.quiet orders db) (.quiet orders db) where
  draining := by simp [Crossing.Draining, Crossing.quiet]
  answered := by simp [Crossing.quiet]
  creditedOnce := by simp [Crossing.credits, Crossing.quiet]
  creditedNew := by simp [Crossing.credits, Crossing.quiet]
  marks := by simp [Crossing.credits, Crossing.quiet]

/-- A write that acknowledges nothing leaves the drain its rows. -/
theorem draining_write (inv : DeliveryInvariant start c) {write : OrdersWrite}
    (settles : ∀ key atMs, write ≠ .ackCredit key atMs) (up : Bool)
    : Crossing.Draining { c with payments := c.payments.write write, up } := by
  intro now remaining awaiting draining
  obtain ⟨distinct, waiting, awaited⟩ := inv.draining now remaining awaiting draining
  refine ⟨distinct, ?_, awaited⟩
  intro row member
  obtain ⟨stored, unacked⟩ := waiting row member
  exact ⟨OrderHistory.waits stored unacked fun key atMs same => (settles key atMs same).elim,
    unacked⟩

/-- A call that applies no keyed credit. -/
theorem worked (inv : DeliveryInvariant start c) {ledger : History}
    (credits : ledger.log.filterMap appliedCredit? = c.ledger.log.filterMap appliedCredit?)
    (marks : ledger.db.appliedOrders = c.ledger.db.appliedOrders)
    : DeliveryInvariant start { c with ledger } := by
  have sameCredits : Crossing.credits { c with ledger } = c.credits := credits
  have sameMarks (key : String) : Crossing.marked { c with ledger } key = c.marked key := by
    simp [Crossing.marked, marks]
  exact {
    draining := inv.draining
    answered := by simpa only [sameMarks] using inv.answered
    creditedOnce := by simpa only [sameCredits] using inv.creditedOnce
    creditedNew := by simpa only [sameCredits] using inv.creditedNew
    marks := by simpa only [sameCredits, sameMarks] using inv.marks
  }

/-- A credit under a key that has no marker yet. -/
theorem credited (inv : DeliveryInvariant start c) (credit : KeyedCredit) {ledger : History}
    (fresh : c.marked credit.key = false)
    (credits : Crossing.credits { c with ledger } = c.credits ++ [credit])
    (marks
      : ∀ key, Crossing.marked { c with ledger } key = (key = credit.key || c.marked key))
    : DeliveryInvariant start { c with ledger } := by
  have new : start.marked credit.key = false ∧ credit.key ∉ c.credits.map KeyedCredit.key := by
    have neither := mt (inv.marks credit.key).mpr (by simp [fresh])
    simpa using neither
  exact {
    draining := inv.draining
    answered := by
      intro copy response given definite
      obtain ⟨row, found, marked⟩ := inv.answered copy response given definite
      exact ⟨row, found, by simp [marks, marked]⟩
    creditedOnce := by
      rw [credits, List.map_append, List.map_singleton, ← List.concat_eq_append]
      exact inv.creditedOnce.concat new.2
    creditedNew := by
      intro other member
      rw [credits] at member
      rcases List.mem_append.mp member with earlier | now
      · exact inv.creditedNew other earlier
      · cases List.mem_singleton.mp now
        exact new.1
    marks := by
      intro key
      rw [marks, credits, List.map_append, List.mem_append]
      simp only [Bool.or_eq_true, decide_eq_true_eq, inv.marks key, List.map_cons, List.map_nil,
        List.mem_singleton]
      tauto
  }

/-- One more answer, about a copy that is marked if the answer is definite. -/
theorem answer (inv : DeliveryInvariant start c) {copy : ℕ} {row : CreditOutboxRow}
    (found : c.sent[copy]? = some row) {response : Response}
    (marked
      : (∀ reason, deliveryResult response ≠ .ambiguous reason)
          → c.marked row.idempotencyKey = true)
    : DeliveryInvariant start { c with answers := c.answers ++ [(copy, response)] } where
  draining := inv.draining
  answered := by
    intro other response' given definite
    rcases List.mem_append.mp given with earlier | now
    · exact inv.answered other response' earlier definite
    · cases List.mem_singleton.mp now
      exact ⟨row, found, marked definite⟩
  creditedOnce := inv.creditedOnce
  creditedNew := inv.creditedNew
  marks := inv.marks

/-- The receiver marks the key of a copy that it accepts, and refuses any other copy. -/
theorem delivered (inv : DeliveryInvariant start c) {copy : ℕ} {row : CreditOutboxRow}
    (found : c.sent[copy]? = some row) (nowMs : ℤ)
    : DeliveryInvariant start
        {
          c with
          ledger := creditHistory c.ledger nowMs (creditRequest row)
          answers := c.answers
            ++ [(copy, (createCreditHandler c.ledger.db nowMs (creditRequest row)).1)]
        } := by
  by_cases valid : Deliverable row
  · obtain ⟨micros, amount, asked⟩ := creditCall_request valid nowMs
    have history : creditHistory c.ledger nowMs (creditRequest row)
        = c.ledger.call (.creditOnce row.hash micros row.idempotencyKey nowMs) := by
      simp [creditHistory, asked]
    rw [history]
    rcases call_creditOnce c.ledger row.hash micros row.idempotencyKey nowMs
      with ⟨marked, same⟩ | ⟨fresh, log, applied⟩
    · rw [same]
      exact inv.answer found fun _ => marked
    · have after
          : DeliveryInvariant start
              {
                c with
                ledger := c.ledger.call (.creditOnce row.hash micros row.idempotencyKey nowMs)
              } := by
        refine inv.credited ⟨row.idempotencyKey, row.hash, micros⟩ ?_ ?_ ?_
        · simp [Crossing.marked, fresh]
        · simp [Crossing.credits, log, appliedCredit?]
        · intro key
          simp only [Crossing.marked, applied, Table.get?_append]
          by_cases same : row.idempotencyKey = key
          · simp [same]
          · simp [same, Ne.symm same]
      exact after.answer found fun _ => by simp [Crossing.marked, applied]
  · have refused := creditCall_undeliverable valid nowMs
    have history : creditHistory c.ledger nowMs (creditRequest row) = c.ledger := by
      simp [creditHistory, refused]
    rw [history]
    refine inv.answer found fun definite => (definite "http_400" ?_).elim
    simp [createCreditHandler, refused, deliveryResult, jsonError, Response.ok]
    rfl

/-- Every possible action keeps the invariant. -/
theorem act (inv : DeliveryInvariant start c) {action : CrossingAction} {c' : Crossing}
    (acted : c.act action = some c')
    : DeliveryInvariant start c' := by
  cases Crossing.act_effect acted with
  | written write settles =>
      refine { inv with draining := inv.draining_write ?_ c.up }
      rintro key atMs rfl
      cases settles
  | listed now =>
      refine { inv with draining := ?_ }
      intro now' remaining awaiting draining
      cases draining
      refine ⟨?_, fun row member => OrdersStore.mem_listUnackedCredits.mp member, by simp⟩
      have sorted := List.perm_insertionSort
        (fun first second : CreditOutboxRow => first.createdAt ≤ second.createdAt)
        (c.payments.orders.creditOutbox.rows.filter (fun row => row.ackedAt = none))
      exact (sorted.map CreditOutboxRow.idempotencyKey).nodup_iff.mpr
        ((List.filter_sublist.map _).nodup c.payments.orders.creditOutbox.nodup)
  | @posted now row rest draining =>
      obtain ⟨distinct, waiting, _⟩ := inv.draining _ _ _ draining
      refine { inv with draining := ?_, answered := ?_ }
      · intro now' remaining awaiting same
        cases same
        refine ⟨distinct, waiting, ?_⟩
        intro copy own
        cases own
        exact ⟨row, rfl, by simp⟩
      · intro copy response given definite
        obtain ⟨answered, found, marked⟩ := inv.answered copy response given definite
        refine ⟨answered, ?_, marked⟩
        rw [List.getElem?_append_left (List.getElem?_eq_some_iff.mp found).1]
        exact found
  | delivered nowMs found => exact inv.delivered found nowMs
  | @acknowledged answer copy response now row rest given draining definite =>
      obtain ⟨distinct, waiting, _⟩ := inv.draining _ _ _ draining
      refine { inv with draining := ?_ }
      intro now' remaining awaiting same
      cases same
      rw [List.map_cons, List.nodup_cons] at distinct
      refine ⟨distinct.2, ?_, by simp⟩
      intro other member
      obtain ⟨stored, unacked⟩ := waiting other (List.mem_cons_of_mem _ member)
      refine ⟨OrderHistory.waits stored unacked ?_, unacked⟩
      intro key atMs same
      cases same
      intro equal
      exact distinct.1 (equal ▸ List.mem_map_of_mem member)
  | stopped up =>
      refine { inv with draining := ?_ }
      intro now remaining awaiting same
      cases same
  | restarted =>
      exact { inv with draining := inv.draining_write (by simp) true }
  | worked op other =>
      obtain ⟨credits, marks⟩ := call_other c.ledger other
      exact inv.worked credits marks

/-- The row that a definite answer acknowledges is marked. -/
theorem acknowledged_marked (inv : DeliveryInvariant start c) {copy : ℕ} {response : Response}
    {now : ℤ} {row : CreditOutboxRow} {rest : List CreditOutboxRow}
    (given : (copy, response) ∈ c.answers)
    (draining : c.drain = some ⟨now, row :: rest, some copy⟩)
    (definite : ∀ reason, deliveryResult response ≠ .ambiguous reason)
    : c.marked row.idempotencyKey = true := by
  obtain ⟨_, _, awaited⟩ := inv.draining _ _ _ draining
  obtain ⟨head, first, posted⟩ := awaited copy rfl
  obtain ⟨answered, found, marked⟩ := inv.answered copy response given definite
  cases first
  cases Option.some.inj (posted.symm.trans found)
  exact marked

end DeliveryInvariant

end Nullsink.Payments
