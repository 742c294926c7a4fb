import Nullsink.Payments.OrderHistory

/-! What the outbox and the sales book hold after any writes: every credit ever enqueued, once,
under its payload or as a tombstone, and one sale for each.
-/

namespace Nullsink.Payments

open Relational

/-- What writes can make of a row of the outbox: they acknowledge and scrub it, and re-arm it when
it was acknowledged with its payload.
-/
inductive Carries (origin : CreditOutboxRow) : CreditOutboxRow → Prop
  | kept : Carries origin origin
  | rearmed (acked : origin.ackedAt ≠ none) (payload : origin.hash ≠ "")
    : Carries origin { origin with ackedAt := none }
  | tombstone (atMs : ℤ)
    : Carries origin { origin with ackedAt := some atMs, hash := "", micros := 0 }

theorem Carries.key {origin row : CreditOutboxRow} (carries : Carries origin row)
    : row.idempotencyKey = origin.idempotencyKey := by
  cases carries <;> rfl

theorem Carries.creditAfter {origin row : CreditOutboxRow} (carries : Carries origin row)
    (write : OrdersWrite)
    : Carries origin (write.creditAfter row) := by
  cases write with
  | ackCredit key atMs =>
      simp only [OrdersWrite.creditAfter, OrdersStore.scrubbed]
      split
      · cases carries with
        | kept => exact .tombstone atMs
        | rearmed acked payload => exact .tombstone atMs
        | tombstone earlier => exact .tombstone atMs
      · exact carries
  | rearmLegacyAckedCredits =>
      simp only [OrdersWrite.creditAfter, OrdersStore.rearmed]
      split
      · rename_i armed
        cases carries with
        | kept => exact .rearmed armed.1 armed.2
        | rearmed acked payload => exact .rearmed acked payload
        | tombstone earlier => exact (armed.2 rfl).elim
      · exact carries
  | _ => exact carries

/-- The outbox holds what it started with and what was enqueued, and the book a sale for each
credit enqueued.
-/
structure OutboxInvariant (start : OrdersStore) (h : OrderHistory) : Prop where
  carried
    : List.Forall₂ Carries (start.creditOutbox.rows ++ h.enqueued.map Settlement.credit)
        h.orders.creditOutbox.rows
  booked : h.orders.revenue = start.revenue ++ h.enqueued.map Settlement.sale

namespace OutboxInvariant

variable {start : OrdersStore} {h : OrderHistory}

theorem begin (begun : h.enqueued = []) : OutboxInvariant h.orders h where
  carried := by simpa [begun] using List.forall₂_same.mpr fun _ _ => Carries.kept
  booked := by simp [begun]

theorem write (inv : OutboxInvariant start h) (write : OrdersWrite)
    : OutboxInvariant start (h.write write) where
  carried := by
    simp only [OrderHistory.write, OrdersStore.write_outbox, List.map_append, ← List.append_assoc]
    refine List.rel_append ?_ (List.forall₂_same.mpr fun _ _ => Carries.kept)
    rw [List.forall₂_map_right_iff]
    exact inv.carried.imp fun _ _ carries => carries.creditAfter write
  booked := by
    simp [OrderHistory.write, OrdersStore.write_revenue, inv.booked]

theorem writes (inv : OutboxInvariant start h) (writes : List OrdersWrite)
    : OutboxInvariant start (h.writes writes) :=
  OrderHistory.writes_keep (OutboxInvariant start) (fun write _ _ inv => inv.write write) inv

/-- The keys of the outbox are those it started with and those enqueued, in order. -/
theorem keys (inv : OutboxInvariant start h)
    : h.orders.creditOutbox.rows.map CreditOutboxRow.idempotencyKey
      = start.creditOutbox.rows.map CreditOutboxRow.idempotencyKey
        ++ h.enqueued.map Settlement.key := by
  have same {origins rows : List CreditOutboxRow} (carried : List.Forall₂ Carries origins rows)
      : rows.map CreditOutboxRow.idempotencyKey = origins.map CreditOutboxRow.idempotencyKey := by
    induction carried with
    | nil => rfl
    | cons first _ ih => simp [first.key, ih]
  rw [same inv.carried]
  simp [Settlement.credit, Function.comp_def]

/-- No key is enqueued twice, nor one that the outbox started with. -/
theorem enqueuedOnce (inv : OutboxInvariant start h)
    : (start.creditOutbox.rows.map CreditOutboxRow.idempotencyKey
        ++ h.enqueued.map Settlement.key).Nodup := by
  rw [← inv.keys]
  exact h.orders.creditOutbox.nodup

/-- Every row of the outbox carries a credit it started with or one that was enqueued. -/
theorem origin (inv : OutboxInvariant start h) {row : CreditOutboxRow}
    (member : row ∈ h.orders.creditOutbox.rows)
    : ∃ origin, (origin ∈ start.creditOutbox.rows ∨ origin ∈ h.enqueued.map Settlement.credit)
        ∧ Carries origin row := by
  have paired {origins rows : List CreditOutboxRow} (carried : List.Forall₂ Carries origins rows)
      (member : row ∈ rows)
      : ∃ origin ∈ origins, Carries origin row := by
    induction carried with
    | nil => cases member
    | cons first _ ih =>
        rcases List.mem_cons.mp member with rfl | later
        · exact ⟨_, List.mem_cons_self, first⟩
        · obtain ⟨origin, original, carries⟩ := ih later
          exact ⟨origin, List.mem_cons_of_mem _ original, carries⟩
  obtain ⟨origin, original, carries⟩ := paired inv.carried member
  exact ⟨origin, List.mem_append.mp original, carries⟩

end OutboxInvariant

end Nullsink.Payments
