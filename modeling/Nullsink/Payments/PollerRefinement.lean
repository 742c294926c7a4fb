import Nullsink.Payments.CreditOnce
import Nullsink.Payments.PollerMoves

/-! The payments process refines the models its safety rests on: whatever the order of its polls,
answers and deaths, its store crosses credits as the crossing does and shows payments as the status
process does. Both models poll and drain one after another; the process earns that by its phases.
-/

namespace Nullsink.Payments

open Relational Transition Ecma Ledger

/-- The credits that a poll enqueues are ones the ledger's parser accepts. -/
def PollerAction.Deliverable (cfg : PollerConfig) (p : PaymentsProcess) : PollerAction → Prop
  | .walletAnswer name (.ok inbounds) now =>
      ∀ rail ∈ cfg.rails.rows, rail.name = name
        → ∀ settlement ∈ settlements (StatusProcess.incomingOf inbounds) p.orders now
            (cfg.settle rail),
          Payments.Deliverable settlement.credit
  | .dieInAnswer name inbounds now _ =>
      ∀ rail ∈ cfg.rails.rows, rail.name = name
        → ∀ settlement ∈ settlements (StatusProcess.incomingOf inbounds) p.orders now
            (cfg.settle rail),
          Payments.Deliverable settlement.credit
  | _ => True

instance (cfg : PollerConfig) (p : PaymentsProcess) (action : PollerAction)
    : Decidable (action.Deliverable cfg p) := by
  unfold PollerAction.Deliverable
  split <;> infer_instance

/-- Actions in sequence. -/
def PaymentsProcess.run? (cfg : PollerConfig) (p : PaymentsProcess) (actions : List PollerAction)
    : Option PaymentsProcess :=
  actions.foldlM (PaymentsProcess.act cfg) p

/-- Writes that settle orders are actions of the crossing; by induction on the writes. -/
theorem Crossing.run?_writes {c : Crossing} (up : c.up = true) {writes : List OrdersWrite}
    (settles : ∀ write ∈ writes, write.delivers = false)
    : c.run? (writes.map .write) = some { c with payments := c.payments.writes writes } := by
  induction writes generalizing c with
  | nil => rfl
  | cons write rest ih =>
      obtain ⟨first, others⟩ := List.forall_mem_cons.mp settles
      have taken : c.act (.write write) = some { c with payments := c.payments.write write } := by
        simp [Crossing.act, up, first]
      have later := @ih { c with payments := c.payments.write write } up others
      simp only [Crossing.run?, List.map_cons, List.foldlM_cons, taken] at later ⊢
      exact later

/-- What a sequence of writes does to the crossing, if the credits it enqueues are `accepted`. -/
theorem Crossing.crosses_writes {c : Crossing} {accepted : Prop} (up : c.up = true)
    {writes : List OrdersWrite} (settles : ∀ write ∈ writes, write.delivers = false)
    (deliverable : accepted → ∀ write ∈ writes, (CrossingAction.write write).Deliverable)
    : ∃ acts, c.run? acts = some { c with payments := c.payments.writes writes }
        ∧ (accepted → ∀ act ∈ acts, act.Deliverable) := by
  refine ⟨_, Crossing.run?_writes up settles, ?_⟩
  intro holds act member
  obtain ⟨write, written, rfl⟩ := List.mem_map.mp member
  exact deliverable holds write written

/-- An action that writes nothing enqueues nothing. -/
theorem Crossing.crosses_action {c c' : Crossing} {accepted : Prop} (action : CrossingAction)
    (acted : c.act action = some c') (unwritten : ∀ write, action ≠ .write write)
    : ∃ acts, c.run? acts = some c' ∧ (accepted → ∀ act ∈ acts, act.Deliverable) := by
  refine ⟨[action], by simp [Crossing.run?, acted], ?_⟩
  intro _ act member
  cases List.mem_singleton.mp member
  cases action with
  | write write => exact (unwritten write rfl).elim
  | _ => trivial

/-- A death after some of the writes. -/
theorem Crossing.crosses_death {c : Crossing} {accepted : Prop} (up : c.up = true)
    {writes : List OrdersWrite} (settles : ∀ write ∈ writes, write.delivers = false)
    (deliverable : accepted → ∀ write ∈ writes, (CrossingAction.write write).Deliverable)
    : ∃ acts, c.run? acts
          = some { c with payments := c.payments.writes writes, up := false, drain := none }
        ∧ (accepted → ∀ act ∈ acts, act.Deliverable) := by
  obtain ⟨acts, ran, written⟩ := Crossing.crosses_writes up settles deliverable
  have crash : Crossing.act { c with payments := c.payments.writes writes } .crash
      = some { c with payments := c.payments.writes writes, up := false, drain := none } := by
    simp only [Crossing.act, up, if_true]
  refine ⟨acts ++ [.crash], ?_, ?_⟩
  · rw [Crossing.run?] at ran ⊢
    rw [List.foldlM_append]
    refine Option.bind_eq_some_iff.mpr ⟨_, ran, ?_⟩
    exact Option.bind_eq_some_iff.mpr ⟨_, crash, rfl⟩
  · intro holds act member
    rcases List.mem_append.mp member with earlier | last
    · exact written holds act earlier
    · cases List.mem_singleton.mp last
      trivial

/-- A write that settles changes no row of the outbox, it only appends. -/
theorem OrdersStore.outbox_of_settles {write : OrdersWrite} (settles : write.delivers = false)
    (orders : OrdersStore)
    : (orders.write write).creditOutbox.rows
      = orders.creditOutbox.rows ++ (orders.enqueues write).toList.map Settlement.credit := by
  have kept : write.creditAfter = id := by
    funext row
    cases write with
    | ackCredit key atMs => cases settles
    | rearmLegacyAckedCredits => cases settles
    | _ => rfl
  rw [write_outbox, kept, List.map_id]

/-- A settled poll neither acknowledges nor re-arms. -/
theorem pollWrites_settle {cfg : PollerConfig} {rail : PayRail} {inbounds : List ReportedIncoming}
    {now : ℤ} {orders : OrdersStore} {write : OrdersWrite}
    (member : write ∈ pollWrites cfg rail inbounds now orders)
    : write.delivers = false := by
  rcases mem_settleWrites.mp member with ⟨t, _, rfl⟩ | ⟨settlement, _, rfl⟩ | rfl | ⟨o, _, rfl⟩
    <;> rfl

theorem pollWrites_deliverable {cfg : PollerConfig} {rail : PayRail}
    {inbounds : List ReportedIncoming} {now : ℤ} {orders : OrdersStore}
    (accepted
      : ∀ settlement ∈ settlements (StatusProcess.incomingOf inbounds) orders now (cfg.settle rail),
          Deliverable settlement.credit)
    {write : OrdersWrite} (member : write ∈ pollWrites cfg rail inbounds now orders)
    : (CrossingAction.write write).Deliverable := by
  cases write with
  | commitSettlement settlement => exact accepted settlement (settlement_of_commit member)
  | _ => trivial

/-- The first writes of a tick settle no order: no transfers are there yet; by induction on the
rails.
-/
theorem tickWrites_plain {cfg : PollerConfig} {clock : String → ℤ} {rails : List PayRail}
    {orders : OrdersStore} {write : OrdersWrite}
    (member : write ∈ tickWrites cfg clock orders rails)
    : write.delivers = false ∧ (CrossingAction.write write).Deliverable := by
  induction rails generalizing orders with
  | nil => cases member
  | cons rail rest ih =>
      rcases List.mem_append.mp member with now | later
      · split at now
        · refine ⟨pollWrites_settle now, pollWrites_deliverable ?_ now⟩
          intro settlement settled
          cases settled
        · cases now
      · exact ih later

namespace PaymentsProcess

/-- Every move of the process is actions of the crossing, and enqueues through it only the credits
that its wallet's answer makes due.
-/
theorem Move.crossing {cfg : PollerConfig} {p p' : PaymentsProcess} {action : PollerAction}
    (moved : Move cfg p action p') (inv : PhaseInvariant cfg p)
    : ∃ acts, p.crossing.run? acts = some p'.crossing
        ∧ (action.Deliverable cfg p → ∀ seen ∈ acts, seen.Deliverable) := by
  cases moved with
  | busy clock polling => exact ⟨[], rfl, by simp⟩
  | begun clock up idle =>
      simp only [pollRails_crossing]
      exact Crossing.crosses_writes up (fun _ member => (tickWrites_plain member).1)
        fun _ _ member => (tickWrites_plain member).2
  | @answered polls rail watch answer now polling found =>
      simp only [answered_crossing]
      have up := inv.up (by simp [polling])
      have known : rail ∈ cfg.rails.rows :=
        inv.polls polls polling ▸ List.mem_map_of_mem found
      cases answer with
      | error reason => exact ⟨[], rfl, by simp⟩
      | ok inbounds =>
          exact Crossing.crosses_writes up (fun _ member => pollWrites_settle member)
            fun deliverable _ member =>
              pollWrites_deliverable (deliverable rail known rfl) member
  | listed now polling settled up free =>
      exact Crossing.crosses_action (.startDrain now) (by simp [Crossing.act, up, free, orders])
        (by simp)
  | crossed seen c acted wired unwritten payments up drain =>
      exact Crossing.crosses_action _ acted unwritten
  | bought order maxOpen up =>
      exact Crossing.crosses_writes up (by simp [OrdersWrite.delivers])
        (by simp [CrossingAction.Deliverable])
  | acked answer applied draining drain acted bound =>
      exact Crossing.crosses_action _ acted (by simp)
  | ended seen now blocked draining acted wired unwritten =>
      exact Crossing.crosses_action _ acted unwritten
  | cutInTick clock committed up idle =>
      exact Crossing.crosses_death up
        (fun _ member => (tickWrites_plain (List.mem_of_mem_take member)).1)
        fun _ _ member => (tickWrites_plain (List.mem_of_mem_take member)).2
  | @cutInAnswer polls rail watch inbounds now committed polling found =>
      have known : rail ∈ cfg.rails.rows :=
        inv.polls polls polling ▸ List.mem_map_of_mem found
      exact Crossing.crosses_death (inv.up (by simp [polling]))
        (fun _ member => pollWrites_settle (List.mem_of_mem_take member))
        fun deliverable _ member =>
          pollWrites_deliverable (deliverable rail known rfl) (List.mem_of_mem_take member)
  | crashed up =>
      have crash : p.crossing.act .crash = some p.died.crossing := by
        simp only [Crossing.act, up, if_true]
        rfl
      exact Crossing.crosses_action .crash crash (by simp)
  | restarted down =>
      exact Crossing.crosses_action .restart (by simp [Crossing.act, down, idle]) (by simp)

-----------------------------------------------------------------------------------------
-- The order status
-----------------------------------------------------------------------------------------

/-- What `/order-status` reads of the process. -/
def status (p : PaymentsProcess) : StatusProcess :=
  ⟨p.orders, p.byKey⟩

/-- A settled poll is a poll of the status process, whatever the rail watched. -/
theorem settlePoll_status (cfg : PollerConfig) (p : PaymentsProcess) (rail : PayRail)
    (inbounds : List ReportedIncoming) (now : ℤ)
    : (p.settlePoll cfg rail inbounds now).status
      = p.status.tick inbounds now (cfg.settle rail) := by
  have settled
      : (p.writes (pollWrites cfg rail inbounds now p.orders)).orders
        = (settle (StatusProcess.incomingOf inbounds) p.orders now (cfg.settle rail)).1 := by
    rw [writes_orders, settle_writes]
    rfl
  unfold settlePoll StatusProcess.tick status
  simp only [← settled]
  rfl

/-- A poll from its wallet's answer on is one of the status process. -/
theorem answered_status (cfg : PollerConfig) (p : PaymentsProcess) (rail : PayRail)
    (watch : List ℤ) {answer : Except String (List ReportedIncoming)}
    (asked : watch ≠ [] ∨ answer = .ok []) (now : ℤ)
    : (p.answered cfg rail answer now).status
      = p.status.act (.pollRail watch answer now (cfg.settle rail)) := by
  cases answer with
  | error reason =>
      have watches : watch ≠ [] := asked.resolve_right (by simp)
      simp only [StatusProcess.act, reportedBy, watches, if_false]
      rfl
  | ok inbounds =>
      have reported : reportedBy watch (.ok inbounds) = some inbounds := by
        rcases asked with watches | empty
        · simp only [reportedBy, watches, if_false]
          rfl
        · cases empty
          unfold reportedBy
          split <;> rfl
      simp only [StatusProcess.act, reported]
      exact settlePoll_status cfg (p.record cfg rail.name (.ok inbounds)) rail inbounds now

/-- The polls with which a tick begins, as polls of the status process; by induction on the rails.
-/
theorem pollRails_status (cfg : PollerConfig) (clock : String → ℤ) (p : PaymentsProcess)
    (rails : List PayRail)
    : ∃ acts, statusSystem.Run p.status acts (p.pollRails cfg clock rails).1.status := by
  induction rails generalizing p with
  | nil => exact ⟨[], .nil⟩
  | cons rail rest ih =>
      have first : ∃ acts, statusSystem.Run p.status acts (p.pollRail cfg clock rail).1.status := by
        unfold pollRail
        by_cases watches : p.orders.watch rail = []
        · simp only [watches, if_true]
          exact ⟨_, System.Run.single (answered_status cfg p rail [] (Or.inr rfl) _)⟩
        · simp only [watches, if_false]
          exact ⟨[], .nil⟩
      obtain ⟨before, front⟩ := first
      obtain ⟨after, back⟩ := ih (p.pollRail cfg clock rail).1
      exact ⟨before ++ after, front.append back⟩

/-- A death forgets the progress: a poll cut before its first write. -/
theorem forget_status (status : StatusProcess)
    : statusSystem.step status (.pollCut [] (.ok []) 0 ⟨1, "", none, 0, none⟩ 0)
        { status with byKey := .empty } := rfl

/-- A tick cut short at its beginning, as polls of the status process of which the last one is cut;
by induction on the rails.
-/
theorem tickCut_status (cfg : PollerConfig) (clock : String → ℤ) (status : StatusProcess)
    (rails : List PayRail) (committed : ℕ)
    : ∃ acts,
        statusSystem.Run status acts
          ⟨((tickWrites cfg clock status.orders rails).take committed).foldl OrdersStore.write
            status.orders, .empty⟩ := by
  induction rails generalizing status committed with
  | nil => exact ⟨_, System.Run.single (by simpa [tickWrites] using forget_status status)⟩
  | cons rail rest ih =>
      simp only [tickWrites]
      by_cases watches : status.orders.watch rail = []
      · simp only [watches, if_true]
        by_cases within
            : committed ≤ (pollWrites cfg rail [] (clock rail.name) status.orders).length
        · rw [List.take_append_of_le_length within]
          exact ⟨[.pollCut [] (.ok []) (clock rail.name) (cfg.settle rail) committed],
            System.Run.single rfl⟩
        · rw [List.take_append, List.take_of_length_le (by omega), List.foldl_append]
          have polled
              : statusSystem.step status (.pollRail [] (.ok []) (clock rail.name) (cfg.settle rail))
                  (status.tick [] (clock rail.name) (cfg.settle rail)) := rfl
          obtain ⟨acts, later⟩ := ih (status.tick [] (clock rail.name) (cfg.settle rail))
            (committed - (pollWrites cfg rail [] (clock rail.name) status.orders).length)
          have settled
              : (status.tick [] (clock rail.name) (cfg.settle rail)).orders
                = (pollWrites cfg rail [] (clock rail.name) status.orders).foldl OrdersStore.write
                  status.orders := by
            simp only [StatusProcess.tick, settle_writes]
            rfl
          rw [settled] at later
          exact ⟨_, (System.Run.single polled).append later⟩
      · simp only [watches, if_false, List.nil_append, List.foldl_nil]
        exact ih status committed

/-- Every move of the process is steps of the status process. -/
theorem Move.status {cfg : PollerConfig} {p p' : PaymentsProcess} {action : PollerAction}
    (moved : Move cfg p action p') (inv : PhaseInvariant cfg p)
    : ∃ acts, statusSystem.Run p.status acts p'.status := by
  cases moved with
  | busy clock polling => exact ⟨[], .nil⟩
  | begun clock up idle => exact pollRails_status cfg clock p cfg.rails.rows
  | @answered polls rail watch answer now polling found =>
      have watches := inv.watched polls rail watch polling found
      exact ⟨_, System.Run.single (answered_status cfg p rail watch (Or.inl watches) now)⟩
  | listed now polling settled up free => exact ⟨[], .nil⟩
  | crossed seen c acted wired unwritten payments up drain =>
      have same : PaymentsProcess.status { p with crossing := c } = p.status := by
        simp only [PaymentsProcess.status, orders, payments]
      rw [same]
      exact ⟨[], .nil⟩
  | bought order maxOpen up =>
      exact ⟨[.tryAddOrder order maxOpen], System.Run.single rfl⟩
  | @acked delivered alreadyApplied now row rest copy answer applied draining drain acted bound =>
      exact ⟨[.ackCredit row.idempotencyKey now], System.Run.single rfl⟩
  | ended seen now blocked draining acted wired unwritten => exact ⟨[], .nil⟩
  | cutInTick clock committed up idle =>
      obtain ⟨acts, cut⟩ := tickCut_status cfg clock p.status cfg.rails.rows committed
      refine ⟨acts, ?_⟩
      have same
          : (p.writes ((tickWrites cfg clock p.orders cfg.rails.rows).take committed)).died.orders
            = ((tickWrites cfg clock p.orders cfg.rails.rows).take committed).foldl
                OrdersStore.write p.orders :=
        writes_orders p _
      unfold PaymentsProcess.status
      rw [same]
      exact cut
  | @cutInAnswer polls rail watch inbounds now committed polling found =>
      have watches := inv.watched polls rail watch polling found
      refine ⟨[.pollCut watch (.ok inbounds) now (cfg.settle rail) committed],
        System.Run.single ?_⟩
      have same
          : (p.writes ((pollWrites cfg rail inbounds now p.orders).take committed)).died.orders
            = ((pollWrites cfg rail inbounds now p.orders).take committed).foldl
                OrdersStore.write p.orders :=
        writes_orders p _
      have reported : reportedBy watch (.ok inbounds) = some inbounds := by
        simp only [reportedBy, watches, if_false]
        rfl
      unfold PaymentsProcess.status
      simp only [statusSystem, StatusProcess.act, reported, same]
      rfl
  | crashed up => exact ⟨_, System.Run.single (forget_status p.status)⟩
  | restarted down => exact ⟨[.restart], System.Run.single rfl⟩

-----------------------------------------------------------------------------------------
-- The contract of the poller
-----------------------------------------------------------------------------------------

end PaymentsProcess

end Nullsink.Payments
