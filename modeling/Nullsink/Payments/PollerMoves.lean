import Nullsink.Payments.Poller

/-! What an action of the payments process does, and what every action keeps of its phases. -/

namespace Nullsink.Payments

open Relational Transition Ecma Ledger

-----------------------------------------------------------------------------------------
-- The moves
-----------------------------------------------------------------------------------------

/-- The actions of the wire and of the ledger. -/
def PollerAction.wired : PollerAction → Bool
  | .send => true
  | .deliver _ _ => true
  | .receive _ => true
  | .fail _ => true
  | .drained => true
  | .ledger _ => true
  | _ => false

namespace PaymentsProcess

/-- The polls of a tick after one rail's poll is over. -/
def settledPolls (polls : List (PayRail × RailPoll)) (rail : PayRail)
    : List (PayRail × RailPoll) :=
  polls.map (fun poll => if poll.1.name = rail.name then (rail, .settled) else poll)

/-- Everything an action can do to the process. -/
inductive Move (cfg : PollerConfig) (p : PaymentsProcess)
    : PollerAction → PaymentsProcess → Prop
  | busy (clock : String → ℤ) (polling : p.phase ≠ .idle) : Move cfg p (.tick clock) p
  | begun (clock : String → ℤ) (up : p.crossing.up = true) (idle : p.phase = .idle)
    : Move cfg p (.tick clock)
        {
          (p.pollRails cfg clock cfg.rails.rows).1 with
          phase := .polling (p.pollRails cfg clock cfg.rails.rows).2
        }
  | answered {polls rail watch} (answer : Except String (List ReportedIncoming)) (now : ℤ)
    (polling : p.phase = .polling polls) (found : (rail, .querying watch) ∈ polls)
    : Move cfg p (.walletAnswer rail.name answer now)
        { p.answered cfg rail answer now with phase := .polling (settledPolls polls rail) }
  | listed {polls} (now : ℤ) (polling : p.phase = .polling polls)
    (settled : ∀ poll ∈ polls, poll.2 = .settled) (up : p.crossing.up = true)
    (free : p.crossing.drain = none)
    : Move cfg p (.drain now)
        {
          p with
          crossing :=
            { p.crossing with drain := some ⟨now, p.orders.listUnackedCredits, none⟩ }
          phase := .draining 0 0
          metrics := p.metrics.observeCreditOutbox p.orders.unackedCreditCount
            (p.orders.oldestUnackedAgeMs now)
        }
  | crossed {action} (seen : CrossingAction) (c : Crossing) (taken : p.crossing.act seen = some c)
    (wired : action.wired = true) (unwritten : ∀ write, seen ≠ .write write)
    (payments : c.payments = p.crossing.payments) (up : c.up = p.crossing.up)
    (drain : c.drain.isSome = p.crossing.drain.isSome)
    : Move cfg p action { p with crossing := c }
  | bought (order : PendingOrder) (maxOpen : ℤ) (up : p.crossing.up = true)
    : Move cfg p (.buy order maxOpen) (p.writes [.tryAddOrder order maxOpen])
  | acked {delivered alreadyApplied now row rest copy} (answer applied : ℕ)
    (draining : p.phase = .draining delivered alreadyApplied)
    (drain : p.crossing.drain = some ⟨now, row :: rest, some copy⟩)
    (taken
      : p.crossing.act (.receive answer)
        = some
            {
              p.crossing with
              payments := p.crossing.payments.write (.ackCredit row.idempotencyKey now)
              drain := some ⟨now, rest, none⟩
            })
    (bound : applied ≤ 1)
    : Move cfg p (.receive answer)
        {
          p.writes [.ackCredit row.idempotencyKey now] with
          crossing :=
            {
              p.crossing with
              payments := p.crossing.payments.write (.ackCredit row.idempotencyKey now)
              drain := some ⟨now, rest, none⟩
            }
          phase := .draining (delivered + 1) (alreadyApplied + applied)
        }
  | ended {action delivered alreadyApplied} (seen : CrossingAction) (now : ℤ)
    (blocked : Option String) (draining : p.phase = .draining delivered alreadyApplied)
    (taken : p.crossing.act seen = some { p.crossing with drain := none })
    (wired : action.wired = true) (unwritten : ∀ write, seen ≠ .write write)
    : Move cfg p action
        ({ p with crossing := { p.crossing with drain := none } }.endTick cfg now delivered
          alreadyApplied blocked)
  | cutInTick (clock : String → ℤ) (committed : ℕ) (up : p.crossing.up = true)
    (idle : p.phase = .idle)
    : Move cfg p (.dieInTick clock committed)
        (p.writes ((tickWrites cfg clock p.orders cfg.rails.rows).take committed)).died
  | cutInAnswer {polls rail watch} (inbounds : List ReportedIncoming) (now : ℤ) (committed : ℕ)
    (polling : p.phase = .polling polls) (found : (rail, .querying watch) ∈ polls)
    : Move cfg p (.dieInAnswer rail.name inbounds now committed)
        (p.writes ((pollWrites cfg rail inbounds now p.orders).take committed)).died
  | crashed (up : p.crossing.up = true) : Move cfg p .crash p.died
  | restarted (down : p.crossing.up = false)
    : Move cfg p .restart
        (.idle
          {
            p.crossing with
            up := true
            payments := p.crossing.payments.write .rearmLegacyAckedCredits
          })

/-- What the drain makes of an answer it reads. -/
theorem receive_conclude {c c' : Crossing} {answer copy : ℕ} {response : Response}
    (given : c.answers[answer]? = some (copy, response))
    (taken : c.act (.receive answer) = some c')
    : ∃ now row rest, c.drain = some ⟨now, row :: rest, some copy⟩
        ∧ c' = c.conclude now row rest (deliveryResult response) := by
  simp only [Crossing.act, given] at taken
  split at taken
  · rename_i same draining
    cases same
    split at taken
    · rename_i own
      subst own
      cases taken
      exact ⟨_, _, _, draining, rfl⟩
    · cases taken
  · cases taken

/-- The poll that a name finds is one of the tick's, of a rail of that name. -/
theorem mem_of_find {polls : List (PayRail × RailPoll)} {name : String} {rail : PayRail}
    {poll : RailPoll}
    (found : polls.find? (fun poll => decide (poll.1.name = name)) = some (rail, poll))
    : (rail, poll) ∈ polls ∧ rail.name = name :=
  ⟨List.mem_of_find?_eq_some found, by simpa using List.find?_some found⟩

/-- Every possible action is one of the moves. -/
theorem act_move {cfg : PollerConfig} {p p' : PaymentsProcess} {action : PollerAction}
    (acted : p.act cfg action = some p')
    : Move cfg p action p' := by
  cases action with
  | tick clock =>
      simp only [act] at acted
      split at acted
      · cases acted
      · rename_i up
        split at acted
        · rename_i idle
          cases acted
          exact .begun clock (by simpa using up) idle
        · rename_i busy
          cases acted
          exact .busy clock busy
  | walletAnswer name answer now =>
      simp only [act] at acted
      split at acted
      · rename_i polls polling
        split at acted
        · rename_i rail watch found
          obtain ⟨member, rfl⟩ := mem_of_find found
          cases acted
          exact .answered answer now polling member
        · cases acted
      · cases acted
  | drain now =>
      simp only [act] at acted
      split at acted
      · rename_i polls polling
        split at acted
        · rename_i settled
          obtain ⟨c, taken, rfl⟩ := Option.map_eq_some_iff.mp acted
          simp only [Crossing.act] at taken
          split at taken
          · rename_i up free
            cases taken
            exact .listed now polling (by simpa using settled) up free
          · cases taken
        · cases acted
      · cases acted
  | send =>
      obtain ⟨c, taken, rfl⟩ := Option.map_eq_some_iff.mp acted
      simp only [Crossing.act] at taken
      split at taken
      · rename_i draining
        cases taken
        exact .crossed .send _ (by simp [Crossing.act, draining]) rfl (by simp) rfl rfl
          (by simp [draining])
      · cases taken
  | deliver copy nowMs =>
      obtain ⟨c, taken, rfl⟩ := Option.map_eq_some_iff.mp acted
      have whole := taken
      simp only [Crossing.act] at taken
      split at taken
      · cases taken
      · cases taken
        exact .crossed (.deliver copy nowMs) _ whole rfl (by simp) rfl rfl rfl
  | receive answer =>
      simp only [act] at acted
      split at acted
      · rename_i delivered alreadyApplied drain copy response c draining drained given taken
        obtain ⟨now, row, rest, waiting, rfl⟩ := receive_conclude given taken
        cases drained.symm.trans waiting
        split at acted
        · rename_i reason ambiguous
          simp only [ambiguous, Crossing.conclude] at acted taken
          cases acted
          exact .ended (.receive answer) now (some reason) draining taken rfl (by simp)
        · rename_i already
          simp only [already, Crossing.conclude] at acted taken
          cases acted
          exact .acked answer 1 draining drained taken le_rfl
        · rename_i applied
          simp only [applied, Crossing.conclude] at acted taken
          cases acted
          exact .acked answer 0 draining drained taken (Nat.zero_le 1)
      · cases acted
  | fail reason =>
      simp only [act] at acted
      split at acted
      · rename_i delivered alreadyApplied drain c draining drained taken
        cases acted
        have whole := taken
        simp only [Crossing.act, drained] at taken
        split at taken
        · cases taken
          exact .ended .fail drain.now (some reason) draining whole rfl (by simp)
        · cases taken
      · cases acted
  | drained =>
      simp only [act] at acted
      split at acted
      · rename_i delivered alreadyApplied drain c draining drained taken
        cases acted
        have whole := taken
        simp only [Crossing.act, drained] at taken
        split at taken
        · cases taken
          exact .ended .finish drain.now none draining whole rfl (by simp)
        · cases taken
      · cases acted
  | buy order maxOpen =>
      obtain ⟨c, taken, rfl⟩ := Option.map_eq_some_iff.mp acted
      simp only [Crossing.act, Option.ite_none_right_eq_some, Option.some.injEq] at taken
      obtain ⟨⟨up, _⟩, rfl⟩ := taken
      exact .bought order maxOpen up
  | dieInTick clock committed =>
      simp only [act] at acted
      split at acted
      · rename_i up idle
        cases acted
        exact .cutInTick clock committed up idle
      · cases acted
  | dieInAnswer name inbounds now committed =>
      simp only [act] at acted
      split at acted
      · rename_i polls polling
        split at acted
        · rename_i rail watch found
          obtain ⟨member, rfl⟩ := mem_of_find found
          cases acted
          exact .cutInAnswer inbounds now committed polling member
        · cases acted
      · cases acted
  | crash =>
      simp only [act, Option.ite_none_right_eq_some, Option.some.injEq] at acted
      obtain ⟨up, rfl⟩ := acted
      exact .crashed up
  | restart =>
      obtain ⟨c, taken, rfl⟩ := Option.map_eq_some_iff.mp acted
      simp only [Crossing.act, Option.ite_none_left_eq_some, Option.some.injEq] at taken
      obtain ⟨down, rfl⟩ := taken
      exact .restarted (by simpa using down)
  | ledger op =>
      obtain ⟨c, taken, rfl⟩ := Option.map_eq_some_iff.mp acted
      have whole := taken
      simp only [Crossing.act, Option.ite_none_left_eq_some, Option.some.injEq] at taken
      obtain ⟨_, rfl⟩ := taken
      exact .crossed (.ledger op) _ whole rfl (by simp) rfl rfl rfl

-----------------------------------------------------------------------------------------
-- The polls of a tick
-----------------------------------------------------------------------------------------

/-- The writes of a poll from its wallet's answer on. -/
def answerWrites (cfg : PollerConfig) (rail : PayRail)
    (answer : Except String (List ReportedIncoming)) (now : ℤ) (orders : OrdersStore)
    : List OrdersWrite :=
  match answer with
  | .ok inbounds => pollWrites cfg rail inbounds now orders
  | .error _ => []

theorem answered_crossing (cfg : PollerConfig) (p : PaymentsProcess) (rail : PayRail)
    (answer : Except String (List ReportedIncoming)) (now : ℤ)
    : (p.answered cfg rail answer now).crossing
      = (p.writes (answerWrites cfg rail answer now p.orders)).crossing := by
  cases answer with
  | error reason => rfl
  | ok inbounds => rfl

theorem pollRail_crossing (cfg : PollerConfig) (clock : String → ℤ) (p : PaymentsProcess)
    (rail : PayRail)
    : (p.pollRail cfg clock rail).1.crossing
      = (p.writes
          (if p.orders.watch rail = [] then pollWrites cfg rail [] (clock rail.name) p.orders
          else [])).crossing := by
  unfold pollRail
  by_cases watches : p.orders.watch rail = []
  · simp only [watches, if_true]
    rfl
  · simp only [watches, if_false]
    rfl

/-- Writes in two parts. -/
theorem writes_append (p : PaymentsProcess) (earlier later : List OrdersWrite)
    : p.writes (earlier ++ later) = (p.writes earlier).writes later := by
  simp [writes, OrderHistory.writes_append]

theorem writes_orders (p : PaymentsProcess) (writes : List OrdersWrite)
    : (p.writes writes).orders = writes.foldl OrdersStore.write p.orders :=
  OrderHistory.writes_orders _ _

/-- What a tick has written when all its polls have begun; by induction on the rails. -/
theorem pollRails_crossing (cfg : PollerConfig) (clock : String → ℤ) (p : PaymentsProcess)
    (rails : List PayRail)
    : (p.pollRails cfg clock rails).1.crossing
      = (p.writes (tickWrites cfg clock p.orders rails)).crossing := by
  induction rails generalizing p with
  | nil => rfl
  | cons rail rest ih =>
      have first := pollRail_crossing cfg clock p rail
      have orders
          : (p.pollRail cfg clock rail).1.orders
            = (if p.orders.watch rail = [] then pollWrites cfg rail [] (clock rail.name) p.orders
              else []).foldl OrdersStore.write p.orders := by
        rw [← writes_orders]
        exact congrArg (fun crossing => crossing.payments.orders) first
      have later := ih (p.pollRail cfg clock rail).1
      rw [orders] at later
      simp only [pollRails, later, tickWrites, writes_append]
      simp only [writes, first]

/-- A tick polls every rail once, in the configured order; by induction on the rails. -/
theorem pollRails_rails (cfg : PollerConfig) (clock : String → ℤ) (p : PaymentsProcess)
    (rails : List PayRail)
    : (p.pollRails cfg clock rails).2.map Prod.fst = rails := by
  induction rails generalizing p with
  | nil => rfl
  | cons rail rest ih => simp [pollRails, ih]

/-- A poll is suspended only at a query for open orders. -/
theorem pollRail_watched {cfg : PollerConfig} {clock : String → ℤ} {p : PaymentsProcess}
    {rail : PayRail} {watch : List ℤ}
    (suspended : (p.pollRail cfg clock rail).2 = .querying watch)
    : watch ≠ [] := by
  unfold pollRail at suspended
  by_cases watches : p.orders.watch rail = []
  · simp [watches] at suspended
  · simp only [watches, if_false, RailPoll.querying.injEq] at suspended
    exact suspended ▸ watches

/-- So are all polls of a tick; by induction on the rails. -/
theorem pollRails_watched {cfg : PollerConfig} {clock : String → ℤ} {p : PaymentsProcess}
    {rails : List PayRail} {rail : PayRail} {watch : List ℤ}
    (suspended : (rail, .querying watch) ∈ (p.pollRails cfg clock rails).2)
    : watch ≠ [] := by
  induction rails generalizing p with
  | nil => cases suspended
  | cons first rest ih =>
      rcases List.mem_cons.mp suspended with now | later
      · exact pollRail_watched (congrArg Prod.snd now).symm
      · exact ih later

theorem settledPolls_rails {polls : List (PayRail × RailPoll)} {rails : Table PayRail.name}
    {rail : PayRail} (polled : polls.map Prod.fst = rails.rows) (known : rail ∈ rails.rows)
    : (settledPolls polls rail).map Prod.fst = rails.rows := by
  rw [settledPolls, List.map_map, ← polled]
  refine List.map_congr_left ?_
  intro poll member
  dsimp only [Function.comp]
  split
  · rename_i same
    have own : poll.1 ∈ rails.rows := polled ▸ List.mem_map_of_mem member
    exact (List.inj_on_of_nodup_map rails.nodup own known same).symm
  · rfl

-----------------------------------------------------------------------------------------
-- The phases
-----------------------------------------------------------------------------------------

/-- What the phase says of the rest of the process. -/
structure PhaseInvariant (cfg : PollerConfig) (p : PaymentsProcess) : Prop where
  up : p.phase ≠ .idle → p.crossing.up = true
  draining
    : p.crossing.drain.isSome
      ↔ ∃ delivered alreadyApplied, p.phase = .draining delivered alreadyApplied
  polls : ∀ polls, p.phase = .polling polls → polls.map Prod.fst = cfg.rails.rows
  watched
    : ∀ polls rail watch, p.phase = .polling polls → (rail, .querying watch) ∈ polls → watch ≠ []

/-- A process that has just started, or that is down, is in no tick. -/
theorem PhaseInvariant.idle {cfg : PollerConfig} {crossing : Crossing}
    (free : crossing.drain = none)
    : PhaseInvariant cfg (.idle crossing) where
  up := fun busy => (busy rfl).elim
  draining := by simp [PaymentsProcess.idle, free]
  polls := fun _ polling => by cases polling
  watched := fun _ _ _ polling => by cases polling

theorem PhaseInvariant.move {cfg : PollerConfig} {p p' : PaymentsProcess} {action : PollerAction}
    (inv : PhaseInvariant cfg p) (moved : Move cfg p action p')
    : PhaseInvariant cfg p' := by
  cases moved with
  | busy clock polling => exact inv
  | begun clock up idle =>
      have crossing := pollRails_crossing cfg clock p cfg.rails.rows
      have free : p.crossing.drain = none := by
        have drained := inv.draining
        rw [idle] at drained
        simpa using drained
      refine ⟨fun _ => ?_, ?_, ?_, ?_⟩
      · rw [crossing]
        exact up
      · simp only [crossing, writes, free]
        simp
      · rintro polls ⟨⟩
        exact pollRails_rails cfg clock p cfg.rails.rows
      · rintro polls rail watch ⟨⟩ suspended
        exact pollRails_watched suspended
  | @answered polls rail watch answer now polling found =>
      have crossing := answered_crossing cfg p rail answer now
      have up := inv.up (by simp [polling])
      have free : p.crossing.drain = none := by
        have drained := inv.draining
        rw [polling] at drained
        simpa using drained
      have polled := inv.polls polls polling
      have known : rail ∈ cfg.rails.rows := polled ▸ List.mem_map_of_mem found
      refine ⟨fun _ => ?_, ?_, ?_, ?_⟩
      · rw [crossing]
        exact up
      · simp only [crossing, writes, free]
        simp
      · rintro _ ⟨⟩
        exact settledPolls_rails polled known
      · rintro _ other watch' ⟨⟩ suspended
        obtain ⟨poll, member, same⟩ := List.mem_map.mp suspended
        split at same
        · cases same
        · subst same
          exact inv.watched polls other watch' polling member
  | listed now polling settled up free =>
      exact ⟨fun _ => up, by simp, (fun _ polling => by cases polling),
        (fun _ _ _ polling => by cases polling)⟩
  | crossed seen c taken wired unwritten payments up drain =>
      refine ⟨fun busy => up.trans (inv.up busy), ?_, inv.polls, inv.watched⟩
      simp only [drain]
      exact inv.draining
  | bought order maxOpen up => exact ⟨inv.up, inv.draining, inv.polls, inv.watched⟩
  | acked answer applied draining drain taken bound =>
      exact ⟨fun _ => inv.up (by simp [draining]), by simp, (fun _ polling => by cases polling),
        (fun _ _ _ polling => by cases polling)⟩
  | ended seen now blocked draining taken wired unwritten =>
      exact ⟨fun busy => (busy rfl).elim, by simp [endTick], (fun _ polling => by cases polling),
        (fun _ _ _ polling => by cases polling)⟩
  | cutInTick clock committed up idle => exact .idle rfl
  | cutInAnswer inbounds now committed polling found => exact .idle rfl
  | crashed up => exact .idle rfl
  | restarted down =>
      refine .idle ?_
      by_contra busy
      obtain ⟨delivered, alreadyApplied, draining⟩ :=
        inv.draining.mp (Option.isSome_iff_ne_none.mpr busy)
      have up := inv.up (by simp [draining])
      rw [down] at up
      cases up

end PaymentsProcess

end Nullsink.Payments
