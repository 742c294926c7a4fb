import Nullsink.Payments.Crossing
import Nullsink.Payments.Poll
import Nullsink.Payments.StatusHistory

/-! The payments process of `payments.ts`: the timer and its single-flight tick, the concurrent
polls of the rails, the drain at the tick's tail, buys at any time, deaths and restarts.

The tick holds `polling` from its first poll to the end of its drain. A rail without open orders is
polled at once; another suspends at its wallet query, and the queries answer in any order.
-/

namespace Nullsink.Payments

open Relational Transition Ecma Ledger

/-- What a poll reads of a `PayRail`. -/
structure PayRail where
  name : String
  scale : ℚ

structure PollerConfig where
  rails : Table PayRail.name
  orderTtlMs : ℤ
  reapGraceMs : ℤ
  orderBackstopMs : ℤ
  pollFailAlert : ℚ
  outboxAgeAlertMs : ℤ

/-- What a poll of a rail hands to `settle`. -/
def PollerConfig.settle (cfg : PollerConfig) (rail : PayRail) : SettleConfig where
  scale := rail.scale
  asset := rail.name
  rail := some rail.name
  backstopMs := cfg.orderBackstopMs
  unfundedReapMs := some (cfg.orderTtlMs + cfg.reapGraceMs)

/-- How far the poll of a rail is in the tick under way. -/
inductive RailPoll where
  | querying (watch : List ℤ)
  | settled
  deriving DecidableEq

/-- Where `pollOnce` is; `polling` is set in all phases but the first. -/
inductive PollPhase where
  | idle
  | polling (polls : List (PayRail × RailPoll))
  | draining (delivered alreadyApplied : ℕ)

/-- What the process logs of its polls and of its drains. -/
inductive JournalEntry where
  | pollBlind (rail : String) (fails : ℕ) (reason : String)
  | pollFailed (rail : String) (reason : String)
  | pollRecovered (rail : String) (prevFails : ℕ)
  | delivered (credits : ℕ)
  | unreachable (reason : String)
  | outboxStalled (ageMs : ℤ)

/-- The `credit` counters and the outbox peaks of `metrics.ts`. -/
structure CreditMetrics where
  enqueued : ℕ
  acked : ℕ
  alreadyApplied : ℕ
  blocked : ℕ
  peakOutbox : ℕ
  maxOutboxAgeMs : ℤ

def CreditMetrics.zero : CreditMetrics := ⟨0, 0, 0, 0, 0, 0⟩

def CreditMetrics.observeCreditOutbox (metrics : CreditMetrics) (unackedCredits : ℕ)
    (oldestAgeMs : ℤ)
    : CreditMetrics :=
  {
    metrics with
    peakOutbox := max metrics.peakOutbox unackedCredits
    maxOutboxAgeMs := max metrics.maxOutboxAgeMs oldestAgeMs
  }

/-- The process, with its wire and the ledger. `polled` and `inherited` are the proof's own memory:
the outcomes of the polls this process has finished, by rail, and the credits that waited at its
start.
-/
structure PaymentsProcess where
  crossing : Crossing
  byKey : ProgressMap
  pollFailsByRail : String → ℕ
  phase : PollPhase
  journal : List JournalEntry
  metrics : CreditMetrics
  polled : String → List Bool
  inherited : ℕ

inductive PollerAction where
  | tick (clock : String → ℤ)
  | walletAnswer (rail : String) (answer : Except String (List ReportedIncoming)) (now : ℤ)
  | drain (now : ℤ)
  | send
  | deliver (copy : ℕ) (nowMs : ℤ)
  | receive (answer : ℕ)
  | fail (reason : String)
  | drained
  | buy (order : PendingOrder) (maxOpen : ℤ)
  | dieInTick (clock : String → ℤ) (committed : ℕ)
  | dieInAnswer (rail : String) (inbounds : List ReportedIncoming) (now : ℤ) (committed : ℕ)
  | crash
  | restart
  | ledger (op : LedgerOp)

namespace OrdersStore

def unackedCreditCount (orders : OrdersStore) : ℕ :=
  orders.listUnackedCredits.length

def oldestUnackedCreditAt (orders : OrdersStore) : Option ℤ :=
  orders.listUnackedCredits.head?.map CreditOutboxRow.createdAt

/-- The age of the oldest unacked credit, 0 when the outbox is drained. -/
def oldestUnackedAgeMs (orders : OrdersStore) (now : ℤ) : ℤ :=
  match orders.oldestUnackedCreditAt with
  | none => 0
  | some at' => max 0 (now - at')

/-- The indices a poll of a rail asks its wallet for. -/
def watch (orders : OrdersStore) (rail : PayRail) : List ℤ :=
  (orders.openOrders rail.name).map PendingOrder.orderIndex

end OrdersStore

/-- The writes of one settled poll. -/
def pollWrites (cfg : PollerConfig) (rail : PayRail) (inbounds : List ReportedIncoming) (now : ℤ)
    (orders : OrdersStore)
    : List OrdersWrite :=
  settleWrites (StatusProcess.incomingOf inbounds) orders now (cfg.settle rail)

/-- The writes with which a tick begins: those of the rails that watch nothing. -/
def tickWrites (cfg : PollerConfig) (clock : String → ℤ) (orders : OrdersStore)
    : List PayRail → List OrdersWrite
  | [] => []
  | rail :: rest =>
      let writes :=
        if orders.watch rail = [] then pollWrites cfg rail [] (clock rail.name) orders else []
      writes ++ tickWrites cfg clock (writes.foldl OrdersStore.write orders) rest

namespace PaymentsProcess

def orders (p : PaymentsProcess) : OrdersStore := p.crossing.payments.orders

/-- A process at its start, with nothing in its memory. -/
def idle (crossing : Crossing) : PaymentsProcess where
  crossing
  byKey := .empty
  pollFailsByRail := fun _ => 0
  phase := .idle
  journal := []
  metrics := .zero
  polled := fun _ => []
  inherited := crossing.payments.orders.unackedCreditCount

/-- The store after writes of the process. -/
def writes (p : PaymentsProcess) (writes : List OrdersWrite) : PaymentsProcess :=
  { p with crossing := { p.crossing with payments := p.crossing.payments.writes writes } }

/-- One outcome of a rail's poll, counted and logged. -/
def record (cfg : PollerConfig) (p : PaymentsProcess) (rail : String)
    (answer : Except String (List ReportedIncoming))
    : PaymentsProcess :=
  let prevFails := p.pollFailsByRail rail
  let succeeded := answer.toOption.isSome
  let outcome := classifyPollOutcome prevFails succeeded cfg.pollFailAlert
  let entries : List JournalEntry :=
    match answer, outcome.event with
    | .error reason, some .blind => [.pollBlind rail outcome.fails reason]
    | .error reason, _ => [.pollFailed rail reason]
    | .ok _, some .recovered => [.pollRecovered rail prevFails]
    | .ok _, _ => []
  {
    p with
    pollFailsByRail := Function.update p.pollFailsByRail rail outcome.fails
    journal := p.journal ++ entries
    polled := Function.update p.polled rail (p.polled rail ++ [succeeded])
  }

/-- The rest of `pollRail` after its transfers are there: settle them and refresh the progress. -/
def settlePoll (cfg : PollerConfig) (p : PaymentsProcess) (rail : PayRail)
    (inbounds : List ReportedIncoming) (now : ℤ)
    : PaymentsProcess :=
  let enqueued := (settle (StatusProcess.incomingOf inbounds) p.orders now (cfg.settle rail)).2
  let settled := p.writes (pollWrites cfg rail inbounds now p.orders)
  {
    settled with
    metrics := { p.metrics with enqueued := p.metrics.enqueued + enqueued }
    byKey := p.byKey.update inbounds (settled.orders.watch rail) rail.name
  }

/-- `pollRail` from its wallet's answer on. -/
def answered (cfg : PollerConfig) (p : PaymentsProcess) (rail : PayRail)
    (answer : Except String (List ReportedIncoming)) (now : ℤ)
    : PaymentsProcess :=
  let recorded := p.record cfg rail.name answer
  match answer with
  | .ok inbounds => recorded.settlePoll cfg rail inbounds now
  | .error _ => recorded

/-- `pollRail` up to its first suspension. -/
def pollRail (cfg : PollerConfig) (clock : String → ℤ) (p : PaymentsProcess) (rail : PayRail)
    : PaymentsProcess × RailPoll :=
  let watch := p.orders.watch rail
  if watch = [] then (p.answered cfg rail (.ok []) (clock rail.name), .settled)
  else (p, .querying watch)

/-- `pollRail` of each rail in order, with how far each got. -/
def pollRails (cfg : PollerConfig) (clock : String → ℤ) (p : PaymentsProcess)
    : List PayRail → PaymentsProcess × List (PayRail × RailPoll)
  | [] => (p, [])
  | rail :: rest =>
      let (polled, poll) := p.pollRail cfg clock rail
      let (begun, polls) := polled.pollRails cfg clock rest
      (begun, (rail, poll) :: polls)

/-- The end of `pollOnce`: the drain's counters and the stall alarm. -/
def endTick (cfg : PollerConfig) (p : PaymentsProcess) (now : ℤ) (delivered alreadyApplied : ℕ)
    (blocked : Option String)
    : PaymentsProcess :=
  let age := p.orders.oldestUnackedAgeMs now
  {
    p with
    phase := .idle
    metrics :=
      {
        p.metrics with
        acked := p.metrics.acked + delivered
        alreadyApplied := p.metrics.alreadyApplied + alreadyApplied
        blocked := p.metrics.blocked + blocked.toList.length
      }
    journal := p.journal
      ++ (if delivered > 0 then [.delivered delivered] else [])
      ++ blocked.toList.map .unreachable
      ++ (if age > cfg.outboxAgeAlertMs then [.outboxStalled age] else [])
  }

/-- Nothing of the memory of a process outlives it. -/
def died (p : PaymentsProcess) : PaymentsProcess :=
  .idle { p.crossing with up := false, drain := none }

/-- One action, `none` where it is not possible. A timer that fires during a tick does nothing. -/
def act (cfg : PollerConfig) (p : PaymentsProcess) : PollerAction → Option PaymentsProcess
  | .tick clock =>
      if ¬p.crossing.up then none
      else
        match p.phase with
        | .idle =>
            let (begun, polls) := p.pollRails cfg clock cfg.rails.rows
            some { begun with phase := .polling polls }
        | _ => some p
  | .walletAnswer name answer now =>
      match p.phase with
      | .polling polls =>
          match polls.find? (fun poll => poll.1.name = name) with
          | some (rail, .querying _) =>
              some
                {
                  p.answered cfg rail answer now with
                  phase := .polling
                    (polls.map (fun poll => if poll.1.name = name then (rail, .settled) else poll))
                }
          | _ => none
      | _ => none
  | .drain now =>
      match p.phase with
      | .polling polls =>
          if polls.all (fun poll => poll.2 = .settled) then
            (p.crossing.act (.startDrain now)).map
              (fun crossing =>
                {
                  p with
                  crossing
                  phase := .draining 0 0
                  metrics := p.metrics.observeCreditOutbox p.orders.unackedCreditCount
                    (p.orders.oldestUnackedAgeMs now)
                })
          else none
      | _ => none
  | .send => (p.crossing.act .send).map (fun crossing => { p with crossing })
  | .deliver copy nowMs =>
      (p.crossing.act (.deliver copy nowMs)).map (fun crossing => { p with crossing })
  | .receive answer =>
      match p.phase, p.crossing.drain, p.crossing.answers[answer]?,
        p.crossing.act (.receive answer) with
      | .draining delivered alreadyApplied, some drain, some (_, response), some crossing =>
          match deliveryResult response with
          | .ambiguous reason =>
              some
                ({ p with crossing }.endTick cfg drain.now delivered alreadyApplied (some reason))
          | .alreadyApplied =>
              some { p with crossing, phase := .draining (delivered + 1) (alreadyApplied + 1) }
          | .applied => some { p with crossing, phase := .draining (delivered + 1) alreadyApplied }
      | _, _, _, _ => none
  | .fail reason =>
      match p.phase, p.crossing.drain, p.crossing.act .fail with
      | .draining delivered alreadyApplied, some drain, some crossing =>
          some ({ p with crossing }.endTick cfg drain.now delivered alreadyApplied (some reason))
      | _, _, _ => none
  | .drained =>
      match p.phase, p.crossing.drain, p.crossing.act .finish with
      | .draining delivered alreadyApplied, some drain, some crossing =>
          some ({ p with crossing }.endTick cfg drain.now delivered alreadyApplied none)
      | _, _, _ => none
  | .buy order maxOpen =>
      (p.crossing.act (.write (.tryAddOrder order maxOpen))).map
        (fun crossing => { p with crossing })
  | .dieInTick clock committed =>
      match p.crossing.up, p.phase with
      | true, .idle =>
          some (p.writes ((tickWrites cfg clock p.orders cfg.rails.rows).take committed)).died
      | _, _ => none
  | .dieInAnswer name inbounds now committed =>
      match p.phase with
      | .polling polls =>
          match polls.find? (fun poll => poll.1.name = name) with
          | some (rail, .querying _) =>
              some (p.writes ((pollWrites cfg rail inbounds now p.orders).take committed)).died
          | _ => none
      | _ => none
  | .crash => if p.crossing.up then some p.died else none
  | .restart => (p.crossing.act .restart).map PaymentsProcess.idle
  | .ledger op => (p.crossing.act (.ledger op)).map (fun crossing => { p with crossing })

end PaymentsProcess

end Nullsink.Payments
