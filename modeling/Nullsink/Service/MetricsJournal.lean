import Nullsink.Lib.Coercion
import Nullsink.Lib.Windows
import Nullsink.Proxy.Metrics

/-! The counters and peaks of a process, and the journal line that each window of them leaves.
-/

namespace Nullsink.Monitoring

open Ecma Proxy Windows

-----------------------------------------------------------------------------------------
-- Counters and peaks
-----------------------------------------------------------------------------------------

inductive RejectKind where
  | buy
  | read
  | orders
  deriving DecidableEq

inductive BalanceKind where
  | ok
  | unknown
  | throttled
  | error
  deriving DecidableEq

inductive CreditKind where
  | enqueued
  | acked
  | alreadyApplied
  | blocked
  deriving DecidableEq

/-- The counts and peaks of one window. -/
structure MetricsSnapshot extends Metrics where
  reject : RejectKind → ℕ
  balance : BalanceKind → ℕ
  credit : CreditKind → ℕ
  peakStreams : ℕ
  peakOpenOrders : ℕ
  peakOutbox : ℕ
  maxOutboxAgeMs : ℤ
  recoveredHolds : ℕ
  windowStart : ℤ

/-- One call of a recorder or an observer. The counters of the handler are recorded as it does. -/
inductive MetricEvent where
  | handled (counter : Counter)
  | reject (kind : RejectKind)
  | balance (kind : BalanceKind)
  | credit (kind : CreditKind) (count : ℕ)
  | observeStreams (n : ℕ)
  | observeOpenOrders (n : ℕ)
  | observeCreditOutbox (unackedCredits : ℕ) (oldestAgeMs : ℤ)
  | recoveredHolds (n : ℕ)

namespace MetricsSnapshot

/-- Starts a fresh window. -/
def reset (nowMs : ℤ) : MetricsSnapshot where
  toMetrics := .zero
  reject := fun _ => 0
  balance := fun _ => 0
  credit := fun _ => 0
  peakStreams := 0
  peakOpenOrders := 0
  peakOutbox := 0
  maxOutboxAgeMs := 0
  recoveredHolds := 0
  windowStart := nowMs

variable (m : MetricsSnapshot)

def recordReject (kind : RejectKind) : MetricsSnapshot :=
  { m with reject := Function.update m.reject kind (m.reject kind + 1) }

def recordBalance (kind : BalanceKind) : MetricsSnapshot :=
  { m with balance := Function.update m.balance kind (m.balance kind + 1) }

def recordCredit (kind : CreditKind) (count : ℕ) : MetricsSnapshot :=
  { m with credit := Function.update m.credit kind (m.credit kind + count) }

def observeStreams (n : ℕ) : MetricsSnapshot :=
  if m.peakStreams < n then { m with peakStreams := n } else m

def observeOpenOrders (n : ℕ) : MetricsSnapshot :=
  if m.peakOpenOrders < n then { m with peakOpenOrders := n } else m

def observeCreditOutbox (unackedCredits : ℕ) (oldestAgeMs : ℤ) : MetricsSnapshot :=
  {
    m with
    peakOutbox := if m.peakOutbox < unackedCredits then unackedCredits else m.peakOutbox
    maxOutboxAgeMs := if m.maxOutboxAgeMs < oldestAgeMs then oldestAgeMs else m.maxOutboxAgeMs
  }

def recordRecoveredHolds (n : ℕ) : MetricsSnapshot :=
  { m with recoveredHolds := m.recoveredHolds + n }

def record : MetricEvent → MetricsSnapshot
  | .handled counter => { m with toMetrics := m.toMetrics.record .binary64 counter }
  | .reject kind => m.recordReject kind
  | .balance kind => m.recordBalance kind
  | .credit kind count => m.recordCredit kind count
  | .observeStreams n => m.observeStreams n
  | .observeOpenOrders n => m.observeOpenOrders n
  | .observeCreditOutbox unackedCredits oldestAgeMs =>
      m.observeCreditOutbox unackedCredits oldestAgeMs
  | .recoveredHolds n => m.recordRecoveredHolds n

end MetricsSnapshot

-----------------------------------------------------------------------------------------
-- Labels
-----------------------------------------------------------------------------------------

/-- A counter that adds up. -/
inductive Tally where
  | bill (kind : BillKind)
  | upstream (kind : UpstreamKind)
  | reject (kind : RejectKind)
  | balance (kind : BalanceKind)
  | credit (kind : CreditKind)
  | served
  | requests
  | servedPartial
  | streamAborted
  | failure (kind : FailureKind)
  | gate (kind : GateKind)
  | recoveredHolds
  deriving DecidableEq

/-- A high-water mark. -/
inductive Peak where
  | streams
  | openOrders
  | outbox
  | outboxAge
  deriving DecidableEq

/-- What one part of the line is about: a count, the micros of a charged failure, or a peak. -/
inductive Row where
  | tally (counted : Tally)
  | micros (kind : FailureKind)
  | peak (mark : Peak)
  deriving DecidableEq

def Tally.label : Tally → String
  | .bill .refundedInFull => "bill:refunded"
  | .bill .holdExceeded => "bill:holdexceeded"
  | .upstream .throttle => "upstream:throttle"
  | .upstream .server => "upstream:5xx"
  | .upstream .auth => "upstream:auth"
  | .upstream .billing => "upstream:billing"
  | .upstream .timeout => "upstream:timeout"
  | .upstream .unreachable => "upstream:unreachable"
  | .upstream .other => "upstream:other"
  | .upstream .relayed4xx => "upstream:4xx"
  | .upstream .notfound => "upstream:notfound"
  | .reject .buy => "reject:buy"
  | .reject .read => "reject:read"
  | .reject .orders => "reject:orders"
  | .balance .error => "balance:error"
  | .balance .ok => "balance:ok"
  | .balance .unknown => "balance:unknown"
  | .balance .throttled => "balance:throttled"
  | .credit .blocked => "credit:blocked"
  | .credit .enqueued => "credit:enqueued"
  | .credit .acked => "credit:acked"
  | .credit .alreadyApplied => "credit:dedup"
  | .served => "served"
  | .requests => "req"
  | .servedPartial => "stream:partial"
  | .streamAborted => "stream:aborted"
  | .failure .streamTimeout => "failure:stream-timeout"
  | .failure .streamReported => "failure:stream-reported"
  | .failure .streamEstimated => "failure:stream-estimated"
  | .failure .streamRefunded => "failure:stream-refunded"
  | .failure .bufferedInputFloor => "failure:http-input-floor"
  | .gate .auth => "gate:auth"
  | .gate .request => "gate:request"
  | .gate .model => "gate:model"
  | .gate .premium => "gate:premium"
  | .gate .funds => "gate:funds"
  | .recoveredHolds => "recovered:holds"

def Peak.label : Peak → String
  | .streams => "peak:streams"
  | .openOrders => "peak:orders"
  | .outbox => "peak:outbox"
  | .outboxAge => "max:outbox-age-s"

def Row.label : Row → String
  | .tally counted => counted.label
  | .micros kind => (Tally.failure kind).label ++ "-microusd"
  | .peak mark => mark.label

/-- The parts that make a line a warning, in the order of the line. -/
def problemRows : List Row :=
  [.tally (.bill .refundedInFull), .tally (.bill .holdExceeded), .tally (.upstream .throttle),
    .tally (.upstream .server), .tally (.upstream .auth), .tally (.upstream .billing),
    .tally (.upstream .timeout), .tally (.upstream .unreachable), .tally (.upstream .other),
    .tally (.reject .buy), .tally (.reject .read), .tally (.reject .orders),
    .tally (.balance .error), .tally (.credit .blocked)]

/-- The other parts, in the order of the line. -/
def routineRows : List Row :=
  [.tally .served, .tally .requests, .tally .servedPartial, .tally .streamAborted,
    .tally (.failure .streamTimeout),
    .tally (.failure .streamReported), .micros .streamReported,
    .tally (.failure .streamEstimated), .micros .streamEstimated,
    .tally (.failure .streamRefunded),
    .tally (.failure .bufferedInputFloor), .micros .bufferedInputFloor,
    .tally (.upstream .relayed4xx), .tally (.upstream .notfound),
    .tally (.gate .auth), .tally (.gate .request), .tally (.gate .model), .tally (.gate .premium),
    .tally (.gate .funds),
    .tally (.balance .ok), .tally (.balance .unknown), .tally (.balance .throttled),
    .tally (.credit .enqueued), .tally (.credit .acked), .tally (.credit .alreadyApplied),
    .peak .streams, .peak .openOrders, .peak .outbox, .peak .outboxAge, .tally .recoveredHolds]

def rows : List Row := problemRows ++ routineRows

/-- Every part has a label of its own. -/
theorem labels_nodup : (rows.map Row.label).Nodup := by decide +kernel

-----------------------------------------------------------------------------------------
-- Lines
-----------------------------------------------------------------------------------------

/-- `Math.ceil(ageMs / 1000)`. -/
def ageSeconds (ageMs : ℤ) : ℤ := ⌈Binary64.round (ageMs / 1000)⌉

namespace MetricsSnapshot

variable (m : MetricsSnapshot)

def tally : Tally → ℕ
  | .bill kind => m.bill kind
  | .upstream kind => m.upstream kind
  | .reject kind => m.reject kind
  | .balance kind => m.balance kind
  | .credit kind => m.credit kind
  | .served => m.served
  | .requests => m.requests
  | .servedPartial => m.servedPartial
  | .streamAborted => m.streamAborted
  | .failure kind => (m.failure kind).count
  | .gate kind => m.gate kind
  | .recoveredHolds => m.recoveredHolds

def peak : Peak → ℤ
  | .streams => m.peakStreams
  | .openOrders => m.peakOpenOrders
  | .outbox => m.peakOutbox
  | .outboxAge => m.maxOutboxAgeMs

/-- Whether a part is pushed. The clean bills go with the requests, whatever their own number is. -/
def shows : Row → Bool
  | .tally .served => m.requests ≠ 0
  | .tally counted => m.tally counted ≠ 0
  | .micros kind => (m.failure kind).count ≠ 0
  | .peak mark => m.peak mark ≠ 0

/-- The value a part is pushed with. -/
def value : Row → Number
  | .tally counted => .ofInt (m.tally counted)
  | .micros kind => (m.failure kind).micros
  | .peak .outboxAge => .ofInt (ageSeconds m.maxOutboxAgeMs)
  | .peak mark => .ofInt (m.peak mark)

/-- The parts that are pushed, with their values. -/
def parts (rows : List Row) : List (String × Number) :=
  (rows.filter m.shows).map (fun row => (row.label, m.value row))

end MetricsSnapshot

inductive Level where
  | warn
  | info
  deriving DecidableEq

/-- A journal line, before it is written out. -/
structure Line where
  level : Level
  parts : List (String × Number)
  minutes : ℤ

/-- The line as `log[level]` gets it. -/
def Line.text (decimals : Decimals) (line : Line) : String :=
  " ".intercalate (line.parts.map (fun part => part.1 ++ "=" ++ decimals.write part.2))
    ++ " (last " ++ decimals.write (.ofInt line.minutes) ++ "m)"

/-- The age of a window in whole minutes, one at least. -/
def MetricsSnapshot.minutes (m : MetricsSnapshot) (nowMs : ℤ) : ℤ :=
  max 1 (Binary64.mathRound (Binary64.round ((nowMs - m.windowStart) / 60000)))

/-- The line of a window, or none where nothing happened in it. -/
def formatMetricsLine (m : MetricsSnapshot) (nowMs : ℤ) : Option Line :=
  let problems := m.parts problemRows
  let routine := m.parts routineRows
  if problems ≠ [] then some ⟨.warn, problems ++ routine, m.minutes nowMs⟩
  else if routine ≠ [] then some ⟨.info, routine, m.minutes nowMs⟩
  else none

/-- A line has the parts of both kinds, and its level says whether there is a problem. -/
theorem formatMetricsLine_eq (m : MetricsSnapshot) (nowMs : ℤ)
    : formatMetricsLine m nowMs
      = if m.parts rows = [] then none
        else
          some
            ⟨if m.parts problemRows = [] then .info else .warn, m.parts rows, m.minutes nowMs⟩ := by
  have split : m.parts rows = m.parts problemRows ++ m.parts routineRows := by
    simp [MetricsSnapshot.parts, rows]
  rw [split]
  by_cases problems : m.parts problemRows = []
  · by_cases routine : m.parts routineRows = [] <;> simp [formatMetricsLine, problems, routine]
  · simp [formatMetricsLine, problems]

/-- The two readings of the clock in a flush. -/
structure FlushClock where
  formattedAt : ℤ
  resetAt : ℤ

/-- What a flush logs, and the window it starts. -/
def flushMetrics (m : MetricsSnapshot) (clock : FlushClock) : Option Line × MetricsSnapshot :=
  (formatMetricsLine m clock.formattedAt, .reset clock.resetAt)

/-- The counters of a process, flushed now and then. -/
def recorder : Recorder MetricsSnapshot MetricEvent FlushClock (Option Line) where
  record := MetricsSnapshot.record
  flush := flushMetrics

/-- What the flushes of a process log, from its boot on. -/
def journal (bootMs : ℤ) (entries : List (Entry MetricEvent FlushClock)) : List (Option Line) :=
  recorder.reports (.reset bootMs) entries

end Nullsink.Monitoring
