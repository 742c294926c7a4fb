import Nullsink.Proxy.StreamInvariant

/-! The counters of `metrics.ts` that the metered path increments, and what a request's billing
leaves on them.
-/

namespace Nullsink.Proxy

open Ecma

/-- A failure counter and the micros charged under it. -/
structure ChargedFailure where
  count : ℕ
  micros : Number

/-- The counters of one window. -/
structure Metrics where
  gate : GateKind → ℕ
  requests : ℕ
  served : ℕ
  servedPartial : ℕ
  streamAborted : ℕ
  bill : BillKind → ℕ
  upstream : UpstreamKind → ℕ
  failure : FailureKind → ChargedFailure

/-- The failures that are only counted. -/
def FailureKind.countOnly : FailureKind → Bool
  | streamRefunded => true
  | streamTimeout => true
  | _ => false

namespace Metrics

/-- A fresh window. -/
def zero : Metrics where
  gate := fun _ => 0
  requests := 0
  served := 0
  servedPartial := 0
  streamAborted := 0
  bill := fun _ => 0
  upstream := fun _ => 0
  failure := fun _ => ⟨0, .ofInt 0⟩

section Record

variable (metrics : Metrics)

def recordGate (kind : GateKind) : Metrics :=
  { metrics with gate := Function.update metrics.gate kind (metrics.gate kind + 1) }

def recordRequest : Metrics := { metrics with requests := metrics.requests + 1 }

def recordServed : Metrics := { metrics with served := metrics.served + 1 }

def recordServedPartial : Metrics := { metrics with servedPartial := metrics.servedPartial + 1 }

def recordStreamAborted : Metrics := { metrics with streamAborted := metrics.streamAborted + 1 }

def recordBill (kind : BillKind) : Metrics :=
  { metrics with bill := Function.update metrics.bill kind (metrics.bill kind + 1) }

def recordUpstream (kind : UpstreamKind) : Metrics :=
  { metrics with upstream := Function.update metrics.upstream kind (metrics.upstream kind + 1) }

def recordFailure (fp : Rounding) (kind : FailureKind) (micros : Number) : Metrics :=
  let before := metrics.failure kind
  let total :=
    if kind.countOnly then before.micros
    else before.micros.add fp (Number.max (.ofInt 0) micros)
  { metrics with failure := Function.update metrics.failure kind ⟨before.count + 1, total⟩ }

/-- The increment of one counter. -/
def record (fp : Rounding) : Counter → Metrics
  | .gate kind => metrics.recordGate kind
  | .requests => metrics.recordRequest
  | .served => metrics.recordServed
  | .servedPartial => metrics.recordServedPartial
  | .streamAborted => metrics.recordStreamAborted
  | .bill kind => metrics.recordBill kind
  | .upstream kind => metrics.recordUpstream kind
  | .failure kind micros => metrics.recordFailure fp kind micros

/-- `Σ upstream.*`. -/
def upstreamTotal : ℕ :=
  metrics.upstream .throttle + metrics.upstream .server + metrics.upstream .auth
    + metrics.upstream .billing + metrics.upstream .timeout + metrics.upstream .unreachable
    + metrics.upstream .relayed4xx + metrics.upstream .notfound + metrics.upstream .other

/-- The outcomes that the requests of a window reconcile with. -/
def outcomes : ℕ :=
  metrics.served + metrics.servedPartial + metrics.streamAborted + metrics.bill .refundedInFull
    + metrics.upstreamTotal

end Record

/-- Only its own counter adds to `requests`. -/
theorem record_requests (fp : Rounding) (metrics : Metrics) (counter : Counter)
    : (metrics.record fp counter).requests
      = metrics.requests + if counter = .requests then 1 else 0 := by
  cases counter <;> rfl

/-- One kind of upstream outcome adds one to their sum. -/
theorem recordUpstream_total (metrics : Metrics) (kind : UpstreamKind)
    : (metrics.recordUpstream kind).upstreamTotal = metrics.upstreamTotal + 1 := by
  cases kind <;> simp [recordUpstream, upstreamTotal] <;> omega

/-- Exactly the primary outcomes add to the outcomes. -/
theorem record_outcomes (fp : Rounding) (metrics : Metrics) (counter : Counter)
    : (metrics.record fp counter).outcomes
      = metrics.outcomes + if counter.primary then 1 else 0 := by
  cases counter with
  | gate kind => rfl
  | requests => rfl
  | failure kind micros => rfl
  | served =>
      simp [record, recordServed, outcomes, upstreamTotal, Counter.primary]
      omega
  | servedPartial =>
      simp [record, recordServedPartial, outcomes, upstreamTotal, Counter.primary]
      omega
  | streamAborted =>
      simp [record, recordStreamAborted, outcomes, upstreamTotal, Counter.primary]
      omega
  | bill kind =>
      cases kind with
      | holdExceeded => rfl
      | refundedInFull =>
          simp [record, recordBill, outcomes, upstreamTotal, Counter.primary]
          omega
  | upstream kind =>
      have total := metrics.recordUpstream_total kind
      calc (metrics.recordUpstream kind).outcomes
        _ = metrics.served + metrics.servedPartial + metrics.streamAborted
              + metrics.bill .refundedInFull + (metrics.recordUpstream kind).upstreamTotal := rfl
        _ = metrics.outcomes + 1 := by rw [total, outcomes]; omega

/-- The counters in the order in which they are incremented. -/
def recordAll (fp : Rounding) (metrics : Metrics) (log : List Counter) : Metrics :=
  log.foldl (fun metrics counter => metrics.record fp counter) metrics

/-- What each counter adds, a log of them adds up; by induction on the log. -/
theorem recordAll_count {fp : Rounding} {total : Metrics → ℕ} {adds : Counter → Bool}
    (step
      : ∀ metrics counter,
          total (record metrics fp counter) = total metrics + if adds counter then 1 else 0)
    (metrics : Metrics) (log : List Counter)
    : total (metrics.recordAll fp log) = total metrics + log.countP adds := by
  induction log generalizing metrics with
  | nil => rfl
  | cons counter rest ih =>
      have later := ih (metrics.record fp counter)
      rw [step] at later
      rw [recordAll, List.foldl_cons, ← recordAll, later, List.countP_cons]
      omega

end Metrics

def Effect.counter? : Effect → Option Counter
  | count counter => some counter
  | _ => none

/-- The counters that a trace increments, in order. -/
def counters (effects : List Effect) : List Counter := effects.filterMap Effect.counter?

/-- Those of them that the reconciliation is about. -/
def accounted (effects : List Effect) : List Counter :=
  (counters effects).filter (fun counter => !counter.annotates)

@[simp] theorem accounted_append (first later : List Effect)
    : accounted (first ++ later) = accounted first ++ accounted later := by
  simp [accounted, counters]

@[simp] theorem accounted_count (billing : Billing) (counter : Counter)
    : accounted (billing.count counter).effects
      = accounted billing.effects ++ if counter.annotates then [] else [counter] := by
  rw [Billing.count, Billing.emit, accounted_append]
  cases annotates : counter.annotates <;>
    simp [accounted, counters, Effect.counter?, annotates]

/-- An outcome is accounted for after the request that it ends. -/
theorem accounted_outcome {billing : Billing} {outcome : Counter}
    (forwarded : accounted billing.effects = [.requests]) (primary : outcome.primary)
    : accounted (billing.count outcome).effects = [.requests, outcome] := by
  rw [accounted_count, forwarded, Counter.annotates_of_primary primary]
  rfl

@[simp] theorem accounted_settleHold (billing : Billing) (holdId : String) (charge : Number)
    : accounted (billing.emit (.settleHold holdId charge)).effects
      = accounted billing.effects := by
  rw [Billing.emit, accounted_append]
  exact List.append_nil _

@[simp] theorem accounted_upstreamFetch (billing : Billing) (path body : String)
    : accounted (billing.emit (.upstreamFetch path body)).effects
      = accounted billing.effects := by
  rw [Billing.emit, accounted_append]
  exact List.append_nil _

/-- Counters that are counted in order are accounted for in order; by induction on them. -/
theorem accounted_counters (billing : Billing) (counters : List Counter)
    : accounted (counters.foldl Billing.count billing).effects
      = accounted billing.effects ++ counters.filter (fun counter => !counter.annotates) := by
  induction counters generalizing billing with
  | nil => exact (List.append_nil _).symm
  | cons counter rest ih =>
      rw [List.foldl_cons, ih, accounted_count, List.append_assoc]
      cases annotates : counter.annotates <;> simp [annotates]

section Billing

variable {book : PriceBook} (held : Held book)

@[simp] theorem accounted_noteExcess (billing : Billing) (actual : Number)
    : accounted (noteExcess held billing actual).effects = accounted billing.effects := by
  unfold noteExcess
  split
  · rw [accounted_count]
    exact List.append_nil _
  · rfl

/-- A charge counts nothing but its anomaly. -/
@[simp] theorem accounted_billActual (ledger : LedgerAnswers) (billing : Billing) (actual : Number)
    : accounted (billActual held ledger billing actual).2.effects = accounted billing.effects := by
  cases charged : billing.completedCharge with
  | some charge =>
      rw [billActual, billCall_charged held actual charged]
      exact accounted_noteExcess held billing actual
  | none =>
      have kept (debit : Number) (answer : Answer Bool)
          : (billAnswered
              ((noteExcess held billing actual).emit (.settleHold held.holdId debit)) debit
              answer).2.effects
            = ((noteExcess held billing actual).emit (.settleHold held.holdId debit)).effects := by
        rcases answer with (_ | _) | _ <;> rfl
      rw [billActual, billCall_uncharged held actual charged]
      simp only [kept, accounted_settleHold, accounted_noteExcess]

end Billing

end Nullsink.Proxy
