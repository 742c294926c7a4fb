import Nullsink.Lib.Latch
import Nullsink.Proxy.Handler

/-! The settlement of a streamed 2xx response: the terminal causes that race for it, the policy
table that turns the first of them into a billing decision, and `settle` with its retries.
-/

namespace Nullsink.Proxy

open Ecma Latch

inductive StreamTerminalCause where
  | complete
  | upstreamError
  | upstreamTimeout
  | clientCancel
  | deadline
  | shutdownDrain
  deriving DecidableEq

/-- A billing decision; `servedPartial` is the outcome `partial`. -/
inductive StreamSettlementDecision where
  | served (cost : Number)
  | servedPartial (cost : Number)
  | upstreamPartial (cost : Number) (evidence : UsageEvidence)
  | upstreamAborted
  | shutdownAborted
  | unmeteredComplete
  deriving DecidableEq

/-- `cost` of a decision, 0 where nothing is billed. -/
def StreamSettlementDecision.cost : StreamSettlementDecision → Number
  | served cost => cost
  | servedPartial cost => cost
  | upstreamPartial cost _ => cost
  | upstreamAborted => .ofInt 0
  | shutdownAborted => .ofInt 0
  | unmeteredComplete => .ofInt 0

/-- The outcomes of a stream that ended by itself. -/
def StreamSettlementDecision.Complete : StreamSettlementDecision → Prop
  | served _ => True
  | unmeteredComplete => True
  | _ => False

/-- What `decideStreamSettlement` takes. -/
structure StreamEnd where
  cause : StreamTerminalCause
  metered : Option Metered
  upstreamErrored : Bool
  inputTokens : Number
  requestModel : String

/-- Whether the upstream is why the stream ended. -/
def StreamTerminalCause.upstreamFailed (cause : StreamTerminalCause) (upstreamErrored : Bool)
    : Bool :=
  cause = .upstreamError ∨ cause = .upstreamTimeout ∨ upstreamErrored

/-- The policy table of a stream's terminal state. None is the throw of `priceUsage`. -/
def decideStreamSettlement (fp : Rounding) (book : PriceBook) (input : StreamEnd)
    : Option StreamSettlementDecision :=
  let upstreamFailed := input.cause.upstreamFailed input.upstreamErrored
  match input.metered with
  | some metered =>
      (priceUsage fp book metered.model metered.usage input.requestModel).map
        (fun cost =>
          if upstreamFailed then .upstreamPartial cost metered.evidence
          else if input.cause = .complete then .served cost
          else .servedPartial cost)
  | none =>
      if upstreamFailed then some .upstreamAborted
      else if input.cause = .clientCancel ∨ input.cause = .deadline then
        (priceUsage fp book (.string input.requestModel) (inputFloorUsage input.inputTokens)
          input.requestModel).map
          .servedPartial
      else if input.cause = .shutdownDrain then some .shutdownAborted
      else some .unmeteredComplete

/-- The causes that the proxy marks before it cancels the upstream. -/
inductive RequestedCause where
  | clientCancel
  | deadline
  | shutdownDrain

def RequestedCause.terminal : RequestedCause → StreamTerminalCause
  | clientCancel => .clientCancel
  | deadline => .deadline
  | shutdownDrain => .shutdownDrain

/-- The argument of `settle`. -/
inductive SettleReason where
  | cause (cause : StreamTerminalCause)
  | drain

def SettleReason.terminalCause : SettleReason → StreamTerminalCause
  | .cause terminal => terminal
  | .drain => .shutdownDrain

/-- How far a settlement attempt is: at its ledger call, past `billActual`, or over. -/
inductive SettlementPhase where
  | calling (debit : Number)
  | billed (result : Billed)
  | completed (charged : Number)
  | rejected

/-- A settlement attempt, with the decision and the cause that its closure captured. -/
structure SettlementAttempt where
  decision : StreamSettlementDecision
  terminalCause : StreamTerminalCause
  phase : SettlementPhase

/-- The counters of a completed attempt. -/
def SettlementAttempt.counters (attempt : SettlementAttempt) (charged : Number) : List Counter :=
  let timedOut : List Counter :=
    if attempt.terminalCause = .upstreamTimeout then [.failure .streamTimeout (.ofInt 0)] else []
  match attempt.decision with
  | .served _ => [.served]
  | .servedPartial _ => [.servedPartial]
  | .upstreamPartial _ .reported =>
      .servedPartial :: timedOut ++ [.failure .streamReported charged]
  | .upstreamPartial _ .estimated =>
      .servedPartial :: timedOut ++ [.failure .streamEstimated charged]
  | .shutdownAborted => [.streamAborted]
  | .upstreamAborted => timedOut ++ [.failure .streamRefunded (.ofInt 0), .streamAborted]
  | .unmeteredComplete => [.bill .refundedInFull]

/-- What happens to a live stream. The reader and the client side come first, then the two
callers that need neither, and last the promises of an attempt.
-/
inductive StreamEvent where
  | chunk (text : String)
  | eof
  | readError (timedOut : Bool)
  | clientCancel
  | cancelSettles
  | deadline
  | drain
  | ledgerAnswer (attempt : ℕ) (answer : Answer Bool)
  | resume (attempt : ℕ)

/-- What the closures of one stream share. `inflight` is whether the shutdown registry holds its
`settle`.
-/
structure StreamState (scanner : UsageScanner) where
  scan : scanner.State
  requestedCause : Option RequestedCause
  settlementDecision : Option StreamSettlementDecision
  settlementCause : Option StreamTerminalCause
  attempts : Attempts SettlementAttempt
  billing : Billing
  inflight : Bool

/-- `requestedCause ?? cause`. -/
def StreamState.requestedOr {scanner : UsageScanner} (state : StreamState scanner)
    (cause : StreamTerminalCause)
    : StreamTerminalCause :=
  (state.requestedCause.map RequestedCause.terminal).getD cause

/-- What `settle` hands to the policy table, for any scanner and state of it. -/
def UsageScanner.streamEnd (scanner : UsageScanner) (ctx : ScannerCtx) (scan : scanner.State)
    (cause : StreamTerminalCause)
    : StreamEnd :=
  let upstreamErrored := scanner.errored scan
  let evidencedOnly := cause.upstreamFailed upstreamErrored ∨ cause = .shutdownDrain
  {
    cause
    metered := scanner.result scan evidencedOnly
    upstreamErrored
    inputTokens := ctx.inputTokens
    requestModel := ctx.model
  }

section Machine

variable {book : PriceBook} (js : Runtime) (held : Held book)

/-- What a scanner is told of a held request. -/
def Held.ctx : ScannerCtx := ⟨held.model, held.billableInputTokens⟩

/-- The usage scanner of a held request. -/
def Held.scanner : UsageScanner := held.provider.makeScanner held.ctx

variable {held}

/-- A registered stream, after what its request has already done. -/
def StreamState.start (held : Held book) (opened : List Effect) : StreamState held.scanner where
  scan := held.scanner.start
  requestedCause := none
  settlementDecision := none
  settlementCause := none
  attempts := .empty
  billing := ⟨none, opened⟩
  inflight := true

namespace StreamState

/-- What a cause that calls `settle` hands to the policy table. -/
def settlementInput (state : StreamState held.scanner) (cause : StreamTerminalCause)
    : StreamEnd :=
  held.scanner.streamEnd held.ctx state.scan cause

/-- The first terminal cause fixes the decision; a drain also marks itself. -/
def fixDecision (state : StreamState held.scanner) (reason : SettleReason)
    : StreamState held.scanner :=
  match state.settlementDecision with
  | some _ => state
  | none =>
      {
        state with
        settlementCause := some reason.terminalCause
        requestedCause :=
          match reason with
          | .drain => some .shutdownDrain
          | .cause _ => state.requestedCause
        settlementDecision :=
          decideStreamSettlement js.fp book (state.settlementInput reason.terminalCause)
      }

/-- A settlement attempt, up to its ledger call. -/
def startAttempt (state : StreamState held.scanner) : StreamState held.scanner :=
  match state.settlementDecision, state.settlementCause with
  | some decision, some terminalCause =>
      match billCall held state.billing decision.cost with
      | (.calling debit, billing) =>
          {
            state with
            attempts := state.attempts.start ⟨decision, terminalCause, .calling debit⟩
            billing
          }
      | (.ended billed, billing) =>
          {
            state with
            attempts := state.attempts.start ⟨decision, terminalCause, .billed billed⟩
            billing
          }
  | _, _ => state

/-- `settle`: join the attempt that holds the latch, or make one. -/
def settle (state : StreamState held.scanner) (reason : SettleReason)
    : StreamState held.scanner :=
  match state.attempts.latch with
  | some _ => state
  | none => (state.fixDecision js reason).startAttempt

/-- The ledger's answer to the call of an attempt. -/
def answered (state : StreamState held.scanner) (i : ℕ) (answer : Answer Bool)
    : StreamState held.scanner :=
  match state.attempts.made[i]? with
  | some ⟨decision, terminalCause, .calling debit⟩ =>
      let (billed, billing) := billAnswered state.billing debit answer
      {
        state with
        attempts := state.attempts.advance i ⟨decision, terminalCause, .billed billed⟩
        billing
      }
  | _ => state

/-- An attempt goes on after `billActual`: it counts its outcome and leaves the registry, or its
`catch` clears the latch.
-/
def resume (state : StreamState held.scanner) (i : ℕ) : StreamState held.scanner :=
  match state.attempts.made[i]? with
  | some ⟨decision, terminalCause, .billed (.charged charged)⟩ =>
      let attempt : SettlementAttempt := ⟨decision, terminalCause, .completed charged⟩
      {
        state with
        attempts := state.attempts.advance i attempt
        billing := (attempt.counters charged).foldl Billing.count state.billing
        inflight := false
      }
  | some ⟨decision, terminalCause, .billed _⟩ =>
      { state with attempts := state.attempts.giveUp i ⟨decision, terminalCause, .rejected⟩ }
  | _ => state

/-- One event. A chunk whose `feed` throws ends its `pull` and settles nothing. -/
def step (state : StreamState held.scanner) (event : StreamEvent) : StreamState held.scanner :=
  match event with
  | .chunk text => { state with scan := (held.scanner.feed state.scan text).1 }
  | .eof => state.settle js (.cause (state.requestedOr .complete))
  | .readError timedOut =>
      state.settle js
        (.cause (state.requestedOr (if timedOut then .upstreamTimeout else .upstreamError)))
  | .clientCancel => { state with requestedCause := some .clientCancel }
  | .cancelSettles => state.settle js (.cause .clientCancel)
  | .deadline =>
      { state with requestedCause := some .deadline }.settle js (.cause .deadline)
  | .drain => state.settle js .drain
  | .ledgerAnswer i answer => state.answered i answer
  | .resume i => state.resume i

end StreamState

/-- The events of a stream, in any order, from its registration. -/
def streamRun (held : Held book) (opened : List Effect) (events : List StreamEvent)
    : StreamState held.scanner :=
  events.foldl (StreamState.step js) (.start held opened)

end Machine

end Nullsink.Proxy
