import Nullsink.Metering.ExactlyOnce
import Nullsink.Proxy.LedgerCalls

/-! The proxy process of `proxy.ts`, over any network, with the ledger behind it. It boots a
session, and once the ledger has admitted that, any number of runs of `handleMetered` and their
streams make their ledger calls side by side. It may die at any time, and boots again under a fresh
session.
-/

namespace Nullsink.Proxy

open Ecma Ledger Metering

/-- Where a run of `handleMetered` is. A stream remembers, by attempt, the ledger call it waits for.
-/
inductive RunPhase (book : PriceBook) where
  | opening (call : ℕ)
  | refused
  | held (held : Held book)
  | settling (held : Held book) (call : ℕ)
  | settled (held : Held book) (confirmed : Bool)
  | streaming (held : Held book) (state : StreamState held.scanner) (calls : List (ℕ × ℕ))

/-- A run of `handleMetered` that has called `openHold`. Of what `env` answers, the ledger's part is
what its client returns as the run goes on.
-/
structure Handling (book : PriceBook) where
  sessionId : String
  candidates : List (Provider book)
  req : MeteredRequest
  env : Environment
  hash : String
  micros : Number
  holdId : String
  phase : RunPhase book

/-- The network with the ledger, the session of the live process with the call that started it, and
every run so far.
-/
structure ProxyProcess (book : PriceBook) where
  network : Network
  session : Option (String × ℕ)
  handlings : List (Handling book)

inductive ProxyAction (book : PriceBook) where
  | boot (sessionId : String) (bytes : ℕ)
  | arrive (candidates : List (Provider book)) (req : MeteredRequest) (env : Environment)
    (bytes : ℕ)
  | opened (run : ℕ)
  | serve (run bytes : ℕ)
  | settled (run : ℕ)
  | stream (run : ℕ) (event : StreamEvent) (bytes : ℕ)
  | network (action : NetworkAction)
  | die

end Nullsink.Proxy

namespace Nullsink.Metering.Network

open Ledger

/-- A further call, with its first copy sent. -/
def issue (n : Network) (sessionId : String) (op : ClientOp) (bytes : ℕ) : Network :=
  { n with calls := n.calls ++ [⟨sessionId, op, bytes, 1, .awaiting⟩] }

/-- What the client of a call has returned. -/
def returned (n : Network) (call : ℕ) : Option ClientReturn :=
  match (n.calls[call]?).map Call.state with
  | some (.done (.returned value)) => some value
  | _ => none

/-- What `openHold` has returned. -/
def holdAnswer (n : Network) (call : ℕ) : Option Bool :=
  match n.returned call with
  | some (.hold opened) => some opened
  | _ => none

/-- What `settleHold` has returned. -/
def settlementAnswer (n : Network) (call : ℕ) : Option Bool :=
  match n.returned call with
  | some (.settlement settled) => some settled
  | _ => none

/-- Whether the ledger has accepted the session of a call. -/
def admitted (n : Network) (call : ℕ) : Bool :=
  match n.returned call with
  | some (.session _ _ _) => true
  | _ => false

end Nullsink.Metering.Network

namespace Nullsink.Proxy

open Ecma Ledger Metering

/-- Whether an answer to an attempt is the one its call has returned; a mutation never rejects. -/
def StreamEvent.told (n : Network) (calls : List (ℕ × ℕ)) : StreamEvent → Bool
  | .ledgerAnswer attempt (.resolved answer) =>
      (calls.lookup attempt).bind n.settlementAnswer = some answer
  | .ledgerAnswer _ .rejected => false
  | _ => true

namespace ProxyProcess

variable {book : PriceBook} (js : Runtime) (settings : HandlerSettings)

/-- A proxy that has not booted. -/
def down (db : BalanceStore) : ProxyProcess book :=
  ⟨.quiet db, none, []⟩

/-- A run of the live process. -/
def handling? (p : ProxyProcess book) (run : ℕ) : Option (Handling book) :=
  (p.handlings[run]?).filter (fun h => (p.session.map Prod.fst) = some h.sessionId)

/-- A run goes on. -/
def goOn (p : ProxyProcess book) (run : ℕ) (h : Handling book) (phase : RunPhase book)
    : ProxyProcess book :=
  { p with handlings := p.handlings.set run { h with phase } }

/-- A run goes on with a ledger call. -/
def call (p : ProxyProcess book) (run : ℕ) (h : Handling book) (op : ClientOp) (bytes : ℕ)
    (phase : ℕ → RunPhase book)
    : ProxyProcess book :=
  {
    p.goOn run h (phase p.network.calls.length) with
    network := p.network.issue h.sessionId op bytes
  }

/-- One action, `none` where it is not possible. Requests are served once the ledger has admitted
the session; session ids and hold ids are fresh.
-/
def act (p : ProxyProcess book) : ProxyAction book → Option (ProxyProcess book)
  | .boot sessionId bytes =>
      if p.session = none ∧ ∀ call ∈ p.network.calls, call.sessionId ≠ sessionId then
        some
          {
            p with
            network := p.network.issue sessionId .startSession bytes
            session := some (sessionId, p.network.calls.length)
          }
      else none
  | .arrive candidates req env bytes =>
      match p.session, openCall js settings candidates req env with
      | some (sessionId, start), some (hash, micros, holdId) =>
          if p.network.admitted start ∧ ∀ h ∈ p.handlings, h.holdId ≠ holdId then
            some
              {
                p with
                network := p.network.issue sessionId (.openHold hash micros holdId) bytes
                handlings := p.handlings ++
                  [⟨sessionId, candidates, req, env, hash, micros, holdId,
                    .opening p.network.calls.length⟩]
              }
          else none
      | _, _ => none
  | .opened run =>
      match p.handling? run with
      | some h =>
          match h.phase with
          | .opening call =>
              match p.network.holdAnswer call with
              | some answer =>
                  if h.env.ledger.openHold h.hash h.micros h.holdId = .resolved answer then
                    match reserve js settings h.candidates h.req h.env with
                    | .ok held => some (p.goOn run h (.held held))
                    | .error _ => some (p.goOn run h .refused)
                  else none
              | none => none
          | _ => none
      | none => none
  | .serve run bytes =>
      match p.handling? run with
      | some h =>
          match h.phase with
          | .held held =>
              match serveHeld js held h.env with
              | (.streaming streamed, effects) =>
                  some (p.goOn run h (.streaming streamed (.start streamed effects) []))
              | (_, effects) =>
                  match settlements effects with
                  | (holdId, charge) :: _ =>
                      some (p.call run h (.settleHold holdId charge) bytes (.settling held))
                  | [] => none
          | _ => none
      | none => none
  | .settled run =>
      match p.handling? run with
      | some h =>
          match h.phase with
          | .settling held call =>
              match p.network.settlementAnswer call with
              | some answer =>
                  if h.env.ledger.settleHold 0 = .resolved answer then
                    some (p.goOn run h (.settled held answer))
                  else none
              | none => none
          | _ => none
      | none => none
  | .stream run event bytes =>
      match p.handling? run with
      | some h =>
          match h.phase with
          | .streaming held state calls =>
              if event.told p.network calls then
                let next := state.step js event
                match newCall state next with
                | none => some (p.goOn run h (.streaming held next calls))
                | some debit =>
                    some
                      (p.call run h (.settleHold held.holdId debit) bytes
                        (fun call =>
                          .streaming held next ((state.attempts.made.length, call) :: calls)))
              else none
          | _ => none
      | none => none
  | .network action =>
      match action with
      | .issue _ _ _ => none
      | _ => (p.network.act action).map (fun network => { p with network })
  | .die => if p.session.isSome then some { p with session := none } else none

/-- Actions in sequence. -/
def run? (p : ProxyProcess book) (actions : List (ProxyAction book)) : Option (ProxyProcess book) :=
  actions.foldlM (act js settings) p

end ProxyProcess

end Nullsink.Proxy
