import Nullsink.Service.ProxyProcess

/-! What an action of the proxy process does, and that every run of `handleMetered` stays in step
with the network: what it has been told is what the ledger's log confirms.
-/

namespace Nullsink.Metering.Network

open Ledger

-----------------------------------------------------------------------------------------
-- What a client has returned
-----------------------------------------------------------------------------------------

theorem issued_issue (n : Network) (sessionId : String) (op : ClientOp) (bytes : ℕ)
    : (n.issue sessionId op bytes).Issued n.calls.length sessionId op :=
  ⟨⟨sessionId, op, bytes, 1, .awaiting⟩, by simp [issue], rfl, rfl⟩

theorem extends_issue (n : Network) (sessionId : String) (op : ClientOp) (bytes : ℕ)
    : n.Extends (n.issue sessionId op bytes) :=
  .issued n sessionId op bytes

/-- What a client has returned, the log confirms. -/
theorem confirms_returned {start : BalanceStore} {n : Network} (inv : NetworkInvariant start n)
    {call : ℕ} {sessionId : String} {op : ClientOp} (issued : n.Issued call sessionId op)
    {value : ClientReturn} (answered : n.returned call = some value)
    : Confirms n.history sessionId op value := by
  obtain ⟨found, stored, rfl, rfl⟩ := issued
  unfold returned at answered
  rw [stored] at answered
  split at answered
  · rename_i state
    cases answered
    exact inv.returns call found value stored (Option.some.inj state)
  · cases answered

theorem returned_hold {n : Network} {call : ℕ} {opened : Bool}
    (answered : n.holdAnswer call = some opened)
    : n.returned call = some (.hold opened) := by
  unfold holdAnswer at answered
  split at answered
  · rename_i found
    rw [found, Option.some.inj answered]
  · cases answered

theorem returned_settlement {n : Network} {call : ℕ} {settled : Bool}
    (answered : n.settlementAnswer call = some settled)
    : n.returned call = some (.settlement settled) := by
  unfold settlementAnswer at answered
  split at answered
  · rename_i found
    rw [found, Option.some.inj answered]
  · cases answered

end Nullsink.Metering.Network

namespace Nullsink.Proxy

open Ecma Ledger Metering Transition

variable {book : PriceBook} {js : Runtime} {settings : HandlerSettings}

-----------------------------------------------------------------------------------------
-- The moves
-----------------------------------------------------------------------------------------

/-- Everything an action can do to the proxy process. -/
inductive ProxyMove (js : Runtime) (settings : HandlerSettings) (p : ProxyProcess book)
    : ProxyProcess book → Prop
  | booted (sessionId : String) (bytes : ℕ)
    (fresh : ∀ call ∈ p.network.calls, call.sessionId ≠ sessionId)
    : ProxyMove js settings p
        {
          p with
          network := p.network.issue sessionId .startSession bytes
          session := some (sessionId, p.network.calls.length)
        }
  | arrived (sessionId : String) {candidates req env hash micros holdId} (bytes : ℕ)
    (asked : openCall js settings candidates req env = some (hash, micros, holdId))
    (fresh : ∀ h ∈ p.handlings, h.holdId ≠ holdId)
    : ProxyMove js settings p
        {
          p with
          network := p.network.issue sessionId (.openHold hash micros holdId) bytes
          handlings := p.handlings ++
            [⟨sessionId, candidates, req, env, hash, micros, holdId,
              .opening p.network.calls.length⟩]
        }
  | granted {run h call held answer} (found : p.handlings[run]? = some h)
    (phase : h.phase = .opening call) (answered : p.network.holdAnswer call = some answer)
    (told : h.env.ledger.openHold h.hash h.micros h.holdId = .resolved answer)
    (reserved : reserve js settings h.candidates h.req h.env = .ok held)
    : ProxyMove js settings p (p.goOn run h (.held held))
  | refused {run h call} (found : p.handlings[run]? = some h) (phase : h.phase = .opening call)
    : ProxyMove js settings p (p.goOn run h .refused)
  | streamed {run h held effects} (found : p.handlings[run]? = some h)
    (phase : h.phase = .held held) (unbilled : Unbilled effects)
    : ProxyMove js settings p (p.goOn run h (.streaming held (.start held effects) []))
  | called {run h held} (bytes : ℕ) (found : p.handlings[run]? = some h)
    (phase : h.phase = .held held)
    : ProxyMove js settings p
        (p.call run h (.settleHold held.holdId (held.settleCharge js h.env)) bytes
          (.settling held))
  | concluded {run h held call answer} (found : p.handlings[run]? = some h)
    (phase : h.phase = .settling held call)
    (answered : p.network.settlementAnswer call = some answer)
    : ProxyMove js settings p (p.goOn run h (.settled held answer))
  | fed {run h held state calls} (event : StreamEvent) (found : p.handlings[run]? = some h)
    (phase : h.phase = .streaming held state calls) (told : event.told p.network calls)
    (quiet : newCall state (state.step js event) = none)
    : ProxyMove js settings p (p.goOn run h (.streaming held (state.step js event) calls))
  | attempted {run h held state calls debit} (event : StreamEvent) (bytes : ℕ)
    (found : p.handlings[run]? = some h) (phase : h.phase = .streaming held state calls)
    (told : event.told p.network calls)
    (called : newCall state (state.step js event) = some debit)
    : ProxyMove js settings p
        (p.call run h (.settleHold held.holdId debit) bytes
          (fun call =>
            .streaming held (state.step js event) ((state.attempts.made.length, call) :: calls)))
  | routed {action c} (acted : p.network.act action = some c)
    (unissued : ∀ sessionId op bytes, action ≠ .issue sessionId op bytes)
    : ProxyMove js settings p { p with network := c }
  | died : ProxyMove js settings p { p with session := none }

namespace ProxyProcess

theorem handling_found {p : ProxyProcess book} {run : ℕ} {h : Handling book}
    (living : p.handling? run = some h)
    : p.handlings[run]? = some h :=
  (Option.filter_eq_some_iff.mp living).1

/-- Every possible action is one of the moves. -/
theorem act_move {p p' : ProxyProcess book} {action : ProxyAction book}
    (acted : p.act js settings action = some p')
    : ProxyMove js settings p p' := by
  cases action with
  | boot sessionId bytes =>
      simp only [act, Option.ite_none_right_eq_some, Option.some.injEq] at acted
      obtain ⟨⟨_, fresh⟩, rfl⟩ := acted
      exact .booted sessionId bytes fresh
  | arrive candidates req env bytes =>
      simp only [act] at acted
      split at acted
      · rename_i sessionId begun hash micros holdId session asked
        simp only [Option.ite_none_right_eq_some, Option.some.injEq] at acted
        obtain ⟨⟨_, fresh⟩, rfl⟩ := acted
        exact .arrived sessionId bytes asked fresh
      · cases acted
  | opened run =>
      simp only [act] at acted
      split at acted
      · rename_i h living
        have found := handling_found living
        split at acted
        · rename_i call phase
          split at acted
          · rename_i answer answered
            simp only [Option.ite_none_right_eq_some] at acted
            obtain ⟨told, acted⟩ := acted
            split at acted
            · rename_i held reserved
              cases acted
              exact .granted found phase answered told reserved
            · cases acted
              exact .refused found phase
          · cases acted
        · cases acted
      · cases acted
  | serve run bytes =>
      simp only [act] at acted
      split at acted
      · rename_i h living
        have found := handling_found living
        split at acted
        · rename_i held phase
          have serves := serveHeld_serves js held h.env
          split at acted
          · rename_i streamed effects served
            rw [served] at serves
            cases acted
            cases serves with
            | streamed unbilled => exact .streamed found phase unbilled
            | settled called ends => exact (ends streamed rfl).elim
          · rename_i outcome effects unstreamed served
            rw [served] at serves
            cases serves with
            | streamed unbilled => exact (unstreamed held rfl).elim
            | settled called ends =>
                simp only [called] at acted
                cases acted
                exact .called bytes found phase
        · cases acted
      · cases acted
  | settled run =>
      simp only [act] at acted
      split at acted
      · rename_i h living
        have found := handling_found living
        split at acted
        · rename_i held call phase
          split at acted
          · rename_i answer answered
            simp only [Option.ite_none_right_eq_some, Option.some.injEq] at acted
            obtain ⟨_, rfl⟩ := acted
            exact .concluded found phase answered
          · cases acted
        · cases acted
      · cases acted
  | stream run event bytes =>
      simp only [act] at acted
      split at acted
      · rename_i h living
        have found := handling_found living
        split at acted
        · rename_i held state calls phase
          simp only [Option.ite_none_right_eq_some] at acted
          obtain ⟨told, acted⟩ := acted
          split at acted
          · rename_i quiet
            cases acted
            exact .fed event found phase told quiet
          · rename_i debit called
            cases acted
            exact .attempted event bytes found phase told called
        · cases acted
      · cases acted
  | network action =>
      simp only [act] at acted
      split at acted
      · cases acted
      · rename_i unissued
        obtain ⟨c, taken, rfl⟩ := Option.map_eq_some_iff.mp acted
        exact .routed taken unissued
  | die =>
      simp only [act, Option.ite_none_right_eq_some, Option.some.injEq] at acted
      obtain ⟨_, rfl⟩ := acted
      exact .died

end ProxyProcess

end Nullsink.Proxy
