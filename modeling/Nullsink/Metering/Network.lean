import Nullsink.Ledger.Exchange

/-! The metering protocol as a system: clients with calls in progress, the copies they have sent,
the answers on their way back, and the ledger behind its handler. A copy may be delivered any
number of times, at any time after it was sent and in any order; an answer may never be read.
-/

namespace Nullsink.Metering

open Ledger Ecma Transition

/-- One operation of one client: `attempts` copies of its request have been sent. -/
structure Call where
  sessionId : String
  op : ClientOp
  bytes : ℕ
  attempts : ℕ
  state : CallState
  deriving DecidableEq

/-- The request every attempt of a call sends. -/
def Call.request (call : Call) : Request :=
  call.op.request call.sessionId call.bytes

/-- A response on its way to the attempt whose copy produced it. -/
structure Answer where
  call : ℕ
  attempt : ℕ
  response : Response

/-- The ledger, every call ever issued, and every answer ever given. -/
structure Network where
  history : History
  calls : List Call
  answers : List Answer

inductive NetworkAction where
  | issue (sessionId : String) (op : ClientOp) (bytes : ℕ)
  | deliver (call attempt : ℕ) (nowMs : ℤ) (hookThrows : Bool)
  | receive (answer : ℕ)
  | lose (call : ℕ) (reason : String)
  | retry (call : ℕ)
  | giveUp (call : ℕ)
  | credit (hash : String) (micros : ℕ) (orderId : String) (nowMs : ℤ)

/-- The actions a client takes on its own: none of them speaks to the ledger or hears from it. -/
def NetworkAction.alone : NetworkAction → Bool
  | .lose _ _ => true
  | .retry _ => true
  | .giveUp _ => true
  | _ => false

namespace Network

/-- A network around a ledger, before any client has spoken. -/
def quiet (db : BalanceStore) : Network :=
  ⟨⟨db, []⟩, [], []⟩

def setState (n : Network) (id : ℕ) (call : Call) (state : CallState) : Network :=
  { n with calls := n.calls.set id { call with state } }

/-- One action, `none` where it is not possible. An attempt reads only an answer to its own copy:
a later one of the same call has its own connection.
-/
def act (n : Network) : NetworkAction → Option Network
  | .issue sessionId op bytes =>
      some { n with calls := n.calls ++ [⟨sessionId, op, bytes, 1, .awaiting⟩] }
  | .deliver id attempt nowMs hookThrows =>
      match n.calls[id]? with
      | none => none
      | some call =>
          if 1 ≤ attempt ∧ attempt ≤ call.attempts then
            some
              {
                n with
                history := n.history.handle nowMs call.request
                answers := n.answers ++
                  [⟨id, attempt,
                    (createLedgerHandler n.history.db nowMs hookThrows call.request).1⟩]
              }
          else none
  | .receive answer =>
      match n.answers[answer]? with
      | none => none
      | some answer =>
          match n.calls[answer.call]? with
          | none => none
          | some call =>
              if call.state = .awaiting ∧ answer.attempt = call.attempts then
                some (n.setState answer.call call (answered call.op answer.response))
              else none
  | .lose id reason =>
      match n.calls[id]? with
      | none => none
      | some call =>
          if call.state = .awaiting then some (n.setState id call (ambiguous call.op reason))
          else none
  | .retry id =>
      match n.calls[id]? with
      | none => none
      | some call =>
          match call.state with
          | .retrying _ =>
              some
                {
                  n with
                  calls := n.calls.set id
                    { call with attempts := call.attempts + 1, state := .awaiting }
                }
          | _ => none
  | .giveUp id =>
      match n.calls[id]? with
      | none => none
      | some call =>
          match call.state with
          | .retrying lastReason => some (n.setState id call (Ledger.giveUp call.op lastReason))
          | _ => none
  | .credit hash micros orderId nowMs =>
      some { n with history := n.history.call (.creditOnce hash micros orderId nowMs) }

/-- Actions in sequence. -/
def run? (n : Network) (actions : List NetworkAction) : Option Network :=
  actions.foldlM act n

/-- A lookup after a call was replaced finds the replacement or an old call. -/
theorem lookup_set {calls : List Call} {id other : ℕ} {call replaced found : Call}
    (known : calls[id]? = some call) (stored : (calls.set id replaced)[other]? = some found)
    : (other = id ∧ found = replaced) ∨ other ≠ id ∧ calls[other]? = some found := by
  by_cases same : id = other
  · subst same
    rw [List.getElem?_set_self (List.getElem?_eq_some_iff.mp known).1] at stored
    exact Or.inl ⟨rfl, (Option.some.inj stored).symm⟩
  · rw [List.getElem?_set_ne same] at stored
    exact Or.inr ⟨Ne.symm same, stored⟩

/-- A lookup after a call was issued finds the new call at the end or an old one. -/
theorem lookup_issue {calls : List Call} {other : ℕ} {issued found : Call}
    (stored : (calls ++ [issued])[other]? = some found)
    : (other = calls.length ∧ found = issued) ∨ calls[other]? = some found := by
  by_cases inside : other < calls.length
  · rw [List.getElem?_append_left inside] at stored
    exact Or.inr stored
  · rw [List.getElem?_append_right (by omega)] at stored
    obtain ⟨bound, same⟩ := List.getElem?_eq_some_iff.mp stored
    simp only [List.length_singleton] at bound
    exact Or.inl ⟨by omega, by simpa using same.symm⟩

/-- The effect of an action, by the part of the network it changes. -/
inductive Effect (n : Network) : NetworkAction → Network → Prop
  | issued (sessionId : String) (op : ClientOp) (bytes : ℕ)
    : Effect n (.issue sessionId op bytes)
        { n with calls := n.calls ++ [⟨sessionId, op, bytes, 1, .awaiting⟩] }
  | delivered {id attempt call} (nowMs : ℤ) (hookThrows : Bool)
    (found : n.calls[id]? = some call) (sent : 1 ≤ attempt ∧ attempt ≤ call.attempts)
    : Effect n (.deliver id attempt nowMs hookThrows)
        {
          n with
          history := n.history.handle nowMs call.request
          answers := n.answers ++
            [⟨id, attempt, (createLedgerHandler n.history.db nowMs hookThrows call.request).1⟩]
        }
  | received {index answer call} (given : n.answers[index]? = some answer)
    (found : n.calls[answer.call]? = some call) (awaited : call.state = .awaiting)
    (own : answer.attempt = call.attempts)
    : Effect n (.receive index)
        (n.setState answer.call call (answered call.op answer.response))
  | moved {action id call} (state : CallState) (attempts : ℕ)
    (found : n.calls[id]? = some call) (more : call.attempts ≤ attempts)
    (unread : ∀ value, state ≠ .done (.returned value))
    (mutates : call.op.mutation → ¬state.Rejects)
    (alone : action.alone = true) (pending : ∀ result, call.state ≠ .done result)
    : Effect n action { n with calls := n.calls.set id { call with attempts, state } }
  | credited (hash : String) (micros : ℕ) (orderId : String) (nowMs : ℤ)
    : Effect n (.credit hash micros orderId nowMs)
        { n with history := n.history.call (.creditOnce hash micros orderId nowMs) }

theorem ambiguous_unread (op : ClientOp) (reason : String) (value : ClientReturn)
    : ambiguous op reason ≠ .done (.returned value) := by
  unfold ambiguous
  split <;> simp

/-- Every possible action has one of the effects. -/
theorem act_effect {n n' : Network} {action : NetworkAction} (acted : n.act action = some n')
    : Effect n action n' := by
  cases action with
  | issue sessionId op bytes =>
      cases acted
      exact .issued sessionId op bytes
  | deliver id attempt nowMs hookThrows =>
      simp only [act] at acted
      split at acted
      · cases acted
      · rename_i call found
        split at acted
        · rename_i sent
          cases acted
          exact .delivered nowMs hookThrows found sent
        · cases acted
  | receive index =>
      simp only [act] at acted
      split at acted
      · cases acted
      · rename_i answer given
        split at acted
        · cases acted
        · rename_i call found
          split at acted
          · rename_i ready
            cases acted
            exact .received given found ready.1 ready.2
          · cases acted
  | lose id reason =>
      simp only [act] at acted
      split at acted
      · cases acted
      · rename_i call found
        split at acted
        · rename_i awaiting
          cases acted
          exact .moved _ call.attempts found (Nat.le_refl _) (ambiguous_unread call.op reason)
            (fun mutation => (mutation_ne_rejects mutation).2.1 reason) rfl (by simp [awaiting])
        · cases acted
  | retry id =>
      simp only [act] at acted
      split at acted
      · cases acted
      · rename_i call found
        split at acted
        · rename_i retrying
          cases acted
          exact .moved .awaiting (call.attempts + 1) found (Nat.le_succ _) (by simp)
            (fun _ => not_false) rfl (by simp [retrying])
        · cases acted
  | giveUp id =>
      simp only [act] at acted
      split at acted
      · cases acted
      · rename_i call found
        split at acted
        · rename_i retrying
          cases acted
          exact .moved _ call.attempts found (Nat.le_refl _) (by simp [Ledger.giveUp])
            (fun mutation => (mutation_ne_rejects mutation).2.2 _) rfl (by simp [retrying])
        · cases acted
  | credit hash micros orderId nowMs =>
      cases acted
      exact .credited hash micros orderId nowMs

end Network

end Nullsink.Metering
