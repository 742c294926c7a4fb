import Nullsink.Ledger.Client
import Nullsink.Ledger.HoldHistory

/-! One exchange of the client and the handler: what a delivered copy of an operation does to the
ledger, and what the client may conclude from its answer.
-/

namespace Nullsink.Ledger

open Relational Ecma

/-- The store call a copy of an operation makes. -/
def ClientOp.storeOp (op : ClientOp) (sessionId : String) (nowMs : ℤ) : LedgerOp :=
  match op with
  | startSession => .beginSession sessionId nowMs
  | getBalance hash => .getSessionBalance sessionId hash
  | openHold hash micros holdId => .openSessionHold sessionId hash micros holdId nowMs
  | settleHold holdId chargedMicros => .settleSessionHold sessionId holdId chargedMicros nowMs

-----------------------------------------------------------------------------------------
-- What a copy asks of the store
-----------------------------------------------------------------------------------------

theorem safeMicros_transmit {micros arrived : Number}
    (parsed : safeMicros (some (Json.transmit (.number micros))) = some arrived)
    : arrived = micros := by
  obtain ⟨isNumber, _⟩ := Option.filter_eq_some_iff.mp parsed
  have sent := Json.number?_transmit (by simpa using isNumber)
  cases sent
  rfl

theorem parseStartSessionRequest_payload {sessionId : String} {body}
    (parsed
      : parseStartSessionRequest ((ClientOp.startSession.payload sessionId).transmit) = some body)
    : body = ⟨sessionId⟩ := by
  simp [parseStartSessionRequest, ClientOp.payload, Json.transmitFields, bag, Json.get?,
    validSessionId, Json.string?, Option.filter, Option.bind_eq_some_iff] at parsed
  exact parsed.2.symm

theorem parseBalanceRequest_payload {sessionId hash : String} {body}
    (parsed
      : parseBalanceRequest (((ClientOp.getBalance hash).payload sessionId).transmit) = some body)
    : body = ⟨sessionId, hash⟩ := by
  simp [parseBalanceRequest, ClientOp.payload, Json.transmitFields, bag, Json.get?,
    validSessionId, validHash, Json.string?, Option.filter, Option.bind_eq_some_iff] at parsed
  exact parsed.2.2.symm

theorem parseOpenHoldRequest_payload {sessionId hash holdId : String} {micros : Number} {body}
    (parsed
      : parseOpenHoldRequest (((ClientOp.openHold hash micros holdId).payload sessionId).transmit)
        = some body)
    : body = ⟨sessionId, holdId, hash, micros⟩ := by
  simp [parseOpenHoldRequest, ClientOp.payload, Json.transmitFields, bag, Json.get?,
    validSessionId, validHoldId, validHash, Json.string?, Option.filter,
    Option.bind_eq_some_iff] at parsed
  obtain ⟨_, _, _, arrived, amount, rfl⟩ := parsed
  rw [safeMicros_transmit amount]

theorem parseSettleHoldRequest_payload {sessionId holdId : String} {charged : Number} {body}
    (parsed
      : parseSettleHoldRequest (((ClientOp.settleHold holdId charged).payload sessionId).transmit)
        = some body)
    : body = ⟨sessionId, holdId, charged⟩ := by
  simp [parseSettleHoldRequest, ClientOp.payload, Json.transmitFields, bag, Json.get?,
    validSessionId, validHoldId, Json.string?, Option.filter, Option.bind_eq_some_iff] at parsed
  obtain ⟨_, _, arrived, amount, rfl⟩ := parsed
  rw [safeMicros_transmit amount]

/-- A payload that its parser accepts makes the operation's own store call. -/
theorem storeCall_payload (op : ClientOp) (sessionId : String) (nowMs : ℤ)
    : storeCall op.path (op.payload sessionId).transmit nowMs = none
      ∨ storeCall op.path (op.payload sessionId).transmit nowMs
        = some (op.storeOp sessionId nowMs) := by
  cases taken : storeCall op.path (op.payload sessionId).transmit nowMs with
  | none => exact Or.inl rfl
  | some call =>
      right
      cases op with
      | startSession =>
          obtain ⟨body, parsed, rfl⟩ := Option.map_eq_some_iff.mp taken
          cases parseStartSessionRequest_payload parsed
          rfl
      | getBalance hash =>
          obtain ⟨body, parsed, rfl⟩ := Option.map_eq_some_iff.mp taken
          cases parseBalanceRequest_payload parsed
          rfl
      | openHold hash micros holdId =>
          obtain ⟨body, parsed, rfl⟩ := Option.map_eq_some_iff.mp taken
          cases parseOpenHoldRequest_payload parsed
          rfl
      | settleHold holdId charged =>
          obtain ⟨body, parsed, rfl⟩ := Option.map_eq_some_iff.mp taken
          cases parseSettleHoldRequest_payload parsed
          rfl

/-- A copy makes its own store call, or is rejected before any. -/
theorem ledgerCall_request (op : ClientOp) (sessionId : String) (bytes : ℕ) (nowMs : ℤ)
    : ledgerCall (op.request sessionId bytes) nowMs = .ok (op.storeOp sessionId nowMs)
      ∨ ledgerCall (op.request sessionId bytes) nowMs = .error (jsonError "payload_too_large" 413)
      ∨ ledgerCall (op.request sessionId bytes) nowMs
        = .error (jsonError "invalid_request" 400) := by
  have routed
      : op.path ∈
        [ledgerStartSessionPath, ledgerBalancePath, ledgerOpenHoldPath, ledgerSettleHoldPath] := by
    cases op <;> simp [ClientOp.path]
  by_cases large : bytes > ledgerMaxBodyBytes
  · have refused
        : readBody (op.request sessionId bytes) = .error (jsonError "payload_too_large" 413) := by
      simp [readBody, ClientOp.request, large]
    right
    left
    simp only [ledgerCall, refused]
    simp [ClientOp.request, routed]
  · have fits : readBody (op.request sessionId bytes) = .ok (op.payload sessionId).transmit := by
      simp [readBody, ClientOp.request, large]
    rcases storeCall_payload op sessionId nowMs with rejected | accepted
    · right
      right
      simp only [ledgerCall, fits]
      simp [ClientOp.request, routed, rejected]
    · left
      simp only [ledgerCall, fits]
      simp [ClientOp.request, routed, accepted]

/-- A copy runs its own store call, or leaves the ledger alone. -/
theorem handle_request (history : History) (op : ClientOp) (sessionId : String) (bytes : ℕ)
    (nowMs : ℤ)
    : (ledgerCall (op.request sessionId bytes) nowMs = .ok (op.storeOp sessionId nowMs)
        ∧ history.handle nowMs (op.request sessionId bytes)
          = history.call (op.storeOp sessionId nowMs))
      ∨ (∃ response, ledgerCall (op.request sessionId bytes) nowMs = .error response)
        ∧ history.handle nowMs (op.request sessionId bytes) = history := by
  unfold History.handle
  rcases ledgerCall_request op sessionId bytes nowMs with routed | routed | routed
  · exact Or.inl ⟨routed, by rw [routed]⟩
  · exact Or.inr ⟨⟨_, routed⟩, by rw [routed]⟩
  · exact Or.inr ⟨⟨_, routed⟩, by rw [routed]⟩

-----------------------------------------------------------------------------------------
-- What an answer says
-----------------------------------------------------------------------------------------

/-- The errors the handler answers before or instead of a store result. -/
def refusals : List Response :=
  [
    jsonError "payload_too_large" 413,
    jsonError "invalid_request" 400,
    jsonError "ledger_error" 500
  ]

/-- No operation returns a value on such an error. -/
theorem answered_refusal {op : ClientOp} {response : Response} {value : ClientReturn}
    (refused : response ∈ refusals)
    : answered op response ≠ .done (.returned value) := by
  simp only [refusals, List.mem_cons, List.not_mem_nil, or_false] at refused
  rcases refused with rfl | rfl | rfl <;> cases op <;>
    simp [answered, definite, jsonError, Option.filter, Json.truthy, Response.ok, conclude,
      successBody, stringField, microsField, Json.get?, Json.string?, errorCode, fatalProtocol,
      ambiguous, ClientOp.mutation]

theorem answered_hold {hash holdId : String} {micros : Number} {result : SessionOpenHoldResult}
    {value : ClientReturn}
    (returned
      : answered (.openHold hash micros holdId) (ledgerAnswer (.hold result))
        = .done (.returned value))
    : (value = .hold true ∧ (result = .opened ∨ result = .alreadyOpen))
      ∨ (value = .hold false ∧ (result = .unknownToken ∨ result = .insufficientBalance)) := by
  cases result <;>
    simp [answered, definite, ledgerAnswer, jsonOk, jsonError, Option.filter, Json.truthy,
      Response.ok, successBody, stringField, Json.get?, Json.string?, conclude, errorCode,
      fatalProtocol] at returned ⊢ <;> simp_all

theorem answered_settlement {holdId : String} {charged : Number}
    {result : SessionSettleHoldResult} {value : ClientReturn}
    (returned
      : answered (.settleHold holdId charged) (ledgerAnswer (.settlement result))
        = .done (.returned value))
    : (value = .settlement true ∧ (result = .settled ∨ result = .alreadySettled))
      ∨ (value = .settlement false ∧ result = .unknownHold) := by
  cases result <;>
    simp [answered, definite, ledgerAnswer, jsonOk, jsonError, Option.filter, Json.truthy,
      Response.ok, successBody, stringField, Json.get?, Json.string?, conclude, errorCode,
      fatalProtocol] at returned ⊢ <;> simp_all

theorem answered_session {result : BeginSessionResult} {value : ClientReturn}
    (returned
      : answered .startSession (ledgerAnswer (.session result)) = .done (.returned value))
    : result ≠ .staleSession := by
  rintro rfl
  simp [answered, definite, ledgerAnswer, jsonError, Option.filter, Json.truthy, Response.ok,
    successBody, stringField, Json.get?, conclude, errorCode, Json.string?] at returned

-----------------------------------------------------------------------------------------
-- One delivered copy
-----------------------------------------------------------------------------------------

/-- What a delivered copy did: it was refused, or made its store call and was answered with the
result unless the hook threw.
-/
inductive Exchange (history : History) (sessionId : String) (op : ClientOp) (nowMs : ℤ)
    (response : Response)
    : History → Prop
  | refused (refusal : response ∈ refusals) : Exchange history sessionId op nowMs response history
  | handled {result db'}
    (taken : history.db.apply (op.storeOp sessionId nowMs) = .ok (result, db'))
    (read : response = ledgerAnswer result ∨ response ∈ refusals)
    : Exchange history sessionId op nowMs response
        ⟨db', history.log ++ (op.storeOp sessionId nowMs).events history.db result⟩

theorem exchange {start : BalanceStore} {history : History} (inv : StoreInvariant start history)
    (sessionId : String) (op : ClientOp) (bytes : ℕ) (nowMs : ℤ) (hookThrows : Bool)
    : Exchange history sessionId op nowMs
        (createLedgerHandler history.db nowMs hookThrows (op.request sessionId bytes)).1
        (history.handle nowMs (op.request sessionId bytes)) := by
  rcases ledgerCall_request op sessionId bytes nowMs with asked | refused | refused
  · obtain ⟨result, db', taken⟩ := inv.apply_completes (op.storeOp sessionId nowMs)
    simp only [createLedgerHandler, History.handle, asked, History.call, taken]
    refine .handled taken ?_
    split
    · exact Or.inr (by simp [refusals])
    · exact Or.inl rfl
  · simp only [createLedgerHandler, History.handle, refused]
    exact .refused (by simp [refusals])
  · simp only [createLedgerHandler, History.handle, refused]
    exact .refused (by simp [refusals])

theorem StoreInvariant.handle {start : BalanceStore} {history : History}
    (inv : StoreInvariant start history) (nowMs : ℤ) (req : Request)
    : StoreInvariant start (history.handle nowMs req) := by
  unfold History.handle
  split
  · exact inv
  · exact inv.call _

theorem HoldInvariant.handle {start : BalanceStore} {history : History}
    (store : StoreInvariant start history) (inv : HoldInvariant history) (nowMs : ℤ)
    (req : Request)
    : HoldInvariant (history.handle nowMs req) := by
  unfold History.handle
  split
  · exact inv
  · exact HoldInvariant.call store inv _

/-- What the log must hold for a return value of an operation to be right. -/
def Confirms (history : History) (sessionId : String) : ClientOp → ClientReturn → Prop
  | .startSession, .session _ _ _ => sessionId ∈ history.sessions
  | .openHold hash micros holdId, .hold true =>
      ∃ hold, .opened hold ∈ history.log ∧ hold.holdId = holdId
        ∧ hold.sessionId = some sessionId ∧ hold.hash = hash ∧ micros = .ofInt hold.micros
  | .settleHold holdId charged, .settlement true =>
      ∃ hold charge, .settled hold charge ∈ history.log ∧ hold.holdId = holdId
        ∧ hold.sessionId = some sessionId ∧ charged = .ofInt charge
  | _, _ => True

/-- A growing log confirms what it confirmed. -/
theorem Confirms.mono {earlier later : History} {sessionId op value}
    (confirmed : Confirms earlier sessionId op value) (grown : earlier.log ⊆ later.log)
    : Confirms later sessionId op value := by
  unfold Confirms at confirmed ⊢
  split at confirmed
  · obtain ⟨event, logged, found⟩ := List.mem_filterMap.mp confirmed
    exact List.mem_filterMap.mpr ⟨event, grown logged, found⟩
  · obtain ⟨hold, logged, rest⟩ := confirmed
    exact ⟨hold, grown logged, rest⟩
  · obtain ⟨hold, charge, logged, rest⟩ := confirmed
    exact ⟨hold, charge, grown logged, rest⟩
  · trivial

/-- Whether the log holds what an operation commits. -/
def Committed (history : History) (sessionId : String) : ClientOp → Prop
  | .startSession => sessionId ∈ history.sessions
  | .getBalance _ => True
  | .openHold _ _ holdId => (holdId, some sessionId) ∈ history.openedHolds
  | .settleHold holdId _ => (holdId, some sessionId) ∈ history.settledHolds

/-- A session that is current was started. -/
theorem StoreInvariant.mem_sessions {start : BalanceStore} {history : History}
    (inv : StoreInvariant start history) {sessionId : String}
    (current : history.db.currentSession = some sessionId)
    : sessionId ∈ history.sessions := by
  rw [inv.fenced.latest] at current
  exact List.mem_of_getLast? current

section Steps

variable {start : BalanceStore} {history : History} {sessionId hash holdId : String}
  {micros charged : Number} {nowMs : ℤ} {db' : BalanceStore}

theorem BeginSessionStep.confirms {outcome : BeginSessionResult}
    (step : BeginSessionStep history.db sessionId nowMs outcome db')
    (store : StoreInvariant start history) (admitted : outcome ≠ .staleSession)
    : sessionId ∈ (History.mk db' (history.log
        ++ (LedgerOp.beginSession sessionId nowMs).events history.db (.session outcome))).sessions
    := by
  cases step with
  | current found same =>
      have current : history.db.currentSession = some sessionId := by
        simp [BalanceStore.currentSession, found, same]
      simpa [LedgerOp.events] using store.mem_sessions current
  | staleSession other retired => exact (admitted rfl).elim
  | started other fresh fenced =>
      simp only [LedgerOp.events]
      rw [History.sessions_start]
      exact List.mem_append_right _ (by simp)

theorem OpenHoldStep.confirms {outcome : SessionOpenHoldResult}
    (step : OpenHoldStep history.db sessionId hash micros holdId nowMs outcome db')
    (inv : HoldInvariant history) (success : outcome = .opened ∨ outcome = .alreadyOpen)
    : ∃ hold, .opened hold ∈ history.log
          ++ (LedgerOp.openSessionHold sessionId hash micros holdId nowMs).events history.db
            (.hold outcome)
        ∧ hold.holdId = holdId ∧ hold.sessionId = some sessionId ∧ hold.hash = hash
        ∧ micros = .ofInt hold.micros := by
  cases step with
  | @alreadyOpen amount existing current valid nonneg found same =>
      obtain ⟨own, sameHash, sameMicros⟩ := same
      refine ⟨existing, List.mem_append_left _ ?_, Table.key_of_get? found, own, sameHash, ?_⟩
      · exact inv.journaled existing (Table.mem_of_get? found) (by simp [own])
      · rw [sameMicros]
        exact Number.eq_ofInt_of_safeInteger? valid
  | @opened amount balance tokens current valid =>
      refine ⟨⟨holdId, hash, amount, some sessionId, some nowMs⟩, ?_, rfl, rfl, rfl,
        Number.eq_ofInt_of_safeInteger? valid⟩
      exact List.mem_append_right _ (by simp [LedgerOp.events, valid])
  | _ => simp at success

theorem SettleHoldStep.confirms {outcome : SessionSettleHoldResult}
    (step : SettleHoldStep history.db sessionId holdId charged nowMs outcome db')
    (inv : HoldInvariant history) (success : outcome = .settled ∨ outcome = .alreadySettled)
    : ∃ hold charge, .settled hold charge ∈ history.log
          ++ (LedgerOp.settleSessionHold sessionId holdId charged nowMs).events history.db
            (.settlement outcome)
        ∧ hold.holdId = holdId ∧ hold.sessionId = some sessionId ∧ charged = .ofInt charge := by
  cases step with
  | @alreadySettled row current found same =>
      obtain ⟨own, sameCharge⟩ := same
      obtain ⟨hold, logged, sameId, holdOwn⟩ := inv.tombstoned row (Table.mem_of_get? found)
      refine ⟨hold, row.chargedMicros, List.mem_append_left _ logged, ?_, ?_, sameCharge.symm⟩
      · exact sameId.trans (Table.key_of_get? found)
      · rw [holdOwn, own]
  | @settled hold charge tokens current unsettled found own valid =>
      refine ⟨hold, charge, List.mem_append_right _ ?_, Table.key_of_get? found, own,
        Number.eq_ofInt_of_safeInteger? valid⟩
      simp [LedgerOp.events, found, valid]
  | _ => simp at success

/-- A session that was ever current is never started again. -/
theorem BeginSessionStep.replay {outcome : BeginSessionResult}
    (step : BeginSessionStep history.db sessionId nowMs outcome db')
    (store : StoreInvariant start history) (known : sessionId ∈ history.sessions)
    : db' = history.db
      ∧ (LedgerOp.beginSession sessionId nowMs).events history.db (.session outcome) = [] := by
  cases step with
  | current found same => exact ⟨rfl, rfl⟩
  | staleSession other retired => exact ⟨rfl, rfl⟩
  | started other fresh fenced =>
      rcases store.fenced.former sessionId known with current | already
      · exact (other current).elim
      · exact (already fresh).elim

/-- A hold that its session opened is never opened again: while the session is current the hold
is open or has its tombstone.
-/
theorem OpenHoldStep.replay {outcome : SessionOpenHoldResult}
    (step : OpenHoldStep history.db sessionId hash micros holdId nowMs outcome db')
    (inv : HoldInvariant history) (known : (holdId, some sessionId) ∈ history.openedHolds)
    : db' = history.db
      ∧ (LedgerOp.openSessionHold sessionId hash micros holdId nowMs).events history.db
          (.hold outcome)
        = [] := by
  cases step with
  | opened current valid nonneg closed unsettled =>
      obtain ⟨hold, logged, sameId, own⟩ := History.exists_of_mem_openedHolds known
      have live := inv.openFate hold logged (own.trans current.symm)
      simp [sameId, closed, unsettled] at live
  | _ => exact ⟨rfl, rfl⟩

/-- A hold that its session settled is never settled again: its tombstone outlives the session. -/
theorem SettleHoldStep.replay {outcome : SessionSettleHoldResult}
    (step : SettleHoldStep history.db sessionId holdId charged nowMs outcome db')
    (inv : HoldInvariant history) (known : (holdId, some sessionId) ∈ history.settledHolds)
    : db' = history.db
      ∧ (LedgerOp.settleSessionHold sessionId holdId charged nowMs).events history.db
          (.settlement outcome)
        = [] := by
  cases step with
  | settled current unsettled found own valid nonneg within refunded =>
      obtain ⟨hold, charge, logged, sameId, holdOwn⟩ := History.exists_of_mem_settledHolds known
      obtain ⟨row, stored, _⟩ :=
        (inv.settleFate hold charge logged).2 (holdOwn.trans current.symm)
      rw [sameId, unsettled] at stored
      cases stored
  | _ => exact ⟨rfl, rfl⟩

end Steps

section Exchange

variable {start : BalanceStore} {history next : History} {sessionId : String} {op : ClientOp}
  {nowMs : ℤ} {response : Response}

/-- The log keeps its entries over an exchange. -/
theorem Exchange.grown (exchanged : Exchange history sessionId op nowMs response next)
    : history.log ⊆ next.log := by
  cases exchanged with
  | refused refusal => exact List.Subset.refl _
  | handled taken read => exact List.subset_append_left _ _

/-- A value the client returns on an answer is confirmed by the log the copy left behind. -/
theorem Exchange.confirms (exchanged : Exchange history sessionId op nowMs response next)
    (store : StoreInvariant start history) (inv : HoldInvariant history) {value : ClientReturn}
    (returned : answered op response = .done (.returned value))
    : Confirms next sessionId op value := by
  cases exchanged with
  | refused refusal => exact (answered_refusal refusal returned).elim
  | handled taken read =>
      rcases read with rfl | refusal
      · cases op with
        | startSession =>
            obtain ⟨outcome, rfl, step⟩ := apply_beginSession taken
            have known := step.confirms store (answered_session returned)
            cases value with
            | session outcome holds micros => exact known
            | _ => trivial
        | getBalance hash => cases value <;> trivial
        | openHold hash micros holdId =>
            obtain ⟨outcome, rfl, step⟩ := apply_openSessionHold taken
            rcases answered_hold returned with ⟨rfl, success⟩ | ⟨rfl, _⟩
            · exact step.confirms inv success
            · trivial
        | settleHold holdId charged =>
            obtain ⟨outcome, rfl, step⟩ := apply_settleSessionHold taken
            rcases answered_settlement returned with ⟨rfl, success⟩ | ⟨rfl, _⟩
            · exact step.confirms inv success
            · trivial
      · exact (answered_refusal refusal returned).elim

/-- A copy that arrives after its operation committed changes nothing. -/
theorem Exchange.replay (exchanged : Exchange history sessionId op nowMs response next)
    (store : StoreInvariant start history) (inv : HoldInvariant history)
    (committed : Committed history sessionId op)
    : next = history := by
  cases exchanged with
  | refused refusal => rfl
  | handled taken read =>
      cases op with
      | startSession =>
          obtain ⟨outcome, rfl, step⟩ := apply_beginSession taken
          obtain ⟨rfl, quiet⟩ := step.replay store committed
          simp [ClientOp.storeOp, quiet]
      | getBalance hash =>
          cases taken
          simp [ClientOp.storeOp, LedgerOp.events]
      | openHold hash micros holdId =>
          obtain ⟨outcome, rfl, step⟩ := apply_openSessionHold taken
          obtain ⟨rfl, quiet⟩ := step.replay inv committed
          simp [ClientOp.storeOp, quiet]
      | settleHold holdId charged =>
          obtain ⟨outcome, rfl, step⟩ := apply_settleSessionHold taken
          obtain ⟨rfl, quiet⟩ := step.replay inv committed
          simp [ClientOp.storeOp, quiet]

/-- A copy of a session that was replaced changes nothing. -/
theorem Exchange.fenced (exchanged : Exchange history sessionId op nowMs response next)
    (store : StoreInvariant start history) (inv : HoldInvariant history)
    (known : sessionId ∈ history.sessions)
    (left : history.db.currentSession ≠ some sessionId)
    : next = history := by
  cases op with
  | startSession => exact exchanged.replay store inv known
  | getBalance hash => exact exchanged.replay store inv trivial
  | openHold hash micros holdId =>
      cases exchanged with
      | refused refusal => rfl
      | handled taken read =>
          obtain ⟨outcome, rfl, step⟩ := apply_openSessionHold taken
          cases step with
          | staleSession other => simp [ClientOp.storeOp, LedgerOp.events]
          | _ => exact (left ‹_›).elim
  | settleHold holdId charged =>
      cases exchanged with
      | refused refusal => rfl
      | handled taken read =>
          obtain ⟨outcome, rfl, step⟩ := apply_settleSessionHold taken
          cases step with
          | staleSession other => simp [ClientOp.storeOp, LedgerOp.events]
          | _ => exact (left ‹_›).elim

/-- What an exchange logs comes of its operation. -/
theorem Exchange.logged (exchanged : Exchange history sessionId op nowMs response next)
    {event : LedgerEvent} (logged : event ∈ next.log)
    : event ∈ history.log
      ∨ ∃ result, event ∈ (op.storeOp sessionId nowMs).events history.db result := by
  cases exchanged with
  | refused refusal => exact Or.inl logged
  | handled taken read => exact (List.mem_append.mp logged).imp_right fun now => ⟨_, now⟩

/-- A hold that an exchange opens is the one its operation asked for. -/
theorem Exchange.opened_inv (exchanged : Exchange history sessionId op nowMs response next)
    {hold : HoldRow} (logged : .opened hold ∈ next.log)
    : .opened hold ∈ history.log
      ∨ op = .openHold hold.hash (.ofInt hold.micros) hold.holdId
        ∧ hold.sessionId = some sessionId := by
  rcases exchanged.logged logged with earlier | ⟨result, now⟩
  · exact Or.inl earlier
  · obtain ⟨session, hash, micros, holdId, atMs, amount, called, valid, rfl⟩ :=
      LedgerOp.opened_mem_events now
    cases op <;> simp only [ClientOp.storeOp, reduceCtorEq] at called
    cases called
    exact Or.inr ⟨by rw [← Number.eq_ofInt_of_safeInteger? valid], rfl⟩

/-- A charge that an exchange records is the one its operation asked for. -/
theorem Exchange.settled_inv (exchanged : Exchange history sessionId op nowMs response next)
    {hold : HoldRow} {charge : ℤ} (logged : .settled hold charge ∈ next.log)
    : .settled hold charge ∈ history.log
      ∨ op = .settleHold hold.holdId (.ofInt charge) := by
  rcases exchanged.logged logged with earlier | ⟨result, now⟩
  · exact Or.inl earlier
  · obtain ⟨session, charged, atMs, called, valid, found⟩ := LedgerOp.settled_mem_events now
    cases op <;> simp only [ClientOp.storeOp, reduceCtorEq] at called
    cases called
    exact Or.inr (by rw [← Number.eq_ofInt_of_safeInteger? valid])

end Exchange

end Nullsink.Ledger
