import Mathlib.Data.Nat.Digits.Lemmas
import Nullsink.Ledger.Exchange

/-! Which amounts of an `openHold` the wire and the store accept, and what the client then gets
back from the ledger.
-/

namespace Nullsink.Ledger

open Relational Ecma

/-- The wire's parser accepts the number that was sent. -/
def WireAmount (micros : Number) : Prop :=
  safeMicros (some (Json.transmit (.number micros))) = some micros

/-- A whole amount that a Number holds exactly. -/
def HoldableAmount (micros : Number) : Prop :=
  ∃ n : ℕ, micros = .ofInt n ∧ (n : ℤ) ≤ Number.maxSafeInteger

theorem HoldableAmount.valid {micros : Number} (holdable : HoldableAmount micros)
    : ∃ n : ℕ, micros = .ofInt n ∧ micros.safeInteger? = some (n : ℤ) := by
  obtain ⟨n, rfl, bound⟩ := holdable
  exact ⟨n, rfl, by simp [Number.safeInteger?_ofInt, bound]⟩

theorem safeMicros_iff {micros : Number}
    : safeMicros (some (.number micros)) = some micros ↔ HoldableAmount micros := by
  constructor
  · intro accepted
    obtain ⟨h, found⟩ := Option.isSome_iff_exists.mp (Option.filter_eq_some_iff.mp accepted).2
    obtain ⟨safe, nonneg⟩ := Option.filter_eq_some_iff.mp found
    have nonneg : 0 ≤ h := by simpa using nonneg
    refine ⟨h.toNat, ?_, ?_⟩
    · rw [Int.toNat_of_nonneg nonneg]
      exact Number.eq_ofInt_of_safeInteger? safe
    · rw [Int.toNat_of_nonneg nonneg]
      exact (le_abs_self h).trans (Number.abs_le_of_safeInteger? safe)
  · intro holdable
    obtain ⟨n, rfl, valid⟩ := holdable.valid
    simp [safeMicros, Json.number?, valid, Option.filter]

/-- Serialization decides nothing: the wire accepts exactly the holdable amounts. -/
theorem wireAmount_iff {micros : Number} : WireAmount micros ↔ HoldableAmount micros := by
  constructor
  · intro accepted
    obtain ⟨isNumber, _⟩ := Option.filter_eq_some_iff.mp accepted
    cases micros with
    | finite q => exact safeMicros_iff.mp accepted
    | infinity negative => simp [Json.transmit, Json.number?] at isNumber
    | nan => simp [Json.transmit, Json.number?] at isNumber
  · intro holdable
    obtain ⟨n, rfl, bound⟩ := holdable
    rw [WireAmount, Json.transmit_ofInt]
    exact safeMicros_iff.mpr ⟨n, rfl, bound⟩

/-- The length of the serialized payload of a whole amount: the fixed fields and the digits. -/
def openHoldBytes (micros : ℕ) : ℕ := 186 + Nat.max 1 (Nat.digits 10 micros).length

/-- The payload of a holdable amount fits the body limit. -/
theorem openHoldBytes_le {n : ℕ} (bound : (n : ℤ) ≤ Number.maxSafeInteger)
    : openHoldBytes n ≤ ledgerMaxBodyBytes := by
  have small : n < 10 ^ 16 := by
    have limit : Number.maxSafeInteger < 10 ^ 16 := by decide
    exact_mod_cast bound.trans_lt limit
  have digits : (Nat.digits 10 n).length ≤ 16 :=
    (Nat.digits_length_le_iff (by norm_num) n).mpr small
  unfold openHoldBytes ledgerMaxBodyBytes
  simp only [Nat.max_def]
  split <;> omega

section Answers

variable {db : BalanceStore} {sessionId holdId hash : String} {micros : Number} {bytes : ℕ}

/-- The ids and the hash of a call are of the wire's form. -/
structure WellFormed (sessionId holdId hash : String) : Prop where
  session : uuid sessionId
  hold : uuid holdId
  hash : hashHex hash

/-- A well-formed call of a holdable amount reaches the store. -/
theorem ledgerCall_openHold (formed : WellFormed sessionId holdId hash)
    (holdable : HoldableAmount micros) (fits : bytes ≤ ledgerMaxBodyBytes) (nowMs : ℤ)
    : ledgerCall ((ClientOp.openHold hash micros holdId).request sessionId bytes) nowMs
      = .ok (.openSessionHold sessionId hash micros holdId nowMs) := by
  have accepted : safeMicros (some (Json.transmit (.number micros))) = some micros :=
    wireAmount_iff.mpr holdable
  have body
      : storeCall ledgerOpenHoldPath
          ((ClientOp.openHold hash micros holdId).payload sessionId).transmit nowMs
        = some (.openSessionHold sessionId hash micros holdId nowMs) := by
    simp [storeCall, ledgerOpenHoldPath, ledgerStartSessionPath, ledgerBalancePath,
      parseOpenHoldRequest, ClientOp.payload, Json.transmitFields, bag, Json.get?,
      validSessionId, validHoldId, validHash, Json.string?, Option.filter, formed.session,
      formed.hold, formed.hash, accepted]
  simp only [ledgerCall, ClientOp.request, ClientOp.path, readBody, not_lt.mpr fits, if_false,
    body]
  simp

/-- Where the ledger can answer a call for a hold with a definite success or refusal of its own:
the session is current, and the hold id is new or names the hold this very call has opened.
-/
inductive Answerable (db : BalanceStore) (sessionId hash holdId : String) (micros : Number)
    : Prop where
  | fresh (current : db.currentSession = some sessionId) (unopened : db.holds.get? holdId = none)
    (unsettled : db.settledHolds.get? holdId = none)
  | reopened {n : ℤ} {hold : HoldRow} (current : db.currentSession = some sessionId)
    (found : db.holds.get? holdId = some hold)
    (own : hold.sessionId = some sessionId ∧ hold.hash = hash ∧ hold.micros = n)
    (amount : micros = .ofInt n)

/-- The store's results for a holdable amount of an answerable call. -/
theorem openSessionHold_answerable (holdable : HoldableAmount micros) (atMs : ℤ)
    (answerable : Answerable db sessionId hash holdId micros)
    : ∃ result db', db.openSessionHold sessionId hash micros holdId atMs = .ok (result, db')
        ∧ result ∈ [.opened, .insufficientBalance, .unknownToken, .alreadyOpen]
        ∧ (db.holds.get? holdId = none → result ≠ .alreadyOpen) := by
  obtain ⟨n, whole, valid⟩ := holdable.valid
  obtain ⟨result, db', taken, step⟩ := openSessionHold_step db sessionId hash micros holdId atMs
  refine ⟨result, db', taken, ?_⟩
  cases step with
  | staleSession other => cases answerable <;> contradiction
  | invalidAmount current invalid =>
      have negative := invalid n valid
      omega
  | alreadyOpen current safe nonneg found same => simp [found]
  | @conflictHold amount existing current safe nonneg found different =>
      cases answerable with
      | fresh current unopened unsettled => simp [unopened] at found
      | @reopened m hold current stored own amount =>
          obtain rfl := Option.some.inj (stored.symm.trans found)
          have same : m = n := Number.ofInt_injective (amount.symm.trans whole)
          rw [valid] at safe
          obtain rfl := Option.some.inj safe
          exact absurd ⟨own.1, own.2.1, own.2.2.trans same⟩ different
  | conflictSettled current safe nonneg closed found =>
      cases answerable with
      | fresh current unopened unsettled => simp [unsettled] at found
      | reopened current stored own amount => simp [stored] at closed
  | unknownToken current safe nonneg closed unsettled unknown => simp
  | insufficientBalance current safe nonneg closed unsettled known short => simp
  | opened current safe nonneg closed unsettled known covered debited => simp

/-- What the client makes of the answer to a call with a result: it returns whether the hold is
open, or retries where the hook has failed after the commit.
-/
inductive HoldAnswer (op : ClientOp) (hookThrows : Bool) (result : SessionOpenHoldResult)
    (response : Response)
    : Prop where
  | definite (answer : response = ledgerAnswer (.hold result))
    (returns
      : answered op response
        = .done (.returned (.hold (result = .opened ∨ result = .alreadyOpen))))
  | retried (failed : hookThrows = true) (committed : result = .opened)
    (retries : ∃ reason, answered op response = .retrying reason)

/-- No answer the ledger gives to an answerable call of a holdable amount is fatal. -/
theorem HoldAnswer.not_fatal {op : ClientOp} {hookThrows : Bool} {result : SessionOpenHoldResult}
    {response : Response} (answer : HoldAnswer op hookThrows result response) (message : String)
    : answered op response ≠ .done (.fatal message) := by
  cases answer with
  | definite _ returns => simp [returns]
  | retried _ _ retries =>
      obtain ⟨reason, retrying⟩ := retries
      simp [retrying]

theorem answered_answerable (formed : WellFormed sessionId holdId hash)
    (holdable : HoldableAmount micros) (fits : bytes ≤ ledgerMaxBodyBytes) (nowMs : ℤ)
    (hookThrows : Bool) (answerable : Answerable db sessionId hash holdId micros)
    : ∃ result ∈ [
          SessionOpenHoldResult.opened, .insufficientBalance, .unknownToken, .alreadyOpen
        ],
        (db.holds.get? holdId = none → result ≠ .alreadyOpen)
        ∧ HoldAnswer (.openHold hash micros holdId) hookThrows result
            (createLedgerHandler db nowMs hookThrows
              ((ClientOp.openHold hash micros holdId).request sessionId bytes)).1 := by
  obtain ⟨result, db', taken, among, fresh⟩ :=
    openSessionHold_answerable holdable nowMs answerable
  have asked := ledgerCall_openHold formed holdable fits nowMs
  have applied : db.apply (.openSessionHold sessionId hash micros holdId nowMs)
      = .ok (.hold result, db') := by
    simp only [BalanceStore.apply, taken]
    rfl
  refine ⟨result, among, fresh, ?_⟩
  simp only [createLedgerHandler, asked, applied]
  by_cases failed : afterCommit (.hold result) = true ∧ hookThrows = true
  · have opened : result = .opened := by
      cases result <;> simp [afterCommit] at failed ⊢
    rw [if_pos failed]
    refine .retried failed.2 opened ⟨"http_500", ?_⟩
    simp [answered, definite, jsonError, Option.filter, Json.truthy, ambiguous,
      ClientOp.mutation]
    rfl
  · rw [if_neg failed]
    refine .definite rfl ?_
    cases result <;> simp at among <;>
      simp [answered, definite, ledgerAnswer, jsonOk, jsonError, Option.filter, Json.truthy,
        Response.ok, successBody, stringField, Json.get?, Json.string?, conclude, errorCode]

/-- The parser of the path rejects an amount that is not holdable. -/
theorem storeCall_unholdable (sessionId hash holdId : String)
    (refused : ¬HoldableAmount micros) (nowMs : ℤ)
    : storeCall ledgerOpenHoldPath
          ((ClientOp.openHold hash micros holdId).payload sessionId).transmit nowMs
        = none := by
  cases taken : storeCall ledgerOpenHoldPath
      ((ClientOp.openHold hash micros holdId).payload sessionId).transmit nowMs with
  | none => rfl
  | some op =>
      obtain ⟨body, parsed, _⟩ := Option.map_eq_some_iff.mp taken
      simp [parseOpenHoldRequest, ClientOp.payload, Json.transmitFields, bag, Json.get?,
        validSessionId, validHoldId, validHash, Json.string?, Option.filter,
        Option.bind_eq_some_iff] at parsed
      obtain ⟨_, _, _, arrived, amount, _⟩ := parsed
      obtain rfl := safeMicros_transmit amount
      exact absurd (wireAmount_iff.mp amount) refused

/-- An amount that is not holdable is fatal: the ledger refuses its request as malformed, and
the client ends the process.
-/
theorem answered_unholdable (db : BalanceStore) (sessionId hash holdId : String) (bytes : ℕ)
    (refused : ¬HoldableAmount micros) (nowMs : ℤ) (hookThrows : Bool)
    : ∃ message,
        answered (.openHold hash micros holdId)
            (createLedgerHandler db nowMs hookThrows
              ((ClientOp.openHold hash micros holdId).request sessionId bytes)).1
          = .done (.fatal message) := by
  have rejected (response : Response)
      (error : response = jsonError "payload_too_large" 413
        ∨ response = jsonError "invalid_request" 400)
      : ∃ message,
          answered (.openHold hash micros holdId) response = .done (.fatal message) := by
    rcases error with rfl | rfl
    · exact ⟨"ledger protocol failure /hold/open: payload_too_large", rfl⟩
    · exact ⟨"ledger protocol failure /hold/open: invalid_request", rfl⟩
  have routed
      : ∃ response,
          ledgerCall ((ClientOp.openHold hash micros holdId).request sessionId bytes) nowMs
            = .error response
          ∧ (response = jsonError "payload_too_large" 413
            ∨ response = jsonError "invalid_request" 400) := by
    rcases ledgerCall_request (.openHold hash micros holdId) sessionId bytes nowMs with
      asked | large | invalid
    · have body := storeCall_unholdable sessionId hash holdId refused nowMs
      by_cases large : bytes > ledgerMaxBodyBytes <;>
        simp [ledgerCall, ClientOp.request, ClientOp.path, readBody, large, body] at asked
    · exact ⟨_, large, Or.inl rfl⟩
    · exact ⟨_, invalid, Or.inr rfl⟩
  obtain ⟨response, refusal, error⟩ := routed
  simp only [createLedgerHandler, refusal]
  exact rejected response error

/-- What the gates promise the ledger about an amount: its parser and its store accept it, every
answer to a call that is current and not taken is one of the three of an open or a replay, and
none of them ends the client's process.
-/
structure WireAgreement (hash : String) (micros : Number) : Prop where
  parsed : WireAmount micros
  stored : ∃ amount, micros.safeInteger? = some amount ∧ 0 ≤ amount
  answered
    : ∀ db sessionId holdId nowMs hookThrows bytes,
        WellFormed sessionId holdId hash
        → (∀ n : ℕ, micros = .ofInt n → bytes = openHoldBytes n)
        → Answerable db sessionId hash holdId micros
        → ∃ result ∈ [
              SessionOpenHoldResult.opened, .insufficientBalance, .unknownToken, .alreadyOpen
            ],
            (db.holds.get? holdId = none → result ≠ .alreadyOpen)
            ∧ HoldAnswer (.openHold hash micros holdId) hookThrows result
                (createLedgerHandler db nowMs hookThrows
                  ((ClientOp.openHold hash micros holdId).request sessionId bytes)).1
            ∧ ∀ message,
                answered (.openHold hash micros holdId)
                    (createLedgerHandler db nowMs hookThrows
                      ((ClientOp.openHold hash micros holdId).request sessionId bytes)).1
                  ≠ .done (.fatal message)

/-- The amounts that keep the promise are the holdable ones. -/
theorem wireAgreement_iff : WireAgreement hash micros ↔ HoldableAmount micros := by
  constructor
  · exact fun agreement => wireAmount_iff.mp agreement.parsed
  · intro holdable
    obtain ⟨n, whole, valid⟩ := holdable.valid
    refine ⟨wireAmount_iff.mpr holdable, ⟨n, valid, Int.natCast_nonneg n⟩, ?_⟩
    intro db sessionId holdId nowMs hookThrows bytes formed sized answerable
    have fits : bytes ≤ ledgerMaxBodyBytes := by
      obtain ⟨m, same, bound⟩ := holdable
      rw [sized m same]
      exact openHoldBytes_le bound
    obtain ⟨result, among, fresh, answer⟩ :=
      answered_answerable formed holdable fits nowMs hookThrows answerable
    exact ⟨result, among, fresh, answer, answer.not_fatal⟩

end Answers

end Nullsink.Ledger
