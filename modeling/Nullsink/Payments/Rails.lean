import Nullsink.Ledger.Server
import Nullsink.Lib.Coercion
import Nullsink.Payments.Settle

/-! The pay rails of `rails/monero.ts` and `rails/bitcoin.ts`: what their wallets' JSON-RPC answers
become, and what settlement reads of it.
-/

namespace Nullsink.Payments

open Ecma Ledger

/-- A deposit as its rail emits it. -/
structure RailTransfer where
  orderIndex : Number
  idempotencyKey : String
  amount : ℤ
  confirmations : Number
  final : Bool

/-- A deposit as `settle` uses it. No order is open under an index that is no integer, so such a
deposit neither marks an order nor credits one.
-/
def RailTransfer.incoming? (t : RailTransfer) : Option Incoming :=
  match t.orderIndex with
  | .finite index =>
      if index.den = 1 then some ⟨index.num, t.idempotencyKey, t.amount, t.final⟩ else none
  | _ => none

-----------------------------------------------------------------------------------------
-- JSON-RPC
-----------------------------------------------------------------------------------------

/-- `${json.error.message ?? JSON.stringify(json.error)}`. -/
def rpcErrorMessage (decimals : Decimals) (stringify : Json → String) (error : Json) : String :=
  match Json.coalesce (error.get? "message") none with
  | none => stringify error
  | some message =>
      match message.text decimals with
      | .ok text => text
      | .error thrown => thrown

/-- The result a client reads in the answer to a call. The call itself may have thrown. -/
def rpc (client : String) (decimals : Decimals) (stringify : Json → String) (method : String)
    (answer : Except String Response)
    : Except String (Option Json) := do
  let res ← answer
  if ¬res.ok then throw s!"{client} HTTP {res.status}"
  match res.body with
  | none => throw "Failed to parse JSON"
  | some json =>
      match json.get? "error" with
      | some error =>
          if error.truthy then
            throw s!"{client} {method}: {rpcErrorMessage decimals stringify error}"
          else return json.get? "result"
      | none => return json.get? "result"

/-- What a loop over an answer's entries emits. An entry is skipped, emitted, or throws. -/
def transfersOf (read : Json → Except String (Option RailTransfer))
    : List Json → Except String (List RailTransfer)
  | [] => .ok []
  | entry :: rest => do
      let transfer ← read entry
      return transfer.toList ++ (← transfersOf read rest)

/-- The line that reports an amount a rail skips names the transaction. -/
def loggedTxid (decimals : Decimals) (entry : Json) : Except String String :=
  match entry.get? "txid" with
  | none => .ok "undefined"
  | some txid => txid.text decimals

-----------------------------------------------------------------------------------------
-- Monero
-----------------------------------------------------------------------------------------

namespace Monero

def rpc (decimals : Decimals) (stringify : Json → String) (method : String)
    (answer : Except String Response)
    : Except String (Option Json) :=
  Payments.rpc "wallet-rpc" decimals stringify method answer

/-- One output of `get_transfers`. -/
def transfer (decimals : Decimals) (confirmations : ℤ) (t : Json)
    : Except String (Option RailTransfer) := do
  let amount ← (Json.orElse (t.get? "amount") (.number (.ofInt 0))).toNumber decimals
  match amount.safeInteger? with
  | none =>
      let _ ← loggedTxid decimals t
      return none
  | some amount =>
      if Json.isTrue (t.get? "double_spend_seen") then return none
      let minor := (t.get? "subaddr_index").bind (fun index => index.get? "minor")
      let orderIndex ← (Json.orElse minor (.number (.ofInt 0))).toNumber decimals
      let depth ← (Json.orElse (t.get? "confirmations") (.number (.ofInt 0))).toNumber decimals
      let locked := Json.isTrue (t.get? "locked")
      let txid ← (Json.orElse (t.get? "txid") (.string "")).text decimals
      return some {
        orderIndex
        idempotencyKey := txid ++ ":" ++ decimals.write orderIndex
        amount
        confirmations := depth
        final := depth.atLeast confirmations && !locked
      }

/-- `incomingTransfers`. The watched indices only scope the query. -/
def incomingTransfers (decimals : Decimals) (stringify : Json → String) (confirmations : ℤ)
    (answer : Except String Response)
    : Except String (List RailTransfer) := do
  let result ← rpc decimals stringify "get_transfers" answer
  let list := ((result.bind (fun r => r.get? "in")).bind Json.array?).getD []
  transfersOf (transfer decimals confirmations) list

end Monero

-----------------------------------------------------------------------------------------
-- Bitcoin
-----------------------------------------------------------------------------------------

namespace Bitcoin

def scale : ℚ := 100000000

def rpc (decimals : Decimals) (stringify : Json → String) (method : String)
    (answer : Except String Response)
    : Except String (Option Json) :=
  Payments.rpc "bitcoind" decimals stringify method answer

/-- `Math.round(amount * SATS_PER_BTC)` where it is a safe integer. A product that overflows is
none, and neither is an integer of its size.
-/
def sats? (amount : Number) : Option ℤ :=
  match amount with
  | .finite q =>
      (Number.ofInt (Binary64.mathRound (Binary64.round (q * scale)))).safeInteger?
  | _ => none

/-- One entry of `listunspent`. -/
def transfer (decimals : Decimals) (confirmations : ℤ) (watched : List ℤ) (u : Json)
    : Except String (Option RailTransfer) := do
  let label ← (Json.orElse (u.get? "label") (.string "")).text decimals
  if ¬Json.allDigits label then return none
  let orderIndex := decimals.read label
  match orderIndex.safeInteger? with
  | none => return none
  | some index =>
      if index ∉ watched then return none
      let amount ← (Json.orElse (u.get? "amount") (.number (.ofInt 0))).toNumber decimals
      match sats? amount with
      | none =>
          let _ ← loggedTxid decimals u
          return none
      | some sats =>
          if sats ≤ 0 then return none
          let depth ← (Json.orElse (u.get? "confirmations") (.number (.ofInt 0))).toNumber decimals
          let txid ← (Json.orElse (u.get? "txid") (.string "")).text decimals
          return some {
            orderIndex
            idempotencyKey := "bitcoin:" ++ txid ++ ":" ++ decimals.write orderIndex
            amount := sats
            confirmations := depth
            final := depth.atLeast confirmations
          }

/-- `incomingTransfers`: nothing is asked when nothing is watched. -/
def incomingTransfers (decimals : Decimals) (stringify : Json → String) (confirmations : ℤ)
    (orderIndices : List ℤ) (answer : Except String Response)
    : Except String (List RailTransfer) := do
  if orderIndices = [] then return []
  let utxos ← rpc decimals stringify "listunspent" answer
  transfersOf (transfer decimals confirmations orderIndices) ((utxos.bind Json.array?).getD [])

end Bitcoin

-----------------------------------------------------------------------------------------
-- The rails
-----------------------------------------------------------------------------------------

inductive Rail where
  | monero
  | bitcoin
  deriving DecidableEq

/-- The `incomingTransfers` of a rail, for the orders it watches. -/
def Rail.incomingTransfers (decimals : Decimals) (stringify : Json → String) (confirmations : ℤ)
    (orderIndices : List ℤ) (answer : Except String Response)
    : Rail → Except String (List RailTransfer)
  | .monero => Monero.incomingTransfers decimals stringify confirmations answer
  | .bitcoin => Bitcoin.incomingTransfers decimals stringify confirmations orderIndices answer

/-- What settlement uses of what a rail reports. -/
def Rail.reported (rail : Rail) (decimals : Decimals) (stringify : Json → String)
    (confirmations : ℤ) (orderIndices : List ℤ) (answer : Except String Response)
    : Except String (List Incoming) := do
  let transfers ← rail.incomingTransfers decimals stringify confirmations orderIndices answer
  return transfers.filterMap RailTransfer.incoming?

-----------------------------------------------------------------------------------------
-- The keys of reported transfers
-----------------------------------------------------------------------------------------

/-- What every emitted transfer satisfies that an entry can become; by induction on the entries. -/
theorem transfersOf_forall {read : Json → Except String (Option RailTransfer)}
    {holds : RailTransfer → Prop}
    (each : ∀ entry transfer, read entry = .ok (some transfer) → holds transfer)
    {entries : List Json} {transfers : List RailTransfer}
    (emitted : transfersOf read entries = .ok transfers)
    : ∀ transfer ∈ transfers, holds transfer := by
  induction entries generalizing transfers with
  | nil =>
      cases emitted
      simp
  | cons entry rest ih =>
      cases first : read entry with
      | error thrown => simp [transfersOf, first, bind, Except.bind] at emitted
      | ok transfer =>
          cases others : transfersOf read rest with
          | error thrown => simp [transfersOf, first, others, bind, Except.bind] at emitted
          | ok more =>
              simp only [transfersOf, first, others, bind, Except.bind, pure, Except.pure,
                Except.ok.injEq] at emitted
              subst emitted
              intro found member
              rcases List.mem_append.mp member with now | later
              · exact each entry found (by rw [first, Option.mem_toList.mp now])
              · exact ih others found later

/-- A text with a colon in it is not empty. -/
theorem colon_ne_empty (before after : String) : before ++ ":" ++ after ≠ "" := by
  intro empty
  have length := congrArg String.length empty
  simp at length

/-- The key of a transaction's outputs to an order. -/
def Rail.keyFor (decimals : Decimals) (txid : String) (orderIndex : Number) : Rail → String
  | .monero => txid ++ ":" ++ decimals.write orderIndex
  | .bitcoin => "bitcoin:" ++ txid ++ ":" ++ decimals.write orderIndex

theorem Monero.transfer_key {decimals : Decimals} {confirmations : ℤ} {t : Json}
    {transfer : RailTransfer}
    (emitted : Monero.transfer decimals confirmations t = .ok (some transfer))
    : ∃ txid, transfer.idempotencyKey = Rail.monero.keyFor decimals txid transfer.orderIndex := by
  unfold Monero.transfer at emitted
  obtain ⟨amount, _, emitted⟩ := Except.bind_eq_ok.mp emitted
  split at emitted
  · obtain ⟨_, _, skipped⟩ := Except.bind_eq_ok.mp emitted
    cases skipped
  · split at emitted
    · cases emitted
    · obtain ⟨orderIndex, _, emitted⟩ := Except.bind_eq_ok.mp emitted
      obtain ⟨depth, _, emitted⟩ := Except.bind_eq_ok.mp emitted
      obtain ⟨txid, _, same⟩ := Except.bind_eq_ok.mp emitted
      cases same
      exact ⟨txid, rfl⟩

theorem Bitcoin.transfer_key {decimals : Decimals} {confirmations : ℤ} {watched : List ℤ}
    {u : Json} {transfer : RailTransfer}
    (emitted : Bitcoin.transfer decimals confirmations watched u = .ok (some transfer))
    : ∃ txid, transfer.idempotencyKey = Rail.bitcoin.keyFor decimals txid transfer.orderIndex := by
  unfold Bitcoin.transfer at emitted
  obtain ⟨label, _, emitted⟩ := Except.bind_eq_ok.mp emitted
  split at emitted
  · cases emitted
  · dsimp only at emitted
    split at emitted
    · cases emitted
    · split at emitted
      · cases emitted
      · obtain ⟨amount, _, emitted⟩ := Except.bind_eq_ok.mp emitted
        split at emitted
        · obtain ⟨_, _, skipped⟩ := Except.bind_eq_ok.mp emitted
          cases skipped
        · split at emitted
          · cases emitted
          · obtain ⟨depth, _, emitted⟩ := Except.bind_eq_ok.mp emitted
            obtain ⟨txid, _, same⟩ := Except.bind_eq_ok.mp emitted
            cases same
            exact ⟨txid, rfl⟩

/-- Every reported inbound has the key of a transaction and its own index. -/
theorem Rail.reported_key {rail : Rail} {decimals : Decimals} {stringify : Json → String}
    {confirmations : ℤ} {orderIndices : List ℤ} {answer : Except String Response}
    {inbounds : List Incoming}
    (reported
      : rail.reported decimals stringify confirmations orderIndices answer = .ok inbounds)
    : ∀ t ∈ inbounds,
        ∃ txid, t.idempotencyKey = rail.keyFor decimals txid (.ofInt t.orderIndex) := by
  obtain ⟨transfers, emitted, same⟩ := Except.bind_eq_ok.mp reported
  cases same
  intro t member
  obtain ⟨transfer, listed, kept⟩ := List.mem_filterMap.mp member
  have keyed
      : ∃ txid, transfer.idempotencyKey = rail.keyFor decimals txid transfer.orderIndex := by
    cases rail with
    | monero =>
        obtain ⟨result, _, emitted⟩ := Except.bind_eq_ok.mp emitted
        exact transfersOf_forall (fun _ _ read => Monero.transfer_key read) emitted _ listed
    | bitcoin =>
        simp only [Rail.incomingTransfers, Bitcoin.incomingTransfers] at emitted
        split at emitted
        · cases emitted
          cases listed
        · obtain ⟨utxos, _, emitted⟩ := Except.bind_eq_ok.mp emitted
          exact transfersOf_forall (fun _ _ read => Bitcoin.transfer_key read) emitted _ listed
  unfold RailTransfer.incoming? at kept
  split at kept
  · rename_i index named
    rw [Option.ite_none_right_eq_some, Option.some.injEq] at kept
    obtain ⟨whole, rfl⟩ := kept
    rw [named] at keyed
    rwa [Number.ofInt, (Rat.den_eq_one_iff index).mp whole]
  · cases kept

/-- No rail reports a transfer without a key. -/
theorem Rail.reported_named {rail : Rail} {decimals : Decimals} {stringify : Json → String}
    {confirmations : ℤ} {orderIndices : List ℤ} {answer : Except String Response}
    {inbounds : List Incoming}
    (reported
      : rail.reported decimals stringify confirmations orderIndices answer = .ok inbounds)
    : ∀ t ∈ inbounds, t.idempotencyKey ≠ "" := by
  intro t member
  obtain ⟨txid, keyed⟩ := Rail.reported_key reported t member
  rw [keyed]
  cases rail with
  | monero => exact colon_ne_empty _ _
  | bitcoin => exact colon_ne_empty _ _

end Nullsink.Payments
