import Nullsink.Ledger.Server
import Nullsink.Lib.Coercion
import Nullsink.Lib.RoundingOrder

/-! The price sources of `rails/rate.ts`: how an answer is read, the sane band, and the failover
from one source to the next.
-/

namespace Nullsink.Payments

open Ecma Ledger

-----------------------------------------------------------------------------------------
-- Parsers
-----------------------------------------------------------------------------------------

/-- `Object.values(value)[0]` of an object or an array. -/
def firstValue? : Json → Option Json
  | .array items => items.head?
  | .object fields => fields.head?.map Prod.snd
  | _ => none

/-- `value[0]`, which is a character of a text. -/
def first? : Json → Option Json
  | .array items => items.head?
  | .string text => text.toList.head?.map (fun c => .string (String.singleton c))
  | .object fields => (Json.object fields).get? "0"
  | _ => none

/-- `Number(value)` where it is a positive finite number, and the parser's own error elsewhere. -/
def parsePrice (decimals : Decimals) (value : Option Json) (failed : String)
    : Except String Number := do
  let price ← (value.map (Json.toNumber decimals)).getD (.ok .nan)
  match price with
  | .finite q => if 0 < q then return price else throw failed
  | _ => throw failed

/-- Kraken's ticker. -/
def parseRate (decimals : Decimals) (body : Json) : Except String Number :=
  let failed := "could not parse XMR/USD from the rate source"
  match body.get? "result" with
  | some result =>
      if result.truthy ∧ (result.isObject ∨ result.array?.isSome) then
        let pair := firstValue? result
        parsePrice decimals ((pair.bind (fun pair => pair.get? "c")).bind first?) failed
      else throw failed
  | none => throw failed

-----------------------------------------------------------------------------------------
-- Sources
-----------------------------------------------------------------------------------------

structure RateSource where
  url : String
  parse : Option (Json → Except String Number)
  name : Option String

structure RateOptions where
  url : String
  parse : Option (Json → Except String Number)
  fallbacks : List RateSource
  cacheMs : Number
  minUsd : Number
  maxUsd : Number

/-- `src.name ?? src.url`. -/
def RateSource.label (src : RateSource) : String :=
  src.name.getD src.url

/-- `src.parse ?? parseRate`. -/
def RateSource.parser (decimals : Decimals) (src : RateSource) : Json → Except String Number :=
  src.parse.getD (parseRate decimals)

namespace RateOptions

variable (decimals : Decimals) (opts : RateOptions)

/-- The primary source first, then the fallbacks. -/
def sources : List RateSource :=
  ⟨opts.url, some (opts.parse.getD (parseRate decimals)), some "primary"⟩ :: opts.fallbacks

def inBand (usd : Number) : Bool :=
  opts.minUsd.le usd && usd.le opts.maxUsd

/-- What one source's answer comes to. The fetch itself may have thrown, or timed out. -/
def fetchOne (src : RateSource) (answer : Except String Response) : Except String Number := do
  let res ← answer
  if ¬res.ok then throw s!"{src.label} HTTP {res.status}"
  else
    match res.body with
    | none => throw "Failed to parse JSON"
    | some body =>
        let usd ← src.parser decimals body
        if ¬opts.inBand usd then
          let band := s!"[{decimals.write opts.minUsd}, {decimals.write opts.maxUsd}]"
          throw s!"{src.label} XMR/USD {decimals.write usd} outside the sane band {band}"
        else return usd

/-- The loop of `refresh` with the answers so far; none while it waits for the next source. -/
def refreshFrom
    : List RateSource → List (Except String Response) → List String
      → Option (Except String Number)
  | [], _, errs => some (.error ("all rate sources failed: " ++ "; ".intercalate errs))
  | _ :: _, [], _ => none
  | src :: rest, answer :: later, errs =>
      match opts.fetchOne decimals src answer with
      | .ok usd => some (.ok usd)
      | .error thrown => refreshFrom rest later (errs ++ [thrown])

/-- `refresh` with the answers so far, in the order in which it asks. -/
def refresh (answers : List (Except String Response)) : Option (Except String Number) :=
  opts.refreshFrom decimals (opts.sources decimals) answers []

end RateOptions

-----------------------------------------------------------------------------------------
-- The first source in band
-----------------------------------------------------------------------------------------

/-- The price that a source's answer carries. -/
def RateSource.quote (decimals : Decimals) (src : RateSource) (answer : Except String Response)
    : Option Number :=
  match answer with
  | .error _ => none
  | .ok res =>
      if res.ok then res.body.bind (fun body => (src.parser decimals body).toOption) else none

namespace RateOptions

variable {decimals : Decimals} {opts : RateOptions}

/-- A source that quotes no price in band. -/
def OutOfBand (decimals : Decimals) (opts : RateOptions)
    (asked : RateSource × Except String Response)
    : Prop :=
  ∀ usd, asked.1.quote decimals asked.2 = some usd → opts.inBand usd = false

/-- A value in band of the first of the sources asked that quotes one. -/
def FirstInBand (decimals : Decimals) (opts : RateOptions) (answers : List (Except String Response))
    (usd : Number)
    : Prop :=
  ∃ before src answer later,
    (opts.sources decimals).zip answers = before ++ (src, answer) :: later
    ∧ src.quote decimals answer = some usd
    ∧ opts.inBand usd = true
    ∧ ∀ asked ∈ before, opts.OutOfBand decimals asked

/-- What a quoted price says of the answer. -/
theorem quote_eq_some_iff {src : RateSource} {answer : Except String Response} {usd : Number}
    : src.quote decimals answer = some usd
      ↔ ∃ res body, answer = .ok res ∧ res.ok = true ∧ res.body = some body
          ∧ src.parser decimals body = .ok usd := by
  cases answer with
  | error thrown => simp [RateSource.quote]
  | ok res =>
      have parsed (result : Except String Number)
          : result.toOption = some usd ↔ result = .ok usd := by
        cases result <;> simp [Except.toOption]
      simp [RateSource.quote, Option.bind_eq_some_iff, parsed]

/-- A source succeeds with the price it quotes, in band. -/
theorem fetchOne_eq_ok_iff {src : RateSource} {answer : Except String Response} {usd : Number}
    : opts.fetchOne decimals src answer = .ok usd
      ↔ src.quote decimals answer = some usd ∧ opts.inBand usd = true := by
  rw [quote_eq_some_iff]
  constructor
  · intro fetched
    obtain ⟨res, answered, fetched⟩ := Except.bind_eq_ok.mp fetched
    split at fetched
    · cases fetched
    · rename_i good
      split at fetched
      · cases fetched
      · rename_i body found
        obtain ⟨price, parsed, fetched⟩ := Except.bind_eq_ok.mp fetched
        split at fetched
        · cases fetched
        · rename_i sane
          cases fetched
          exact ⟨⟨res, body, answered, by simpa using good, found, parsed⟩, by simpa using sane⟩
  · rintro ⟨⟨res, body, rfl, good, found, parsed⟩, sane⟩
    simp only [fetchOne, bind, Except.bind, good, found, parsed, sane]
    rfl

/-- A source that fails quotes no price in band. -/
theorem outOfBand_of_error {src : RateSource} {answer : Except String Response} {thrown : String}
    (failed : opts.fetchOne decimals src answer = .error thrown)
    : opts.OutOfBand decimals (src, answer) := by
  intro usd quoted
  by_contra inside
  have succeeded := fetchOne_eq_ok_iff.mpr ⟨quoted, by simpa using inside⟩
  cases failed.symm.trans succeeded

/-- A refresh succeeds with the value of the first source in band; by induction on the sources. -/
theorem refreshFrom_ok {sources : List RateSource} {answers : List (Except String Response)}
    {errs : List String} {usd : Number}
    (refreshed : opts.refreshFrom decimals sources answers errs = some (.ok usd))
    : ∃ before src answer later,
        sources.zip answers = before ++ (src, answer) :: later
        ∧ src.quote decimals answer = some usd
        ∧ opts.inBand usd = true
        ∧ ∀ asked ∈ before, opts.OutOfBand decimals asked := by
  induction sources generalizing answers errs with
  | nil => cases refreshed
  | cons src rest ih =>
      cases answers with
      | nil => cases refreshed
      | cons answer later =>
          cases fetched : opts.fetchOne decimals src answer with
          | ok price =>
              simp only [refreshFrom, fetched, Option.some.injEq, Except.ok.injEq] at refreshed
              subst refreshed
              obtain ⟨quoted, sane⟩ := fetchOne_eq_ok_iff.mp fetched
              exact ⟨[], src, answer, rest.zip later, rfl, quoted, sane, by simp⟩
          | error thrown =>
              simp only [refreshFrom, fetched] at refreshed
              obtain ⟨before, first, reply, after, split, quoted, sane, missed⟩ := ih refreshed
              refine ⟨(src, answer) :: before, first, reply, after, by simp [split], quoted, sane,
                ?_⟩
              exact List.forall_mem_cons.mpr ⟨outOfBand_of_error fetched, missed⟩

/-- A refresh fails when every source was asked and none is in band; by induction on the
sources.
-/
theorem refreshFrom_error {sources : List RateSource} {answers : List (Except String Response)}
    {errs : List String} {error : String}
    (refreshed : opts.refreshFrom decimals sources answers errs = some (.error error))
    : sources.length ≤ answers.length
      ∧ ∀ asked ∈ sources.zip answers, opts.OutOfBand decimals asked := by
  induction sources generalizing answers errs with
  | nil => simp
  | cons src rest ih =>
      cases answers with
      | nil => cases refreshed
      | cons answer later =>
          cases fetched : opts.fetchOne decimals src answer with
          | ok price => simp [refreshFrom, fetched] at refreshed
          | error thrown =>
              simp only [refreshFrom, fetched] at refreshed
              obtain ⟨asked, missed⟩ := ih refreshed
              exact ⟨by simpa using asked,
                List.forall_mem_cons.mpr ⟨outOfBand_of_error fetched, missed⟩⟩

end RateOptions

end Nullsink.Payments
