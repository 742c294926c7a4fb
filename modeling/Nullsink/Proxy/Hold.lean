import Nullsink.Lib.Runtime
import Nullsink.Proxy.Pricing

/-! Sizing the pre-flight hold: `hold.ts`. -/

namespace Nullsink.Proxy

open Ecma

structure HoldInput where
  model : String
  raw : String
  body : Json
  maxTokens : Number
  oneHourCache : Bool

inductive InputTokensSource where
  | counted
  | byteBound
  deriving DecidableEq

structure HoldResult where
  micros : Number
  inputTokens : Number
  inputTokensSource : InputTokensSource

/-- Which estimator a provider is configured with. -/
inductive HoldEstimator where
  | byteBoundHold
  | countTokensHold
  deriving DecidableEq

section Estimators

variable (js : Runtime) (book : PriceBook)

/-- `Buffer.byteLength(raw, "utf8")`. -/
def utf8Bytes (raw : String) : Number := .ofInt raw.utf8ByteSize

/-- The byte bound; `none` is a throw, as everywhere here. -/
def byteBoundHold (input : HoldInput) : Option HoldResult :=
  (priceHoldBound js.fp book input.model (utf8Bytes input.raw) input.maxTokens
    input.oneHourCache).map (fun micros => ⟨micros, utf8Bytes input.raw, .byteBound⟩)

/-- The count in the counter's answer: a finite number of at least 1. -/
def countedTokens (data : Json) : Option Number :=
  match data.get? "input_tokens" with
  | some (.number (.finite q)) => if q < 1 then none else some (.finite q)
  | _ => none

/-- A count with its headroom: `HOLD_INPUT_MARGIN` times it, plus `HOLD_INPUT_PAD`. -/
def paddedTokens (inputTokens : Number) : Number :=
  (inputTokens.mul js.fp (js.fp.toNumber (11 / 10))).ceil.add js.fp (.ofInt 64)

/-- `countTokensHold`, from the data of the counter's answer, `none` where the call failed. -/
def countTokensHold (input : HoldInput) (answer : Option Json) : Option HoldResult :=
  match answer.bind countedTokens with
  | none => byteBoundHold js book input
  | some inputTokens =>
      match byteBoundHold js book input,
        priceHoldBound js.fp book input.model (paddedTokens js inputTokens) input.maxTokens
          input.oneHourCache with
      | some byteBound, some counted =>
          some ⟨byteBound.micros.min counted, inputTokens, .counted⟩
      | _, _ => byteBoundHold js book input

def HoldEstimator.estimate (estimator : HoldEstimator) (input : HoldInput)
    (answer : Option Json)
    : Option HoldResult :=
  match estimator with
  | byteBoundHold => Proxy.byteBoundHold js book input
  | countTokensHold => Proxy.countTokensHold js book input answer

end Estimators

end Nullsink.Proxy
