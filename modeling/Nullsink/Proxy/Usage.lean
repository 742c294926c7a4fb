import Nullsink.Lib.Runtime
import Nullsink.Proxy.Pricing

/-! The usage adapters of `cost/usage`: what a buffered body or a stream reports as metered. -/

namespace Nullsink.Proxy

open Ecma

inductive UsageEvidence where
  | reported
  | estimated
  deriving DecidableEq

/-- A metered response. A buffered body's model can be any truthy value. -/
structure Metered where
  model : Json
  usage : Usage
  evidence : UsageEvidence

/-- What a scanner falls back on when a stream reports no usage. -/
structure ScannerCtx where
  model : String
  inputTokens : Number

/-- The streaming meter: `feed` also says whether it throws, `result` takes whether the mode is
`evidenced_only`, and the model of a result is a string.
-/
structure UsageScanner where
  State : Type
  start : State
  feed : State → String → State × Bool
  result : State → Bool → Option Metered
  errored : State → Bool
  result_named : ∀ state evidencedOnly metered,
    result state evidencedOnly = some metered → metered.model.string?.isSome

section Adapters

variable (js : Runtime)

/-- An input total split into what was not cached, read from the cache and written to it, with
each slice at most what remains of the total.
-/
def splitOpenAIInput (totalInput cached written : Number) (outputTokens : Number) : Usage :=
  let read := cached.min totalInput
  let write := written.min (totalInput.sub js.fp read)
  {
    inputTokens := some (.number ((totalInput.sub js.fp read).sub js.fp write))
    outputTokens := some (.number outputTokens)
    cacheCreationInputTokens := some (.number write)
    cacheReadInputTokens := some (.number read)
    cacheCreation1hInputTokens := none
  }

/-- An OpenAI usage object, by the names its shape gives the totals and the details. -/
def mapOpenAIUsage (input details output : String) (u : Json) : Usage :=
  let d := (u.get? details).getD .null
  splitOpenAIInput js (sanitizeCount (u.get? input)) (sanitizeCount (d.get? "cached_tokens"))
    (sanitizeCount (d.get? "cache_write_tokens")) (sanitizeCount (u.get? output))

def mapOpenAIChatUsage (u : Json) : Usage :=
  mapOpenAIUsage js "prompt_tokens" "prompt_tokens_details" "completion_tokens" u

def mapOpenAIResponsesUsage (u : Json) : Usage :=
  mapOpenAIUsage js "input_tokens" "input_tokens_details" "output_tokens" u

/-- The flat usage of an Anthropic usage object; only the 1-hour slice is nested. -/
def flattenAnthropicUsage (u : Json) : Usage where
  inputTokens := u.get? "input_tokens"
  outputTokens := u.get? "output_tokens"
  cacheCreationInputTokens := u.get? "cache_creation_input_tokens"
  cacheReadInputTokens := u.get? "cache_read_input_tokens"
  cacheCreation1hInputTokens :=
    Json.coalesce (((u.get? "cache_creation").getD .null).get? "ephemeral_1h_input_tokens")
      (some (.number (.ofInt 0)))

/-- Model and usage of a buffered body, where both are truthy. -/
def extractMetered (mapUsage : Json → Usage) (text : String) : Option Metered :=
  match js.parse text with
  | none => none
  | some obj =>
      match (obj.get? "model").filter Json.truthy, (obj.get? "usage").filter Json.truthy with
      | some model, some usage => some ⟨model, mapUsage usage, .reported⟩
      | _, _ => none

/-- `extractUsage` of the Anthropic adapter. -/
def extractUsage : String → Option Metered := extractMetered js flattenAnthropicUsage

def extractOpenAIChatUsage : String → Option Metered :=
  extractMetered js (mapOpenAIChatUsage js)

def extractOpenAIResponsesUsage : String → Option Metered :=
  extractMetered js (mapOpenAIResponsesUsage js)

-----------------------------------------------------------------------------------------
-- Streams
-----------------------------------------------------------------------------------------

/-- The JSON value a line of an event stream carries, if any. -/
def linePayload (line : List Char) : Option Json :=
  let line := trimEnd line
  if "data:".toList.isPrefixOf line then
    let payload := trim (line.drop 5)
    if payload = [] ∨ payload = "[DONE]".toList then none else js.parse (String.ofList payload)
  else none

/-- A scanner's unfinished line and what it has read from the finished ones. -/
structure ScanState (Data : Type) where
  buf : List Char
  data : Data

/-- The loop of `feed` over the complete lines of the buffer. A throw leaves the later ones in
it.
-/
def feedLines {Data : Type} (event : Data → Json → Data × Bool) (tail : List Char)
    : Data → List (List Char) → ScanState Data × Bool
  | data, [] => (⟨tail, data⟩, false)
  | data, line :: lines =>
      match linePayload js line with
      | none => feedLines event tail data lines
      | some evt =>
          match event data evt with
          | (next, false) => feedLines event tail next lines
          | (next, true) => (⟨joinLines lines ++ tail, next⟩, true)

/-- `feed`, by what one event does to the data read so far and whether it throws. -/
def feedChunk {Data : Type} (event : Data → Json → Data × Bool) (state : ScanState Data)
    (chunk : String)
    : ScanState Data × Bool :=
  let (lines, tail) := splitLines (state.buf ++ chunk.toList)
  feedLines js event tail state.data lines

/-- What the Anthropic scanner keeps. -/
structure AnthropicScan where
  model : Option String
  usage : Option Usage
  errored : Bool

/-- A count of a delta: restated where it is a number. -/
def restate (delta : Option Json) (previous : Option Json) : Option Json :=
  match delta with
  | some (.number x) => some (.number x)
  | _ => previous

/-- The usage of a `message_start`, with 0 for absent counts. -/
def startUsage (u : Json) : Usage :=
  let count (value : Option Json) := Json.coalesce value (some (.number (.ofInt 0)))
  let flat := flattenAnthropicUsage u
  {
    inputTokens := count flat.inputTokens
    outputTokens := count flat.outputTokens
    cacheCreationInputTokens := count flat.cacheCreationInputTokens
    cacheReadInputTokens := count flat.cacheReadInputTokens
    cacheCreation1hInputTokens := flat.cacheCreation1hInputTokens
  }

/-- The usage after a `message_delta` that carries one. -/
def deltaUsage (usage : Usage) (u : Json) : Usage where
  inputTokens := restate (u.get? "input_tokens") usage.inputTokens
  outputTokens := restate (u.get? "output_tokens") usage.outputTokens
  cacheCreationInputTokens :=
    restate (u.get? "cache_creation_input_tokens") usage.cacheCreationInputTokens
  cacheReadInputTokens := restate (u.get? "cache_read_input_tokens") usage.cacheReadInputTokens
  cacheCreation1hInputTokens :=
    restate (((u.get? "cache_creation").getD .null).get? "ephemeral_1h_input_tokens")
      usage.cacheCreation1hInputTokens

/-- One event of an Anthropic stream. Every access is guarded, so none throws. -/
def anthropicEvent (scan : AnthropicScan) (evt : Json) : AnthropicScan × Bool :=
  let type := evt.get? "type"
  let message := (evt.get? "message").getD .null
  let started := (message.get? "usage").filter Json.truthy
  let delta := (evt.get? "usage").filter Json.truthy
  let scan := if Json.isText type "error" then { scan with errored := true } else scan
  if Json.isText type "message_start" ∧ started.isSome then
    ({
      scan with
      model := ((message.get? "model").bind Json.string?).or scan.model
      usage := started.map startUsage
    }, false)
  else if Json.isText type "message_delta" ∧ delta.isSome then
    ({ scan with usage := scan.usage.map (deltaUsage · (delta.getD .null)) }, false)
  else (scan, false)

/-- `streamUsageScanner`. -/
def streamUsageScanner : UsageScanner where
  State := ScanState AnthropicScan
  start := ⟨[], none, none, false⟩
  feed := feedChunk js anthropicEvent
  result := fun state _ =>
    match state.data.model.filter (fun model => model ≠ ""), state.data.usage with
    | some model, some usage => some ⟨.string model, usage, .reported⟩
    | _, _ => none
  errored := fun state => state.data.errored
  result_named := by
    intro state _ metered found
    split at found
    · cases found
      rfl
    · cases found

/-- What an OpenAI scanner keeps. -/
structure OpenAIScan where
  model : Option String
  finalUsage : Option Usage
  contentChars : ℕ
  sawAny : Bool
  failed : Bool

/-- The length of a string, and 0 for anything else. -/
def visibleChars (value : Option Json) : ℕ :=
  ((value.bind Json.string?).map Json.stringLength).getD 0

/-- The visible output of a choice of a chat chunk: its text and its reasoning. -/
def choiceChars (choice : Json) : ℕ :=
  let d := (choice.get? "delta").getD .null
  visibleChars (d.get? "content")
    + visibleChars (Json.coalesce (d.get? "reasoning") (d.get? "reasoning_content"))

/-- One chunk of a chat stream. Reading a field of `null` throws. -/
def openaiChatEvent (scan : OpenAIScan) (evt : Json) : OpenAIScan × Bool :=
  let seen := { scan with sawAny := true }
  match evt with
  | .null => (seen, true)
  | _ =>
      ({
        seen with
        failed :=
          scan.failed ∨ Json.holds (evt.get? "error") ∨ Json.isText (evt.get? "type") "error"
        model := ((evt.get? "model").bind Json.string?).or scan.model
        finalUsage :=
          (((evt.get? "usage").filter Json.truthy).map (mapOpenAIChatUsage js)).or scan.finalUsage
        contentChars :=
          scan.contentChars
            + ((((evt.get? "choices").bind Json.array?).getD []).map choiceChars).sum
      }, false)

/-- One event of a responses stream. Reading a field of `null` throws. -/
def openaiResponsesEvent (scan : OpenAIScan) (evt : Json) : OpenAIScan × Bool :=
  let seen := { scan with sawAny := true }
  match evt with
  | .null => (seen, true)
  | _ =>
      let response := (evt.get? "response").getD .null
      let type := evt.get? "type"
      ({
        seen with
        failed :=
          scan.failed ∨ Json.isText type "response.failed" ∨ Json.isText type "error"
          ∨ Json.holds (evt.get? "error")
        model := ((response.get? "model").bind Json.string?).or scan.model
        finalUsage :=
          (((response.get? "usage").filter Json.truthy).map (mapOpenAIResponsesUsage js)).or
            scan.finalUsage
        contentChars :=
          scan.contentChars
            + (if Json.isText type "response.output_text.delta" then
                visibleChars (evt.get? "delta")
              else 0)
      }, false)

/-- The estimate of a stream without usage: the billable input and the visible output. -/
def estimatedUsage (ctx : ScannerCtx) (contentChars : ℕ) : Usage where
  inputTokens := some (.number ctx.inputTokens)
  outputTokens := some (.number (((Number.ofInt contentChars).divBy js.fp 4).ceil))
  cacheCreationInputTokens := some (.number (.ofInt 0))
  cacheReadInputTokens := some (.number (.ofInt 0))
  cacheCreation1hInputTokens := none

/-- `result` of both OpenAI scanners. -/
def openaiResult (ctx : ScannerCtx) (scan : OpenAIScan) (evidencedOnly : Bool)
    : Option Metered :=
  let model := Json.string (scan.model.getD ctx.model)
  match scan.finalUsage with
  | some usage => some ⟨model, usage, .reported⟩
  | none =>
      if ¬scan.sawAny then none
      else if evidencedOnly then
        if scan.contentChars = 0 then none
        else some ⟨model, estimatedUsage js ctx scan.contentChars, .estimated⟩
      else if scan.failed then none
      else some ⟨model, estimatedUsage js ctx scan.contentChars, .estimated⟩

theorem openaiResult_named {ctx : ScannerCtx} {scan : OpenAIScan} {evidencedOnly : Bool}
    {metered : Metered} (found : openaiResult js ctx scan evidencedOnly = some metered)
    : metered.model.string?.isSome := by
  unfold openaiResult at found
  grind [Json.string?]

/-- An OpenAI scanner, by what one event does. -/
def openaiScanner (event : OpenAIScan → Json → OpenAIScan × Bool) (ctx : ScannerCtx)
    : UsageScanner where
  State := ScanState OpenAIScan
  start := ⟨[], none, none, 0, false, false⟩
  feed := feedChunk js event
  result := fun state => openaiResult js ctx state.data
  errored := fun state => state.data.failed
  result_named := fun _ _ _ found => openaiResult_named js found

def openaiChatScanner : ScannerCtx → UsageScanner := openaiScanner js (openaiChatEvent js)

def openaiResponsesScanner : ScannerCtx → UsageScanner :=
  openaiScanner js (openaiResponsesEvent js)

end Adapters

end Nullsink.Proxy
