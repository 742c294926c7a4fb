import Nullsink.Proxy.ScannerFeed
import Nullsink.Proxy.StreamSettlement

/-! What the frames of a stream say, and that the scanners accumulate just that: in-band errors,
reported usage, the model and the visible output.
-/

namespace Nullsink.Proxy

open Ecma

namespace StreamShape

/-- Whether a frame is an error of the upstream. -/
def inBandError : StreamShape → Json → Bool
  | anthropic, evt => Json.isText (evt.get? "type") "error"
  | openaiChat, evt => Json.holds (evt.get? "error") ∨ Json.isText (evt.get? "type") "error"
  | openaiResponses, evt =>
      Json.isText (evt.get? "type") "response.failed"
      ∨ Json.isText (evt.get? "type") "error"
      ∨ Json.holds (evt.get? "error")

/-- The usage object that a frame reports. -/
def usageObject : StreamShape → Json → Option Json
  | anthropic, evt =>
      if Json.isText (evt.get? "type") "message_start" then
        (((evt.get? "message").getD .null).get? "usage").filter Json.truthy
      else none
  | openaiChat, evt => (evt.get? "usage").filter Json.truthy
  | openaiResponses, evt =>
      (((evt.get? "response").getD .null).get? "usage").filter Json.truthy

/-- The model that a frame names. -/
def namedModel : StreamShape → Json → Option String
  | anthropic, evt =>
      if (usageObject anthropic evt).isSome then
        (((evt.get? "message").getD .null).get? "model").bind Json.string?
      else none
  | openaiChat, evt => (evt.get? "model").bind Json.string?
  | openaiResponses, evt => (((evt.get? "response").getD .null).get? "model").bind Json.string?

/-- The characters of visible output of a frame; Anthropic reports usage instead. -/
def visibleOutput : StreamShape → Json → ℕ
  | anthropic, _ => 0
  | openaiChat, evt => ((((evt.get? "choices").bind Json.array?).getD []).map choiceChars).sum
  | openaiResponses, evt =>
      if Json.isText (evt.get? "type") "response.output_text.delta" then
        visibleChars (evt.get? "delta")
      else 0

variable (js : Runtime)

/-- The usage reported so far, after one more frame. -/
def usageAfter : StreamShape → Option Usage → Json → Option Usage
  | anthropic, usage, evt =>
      match usageObject anthropic evt, (evt.get? "usage").filter Json.truthy with
      | some u, _ => some (startUsage u)
      | none, some u =>
          if Json.isText (evt.get? "type") "message_delta" then usage.map (deltaUsage · u)
          else usage
      | none, none => usage
  | openaiChat, usage, evt =>
      ((usageObject openaiChat evt).map (mapOpenAIChatUsage js)).or usage
  | openaiResponses, usage, evt =>
      ((usageObject openaiResponses evt).map (mapOpenAIResponsesUsage js)).or usage

/-- What a scanner has accumulated after one more frame. -/
def readFrame (shape : StreamShape) (read : ScanReading) (evt : Json) : ScanReading where
  usage := shape.usageAfter js read.usage evt
  model := (shape.namedModel evt).or read.model
  contentChars := read.contentChars + shape.visibleOutput evt
  errored := read.errored || shape.inBandError evt

/-- What a scanner has accumulated after some frames. -/
def readFrames (shape : StreamShape) (frames : List Json) : ScanReading :=
  frames.foldl (shape.readFrame js) ⟨none, none, 0, false⟩

/-- The frames a scanner reads of a text: all, or up to the one on which it throws. -/
def framesRead (shape : StreamShape) (text : List Char) : List Json :=
  upToFirst shape.throwsOn (dataFrames js text)

theorem readFrames_snoc (shape : StreamShape) (earlier : List Json) (evt : Json)
    : shape.readFrames js (earlier ++ [evt])
      = shape.readFrame js (shape.readFrames js earlier) evt := by
  simp [readFrames]

theorem errored_readFrames (shape : StreamShape) (frames : List Json)
    : (shape.readFrames js frames).errored = frames.any shape.inBandError := by
  induction frames using List.reverseRecOn with
  | nil => rfl
  | append_singleton earlier evt ih => simp [readFrames_snoc, readFrame, ih]

theorem usage_readFrames_foldl (shape : StreamShape) (frames : List Json)
    : (shape.readFrames js frames).usage = frames.foldl (shape.usageAfter js) none := by
  induction frames using List.reverseRecOn with
  | nil => rfl
  | append_singleton earlier evt ih => simp [readFrames_snoc, readFrame, ih]

theorem contentChars_readFrames (shape : StreamShape) (frames : List Json)
    : (shape.readFrames js frames).contentChars = (frames.map shape.visibleOutput).sum := by
  induction frames using List.reverseRecOn with
  | nil => rfl
  | append_singleton earlier evt ih => simp [readFrames_snoc, readFrame, ih]

/-- The model is the last one that a frame names. -/
theorem model_readFrames (shape : StreamShape) (frames : List Json)
    : (shape.readFrames js frames).model = (frames.filterMap shape.namedModel).getLast? := by
  induction frames using List.reverseRecOn with
  | nil => rfl
  | append_singleton earlier evt ih =>
      cases named : shape.namedModel evt <;> simp [readFrames_snoc, readFrame, ih, named]

/-- There is usage once a frame has reported some. -/
theorem usage_readFrames (shape : StreamShape) (frames : List Json)
    : (shape.readFrames js frames).usage.isSome
      = frames.any (fun evt => (shape.usageObject evt).isSome) := by
  induction frames using List.reverseRecOn with
  | nil => rfl
  | append_singleton earlier evt ih =>
      rw [readFrames_snoc, List.any_append, ← ih]
      cases shape with
      | anthropic =>
          simp only [readFrame, usageAfter]
          cases reported : usageObject anthropic evt with
          | some u => simp [reported]
          | none =>
              cases (evt.get? "usage").filter Json.truthy with
              | none => simp [reported]
              | some u =>
                  by_cases restates : Json.isText (evt.get? "type") "message_delta" <;>
                    simp [reported, restates]
      | openaiChat => simp [readFrame, usageAfter, Bool.or_comm]
      | openaiResponses => simp [readFrame, usageAfter, Bool.or_comm]

theorem anthropicEvent_reading (scan : AnthropicScan) (evt : Json)
    : (anthropicEvent scan evt).1.reading = anthropic.readFrame js scan.reading evt := by
  have flag (failed : Bool) (scan : AnthropicScan)
      : (if failed then { scan with errored := true } else scan)
        = { scan with errored := scan.errored || failed } := by
    cases failed <;> simp
  by_cases start : Json.isText (evt.get? "type") "message_start"
  · cases started : (((evt.get? "message").getD .null).get? "usage").filter Json.truthy with
    | some u =>
        simp [anthropicEvent, readFrame, usageAfter, usageObject, namedModel, visibleOutput,
          inBandError, AnthropicScan.reading, flag, start, started]
    | none =>
        cases delta : (evt.get? "usage").filter Json.truthy <;>
          by_cases restates : Json.isText (evt.get? "type") "message_delta" <;>
          simp [anthropicEvent, readFrame, usageAfter, usageObject, namedModel, visibleOutput,
            inBandError, AnthropicScan.reading, flag, start, started, delta, restates]
  · cases delta : (evt.get? "usage").filter Json.truthy <;>
      by_cases restates : Json.isText (evt.get? "type") "message_delta" <;>
      simp [anthropicEvent, readFrame, usageAfter, usageObject, namedModel, visibleOutput,
        inBandError, AnthropicScan.reading, flag, start, delta, restates]

/-- A chat frame, `null` included, is read by one formula. -/
theorem openaiChatEvent_reading (scan : OpenAIScan) (evt : Json)
    : (openaiChatEvent js scan evt).1.reading = openaiChat.readFrame js scan.reading evt := by
  cases evt with
  | object fields =>
      refine ScanReading.mk.injEq .. ▸ ⟨rfl, rfl, rfl, ?_⟩
      exact (Bool.decide_or _ _).trans (congrArg (· || _) Bool.decide_eq_true)
  | _ =>
      simp [openaiChatEvent, readFrame, OpenAIScan.reading, usageAfter, usageObject, namedModel,
        visibleOutput, inBandError, Json.get?, Json.isText, Json.holds]

theorem openaiResponsesEvent_reading (scan : OpenAIScan) (evt : Json)
    : (openaiResponsesEvent js scan evt).1.reading
      = openaiResponses.readFrame js scan.reading evt := by
  cases evt with
  | object fields =>
      refine ScanReading.mk.injEq .. ▸ ⟨rfl, rfl, rfl, ?_⟩
      exact (Bool.decide_or _ _).trans (congrArg (· || _) Bool.decide_eq_true)
  | _ =>
      simp [openaiResponsesEvent, readFrame, OpenAIScan.reading, usageAfter, usageObject,
        namedModel, visibleOutput, inBandError, Json.get?, Json.isText, Json.holds]

/-- Chunks accumulate what their frames say, up to one that throws. -/
theorem reading_feedAll (ctx : ScannerCtx) (shape : StreamShape) (chunks : List String)
    : shape.reading js ctx ((shape.scanner js ctx).feedAll chunks).1
      = shape.readFrames js (shape.framesRead js (chunkText chunks)) := by
  cases shape with
  | anthropic =>
      refine (congrArg AnthropicScan.reading ((feedChunks_data _ _).trans
        (untilThrow_eq_foldl anthropicEvent_total _ _))).trans ?_
      exact (List.foldl_hom AnthropicScan.reading
        (fun scan evt => (anthropicEvent_reading js scan evt).symm)).symm
  | openaiChat =>
      refine (congrArg OpenAIScan.reading ((feedChunks_data _ _).trans
        (untilThrow_eq_foldl (openaiChatEvent_throws js) _ _))).trans ?_
      exact (List.foldl_hom OpenAIScan.reading
        (fun scan evt => (openaiChatEvent_reading js scan evt).symm)).symm
  | openaiResponses =>
      refine (congrArg OpenAIScan.reading ((feedChunks_data _ _).trans
        (untilThrow_eq_foldl (openaiResponsesEvent_throws js) _ _))).trans ?_
      exact (List.foldl_hom OpenAIScan.reading
        (fun scan evt => (openaiResponsesEvent_reading js scan evt).symm)).symm

/-- After any frame an OpenAI scanner has seen one. -/
theorem sawAny_foldl {event : OpenAIScan → Json → OpenAIScan × Bool}
    (seen : ∀ scan evt, (event scan evt).1.sawAny = true) (frames : List Json)
    : (frames.foldl (fun scan evt => (event scan evt).1) OpenAIScan.start).sawAny
      = !frames.isEmpty := by
  induction frames using List.reverseRecOn with
  | nil => rfl
  | append_singleton earlier evt _ =>
      rw [List.foldl_append]
      simp [seen]

/-- The metered usage that the frames of a stream come to. -/
def meteredOf (ctx : ScannerCtx) (shape : StreamShape) (frames : List Json)
    (evidencedOnly : Bool)
    : Option Metered :=
  let read := shape.readFrames js frames
  match shape with
  | anthropic =>
      match read.model.filter (fun model => model ≠ ""), read.usage with
      | some model, some usage => some ⟨.string model, usage, .reported⟩
      | _, _ => none
  | _ =>
      openaiResult js ctx
        ⟨read.model, read.usage, read.contentChars, !frames.isEmpty, read.errored⟩ evidencedOnly

/-- A scan is what has been accumulated and whether there was a frame. -/
theorem openaiResult_reading (ctx : ScannerCtx) {scan : OpenAIScan} {read : ScanReading}
    {sawAny evidencedOnly : Bool} (accumulated : scan.reading = read) (seen : scan.sawAny = sawAny)
    : openaiResult js ctx scan evidencedOnly
      = openaiResult js ctx ⟨read.model, read.usage, read.contentChars, sawAny, read.errored⟩
        evidencedOnly := by
  subst accumulated seen
  rfl

theorem result_feedAll (ctx : ScannerCtx) (shape : StreamShape) (chunks : List String)
    (evidencedOnly : Bool)
    : (shape.scanner js ctx).result ((shape.scanner js ctx).feedAll chunks).1 evidencedOnly
      = shape.meteredOf js ctx (shape.framesRead js (chunkText chunks)) evidencedOnly := by
  have accumulated := reading_feedAll js ctx shape chunks
  cases shape with
  | anthropic =>
      unfold meteredOf
      rw [← accumulated]
      rfl
  | openaiChat =>
      refine openaiResult_reading js ctx accumulated ?_
      refine (congrArg OpenAIScan.sawAny ((feedChunks_data _ _).trans
        (untilThrow_eq_foldl (openaiChatEvent_throws js) _ _))).trans ?_
      exact sawAny_foldl (fun _ evt => by cases evt <;> rfl) _
  | openaiResponses =>
      refine openaiResult_reading js ctx accumulated ?_
      refine (congrArg OpenAIScan.sawAny ((feedChunks_data _ _).trans
        (untilThrow_eq_foldl (openaiResponsesEvent_throws js) _ _))).trans ?_
      exact sawAny_foldl (fun _ evt => by cases evt <;> rfl) _

theorem errored_feedAll (ctx : ScannerCtx) (shape : StreamShape) (chunks : List String)
    : (shape.scanner js ctx).errored ((shape.scanner js ctx).feedAll chunks).1
      = (shape.readFrames js (shape.framesRead js (chunkText chunks))).errored := by
  rw [← reading_feedAll js ctx]
  cases shape <;> rfl

end StreamShape

end Nullsink.Proxy
