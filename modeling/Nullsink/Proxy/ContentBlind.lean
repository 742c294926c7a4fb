import Nullsink.Lib.Redact
import Nullsink.Proxy.BufferedPricing
import Nullsink.Proxy.EventText
import Nullsink.Proxy.StreamReading

/-! Metering does not read what a model writes: streams whose frames differ in assistant content
alone are metered alike, and so are such bodies. An estimate reads the lengths of the content.
-/

namespace Nullsink.Proxy

open Ecma

namespace StreamShape

/-- Where the frames of a stream hold assistant content. -/
def contentPaths : StreamShape → List (List Json.Step)
  | anthropic => [[.field "delta", .field "text"]]
  | openaiChat =>
      ["content", "reasoning", "reasoning_content"].map
        (fun key => [.field "choices", .items, .field "delta", .field key])
  | openaiResponses => [[.field "delta"]]

/-- Where a buffered body holds assistant content. -/
def bodyContentPaths : StreamShape → List (List Json.Step)
  | anthropic => [[.field "content", .items, .field "text"]]
  | openaiChat =>
      ["content", "reasoning", "reasoning_content"].map
        (fun key => [.field "choices", .items, .field "message", .field key])
  | openaiResponses => [[.field "output", .items, .field "content", .items, .field "text"]]

/-- A frame without its content. -/
def withoutContent (shape : StreamShape) : Json → Json :=
  Json.redact (fun _ => "") shape.contentPaths

/-- A frame with the lengths of its content alone. -/
def withContentLengths (shape : StreamShape) : Json → Json :=
  Json.redact Json.blanked shape.contentPaths

/-- A buffered body without its content. -/
def bodyWithoutContent (shape : StreamShape) : Json → Json :=
  Json.redact (fun _ => "") shape.bodyContentPaths

/-- The field of a frame that holds its content. -/
def contentField : StreamShape → String
  | anthropic => "delta"
  | openaiChat => "choices"
  | openaiResponses => "delta"

section Frames

variable {mask : String → String} {shape : StreamShape} {path : List Json.Step}

theorem head_of_contentPath (content : path ∈ shape.contentPaths)
    : path.head? = some (.field shape.contentField) := by
  cases shape with
  | anthropic => simp_all [contentPaths, contentField]
  | openaiChat =>
      obtain ⟨key, _, rfl⟩ := List.mem_map.mp content
      rfl
  | openaiResponses => simp_all [contentPaths, contentField]

/-- The other fields of a frame are kept. -/
theorem get?_redactAt_content (content : path ∈ shape.contentPaths) (key : String)
    (other : shape.contentField ≠ key) (evt : Json)
    : (Json.redactAt mask path evt).get? key = evt.get? key :=
  Json.get?_redactAt_other (by simpa [head_of_contentPath content] using other) evt

theorem inBandError_redactAt (content : path ∈ shape.contentPaths) (evt : Json)
    : shape.inBandError (Json.redactAt mask path evt) = shape.inBandError evt := by
  cases shape with
  | anthropic => simp only [inBandError, get?_redactAt_content content "type" (by decide)]
  | openaiChat =>
      simp only [inBandError, get?_redactAt_content content "error" (by decide),
        get?_redactAt_content content "type" (by decide)]
  | openaiResponses =>
      simp only [inBandError, get?_redactAt_content content "error" (by decide),
        get?_redactAt_content content "type" (by decide)]

theorem usageObject_redactAt (content : path ∈ shape.contentPaths) (evt : Json)
    : shape.usageObject (Json.redactAt mask path evt) = shape.usageObject evt := by
  cases shape with
  | anthropic =>
      simp only [usageObject, get?_redactAt_content content "type" (by decide),
        get?_redactAt_content content "message" (by decide)]
  | openaiChat => simp only [usageObject, get?_redactAt_content content "usage" (by decide)]
  | openaiResponses =>
      simp only [usageObject, get?_redactAt_content content "response" (by decide)]

theorem namedModel_redactAt (content : path ∈ shape.contentPaths) (evt : Json)
    : shape.namedModel (Json.redactAt mask path evt) = shape.namedModel evt := by
  cases shape with
  | anthropic =>
      simp only [namedModel, usageObject_redactAt content,
        get?_redactAt_content content "message" (by decide)]
  | openaiChat => simp only [namedModel, get?_redactAt_content content "model" (by decide)]
  | openaiResponses =>
      simp only [namedModel, get?_redactAt_content content "response" (by decide)]

theorem usageAfter_redactAt (js : Runtime) (content : path ∈ shape.contentPaths)
    (usage : Option Usage) (evt : Json)
    : shape.usageAfter js usage (Json.redactAt mask path evt)
      = shape.usageAfter js usage evt := by
  cases shape with
  | anthropic =>
      simp only [usageAfter, usageObject_redactAt content,
        get?_redactAt_content content "usage" (by decide),
        get?_redactAt_content content "type" (by decide)]
  | openaiChat => simp only [usageAfter, usageObject_redactAt content]
  | openaiResponses => simp only [usageAfter, usageObject_redactAt content]

/-- Strings of kept length count as they did, and nothing else counts. -/
theorem visibleChars_redactAt (keeps : Json.KeepsLength mask)
    (value : Option Json)
    : visibleChars (value.map (Json.redactAt mask [])) = visibleChars value := by
  cases value with
  | none => rfl
  | some value => simp [visibleChars, Json.stringLength_redactAt keeps]

/-- A redacted string is present where it was. -/
theorem visibleChars_coalesce (keeps : Json.KeepsLength mask)
    (value fallback : Option Json)
    : visibleChars (Json.coalesce (value.map (Json.redactAt mask [])) fallback)
        = visibleChars (Json.coalesce value fallback)
      ∧ visibleChars (Json.coalesce value (fallback.map (Json.redactAt mask [])))
        = visibleChars (Json.coalesce value fallback) := by
  have counted := visibleChars_redactAt keeps
  cases value with
  | none => exact ⟨rfl, counted fallback⟩
  | some value =>
      cases value with
      | null => exact ⟨rfl, counted fallback⟩
      | string text => exact ⟨counted (some (.string text)), rfl⟩
      | _ => exact ⟨rfl, rfl⟩

theorem choiceChars_redactAt (keeps : Json.KeepsLength mask)
    {key : String} (content : key ∈ ["content", "reasoning", "reasoning_content"]) (choice : Json)
    : choiceChars (Json.redactAt mask [.field "delta", .field key] choice)
      = choiceChars choice := by
  unfold choiceChars
  rw [Json.get?_redactAt_field]
  cases choice.get? "delta" with
  | none => rfl
  | some d =>
      have other (name : String) (different : key ≠ name)
          : (Json.redactAt mask [.field key] d).get? name = d.get? name :=
        Json.get?_redactAt_other (by simpa using different) d
      simp only [Option.map_some, Option.getD_some]
      simp only [List.mem_cons, List.not_mem_nil, or_false] at content
      rcases content with rfl | rfl | rfl
      · rw [Json.get?_redactAt_field, other "reasoning" (by decide),
          other "reasoning_content" (by decide), visibleChars_redactAt keeps]
      · rw [Json.get?_redactAt_field, other "content" (by decide),
          other "reasoning_content" (by decide), (visibleChars_coalesce keeps _ _).1]
      · rw [Json.get?_redactAt_field, other "content" (by decide),
          other "reasoning" (by decide), (visibleChars_coalesce keeps _ _).2]

/-- Content of kept length is as much visible output as it was. -/
theorem visibleOutput_redactAt (keeps : Json.KeepsLength mask)
    (content : path ∈ shape.contentPaths) (evt : Json)
    : shape.visibleOutput (Json.redactAt mask path evt) = shape.visibleOutput evt := by
  cases shape with
  | anthropic => rfl
  | openaiChat =>
      obtain ⟨key, member, rfl⟩ := List.mem_map.mp content
      simp only [visibleOutput, Json.get?_redactAt_field]
      cases evt.get? "choices" with
      | none => rfl
      | some choices =>
          simp only [Option.map_some, Option.bind_some, Json.array?_redactAt_items]
          cases choices.array? with
          | none => rfl
          | some items =>
              simp [Function.comp_def, choiceChars_redactAt keeps member]
  | openaiResponses =>
      simp only [visibleOutput, get?_redactAt_content content "type" (by decide)]
      rw [List.mem_singleton.mp content, Json.get?_redactAt_field, visibleChars_redactAt keeps]

end Frames

-----------------------------------------------------------------------------------------
-- Streams
-----------------------------------------------------------------------------------------

section Streams

variable {shape : StreamShape} {first second : List Json}

/-- Frames that are alike without content report alike. -/
theorem readFrames_reported (js : Runtime)
    (alike : first.map shape.withoutContent = second.map shape.withoutContent)
    : (shape.readFrames js first).usage = (shape.readFrames js second).usage
      ∧ (shape.readFrames js first).model = (shape.readFrames js second).model
      ∧ (shape.readFrames js first).errored = (shape.readFrames js second).errored := by
  have usages := Json.map_view_eq (fun evt usage => shape.usageAfter js usage evt)
    (Json.redact_keeps (fun evt usage => shape.usageAfter js usage evt)
      (fun path content evt =>
        funext (fun usage => usageAfter_redactAt js content usage evt))) alike
  have models := Json.map_view_eq shape.namedModel
    (Json.redact_keeps shape.namedModel (fun path content => namedModel_redactAt content)) alike
  have errors := Json.map_view_eq shape.inBandError
    (Json.redact_keeps shape.inBandError (fun path content => inBandError_redactAt content)) alike
  refine ⟨?_, ?_, ?_⟩
  · have folded (frames : List Json)
        : (shape.readFrames js frames).usage
          = (frames.map (fun evt usage => shape.usageAfter js usage evt)).foldl
              (fun usage after => after usage) none := by
      rw [usage_readFrames_foldl, List.foldl_map]
    rw [folded, folded, usages]
  · have last (frames : List Json)
        : (shape.readFrames js frames).model
          = ((frames.map shape.namedModel).filterMap id).getLast? := by
      rw [model_readFrames, List.filterMap_map]
      rfl
    rw [last, last, models]
  · have any (frames : List Json)
        : (shape.readFrames js frames).errored = (frames.map shape.inBandError).any id := by
      rw [errored_readFrames, List.any_map]
      rfl
    rw [any, any, errors]

/-- Frames that are alike up to the texts of their content have as much of it. -/
theorem contentChars_readFrames_eq (js : Runtime)
    (alike : first.map shape.withContentLengths = second.map shape.withContentLengths)
    : (shape.readFrames js first).contentChars = (shape.readFrames js second).contentChars := by
  have visible := Json.map_view_eq shape.visibleOutput
    (Json.redact_keeps shape.visibleOutput (fun path content =>
      visibleOutput_redactAt Json.blanked_keepsLength content)) alike
  rw [contentChars_readFrames, contentChars_readFrames, visible]

/-- What a scanner reads of alike frames is alike: it throws on none or on both of a pair. -/
theorem upToFirst_alike {mask : String → String}
    (alike : first.map (Json.redact mask shape.contentPaths)
      = second.map (Json.redact mask shape.contentPaths))
    : (upToFirst shape.throwsOn first).map (Json.redact mask shape.contentPaths)
      = (upToFirst shape.throwsOn second).map (Json.redact mask shape.contentPaths) := by
  have keeps (evt : Json)
      : shape.throwsOn (Json.redact mask shape.contentPaths evt) = shape.throwsOn evt := by
    have isNull : (Json.redact mask shape.contentPaths evt).isNull = evt.isNull :=
      Json.redact_keeps Json.isNull (fun path _ => Json.isNull_redactAt path) evt
    cases shape with
    | anthropic => rfl
    | openaiChat => exact isNull
    | openaiResponses => exact isNull
  rw [map_upToFirst keeps, map_upToFirst keeps, alike]

/-- The result of a stream, where it is reported. -/
def reportedOf (metered : Option Metered) : Option Metered :=
  metered.filter (fun metered => metered.evidence = .reported)

theorem reportedOf_openaiResult (js : Runtime) (ctx : ScannerCtx) (scan : OpenAIScan)
    (evidencedOnly : Bool)
    : reportedOf (openaiResult js ctx scan evidencedOnly)
      = scan.finalUsage.map
          (fun usage => ⟨.string (scan.model.getD ctx.model), usage, .reported⟩) := by
  unfold openaiResult
  cases scan.finalUsage with
  | some usage => simp [reportedOf]
  | none => grind [reportedOf]

/-- A reported result is fixed by the usage and the model. -/
theorem reportedOf_meteredOf (js : Runtime) (ctx : ScannerCtx)
    (usage : (shape.readFrames js first).usage = (shape.readFrames js second).usage)
    (model : (shape.readFrames js first).model = (shape.readFrames js second).model)
    (evidencedOnly : Bool)
    : reportedOf (shape.meteredOf js ctx first evidencedOnly)
      = reportedOf (shape.meteredOf js ctx second evidencedOnly) := by
  cases shape with
  | anthropic => simp only [meteredOf, usage, model]
  | openaiChat => simp only [meteredOf, reportedOf_openaiResult, usage, model]
  | openaiResponses => simp only [meteredOf, reportedOf_openaiResult, usage, model]

/-- Every result is fixed by what is read and whether there was a frame. -/
theorem meteredOf_eq (js : Runtime) (ctx : ScannerCtx)
    (read : shape.readFrames js first = shape.readFrames js second)
    (seen : first.isEmpty = second.isEmpty) (evidencedOnly : Bool)
    : shape.meteredOf js ctx first evidencedOnly
      = shape.meteredOf js ctx second evidencedOnly := by
  cases shape <;> simp only [meteredOf, read, seen]

end Streams

-----------------------------------------------------------------------------------------
-- Bodies
-----------------------------------------------------------------------------------------

/-- A body's model and usage are none of its content. -/
theorem get?_bodyWithoutContent (shape : StreamShape) (body : Json)
    : (shape.bodyWithoutContent body).get? "model" = body.get? "model"
      ∧ (shape.bodyWithoutContent body).get? "usage" = body.get? "usage" := by
  have kept (key : String)
      (other : ∀ path ∈ shape.bodyContentPaths, path.head? ≠ some (.field key))
      : (shape.bodyWithoutContent body).get? key = body.get? key :=
    Json.redact_keeps (fun body => body.get? key)
      (fun path content body => Json.get?_redactAt_other (other path content) body) body
  refine ⟨kept "model" ?_, kept "usage" ?_⟩
  · cases shape <;> decide
  · cases shape <;> decide

theorem extract_alike (js : Runtime) (shape : StreamShape) {first second : String}
    {firstBody secondBody : Json} (firstParsed : js.parse first = some firstBody)
    (secondParsed : js.parse second = some secondBody)
    (alike : shape.bodyWithoutContent firstBody = shape.bodyWithoutContent secondBody)
    : shape.extract js first = shape.extract js second := by
  obtain ⟨firstModel, firstUsage⟩ := get?_bodyWithoutContent shape firstBody
  obtain ⟨secondModel, secondUsage⟩ := get?_bodyWithoutContent shape secondBody
  rw [shape.extract_eq]
  simp only [extractMetered, firstParsed, secondParsed, ← firstModel, ← firstUsage,
    ← secondModel, ← secondUsage, alike]

end StreamShape

/-- Model output cannot forge or hide usage: whatever two streams of serialized frames that
differ in their content alone hold there, and however they are cut, the reported usage and model
and the error flag are the same, and with the lengths of the content so is every result. Buffered
bodies that differ in their content alone are metered the same.
-/
theorem content_independence (js : Runtime) (shape : StreamShape)
    : (∀ ctx (first second : List EventLine) (firstChunks secondChunks : List String),
        (∀ frame ∈ lineFrames first, js.Serializes frame)
        → (∀ frame ∈ lineFrames second, js.Serializes frame)
        → chunkText firstChunks = eventText js first
        → chunkText secondChunks = eventText js second
        → (lineFrames first).map shape.withoutContent
          = (lineFrames second).map shape.withoutContent
        → let scanner := shape.scanner js ctx
          let one := (scanner.feedAll firstChunks).1
          let two := (scanner.feedAll secondChunks).1
          (shape.reading js ctx one).usage = (shape.reading js ctx two).usage
          ∧ (shape.reading js ctx one).model = (shape.reading js ctx two).model
          ∧ scanner.errored one = scanner.errored two
          ∧ (∀ evidencedOnly,
              StreamShape.reportedOf (scanner.result one evidencedOnly)
                = StreamShape.reportedOf (scanner.result two evidencedOnly))
          ∧ ((lineFrames first).map shape.withContentLengths
              = (lineFrames second).map shape.withContentLengths
            → ∀ evidencedOnly,
                scanner.result one evidencedOnly = scanner.result two evidencedOnly))
      ∧ ∀ (first second : String) (firstBody secondBody : Json),
          js.parse first = some firstBody
          → js.parse second = some secondBody
          → shape.bodyWithoutContent firstBody = shape.bodyWithoutContent secondBody
          → shape.extract js first = shape.extract js second := by
  refine ⟨?_, fun first second _ _ => shape.extract_alike js⟩
  intro ctx first second firstChunks secondChunks firstWritten secondWritten firstText secondText
    alike scanner one two
  have firstRead : shape.framesRead js (chunkText firstChunks)
      = upToFirst shape.throwsOn (lineFrames first) := by
    rw [StreamShape.framesRead, firstText, dataFrames_eventText firstWritten]
  have secondRead : shape.framesRead js (chunkText secondChunks)
      = upToFirst shape.throwsOn (lineFrames second) := by
    rw [StreamShape.framesRead, secondText, dataFrames_eventText secondWritten]
  obtain ⟨usage, model, errored⟩ :=
    StreamShape.readFrames_reported js (StreamShape.upToFirst_alike alike)
  rw [← firstRead, ← secondRead] at usage model errored
  have errors : scanner.errored one = scanner.errored two :=
    (shape.errored_feedAll js ctx _).trans (errored.trans (shape.errored_feedAll js ctx _).symm)
  refine ⟨?_, ?_, errors, ?_, ?_⟩
  · rw [shape.reading_feedAll, shape.reading_feedAll, usage]
  · rw [shape.reading_feedAll, shape.reading_feedAll, model]
  · intro evidencedOnly
    rw [shape.result_feedAll, shape.result_feedAll]
    exact StreamShape.reportedOf_meteredOf js ctx usage model evidencedOnly
  · intro lengths evidencedOnly
    have same := StreamShape.upToFirst_alike lengths
    have chars := StreamShape.contentChars_readFrames_eq js same
    rw [← firstRead, ← secondRead] at same chars
    have read : shape.readFrames js (shape.framesRead js (chunkText firstChunks))
        = shape.readFrames js (shape.framesRead js (chunkText secondChunks)) :=
      ScanReading.ext usage model chars errored
    have seen : (shape.framesRead js (chunkText firstChunks)).isEmpty
        = (shape.framesRead js (chunkText secondChunks)).isEmpty := by
      simpa using congrArg List.isEmpty same
    rw [shape.result_feedAll, shape.result_feedAll]
    exact StreamShape.meteredOf_eq js ctx read seen evidencedOnly

section Example

/-- A chat frame that says something. -/
def exampleSpoken (content : String) : Json :=
  .object
    [("choices", .array [.object [("delta", .object [("content", .string content)])]])]

/-- The inside of the serialized frame, by the escaped content. -/
def exampleSpokenFields (content : String) : String :=
  "\"choices\":[\x7b\"delta\":\x7b\"content\":\"" ++ content ++ "\"\x7d\x7d]"

def exampleSpokenRaw (content : String) : String :=
  "\x7b" ++ exampleSpokenFields content ++ "\x7d"

/-- Content that looks like a data line of its own. -/
def exampleForged : String := "\ndata: \x7b\x7d\n"

def exampleSpokenJs : Runtime where
  fp := .binary64
  parse := fun text =>
    if text = exampleSpokenRaw "hi" then some (exampleSpoken "hi")
    else if text = exampleSpokenRaw "\\ndata: \x7b\x7d\\n" then some (exampleSpoken exampleForged)
    else none
  stringify := fun value =>
    match value with
    | .object [(_, .array [.object [(_, .object [(_, .string "hi")])]])] => exampleSpokenRaw "hi"
    | _ => exampleSpokenRaw "\\ndata: \x7b\x7d\\n"

theorem exampleSpoken_texts
    : '\n' ∉ (exampleSpokenFields "hi").toList
      ∧ '\n' ∉ (exampleSpokenFields "\\ndata: \x7b\x7d\\n").toList
      ∧ exampleSpokenRaw "\\ndata: \x7b\x7d\\n" ≠ exampleSpokenRaw "hi" := by
  decide +kernel

theorem exampleSpoken_serializes : exampleSpokenJs.Serializes (exampleSpoken "hi") := by
  have read : exampleSpokenJs.parse (exampleSpokenRaw "hi") = some (exampleSpoken "hi") := by
    simp only [exampleSpokenJs, if_true]
  exact Runtime.serializes_of rfl rfl exampleSpoken_texts.1 read

theorem exampleForged_serializes : exampleSpokenJs.Serializes (exampleSpoken exampleForged) := by
  have read : exampleSpokenJs.parse (exampleSpokenRaw "\\ndata: \x7b\x7d\\n")
      = some (exampleSpoken exampleForged) := by
    simp only [exampleSpokenJs, exampleSpoken_texts.2.2, if_false, if_true]
  exact Runtime.serializes_of rfl rfl exampleSpoken_texts.2.1 read

def exampleSpokenScanner : UsageScanner :=
  StreamShape.openaiChat.scanner exampleSpokenJs ⟨"gpt-4o", .ofInt 10⟩

/-- A stream whose content imitates a frame reports what an honest one does. -/
theorem content_independence_forged
    : StreamShape.reportedOf
        (exampleSpokenScanner.result
          (exampleSpokenScanner.feedAll
            [String.ofList (eventText exampleSpokenJs [.data (exampleSpoken "hi")])]).1 false)
      = StreamShape.reportedOf
          (exampleSpokenScanner.result
            (exampleSpokenScanner.feedAll
              [String.ofList (eventText exampleSpokenJs [.data (exampleSpoken exampleForged)])]).1
            false) := by
  have whole (lines : List EventLine)
      : chunkText [String.ofList (eventText exampleSpokenJs lines)]
        = eventText exampleSpokenJs lines := by
    simp [chunkText]
  refine ((content_independence exampleSpokenJs .openaiChat).1 ⟨"gpt-4o", .ofInt 10⟩
    [.data (exampleSpoken "hi")] [.data (exampleSpoken exampleForged)] _ _ ?_ ?_ (whole _)
    (whole _) rfl).2.2.2.1 false
  · intro frame member
    rw [List.mem_singleton.mp member]
    exact exampleSpoken_serializes
  · intro frame member
    rw [List.mem_singleton.mp member]
    exact exampleForged_serializes

end Example

end Nullsink.Proxy
