import Nullsink.Proxy.BufferedPricing
import Nullsink.Proxy.EventText
import Nullsink.Proxy.StreamPolicy

/-! A buffered body and a stream that carries the same model and usage are metered at one price:
the two paths normalise a usage object differently, and sanitizing its counts makes them one.
-/

namespace Nullsink.Proxy

open Ecma

-----------------------------------------------------------------------------------------
-- Usage up to sanitizing
-----------------------------------------------------------------------------------------

/-- Usages whose counts sanitize to the same numbers. -/
structure Usage.SameCounts (first second : Usage) : Prop where
  input : sanitizeCount first.inputTokens = sanitizeCount second.inputTokens
  output : sanitizeCount first.outputTokens = sanitizeCount second.outputTokens
  write : sanitizeCount first.cacheCreationInputTokens
    = sanitizeCount second.cacheCreationInputTokens
  read : sanitizeCount first.cacheReadInputTokens = sanitizeCount second.cacheReadInputTokens
  write1h : sanitizeCount first.cacheCreation1hInputTokens
    = sanitizeCount second.cacheCreation1hInputTokens

/-- A cost reads its usage through the sanitizer alone. -/
theorem Usage.SameCounts.costOf {first second : Usage} (same : first.SameCounts second)
    (fp : Rounding) (rate : Rate)
    : costOf fp rate first = Proxy.costOf fp rate second := by
  simp only [Proxy.costOf, write5mTokens, write1hTokens, same.input, same.output, same.write,
    same.read, same.write1h]

theorem Usage.SameCounts.priceUsage {first second : Usage} (same : first.SameCounts second)
    (fp : Rounding) (book : PriceBook) (model : Json) (fallback : String)
    : priceUsage fp book model first fallback = Proxy.priceUsage fp book model second fallback := by
  cases model with
  | string name => simp only [Proxy.priceUsage, same.costOf]
  | _ => rfl

/-- A default of 0 is what the sanitizer makes of an absent count. -/
theorem sanitizeCount_coalesce (count : Option Json)
    : sanitizeCount (Json.coalesce count (some (.number (.ofInt 0)))) = sanitizeCount count := by
  cases count with
  | none => simp [Json.coalesce, sanitizeCount, Number.ofInt]
  | some value =>
      cases value with
      | null => simp [Json.coalesce, sanitizeCount, Number.ofInt]
      | _ => rfl

/-- The defaults of a `message_start` sanitize to what the buffered body passes through. -/
theorem startUsage_sameCounts (u : Json)
    : (startUsage u).SameCounts (flattenAnthropicUsage u) where
  input := sanitizeCount_coalesce _
  output := sanitizeCount_coalesce _
  write := sanitizeCount_coalesce _
  read := sanitizeCount_coalesce _
  write1h := rfl

/-- A count restated by the object it was started from stays what it is. -/
theorem restate_coalesce (count : Option Json)
    : restate count (Json.coalesce count (some (.number (.ofInt 0))))
      = Json.coalesce count (some (.number (.ofInt 0))) := by
  cases count with
  | none => rfl
  | some value => cases value <;> rfl

theorem deltaUsage_startUsage (u : Json) : deltaUsage (startUsage u) u = startUsage u := by
  simp only [deltaUsage, startUsage, flattenAnthropicUsage, restate_coalesce]

-----------------------------------------------------------------------------------------
-- Streams that carry a model and a usage
-----------------------------------------------------------------------------------------

/-- A frame after a `message_start` that restates its usage, or reports none. -/
structure Restates (u evt : Json) : Prop where
  later : Json.isText (evt.get? "type") "message_start" = false
  usage : evt.get? "usage" = some u ∨ evt.get? "usage" = none

namespace StreamShape

/-- The frames of a stream that carries a model and a usage. -/
inductive Carries (model : String) (u : Json) : StreamShape → List Json → Prop where
  | anthropic {start message : Json} {rest : List Json}
      (type : Json.isText (start.get? "type") "message_start")
      (started : start.get? "message" = some message)
      (named : message.get? "model" = some (.string model))
      (reported : message.get? "usage" = some u)
      (restates : ∀ evt ∈ rest, Restates u evt)
      : Carries model u anthropic (start :: rest)
  | openaiChat {content : List Json} {final : Json}
      (same : ∀ evt ∈ content, evt.get? "model" = some (.string model))
      (named : final.get? "model" = some (.string model))
      (reported : final.get? "usage" = some u)
      : Carries model u openaiChat (content ++ [final])
  | openaiResponses {earlier : List Json} {completed response : Json}
      (type : Json.isText (completed.get? "type") "response.completed")
      (readable : Json.null ∉ earlier)
      (carried : completed.get? "response" = some response)
      (named : response.get? "model" = some (.string model))
      (reported : response.get? "usage" = some u)
      : Carries model u openaiResponses (earlier ++ [completed])

variable {model : String} {u : Json} {frames : List Json} {shape : StreamShape}

theorem isNull_of_field {evt value : Json} {key : String} (field : evt.get? key = some value)
    : evt.isNull = false := by
  cases evt with
  | null => cases field
  | _ => rfl

/-- No frame of such a stream makes its scanner throw. -/
theorem Carries.readable (carries : shape.Carries model u frames)
    : ∀ evt ∈ frames, shape.throwsOn evt = false := by
  cases carries with
  | anthropic => exact fun _ _ => rfl
  | openaiChat same named =>
      intro evt member
      rcases List.mem_append.mp member with content | final
      · exact isNull_of_field (same evt content)
      · rw [List.mem_singleton.mp final]
        exact isNull_of_field named
  | openaiResponses type readable carried =>
      intro evt member
      rcases List.mem_append.mp member with earlier | completed
      · exact Bool.eq_false_iff.mpr
          (fun isNull => readable (Json.isNull_iff.mp isNull ▸ earlier))
      · rw [List.mem_singleton.mp completed]
        exact isNull_of_field carried

variable (js : Runtime)

/-- What such a stream comes to: its model, and its usage as the scanner first reads it. -/
def carriedUsage (shape : StreamShape) (u : Json) : Usage :=
  match shape with
  | anthropic => startUsage u
  | _ => shape.mapUsage js u

/-- A restating frame keeps model and usage. -/
theorem readFrame_restates {evt : Json} (restates : Restates u evt) {read : ScanReading}
    (usage : read.usage = some (startUsage u))
    : (anthropic.readFrame js read evt).usage = some (startUsage u)
      ∧ (anthropic.readFrame js read evt).model = read.model := by
  have unreported : anthropic.usageObject evt = none := by
    simp [usageObject, restates.later]
  have unnamed : anthropic.namedModel evt = none := by
    simp [namedModel, unreported]
  refine ⟨?_, by simp [readFrame, unnamed]⟩
  simp only [readFrame, usageAfter, unreported, usage]
  split
  · rename_i found
    cases found
  · rename_i delta _ found
    split
    · rcases restates.usage with same | absent
      · obtain ⟨present, _⟩ := Option.filter_eq_some_iff.mp found
        obtain rfl := Option.some.inj (same.symm.trans present)
        exact congrArg some (deltaUsage_startUsage u)
      · simp [absent] at found
    · rfl
  · rfl

/-- What is read of a stream that carries a model and a truthy usage; for Anthropic by induction
on the frames after the start.
-/
theorem Carries.readFrames (carries : shape.Carries model u frames) (truthy : u.truthy)
    : (shape.readFrames js frames).usage = some (shape.carriedUsage js u)
      ∧ (shape.readFrames js frames).model = some model := by
  cases carries with
  | @anthropic start message rest type started named reported restates =>
      induction rest using List.reverseRecOn with
      | nil =>
          have object : StreamShape.anthropic.usageObject start = some u := by
            simp [usageObject, type, started, reported, truthy]
          have first : StreamShape.anthropic.namedModel start = some model := by
            simp [namedModel, object, started, named, Json.string?]
          simp [StreamShape.readFrames, readFrame, usageAfter, object, first, carriedUsage]
      | append_singleton earlier evt ih =>
          obtain ⟨usage, model⟩ :=
            ih (fun evt member => restates evt (List.mem_append_left _ member))
          rw [← List.cons_append, readFrames_snoc]
          obtain ⟨keptUsage, keptModel⟩ :=
            readFrame_restates js (restates evt (by simp)) usage
          exact ⟨keptUsage, keptModel.trans model⟩
  | openaiChat same named reported =>
      rw [readFrames_snoc]
      simp [readFrame, usageAfter, usageObject, namedModel, reported, truthy, named, carriedUsage,
        mapUsage, Json.string?]
  | openaiResponses type readable carried named reported =>
      rw [readFrames_snoc]
      simp [readFrame, usageAfter, usageObject, namedModel, carried, reported, truthy, named,
        carriedUsage, mapUsage, Json.string?]

/-- The usage of a stream sanitizes to that of the buffered body. -/
theorem carriedUsage_sameCounts (shape : StreamShape) (u : Json)
    : (shape.mapUsage js u).SameCounts (shape.carriedUsage js u) := by
  cases shape with
  | anthropic =>
      have same := startUsage_sameCounts u
      exact ⟨same.input.symm, same.output.symm, same.write.symm, same.read.symm,
        same.write1h.symm⟩
  | openaiChat => exact ⟨rfl, rfl, rfl, rfl, rfl⟩
  | openaiResponses => exact ⟨rfl, rfl, rfl, rfl, rfl⟩

/-- Such a stream reports its usage under its model. -/
theorem Carries.meteredOf (carries : shape.Carries model u frames) (truthy : u.truthy)
    (nonempty : model ≠ "") (ctx : ScannerCtx) (evidencedOnly : Bool)
    : shape.meteredOf js ctx frames evidencedOnly
      = some ⟨.string model, shape.carriedUsage js u, .reported⟩ := by
  obtain ⟨usage, streamModel⟩ := carries.readFrames js truthy
  have last : shape.lastModel frames = some model := by
    rw [lastModel, ← model_readFrames js, streamModel]
  rw [meteredOf_reported usage (fun _ => ⟨model, last, nonempty⟩), last]
  rfl

end StreamShape

/-- Streamed and buffered metering agree: whatever the types of the fields of a truthy usage and
however the stream is cut, the two meter the same price. Every active provider reads its streams and
its bodies in one of the shapes.
-/
theorem streamed_buffered_agree (js : Runtime) (book : PriceBook) (shape : StreamShape)
    (ctx : ScannerCtx) (fallback model : String) (u body : Json) (text : String)
    (chunks : List String) (nonempty : model ≠ "") (truthy : u.truthy)
    (parsed : js.parse text = some body) (named : body.get? "model" = some (.string model))
    (reported : body.get? "usage" = some u)
    (carries : shape.Carries model u (dataFrames js (chunkText chunks)))
    : ((shape.scanner js ctx).feedAll chunks).2 = false
      ∧ (∃ buffered,
          shape.extract js text = some buffered
          ∧ ∀ evidencedOnly, ∃ streamed,
              (shape.scanner js ctx).result ((shape.scanner js ctx).feedAll chunks).1 evidencedOnly
                = some streamed
              ∧ priceUsage js.fp book streamed.model streamed.usage fallback
                = priceUsage js.fp book buffered.model buffered.usage fallback)
      ∧ ∀ cfg, ∀ provider ∈ activeProviders js book cfg,
          ∃ shape : StreamShape,
            provider.makeScanner = shape.scanner js ∧ provider.extractUsage = shape.extract js := by
  have extracted : shape.extract js text
      = some ⟨.string model, shape.mapUsage js u, .reported⟩ := by
    rw [shape.extract_eq, extractMetered_eq_some_iff]
    exact ⟨body, .string model, u, parsed, by simp [named, Json.truthy, nonempty],
      by simp [reported, truthy], rfl⟩
  have read : shape.framesRead js (chunkText chunks) = dataFrames js (chunkText chunks) :=
    upToFirst_of_none carries.readable
  refine ⟨?_, ⟨_, extracted, ?_⟩, fun _ _ active => StreamShape.exists_extract js active⟩
  · rw [shape.feedAll_throws, ← Bool.not_eq_true, List.any_eq_true]
    rintro ⟨evt, member, threw⟩
    rw [carries.readable evt member] at threw
    cases threw
  · intro evidencedOnly
    refine ⟨⟨.string model, shape.carriedUsage js u, .reported⟩, ?_, ?_⟩
    · rw [shape.result_feedAll, read]
      exact carries.meteredOf js truthy nonempty ctx evidencedOnly
    · exact ((shape.carriedUsage_sameCounts js u).priceUsage js.fp book _ fallback).symm

section Example

/-- A usage with a string for a count, and with no other input counts. -/
def exampleMistyped : Json :=
  .object [("input_tokens", .string "3"), ("output_tokens", .number (.ofInt 5))]

/-- The fields of a body that names a model and reports a usage. -/
def exampleReport : List (String × Json) :=
  [("model", .string "claude-next"), ("usage", exampleMistyped)]

def exampleReportRaw : String :=
  "\x7b\"model\":\"claude-next\",\"usage\":\x7b\"input_tokens\":\"3\",\"output_tokens\":5\x7d\x7d"

def exampleStartFields : String := "\"type\":\"message_start\",\"message\":" ++ exampleReportRaw

def exampleMessageStart : Json :=
  .object [("type", .string "message_start"), ("message", .object exampleReport)]

def exampleMessageStartRaw : String := "\x7b" ++ exampleStartFields ++ "\x7d"

def exampleMessageDelta : Json :=
  .object [("type", .string "message_delta"), ("usage", exampleMistyped)]

def exampleDeltaFields : String :=
  "\"type\":\"message_delta\",\"usage\":\x7b\"input_tokens\":\"3\",\"output_tokens\":5\x7d"

def exampleMessageDeltaRaw : String := "\x7b" ++ exampleDeltaFields ++ "\x7d"

/-- Reading a body and the frames of a stream. -/
def exampleReportParse (text : String) : Option Json :=
  if text = exampleReportRaw then some (.object exampleReport)
  else if text = exampleMessageStartRaw then some exampleMessageStart
  else if text = exampleMessageDeltaRaw then some exampleMessageDelta
  else none

def exampleReportJs : Runtime where
  fp := .binary64
  parse := exampleReportParse
  stringify := fun value =>
    if (value.get? "message").isSome then exampleMessageStartRaw else exampleMessageDeltaRaw

theorem exampleReport_texts
    : '\n' ∉ exampleStartFields.toList
      ∧ '\n' ∉ exampleDeltaFields.toList
      ∧ exampleMessageStartRaw ≠ exampleReportRaw
      ∧ exampleMessageDeltaRaw ≠ exampleReportRaw
      ∧ exampleMessageDeltaRaw ≠ exampleMessageStartRaw := by
  decide +kernel

theorem exampleMessageStart_serializes : exampleReportJs.Serializes exampleMessageStart := by
  obtain ⟨oneLine, _, other, _⟩ := exampleReport_texts
  have read : exampleReportJs.parse exampleMessageStartRaw = some exampleMessageStart := by
    simp only [exampleReportJs, exampleReportParse, other, if_false, if_true]
  exact Runtime.serializes_of rfl rfl oneLine read

theorem exampleMessageDelta_serializes : exampleReportJs.Serializes exampleMessageDelta := by
  obtain ⟨_, oneLine, _, other⟩ := exampleReport_texts
  have read : exampleReportJs.parse exampleMessageDeltaRaw = some exampleMessageDelta := by
    simp only [exampleReportJs, exampleReportParse, other, if_false, if_true]
  exact Runtime.serializes_of rfl rfl oneLine read

/-- A `message_start` and a `message_delta` that restates it. -/
def exampleReportText : List Char :=
  eventText exampleReportJs [.data exampleMessageStart, .data exampleMessageDelta]

/-- A text that is cut inside a line. -/
def exampleReportChunks : List String :=
  [String.ofList (exampleReportText.take 30), String.ofList (exampleReportText.drop 30)]

theorem exampleReport_frames
    : dataFrames exampleReportJs (chunkText exampleReportChunks)
      = [exampleMessageStart, exampleMessageDelta] := by
  have joined : chunkText exampleReportChunks = exampleReportText := by
    simp [chunkText, exampleReportChunks]
  rw [joined, exampleReportText]
  refine dataFrames_eventText ?_
  intro frame member
  rcases List.mem_cons.mp member with rfl | member
  · exact exampleMessageStart_serializes
  · rw [List.mem_singleton.mp member]
    exact exampleMessageDelta_serializes

def exampleReportCtx : ScannerCtx := ⟨"claude-haiku-4-5", .ofInt 10⟩

theorem streamed_buffered_agree_mistyped
    : ∃ buffered streamed,
        StreamShape.anthropic.extract exampleReportJs exampleReportRaw = some buffered
        ∧ (StreamShape.anthropic.scanner exampleReportJs exampleReportCtx).result
            ((StreamShape.anthropic.scanner exampleReportJs exampleReportCtx).feedAll
              exampleReportChunks).1 false
          = some streamed
        ∧ priceUsage .binary64 exampleBook streamed.model streamed.usage "claude-haiku-4-5"
          = priceUsage .binary64 exampleBook buffered.model buffered.usage "claude-haiku-4-5" := by
  have read : exampleReportParse exampleReportRaw = some (.object exampleReport) := by
    simp only [exampleReportParse, if_true]
  have carries
      : StreamShape.anthropic.Carries "claude-next" exampleMistyped
          (dataFrames exampleReportJs (chunkText exampleReportChunks)) := by
    have started : exampleMessageStart.get? "message" = some (.object exampleReport) := rfl
    rw [exampleReport_frames]
    refine .anthropic rfl started rfl rfl ?_
    rintro evt member
    rw [List.mem_singleton.mp member]
    exact ⟨rfl, Or.inl rfl⟩
  obtain ⟨_, ⟨buffered, extracted, agree⟩, _⟩ :=
    streamed_buffered_agree exampleReportJs exampleBook .anthropic exampleReportCtx
      "claude-haiku-4-5" "claude-next" exampleMistyped (.object exampleReport) exampleReportRaw
      exampleReportChunks (by decide) rfl read rfl rfl carries
  obtain ⟨streamed, found, price⟩ := agree false
  exact ⟨buffered, streamed, extracted, found, price⟩

end Example

end Nullsink.Proxy
