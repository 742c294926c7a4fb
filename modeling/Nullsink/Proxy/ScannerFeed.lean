import Nullsink.Lib.Lines
import Nullsink.Proxy.Providers

/-! How the stream scanners read: the loop over a buffered text, the frames it finds in whatever
chunks the text arrives, and when it throws.
-/

namespace Nullsink.Proxy

open Ecma

section Feeding

variable (js : Runtime) {Data : Type} (event : Data → Json → Data × Bool)

/-- The loop of `feed` as the source runs it: a line is cut off the buffer while there is a
line feed.
-/
def drain (buf : List Char) (data : Data) : ScanState Data × Bool :=
  let nl := buf.idxOf '\n'
  if nl < buf.length then
    let line := buf.take nl
    let rest := buf.drop (nl + 1)
    match linePayload js line with
    | none => drain rest data
    | some evt =>
        if (event data evt).2 then (⟨rest, (event data evt).1⟩, true)
        else drain rest (event data evt).1
  else (⟨buf, data⟩, false)
termination_by buf.length
decreasing_by
  all_goals
    rw [List.length_drop]
    omega

/-- The data frames of a text: what its complete lines carry. -/
def dataFrames (text : List Char) : List Json := (splitLines text).1.filterMap (linePayload js)

/-- Splitting at line feeds, without the unterminated piece, then folding the event step over
what the lines carry.
-/
def referenceScan (data : Data) (text : List Char) : Data :=
  ((text.splitOn '\n').dropLast.filterMap (linePayload js)).foldl
    (fun data evt => (event data evt).1) data

variable {js event}

/-- The loop that cuts the buffer is the loop over its lines; by induction on its length. -/
theorem drain_eq_feedLines (buf : List Char) (data : Data)
    : drain js event buf data
      = feedLines js event (splitLines buf).2 data (splitLines buf).1 := by
  induction size : buf.length using Nat.strong_induction_on generalizing buf data with
  | _ n ih =>
      subst size
      by_cases ended : '\n' ∈ buf
      · obtain ⟨line, rest, rfl, whole⟩ := exists_line ended
        have cut : (line ++ '\n' :: rest).idxOf '\n' = line.length := by
          simp [List.idxOf_append_of_notMem whole]
        have within : line.length < (line ++ '\n' :: rest).length := by simp
        have before : (line ++ '\n' :: rest).take line.length = line := List.take_left
        have after : (line ++ '\n' :: rest).drop (line.length + 1) = rest := by
          simp [List.drop_append]
        have continued (data : Data) :=
          ih rest.length (by rw [List.length_append, List.length_cons]; omega) rest data rfl
        rw [drain, splitLines_line whole]
        simp only [cut, within, before, after, if_true, feedLines, continued]
        cases linePayload js line with
        | none => rfl
        | some evt =>
            rcases stepped : event data evt with ⟨next, threw⟩
            cases threw with
            | false => simp [stepped]
            | true => simp [stepped, joinLines_splitLines]
      · rw [drain, splitLines_of_open ended]
        simp [ended, feedLines]

/-- `feed` runs the loop of the source over what it buffered and the chunk. -/
theorem feedChunk_eq_drain (state : ScanState Data) (chunk : String)
    : feedChunk js event state chunk = drain js event (state.buf ++ chunk.toList) state.data := by
  rw [drain_eq_feedLines]
  rfl

/-- The loop over lines reads their frames until one throws; by induction on the lines. -/
theorem feedLines_reads (tail : List Char) (data : Data) (lines : List (List Char))
    : ((feedLines js event tail data lines).1.data, (feedLines js event tail data lines).2)
        = untilThrow event data (lines.filterMap (linePayload js))
      ∧ ((feedLines js event tail data lines).2 = false
        → (feedLines js event tail data lines).1.buf = tail) := by
  induction lines generalizing data with
  | nil => exact ⟨rfl, fun _ => rfl⟩
  | cons line rest ih =>
      cases payload : linePayload js line with
      | none => simpa [feedLines, payload] using ih data
      | some evt =>
          rcases stepped : event data evt with ⟨next, threw⟩
          cases threw with
          | false => simpa [feedLines, payload, stepped, untilThrow] using ih next
          | true => simp [feedLines, payload, stepped, untilThrow]

variable (js event) in
/-- One chunk reads the frames it completes, until one throws, and keeps the unended rest. -/
theorem feedChunk_reads (state : ScanState Data) (chunk : String)
    : ((feedChunk js event state chunk).1.data, (feedChunk js event state chunk).2)
        = untilThrow event state.data (dataFrames js (state.buf ++ chunk.toList))
      ∧ ((feedChunk js event state chunk).2 = false
        → (feedChunk js event state chunk).1.buf
          = (splitLines (state.buf ++ chunk.toList)).2) :=
  feedLines_reads _ _ _

variable (event) in
/-- A chunk keeps what each frame it completes keeps. -/
theorem feedChunk_keeps {α : Type*} (view : Data → α) (state : ScanState Data) (chunk : String)
    (keeps : ∀ data, ∀ evt ∈ dataFrames js (state.buf ++ chunk.toList),
      view (event data evt).1 = view data)
    : view (feedChunk js event state chunk).1.data = view state.data := by
  have read : (feedChunk js event state chunk).1.data = _ :=
    congrArg Prod.fst (feedChunk_reads js event state chunk).1
  rw [read]
  exact untilThrow_keeps view keeps state.data

theorem dataFrames_append (first later : List Char)
    : dataFrames js (first ++ later)
      = dataFrames js first ++ dataFrames js ((splitLines first).2 ++ later) := by
  simp [dataFrames, splitLines_append first later]

/-- The text of chunks in a row. -/
def chunkText (chunks : List String) : List Char := chunks.flatMap String.toList

/-- Chunks that are fed in order read the frames of their text, until one throws, and keep its
unended rest; by induction on the chunks, where the buffer is the rest of the text so far.
-/
theorem feedChunks_reads (state : ScanState Data) (unended : '\n' ∉ state.buf)
    (chunks : List String)
    : ((untilThrow (feedChunk js event) state chunks).1.data,
          (untilThrow (feedChunk js event) state chunks).2)
        = untilThrow event state.data (dataFrames js (state.buf ++ chunkText chunks))
      ∧ ((untilThrow (feedChunk js event) state chunks).2 = false
        → (untilThrow (feedChunk js event) state chunks).1.buf
          = (splitLines (state.buf ++ chunkText chunks)).2) := by
  induction chunks generalizing state with
  | nil => simp [untilThrow, chunkText, dataFrames, splitLines_of_open unended]
  | cons chunk rest ih =>
      obtain ⟨read, kept⟩ := feedChunk_reads js event state chunk
      have text : state.buf ++ chunkText (chunk :: rest)
          = (state.buf ++ chunk.toList) ++ chunkText rest := by
        simp [chunkText]
      rw [text, dataFrames_append (state.buf ++ chunk.toList),
        splitLines_append (state.buf ++ chunk.toList), untilThrow_append]
      cases threw : (feedChunk js event state chunk).2 with
      | true => simp [untilThrow, threw, ← read]
      | false =>
          have next := kept threw
          have reads := ih (feedChunk js event state chunk).1
            (by rw [next]; exact splitLines_tail_open _)
          rw [next] at reads
          simpa only [untilThrow, threw, ← read, Bool.false_eq_true, if_false] using reads

/-- From the start, chunks throw where their text does. -/
theorem feedChunks_throws (start : Data) (chunks : List String)
    : (untilThrow (feedChunk js event) ⟨[], start⟩ chunks).2
      = (untilThrow event start (dataFrames js (chunkText chunks))).2 :=
  congrArg Prod.snd (feedChunks_reads ⟨[], start⟩ List.not_mem_nil chunks).1

/-- From the start, chunks read what their text has read where it first throws. -/
theorem feedChunks_data (start : Data) (chunks : List String)
    : (untilThrow (feedChunk js event) ⟨[], start⟩ chunks).1.data
      = (untilThrow event start (dataFrames js (chunkText chunks))).1 :=
  congrArg Prod.fst (feedChunks_reads ⟨[], start⟩ List.not_mem_nil chunks).1

variable (event) in
/-- Chunks that do not throw read what the reference reads of their text. -/
theorem feedChunks_reference {start : Data} {chunks : List String}
    (total : (untilThrow (feedChunk js event) ⟨[], start⟩ chunks).2 = false)
    : (untilThrow (feedChunk js event) ⟨[], start⟩ chunks).1.data
      = referenceScan js event start (chunkText chunks) := by
  rw [feedChunks_throws] at total
  rw [feedChunks_data, untilThrow_fold total, referenceScan, ← splitLines_eq_splitOn]
  rfl

end Feeding

/-- Feeding chunks in order, until one of them throws. -/
def UsageScanner.feedAll (scanner : UsageScanner) (chunks : List String)
    : scanner.State × Bool :=
  untilThrow scanner.feed scanner.start chunks

-----------------------------------------------------------------------------------------
-- The three scanners
-----------------------------------------------------------------------------------------

/-- The API shapes that stream. -/
inductive StreamShape where
  | anthropic
  | openaiChat
  | openaiResponses
  deriving DecidableEq

/-- What a scanner has accumulated: usage, model, text count and error flag. -/
@[ext]
structure ScanReading where
  usage : Option Usage
  model : Option String
  contentChars : ℕ
  errored : Bool

def AnthropicScan.start : AnthropicScan := ⟨none, none, false⟩

def OpenAIScan.start : OpenAIScan := ⟨none, none, 0, false, false⟩

def AnthropicScan.reading (scan : AnthropicScan) : ScanReading :=
  ⟨scan.usage, scan.model, 0, scan.errored⟩

def OpenAIScan.reading (scan : OpenAIScan) : ScanReading :=
  ⟨scan.finalUsage, scan.model, scan.contentChars, scan.failed⟩

theorem anthropicEvent_total (scan : AnthropicScan) (evt : Json)
    : (anthropicEvent scan evt).2 = false := by
  unfold anthropicEvent
  simp only
  split
  · rfl
  · split <;> rfl

/-- Reading a field of `null` is all that throws. -/
theorem openaiChatEvent_throws (js : Runtime) (scan : OpenAIScan) (evt : Json)
    : (openaiChatEvent js scan evt).2 = evt.isNull := by
  cases evt <;> rfl

theorem openaiResponsesEvent_throws (js : Runtime) (scan : OpenAIScan) (evt : Json)
    : (openaiResponsesEvent js scan evt).2 = evt.isNull := by
  cases evt <;> rfl

namespace StreamShape

variable (js : Runtime)

def scanner : StreamShape → ScannerCtx → UsageScanner
  | anthropic, _ => streamUsageScanner js
  | openaiChat, ctx => openaiChatScanner js ctx
  | openaiResponses, ctx => openaiResponsesScanner js ctx

/-- The unfinished line of a scanner. -/
def buffered (ctx : ScannerCtx) : (shape : StreamShape) → (shape.scanner js ctx).State → List Char
  | anthropic, state => ScanState.buf state
  | openaiChat, state => ScanState.buf state
  | openaiResponses, state => ScanState.buf state

/-- What a scanner has accumulated. -/
def reading (ctx : ScannerCtx)
    : (shape : StreamShape) → (shape.scanner js ctx).State → ScanReading
  | anthropic, state => (ScanState.data state).reading
  | openaiChat, state => (ScanState.data state).reading
  | openaiResponses, state => (ScanState.data state).reading

/-- Whether a scanner throws on a frame. -/
def throwsOn : StreamShape → Json → Bool
  | anthropic, _ => false
  | openaiChat, evt => evt.isNull
  | openaiResponses, evt => evt.isNull

/-- A text throws where one of its frames does. -/
theorem feedAll_throws (ctx : ScannerCtx) (shape : StreamShape) (chunks : List String)
    : ((shape.scanner js ctx).feedAll chunks).2
      = (dataFrames js (chunkText chunks)).any shape.throwsOn := by
  cases shape with
  | anthropic =>
      exact (feedChunks_throws _ _).trans (untilThrow_throws anthropicEvent_total _ _)
  | openaiChat =>
      exact (feedChunks_throws _ _).trans (untilThrow_throws (openaiChatEvent_throws js) _ _)
  | openaiResponses =>
      exact (feedChunks_throws _ _).trans (untilThrow_throws (openaiResponsesEvent_throws js) _ _)

/-- The state of a reference that splits a text at its line feeds, drops the unterminated piece
and folds the event step over the complete lines.
-/
def reference (ctx : ScannerCtx) (text : List Char)
    : (shape : StreamShape) → (shape.scanner js ctx).State
  | anthropic => ⟨[], referenceScan js anthropicEvent .start text⟩
  | openaiChat => ⟨[], referenceScan js (openaiChatEvent js) .start text⟩
  | openaiResponses => ⟨[], referenceScan js (openaiResponsesEvent js) .start text⟩

end StreamShape

end Nullsink.Proxy
