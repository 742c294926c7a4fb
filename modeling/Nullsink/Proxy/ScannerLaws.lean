import Nullsink.Proxy.ScannerFeed
import Nullsink.Proxy.StreamOutcome

/-! Two laws of the stream scanners over every text and every way it is cut into chunks: which
texts they throw on, and that cuts do not matter.
-/

namespace Nullsink.Proxy

open Ecma

section Events

variable {js : Runtime}

/-- A frame that is no object reads as nothing. -/
theorem anthropicEvent_inert {evt : Json} (plain : evt.isObject = false) (scan : AnthropicScan)
    : (anthropicEvent scan evt).1 = scan := by
  simp [anthropicEvent, Json.get?_of_not_object plain, Json.isText]

theorem openaiChatEvent_inert {evt : Json} (plain : evt.isObject = false) (scan : OpenAIScan)
    : (openaiChatEvent js scan evt).1 = { scan with sawAny := true } := by
  have absent := Json.get?_of_not_object plain
  cases evt with
  | null => rfl
  | object fields => cases plain
  | _ => simp [openaiChatEvent, absent, Json.isText, Json.holds]

theorem openaiResponsesEvent_inert {evt : Json} (plain : evt.isObject = false)
    (scan : OpenAIScan)
    : (openaiResponsesEvent js scan evt).1 = { scan with sawAny := true } := by
  cases evt with
  | null => rfl
  | object fields => cases plain
  | _ => simp [openaiResponsesEvent, Json.isText, Json.holds, Json.get?]

end Events

namespace StreamShape

variable (js : Runtime) (ctx : ScannerCtx) (shape : StreamShape)

/-- A text throws where the scanner is an OpenAI one and a complete data line carries `null`. -/
theorem feedAll_throws_iff (chunks : List String)
    : ((shape.scanner js ctx).feedAll chunks).2 = true
      ↔ shape ≠ .anthropic ∧ Json.null ∈ dataFrames js (chunkText chunks) := by
  rw [feedAll_throws, List.any_eq_true]
  cases shape <;> simp [throwsOn, Json.isNull_iff]

/-- Frames that are no objects change nothing that a scanner has accumulated, whatever it has
buffered.
-/
theorem reading_inert (state : (shape.scanner js ctx).State) (chunk : String)
    (plain : ∀ evt ∈ dataFrames js (shape.buffered js ctx state ++ chunk.toList),
      evt.isObject = false)
    : shape.reading js ctx ((shape.scanner js ctx).feed state chunk).1
      = shape.reading js ctx state := by
  cases shape with
  | anthropic =>
      exact feedChunk_keeps anthropicEvent AnthropicScan.reading state chunk
        (fun scan evt member => congrArg _ (anthropicEvent_inert (plain evt member) scan))
  | openaiChat =>
      exact feedChunk_keeps (openaiChatEvent js) OpenAIScan.reading state chunk
        (fun scan evt member =>
          (congrArg OpenAIScan.reading (openaiChatEvent_inert (plain evt member) scan)).trans rfl)
  | openaiResponses =>
      exact feedChunk_keeps (openaiResponsesEvent js) OpenAIScan.reading state chunk
        (fun scan evt member =>
          (congrArg OpenAIScan.reading
            (openaiResponsesEvent_inert (plain evt member) scan)).trans rfl)

/-- Chunks that do not throw end in what the reference reads. -/
theorem feedAll_reference {chunks : List String}
    (total : ((shape.scanner js ctx).feedAll chunks).2 = false)
    : (∀ evidencedOnly,
        (shape.scanner js ctx).result ((shape.scanner js ctx).feedAll chunks).1 evidencedOnly
        = (shape.scanner js ctx).result (shape.reference js ctx (chunkText chunks)) evidencedOnly)
      ∧ (shape.scanner js ctx).errored ((shape.scanner js ctx).feedAll chunks).1
        = (shape.scanner js ctx).errored (shape.reference js ctx (chunkText chunks)) := by
  cases shape with
  | anthropic =>
      have read := feedChunks_reference anthropicEvent total
      exact ⟨fun evidencedOnly =>
        congrArg (fun data => (streamUsageScanner js).result ⟨[], data⟩ evidencedOnly) read,
        congrArg AnthropicScan.errored read⟩
  | openaiChat =>
      have read := feedChunks_reference (openaiChatEvent js) total
      exact ⟨fun evidencedOnly =>
        congrArg (fun data => openaiResult js ctx data evidencedOnly) read,
        congrArg OpenAIScan.failed read⟩
  | openaiResponses =>
      have read := feedChunks_reference (openaiResponsesEvent js) total
      exact ⟨fun evidencedOnly =>
        congrArg (fun data => openaiResult js ctx data evidencedOnly) read,
        congrArg OpenAIScan.failed read⟩

end StreamShape

-----------------------------------------------------------------------------------------
-- Reading to the natural end
-----------------------------------------------------------------------------------------

/-- What happens to a stream whose client reads on: its chunks are pulled one by one, and then
its end, unless a chunk's `feed` throws, which ends the reading.
-/
def UsageScanner.pulls (scanner : UsageScanner) : scanner.State → List String → List StreamEvent
  | _, [] => [.eof]
  | state, chunk :: rest =>
      .chunk chunk
        :: (if (scanner.feed state chunk).2 then []
          else scanner.pulls (scanner.feed state chunk).1 rest)

section Pulls

variable {book : PriceBook} {js : Runtime} {held : Held book} {opened : List Effect}

/-- Reading on reaches a settlement where no chunk throws; by induction on the chunks. -/
theorem pulls_settle_iff (chunks : List String) (state : StreamState held.scanner)
    (inv : StreamInvariant state) (undecided : state.settlementDecision = none)
    : ((held.scanner.pulls state.scan chunks).foldl (StreamState.step js)
          state).settlementDecision.isSome
      ↔ (untilThrow held.scanner.feed state.scan chunks).2 = false := by
  induction chunks generalizing state with
  | nil =>
      have settled : (state.step js .eof).settlementDecision.isSome := inv.settle_decides _
      simpa [UsageScanner.pulls, untilThrow] using settled
  | cons chunk rest ih =>
      have fed := inv.step (inv.move js (.chunk chunk))
      by_cases threw : (held.scanner.feed state.scan chunk).2
      · simp [UsageScanner.pulls, untilThrow, threw, StreamState.step, undecided]
      · have later := ih (state.step js (.chunk chunk)) fed undecided
        simp only [UsageScanner.pulls, untilThrow, threw, Bool.false_eq_true, if_false]
        exact later

end Pulls

/-- The text on which a scanner throws is one with a `null` frame, and only the OpenAI ones do.
Frames that are no objects never change what is accumulated. A client that reads on gets its
stream settled at the natural end on the texts that do not throw.
-/
theorem scanner_totality_iff (js : Runtime) (shape : StreamShape) (chunks : List String)
    : (∀ ctx,
        (((shape.scanner js ctx).feedAll chunks).2 = false
          ∧ ∀ state chunk,
              (∀ evt ∈ dataFrames js (shape.buffered js ctx state ++ chunk.toList),
                evt.isObject = false)
              → shape.reading js ctx ((shape.scanner js ctx).feed state chunk).1
                = shape.reading js ctx state)
        ↔ (shape = .anthropic ∨ Json.null ∉ dataFrames js (chunkText chunks)))
      ∧ ∀ (book : PriceBook) (held : Held book) (opened : List Effect),
          held.provider.makeScanner = shape.scanner js
          → Unbilled opened
          → ((streamRun js held opened
                (held.scanner.pulls held.scanner.start chunks)).settlementDecision.isSome
            ↔ (shape = .anthropic ∨ Json.null ∉ dataFrames js (chunkText chunks))) := by
  have total (ctx : ScannerCtx)
      : ((shape.scanner js ctx).feedAll chunks).2 = false
        ↔ (shape = .anthropic ∨ Json.null ∉ dataFrames js (chunkText chunks)) := by
    rw [← Bool.not_eq_true, shape.feedAll_throws_iff js ctx chunks, not_and_or, not_not]
  refine ⟨?_, ?_⟩
  · intro ctx
    rw [← total ctx]
    exact and_iff_left (fun state chunk => shape.reading_inert js ctx state chunk)
  · intro book held opened streams unbilled
    have scans : held.scanner = shape.scanner js ⟨held.model, held.billableInputTokens⟩ :=
      congrFun streams _
    rw [← total ⟨held.model, held.billableInputTokens⟩, ← scans]
    exact pulls_settle_iff chunks _ (.start unbilled) rfl

section Example

theorem exampleBook_owner : exampleBook.providerOf "claude-haiku-4-5" = some "anthropic" := by
  simp [PriceBook.providerOf, PriceBook.findModel, PriceBook.rates, PriceBook.pricesModel,
    exampleBook]

theorem example_owned (js : Runtime)
    : (makeAnthropicProvider js exampleBook .countTokensHold).ownsModel "claude-haiku-4-5" := by
  simp [makeAnthropicProvider, exampleBook_owner]

theorem example_positive : (Number.ofInt 0).lt (.ofInt 100) := by
  simp [Number.ofInt, Number.lt]

theorem example_accepted
    : Ledger.safeMicros (some (.number (.ofInt 600))) = some (.ofInt 600) := by
  simp [Ledger.safeMicros, Number.safeInteger?_ofInt, Json.number?, Number.maxSafeInteger]

/-- A held request of the example provider. -/
def exampleHeld (js : Runtime) : Held exampleBook where
  provider := makeAnthropicProvider js exampleBook .countTokensHold
  model := "claude-haiku-4-5"
  body := .object []
  effectiveRaw := ""
  streaming := true
  clientCap := some (.ofInt 100)
  maxTokens := .ofInt 100
  hash := ""
  owned := example_owned js
  positive := example_positive
  holdId := "3b241101-e2bb-4255-8caf-4136c566a962"
  holdAmount := .ofInt 600
  billableInputTokens := .ofInt 10
  accepted := example_accepted

def exampleNullJs : Runtime := exampleRuntime [("null", .null)]

theorem scanner_totality_iff_anthropic
    : (streamRun exampleNullJs (exampleHeld exampleNullJs) []
        ((exampleHeld exampleNullJs).scanner.pulls (exampleHeld exampleNullJs).scanner.start
          ["data: nu", "ll\n"])).settlementDecision.isSome :=
  ((scanner_totality_iff exampleNullJs .anthropic ["data: nu", "ll\n"]).2 exampleBook
    (exampleHeld exampleNullJs) [] rfl ⟨rfl, rfl⟩).mpr (Or.inl rfl)

/-- A `null` frame makes both OpenAI scanners throw. -/
theorem scanners_not_total
    : ¬∀ (shape : StreamShape) (chunks : List String),
        ((shape.scanner exampleNullJs ⟨"gpt-4o", .ofInt 10⟩).feedAll chunks).2 = false := by
  intro total
  have threw
      : ((StreamShape.openaiChat.scanner exampleNullJs ⟨"gpt-4o", .ofInt 10⟩).feedAll
          ["data: null\n"]).2 = true := by
    decide +kernel
  rw [total] at threw
  cases threw

end Example

/-- Network packet boundaries are no money boundaries: however a text on which feeding does not
throw is cut, the scanner reports what it reports on the whole text, which is what the reference
reads. Any scanner reads a chunk by the loop that cuts its buffer at the line feeds.
-/
theorem chunk_invariance (js : Runtime) (shape : StreamShape) (ctx : ScannerCtx) (text : String)
    (total : ((shape.scanner js ctx).feedAll [text]).2 = false) (chunks : List String)
    (partition : String.join chunks = text)
    : ((shape.scanner js ctx).feedAll chunks).2 = false
      ∧ (∀ evidencedOnly,
          (shape.scanner js ctx).result ((shape.scanner js ctx).feedAll chunks).1 evidencedOnly
            = (shape.scanner js ctx).result ((shape.scanner js ctx).feedAll [text]).1
              evidencedOnly
          ∧ (shape.scanner js ctx).result ((shape.scanner js ctx).feedAll [text]).1 evidencedOnly
            = (shape.scanner js ctx).result (shape.reference js ctx text.toList) evidencedOnly)
      ∧ (shape.scanner js ctx).errored ((shape.scanner js ctx).feedAll chunks).1
        = (shape.scanner js ctx).errored ((shape.scanner js ctx).feedAll [text]).1
      ∧ (shape.scanner js ctx).errored ((shape.scanner js ctx).feedAll [text]).1
        = (shape.scanner js ctx).errored (shape.reference js ctx text.toList)
      ∧ ∀ (Data : Type) (event : Data → Json → Data × Bool) (state : ScanState Data) chunk,
          feedChunk js event state chunk
            = drain js event (state.buf ++ chunk.toList) state.data := by
  have joined : chunkText chunks = text.toList := by
    rw [← partition, String.toList_join]
    rfl
  have whole : chunkText [text] = text.toList := by simp [chunkText]
  have split : ((shape.scanner js ctx).feedAll chunks).2 = false := by
    rw [← Bool.not_eq_true, shape.feedAll_throws_iff js ctx] at total ⊢
    rwa [joined, ← whole]
  obtain ⟨results, errs⟩ := shape.feedAll_reference js ctx total
  obtain ⟨splitResults, splitErrs⟩ := shape.feedAll_reference js ctx split
  rw [whole] at results errs
  rw [joined] at splitResults splitErrs
  refine ⟨split, ?_, splitErrs.trans errs.symm, errs, fun _ _ => feedChunk_eq_drain⟩
  intro evidencedOnly
  exact ⟨(splitResults evidencedOnly).trans (results evidencedOnly).symm, results evidencedOnly⟩

/-- A frame that is cut inside its JSON text and between its carriage return and line feed. -/
theorem chunk_invariance_cut
    : ((StreamShape.openaiChat.scanner (exampleRuntime [("\x7b\x7d", .object [])])
          ⟨"gpt-4o", .ofInt 10⟩).feedAll
        ["da", "", "ta: \x7b", "\x7d\r", "\n"]).2 = false :=
  (chunk_invariance (exampleRuntime [("\x7b\x7d", .object [])]) .openaiChat
    ⟨"gpt-4o", .ofInt 10⟩ "data: \x7b\x7d\r\n" (by decide +kernel)
    ["da", "", "ta: \x7b", "\x7d\r", "\n"] (by decide +kernel)).1

end Nullsink.Proxy
