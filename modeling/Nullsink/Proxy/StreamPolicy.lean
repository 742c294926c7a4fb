import Nullsink.Lib.RoundingOrder
import Nullsink.Proxy.ScannerLaws
import Nullsink.Proxy.StreamReading

/-! What a stream is charged, by the frames it has read and the cause that ends it: charges need
evidence, and a disconnect is never free.
-/

namespace Nullsink.Proxy

open Ecma

-----------------------------------------------------------------------------------------
-- More output never costs less
-----------------------------------------------------------------------------------------

section Cost

variable {fp : Rounding}

theorem priced_le_priced (monotone : fp.Monotone) {x y : Number} {rate : ℚ}
    (hx : x.FiniteNonneg) (hy : y.FiniteNonneg) (nonneg : 0 ≤ rate) (le : x.le y)
    : (priced fp x rate).le (priced fp y rate) := by
  obtain ⟨a, rfl, a_nonneg⟩ := hx.exists_finite
  obtain ⟨b, rfl, b_nonneg⟩ := hy.exists_finite
  have below : a ≤ b := by simpa [Number.le] using le
  exact monotone _ _ (mul_nonneg a_nonneg nonneg) (mul_le_mul_of_nonneg_right below nonneg)

theorem zero_le_sanitizeCount (x : Option Json)
    : (sanitizeCount (some (.number (.ofInt 0)))).le (sanitizeCount x) := by
  obtain ⟨count, counted, nonneg⟩ := (sanitizeCount_finiteNonneg x).exists_finite
  rw [counted]
  simpa [Number.le, sanitizeCount, Number.ofInt] using nonneg

/-- A usage with more output costs no less. -/
theorem costOf_le_costOf (monotone : fp.Monotone) (rate : Rate) (usage : Usage)
    {less more : Option Json} (le : (sanitizeCount less).le (sanitizeCount more))
    : (costOf fp rate { usage with outputTokens := less }).le
        (costOf fp rate { usage with outputTokens := more }) := by
  have input := priced_count_nonneg fp usage.inputTokens rate.input_nonneg
  have output (x : Option Json) := priced_count_nonneg fp x rate.output_nonneg
  have write5m := priced_write5m_nonneg fp usage rate.cacheWrite_nonneg
  have write1h := priced_write1h_nonneg fp usage rate.cacheWrite1h_nonneg
  have cacheRead := priced_count_nonneg fp usage.cacheReadInputTokens rate.cacheRead_nonneg
  have outputs :=
    priced_le_priced monotone (sanitizeCount_finiteNonneg less) (sanitizeCount_finiteNonneg more)
      rate.output_nonneg le
  have produced := Number.add_le_add monotone input (output less) input.le_refl outputs
  have plus5m :=
    Number.add_le_add monotone (input.add fp (output less)) write5m produced write5m.le_refl
  have plus1h :=
    Number.add_le_add monotone ((input.add fp (output less)).add fp write5m) write1h plus5m
      write1h.le_refl
  have total := ((input.add fp (output less)).add fp write5m).add fp write1h
  have sum := Number.add_le_add monotone total cacheRead plus1h cacheRead.le_refl
  exact Number.floor_le_floor ((total.add fp cacheRead).divBy fp (by norm_num))
    (Number.divBy_le_divBy monotone (total.add fp cacheRead) sum (by norm_num))

end Cost

-----------------------------------------------------------------------------------------
-- The policy table, by what was metered
-----------------------------------------------------------------------------------------

section Table

variable (fp : Rounding) (book : PriceBook) {input : StreamEnd}

/-- What was metered is charged at its price, whatever the cause. -/
theorem decide_metered {metered : Metered} (found : input.metered = some metered)
    : (decideStreamSettlement fp book input).map StreamSettlementDecision.cost
      = priceUsage fp book metered.model metered.usage input.requestModel := by
  simp only [decideStreamSettlement, found]
  cases priceUsage fp book metered.model metered.usage input.requestModel with
  | none => rfl
  | some cost =>
      rw [Option.map_some, Option.map_some]
      split
      · rfl
      · split <;> rfl

/-- Without metered usage a failed or drained stream is free. -/
theorem decide_free (none : input.metered = none)
    (ended : input.cause.upstreamFailed input.upstreamErrored ∨ input.cause = .shutdownDrain)
    : (decideStreamSettlement fp book input).map StreamSettlementDecision.cost
      = some (.ofInt 0) := by
  simp only [decideStreamSettlement, none]
  split
  · rfl
  · rename_i notFailed
    have drained : input.cause = .shutdownDrain := ended.resolve_left notFailed
    simp [drained, StreamSettlementDecision.cost]

/-- Without metered usage a caller's own end is charged the accepted input. -/
theorem decide_floor (none : input.metered = none)
    (healthy : input.cause.upstreamFailed input.upstreamErrored = false)
    (caller : input.cause = .clientCancel ∨ input.cause = .deadline)
    : (decideStreamSettlement fp book input).map StreamSettlementDecision.cost
      = priceUsage fp book (.string input.requestModel) (inputFloorUsage input.inputTokens)
          input.requestModel := by
  simp only [decideStreamSettlement, none, healthy, Bool.false_eq_true, if_false, if_pos caller,
    Option.map_map]
  exact Option.map_id'

/-- A served decision is the price of what a healthy stream metered at its natural end. -/
theorem decide_served {cost : Number}
    (served : decideStreamSettlement fp book input = some (.served cost))
    : input.cause = .complete ∧ input.upstreamErrored = false
      ∧ ∃ metered, input.metered = some metered
        ∧ priceUsage fp book metered.model metered.usage input.requestModel = some cost := by
  have complete := decideStreamSettlement_complete served trivial
  unfold decideStreamSettlement at served
  simp only at served
  split at served
  · rename_i metered found
    obtain ⟨price, priced, outcome⟩ := Option.map_eq_some_iff.mp served
    split at outcome
    · cases outcome
    · rename_i healthy
      obtain rfl := StreamSettlementDecision.served.inj outcome
      refine ⟨complete, ?_, metered, found, priced⟩
      simpa [complete, StreamTerminalCause.upstreamFailed] using healthy
  · split at served
    · cases served
    · split at served
      · obtain ⟨_, _, outcome⟩ := Option.map_eq_some_iff.mp served
        cases outcome
      · split at served <;> cases served

theorem decide_metered_ne_unmetered {metered : Metered} (found : input.metered = some metered)
    : decideStreamSettlement fp book input ≠ some .unmeteredComplete := by
  intro unmetered
  simp only [decideStreamSettlement, found] at unmetered
  obtain ⟨cost, _, outcome⟩ := Option.map_eq_some_iff.mp unmetered
  split at outcome
  · cases outcome
  · split at outcome <;> cases outcome

/-- A healthy stream that metered nothing at its natural end is unmetered. -/
theorem decide_unmetered (none : input.metered = none) (complete : input.cause = .complete)
    (healthy : input.upstreamErrored = false)
    : decideStreamSettlement fp book input = some .unmeteredComplete := by
  simp [decideStreamSettlement, none, complete, healthy, StreamTerminalCause.upstreamFailed]

end Table

-----------------------------------------------------------------------------------------
-- The decision on what a stream has read
-----------------------------------------------------------------------------------------

/-- What `settle` hands to the policy table, by the frames of a stream. -/
def StreamShape.streamEnd (js : Runtime) (ctx : ScannerCtx) (shape : StreamShape)
    (frames : List Json) (cause : StreamTerminalCause)
    : StreamEnd :=
  let upstreamErrored := frames.any shape.inBandError
  {
    cause
    metered :=
      shape.meteredOf js ctx frames
        (cause.upstreamFailed upstreamErrored ∨ cause = .shutdownDrain)
    upstreamErrored
    inputTokens := ctx.inputTokens
    requestModel := ctx.model
  }

section Held

variable {book : PriceBook} (js : Runtime) (held : Held book)

/-- The decision on a stream that has read some chunks when a cause ends it. -/
def Held.decision (chunks : List String) (cause : StreamTerminalCause)
    : Option StreamSettlementDecision :=
  decideStreamSettlement js.fp book
    (held.scanner.streamEnd held.ctx (held.scanner.feedAll chunks).1 cause)

/-- The charge of that decision before the hold clamps it. -/
def Held.decisionCost (chunks : List String) (cause : StreamTerminalCause) : Option Number :=
  (held.decision js chunks cause).map StreamSettlementDecision.cost

variable {js held}

/-- What `settle` hands over depends on the frames alone. -/
theorem Held.streamEnd_eq {shape : StreamShape}
    (streams : held.provider.makeScanner = shape.scanner js) (chunks : List String)
    (cause : StreamTerminalCause)
    : held.scanner.streamEnd held.ctx (held.scanner.feedAll chunks).1 cause
      = shape.streamEnd js held.ctx (shape.framesRead js (chunkText chunks)) cause := by
  have scans : held.scanner = shape.scanner js held.ctx := congrFun streams _
  rw [scans]
  simp only [UsageScanner.streamEnd, StreamShape.streamEnd, StreamShape.result_feedAll,
    StreamShape.errored_feedAll, StreamShape.errored_readFrames]

theorem Held.decision_eq {shape : StreamShape}
    (streams : held.provider.makeScanner = shape.scanner js) (chunks : List String)
    (cause : StreamTerminalCause)
    : held.decision js chunks cause
      = decideStreamSettlement js.fp book
          (shape.streamEnd js held.ctx (shape.framesRead js (chunkText chunks)) cause) := by
  rw [Held.decision, held.streamEnd_eq streams]

variable (js held) in
theorem Held.decision_isSome (chunks : List String) (cause : StreamTerminalCause)
    : (held.decision js chunks cause).isSome := by
  refine decideStreamSettlement_isSome js.fp ?_ held.model_priced
  intro metered found
  exact held.scanner.result_named _ _ metered found

/-- The text of a chunk event. -/
def StreamEvent.chunk? : StreamEvent → Option String
  | chunk text => some text
  | _ => none

theorem StreamMove.scan_kept {state next : StreamState held.scanner} {event : StreamEvent}
    (move : StreamMove js state event next) (other : event.chunk? = none)
    : next.scan = state.scan := by
  cases move with
  | fed scan => cases other
  | _ => rfl

/-- A stream has read its chunks, whatever else has happened; by induction on the last event. -/
theorem streamRun_scan {opened : List Effect} (unbilled : Unbilled opened)
    (events : List StreamEvent)
    : (streamRun js held opened events).scan
      = (events.filterMap StreamEvent.chunk?).foldl
          (fun scan text => (held.scanner.feed scan text).1) held.scanner.start := by
  induction events using List.reverseRecOn with
  | nil => rfl
  | append_singleton earlier event ih =>
      rw [streamRun_snoc, List.filterMap_append, List.foldl_append, ← ih]
      cases read : event.chunk? with
      | none =>
          have inv : StreamInvariant (streamRun js held opened earlier) :=
            streamRun_invariant unbilled earlier
          simpa [read] using (inv.move js event).scan_kept read
      | some text =>
          cases event with
          | chunk own =>
              obtain rfl := Option.some.inj read
              rfl
          | _ => cases read

/-- The first cause that settles a stream fixes the decision on the chunks read so far. Reading
ends with a chunk that throws.
-/
theorem streamRun_decision_eq {opened : List Effect} (unbilled : Unbilled opened)
    {before later : List StreamEvent} {event : StreamEvent} {reason : SettleReason}
    (undecided : (streamRun js held opened before).settlementDecision = none)
    (settles : (streamRun js held opened before).settleReason event = some reason)
    (reading
      : (held.scanner.feedAll (before.filterMap StreamEvent.chunk?).dropLast).2 = false)
    : ∃ decision,
        held.decision js (before.filterMap StreamEvent.chunk?) reason.terminalCause
          = some decision
        ∧ (streamRun js held opened (before ++ event :: later)).settlementDecision
          = some decision := by
  have scanned : (streamRun js held opened before).scan = _ :=
    (streamRun_scan unbilled before).trans (untilThrow_fold_last reading).symm
  obtain ⟨decision, policy, kept⟩ := streamRun_decision unbilled undecided settles
  refine ⟨decision, ?_, kept⟩
  rw [← policy, Held.decision, UsageScanner.feedAll, ← scanned]
  rfl

end Held

-----------------------------------------------------------------------------------------
-- What the frames come to
-----------------------------------------------------------------------------------------

namespace StreamShape

/-- The usage that the frames of a stream have reported. -/
def reportedUsage (js : Runtime) (shape : StreamShape) (frames : List Json) : Option Usage :=
  (shape.readFrames js frames).usage

/-- Whether a frame of a stream has reported usage. -/
def reports (shape : StreamShape) (frames : List Json) : Bool :=
  frames.any (fun evt => (shape.usageObject evt).isSome)

/-- The model that a stream has named last. -/
def lastModel (shape : StreamShape) (frames : List Json) : Option String :=
  (frames.filterMap shape.namedModel).getLast?

/-- The characters of visible output of a stream. -/
def visibleTotal (shape : StreamShape) (frames : List Json) : ℕ :=
  (frames.map shape.visibleOutput).sum

variable {js : Runtime} {ctx : ScannerCtx} {shape : StreamShape} {frames : List Json}

variable (js) in
theorem readFrames_usage_none (silent : shape.reports frames = false)
    : (shape.readFrames js frames).usage = none := by
  rw [← Option.isSome_eq_false_iff.trans Option.isNone_iff_eq_none, usage_readFrames]
  exact silent

/-- Reported usage is what is metered, in every mode; Anthropic also has to name a model. -/
theorem meteredOf_reported {usage : Usage} (reported : shape.reportedUsage js frames = some usage)
    (named : shape = .anthropic → ∃ model, shape.lastModel frames = some model ∧ model ≠ "")
    (evidencedOnly : Bool)
    : shape.meteredOf js ctx frames evidencedOnly
      = some ⟨.string ((shape.lastModel frames).getD ctx.model), usage, .reported⟩ := by
  unfold reportedUsage at reported
  unfold lastModel at named ⊢
  rw [← model_readFrames js] at named ⊢
  cases shape with
  | anthropic =>
      obtain ⟨model, found, nonempty⟩ := named rfl
      have kept : (some model).filter (fun model => model ≠ "") = some model :=
        Option.filter_eq_some_iff.mpr ⟨rfl, by simpa using nonempty⟩
      simp only [meteredOf, found, reported, kept, Option.getD_some]
  | openaiChat => simp [meteredOf, openaiResult, reported]
  | openaiResponses => simp [meteredOf, openaiResult, reported]

/-- A stream without usage or visible output has no evidence. -/
theorem meteredOf_unevidenced (silent : shape.reports frames = false)
    (invisible : shape.visibleTotal frames = 0)
    : shape.meteredOf js ctx frames true = none := by
  have usage := readFrames_usage_none js silent
  have chars := (contentChars_readFrames js shape frames).trans invisible
  cases shape <;> simp [meteredOf, openaiResult, usage, chars]

variable (js ctx) in
/-- Without usage a stream that did not fail is estimated, where it is an OpenAI one that has
seen a frame.
-/
theorem meteredOf_estimated (silent : shape.reports frames = false)
    (healthy : frames.any shape.inBandError = false)
    : shape.meteredOf js ctx frames false
      = if shape = .anthropic ∨ frames = [] then none
        else
          some ⟨.string ((shape.lastModel frames).getD ctx.model),
            estimatedUsage js ctx (shape.visibleTotal frames), .estimated⟩ := by
  have usage := readFrames_usage_none js silent
  have errored := (errored_readFrames js shape frames).trans healthy
  unfold lastModel visibleTotal
  rw [← model_readFrames js, ← contentChars_readFrames js]
  cases shape with
  | anthropic => simp [meteredOf, usage]
  | openaiChat =>
      cases frames with
      | nil => simp [meteredOf, openaiResult, usage]
      | cons evt rest => simp [meteredOf, openaiResult, usage, errored]
  | openaiResponses =>
      cases frames with
      | nil => simp [meteredOf, openaiResult, usage]
      | cons evt rest => simp [meteredOf, openaiResult, usage, errored]

/-- At a natural end without an error the mode is the full one. -/
theorem streamEnd_complete (healthy : frames.any shape.inBandError = false)
    : (shape.streamEnd js ctx frames .complete).metered
      = shape.meteredOf js ctx frames false := by
  simp [streamEnd, healthy, StreamTerminalCause.upstreamFailed]

/-- Metered usage of a stream that reported some is the reported one. -/
theorem meteredOf_evidence {evidencedOnly : Bool} {metered : Metered}
    (reported : shape.reports frames)
    (found : shape.meteredOf js ctx frames evidencedOnly = some metered)
    : metered.evidence = .reported := by
  obtain ⟨usage, accumulated⟩ :=
    Option.isSome_iff_exists.mp ((usage_readFrames js shape frames).trans reported)
  cases shape with
  | anthropic =>
      simp only [meteredOf] at found
      split at found
      · cases found
        rfl
      · cases found
  | openaiChat =>
      simp only [meteredOf, openaiResult, accumulated, Option.some.injEq] at found
      rw [← found]
  | openaiResponses =>
      simp only [meteredOf, openaiResult, accumulated, Option.some.injEq] at found
      rw [← found]

end StreamShape

section Policy

variable {book : PriceBook} {js : Runtime} {held : Held book} {shape : StreamShape}
  {chunks : List String} {cause : StreamTerminalCause}

/-- A stream that failed or was drained without evidence is free. -/
theorem Held.decisionCost_unevidenced (streams : held.provider.makeScanner = shape.scanner js)
    (ended
      : cause.upstreamFailed ((shape.framesRead js (chunkText chunks)).any shape.inBandError)
        ∨ cause = .shutdownDrain)
    (silent : shape.reports (shape.framesRead js (chunkText chunks)) = false)
    (invisible : shape.visibleTotal (shape.framesRead js (chunkText chunks)) = 0)
    : held.decisionCost js chunks cause = some (.ofInt 0) := by
  rw [Held.decisionCost, Held.decision_eq streams]
  refine decide_free js.fp book ?_ ended
  simp only [StreamShape.streamEnd, ended, decide_true]
  exact StreamShape.meteredOf_unevidenced silent invisible

/-- Reported usage is charged at its price. -/
theorem Held.decisionCost_reported (streams : held.provider.makeScanner = shape.scanner js)
    {usage : Usage}
    (reported
      : shape.reportedUsage js (shape.framesRead js (chunkText chunks)) = some usage)
    (named
      : shape = .anthropic
        → ∃ model,
            shape.lastModel (shape.framesRead js (chunkText chunks)) = some model ∧ model ≠ "")
    : held.decisionCost js chunks cause
      = priceUsage js.fp book
          (.string
            ((shape.lastModel (shape.framesRead js (chunkText chunks))).getD held.model))
          usage held.model := by
  rw [Held.decisionCost, Held.decision_eq streams]
  have metered
      : (shape.streamEnd js held.ctx (shape.framesRead js (chunkText chunks)) cause).metered = _ :=
    StreamShape.meteredOf_reported reported named _
  exact decide_metered js.fp book metered

variable (js) in
/-- A model that is unpriced, or priced as the request's, is charged at the request's rate. -/
theorem Held.priceUsage_eq {rate : Rate} (own : book.findRate held.model = some rate)
    {model : String} (priced : book.findRate model = none ∨ book.findRate model = some rate)
    (usage : Usage)
    : priceUsage js.fp book (.string model) usage held.model
      = some (costOf js.fp rate usage) := by
  have named := PriceBook.findModel_named held.model_priced
  rcases priced with unpriced | priced
  · simp [priceUsage, unpriced, named, own]
  · simp [priceUsage, priced]

/-- A caller's own end is charged at least the accepted input. -/
theorem Held.decisionCost_floor (ieee : js.fp = .binary64)
    (streams : held.provider.makeScanner = shape.scanner js)
    (caller : cause = .clientCancel ∨ cause = .deadline)
    (healthy : (shape.framesRead js (chunkText chunks)).any shape.inBandError = false)
    (silent : shape.reports (shape.framesRead js (chunkText chunks)) = false)
    (sameRate
      : ∀ model,
          shape.lastModel (shape.framesRead js (chunkText chunks)) = some model
          → book.findRate model = none ∨ book.findRate model = book.findRate held.model)
    : ∃ floor charge,
        priceUsage js.fp book (.string held.model) (inputFloorUsage held.billableInputTokens)
            held.model
          = some floor
        ∧ held.decisionCost js chunks cause = some charge
        ∧ floor.le charge := by
  obtain ⟨rate, own⟩ := PriceBook.exists_rate held.model_priced
  have floor := held.priceUsage_eq js own (Or.inr own) (inputFloorUsage held.billableInputTokens)
  have unfailed : cause.upstreamFailed false = false := by
    rcases caller with rfl | rfl <;> rfl
  have undrained : cause ≠ .shutdownDrain := by
    rcases caller with rfl | rfl <;> simp
  have metered := StreamShape.meteredOf_estimated js held.ctx silent healthy
  rw [Held.decisionCost, Held.decision_eq streams]
  set frames := shape.framesRead js (chunkText chunks)
  have unevidenced
      : (shape.streamEnd js held.ctx frames cause).metered
        = shape.meteredOf js held.ctx frames false := by
    simp [StreamShape.streamEnd, healthy, unfailed, undrained]
  by_cases unestimated : shape = .anthropic ∨ frames = []
  · rw [if_pos unestimated] at metered
    have charged :=
      decide_floor js.fp book (unevidenced.trans metered)
        (by simpa [StreamShape.streamEnd, healthy] using unfailed) caller
    exact ⟨_, _, floor, charged.trans floor, (priceUsage_amount js.fp floor).nonneg.le_refl⟩
  · rw [if_neg unestimated] at metered
    have charged := decide_metered js.fp book (unevidenced.trans metered)
    refine ⟨_, _, floor, charged.trans (held.priceUsage_eq js own ?_ _), ?_⟩
    · cases last : shape.lastModel frames with
      | none => exact Or.inr own
      | some model => simpa [own] using sameRate model last
    · exact costOf_le_costOf (ieee ▸ Rounding.binary64_monotone) rate
        (inputFloorUsage held.billableInputTokens) (zero_le_sanitizeCount _)

end Policy

/-- How a stream is charged, over every text and chunking that it can have read and every cause
that can end it. A failure of the upstream or a drain is free without evidence. A caller's own
end costs at least the accepted input. The charge does not depend on the cap a request was held
for, given its billable input. Reported usage is charged at its price; Anthropic has to name the
model with it. And the first cause that settles a stream decides on the chunks read until then.
-/
theorem stream_charge_policy (js : Runtime) (ieee : js.fp = .binary64) {book : PriceBook}
    (held : Held book) (shape : StreamShape)
    (streams : held.provider.makeScanner = shape.scanner js) (chunks : List String)
    (cause : StreamTerminalCause)
    : let frames := shape.framesRead js (chunkText chunks)
      (cause = .upstreamError ∨ cause = .upstreamTimeout ∨ cause = .shutdownDrain
          ∨ frames.any shape.inBandError
        → shape.reports frames = false
        → shape.visibleTotal frames = 0
        → held.decisionCost js chunks cause = some (.ofInt 0))
      ∧ (cause = .clientCancel ∨ cause = .deadline
        → frames.any shape.inBandError = false
        → shape.reports frames = false
        → (∀ model,
            shape.lastModel frames = some model
            → book.findRate model = none ∨ book.findRate model = book.findRate held.model)
        → ∃ floor charge,
            priceUsage js.fp book (.string held.model)
                (inputFloorUsage held.billableInputTokens) held.model
              = some floor
            ∧ held.decisionCost js chunks cause = some charge
            ∧ floor.le charge)
      ∧ (∀ other : Held book,
          other.provider = held.provider
          → other.model = held.model
          → other.billableInputTokens = held.billableInputTokens
          → other.decisionCost js chunks cause = held.decisionCost js chunks cause)
      ∧ (∀ usage,
          shape.reportedUsage js frames = some usage
          → (shape = .anthropic → ∃ model, shape.lastModel frames = some model ∧ model ≠ "")
          → held.decisionCost js chunks cause
            = priceUsage js.fp book
                (.string ((shape.lastModel frames).getD held.model)) usage held.model)
      ∧ ∀ opened before event later reason,
          Unbilled opened
          → (streamRun js held opened before).settlementDecision = none
          → (streamRun js held opened before).settleReason event = some reason
          → (held.scanner.feedAll (before.filterMap StreamEvent.chunk?).dropLast).2 = false
          → ∃ decision,
              held.decision js (before.filterMap StreamEvent.chunk?) reason.terminalCause
                = some decision
              ∧ (streamRun js held opened (before ++ event :: later)).settlementDecision
                = some decision := by
  refine ⟨?_, ?_, ?_, ?_, ?_⟩
  · intro ended silent invisible
    refine Held.decisionCost_unevidenced streams ?_ silent invisible
    rcases ended with rfl | rfl | rfl | errored
    · exact Or.inl rfl
    · exact Or.inl rfl
    · exact Or.inr rfl
    · exact Or.inl (by simp [StreamTerminalCause.upstreamFailed, errored])
  · intro caller healthy silent sameRate
    exact Held.decisionCost_floor ieee streams caller healthy silent sameRate
  · intro other sameProvider sameModel sameInput
    have sameCtx : other.ctx = held.ctx := by rw [Held.ctx, sameModel, sameInput, Held.ctx]
    have otherStreams : other.provider.makeScanner = shape.scanner js := by
      rw [sameProvider, streams]
    rw [Held.decisionCost, Held.decision_eq otherStreams, sameCtx, Held.decisionCost,
      Held.decision_eq streams]
  · intro usage reported named
    exact Held.decisionCost_reported streams reported named
  · intro opened before event later reason unbilled undecided settles reading
    exact streamRun_decision_eq unbilled undecided settles reading

section Example

def exampleChatBook : PriceBook where
  prices := [("gpt-4o", ⟨"openai", exampleRate⟩)]
  ids_nodup := List.nodup_singleton _
  ids_named := by
    intro entry listed
    rw [List.mem_singleton.mp listed]
    decide

theorem exampleChatBook_owner : exampleChatBook.providerOf "gpt-4o" = some "openai" := by
  simp [PriceBook.providerOf, PriceBook.findModel, PriceBook.rates, PriceBook.pricesModel,
    exampleChatBook]

theorem exampleChat_owned (js : Runtime)
    : (makeOpenAIChatProvider js exampleChatBook .countTokensHold).ownsModel "gpt-4o" := by
  have card : isOffCardModel "gpt-4o" = false := by decide
  simp [makeOpenAIChatProvider, ownsCardModel, exampleChatBook_owner, card]

/-- A held chat request. -/
def exampleChatHeld (js : Runtime) : Held exampleChatBook where
  provider := makeOpenAIChatProvider js exampleChatBook .countTokensHold
  model := "gpt-4o"
  body := .object []
  effectiveRaw := ""
  streaming := true
  clientCap := some (.ofInt 100)
  maxTokens := .ofInt 100
  hash := ""
  owned := exampleChat_owned js
  positive := example_positive
  holdId := "3b241101-e2bb-4255-8caf-4136c566a962"
  holdAmount := .ofInt 600
  billableInputTokens := .ofInt 10
  accepted := example_accepted

def exampleDeltaRaw : String :=
  "\x7b\"choices\":[\x7b\"delta\":\x7b\"content\":\"Hello\"\x7d\x7d]\x7d"

def exampleDelta : Json :=
  .object [("choices", .array [.object [("delta", .object [("content", .string "Hello")])]])]

def exampleChatUsageRaw : String :=
  "\x7b\"model\":\"gpt-4o\",\"usage\":\x7b\"prompt_tokens\":1000,\"completion_tokens\":20\x7d\x7d"

def exampleChatUsage : Json :=
  .object
    [("model", .string "gpt-4o"),
      ("usage",
        .object
          [("prompt_tokens", .number (.ofInt 1000)),
            ("completion_tokens", .number (.ofInt 20))])]

def exampleChatJs : Runtime :=
  exampleRuntime [(exampleDeltaRaw, exampleDelta), (exampleChatUsageRaw, exampleChatUsage)]

/-- A chat stream of one piece of text, which two chunks bring. -/
def exampleText : List String := ["data: " ++ exampleDeltaRaw, "\n"]

/-- The same stream when its usage comes too. -/
def exampleReported : List String :=
  exampleText ++ ["data: " ++ exampleChatUsageRaw ++ "\n", "data: [DONE]\n"]

theorem exampleReported_reports
    : (StreamShape.openaiChat.reportedUsage exampleChatJs
        (StreamShape.openaiChat.framesRead exampleChatJs (chunkText exampleReported))).isSome := by
  decide +kernel

/-- A chat whose client cancels it after a piece of text costs at least its input, and one that the
drain ends costs the usage that it has reported.
-/
theorem stream_charge_policy_cancelled
    : (∃ floor charge,
        priceUsage .binary64 exampleChatBook (.string "gpt-4o") (inputFloorUsage (.ofInt 10))
            "gpt-4o"
          = some floor
        ∧ (exampleChatHeld exampleChatJs).decisionCost exampleChatJs exampleText .clientCancel
          = some charge
        ∧ floor.le charge)
      ∧ (exampleChatHeld exampleChatJs).decisionCost exampleChatJs exampleReported .shutdownDrain
        = some (.ofInt 1100) := by
  have policy (chunks : List String) (cause : StreamTerminalCause) :=
    stream_charge_policy exampleChatJs rfl (exampleChatHeld exampleChatJs) .openaiChat rfl chunks
      cause
  constructor
  · refine (policy exampleText .clientCancel).2.1 (Or.inl rfl) (by decide +kernel)
      (by decide +kernel) fun model found => ?_
    have unnamed
        : StreamShape.openaiChat.lastModel
            (StreamShape.openaiChat.framesRead exampleChatJs (chunkText exampleText))
          = none := by
      decide +kernel
    cases unnamed.symm.trans found
  · have usage := Option.some_get exampleReported_reports
    rw [(policy exampleReported .shutdownDrain).2.2.2.1 _ usage.symm (fun shape => by cases shape)]
    decide +kernel

def exampleStartRaw : String :=
  "\x7b\"type\":\"message_start\",\"message\":\x7b\"usage\":\x7b\"input_tokens\":1000\x7d\x7d\x7d"

def exampleStart : Json :=
  .object
    [("type", .string "message_start"),
      ("message", .object [("usage", .object [("input_tokens", .number (.ofInt 1000))])])]

def exampleStartJs : Runtime := exampleRuntime [(exampleStartRaw, exampleStart)]

def exampleWideRaw : String :=
  "\x7b\"model\":\"claude-haiku-4-5\",\"max_tokens\":10000,\"stream\":true\x7d"

def exampleWideBody : Json :=
  .object
    [("model", .string "claude-haiku-4-5"), ("max_tokens", .number (.ofInt 10000)),
      ("stream", .bool true)]

def exampleWideJs : Runtime :=
  exampleRuntime [(exampleStreamRaw, exampleStreamBody), (exampleWideRaw, exampleWideBody)]

/-- The charge of a request whose client cancels before anything is read. -/
def exampleCancelled (raw : String) : Option Number :=
  match handleMetered exampleWideJs exampleSettings (exampleCandidates exampleWideJs)
      (exampleRequest raw) exampleEnvironment with
  | (.streaming held, _) => held.decisionCost exampleWideJs [] .clientCancel
  | _ => none

/-- The digits of a cap are part of the body whose bytes are counted, so a cap of 10000 tokens
is charged one token more than one of 100. And usage without a model is not charged at all.
-/
theorem charge_policy_fails
    : (exampleCancelled exampleStreamRaw = some (.ofInt 15)
        ∧ exampleCancelled exampleWideRaw = some (.ofInt 16))
      ∧ ∃ usage,
          StreamShape.anthropic.reportedUsage exampleStartJs
              (StreamShape.anthropic.framesRead exampleStartJs
                (chunkText ["data: " ++ exampleStartRaw ++ "\n"]))
            = some usage
          ∧ priceUsage .binary64 exampleBook (.string "claude-haiku-4-5") usage "claude-haiku-4-5"
            = some (.ofInt 1000)
          ∧ (exampleHeld exampleStartJs).decisionCost exampleStartJs
              ["data: " ++ exampleStartRaw ++ "\n"] .complete
            = some (.ofInt 0) := by
  refine ⟨by decide +kernel, startUsage (.object [("input_tokens", .number (.ofInt 1000))]),
    rfl, by decide +kernel, by decide +kernel⟩

end Example

/-- A stream is served exactly on reported usage, and a natural end without any is refunded in
full, unless an OpenAI stream with a frame and no error ends without usage: it is estimated and
counted as served.
-/
theorem served_reported_iff (js : Runtime) {book : PriceBook} (held : Held book)
    (shape : StreamShape) (streams : held.provider.makeScanner = shape.scanner js)
    (chunks : List String) (cause : StreamTerminalCause)
    : let frames := shape.framesRead js (chunkText chunks)
      let input := held.scanner.streamEnd held.ctx (held.scanner.feedAll chunks).1 cause
      (∀ decision,
          held.decision js chunks cause = some decision
          → (∀ cost,
              decision = .served cost
              → shape.reports frames
                ∧ ∃ metered,
                    input.metered = some metered
                    ∧ metered.evidence = .reported
                    ∧ priceUsage js.fp book metered.model metered.usage held.model = some cost)
            ∧ (cause = .complete
              → frames.any shape.inBandError = false
              → shape.reports frames = false
              → decision = .unmeteredComplete ∧ held.charge decision = .ofInt 0))
        ↔ ¬(shape ≠ .anthropic ∧ cause = .complete ∧ frames ≠ []
            ∧ frames.any shape.inBandError = false ∧ shape.reports frames = false) := by
  intro frames input
  have handed : input = shape.streamEnd js held.ctx frames cause := held.streamEnd_eq streams _ _
  have policy : held.decision js chunks cause = decideStreamSettlement js.fp book input := rfl
  rw [policy, handed]
  constructor
  · rintro lawful ⟨openai, rfl, nonempty, healthy, silent⟩
    have metered :=
      (StreamShape.streamEnd_complete healthy).trans
        (StreamShape.meteredOf_estimated js held.ctx silent healthy)
    rw [if_neg (not_or.mpr ⟨openai, nonempty⟩)] at metered
    obtain ⟨decision, decided⟩ :=
      Option.isSome_iff_exists.mp (held.decision_isSome js chunks .complete)
    rw [policy, handed] at decided
    obtain ⟨rfl, _⟩ := (lawful decision decided).2 rfl healthy silent
    exact decide_metered_ne_unmetered js.fp book metered decided
  · intro reads decision decided
    have silent_empty (complete : cause = .complete)
        (healthy : frames.any shape.inBandError = false) (silent : shape.reports frames = false)
        : (shape.streamEnd js held.ctx frames cause).metered = none := by
      subst complete
      rw [StreamShape.streamEnd_complete healthy,
        StreamShape.meteredOf_estimated js held.ctx silent healthy, if_pos]
      by_contra openai
      obtain ⟨notAnthropic, nonempty⟩ := not_or.mp openai
      exact reads ⟨notAnthropic, rfl, nonempty, healthy, silent⟩
    refine ⟨?_, ?_⟩
    · rintro cost rfl
      obtain ⟨complete, healthy, metered, found, price⟩ := decide_served js.fp book decided
      have reported : shape.reports frames := by
        by_contra unreported
        have none := silent_empty complete healthy (by simpa using unreported)
        cases none.symm.trans found
      exact ⟨reported, metered, found, StreamShape.meteredOf_evidence reported found, price⟩
    · rintro rfl healthy silent
      have unmetered := decide_unmetered js.fp book (silent_empty rfl healthy silent) rfl healthy
      obtain rfl := Option.some.inj (decided.symm.trans unmetered)
      exact ⟨rfl, held.effectiveDebit_zero⟩

section Example

/-- A chat that reports its usage is served at its price, and a message stream whose only frame
reports none is unmetered.
-/
theorem served_reported_iff_chat
    : (∃ metered : Metered,
        (exampleChatHeld exampleChatJs).decision exampleChatJs exampleReported .complete
          = some (.served (.ofInt 1100))
        ∧ metered.evidence = .reported
        ∧ priceUsage .binary64 exampleChatBook metered.model metered.usage "gpt-4o"
          = some (.ofInt 1100))
      ∧ (exampleHeld exampleChatJs).decision exampleChatJs exampleText .complete
        = some .unmeteredComplete := by
  constructor
  · have served
        : (exampleChatHeld exampleChatJs).decision exampleChatJs exampleReported .complete
          = some (.served (.ofInt 1100)) := by
      decide +kernel
    have lawful :=
      (served_reported_iff exampleChatJs (exampleChatHeld exampleChatJs) .openaiChat rfl
        exampleReported .complete).mpr
    obtain ⟨_, metered, _, reported, price⟩ := (lawful (by decide +kernel) _ served).1 _ rfl
    exact ⟨metered, served, reported, price⟩
  · obtain ⟨decision, decided⟩ :=
      Option.isSome_iff_exists.mp
        ((exampleHeld exampleChatJs).decision_isSome exampleChatJs exampleText .complete)
    have lawful :=
      (served_reported_iff exampleChatJs (exampleHeld exampleChatJs) .anthropic rfl exampleText
        .complete).mpr (fun failing => failing.1 rfl)
    have unmetered := (lawful decision decided).2 rfl (by decide +kernel) (by decide +kernel)
    rw [decided, unmetered.1]

def exampleEmptyJs : Runtime := exampleRuntime [("\x7b\x7d", .object [])]

/-- A chat stream of one empty frame that ends cleanly is served at its input estimate. -/
theorem served_unreported
    : (exampleChatHeld exampleEmptyJs).decision exampleEmptyJs ["data: \x7b\x7d\n"] .complete
        = some (.served (.ofInt 10))
      ∧ StreamShape.openaiChat.reports
          (StreamShape.openaiChat.framesRead exampleEmptyJs (chunkText ["data: \x7b\x7d\n"]))
        = false := by
  decide +kernel

end Example

end Nullsink.Proxy
