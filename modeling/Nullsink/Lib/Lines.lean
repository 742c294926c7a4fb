import Nullsink.Lib.Runtime

/-! Texts that arrive in pieces: the lines they complete, and loops whose body may throw. -/

namespace Ecma

/-- A loop over inputs whose body also says whether it throws, which ends the loop. -/
def untilThrow {State Input : Type*} (step : State → Input → State × Bool)
    : State → List Input → State × Bool
  | state, [] => (state, false)
  | state, input :: rest =>
      if (step state input).2 then step state input
      else untilThrow step (step state input).1 rest

section UntilThrow

variable {State Input : Type*} {step : State → Input → State × Bool}

/-- A loop over two lists in a row: the second is reached unless the first throws. -/
theorem untilThrow_append (state : State) (first later : List Input)
    : untilThrow step state (first ++ later)
      = if (untilThrow step state first).2 then untilThrow step state first
        else untilThrow step (untilThrow step state first).1 later := by
  induction first generalizing state with
  | nil => simp [untilThrow]
  | cons input rest ih =>
      by_cases threw : (step state input).2
      · simp [untilThrow, threw]
      · simp [untilThrow, threw, ih]

/-- A loop that does not throw folds its body. -/
theorem untilThrow_fold {state : State} {inputs : List Input}
    (total : (untilThrow step state inputs).2 = false)
    : (untilThrow step state inputs).1
      = inputs.foldl (fun state input => (step state input).1) state := by
  induction inputs generalizing state with
  | nil => rfl
  | cons input rest ih =>
      by_cases threw : (step state input).2
      · simp [untilThrow, threw] at total
      · simp only [untilThrow, threw, Bool.false_eq_true, if_false] at total ⊢
        exact ih total

/-- Only the last input of a loop can throw without ending it early. -/
theorem untilThrow_fold_last {state : State} {inputs : List Input}
    (total : (untilThrow step state inputs.dropLast).2 = false)
    : (untilThrow step state inputs).1
      = inputs.foldl (fun state input => (step state input).1) state := by
  rcases List.eq_nil_or_concat inputs with rfl | ⟨earlier, last, rfl⟩
  · rfl
  · rw [List.concat_eq_append] at total ⊢
    rw [List.dropLast_concat] at total
    rw [untilThrow_append, total, List.foldl_append, untilThrow_fold total]
    by_cases threw : (step (earlier.foldl (fun state input => (step state input).1) state) last).2
    · simp [untilThrow, threw]
    · simp [untilThrow, threw]

/-- Where a throw depends on the input alone, a loop throws exactly on a list with such an
input.
-/
theorem untilThrow_throws {throws : Input → Bool}
    (decided : ∀ state input, (step state input).2 = throws input) (state : State)
    (inputs : List Input)
    : (untilThrow step state inputs).2 = inputs.any throws := by
  induction inputs generalizing state with
  | nil => rfl
  | cons input rest ih =>
      cases threw : throws input with
      | true => simp [untilThrow, decided, threw]
      | false => simp [untilThrow, decided, threw, ih]

/-- The inputs of a list up to its first with a property, that one included. -/
def upToFirst (last : Input → Bool) : List Input → List Input
  | [] => []
  | input :: rest => if last input then [input] else input :: upToFirst last rest

theorem upToFirst_of_none {last : Input → Bool} {inputs : List Input}
    (none : ∀ input ∈ inputs, last input = false)
    : upToFirst last inputs = inputs := by
  induction inputs with
  | nil => rfl
  | cons input rest ih =>
      have others := ih (fun input member => none input (List.mem_cons_of_mem _ member))
      simp [upToFirst, none input List.mem_cons_self, others]

theorem map_upToFirst {last : Input → Bool} {change : Input → Input}
    (keeps : ∀ input, last (change input) = last input) (inputs : List Input)
    : (upToFirst last inputs).map change = upToFirst last (inputs.map change) := by
  induction inputs with
  | nil => rfl
  | cons input rest ih =>
      cases ends : last input with
      | true => simp [upToFirst, keeps, ends]
      | false => simp [upToFirst, keeps, ends, ih]

/-- A loop folds its body over the inputs up to the first on which it throws. -/
theorem untilThrow_eq_foldl {throws : Input → Bool}
    (decided : ∀ state input, (step state input).2 = throws input) (state : State)
    (inputs : List Input)
    : (untilThrow step state inputs).1
      = (upToFirst throws inputs).foldl (fun state input => (step state input).1) state := by
  induction inputs generalizing state with
  | nil => rfl
  | cons input rest ih =>
      cases threw : throws input with
      | true => simp [untilThrow, upToFirst, decided, threw]
      | false => simp [untilThrow, upToFirst, decided, threw, ih]

/-- A loop keeps what each input keeps of the state. -/
theorem untilThrow_keeps {α : Type*} (view : State → α) {inputs : List Input}
    (keeps : ∀ state, ∀ input ∈ inputs, view (step state input).1 = view state) (state : State)
    : view (untilThrow step state inputs).1 = view state := by
  induction inputs generalizing state with
  | nil => rfl
  | cons input rest ih =>
      have first := keeps state input List.mem_cons_self
      by_cases threw : (step state input).2
      · simpa [untilThrow, threw] using first
      · simp only [untilThrow, threw, Bool.false_eq_true, if_false]
        rw [ih (fun state input member => keeps state input (List.mem_cons_of_mem _ member)), first]

end UntilThrow

theorem splitLines_of_open {text : List Char} (unended : '\n' ∉ text)
    : splitLines text = ([], text) := by
  induction text with
  | nil => rfl
  | cons c rest ih =>
      obtain ⟨notHead, notRest⟩ := not_or.mp (List.mem_cons.not.mp unended)
      simp [splitLines, ih notRest, Ne.symm notHead]

theorem splitLines_line {line : List Char} (whole : '\n' ∉ line) (rest : List Char)
    : splitLines (line ++ '\n' :: rest) = (line :: (splitLines rest).1, (splitLines rest).2) := by
  induction line with
  | nil => simp [splitLines]
  | cons c tail ih =>
      obtain ⟨notHead, notTail⟩ := not_or.mp (List.mem_cons.not.mp whole)
      simp [splitLines, ih notTail, Ne.symm notHead]

/-- Complete lines split back into themselves, by induction on the lines. -/
theorem splitLines_joinLines {lines : List (List Char)} (whole : ∀ line ∈ lines, '\n' ∉ line)
    : splitLines (joinLines lines) = (lines, []) := by
  induction lines with
  | nil => rfl
  | cons line rest ih =>
      have joined : joinLines (line :: rest) = line ++ '\n' :: joinLines rest := by
        simp [joinLines]
      have others := ih (fun line member => whole line (List.mem_cons_of_mem _ member))
      rw [joined, splitLines_line (whole line List.mem_cons_self), others]

/-- A text with a line feed is a line, the feed and a rest. -/
theorem exists_line {text : List Char} (ended : '\n' ∈ text)
    : ∃ line rest, text = line ++ '\n' :: rest ∧ '\n' ∉ line := by
  obtain ⟨line, rest, rfl, whole⟩ := List.eq_append_cons_of_mem ended
  exact ⟨line, rest, rfl, whole⟩

/-- What follows the last complete line is unended. -/
theorem splitLines_tail_open (text : List Char) : '\n' ∉ (splitLines text).2 := by
  induction text with
  | nil => simp [splitLines]
  | cons c rest ih =>
      unfold splitLines
      split
      · exact ih
      · rename_i notFeed
        split
        · simpa [Ne.symm notFeed] using ih
        · exact ih

/-- A text is its complete lines and what follows them. -/
theorem joinLines_splitLines (text : List Char)
    : joinLines (splitLines text).1 ++ (splitLines text).2 = text := by
  induction text with
  | nil => rfl
  | cons c rest ih =>
      by_cases feed : c = '\n'
      · simpa [splitLines, feed, joinLines] using ih
      · cases lines : (splitLines rest).1 with
        | nil => simpa [splitLines, feed, lines, joinLines] using ih
        | cons line more => simpa [splitLines, feed, lines, joinLines] using ih

/-- The lines of a text that continues are those it has, and those its unended rest begins. -/
theorem splitLines_append (first later : List Char)
    : splitLines (first ++ later)
      = ((splitLines first).1 ++ (splitLines ((splitLines first).2 ++ later)).1,
        (splitLines ((splitLines first).2 ++ later)).2) := by
  induction first with
  | nil => simp [splitLines]
  | cons c rest ih =>
      by_cases feed : c = '\n'
      · simp [splitLines, feed, ih]
      · cases lines : (splitLines rest).1 with
        | nil => simp [splitLines, feed, ih, lines]
        | cons line more => simp [splitLines, feed, ih, lines]

/-- The complete lines are the pieces between line feeds, without the unterminated one. -/
theorem splitLines_eq_splitOn (text : List Char)
    : (splitLines text).1 = (text.splitOn '\n').dropLast := by
  induction text with
  | nil => simp [splitLines]
  | cons c rest ih =>
      rw [List.splitOn_cons_eq_if_modifyHead]
      obtain ⟨piece, more, pieces⟩ := List.exists_cons_of_ne_nil (List.splitOn_ne_nil '\n' rest)
      by_cases feed : c = '\n'
      · simp [splitLines, feed, ih, pieces]
      · cases more with
        | nil => simp [splitLines, feed, ih, pieces]
        | cons second later => simp [splitLines, feed, ih, pieces]

end Ecma
