import Nullsink.Proxy.ScannerFeed

/-! The text of an event stream as an upstream writes it, one serialized frame a data line, and
that the scanners find just those frames in it.
-/

namespace Nullsink.Proxy

open Ecma

/-- A line of an event stream: a serialized frame, or one without data. -/
inductive EventLine where
  | data (frame : Json)
  | other (line : List Char) (whole : '\n' ∉ line) (dataless : ¬"data:".toList <+: line)

namespace EventLine

def frame? : EventLine → Option Json
  | data frame => some frame
  | other .. => none

def text (js : Runtime) : EventLine → List Char
  | data frame => "data: ".toList ++ (js.stringify frame).toList
  | other line _ _ => line

end EventLine

/-- The frames of some lines. -/
def lineFrames (lines : List EventLine) : List Json := lines.filterMap EventLine.frame?

/-- The text of some lines. -/
def eventText (js : Runtime) (lines : List EventLine) : List Char :=
  joinLines (lines.map (EventLine.text js))

section Reading

variable {js : Runtime}

/-- A data line carries the frame that was serialized into it. -/
theorem linePayload_data {frame : Json} (serializes : js.Serializes frame)
    : linePayload js ("data: ".toList ++ (js.stringify frame).toList) = some frame := by
  obtain ⟨inner, braces⟩ := serializes.braces
  have visible : whitespace '}' = false := by decide
  have trimmed : trimEnd ("data: ".toList ++ ('{' :: inner ++ ['}']))
      = "data: ".toList ++ ('{' :: inner ++ ['}']) := by
    rw [← List.append_assoc]
    exact trimEnd_concat visible
  have payload : trim (' ' :: '{' :: inner ++ ['}']) = '{' :: inner ++ ['}'] := by
    have start : (' ' :: '{' :: inner ++ ['}']).dropWhile whitespace = '{' :: inner ++ ['}'] := by
      simp [whitespace]
    rw [trim, start]
    exact trimEnd_concat visible
  have marked : "data:".toList.isPrefixOf ("data: ".toList ++ ('{' :: inner ++ ['}'])) := rfl
  have rest : ("data: ".toList ++ ('{' :: inner ++ ['}'])).drop 5
      = ' ' :: '{' :: inner ++ ['}'] :=
    rfl
  have written : ¬('{' :: inner ++ ['}'] = [] ∨ '{' :: inner ++ ['}'] = "[DONE]".toList) := by
    simp
  simp only [linePayload, braces]
  rw [trimmed, if_pos marked, rest, payload, if_neg written, ← braces, String.ofList_toList]
  exact serializes.parse_stringify

/-- A line that does not start with `data:` carries nothing. -/
theorem linePayload_other {line : List Char} (dataless : ¬"data:".toList <+: line)
    : linePayload js line = none := by
  have trimmed : ¬"data:".toList <+: trimEnd line :=
    fun marked => dataless (marked.trans (List.rdropWhile_prefix _ _))
  have unmarked : "data:".toList.isPrefixOf (trimEnd line) = false := by
    rwa [← Bool.not_eq_true, List.isPrefixOf_iff_prefix]
  simp only [linePayload]
  rw [unmarked]
  rfl

theorem EventLine.whole (line : EventLine)
    (serializes : ∀ frame, line.frame? = some frame → js.Serializes frame)
    : '\n' ∉ line.text js := by
  cases line with
  | data frame =>
      have marker : '\n' ∉ "data: ".toList := by decide
      exact List.not_mem_append marker (serializes frame rfl).oneLine
  | other line whole dataless => exact whole

/-- The frames that are read of a text are those that were written into it. -/
theorem dataFrames_eventText {lines : List EventLine}
    (serializes : ∀ frame ∈ lineFrames lines, js.Serializes frame)
    : dataFrames js (eventText js lines) = lineFrames lines := by
  have written (line : EventLine) (member : line ∈ lines) (frame : Json)
      (carried : line.frame? = some frame)
      : js.Serializes frame :=
    serializes frame (List.mem_filterMap.mpr ⟨line, member, carried⟩)
  have whole : ∀ text ∈ lines.map (EventLine.text js), '\n' ∉ text := by
    intro text member
    obtain ⟨line, listed, rfl⟩ := List.mem_map.mp member
    exact line.whole (written line listed)
  rw [dataFrames, eventText, splitLines_joinLines whole, List.filterMap_map]
  refine List.filterMap_congr ?_
  intro line member
  cases line with
  | data frame => exact linePayload_data (written _ member frame rfl)
  | other line whole dataless => exact linePayload_other dataless

end Reading

end Nullsink.Proxy
