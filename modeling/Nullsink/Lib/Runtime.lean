import Mathlib.Data.List.DropRight
import Nullsink.Lib.Arithmetic
import Nullsink.Lib.Json

/-! What a JavaScript runtime supplies to a program: its arithmetic, its JSON texts and the
operations on strings the programs use.
-/

theorem Except.bind_eq_ok {ε α β : Type} {x : Except ε α} {next : α → Except ε β} {result : β}
    : x >>= next = .ok result ↔ ∃ value, x = .ok value ∧ next value = .ok result := by
  cases x with
  | error thrown => simp [bind, Except.bind]
  | ok value => simp [bind, Except.bind]

namespace Ecma

/-- A runtime: how it rounds, `JSON.parse` with `none` for a throw, and `JSON.stringify`. -/
structure Runtime where
  fp : Rounding
  parse : String → Option Json
  stringify : Json → String

/-- What `JSON.stringify` does with an object that has only JSON values: `JSON.parse` reads the
text back, and it is one line in braces, since a line feed in a string is escaped.
-/
structure Runtime.Serializes (js : Runtime) (value : Json) : Prop where
  parse_stringify : js.parse (js.stringify value) = some value
  oneLine : '\n' ∉ (js.stringify value).toList
  braces : ∃ inner, (js.stringify value).toList = '{' :: inner ++ ['}']

/-- Texts in braces are how objects are written. -/
theorem Runtime.serializes_of {js : Runtime} {value : Json} {raw fields : String}
    (written : js.stringify value = raw) (braces : raw = "\x7b" ++ fields ++ "\x7d")
    (oneLine : '\n' ∉ fields.toList) (read : js.parse raw = some value)
    : js.Serializes value where
  parse_stringify := by rw [written, read]
  oneLine := by
    rw [written, braces]
    simpa using oneLine
  braces := ⟨fields.toList, by rw [written, braces]; simp⟩

/-- White space and line terminators, as `trim` strips them. -/
def whitespace (c : Char) : Bool :=
  c.toNat ∈ [0x09, 0x0A, 0x0B, 0x0C, 0x0D, 0x20, 0xA0, 0x1680, 0x2028, 0x2029, 0x202F, 0x205F,
    0x3000, 0xFEFF]
  ∨ (0x2000 ≤ c.toNat ∧ c.toNat ≤ 0x200A)

/-- `text.trimEnd()`. -/
def trimEnd (text : List Char) : List Char := text.rdropWhile whitespace

/-- `text.trim()`. -/
def trim (text : List Char) : List Char := trimEnd (text.dropWhile whitespace)

/-- A text that ends in no white space is not trimmed at its end. -/
theorem trimEnd_concat {text : List Char} {last : Char} (visible : whitespace last = false)
    : trimEnd (text ++ [last]) = text ++ [last] :=
  List.rdropWhile_concat_neg _ _ _ (Bool.not_eq_true _ ▸ visible)

/-- The lines of a text that a line feed ends, and what follows the last one. -/
def splitLines : List Char → List (List Char) × List Char
  | [] => ([], [])
  | c :: rest =>
      if c = '\n' then ([] :: (splitLines rest).1, (splitLines rest).2)
      else
        match (splitLines rest).1 with
        | [] => ([], c :: (splitLines rest).2)
        | line :: lines => ((c :: line) :: lines, (splitLines rest).2)

/-- The text of complete lines. -/
def joinLines (lines : List (List Char)) : List Char := lines.flatMap (· ++ ['\n'])

namespace Json

/-- `value ?? fallback`, with `none` for `undefined`. -/
def coalesce (value fallback : Option Json) : Option Json :=
  match value with
  | none => fallback
  | some .null => fallback
  | some present => some present

/-- `value != null`. -/
def present (value : Option Json) : Bool := (coalesce value none).isSome

/-- `Array.isArray(value)`, with the items. -/
def array? : Json → Option (List Json)
  | .array items => some items
  | _ => none

/-- Whether a field holds a value that passes an `if`. -/
def holds (value : Option Json) : Bool := value.any truthy

/-- `value === text`. -/
def isText (value : Option Json) (text : String) : Bool :=
  (value.bind string?) = some text

/-- `object[key] = value`: an existing field keeps its place. -/
def setField (fields : List (String × Json)) (key : String) (value : Json)
    : List (String × Json) :=
  if fields.any (fun field => field.1 = key) then
    fields.map (fun field => if field.1 = key then (key, value) else field)
  else fields ++ [(key, value)]

/-- `value === true`. -/
def isTrue : Option Json → Bool
  | some (.bool value) => value
  | _ => false

/-- The items of an array under their indices. -/
def indexed (items : List Json) : List (String × Json) :=
  items.zipIdx.map (fun item => (item.2.repr, item.1))

/-- The code units of a string as strings. Half of a pair is no text by itself: the replacement
character stands for it.
-/
def units (text : String) : List String :=
  text.toList.flatMap (fun c =>
    if c.toNat < 0x10000 then [String.singleton c] else ["\uFFFD", "\uFFFD"])

/-- `{ ...value }`, the fields that `Object.entries` lists: an array and a string have one under
each index.
-/
def spread : Json → List (String × Json)
  | .object fields => fields
  | .array items => indexed items
  | .string text => indexed ((units text).map .string)
  | _ => []

end Json

end Ecma
