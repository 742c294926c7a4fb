import Nullsink.Lib.Number

/-! JSON values and what one process reads of another's: serialized data keeps its finite
numbers, and every other number arrives as `null`.
-/

namespace Ecma

/-- A string is the list of its UTF-16 code units. -/
abbrev CodeUnit := BitVec 16

/-- The code units of a character, of which one beyond the basic plane has two. -/
def codeUnitsOf (c : Char) : List CodeUnit :=
  if c.toNat < 0x10000 then [.ofNat 16 c.toNat]
  else
    [.ofNat 16 (0xD800 + (c.toNat - 0x10000) / 0x400),
      .ofNat 16 (0xDC00 + (c.toNat - 0x10000) % 0x400)]

def codeUnits (text : String) : List CodeUnit := text.toList.flatMap codeUnitsOf

/-- A JSON value. Object fields are in the order the language lists them in, each key once. -/
inductive Json where
  | null
  | bool (value : Bool)
  | number (value : Number)
  | string (value : String)
  | array (items : List Json)
  | object (fields : List (String × Json))

namespace Json

/-- `value[key]`, where `none` is `undefined`. -/
def get? : Json → String → Option Json
  | .object fields, key => (fields.find? (fun field => field.1 = key)).map Prod.snd
  | _, _ => none

/-- `value === null`. -/
def isNull : Json → Bool
  | .null => true
  | _ => false

theorem isNull_iff {value : Json} : value.isNull = true ↔ value = .null := by
  cases value <;> simp [isNull]

/-- Whether a value has fields of its own names. -/
def isObject : Json → Bool
  | .object _ => true
  | _ => false

theorem get?_of_not_object {value : Json} (plain : value.isObject = false) (key : String)
    : value.get? key = none := by
  cases value with
  | object fields => cases plain
  | _ => rfl

/-- Whether a value passes an `if`. -/
def truthy : Json → Bool
  | .null => false
  | .bool value => value
  | .number (.finite q) => q ≠ 0
  | .number (.infinity _) => true
  | .number .nan => false
  | .string value => value ≠ ""
  | .array _ => true
  | .object _ => true

/-- The string of a value whose `typeof` is `"string"`. -/
def string? : Json → Option String
  | .string value => some value
  | _ => none

theorem string?_isSome {value : Json} : value.string?.isSome ↔ ∃ name, value = .string name := by
  cases value <;> simp [string?]

/-- The `length` of a string: its UTF-16 code units. -/
def stringLength (value : String) : ℕ :=
  (value.toList.map (fun c => if c.toNat < 0x10000 then 1 else 2)).sum

/-- The number of a value whose `typeof` is `"number"`. -/
def number? : Json → Option Number
  | .number value => some value
  | _ => none

mutual

/-- `JSON.parse(JSON.stringify(value))`. -/
def transmit : Json → Json
  | .number (.finite q) => .number (.finite q)
  | .number _ => .null
  | .array items => .array (transmitItems items)
  | .object fields => .object (transmitFields fields)
  | other => other

def transmitItems : List Json → List Json
  | [] => []
  | head :: tail => transmit head :: transmitItems tail

def transmitFields : List (String × Json) → List (String × Json)
  | [] => []
  | (key, value) :: tail => (key, transmit value) :: transmitFields tail

end

@[simp] theorem transmit_string (value : String) : transmit (.string value) = .string value := by
  simp [transmit]

@[simp] theorem transmit_object (fields : List (String × Json))
    : transmit (.object fields) = .object (transmitFields fields) := by
  simp [transmit]

@[simp] theorem transmit_ofInt (n : ℤ)
    : transmit (.number (.ofInt n)) = .number (.ofInt n) := by
  simp [transmit, Number.ofInt]

/-- What arrives as a number was that number when it was sent. -/
theorem number?_transmit {value : Json} {x : Number} (arrived : (transmit value).number? = some x)
    : value = .number x := by
  cases value with
  | number sent =>
      cases sent <;> simp_all [transmit, number?]
  | _ => simp [transmit, number?] at arrived

end Json

end Ecma
