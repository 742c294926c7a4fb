import Nullsink.Lib.Runtime

/-! The conversions `String(value)` and `Number(value)` of parsed JSON. An object that brings its
own `toString` has no primitive value, and converting it throws.
-/

namespace Ecma

/-- How a runtime writes a Number in decimal, and the Number it reads in a text. -/
structure Decimals where
  write : Number → String
  read : String → Number

/-- `x >= n` for an integer `n`. -/
def Number.atLeast (x : Number) (n : ℤ) : Bool :=
  match x with
  | .finite q => n ≤ q
  | .infinity negative => !negative
  | .nan => false

namespace Json

/-- `value ?? fallback` with a fallback that is there. -/
def orElse (value : Option Json) (fallback : Json) : Json :=
  (coalesce value none).getD fallback

/-- What a conversion throws when there is no primitive value. -/
def noDefaultValue : String := "No default value"

mutual

/-- `String(value)`. -/
def text (decimals : Decimals) : Json → Except String String
  | .null => .ok "null"
  | .bool value => .ok (if value then "true" else "false")
  | .number x => .ok (decimals.write x)
  | .string value => .ok value
  | .array items => do return ",".intercalate (← itemTexts decimals items)
  | .object fields =>
      if fields.any (fun field => field.1 = "toString") then .error noDefaultValue
      else .ok "[object Object]"

/-- The items of an array as `join` writes them. -/
def itemTexts (decimals : Decimals) : List Json → Except String (List String)
  | [] => .ok []
  | item :: rest => do
      let first ← if item.isNull then .ok "" else text decimals item
      return first :: (← itemTexts decimals rest)

end

/-- `Number(value)`. -/
def toNumber (decimals : Decimals) (value : Json) : Except String Number :=
  match value with
  | .null => .ok (.ofInt 0)
  | .bool value => .ok (.ofInt (if value then 1 else 0))
  | .number x => .ok x
  | .string value => .ok (decimals.read value)
  | .array items => do return decimals.read (← text decimals (.array items))
  | .object fields => do
      let _ ← text decimals (.object fields)
      return .nan

/-- `/^\d+$/.test(text)`. -/
def allDigits (text : String) : Bool :=
  text ≠ "" ∧ text.toList.all (fun c => '0' ≤ c ∧ c ≤ '9')

end Json

end Ecma
