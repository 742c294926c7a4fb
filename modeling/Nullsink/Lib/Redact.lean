import Nullsink.Lib.Runtime

/-! What a JSON value is apart from the strings at some places in it. A place is a path of fields
and items; redacting masks the strings there, and leaves every other part as it is.
-/

namespace Ecma.Json

/-- A step into a value: to a field of an object, or to each item of an array. -/
inductive Step where
  | field (key : String)
  | items
  deriving DecidableEq

/-- A value whose strings at the ends of a path are masked. -/
def redactAt (mask : String → String) : List Step → Json → Json
  | [], .string text => .string (mask text)
  | .field key :: path, .object fields =>
      .object
        (fields.map
          (fun field => if field.1 = key then (field.1, redactAt mask path field.2) else field))
  | .items :: path, .array items => .array (items.map (redactAt mask path))
  | _, value => value

/-- A value whose strings at the ends of some paths are masked. -/
def redact (mask : String → String) (paths : List (List Step)) (value : Json) : Json :=
  paths.foldl (fun value path => redactAt mask path value) value

/-- A mask that leaves every text as long as it is. -/
def KeepsLength (mask : String → String) : Prop :=
  ∀ text, stringLength (mask text) = stringLength text

section Redact

variable {mask : String → String}

/-- What each path keeps of a value, all of them keep; by induction on the paths. -/
theorem redact_keeps {α : Type*} (view : Json → α) {paths : List (List Step)}
    (keeps : ∀ path ∈ paths, ∀ value, view (redactAt mask path value) = view value) (value : Json)
    : view (redact mask paths value) = view value := by
  induction paths generalizing value with
  | nil => rfl
  | cons path rest ih =>
      have others := ih (fun path member => keeps path (List.mem_cons_of_mem _ member))
      exact (others _).trans (keeps path List.mem_cons_self value)

/-- Redacting below a field redacts what it holds. -/
theorem get?_redactAt_field (key : String) (path : List Step) (value : Json)
    : (redactAt mask (.field key :: path) value).get? key
      = (value.get? key).map (redactAt mask path) := by
  cases value with
  | object fields =>
      simp only [redactAt, get?]
      induction fields with
      | nil => rfl
      | cons field rest ih =>
          by_cases named : field.1 = key
          · simp [named]
          · simpa [named] using ih
  | _ => rfl

/-- Redacting below other fields, or below none, keeps a field. -/
theorem get?_redactAt_other {key : String} {path : List Step}
    (other : path.head? ≠ some (.field key)) (value : Json)
    : (redactAt mask path value).get? key = value.get? key := by
  cases path with
  | nil => cases value <;> rfl
  | cons step path =>
      cases step with
      | items => cases value <;> rfl
      | field named =>
          have different : named ≠ key := fun same => other (by rw [same]; rfl)
          cases value with
          | object fields =>
              simp only [redactAt, get?]
              induction fields with
              | nil => rfl
              | cons field rest ih =>
                  by_cases below : field.1 = named
                  · simpa [below, different] using ih
                  · by_cases found : field.1 = key
                    · simp [found, different.symm]
                    · simpa [below, found] using ih
          | _ => rfl

/-- Redacting below items redacts each of them. -/
theorem array?_redactAt_items (path : List Step) (value : Json)
    : (redactAt mask (.items :: path) value).array?
      = value.array?.map (List.map (redactAt mask path)) := by
  cases value <;> rfl

theorem isNull_redactAt (path : List Step) (value : Json)
    : (redactAt mask path value).isNull = value.isNull := by
  cases path with
  | nil => cases value <;> rfl
  | cons step path => cases step <;> cases value <;> rfl

/-- Redacted strings of kept length have their length. -/
theorem stringLength_redactAt (keeps : KeepsLength mask) (value : Json)
    : (redactAt mask [] value).string?.map stringLength
      = value.string?.map stringLength := by
  cases value with
  | string text => simp [redactAt, string?, keeps text]
  | _ => rfl

/-- Values that are alike after a change have in common what the change keeps. -/
theorem map_view_eq {α : Type*} {change : Json → Json} (view : Json → α)
    (keeps : ∀ value, view (change value) = view value) {first second : List Json}
    (alike : first.map change = second.map change)
    : first.map view = second.map view := by
  have viewed := congrArg (List.map view) alike
  simpa [Function.comp_def, keeps] using viewed

end Redact

/-- A blank text of the same length. -/
def blanked (text : String) : String := String.ofList (List.replicate (stringLength text) ' ')

theorem blanked_keepsLength : KeepsLength blanked := by
  intro text
  simp [stringLength, blanked]

end Ecma.Json
