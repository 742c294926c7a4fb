import Mathlib.Data.List.Perm.Basic
import Nullsink.Lib.Transition

/-! Scripts of events that run concurrently: a log takes the events of one script in their order,
and those of different scripts in any.
-/

namespace Transition

variable {α : Type}

/-- What is left of each script, and an event that is the next one of its script. -/
def interleaving (α : Type) : System (List (List α)) (ℕ × α) where
  initial _ := True
  step scripts event next :=
    ∃ rest, scripts[event.1]? = some (event.2 :: rest) ∧ next = scripts.set event.1 rest

/-- Every script is over. -/
def Ended (scripts : List (List α)) : Prop := ∀ script ∈ scripts, script = []

/-- The events of one script in a log. -/
def eventsOf (i : ℕ) (log : List (ℕ × α)) : List α :=
  log.filterMap (fun event => if event.1 = i then some event.2 else none)

theorem eventsOf_snoc (i : ℕ) (log : List (ℕ × α)) (event : ℕ × α)
    : eventsOf i (log ++ [event])
      = eventsOf i log ++ if event.1 = i then [event.2] else [] := by
  by_cases same : event.1 = i <;> simp [eventsOf, same]

/-- One event moves from what is left of its script to the log. -/
theorem interleaving_step {scripts next : List (List α)} {event : ℕ × α}
    (step : (interleaving α).step scripts event next) (i : ℕ)
    : (if event.1 = i then [event.2] else []) ++ (next[i]?).getD [] = (scripts[i]?).getD [] := by
  obtain ⟨rest, found, rfl⟩ := step
  have within : event.1 < scripts.length := (List.getElem?_eq_some_iff.mp found).1
  by_cases same : event.1 = i
  · subst same
    simp [found, List.getElem?_set_self within]
  · simp [same, List.getElem?_set_ne same]

/-- A log keeps the order of each script; by induction on the last event. -/
theorem interleaving_order {scripts rest : List (List α)} {log : List (ℕ × α)}
    (run : (interleaving α).Run scripts log rest) (i : ℕ)
    : eventsOf i log ++ (rest[i]?).getD [] = (scripts[i]?).getD [] := by
  induction run with
  | nil => rfl
  | @snoc earlier middle event next before last ih =>
      rw [eventsOf_snoc, List.append_assoc, interleaving_step last i]
      exact ih

/-- A log has the occurrences of its scripts, up to order; by induction on the last event. -/
theorem interleaving_perm {scripts rest : List (List α)} {log : List (ℕ × α)}
    (run : (interleaving α).Run scripts log rest)
    : (log.map Prod.snd ++ rest.flatten).Perm scripts.flatten := by
  induction run with
  | nil => exact .rfl
  | @snoc earlier middle event next before last ih =>
      obtain ⟨later, found, rfl⟩ := last
      obtain ⟨within, head⟩ := List.getElem?_eq_some_iff.mp found
      have front : (middle.set event.1 later).flatten.Perm
          (later ++ (middle.eraseIdx event.1).flatten) :=
        (List.set_perm_cons_eraseIdx within later).flatten
      have back : (middle[event.1] ++ (middle.eraseIdx event.1).flatten).Perm middle.flatten :=
        (List.getElem_cons_eraseIdx_perm within).flatten
      rw [head] at back
      have taken := (front.cons event.2).trans back
      rw [List.map_append, List.append_assoc]
      exact (List.Perm.append_left _ taken).trans ih

section Ended

variable {scripts rest : List (List α)} {log : List (ℕ × α)}

/-- Where every script is over, the log has the whole of each. -/
theorem eventsOf_ended (run : (interleaving α).Run scripts log rest) (ended : Ended rest)
    {i : ℕ} {script : List α} (found : scripts[i]? = some script)
    : eventsOf i log = script := by
  have finished : (rest[i]?).getD [] = [] := by
    cases left : rest[i]? with
    | none => rfl
    | some last => exact ended last (List.mem_of_getElem? left)
  have whole := interleaving_order run i
  rw [finished, found, List.append_nil] at whole
  exact whole

/-- Where every script is over, the log is all their events, in some order. -/
theorem perm_ended (run : (interleaving α).Run scripts log rest) (ended : Ended rest)
    : (log.map Prod.snd).Perm scripts.flatten := by
  have finished : rest.flatten = [] := List.flatten_eq_nil_iff.mpr ended
  have whole := interleaving_perm run
  rwa [finished, List.append_nil] at whole

end Ended

end Transition
