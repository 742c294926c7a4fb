import Mathlib.Algebra.BigOperators.Group.List.Basic
import Mathlib.Data.List.Forall2

/-! Records that are kept in windows: events change the record of the window, and a flush reports it
and starts the next one.
-/

namespace Windows

/-- An event, or a flush with what it is given. -/
inductive Entry (Event Stamp : Type*) where
  | event (event : Event)
  | flush (stamp : Stamp)

/-- How an event changes a window, and what a flush reports and leaves. -/
structure Recorder (Window Event Stamp Report : Type*) where
  record : Window → Event → Window
  flush : Window → Stamp → Report × Window

variable {Window Event Stamp Report : Type*}

/-- The events of each flushed window, after those that the first window has already. -/
def blocksFrom (earlier : List Event) : List (Entry Event Stamp) → List (List Event)
  | [] => []
  | .event event :: rest => blocksFrom (earlier ++ [event]) rest
  | .flush _ :: rest => earlier :: blocksFrom [] rest

/-- The events of each flushed window. -/
def blocks (entries : List (Entry Event Stamp)) : List (List Event) := blocksFrom [] entries

/-- The events before the last flush. -/
def flushed (entries : List (Entry Event Stamp)) : List Event := (blocks entries).flatten

namespace Recorder

/-- The reports of the flushes, in order. -/
def reports (recorder : Recorder Window Event Stamp Report) (window : Window)
    : List (Entry Event Stamp) → List Report
  | [] => []
  | .event event :: rest => recorder.reports (recorder.record window event) rest
  | .flush stamp :: rest =>
      (recorder.flush window stamp).1 :: recorder.reports (recorder.flush window stamp).2 rest

variable {recorder : Recorder Window Event Stamp Report}

/-- What holds of a window and its events from its start on, its report tells; by induction on the
entries.
-/
theorem reports_blocks {kept : Window → List Event → Prop} {tells : Report → List Event → Prop}
    (starts : ∀ window stamp, kept (recorder.flush window stamp).2 [])
    (records
      : ∀ window earlier event,
          kept window earlier → kept (recorder.record window event) (earlier ++ [event]))
    (reported : ∀ window earlier stamp,
      kept window earlier → tells (recorder.flush window stamp).1 earlier)
    {window : Window} (first : kept window []) (entries : List (Entry Event Stamp))
    : List.Forall₂ tells (recorder.reports window entries) (blocks entries) := by
  suffices h
      : ∀ {window : Window} {earlier : List Event}, kept window earlier
          → List.Forall₂ tells (recorder.reports window entries) (blocksFrom earlier entries) from
    h first
  clear first window
  intro window earlier begun
  induction entries generalizing window earlier with
  | nil => exact .nil
  | cons entry rest ih =>
      cases entry with
      | event event => exact ih (records _ _ event begun)
      | flush stamp => exact .cons (reported _ _ stamp begun) (ih (starts window stamp))

end Recorder

/-- What the reports tell one by one, and what each of them leaves untold, adds up to what the
flushed events add; by induction on the windows.
-/
theorem sum_reports {Weight : Type*} [AddCommMonoid Weight] {tells : Report → List Event → Prop}
    {amount : Report → Weight} {untold : List Event → Weight} {adds : Event → Weight}
    (tell
      : ∀ report block,
          tells report block → amount report + untold block = (block.map adds).sum)
    {reports : List Report} {blocks : List (List Event)} (told : List.Forall₂ tells reports blocks)
    : (reports.map amount).sum + (blocks.map untold).sum = (blocks.flatten.map adds).sum := by
  induction told with
  | nil => exact add_zero 0
  | cons first _ ih =>
      rw [List.map_cons, List.sum_cons, List.map_cons, List.sum_cons, List.flatten_cons,
        List.map_append, List.sum_append, ← ih, ← tell _ _ first, add_add_add_comm]

end Windows
