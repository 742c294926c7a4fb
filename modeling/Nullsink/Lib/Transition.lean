import Mathlib.Algebra.Order.Monoid.Defs
import Mathlib.Data.List.Induction
import Mathlib.Data.Nat.Cast.Basic
import Mathlib.Tactic.GCongr

/-! Systems that take labelled steps, their runs, and the rules for what holds along a run. -/

namespace Transition

/-- The states a system may start in, and the steps it may take. -/
structure System (State Label : Type) where
  initial : State → Prop
  step : State → Label → State → Prop

namespace System

variable {State Label : Type}

/-- A run from `start`, with the labels of its steps in order. -/
inductive Run (sys : System State Label) (start : State) : List Label → State → Prop
  | nil : Run sys start [] start
  | snoc {labels state label next} (run : Run sys start labels state)
    (step : sys.step state label next)
    : Run sys start (labels ++ [label]) next

/-- A state some run reaches from an initial state. -/
def Reachable (sys : System State Label) (state : State) : Prop :=
  ∃ start labels, sys.initial start ∧ sys.Run start labels state

variable {sys : System State Label}

/-- A relation between the steps taken and the state reached holds of every run when it
holds of the empty run and one more step keeps it.
-/
theorem Run.rule {start labels final} (run : sys.Run start labels final)
    (holds : List Label → State → Prop) (base : holds [] start)
    (step
      : ∀ {earlier state label next},
          sys.Run start earlier state
          → holds earlier state
          → sys.step state label next
          → holds (earlier ++ [label]) next)
    : holds labels final := by
  induction run with
  | nil => exact base
  | snoc earlier last ih => exact step earlier ih last

/-- What initial states satisfy and steps preserve holds in every reachable state. -/
theorem Reachable.invariant {state} (reachable : sys.Reachable state)
    (holds : State → Prop) (base : ∀ start, sys.initial start → holds start)
    (step : ∀ {state label next}, holds state → sys.step state label next → holds next)
    : holds state := by
  obtain ⟨start, labels, initial, run⟩ := reachable
  exact run.rule (fun _ state => holds state) (base start initial)
    (fun _ held taken => step held taken)

/-- One step is a run. -/
theorem Run.single {state label next} (taken : sys.step state label next)
    : sys.Run state [label] next :=
  Run.nil.snoc taken

/-- Runs compose. -/
theorem Run.append {start first middle second final}
    (front : sys.Run start first middle) (back : sys.Run middle second final)
    : sys.Run start (first ++ second) final := by
  induction back with
  | nil => simpa using front
  | snoc _ last ih => simpa only [List.append_assoc] using ih.snoc last

/-- The last step of a nonempty run. -/
theorem Run.snoc_inv {start labels label final} (run : sys.Run start (labels ++ [label]) final)
    : ∃ state, sys.Run start labels state ∧ sys.step state label final := by
  generalize whole : labels ++ [label] = all at run
  cases run with
  | nil => simp at whole
  | snoc earlier last =>
      obtain ⟨rfl, same⟩ := List.append_inj' whole rfl
      cases same
      exact ⟨_, earlier, last⟩

/-- Where a step leaves no choice a run leaves none; by induction on the last step. -/
theorem Run.unique {start labels first second}
    (functional
      : ∀ {state label next other},
          sys.step state label next
          → sys.step state label other
          → next = other)
    (one : sys.Run start labels first) (another : sys.Run start labels second)
    : first = second := by
  induction one generalizing second with
  | nil =>
      generalize whole : [] = labels at another
      cases another with
      | nil => rfl
      | snoc => simp at whole
  | snoc earlier last ih =>
      obtain ⟨state, before, taken⟩ := another.snoc_inv
      cases ih before
      exact functional last taken

/-- A run splits wherever its labels do; by induction on the later labels. -/
theorem Run.split {start first second final} (run : sys.Run start (first ++ second) final)
    : ∃ middle, sys.Run start first middle ∧ sys.Run middle second final := by
  induction second using List.reverseRecOn generalizing final with
  | nil => exact ⟨final, by simpa using run, .nil⟩
  | append_singleton earlier label ih =>
      rw [← List.append_assoc] at run
      obtain ⟨state, before, last⟩ := run.snoc_inv
      obtain ⟨middle, front, back⟩ := ih before
      exact ⟨middle, front, back.snoc last⟩

/-- Every step that a sequence of labels can take from `start` has a property. -/
def EveryStep (sys : System State Label) (start : State) (labels : List Label)
    (property : State → Label → State → Prop)
    : Prop :=
  ∀ earlier label later state next, labels = earlier ++ label :: later
    → sys.Run start earlier state → sys.step state label next → property state label next

/-- The system that takes only the steps of one kind. -/
def guard (sys : System State Label) (kind : State → Label → State → Prop)
    : System State Label where
  initial := sys.initial
  step state label next := sys.step state label next ∧ kind state label next

/-- A run whose steps are all of one kind is a run of the system that takes no others; by induction
on the last step.
-/
theorem Run.guard {start labels final} (run : sys.Run start labels final)
    {kind : State → Label → State → Prop} (every : sys.EveryStep start labels kind)
    : (sys.guard kind).Run start labels final := by
  induction run with
  | nil => exact .nil
  | @snoc labels state label next earlier last ih =>
      have before : sys.EveryStep start labels kind := by
        intro front label' later middle after whole reached taken
        exact every front label' (later ++ [label]) middle after (by simp [whole]) reached taken
      exact (ih before).snoc ⟨last, every labels label [] state next rfl earlier last⟩

/-- What holds at the start and is kept by the steps of one kind holds after a run all whose steps
are of that kind.
-/
theorem Run.keeps {start labels final} (run : sys.Run start labels final)
    {property : State → Label → State → Prop} (every : sys.EveryStep start labels property)
    (holds : State → Prop) (base : holds start)
    (step
      : ∀ {state label next}, holds state → sys.step state label next → property state label next
          → holds next)
    : holds final :=
  (run.guard every).rule (fun _ state => holds state) base
    fun _ held taken => step held taken.1 taken.2

/-- Properties that agree on the steps of reached states agree along every run. -/
theorem everyStep_iff {start labels} {first second : State → Label → State → Prop}
    (agree
      : ∀ {earlier state label next},
          sys.Run start earlier state
          → sys.step state label next
          → (first state label next ↔ second state label next))
    : sys.EveryStep start labels first ↔ sys.EveryStep start labels second := by
  constructor
  · intro every earlier label later state next whole run step
    exact (agree run step).mp (every earlier label later state next whole run step)
  · intro every earlier label later state next whole run step
    exact (agree run step).mpr (every earlier label later state next whole run step)

/-- Every state that a sequence of labels can pass through from `start` has a property. -/
def EveryState (sys : System State Label) (start : State) (labels : List Label)
    (property : State → Prop)
    : Prop :=
  ∀ earlier later state, labels = earlier ++ later → sys.Run start earlier state → property state

/-- The states that a run from `start` with these labels passes through. -/
def Passes (sys : System State Label) (start : State) (labels : List Label) (state : State)
    : Prop :=
  ∃ earlier later, labels = earlier ++ later ∧ sys.Run start earlier state

theorem Run.passes {start labels final} (run : sys.Run start labels final)
    : sys.Passes start labels final :=
  ⟨labels, [], by simp, run⟩

/-- A longer run passes through what a shorter one does. -/
theorem Passes.append {start labels state} (passed : sys.Passes start labels state)
    (more : List Label)
    : sys.Passes start (labels ++ more) state := by
  obtain ⟨earlier, later, rfl, run⟩ := passed
  exact ⟨earlier, later ++ more, by simp, run⟩

/-- Where every step of a kind takes one from a potential, and no step adds to it, a run has at most
as many of them as it takes from the potential in all; by induction on the last step.
-/
theorem Run.countP_le {Weight : Type} [AddCommMonoidWithOne Weight] [PartialOrder Weight]
    [IsOrderedAddMonoid Weight] {start labels final} (run : sys.Run start labels final)
    (potential : State → Weight) (kind : Label → Bool)
    (step
      : ∀ {state label next}, sys.step state label next
          → potential next + (if kind label then 1 else 0) ≤ potential state)
    : potential final + (labels.countP kind : Weight) ≤ potential start := by
  induction run with
  | nil => simp
  | @snoc earlier state label next _ last ih =>
      have counted : ((earlier ++ [label]).countP kind : Weight)
          = (if kind label then 1 else 0) + earlier.countP kind := by
        rw [List.countP_append, List.countP_singleton, add_comm]
        split <;> simp
      calc potential next + ((earlier ++ [label]).countP kind : Weight)
          = potential next + (if kind label then 1 else 0) + earlier.countP kind := by
            rw [counted, add_assoc]
        _ ≤ potential state + earlier.countP kind := by
            gcongr
            exact step last
        _ ≤ potential start := ih

/-- Labels that an executable step function accepts in sequence make a run; by induction on the
last label.
-/
theorem run_of_foldlM {act : State → Label → Option State} {start labels final}
    (ran : labels.foldlM act start = some final)
    (taken
      : ∀ {state label next}, label ∈ labels → act state label = some next
          → sys.step state label next)
    : sys.Run start labels final := by
  induction labels using List.reverseRecOn generalizing final with
  | nil =>
      cases ran
      exact .nil
  | append_singleton earlier label ih =>
      simp only [List.foldlM_append, Option.bind_eq_bind] at ran
      obtain ⟨middle, before, last⟩ := Option.bind_eq_some_iff.mp ran
      refine .snoc (ih before fun member step => taken (by simp [member]) step) ?_
      exact taken (by simp) (by simpa using last)

/-- Labels that an executable step function accepts in sequence, testing each first, pass the test
along their runs; by induction on the run.
-/
theorem everyStep_of_foldlM {act : State → Label → Option State} {kind : State → Label → Prop}
    [∀ state label, Decidable (kind state label)] {start labels final}
    (ran
      : labels.foldlM (fun state label => if kind state label then act state label else none) start
        = some final)
    (only : ∀ {state label next}, sys.step state label next → act state label = some next)
    : sys.EveryStep start labels (fun state label _ => kind state label) := by
  have reached {earlier state} (run : sys.Run start earlier state) {middle}
      (passed
        : earlier.foldlM (fun state label => if kind state label then act state label else none)
            start
          = some middle)
      : middle = state := by
    induction run generalizing middle with
    | nil => exact (Option.some.inj passed).symm
    | snoc _ last ih =>
        rw [List.foldlM_append] at passed
        obtain ⟨before, front, back⟩ := Option.bind_eq_some_iff.mp passed
        cases ih front
        obtain ⟨after, taken, same⟩ := Option.bind_eq_some_iff.mp back
        cases same
        dsimp only at taken
        split at taken
        · exact Option.some.inj (taken.symm.trans (only last))
        · cases taken
  intro earlier label later state next whole run _
  subst whole
  rw [List.foldlM_append] at ran
  obtain ⟨middle, front, back⟩ := Option.bind_eq_some_iff.mp ran
  cases reached run front
  obtain ⟨after, taken, _⟩ := Option.bind_eq_some_iff.mp back
  dsimp only at taken
  split at taken
  · assumption
  · cases taken

end System

/-- What holds at the start and every possible action keeps holds after any actions; by induction on
the actions.
-/
theorem foldlM_keeps {State Action : Type*} {act : State → Action → Option State}
    (holds : State → Prop) {start final : State} {actions : List Action}
    (ran : actions.foldlM act start = some final) (base : holds start)
    (keeps : ∀ {state action next}, holds state → act state action = some next → holds next)
    : holds final := by
  induction actions generalizing start with
  | nil =>
      cases ran
      exact base
  | cons action rest ih =>
      obtain ⟨middle, taken, later⟩ := Option.bind_eq_some_iff.mp ran
      exact ih later (keeps base taken)

end Transition
