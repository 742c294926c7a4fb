import Mathlib.Data.Finset.Card
import Mathlib.Data.Finset.Basic
import Mathlib.Logic.Relation

/-! Walks of a graph by a stack of nodes to look at: a node is visited when it is first taken off,
and its successors are put on. What the walk visits is what is reachable.
-/

namespace Worklist

/-- A graph that is explored a node at a time: `next` is `none` where there is no node. There are
finitely many.
-/
structure Graph (Node : Type) where
  next : Node → Option (List Node)
  nodes : Finset Node
  mem_nodes : ∀ node targets, next node = some targets → node ∈ nodes

namespace Graph

variable {Node : Type} (g : Graph Node)

def Edge (source target : Node) : Prop :=
  ∃ targets, g.next source = some targets ∧ target ∈ targets

/-- A node that some entry leads to. -/
def Reaches (entries : List Node) (node : Node) : Prop :=
  ∃ entry ∈ entries, Relation.ReflTransGen g.Edge entry node

variable {g} {entries : List Node}

/-- Whatever holds of the entries and along the edges holds of all they lead to. -/
theorem Reaches.closed {node : Node} (reached : g.Reaches entries node) {holds : Node → Prop}
    (base : ∀ entry ∈ entries, holds entry)
    (step : ∀ source target, holds source → g.Edge source target → holds target)
    : holds node := by
  obtain ⟨entry, member, path⟩ := reached
  induction path with
  | refl => exact base entry member
  | tail _ edge ih => exact step _ _ ih edge

theorem Reaches.edge {source target : Node} (reached : g.Reaches entries source)
    (edge : g.Edge source target)
    : g.Reaches entries target := by
  obtain ⟨entry, member, path⟩ := reached
  exact ⟨entry, member, path.tail edge⟩

theorem reaches_entry {node : Node} (member : node ∈ entries) : g.Reaches entries node :=
  ⟨node, member, .refl⟩

end Graph

section Stack

variable {Node : Type}

/-- The stack after successors are put on it: the last of them is looked at first. -/
def push (targets stack : List Node) : List Node := targets.reverse ++ stack

/-- Whatever was seen is a node whose successors were seen or are on the stack. -/
def Closed (g : Graph Node) (seen stack : List Node) : Prop :=
  ∀ node ∈ seen, ∃ targets, g.next node = some targets
    ∧ ∀ target ∈ targets, target ∈ seen ∨ target ∈ stack

variable {g : Graph Node} {seen stack : List Node}

/-- A node that was seen can be taken off. -/
theorem Closed.skip {node : Node} (closed : Closed g seen (node :: stack)) (known : node ∈ seen)
    : Closed g seen stack := by
  intro other member
  obtain ⟨targets, found, covered⟩ := closed other member
  refine ⟨targets, found, fun target among => ?_⟩
  rcases covered target among with before | waits
  · exact Or.inl before
  · rcases List.mem_cons.mp waits with rfl | later
    · exact Or.inl known
    · exact Or.inr later

/-- A node is seen when its successors are put on. -/
theorem Closed.pushed {node : Node} {targets : List Node} (closed : Closed g seen (node :: stack))
    (found : g.next node = some targets)
    : Closed g (seen ++ [node]) (push targets stack) := by
  intro other member
  rcases List.mem_append.mp member with before | last
  · obtain ⟨others, known, covered⟩ := closed other before
    refine ⟨others, known, fun target among => ?_⟩
    rcases covered target among with seenBefore | waits
    · exact Or.inl (List.mem_append_left _ seenBefore)
    · rcases List.mem_cons.mp waits with rfl | later
      · exact Or.inl (by simp)
      · exact Or.inr (by simp [push, later])
  · obtain rfl := List.mem_singleton.mp last
    exact ⟨targets, found, fun target among => Or.inr (by simp [push, among])⟩

/-- What the successors of a node lead to, the node leads to. -/
theorem reaches_push {node other : Node} {targets : List Node} (found : g.next node = some targets)
    (reached : g.Reaches (push targets stack) other)
    : g.Reaches (node :: stack) other := by
  refine @Graph.Reaches.closed Node g _ _ reached (g.Reaches (node :: stack)) ?_
    (fun _ _ held edge => held.edge edge)
  intro entry member
  rcases List.mem_append.mp member with target | later
  · exact (Graph.reaches_entry List.mem_cons_self).edge
      ⟨targets, found, List.mem_reverse.mp target⟩
  · exact Graph.reaches_entry (List.mem_cons_of_mem _ later)

theorem reaches_skip {node other : Node} (reached : g.Reaches stack other)
    : g.Reaches (node :: stack) other := by
  obtain ⟨entry, member, path⟩ := reached
  exact ⟨entry, List.mem_cons_of_mem _ member, path⟩

end Stack

variable {Node Acc : Type} [DecidableEq Node]

/-- The walk from the nodes it has seen: the nodes visited, in order, with what `visit` made of
them, or `none` where it came upon no node.
-/
def walk (g : Graph Node) (visit : Acc → Node → Acc) (seen : List Node) (acc : Acc)
    : List Node → Option (List Node × Acc)
  | [] => some (seen, acc)
  | node :: stack =>
      if node ∈ seen then walk g visit seen acc stack
      else
        match _found : g.next node with
        | none => none
        | some targets =>
            walk g visit (seen ++ [node]) (visit acc node) (push targets stack)
termination_by stack => ((g.nodes \ seen.toFinset).card, stack.length)
decreasing_by
  · exact .right _ (by simp)
  · rename_i fresh
    refine .left _ _ (Finset.card_lt_card ?_)
    have known := g.mem_nodes node targets _found
    rw [Finset.ssubset_iff_of_subset (by intro other; simp +contextual)]
    exact ⟨node, by simp [known, fresh], by simp⟩

section Walk

variable {g : Graph Node} {visit : Acc → Node → Acc} {seen stack entries : List Node} {acc : Acc}

/-- A walk that ends has visited each node once, all of them reachable, and left nothing to look at;
by induction on the walk.
-/
theorem walk_ends {modules : List Node} {result : Acc} (closed : Closed g seen stack)
    (once : seen.Nodup) (ran : walk g visit seen acc stack = some (modules, result))
    : modules.Nodup ∧ Closed g modules [] ∧ (∀ node ∈ stack, node ∈ modules)
      ∧ ∃ found, modules = seen ++ found ∧ result = found.foldl visit acc
          ∧ ∀ node ∈ found, g.Reaches stack node := by
  induction seen, acc, stack using walk.induct g visit with
  | case1 seen acc =>
      simp only [walk, Option.some.injEq, Prod.mk.injEq] at ran
      obtain ⟨rfl, rfl⟩ := ran
      exact ⟨once, closed, by simp, [], by simp⟩
  | case2 seen acc node stack known ih =>
      rw [walk, if_pos known] at ran
      obtain ⟨nodup, ended, covered, found, rfl, visited, reached⟩ :=
        ih (closed.skip known) once ran
      refine ⟨nodup, ended, ?_, found, rfl, visited, fun other member =>
        reaches_skip (reached other member)⟩
      simpa [known] using covered
  | case3 seen acc node stack fresh missing =>
      rw [walk, if_neg fresh] at ran
      split at ran
      · cases ran
      · rename_i targets found
        rw [missing] at found
        cases found
  | case4 seen acc node stack fresh targets found ih =>
      rw [walk, if_neg fresh] at ran
      split at ran
      · cases ran
      · rename_i others same
        obtain rfl := Option.some.inj (found.symm.trans same)
        have onceMore : (seen ++ [node]).Nodup := by
          rw [List.nodup_append]
          refine ⟨once, List.nodup_singleton node, ?_⟩
          rintro other member _ last rfl
          exact fresh (List.mem_singleton.mp last ▸ member)
        obtain ⟨nodup, ended, covered, later, rfl, visited, reached⟩ :=
          ih (closed.pushed found) onceMore ran
        refine ⟨nodup, ended, ?_, node :: later, by simp, visited, ?_⟩
        · intro other member
          rcases List.mem_cons.mp member with rfl | waits
          · simp
          · exact covered other (by simp [push, waits])
        · intro other member
          rcases List.mem_cons.mp member with rfl | deeper
          · exact Graph.reaches_entry List.mem_cons_self
          · exact reaches_push found (reached other deeper)

/-- A walk that fails came upon what is no node; by induction on the walk. -/
theorem walk_fails (ran : walk g visit seen acc stack = none)
    : ∃ node, g.Reaches stack node ∧ g.next node = none := by
  induction seen, acc, stack using walk.induct g visit with
  | case1 seen acc => simp [walk] at ran
  | case2 seen acc node stack known ih =>
      rw [walk, if_pos known] at ran
      obtain ⟨other, reached, missing⟩ := ih ran
      exact ⟨other, reaches_skip reached, missing⟩
  | case3 seen acc node stack fresh missing =>
      exact ⟨node, Graph.reaches_entry List.mem_cons_self, missing⟩
  | case4 seen acc node stack fresh targets found ih =>
      rw [walk, if_neg fresh] at ran
      split at ran
      · rename_i missing
        rw [found] at missing
        cases missing
      · rename_i others same
        obtain rfl := Option.some.inj (found.symm.trans same)
        obtain ⟨other, reached, missing⟩ := ih ran
        exact ⟨other, reaches_push found reached, missing⟩

/-- A whole walk visits exactly what is reachable, each node once, and all of it are nodes. -/
theorem walk_exact {modules : List Node} {result : Acc}
    (ran : walk g visit [] acc (push entries []) = some (modules, result))
    : modules.Nodup ∧ (∀ node, node ∈ modules ↔ g.Reaches entries node)
      ∧ result = modules.foldl visit acc ∧ ∀ node ∈ modules, (g.next node).isSome := by
  obtain ⟨nodup, closed, covered, found, rfl, visited, reached⟩ :=
    walk_ends (by simp [Closed]) List.nodup_nil ran
  simp only [push, List.append_nil, List.mem_reverse] at *
  refine ⟨nodup, fun node => ⟨fun member => ?_, fun reaches => ?_⟩, visited, fun node member => ?_⟩
  · simpa [Graph.Reaches] using reached node member
  · refine reaches.closed covered ?_
    rintro source target member ⟨targets, known, among⟩
    obtain ⟨others, same, inside⟩ := closed source member
    obtain rfl := Option.some.inj (known.symm.trans same)
    simpa using inside target among
  · obtain ⟨targets, known, _⟩ := closed node member
    exact Option.isSome_of_eq_some known

/-- A whole walk ends exactly when the entries lead to nodes only. -/
theorem walk_isSome_iff
    : (walk g visit [] acc (push entries [])).isSome
      ↔ ∀ node, g.Reaches entries node → (g.next node).isSome := by
  constructor
  · intro ended node reached
    obtain ⟨⟨modules, result⟩, ran⟩ := Option.isSome_iff_exists.mp ended
    obtain ⟨_, exact, _, nodes⟩ := walk_exact ran
    exact nodes node ((exact node).mpr reached)
  · intro nodes
    rw [Option.isSome_iff_ne_none]
    intro failed
    obtain ⟨node, reached, missing⟩ := walk_fails failed
    have reaches : g.Reaches entries node := by
      simpa [Graph.Reaches, push] using reached
    simpa [missing] using nodes node reaches

end Walk

end Worklist
