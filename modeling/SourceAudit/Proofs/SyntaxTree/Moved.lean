import SourceAudit.SyntaxTree.Kinds
import Mathlib.Data.List.Forall2
import Mathlib.Tactic.Use

/-!
# Trees in another place

A part of a source that is put into another source has the same tree there, with other
positions.

* `Node.Moved`: two nodes agree in everything but their positions, each in its own source.
* Moved nodes have moved parts, and are walked in the same way.
* A walk of a tree walks each of its subtrees, with the nodes above the subtree in front.
-/

namespace SourceAudit

open Text

namespace Node

/-! ### Walks of subtrees -/

theorem walkAll_eq_flatMap (above ns : List Node) :
  walkAll above ns = ns.flatMap (walkBelow above)
  := by
  induction ns with
  | nil => rw [walkAll, List.flatMap_nil]
  | cons n ns ih => rw [walkAll, List.flatMap_cons, ih]

theorem walkBelow_eq_cons (above : List Node) (n : Node) :
  walkBelow above n = (n, above) :: n.children.flatMap (walkBelow (above ++ [n]))
  := by
  cases n with
  | node label children => rw [walkBelow, walkAll_eq_flatMap, Node.children]

/-- A property that every node has when its children have it. -/
theorem induct {P : Node → Prop} (step : ∀ n, (∀ c ∈ n.children, P c) → P n) (n : Node) :
  P n
  := by
  apply step
  intro c hc
  have := sizeOf_lt_of_mem_children hc
  apply induct step c
  termination_by sizeOf n

/-- The nodes above a tree stand in front of the nodes above each node of it. -/
theorem walkBelow_eq_map (n : Node) : ∀ above : List Node,
  walkBelow above n = n.walk.map fun place => (place.1, above ++ place.2)
  := by
  induction n using induct with
  | step n ih =>
      intro above
      have hchildren : ∀ above', n.children.flatMap (walkBelow above')
          = n.children.flatMap fun c => c.walk.map fun place => (place.1, above' ++ place.2) := by
        intro above'
        apply List.flatMap_congr
        intro c hc
        apply ih c hc
      rw [walk, walkBelow_eq_cons, walkBelow_eq_cons, hchildren, hchildren, List.map_cons,
        List.map_flatMap]
      simp [Function.comp_def]

theorem walk_eq_cons (n : Node) :
  n.walk = (n, []) :: n.children.flatMap fun c => c.walk.map fun place => (place.1, n :: place.2)
  := by
  rw [walk, walkBelow_eq_cons, List.nil_append]
  congr 1
  apply List.flatMap_congr
  intro c _
  apply walkBelow_eq_map c [n]

theorem mem_walk_iff {n m : Node} {above : List Node} :
  (m, above) ∈ n.walk
    ↔ (m = n ∧ above = [])
      ∨ ∃ c ∈ n.children, ∃ inner, (m, inner) ∈ c.walk ∧ above = n :: inner
  := by
  rw [walk_eq_cons]
  simp only [List.mem_cons, Prod.mk.injEq, List.mem_flatMap, List.mem_map, Prod.exists]
  apply or_congr_right
  constructor
  · rintro ⟨c, hc, m', inner, hm, rfl, rfl⟩
    use c, hc, inner
  · rintro ⟨c, hc, inner, hm, rfl⟩
    use c, hc, m, inner

theorem self_mem_walk (n : Node) :
  (n, []) ∈ n.walk
  := mem_walk_iff.mpr (Or.inl ⟨rfl, rfl⟩)

theorem mem_walk_of_mem_children {n c : Node} (h : c ∈ n.children) :
  (c, [n]) ∈ n.walk
  := mem_walk_iff.mpr (Or.inr ⟨c, h, [], self_mem_walk c, rfl⟩)

/-- A walk of a tree walks the subtree at each of its nodes. -/
theorem mem_walk_of_mem_walk {n e m : Node} {above inner : List Node}
    (he : (e, above) ∈ n.walk) (hm : (m, inner) ∈ e.walk) :
  (m, above ++ inner) ∈ n.walk
  := by
  induction n using induct generalizing above with
  | step n ih =>
      rcases mem_walk_iff.mp he with ⟨rfl, rfl⟩ | ⟨c, hc, above', he', rfl⟩
      · exact hm
      · apply mem_walk_iff.mpr
        right
        use c, hc, above' ++ inner, ih c hc he'
        rfl

/-- What is inside a node has the node above it. -/
theorem mem_of_mem_walk {n m : Node} {inner : List Node} (h : (m, inner) ∈ n.walk)
    (hne : inner ≠ []) :
  n ∈ inner
  := by
  rcases mem_walk_iff.mp h with ⟨-, rfl⟩ | ⟨c, -, rest, -, rfl⟩
  · exact absurd rfl hne
  · exact List.mem_cons_self

/-! ### Lists of related nodes -/

section

variable {R : Node → Node → Prop} {ns ns' : List Node}

theorem rel_head? (h : List.Forall₂ R ns ns') :
  Option.Rel R ns.head? ns'.head?
  := by
  cases h with
  | nil => exact .none
  | cons hn _ => exact .some hn

theorem rel_getLast? (h : List.Forall₂ R ns ns') :
  Option.Rel R ns.getLast? ns'.getLast?
  := by
  rw [← List.head?_reverse, ← List.head?_reverse]
  apply rel_head? (List.rel_reverse h)

end

/-! ### Moved nodes -/

/-- The nodes agree in their kinds and in their texts, each in its own source, and so do their
children. -/
inductive Moved (source source' : Octets) : Node → Node → Prop where
  | node {n n' : Node} :
      n.kind = n'.kind → n.label.named = n'.label.named
        → n.textIn source = n'.textIn source'
        → List.Forall₂ (Moved source source') n.children n'.children
        → Moved source source' n n'

/-- Places of trees with moved nodes, also above them. -/
def MovedPlace (source source' : Octets) (place place' : Node × List Node) : Prop :=
  Moved source source' place.1 place'.1
    ∧ List.Forall₂ (Moved source source') place.2 place'.2

section

variable {source source' : Octets} {n n' : Node}

namespace Moved

theorem kind_eq (h : Moved source source' n n') :
  n.kind = n'.kind
  := by
  cases h
  assumption

theorem named_eq (h : Moved source source' n n') :
  n.label.named = n'.label.named
  := by
  cases h
  assumption

theorem textIn_eq (h : Moved source source' n n') :
  n.textIn source = n'.textIn source'
  := by
  cases h
  assumption

theorem children (h : Moved source source' n n') :
  List.Forall₂ (Moved source source') n.children n'.children
  := by
  cases h
  assumption

theorem isA_eq (h : Moved source source' n n') (kind : String) :
  n.isA kind = n'.isA kind
  := by
  rw [isA, isA, h.kind_eq]

theorem isOneOf_eq (h : Moved source source' n n') (kinds : List String) :
  n.isOneOf kinds = n'.isOneOf kinds
  := by
  rw [isOneOf, isOneOf, h.kind_eq]

/-- A property that does not depend on where a node stands picks moved nodes from moved
nodes. -/
theorem filter {ns ns' : List Node} {p : Node → Bool}
    (hp : ∀ {c c'}, Moved source source' c c' → p c = p c')
    (h : List.Forall₂ (Moved source source') ns ns') :
  List.Forall₂ (Moved source source') (ns.filter p) (ns'.filter p)
  := by
  apply List.rel_filter _ h
  intro c c' hc
  dsimp only
  rw [hp hc]

theorem parts (h : Moved source source' n n') :
  List.Forall₂ (Moved source source') n.parts n'.parts
  := by
  apply filter _ h.children
  intro c c' hc
  rw [hc.named_eq, hc.isA_eq]

theorem pairValue (h : Moved source source' n n') :
  Option.Rel (Moved source source') n.pairValue n'.pairValue
  := by
  have hparts := h.parts
  rw [Node.pairValue, Node.pairValue]
  generalize n.parts = parts at hparts ⊢
  generalize n'.parts = parts' at hparts ⊢
  cases hparts with
  | nil => exact .none
  | cons _ hrest =>
      cases hrest with
      | nil => exact .none
      | cons hsecond hrest => exact rel_getLast? (.cons hsecond hrest)

/-- A relation of moved nodes that holds when it holds of their children. -/
theorem induct {P : Node → Node → Prop}
    (step : ∀ n n', Moved source source' n n'
      → List.Forall₂ (fun c c' => Moved source source' c c' ∧ P c c') n.children n'.children
      → P n n')
    (h : Moved source source' n n') :
  P n n'
  := by
  induction n using Node.induct generalizing n' with
  | step n ih =>
      apply step n n' h
      have hchildren := (List.forall₂_and_left n.children n'.children).mpr
        ⟨fun c hc c' => @ih c hc c', h.children⟩
      exact hchildren.imp fun c c' hc => ⟨hc.2, hc.1 c' hc.2⟩

/-- Moved trees are walked in the same way. -/
theorem walk (h : Moved source source' n n') :
  List.Forall₂ (MovedPlace source source') n.walk n'.walk
  := by
  apply induct (P := fun n n' => List.Forall₂ (MovedPlace source source') n.walk n'.walk) _ h
  intro n n' h hchildren
  rw [walk_eq_cons, walk_eq_cons]
  apply List.Forall₂.cons
  · exact ⟨h, .nil⟩
  · apply List.rel_flatMap hchildren
    rintro c c' ⟨-, hwalk⟩
    apply List.rel_map _ hwalk
    rintro ⟨m, above⟩ ⟨m', above'⟩ ⟨hm, habove⟩
    exact ⟨hm, .cons h habove⟩

theorem getElem?_walk (h : Moved source source' n n') {k : Nat} {place : Node × List Node}
    (hplace : n.walk[k]? = some place) :
  ∃ place', n'.walk[k]? = some place' ∧ MovedPlace source source' place place'
  := by
  obtain ⟨hk, rfl⟩ := List.getElem?_eq_some_iff.mp hplace
  have hk' := h.walk.length_eq ▸ hk
  use n'.walk[k], List.getElem?_eq_getElem hk'
  exact h.walk.get hk hk'

end Moved

end

/-! ### Sources inside sources -/

mutual

/-- The tree of a text that comes after some more octets, with its points moved. -/
def shift (octets : Nat) (point : Point → Point) : Node → Node
  | node label children =>
    node
      { label with
        start := point label.start
        stop := label.stop.map point
        firstOctet := octets + label.firstOctet
        endOctet := octets + label.endOctet }
      (shiftAll octets point children)

/-- Some trees side by side after some more octets. -/
def shiftAll (octets : Nat) (point : Point → Point) : List Node → List Node
  | [] => []
  | n :: rest => shift octets point n :: shiftAll octets point rest

end

theorem shiftAll_eq_map (octets : Nat) (point : Point → Point) (ns : List Node) :
  shiftAll octets point ns = ns.map (shift octets point)
  := by
  induction ns with
  | nil => rw [shiftAll, List.map_nil]
  | cons n ns ih => rw [shiftAll, List.map_cons, ih]

theorem children_shift (octets : Nat) (point : Point → Point) (n : Node) :
  (n.shift octets point).children = n.children.map (shift octets point)
  := by
  cases n with
  | node label children =>
      rw [shift, ← shiftAll_eq_map]
      rfl

theorem label_shift (octets : Nat) (point : Point → Point) (n : Node) :
  (n.shift octets point).label
    = { n.label with
        start := point n.label.start
        stop := n.label.stop.map point
        firstOctet := octets + n.label.firstOctet
        endOctet := octets + n.label.endOctet }
  := by
  cases n with
  | node label children =>
      rw [shift]
      rfl

/-- A tree is moved when its source is put into another one. -/
theorem moved_shift {n : Node} {source : Octets}
    (h : ∀ place ∈ n.walk, place.1.label.endOctet ≤ source.length)
    (front back : Octets) (point : Point → Point) :
  Moved source (front ++ source ++ back) n (n.shift front.length point)
  := by
  induction n using induct with
  | step n ih =>
      have hlabel := label_shift front.length point n
      constructor
      · rw [kind, kind, hlabel]
      · rw [hlabel]
      · have hend := h (n, []) (self_mem_walk n)
        rw [textIn, textIn, hlabel]
        dsimp only
        rw [List.append_assoc, List.take_length_add_append, List.take_append_of_le_length hend,
          List.drop_length_add_append]
      · rw [children_shift, List.forall₂_map_right_iff, List.forall₂_same]
        intro c hc
        apply ih c hc
        rintro ⟨m, above⟩ hm
        exact h (m, n :: above) (mem_walk_iff.mpr (Or.inr ⟨c, hc, above, hm, rfl⟩))

end Node

end SourceAudit
