import SourceAudit.Proofs.SyntaxTree.Paths
import Mathlib.Data.List.Lex

/-!
# Visits

The nodes of a tree are visited by way of a stack: the node on top is taken off it and visited,
and its children are put on it, the last of them first. So every node is visited once, before
its children, and the children from left to right.

* `Visit.run_eq`: what is on the stack and what has been visited after some steps.
* `Node.mem_places_iff`, `Node.pairwise_places`: the places of a tree, in ascending order.
* `Node.forall₂_standsAt`: a walk meets the node at each place, with those on the way to it.
* `Node.visits_in_order`: the visits by way of a stack are those of a walk.
-/

namespace SourceAudit

/-! ### Visiting by way of a stack -/

/-- What is on a stack, the top first, and what has been taken off it, in order. -/
structure Visit (α : Type) where
  stack : List α
  visited : List α := []

namespace Visit

section

variable {α : Type} (below order : α → List α)

/-- A stack after some items have been put on it one by one. -/
def piled (stack items : List α) : List α :=
  items.foldl (fun stack a => a :: stack) stack

/-- The top is taken off the stack and visited, and what is below it is put on the stack, the
last of it first. With an empty stack the visit is over. -/
def step (v : Visit α) : Visit α :=
  match v.stack with
  | [] => v
  | a :: rest => ⟨piled rest (below a).reverse, v.visited ++ [a]⟩

/-- The visit after some steps. -/
def run : Nat → Visit α → Visit α
  | 0, v => v
  | k + 1, v => run k (v.step below)

/-- The visit that begins with an item. -/
def start (a : α) : Visit α :=
  { stack := [a] }

theorem piled_reverse (stack items : List α) :
  piled stack items.reverse = items ++ stack
  := by
  rw [piled, List.foldl_flip_cons_eq_append', List.reverse_reverse]

theorem step_cons (a : α) (rest visited : List α) :
  step below ⟨a :: rest, visited⟩ = ⟨below a ++ rest, visited ++ [a]⟩
  := by
  rw [← piled_reverse rest (below a)]
  rfl

variable {below order} (h : ∀ a, order a = a :: (below a).flatMap order)

include h

/-- In a step one item goes over from what is yet to be visited to what has been. -/
theorem step_eq (v : Visit α) :
  (v.step below).stack.flatMap order = (v.stack.flatMap order).drop 1
    ∧ (v.step below).visited = v.visited ++ (v.stack.flatMap order).take 1
  := by
  obtain ⟨stack, visited⟩ := v
  cases stack with
  | nil => simp [step]
  | cons a rest =>
      have hall : (a :: rest).flatMap order = a :: (below a ++ rest).flatMap order := by
        rw [List.flatMap_cons, h, List.cons_append, List.flatMap_append]
      rw [step_cons, hall]
      exact ⟨rfl, rfl⟩

/-- After some steps as many items have been visited, in order, and the others are left. -/
theorem run_eq (k : Nat) (v : Visit α) :
  (run below k v).stack.flatMap order = (v.stack.flatMap order).drop k
    ∧ (run below k v).visited = v.visited ++ (v.stack.flatMap order).take k
  := by
  induction k generalizing v with
  | zero => simp [run]
  | succ k ih =>
      obtain ⟨hstack, hvisited⟩ := ih (v.step below)
      obtain ⟨hleft, hone⟩ := step_eq h v
      rw [run, hstack, hvisited, hleft, hone, List.drop_drop, List.append_assoc,
        Nat.add_comm k 1, List.take_add]
      exact ⟨rfl, rfl⟩

/-- A stack is empty when nothing is left to be visited. -/
theorem flatMap_eq_nil_iff (stack : List α) :
  stack.flatMap order = [] ↔ stack = []
  := by
  cases stack with
  | nil => simp
  | cons a rest => simp [h a]

/-- The visit goes on for as many steps as there are items to visit. -/
theorem run_start (k : Nat) (a : α) :
  (run below k (start a)).visited = (order a).take k
    ∧ ((run below k (start a)).stack = [] ↔ (order a).length ≤ k)
  := by
  have hall : (start a).stack.flatMap order = order a := List.flatMap_singleton order a
  obtain ⟨hstack, hvisited⟩ := run_eq h k (start a)
  rw [hall] at hstack hvisited
  constructor
  · exact hvisited
  · rw [← flatMap_eq_nil_iff h, hstack, List.drop_eq_nil_iff]

end

end Visit

namespace Node

/-! ### Places -/

/-- The node at a place, which is the way to it: which child to take, again and again. -/
def nodeAt? (n : Node) : List Nat → Option Node
  | [] => some n
  | i :: place => n.children[i]?.bind fun c => c.nodeAt? place

mutual

/-- The places of a tree, that of a node before those below it. -/
def places : Node → List (List Nat)
  | node _ children => [] :: placesFrom 0 children

/-- The places in some trees side by side, the first of which has the number given. -/
def placesFrom (i : Nat) : List Node → List (List Nat)
  | [] => []
  | n :: rest => (places n).map (i :: ·) ++ placesFrom (i + 1) rest

end

theorem places_eq_cons (n : Node) :
  n.places = [] :: placesFrom 0 n.children
  := by
  cases n with
  | node label children => rw [places, Node.children]

theorem mem_placesFrom_iff {i : Nat} {ns : List Node} {place : List Nat} :
  place ∈ placesFrom i ns
    ↔ ∃ (j : Nat) (c : Node) (inner : List Nat),
      ns[j]? = some c ∧ inner ∈ c.places ∧ place = (i + j) :: inner
  := by
  induction ns generalizing i with
  | nil => simp [placesFrom]
  | cons n ns ih =>
      rw [placesFrom, List.mem_append, List.mem_map, ih]
      constructor
      · rintro (⟨inner, hinner, rfl⟩ | ⟨j, c, inner, hc, hinner, rfl⟩)
        · exact ⟨0, n, inner, rfl, hinner, rfl⟩
        · refine ⟨j + 1, c, inner, hc, hinner, ?_⟩
          rw [Nat.add_assoc, Nat.add_comm 1 j]
      · rintro ⟨j, c, inner, hc, hinner, rfl⟩
        cases j with
        | zero =>
            rw [List.getElem?_cons_zero, Option.some_inj] at hc
            subst hc
            exact Or.inl ⟨inner, hinner, rfl⟩
        | succ j =>
            right
            refine ⟨j, c, inner, hc, hinner, ?_⟩
            rw [Nat.add_assoc, Nat.add_comm 1 j]

/-- The places of a tree are those at which there is a node. -/
theorem mem_places_iff {n : Node} {place : List Nat} :
  place ∈ n.places ↔ (n.nodeAt? place).isSome
  := by
  induction n using induct generalizing place with
  | step n ih =>
      rw [places_eq_cons, List.mem_cons, mem_placesFrom_iff]
      cases place with
      | nil => simp [nodeAt?]
      | cons i inner =>
          rw [nodeAt?]
          cases hchild : n.children[i]? with
          | none => simp [hchild]
          | some c =>
              rw [Option.bind_some, ← ih c (List.mem_of_getElem? hchild)]
              simp [hchild]

theorem pairwise_placesFrom (i : Nat) {ns : List Node}
    (h : ∀ c ∈ ns, c.places.Pairwise (· < ·)) :
  (placesFrom i ns).Pairwise (· < ·)
  := by
  induction ns generalizing i with
  | nil => exact List.Pairwise.nil
  | cons c ns ih =>
      obtain ⟨hc, hrest⟩ := List.forall_mem_cons.mp h
      rw [placesFrom, List.pairwise_append, List.pairwise_map]
      refine ⟨?_, ih (i + 1) hrest, ?_⟩
      · apply hc.imp
        intro place place' hlt
        exact List.cons_lt_cons_self.mpr hlt
      · intro place hplace place' hplace'
        obtain ⟨inner, -, rfl⟩ := List.mem_map.mp hplace
        obtain ⟨j, -, inner', -, -, rfl⟩ := mem_placesFrom_iff.mp hplace'
        apply List.cons_lt_cons_iff.mpr
        left
        omega

/-- Places ascend when they are compared number by number: a node comes before those below it,
and a child with all below it before the next. -/
theorem pairwise_places (n : Node) :
  n.places.Pairwise (· < ·)
  := by
  induction n using induct with
  | step n ih =>
      rw [places_eq_cons, List.pairwise_cons]
      constructor
      · intro place hplace
        obtain ⟨j, -, inner, -, -, rfl⟩ := mem_placesFrom_iff.mp hplace
        exact List.nil_lt_cons _ _
      · exact pairwise_placesFrom 0 ih

/-! ### What a walk meets -/

/-- A visit of the node at a place, with the nodes on the way to it, the root first. -/
structure StandsAt (n : Node) (place : List Nat) (visit : Node × List Node) : Prop where
  node : n.nodeAt? place = some visit.1
  depth : visit.2.length = place.length
  above : ∀ k < place.length, visit.2[k]? = n.nodeAt? (place.take k)

theorem standsAt_root (n : Node) :
  StandsAt n [] (n, [])
  where
  node := rfl
  depth := rfl
  above := nofun

/-- What stands at a place of a child stands below it at a place of the node. -/
theorem StandsAt.cons {n c : Node} {i : Nat} (hc : n.children[i]? = some c) {place : List Nat}
    {visit : Node × List Node} (h : StandsAt c place visit) :
  StandsAt n (i :: place) (visit.1, n :: visit.2)
  where
  node := by rw [nodeAt?, hc, Option.bind_some, h.node]
  depth := by rw [List.length_cons, List.length_cons, h.depth]
  above := by
    intro k hk
    cases k with
    | zero => rfl
    | succ k =>
        rw [List.getElem?_cons_succ, List.take_succ_cons, nodeAt?, hc, Option.bind_some]
        exact h.above k (Nat.lt_of_succ_lt_succ hk)

/-- The children from a number on stand at the places that begin with this number or a later
one. -/
theorem forall₂_standsAt_from {n : Node} (i : Nat) {ns : List Node}
    (hns : ∀ j c, ns[j]? = some c → n.children[i + j]? = some c)
    (h : ∀ c ∈ ns, List.Forall₂ (StandsAt c) c.places c.walk) :
  List.Forall₂ (StandsAt n) (placesFrom i ns)
    (ns.flatMap fun c => c.walk.map fun visit => (visit.1, n :: visit.2))
  := by
  induction ns generalizing i with
  | nil => exact .nil
  | cons c ns ih =>
      have hc : n.children[i]? = some c := hns 0 c rfl
      obtain ⟨hfirst, hrest⟩ := List.forall_mem_cons.mp h
      rw [placesFrom, List.flatMap_cons]
      apply List.rel_append
      · rw [List.forall₂_map_left_iff, List.forall₂_map_right_iff]
        exact hfirst.imp fun place visit hstands => hstands.cons hc
      · apply ih (i + 1) _ hrest
        intro j d hd
        rw [Nat.add_assoc, Nat.add_comm 1 j]
        exact hns (j + 1) d hd

/-- A walk meets what stands at the places of the tree, in their order. -/
theorem forall₂_standsAt (n : Node) :
  List.Forall₂ (StandsAt n) n.places n.walk
  := by
  induction n using induct with
  | step n ih =>
      rw [places_eq_cons, walk_eq_cons]
      apply List.Forall₂.cons (standsAt_root n)
      apply forall₂_standsAt_from 0 _ ih
      intro j c hc
      rw [Nat.zero_add, hc]

/-! ### Visits of trees -/

/-- The children of a visited node, each with the nodes above it. -/
def visitsBelow (visit : Node × List Node) : List (Node × List Node) :=
  visit.1.children.map fun c => (c, visit.2 ++ [visit.1])

theorem walkBelow_eq_visitsBelow (visit : Node × List Node) :
  walkBelow visit.2 visit.1
    = visit :: (visitsBelow visit).flatMap fun visit => walkBelow visit.2 visit.1
  := by
  rw [visitsBelow, List.flatMap_map, walkBelow_eq_cons]

theorem hasKindBelow_iff (n : Node) (kinds : List String) :
  n.hasKindBelow kinds = true ↔ ∃ m ∈ n.nodes, ∃ kind ∈ kinds, m.kind = some kind
  := by
  rw [hasKindBelow, List.any_eq_true]
  apply exists_congr
  intro m
  apply and_congr_right
  intro _
  rw [isOneOf]
  cases m.kind with
  | none => simp
  | some kind => simp

/-- By way of a stack, with or without the nodes above each, a tree is visited as in a walk: what
stands at its places is met once each, in the order of the places, and the stack is empty after
as many steps as there are places and not before. Whether a node of some kinds is in the tree is
asked of these nodes. -/
theorem visits_in_order (n : Node) :
  (∀ place, place ∈ n.places ↔ (n.nodeAt? place).isSome)
  ∧ n.places.Pairwise (· < ·)
  ∧ List.Forall₂ (StandsAt n) n.places n.walk
  ∧ (∀ k,
    let v := Visit.run visitsBelow k (.start (n, []))
    v.visited = n.walk.take k ∧ (v.stack = [] ↔ n.places.length ≤ k))
  ∧ n.nodes = n.walk.map Prod.fst
  ∧ (∀ k,
    let v := Visit.run children k (.start n)
    v.visited = n.nodes.take k ∧ (v.stack = [] ↔ n.places.length ≤ k))
  ∧ ∀ kinds, n.hasKindBelow kinds = true ↔ ∃ m ∈ n.nodes, ∃ kind ∈ kinds, m.kind = some kind
  := by
  have hwalk := forall₂_standsAt n
  have hnodes := nodes_eq_map_walk n
  have hlength : n.nodes.length = n.walk.length := by rw [hnodes, List.length_map]
  refine ⟨fun place => mem_places_iff, pairwise_places n, hwalk, ?_, hnodes, ?_,
    hasKindBelow_iff n⟩
  · intro k
    rw [hwalk.length_eq]
    exact Visit.run_start walkBelow_eq_visitsBelow k (n, [])
  · intro k
    rw [hwalk.length_eq, ← hlength]
    exact Visit.run_start nodes_eq_cons k n

end Node

end SourceAudit
