import SourceAudit.Proofs.SyntaxTree.Moved
import Mathlib.Data.List.Chain

/-!
# Ways down a tree

A path leads from a node down to a child of it, to a child of that one, and so on.

* `Node.inductOnSize`: induction that reaches below the children of a node at once.
* `Node.IsPathFrom`: paths that start at a node.
* `Node.HasPathWith`: some path from a node meets at least so many nodes with a property. The
  number grows by one at each node with the property, on the way up.
* `Node.nodes_eq_map_walk`: the nodes of a tree are those that a walk of it visits.
-/

namespace SourceAudit

namespace Node

/-- A property that every node has when all smaller ones have it. -/
theorem inductOnSize {P : Node → Prop} (step : ∀ n, (∀ c, sizeOf c < sizeOf n → P c) → P n)
    (n : Node) :
  P n
  := by
  apply step
  intro c hc
  apply inductOnSize step c
  termination_by sizeOf n

/-! ### Paths -/

/-- Nodes one below the other, from the given one down. -/
def IsPathFrom (n : Node) (path : List Node) : Prop :=
  path.head? = some n ∧ path.IsChain fun m c => c ∈ m.children

theorem isPathFrom_self (n : Node) :
  n.IsPathFrom [n]
  := ⟨rfl, .singleton n⟩

theorem IsPathFrom.cons {n c : Node} {path : List Node} (h : c.IsPathFrom path)
    (hc : c ∈ n.children) :
  n.IsPathFrom (n :: path)
  := by
  use rfl
  apply List.isChain_cons.mpr
  refine ⟨?_, h.2⟩
  rw [h.1]
  rintro m ⟨⟩
  exact hc

/-- Some path from the node meets at least so many nodes with the property. -/
def HasPathWith (p : Node → Bool) (k : Nat) (n : Node) : Prop :=
  ∃ path, n.IsPathFrom path ∧ k ≤ path.countP p

section

variable {p : Node → Bool} {k k' : Nat} {n c : Node}

theorem hasPathWith_zero :
  HasPathWith p 0 n
  := ⟨[n], isPathFrom_self n, Nat.zero_le _⟩

theorem hasPathWith_one (hn : p n = true) :
  HasPathWith p 1 n
  := ⟨[n], isPathFrom_self n, by rw [List.countP_singleton, if_pos hn]⟩

namespace HasPathWith

theorem of_le (h : HasPathWith p k' n) (hle : k ≤ k') :
  HasPathWith p k n
  := by
  obtain ⟨path, hpath, hk⟩ := h
  use path, hpath
  exact Nat.le_trans hle hk

theorem max (h : HasPathWith p k n) (h' : HasPathWith p k' n) :
  HasPathWith p (max k k') n
  := by
  rcases Nat.le_total k k' with hle | hle
  · rwa [Nat.max_eq_right hle]
  · rwa [Nat.max_eq_left hle]

/-- A path from a child is a path from the node. -/
theorem of_child (h : HasPathWith p k c) (hc : c ∈ n.children) :
  HasPathWith p k n
  := by
  obtain ⟨path, hpath, hk⟩ := h
  use n :: path, hpath.cons hc
  exact Nat.le_trans hk (List.sublist_cons_self n path).countP_le

/-- A path from a child meets one node more when it starts at the node. -/
theorem succ_of_child (h : HasPathWith p k c) (hc : c ∈ n.children) (hn : p n = true) :
  HasPathWith p (k + 1) n
  := by
  obtain ⟨path, hpath, hk⟩ := h
  use n :: path, hpath.cons hc
  rw [List.countP_cons_of_pos hn]
  exact Nat.succ_le_succ hk

end HasPathWith

end

/-! ### The nodes of a tree -/

theorem nodesAll_eq_flatMap (ns : List Node) :
  nodesAll ns = ns.flatMap nodes
  := by
  induction ns with
  | nil => rw [nodesAll, List.flatMap_nil]
  | cons n ns ih => rw [nodesAll, List.flatMap_cons, ih]

theorem nodes_eq_cons (n : Node) :
  n.nodes = n :: n.children.flatMap nodes
  := by
  cases n with
  | node label children => rw [nodes, nodesAll_eq_flatMap, Node.children]

/-- The nodes of a tree come in the order of a walk. -/
theorem nodes_eq_map_walk (n : Node) :
  n.nodes = n.walk.map Prod.fst
  := by
  induction n using induct with
  | step n ih =>
      rw [nodes_eq_cons, walk_eq_cons, List.map_cons, List.map_flatMap]
      congr 1
      apply List.flatMap_congr
      intro c hc
      rw [ih c hc, List.map_map]
      rfl

/-- A path leads to nodes of the tree. -/
theorem IsPathFrom.mem_nodes {n m : Node} {path : List Node} (h : n.IsPathFrom path)
    (hm : m ∈ path) :
  m ∈ n.nodes
  := by
  induction path generalizing n with
  | nil => cases hm
  | cons a path ih =>
      obtain ⟨⟨⟩, hchain⟩ := h
      rw [nodes_eq_cons]
      rcases List.mem_cons.mp hm with rfl | hm
      · exact List.mem_cons_self
      · apply List.mem_cons_of_mem
        obtain ⟨hnext, hrest⟩ := List.isChain_cons.mp hchain
        cases path with
        | nil => cases hm
        | cons c path =>
            apply List.mem_flatMap.mpr
            use c, hnext c rfl
            exact ih ⟨rfl, hrest⟩ hm

theorem HasPathWith.exists_mem_nodes {p : Node → Bool} {k : Nat} {n : Node}
    (h : HasPathWith p (k + 1) n) :
  ∃ m ∈ n.nodes, p m = true
  := by
  obtain ⟨path, hpath, hk⟩ := h
  obtain ⟨m, hm, hp⟩ := List.countP_pos_iff.mp (Nat.lt_of_lt_of_le (Nat.succ_pos k) hk)
  use m, hpath.mem_nodes hm

end Node

end SourceAudit
