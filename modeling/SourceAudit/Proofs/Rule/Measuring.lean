import SourceAudit.Proofs.Rule.Nesting
import SourceAudit.Proofs.SyntaxTree.Paths
import Mathlib.Algebra.GroupWithZero.Nat

/-!
# What values hold

The rule on complex props counts the conditional expressions, template strings and calls in the
values of an object literal, outside the functions in them. The numbers are those of a walk that
leaves out what stands below a function, and the same when the nodes are taken off a stack one
after another. Options that allow more never lead to more reports.

* `measure_eq_counts`: the numbers of a walk.
* `drain_eq`: what a stack adds to what was found before.
* `isComplex_iff_counts`: when an object literal is complex.
* `check_of_allowsMore`: what is reported under options that allow more is reported under the
  others.
-/

namespace SourceAudit.ReactProps

open Text Node

/-! ### Counting on a walk -/

/-- Whether a place of a tree holds a node of one of some kinds that is below no function. -/
def isOutside (kinds : List String) (place : Node × List Node) : Bool :=
  place.1.isOneOf kinds && !place.2.any (·.isOneOf functionKinds)

/-- The number of nodes of some kinds in a tree that are below no function of it. -/
def countOutside (kinds : List String) (n : Node) : Nat :=
  n.walk.countP (isOutside kinds)

/-- The number of nodes of some kinds in some trees that are below no function. -/
def countAllOutside (kinds : List String) (ns : List Node) : Nat :=
  (ns.map (countOutside kinds)).sum

/-- Nothing below a function counts, and what is below another node counts as it does alone. -/
theorem countP_isOutside_below (kinds : List String) (n c : Node) :
  (c.walk.map fun place => (place.1, n :: place.2)).countP (isOutside kinds)
    = if n.isOneOf functionKinds then 0 else countOutside kinds c
  := by
  rw [List.countP_map, countOutside]
  split
  · rename_i hfunction
    rw [List.countP_eq_zero]
    intro place _
    simp [isOutside, hfunction]
  · rename_i hother
    apply List.countP_congr
    intro place _
    simp [isOutside, hother]

/-- A node counts itself, and unless it is a function what its children count. -/
theorem countOutside_eq (kinds : List String) (n : Node) :
  countOutside kinds n
    = (if n.isOneOf kinds then 1 else 0)
      + if n.isOneOf functionKinds then 0 else countAllOutside kinds n.children
  := by
  have hself : isOutside kinds (n, []) = n.isOneOf kinds := by
    simp [isOutside]
  rw [countOutside, walk_eq_cons, List.countP_cons, List.countP_flatMap, hself, Nat.add_comm]
  simp only [Function.comp_def, countP_isOutside_below]
  congr 1
  split
  · simp
  · rfl

/-! ### Measures -/

theorem Complexity.add_assoc (a b c : Complexity) :
  (a.add b).add c = a.add (b.add c)
  := by
  simp only [add, Nat.add_assoc]

theorem Complexity.add_left_comm (a b c : Complexity) :
  a.add (b.add c) = b.add (a.add c)
  := by
  simp only [add, Nat.add_left_comm]

theorem Complexity.add_nothing (a : Complexity) :
  a.add {} = a
  := rfl

theorem Complexity.nothing_add (a : Complexity) :
  Complexity.add {} a = a
  := by
  simp only [add, Nat.zero_add]

/-- What is counted in some values. -/
def counts (ns : List Node) : Complexity where
  ternaries := countAllOutside ternaryKinds ns
  templates := countAllOutside ["template_string"] ns
  calls := countAllOutside ["call_expression"] ns

theorem counts_cons (n : Node) (ns : List Node) :
  counts (n :: ns)
    = Complexity.add
      ⟨countOutside ternaryKinds n, countOutside ["template_string"] n,
        countOutside ["call_expression"] n⟩
      (counts ns)
  := rfl

theorem ownComplexity_eq (n : Node) :
  ownComplexity n.kind
    = ⟨if n.isOneOf ternaryKinds then 1 else 0, if n.isOneOf ["template_string"] then 1 else 0,
      if n.isOneOf ["call_expression"] then 1 else 0⟩
  := by
  cases hkind : n.kind with
  | none => simp [ownComplexity, isOneOf, hkind]
  | some kind =>
      simp only [isOneOf, hkind, ternaryKinds]
      unfold ownComplexity
      split <;> simp_all

/-- A value holds as many nodes of each kind as are counted on a walk. -/
theorem measure_eq_counts (n : Node) :
  measure n
    = ⟨countOutside ternaryKinds n, countOutside ["template_string"] n,
      countOutside ["call_expression"] n⟩
  := by
  induction n using induct with
  | step n ih =>
      have hchildren : measureAll n.children = counts n.children := by
        generalize n.children = ns at ih
        induction ns with
        | nil => rfl
        | cons c ns ihns =>
            obtain ⟨hc, hns⟩ := List.forall_mem_cons.mp ih
            rw [measureAll, counts_cons, hc, ihns hns]
      rw [measure_eq, hchildren, ownComplexity_eq, countOutside_eq ternaryKinds,
        countOutside_eq ["template_string"], countOutside_eq ["call_expression"]]
      split
      · rfl
      · rfl

theorem measureAll_eq_counts (ns : List Node) :
  measureAll ns = counts ns
  := by
  induction ns with
  | nil => rfl
  | cons n ns ih => rw [measureAll, counts_cons, measure_eq_counts, ih]

/-! ### Measuring with a stack -/

theorem measureAll_append (ns ns' : List Node) :
  measureAll (ns ++ ns') = (measureAll ns).add (measureAll ns')
  := by
  induction ns with
  | nil => rw [List.nil_append, measureAll, Complexity.nothing_add]
  | cons n ns ih => rw [List.cons_append, measureAll, measureAll, ih, Complexity.add_assoc]

theorem measureAll_of_perm {ns ns' : List Node} (h : ns.Perm ns') :
  measureAll ns = measureAll ns'
  := by
  induction h with
  | nil => rfl
  | cons n _ ih => rw [measureAll, measureAll, ih]
  | swap n m ns => rw [measureAll, measureAll, measureAll, measureAll, Complexity.add_left_comm]
  | trans _ _ ih ih' => exact ih.trans ih'

/-- What comes on the stack when a node is taken off it: its children, the last of them on top,
unless it is a function. -/
def opened (n : Node) : List Node :=
  if n.isOneOf functionKinds then [] else n.children.reverse

theorem length_flatMap_nodes_opened_lt (n : Node) (rest : List Node) :
  ((opened n ++ rest).flatMap nodes).length < ((n :: rest).flatMap nodes).length
  := by
  have hopened : ((opened n).flatMap nodes).length ≤ (n.children.flatMap nodes).length := by
    rw [opened]
    split
    · exact Nat.zero_le _
    · exact ((List.reverse_perm n.children).flatMap_right nodes).length_eq.le
  rw [List.flatMap_append, List.flatMap_cons, nodes_eq_cons, List.length_append,
    List.length_append, List.length_cons]
  omega

/-- What is found when the nodes on a stack, and those that come on it, are taken off one after
another, after what was found before. -/
def drain (found : Complexity) (stack : List Node) : Complexity :=
  match stack with
  | [] => found
  | n :: rest => drain (found.add (ownComplexity n.kind)) (opened n ++ rest)
  termination_by (stack.flatMap nodes).length
  decreasing_by exact length_flatMap_nodes_opened_lt n rest

/-- Taking a node off the stack leaves what is found and what is on the stack together as it
was. -/
theorem measureAll_step (found : Complexity) (n : Node) (rest : List Node) :
  (found.add (ownComplexity n.kind)).add (measureAll (opened n ++ rest))
    = found.add (measureAll (n :: rest))
  := by
  have hnode : measure n = (ownComplexity n.kind).add (measureAll (opened n)) := by
    rw [measure_eq, opened]
    split
    · rfl
    · -- a sum does not depend on the order in which the children lie on the stack
      rw [measureAll_of_perm (List.reverse_perm n.children)]
  rw [measureAll, measureAll_append, hnode, Complexity.add_assoc, Complexity.add_assoc]

/-- A stack adds what the nodes on it hold. -/
theorem drain_eq (found : Complexity) (stack : List Node) :
  drain found stack = found.add (measureAll stack)
  := by
  induction found, stack using drain.induct with
  | case1 found => rw [drain, measureAll, Complexity.add_nothing]
  | case2 found n rest ih => rw [drain, ih, measureAll_step]

/-- What is found in some values, each put on a stack of its own. -/
def drainEach (values : List Node) : Complexity :=
  values.foldl (fun found value => drain found [value]) {}

theorem drainEach_eq_measureAll (values : List Node) :
  drainEach values = measureAll values
  := by
  -- for the induction the values before are what was found
  have hfrom : ∀ found, values.foldl (fun found value => drain found [value]) found
      = found.add (measureAll values) := by
    induction values with
    | nil => exact fun _ => rfl
    | cons value values ih =>
        intro found
        rw [List.foldl_cons, ih, drain_eq, Complexity.add_assoc, ← measureAll_append,
          List.singleton_append]
  rw [drainEach, hfrom, Complexity.nothing_add]

/-! ### Complex object literals -/

theorem pairValues_eq (object : Node) :
  pairValues object = object.pairs.filterMap pairValue
  := by
  rw [pairValues, members, List.filter_filter, pairs]
  congr 1
  apply List.filter_congr
  intro m _
  cases hpair : m.isA "pair" with
  | false => rw [Bool.false_and]
  | true =>
      rw [isA, beq_iff_eq] at hpair
      simp [isOneOf, hpair, memberKinds]

/-- An object literal is complex when it has too many members, or its values hold too many
conditional expressions, a template string, or a call next to another member. -/
theorem isComplex_iff_counts (maxMembers maxTernaries : Nat) (object : Node) :
  isComplex maxMembers maxTernaries object = true
    ↔ maxMembers < (members object).length
      ∨ maxTernaries < countAllOutside ternaryKinds (object.pairs.filterMap pairValue)
      ∨ 0 < countAllOutside ["template_string"] (object.pairs.filterMap pairValue)
      ∨ 0 < countAllOutside ["call_expression"] (object.pairs.filterMap pairValue)
        ∧ 1 < (members object).length
  := by
  rw [isComplex, pairValues_eq, measureAll_eq_counts]
  simp only [Bool.or_eq_true, Bool.and_eq_true, decide_eq_true_iff, or_assoc]
  exact Iff.rfl

/-! ### Options -/

/-- The second options allow at least as much as the first. -/
structure AllowsMore (o o' : Options) : Prop where
  maxInlineProps : o.maxInlineProps ≤ o'.maxInlineProps
  maxTernaryOperations : o.maxTernaryOperations ≤ o'.maxTernaryOperations
  ignoreProps : o.ignoreProps ⊆ o'.ignoreProps

section

variable {o o' : Options} (h : AllowsMore o o')

include h

theorem memberLimit_of_allowsMore (above : List Node) :
  memberLimit o above ≤ memberLimit o' above
  := by
  have hprops := h.maxInlineProps
  rw [memberLimit, memberLimit]
  split
  · omega
  · exact hprops

theorem isComplex_of_allowsMore {above : List Node} {object : Node}
    (hobject : isComplex (memberLimit o' above) o'.maxTernaryOperations object = true) :
  isComplex (memberLimit o above) o.maxTernaryOperations object = true
  := by
  have hmembers := memberLimit_of_allowsMore h above
  have hternaries := h.maxTernaryOperations
  rw [isComplex_iff_counts] at hobject ⊢
  exact hobject.imp (Nat.lt_of_le_of_lt hmembers) (Or.imp_left (Nat.lt_of_le_of_lt hternaries))

theorem fault?_of_allowsMore {source : Octets} {attr object : Node} {above : List Node}
    (hattr : fault? o' source attr above = some object) :
  fault? o source attr above = some object
  := by
  rw [fault?_eq_some_iff] at hattr ⊢
  obtain ⟨hkind, hname, hobject, hcomplex⟩ := hattr
  refine ⟨hkind, ?_, hobject, isComplex_of_allowsMore h hcomplex⟩
  cases hattribute : attributeName? source attr with
  | none => rfl
  | some name =>
      rw [hattribute] at hname
      have hnot : name ∉ o'.ignoreProps := by simpa using hname
      have hnot' : name ∉ o.ignoreProps := fun hmem => hnot (h.ignoreProps hmem)
      simpa using hnot'

end

/-- Picking from fewer entries picks fewer, in the same order. -/
theorem filterMap_sublist_filterMap {α β : Type} {f g : α → Option β}
    (h : ∀ a b, f a = some b → g a = some b) (as : List α) :
  (as.filterMap f).Sublist (as.filterMap g)
  := by
  induction as with
  | nil => exact List.Sublist.refl []
  | cons a as ih =>
      cases hf : f a with
      | none =>
          rw [List.filterMap_cons_none hf]
          exact ih.trans ((List.sublist_cons_self a as).filterMap g)
      | some b =>
          rw [List.filterMap_cons_some hf, List.filterMap_cons_some (h a b hf)]
          exact ih.cons_cons b

/-- Options that allow more lead to fewer reports: an attribute that is reported under them is
reported under the others, too, and the findings in a file are among those under the others, in
the same order. Whether an object literal is complex depends on how many members it has, and on
how many nodes of three kinds its values hold below no function; a stack finds these numbers. -/
theorem check_of_allowsMore {o o' : Options} (h : AllowsMore o o') (file : FileContext)
    (root : Node) :
  (∀ attr above object, Reported o' file root attr above object
    → Reported o file root attr above object)
  ∧ (check o' file root).Sublist (check o file root)
  ∧ ∀ maxMembers maxTernaries object,
    let values := object.pairs.filterMap pairValue
    drainEach values
      = ⟨countAllOutside ternaryKinds values, countAllOutside ["template_string"] values,
        countAllOutside ["call_expression"] values⟩
    ∧ (isComplex maxMembers maxTernaries object = true
      ↔ maxMembers < (members object).length
        ∨ maxTernaries < countAllOutside ternaryKinds values
        ∨ 0 < countAllOutside ["template_string"] values
        ∨ 0 < countAllOutside ["call_expression"] values ∧ 1 < (members object).length)
  := by
  refine ⟨?_, ?_, ?_⟩
  · rintro attr above object ⟨hvisited, hfaulty⟩
    exact ⟨hvisited, fault?_of_allowsMore h hfaulty⟩
  · rw [check, check, faults, faults]
    apply List.Sublist.map
    apply filterMap_sublist_filterMap
    rintro ⟨attr, above⟩ object hfaulty
    exact fault?_of_allowsMore h hfaulty
  · intro maxMembers maxTernaries object values
    use (drainEach_eq_measureAll values).trans (measureAll_eq_counts values)
    exact isComplex_iff_counts maxMembers maxTernaries object

/-- Three members are too many where two are allowed and `style` is ignored, and where one is
allowed and nothing is ignored. -/
theorem check_of_allowsMore_three_members :
  let o : Options := { maxInlineProps := 1, maxTernaryOperations := 0 }
  let o' : Options := { ignoreProps := ["style"] }
  let file := FileContext.single "a.tsx" "<B c={{d: 1, e: 2, f: 3}}/>" (some (exampleElement 3))
  AllowsMore o o'
    ∧ Reported o' file (exampleElement 3) (exampleAttribute 3) [exampleElement 3]
      (exampleObject 3)
    ∧ Reported o file (exampleElement 3) (exampleAttribute 3) [exampleElement 3]
      (exampleObject 3)
  := by
  intro o o' file
  have hmore : AllowsMore o o' := by
    constructor <;> decide
  have hreported : Reported o' file (exampleElement 3) (exampleAttribute 3) [exampleElement 3]
      (exampleObject 3) := by
    use exampleAttribute_mem_walk 3
    apply fault?_eq_some_iff.mpr
    exact ⟨by decide, by decide +kernel, rfl, by decide⟩
  use hmore, hreported
  exact (check_of_allowsMore hmore file (exampleElement 3)).1 _ _ _ hreported

end SourceAudit.ReactProps
