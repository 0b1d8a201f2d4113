import SourceAudit.Proofs.Rule.Exemption
import SourceAudit.Proofs.SyntaxTree.Paths
import SourceAudit.Proofs.Text.Numbers

/-!
# Grounds of findings

Whatever the rule on negative conditions finds fault with gives grounds for it: no `if`
statement stands above it, conditionals are nested in it one below the other, and `else` clauses
follow one another in it, as many as the message speaks of.

* `hasPathWith_nesting`: a path goes down through as many conditionals as are counted.
* `hasPathWith_elseDepth`, `hasPathWith_throws`: the same of `else` clauses and of statements
  that throw.
* `verdict_of_message?`: all that can be said about a conditional, and when.
* `check_grounds`: the grounds of the findings in a file.
-/

namespace SourceAudit.NegativeFirst

open Text Node

/-! ### Parts of conditionals are below them -/

section

variable {n c : Node}

theorem mem_children_of_consequence? (h : consequence? n = some c) :
  c ∈ n.children
  := by
  rw [consequence?] at h
  split at h
  · rename_i part hpart
    rw [Option.ite_none_left_eq_some] at h
    obtain ⟨-, ⟨⟩⟩ := h
    exact mem_children_of_mem_parts (List.mem_of_getElem? hpart)
  · cases h

/-- What is done otherwise stands in an `else` clause. -/
theorem exists_clause_of_alternative? (h : alternative? n = some c) :
  ∃ clause ∈ n.children, clause.isA "else_clause" = true ∧ c ∈ clause.children
  := by
  rw [alternative?] at h
  split at h
  · rename_i clause hclause
    obtain ⟨hpart, hkind⟩ := List.mem_filter.mp (List.mem_of_getLast? hclause)
    use clause, mem_children_of_mem_parts hpart, hkind
    exact mem_children_of_mem_parts (List.mem_of_mem_head? h)
  · cases h

theorem mem_children_of_getElem?_parts {k : Nat} (h : n.parts[k]? = some c) :
  c ∈ n.children
  := mem_children_of_mem_parts (List.mem_of_getElem? h)

theorem mem_children_of_head?_parts (h : n.parts.head? = some c) :
  c ∈ n.children
  := mem_children_of_mem_parts (List.mem_of_mem_head? h)

theorem mem_children_of_pairValue (h : n.pairValue = some c) :
  c ∈ n.children
  := by
  rw [pairValue] at h
  split at h
  · rename_i first second rest hparts
    apply mem_children_of_mem_parts
    rw [hparts]
    exact List.mem_cons_of_mem _ (List.mem_of_getLast? h)
  · cases h

end

/-! ### Paths through parts -/

/-- Whether the node is a conditional, conditional expressions counted or not. -/
def isConditional (ternaries : Bool) (n : Node) : Bool :=
  n.isA "if_statement" || (n.isOneOf ternaryKinds && ternaries)

section

variable {p : Node → Bool} {measure : Node → Nat} {n : Node} {part : Option Node}

/-- A path through a part, or none at all where the part is missing. -/
theorem hasPathWith_ofPart
    (hpart : ∀ c, part = some c → HasPathWith p (measure c) n) :
  HasPathWith p (ofPart measure part) n
  := by
  cases part with
  | none => exact hasPathWith_zero
  | some c => exact hpart c rfl

/-- A path through the node and a part, or the node alone where the part is missing. -/
theorem hasPathWith_succ_ofPart (hn : p n = true)
    (hpart : ∀ c, part = some c → c ∈ n.children ∧ HasPathWith p (measure c) c) :
  HasPathWith p (1 + ofPart measure part) n
  := by
  cases part with
  | none => exact hasPathWith_one hn
  | some c =>
      obtain ⟨hc, hpath⟩ := hpart c rfl
      rw [Nat.add_comm]
      exact hpath.succ_of_child hc hn

theorem hasPathWith_greatest {ns : List Node}
    (hns : ∀ c ∈ ns, HasPathWith p (measure c) n) :
  HasPathWith p (greatest measure ns) n
  := by
  apply List.foldlRecOn (motive := fun k => HasPathWith p k n) _ _ hasPathWith_zero
  intro k hk k' hk'
  obtain ⟨c, hc, rfl⟩ := List.mem_map.mp hk'
  exact hk.max (hns c hc)

end

/-- A path goes down through as many conditionals as are counted. -/
theorem hasPathWith_nesting (ternaries : Bool) (n : Node) :
  HasPathWith (isConditional ternaries) (nesting ternaries n) n
  := by
  induction n using inductOnSize with
  | step n ih =>
      have hchild : ∀ c ∈ n.children,
          HasPathWith (isConditional ternaries) (nesting ternaries c) c :=
        fun c hc => ih c (sizeOf_lt_of_mem_children hc)
      have hpart : ∀ {part : Option Node}, (∀ c, part = some c → c ∈ n.children) →
          HasPathWith (isConditional ternaries) (ofPart (nesting ternaries) part) n := by
        intro part hmem
        apply hasPathWith_ofPart
        intro c hc
        exact (hchild c (hmem c hc)).of_child (hmem c hc)
      have hbranch : ∀ {part : Option Node}, isConditional ternaries n = true →
          (∀ c, part = some c → c ∈ n.children) →
          HasPathWith (isConditional ternaries) (1 + ofPart (nesting ternaries) part) n := by
        intro part hn hmem
        apply hasPathWith_succ_ofPart hn
        intro c hc
        exact ⟨hmem c hc, hchild c (hmem c hc)⟩
      rw [nesting_eq]
      split_ifs with hif hternary
      · have hn : isConditional ternaries n = true := by
          rw [isConditional, hif, Bool.true_or]
        apply (hbranch hn fun _ => mem_children_of_consequence?).max
        -- the other branch is below an `else` clause, which counts for nothing itself
        apply hasPathWith_ofPart
        intro c hc
        obtain ⟨clause, hclause, -, hmem⟩ := exists_clause_of_alternative? hc
        exact ((ih c (sizeOf_alternative? hc)).of_child hmem).of_child hclause
      · have hn : isConditional ternaries n = true := by
          rw [isConditional, hternary, Bool.or_true]
        exact (hbranch hn fun _ => mem_children_of_getElem?_parts).max
          (hbranch hn fun _ => mem_children_of_getElem?_parts)
      · apply hasPathWith_greatest
        intro c hc
        have hmem := mem_children_of_mem_parts hc
        exact (hchild c hmem).of_child hmem
      · exact hpart fun _ => mem_children_of_head?_parts
      · exact hpart fun _ => mem_children_of_pairValue
      · exact hasPathWith_zero

/-! ### Paths through `else` clauses and to statements that throw -/

theorem elseDepth_eq (n : Node) :
  elseDepth n
    = if n.isA "if_statement" then ofPart (fun c => 1 + elseDepth c) (alternative? n) else 0
  := by
  rw [elseDepth]
  split
  · generalize alternative? n = part
    cases part <;> rfl
  · rfl

/-- A path goes down through as many `else` clauses as follow one another. -/
theorem hasPathWith_elseDepth (n : Node) :
  HasPathWith (·.isA "else_clause") (elseDepth n) n
  := by
  induction n using inductOnSize with
  | step n ih =>
      rw [elseDepth_eq]
      split
      · apply hasPathWith_ofPart
        intro c hc
        obtain ⟨clause, hclause, hkind, hmem⟩ := exists_clause_of_alternative? hc
        have hpath := (ih c (sizeOf_alternative? hc)).succ_of_child hmem hkind
        rw [Nat.add_comm]
        exact hpath.of_child hclause
      · exact hasPathWith_zero

theorem throws_eq (n : Node) :
  throws n
    = if n.isA "throw_statement" then true
      else if n.isA "if_statement" then
        (consequence? n).any throws || (alternative? n).any throws
      else if n.isOneOf ternaryKinds then (whenTrue? n).any throws || (whenFalse? n).any throws
      else if n.isA "statement_block" then n.parts.any throws
      else false
  := by
  rw [throws]
  split
  · rfl
  · split
    · generalize consequence? n = inner
      generalize alternative? n = other
      cases inner <;> cases other <;> rfl
    · split
      · generalize whenTrue? n = inner
        generalize whenFalse? n = other
        cases inner <;> cases other <;> rfl
      · split
        · rw [Bool.eq_iff_iff]
          simp
        · rfl

/-- A path goes down to a statement that throws. -/
theorem hasPathWith_throws {n : Node} (h : throws n = true) :
  HasPathWith (·.isA "throw_statement") 1 n
  := by
  induction n using inductOnSize with
  | step n ih =>
      have hchild : ∀ c ∈ n.children, throws c = true →
          HasPathWith (·.isA "throw_statement") 1 n :=
        fun c hc hthrows => (ih c (sizeOf_lt_of_mem_children hc) hthrows).of_child hc
      rw [throws_eq] at h
      split_ifs at h with hthrow hif
      · exact hasPathWith_one hthrow
      · simp only [Bool.or_eq_true, Option.any_eq_true] at h
        rcases h with ⟨c, hc, hthrows⟩ | ⟨c, hc, hthrows⟩
        · exact hchild c (mem_children_of_consequence? hc) hthrows
        · obtain ⟨clause, hclause, -, hmem⟩ := exists_clause_of_alternative? hc
          exact ((ih c (sizeOf_alternative? hc) hthrows).of_child hmem).of_child hclause
      · simp only [Bool.or_eq_true, Option.any_eq_true] at h
        rcases h with ⟨c, hc, hthrows⟩ | ⟨c, hc, hthrows⟩
        · exact hchild c (mem_children_of_getElem?_parts hc) hthrows
        · exact hchild c (mem_children_of_getElem?_parts hc) hthrows
      · obtain ⟨c, hc, hthrows⟩ := List.any_eq_true.mp h
        exact hchild c (mem_children_of_mem_parts hc) hthrows

/-! ### What is said -/

def nestingMessage : String :=
  "Handle negative conditions first to reduce nesting"

def earlyReturnMessage : String :=
  "Use early return instead of else block"

def elseLimitWords : String :=
  "Too many else-if statements, maximum allowed is "

def elseLimitMessage (limit : Nat) : String :=
  elseLimitWords ++ natText limit

theorem head?_elseLimitMessage (limit : Nat) :
  (elseLimitMessage limit).toList.head? = some 'T'
  := by
  have hwords : elseLimitWords.toList.head? = some 'T' := by decide
  rw [elseLimitMessage, String.toList_append, List.head?_append, hwords, Option.some_or]

theorem elseLimitMessage_ne {message : String} (h : message.toList.head? ≠ some 'T')
    (limit : Nat) :
  message ≠ elseLimitMessage limit
  := by
  rintro rfl
  exact h (head?_elseLimitMessage limit)

theorem elseLimitMessage_injective :
  Function.Injective elseLimitMessage
  := by
  intro limit limit' h
  rw [elseLimitMessage, elseLimitMessage, String.append_right_inj] at h
  exact natText_injective h

/-- All that can be said about a conditional, and when. -/
inductive Verdict (o : Options) (n : Node) : String → Prop where
  | manyClauses :
      n.isA "if_statement" = true → o.maxElseDepth < elseDepth n
        → Verdict o n (elseLimitMessage o.maxElseDepth)
  | otherwise :
      n.isA "if_statement" = true → o.enforceEarlyReturn = true
        → (alternative? n).isSome = true → Verdict o n earlyReturnMessage
  | tooDeep : nestsTooDeep o n = true → Verdict o n nestingMessage

theorem verdict_of_elseMessage? {o : Options} {n : Node} {message : String}
    (h : elseMessage? o n = some message) :
  Verdict o n message
  := by
  rw [elseMessage?] at h
  split at h
  · cases h
  · rename_i hif
    have hkind : n.isA "if_statement" = true := by
      simpa using hif
    split at h
    · rename_i hmany
      obtain rfl := Option.some.inj h
      exact .manyClauses hkind hmany
    · split at h
      · rename_i hearly
        rw [Bool.and_eq_true] at hearly
        obtain rfl := Option.some.inj h
        exact .otherwise hkind hearly.1 hearly.2
      · cases h

theorem verdict_of_message? {o : Options} {source : Octets} {n : Node} {above : List Node}
    {message : String} (h : message? o source n above = some message) :
  isExempt o source above = false ∧ Verdict o n message
  := by
  rw [message?] at h
  split at h
  · cases h
  · rename_i hexempt
    use Bool.eq_false_of_not_eq_true hexempt
    split at h
    · rename_i helse
      obtain rfl := Option.some.inj h
      exact verdict_of_elseMessage? helse
    · split at h
      · rename_i hdeep
        obtain rfl := Option.some.inj h
        exact .tooDeep hdeep
      · cases h

/-! ### Grounds -/

/-- The grounds for finding fault with a conditional in some words. -/
structure Grounds (o : Options) (n : Node) (above : List Node) (message : String) : Prop where
  outermost : ∀ a ∈ above, a.isA "if_statement" = false
  known : message = nestingMessage ∨ message = earlyReturnMessage
    ∨ message = elseLimitMessage o.maxElseDepth
  nested : message = nestingMessage →
    HasPathWith (isConditional o.checkTernaries) (o.maxNestingDepth + 1) n
  /-- One conditional in another one is not enough where that is allowed. -/
  notSingle : message = nestingMessage → o.allowSingleNesting = true →
    HasPathWith (isConditional o.checkTernaries) 3 n
  silent : message = nestingMessage → o.enforceThrow = true → throws n = false
  otherwise : message = earlyReturnMessage →
    o.enforceEarlyReturn = true ∧ HasPathWith (·.isA "else_clause") 1 n
  clauses : ∀ limit, message = elseLimitMessage limit →
    HasPathWith (·.isA "else_clause") (limit + 1) n

theorem lt_nesting_of_nestsTooDeep {o : Options} {n : Node} (h : nestsTooDeep o n = true) :
  o.maxNestingDepth + 1 ≤ nesting o.checkTernaries n
    ∧ (o.allowSingleNesting = true → 3 ≤ nesting o.checkTernaries n)
    ∧ (o.enforceThrow = true → throws n = false)
  := by
  simp only [nestsTooDeep, Bool.and_eq_true, Bool.not_eq_true', Bool.and_eq_false_iff,
    decide_eq_true_iff, decide_eq_false_iff_not] at h
  obtain ⟨⟨hmany, hdeep⟩, hsilent⟩ := h
  refine ⟨by omega, ?_, ?_⟩
  · intro hsingle
    rcases hmany with hoff | hmany
    · rw [hsingle] at hoff
      cases hoff
    · omega
  · intro henforced
    exact hsilent.resolve_left (by simp [henforced])

theorem grounds_of_verdict {o : Options} {source : Octets} {n : Node} {above : List Node}
    {message : String} (hexempt : isExempt o source above = false)
    (hverdict : Verdict o n message) :
  Grounds o n above message
  := by
  have houtermost := (isExempt_eq_false_iff.mp hexempt).1
  have hearly : ∀ limit, earlyReturnMessage ≠ elseLimitMessage limit :=
    elseLimitMessage_ne (by decide)
  have hnesting : ∀ limit, nestingMessage ≠ elseLimitMessage limit :=
    elseLimitMessage_ne (by decide)
  have hapart : earlyReturnMessage ≠ nestingMessage := by decide
  cases hverdict with
  | manyClauses _ hmany =>
      have hclauses : ∀ limit, elseLimitMessage o.maxElseDepth = elseLimitMessage limit →
          HasPathWith (·.isA "else_clause") (limit + 1) n := by
        intro limit hlimit
        rw [← elseLimitMessage_injective hlimit]
        exact (hasPathWith_elseDepth n).of_le hmany
      exact {
        outermost := houtermost
        known := .inr (.inr rfl)
        nested := fun h => absurd h.symm (hnesting _)
        notSingle := fun h => absurd h.symm (hnesting _)
        silent := fun h => absurd h.symm (hnesting _)
        otherwise := fun h => absurd h.symm (hearly _)
        clauses := hclauses }
  | otherwise _ henforced hother =>
      have hclause : HasPathWith (·.isA "else_clause") 1 n := by
        obtain ⟨c, hc⟩ := Option.isSome_iff_exists.mp hother
        obtain ⟨clause, hclause, hkind, -⟩ := exists_clause_of_alternative? hc
        exact (hasPathWith_one hkind).of_child hclause
      exact {
        outermost := houtermost
        known := .inr (.inl rfl)
        nested := fun h => absurd h hapart
        notSingle := fun h => absurd h hapart
        silent := fun h => absurd h hapart
        otherwise := fun _ => ⟨henforced, hclause⟩
        clauses := fun limit h => absurd h (hearly limit) }
  | tooDeep hdeep =>
      obtain ⟨hnested, hsingle, hsilent⟩ := lt_nesting_of_nestsTooDeep hdeep
      have hpath := hasPathWith_nesting o.checkTernaries n
      exact {
        outermost := houtermost
        known := .inl rfl
        nested := fun _ => hpath.of_le hnested
        notSingle := fun _ h => hpath.of_le (hsingle h)
        silent := fun _ => hsilent
        otherwise := fun h => absurd h.symm hapart
        clauses := fun limit h => absurd h (hnesting limit) }

theorem grounds_of_findingAt {o : Options} {file : FileContext} {n : Node} {above : List Node}
    {d : Diagnostic} (h : findingAt o file (n, above) = some d) :
  Grounds o n above d.message
  := by
  rw [findingAt] at h
  split at h
  · obtain ⟨message, hmessage, rfl⟩ := Option.map_eq_some_iff.mp h
    obtain ⟨hexempt, hverdict⟩ := verdict_of_message? hmessage
    exact grounds_of_verdict hexempt hverdict
  · cases h

/-- The findings in a file are those at the nodes of its tree, and each of them has its grounds.
Conditionals are counted no deeper without conditional expressions, and what is said to throw
holds a statement that throws. -/
theorem check_grounds (o : Options) (file : FileContext) (root : Node) :
  check o file root = root.walk.filterMap (findingAt o file)
  ∧ (∀ n above d, (n, above) ∈ root.walk → findingAt o file (n, above) = some d →
    Grounds o n above d.message)
  ∧ (∀ n, nesting false n ≤ nesting true n)
  ∧ ∀ n, throws n = true → ∃ m ∈ n.nodes, m.isA "throw_statement" = true
  := by
  refine ⟨check_eq_filterMap o file root, ?_, ?_, ?_⟩
  · intro n above d _ hd
    exact grounds_of_findingAt hd
  · exact nesting_le_nesting (Bool.false_le true)
  · intro n hthrows
    exact (hasPathWith_throws hthrows).exists_mem_nodes

/-- An `if` statement in another one is found fault with, and a path meets both. -/
theorem check_grounds_nested_if :
  let root : Node := .node { kind := some "program" } [exampleNestedIf]
  let file := FileContext.single "a.ts" "" (some root)
  (exampleNestedIf, [root]) ∈ root.walk
  ∧ findingAt {} file (exampleNestedIf, [root])
    = some (about.finding file exampleNestedIf nestingMessage (some suggestion))
  ∧ HasPathWith (isConditional true) 2 exampleNestedIf
  := by
  intro root file
  have hplace : (exampleNestedIf, [root]) ∈ root.walk :=
    mem_walk_of_mem_children List.mem_cons_self
  have hfound : findingAt {} file (exampleNestedIf, [root])
      = some (about.finding file exampleNestedIf nestingMessage (some suggestion)) := by
    decide +kernel
  use hplace, hfound
  have hgrounds := (check_grounds {} file root).2.1 exampleNestedIf [root] _ hplace hfound
  exact hgrounds.nested rfl

end SourceAudit.NegativeFirst
