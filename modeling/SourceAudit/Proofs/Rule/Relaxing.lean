import SourceAudit.Rule.NegativeFirst
import SourceAudit.Proofs.SyntaxTree.Paths
import Mathlib.Data.List.Basic
import Mathlib.Order.MinMax
import Mathlib.Tactic.SplitIfs

/-!
# Options that ask less

Options of the rule on negative conditions may ask less of conditionals than others: they let
them nest deeper, let more `else` clauses follow one another, excuse more of them or look at
fewer. Whatever is found fault with under the options that ask less is found fault with under
the others, if not in the same words.

* `nesting_le_nesting`: conditionals nest no deeper when conditional expressions are left out.
* `message?_of_asksLess`: what a conditional is told under options that ask less, it is told in
  some words under the others.
* `check_of_asksLess`: the findings in a file, one by one.
-/

namespace SourceAudit.NegativeFirst

open Text

/-! ### Nesting -/

/-- A measure of a part, nothing where the part is missing. -/
def ofPart (measure : Node → Nat) (part : Option Node) : Nat :=
  (part.map measure).getD 0

/-- The greatest measure of some nodes. -/
def greatest (measure : Node → Nat) (ns : List Node) : Nat :=
  (ns.map measure).foldl max 0

theorem nesting_eq (ternaries : Bool) (n : Node) :
  nesting ternaries n
    = if n.isA "if_statement" then
        max (1 + ofPart (nesting ternaries) (consequence? n))
          (ofPart (nesting ternaries) (alternative? n))
      else if n.isOneOf ternaryKinds && ternaries then
        max (1 + ofPart (nesting ternaries) (whenTrue? n))
          (1 + ofPart (nesting ternaries) (whenFalse? n))
      else if n.isA "statement_block" then greatest (nesting ternaries) n.parts
      else if n.isOneOf ["return_statement", "parenthesized_expression"] then
        ofPart (nesting ternaries) n.parts.head?
      else if n.isOneOf ["assignment_pattern", "pair"] then
        ofPart (nesting ternaries) n.pairValue
      else 0
  := by
  rw [nesting]
  simp only [List.map_attach_eq_pmap, List.pmap_eq_map]
  split
  · generalize consequence? n = inner
    generalize alternative? n = other
    cases inner <;> cases other <;> rfl
  · split
    · generalize whenTrue? n = inner
      generalize whenFalse? n = other
      cases inner <;> cases other <;> rfl
    · split
      · rfl
      · split
        · generalize n.parts.head? = part
          cases part <;> rfl
        · split
          · generalize n.pairValue = part
            cases part <;> rfl
          · rfl

section

variable {measure measure' : Node → Nat}

theorem ofPart_le_ofPart {part : Option Node}
    (h : ∀ c, part = some c → measure c ≤ measure' c) :
  ofPart measure part ≤ ofPart measure' part
  := by
  cases part with
  | none => exact Nat.le_refl _
  | some c => exact h c rfl

theorem greatest_le_greatest {ns : List Node} (h : ∀ c ∈ ns, measure c ≤ measure' c) :
  greatest measure ns ≤ greatest measure' ns
  := by
  have hfrom : ∀ {a b : Nat}, a ≤ b →
      (ns.map measure).foldl max a ≤ (ns.map measure').foldl max b := by
    induction ns with
    | nil => exact id
    | cons c ns ih =>
        intro a b hab
        obtain ⟨hc, hns⟩ := List.forall_mem_cons.mp h
        exact ih hns (max_le_max hab hc)
  exact hfrom (Nat.le_refl 0)

end

theorem kind_of_ternary {n : Node} (h : n.isOneOf ternaryKinds = true) :
  n.kind = some "ternary_expression" ∨ n.kind = some "conditional_expression"
  := by
  rw [Node.isOneOf] at h
  cases hkind : n.kind with
  | none =>
      rw [hkind] at h
      cases h
  | some kind =>
      rw [hkind] at h
      simpa [ternaryKinds] using h

/-- A conditional expression does not nest when conditional expressions are left out. -/
theorem nesting_ternary {n : Node} (h : n.isOneOf ternaryKinds = true) :
  nesting false n = 0
  := by
  rw [nesting_eq]
  rcases kind_of_ternary h with hkind | hkind
  · simp [Node.isA, Node.isOneOf, hkind]
  · simp [Node.isA, Node.isOneOf, hkind]

/-- Conditionals nest no deeper when conditional expressions are left out. -/
theorem nesting_le_nesting {ternaries ternaries' : Bool} (h : ternaries ≤ ternaries') (n : Node) :
  nesting ternaries n ≤ nesting ternaries' n
  := by
  induction n using Node.inductOnSize with
  | step n hsmaller =>
      by_cases hleft : n.isOneOf ternaryKinds = true ∧ ternaries = false
      · obtain ⟨hternary, rfl⟩ := hleft
        rw [nesting_ternary hternary]
        exact Nat.zero_le _
      · have hboth : (n.isOneOf ternaryKinds && ternaries')
            = (n.isOneOf ternaryKinds && ternaries) := by
          cases ternaries with
          | true => rw [Bool.le_iff_imp.mp h rfl]
          | false => simp_all
        rw [nesting_eq, nesting_eq ternaries', hboth]
        split_ifs
        · apply max_le_max
          · apply Nat.add_le_add_left
            exact ofPart_le_ofPart fun c hc => hsmaller c (sizeOf_consequence? hc)
          · exact ofPart_le_ofPart fun c hc => hsmaller c (sizeOf_alternative? hc)
        · apply max_le_max
          · apply Nat.add_le_add_left
            exact ofPart_le_ofPart fun c hc => hsmaller c (sizeOf_whenTrue? hc)
          · apply Nat.add_le_add_left
            exact ofPart_le_ofPart fun c hc => hsmaller c (sizeOf_whenFalse? hc)
        · exact greatest_le_greatest fun c hc => hsmaller c (Node.sizeOf_lt_of_mem_parts hc)
        · exact ofPart_le_ofPart fun c hc => hsmaller c (sizeOf_head?_parts hc)
        · exact ofPart_le_ofPart fun c hc => hsmaller c (sizeOf_pairValue hc)
        · exact Nat.le_refl 0

/-! ### Options -/

/-- The second options ask no more of conditionals than the first. -/
structure AsksLess (o o' : Options) : Prop where
  maxNestingDepth : o.maxNestingDepth ≤ o'.maxNestingDepth
  maxElseDepth : o.maxElseDepth ≤ o'.maxElseDepth
  enforceThrow : o.enforceThrow ≤ o'.enforceThrow
  allowSingleNesting : o.allowSingleNesting ≤ o'.allowSingleNesting
  checkArrowFunctions : o'.checkArrowFunctions ≤ o.checkArrowFunctions
  checkAsyncFunctions : o'.checkAsyncFunctions ≤ o.checkAsyncFunctions
  checkGenerators : o'.checkGenerators ≤ o.checkGenerators
  checkTernaries : o'.checkTernaries ≤ o.checkTernaries
  checkTryCatch : o'.checkTryCatch ≤ o.checkTryCatch
  enforceEarlyReturn : o'.enforceEarlyReturn ≤ o.enforceEarlyReturn

section

variable {o o' : Options} (h : AsksLess o o')

include h

theorem isMeasured_of_asksLess {n : Node} (hn : isMeasured o' n = true) :
  isMeasured o n = true
  := by
  rw [isMeasured, Bool.or_eq_true, Bool.and_eq_true] at hn ⊢
  exact hn.imp_right fun hternary =>
    ⟨hternary.1, Bool.le_iff_imp.mp h.checkTernaries hternary.2⟩

/-- A function that is passed over stays passed over. -/
theorem isUncheckedFunction_of_asksLess {source : Octets} {f : Node}
    (hf : isUncheckedFunction o source f = true) :
  isUncheckedFunction o' source f = true
  := by
  have harrow := Bool.le_iff_imp.mp h.checkArrowFunctions
  have hasync := Bool.le_iff_imp.mp h.checkAsyncFunctions
  have hgenerators := Bool.le_iff_imp.mp h.checkGenerators
  simp only [isUncheckedFunction] at hf ⊢
  grind

theorem isExempt_of_asksLess {source : Octets} {above : List Node}
    (habove : isExempt o source above = true) :
  isExempt o' source above = true
  := by
  have htry := Bool.le_iff_imp.mp h.checkTryCatch
  rw [isExempt, Bool.or_eq_true, Bool.or_eq_true] at habove ⊢
  rcases habove with (hif | hfunction) | hcatch
  · exact .inl (.inl hif)
  · obtain ⟨f, hf, hunchecked⟩ := List.any_eq_true.mp hfunction
    exact .inl (.inr (List.any_eq_true.mpr ⟨f, hf, isUncheckedFunction_of_asksLess h hunchecked⟩))
  · right
    grind

theorem elseMessage?_of_asksLess {n : Node} (hn : (elseMessage? o' n).isSome = true) :
  (elseMessage? o n).isSome = true
  := by
  have hdepth := h.maxElseDepth
  have hearly := Bool.le_iff_imp.mp h.enforceEarlyReturn
  rw [elseMessage?] at hn ⊢
  split at hn
  · cases hn
  · rename_i hif
    rw [if_neg hif]
    split at hn
    · rename_i hdeep
      rw [if_pos (Nat.lt_of_le_of_lt hdepth hdeep)]
      rfl
    · split at hn
      · rename_i hreturn
        rw [Bool.and_eq_true] at hreturn
        split
        · rfl
        · rw [if_pos (by rw [hearly hreturn.1, hreturn.2]; rfl)]
          rfl
      · cases hn

theorem nestsTooDeep_of_asksLess {n : Node} (hn : nestsTooDeep o' n = true) :
  nestsTooDeep o n = true
  := by
  have hnesting := nesting_le_nesting h.checkTernaries n
  have hdepth := h.maxNestingDepth
  have hsingle := Bool.le_iff_imp.mp h.allowSingleNesting
  have hthrow := Bool.le_iff_imp.mp h.enforceThrow
  simp only [nestsTooDeep, Bool.and_eq_true, Bool.not_eq_true', Bool.and_eq_false_iff,
    decide_eq_true_iff, decide_eq_false_iff_not] at hn ⊢
  obtain ⟨⟨hmany, hdeep⟩, hsilent⟩ := hn
  refine ⟨⟨?_, by omega⟩, ?_⟩
  · rcases hmany with hoff | hmany
    · left
      grind
    · right
      omega
  · grind

theorem message?_of_asksLess {source : Octets} {n : Node} {above : List Node}
    (hn : (message? o' source n above).isSome = true) :
  (message? o source n above).isSome = true
  := by
  rw [message?] at hn ⊢
  split at hn
  · cases hn
  · rename_i hexempt
    rw [if_neg (fun habove => hexempt (isExempt_of_asksLess h habove))]
    cases helse : elseMessage? o n with
    | some message => rfl
    | none =>
        have helse' : elseMessage? o' n = none := by
          rw [← Option.not_isSome_iff_eq_none]
          intro hsome
          have hcontra := elseMessage?_of_asksLess h hsome
          rw [helse] at hcontra
          cases hcontra
        rw [helse'] at hn
        dsimp only at hn ⊢
        split at hn
        · rename_i hdeep
          rw [if_pos (nestsTooDeep_of_asksLess h hdeep)]
          rfl
        · cases hn

end

/-! ### Findings -/

/-- The finding at a node of a tree, given the nodes above it. -/
def findingAt (o : Options) (file : FileContext) (place : Node × List Node) :
    Option Diagnostic :=
  if isMeasured o place.1 then
    (message? o file.octets place.1 place.2).map fun message =>
      about.finding file place.1 message (some suggestion)
  else none

/-- The findings in a file are those at the nodes of its tree, as they come on a walk. -/
theorem check_eq_filterMap (o : Options) (file : FileContext) (root : Node) :
  check o file root = root.walk.filterMap (findingAt o file)
  := by
  rw [check, faults, List.map_filterMap]
  apply List.filterMap_congr
  rintro ⟨n, above⟩ -
  by_cases hmeasured : isMeasured o n = true
  · simp [findingAt, hmeasured, Function.comp_def]
  · simp [findingAt, hmeasured]

/-- Under options that ask less, a place of a tree where something is found fault with is one
where the other options find fault too, and the two findings differ in nothing but their
words. What is found in a file is what is found at the places of its tree. -/
theorem check_of_asksLess {o o' : Options} (h : AsksLess o o') (file : FileContext)
    (root : Node) :
  check o file root = root.walk.filterMap (findingAt o file)
  ∧ check o' file root = root.walk.filterMap (findingAt o' file)
  ∧ ∀ place ∈ root.walk, ∀ d', findingAt o' file place = some d' →
    ∃ message, findingAt o file place = some { d' with message := message }
  := by
  use check_eq_filterMap o file root, check_eq_filterMap o' file root
  rintro ⟨n, above⟩ - d' hd'
  rw [findingAt] at hd' ⊢
  split at hd'
  · rename_i hmeasured
    obtain ⟨message', hmessage', rfl⟩ := Option.map_eq_some_iff.mp hd'
    have hsome := message?_of_asksLess h (Option.isSome_of_eq_some hmessage')
    obtain ⟨message, hmessage⟩ := Option.isSome_iff_exists.mp hsome
    use message
    rw [if_pos (isMeasured_of_asksLess h hmeasured), hmessage]
    rfl
  · cases hd'

/-- One `if` statement in another that has an `else` clause. It nests too deep under the options
that ask less, and under the others it has an `else` clause too many. -/
theorem check_of_asksLess_nested_if :
  let o : Options := { maxElseDepth := 0 }
  let o' : Options := { enforceThrow := true, checkTernaries := false }
  let leaf (kind : String) : Node := .node { kind := some kind } []
  let inner : Node := .node { kind := some "if_statement" }
    [leaf "parenthesized_expression", leaf "return_statement"]
  let outer : Node := .node { kind := some "if_statement" }
    [leaf "parenthesized_expression", .node { kind := some "statement_block" } [inner],
      .node { kind := some "else_clause" } [leaf "statement_block"]]
  let root : Node := .node { kind := some "program" } [outer]
  let file := FileContext.single "a.ts" "" (some root)
  AsksLess o o'
  ∧ (outer, [root]) ∈ root.walk
  ∧ findingAt o' file (outer, [root])
    = some (about.finding file outer "Handle negative conditions first to reduce nesting"
      (some suggestion))
  ∧ ∃ message, findingAt o file (outer, [root])
    = some (about.finding file outer message (some suggestion))
  := by
  intro o o' leaf inner outer root file
  have hless : AsksLess o o' := by
    constructor <;> decide
  have hplace : (outer, [root]) ∈ root.walk := List.mem_cons_of_mem _ List.mem_cons_self
  have hfound : findingAt o' file (outer, [root])
      = some (about.finding file outer "Handle negative conditions first to reduce nesting"
        (some suggestion)) := by
    decide +kernel
  use hless, hplace, hfound
  exact (check_of_asksLess hless file root).2.2 _ hplace _ hfound

end SourceAudit.NegativeFirst
