import SourceAudit.Proofs.Rule.Relaxing
import SourceAudit.Proofs.SyntaxTree.Moved

/-!
# Conditionals that are not checked

The contents of arrow functions, of asynchronous functions and of generators, and of `try`
statements are not checked when the options say so. Of asynchronous functions and generators
this holds when they are declared; a function that is part of an expression, or a method, is
checked all the same.

* `isExempt_eq_false_iff`: when a conditional is not passed over.
* `check_of_switched_off`: options that switch checks off keep the findings with every check on
  that are outside of what is switched off, and no others.
-/

namespace SourceAudit.NegativeFirst

open Text Node

/-- The options with every check of a kind of function, and of `try` statements, on. -/
def Options.checkingAll (o : Options) : Options :=
  { o with
    checkArrowFunctions := true
    checkAsyncFunctions := true
    checkGenerators := true
    checkTryCatch := true }

/-- What is inside the node is checked under the options, so far as the node has a say in it. -/
structure IsChecked (o : Options) (source : Octets) (f : Node) : Prop where
  arrowFunctions : f.isA "arrow_function" = true → o.checkArrowFunctions = true
  asyncFunctions : f.isOneOf declarationKinds = true → f.isAsync source = true →
    o.checkAsyncFunctions = true
  generators : f.isOneOf declarationKinds = true → f.isGenerator = true →
    o.checkGenerators = true
  tryCatch : f.isA "try_statement" = true → o.checkTryCatch = true

theorem isChecked_iff {o : Options} {source : Octets} {f : Node} :
  IsChecked o source f
    ↔ isUncheckedFunction o source f = false
      ∧ (o.checkTryCatch = false → f.isA "try_statement" = false)
  := by
  rw [isUncheckedFunction]
  constructor
  · rintro ⟨harrow, hasync, hgenerator, htry⟩
    grind
  · rintro ⟨hfunction, htry⟩
    constructor <;> grind

section

variable {o : Options} {source : Octets} {above : List Node}

/-- A conditional is looked at when no `if` statement stands above it and all above it is
checked. -/
theorem isExempt_eq_false_iff :
  isExempt o source above = false
    ↔ (∀ a ∈ above, a.isA "if_statement" = false) ∧ ∀ f ∈ above, IsChecked o source f
  := by
  rw [isExempt, Bool.or_eq_false_iff, Bool.or_eq_false_iff, Bool.and_eq_false_iff,
    Bool.not_eq_false']
  simp only [List.any_eq_false, Bool.not_eq_true, isChecked_iff]
  constructor
  · rintro ⟨⟨hif, hfunction⟩, htry⟩
    refine ⟨hif, fun f hf => ⟨hfunction f hf, ?_⟩⟩
    intro hoff
    exact htry.resolve_left (by simp [hoff]) f hf
  · rintro ⟨hif, hchecked⟩
    refine ⟨⟨hif, fun f hf => (hchecked f hf).1⟩, ?_⟩
    cases hcatch : o.checkTryCatch with
    | true => exact .inl rfl
    | false => exact .inr fun f hf => (hchecked f hf).2 hcatch

end

/-! ### Findings -/

theorem isExempt_nil (o : Options) (source : Octets) :
  isExempt o source [] = false
  := by
  rw [isExempt_eq_false_iff]
  simp

/-- A conditional that is not passed over is judged as if nothing stood above it. -/
theorem findingAt_eq_ite (o : Options) (file : FileContext) (n : Node) (above : List Node) :
  findingAt o file (n, above)
    = if isExempt o file.octets above then none else findingAt o file (n, [])
  := by
  rw [findingAt, findingAt, message?, message?, isExempt_nil, if_neg Bool.false_ne_true]
  split_ifs <;> rfl

theorem findingAt_eq_some_iff {o : Options} {file : FileContext} {n : Node}
    {above : List Node} {d : Diagnostic} :
  findingAt o file (n, above) = some d
    ↔ ((∀ a ∈ above, a.isA "if_statement" = false)
        ∧ ∀ f ∈ above, IsChecked o file.octets f)
      ∧ findingAt o file (n, []) = some d
  := by
  rw [findingAt_eq_ite, ← isExempt_eq_false_iff]
  cases isExempt o file.octets above <;> simp

theorem isChecked_checkingAll (o : Options) (source : Octets) (f : Node) :
  IsChecked o.checkingAll source f
  := ⟨fun _ => rfl, fun _ _ => rfl, fun _ _ => rfl, fun _ => rfl⟩

/-- What is said about a conditional by itself does not depend on which checks are on. -/
theorem findingAt_checkingAll (o : Options) (file : FileContext) (n : Node) :
  findingAt o.checkingAll file (n, []) = findingAt o file (n, [])
  := by
  rw [findingAt, findingAt, message?, message?, isExempt_nil, isExempt_nil]
  rfl

/-- Options that switch checks off find what is found with every check on, save inside of what is
switched off: arrow functions, declared functions that are asynchronous, declared functions that
are generators, and `try` statements. No other function makes a difference. Inside of what is
switched off nothing is found, however deep. -/
theorem check_of_switched_off (o : Options) (file : FileContext) (root : Node) :
  check o file root = root.walk.filterMap (findingAt o file)
  ∧ (∀ n above d, (n, above) ∈ root.walk →
    (findingAt o file (n, above) = some d
      ↔ findingAt o.checkingAll file (n, above) = some d
        ∧ ∀ f ∈ above, IsChecked o file.octets f))
  ∧ ∀ f above n inner, (f, above) ∈ root.walk → ¬ IsChecked o file.octets f →
    (n, inner) ∈ f.walk → inner ≠ [] → findingAt o file (n, above ++ inner) = none
  := by
  refine ⟨check_eq_filterMap o file root, ?_, ?_⟩
  · intro n above d _
    have hall : ∀ f ∈ above, IsChecked o.checkingAll file.octets f :=
      fun f _ => isChecked_checkingAll o file.octets f
    rw [findingAt_eq_some_iff, findingAt_eq_some_iff (o := o.checkingAll),
      findingAt_checkingAll, and_iff_left hall]
    exact and_right_comm
  · intro f above n inner _ hoff hn hne
    rw [Option.eq_none_iff_forall_ne_some]
    intro d hd
    have hchecked := (findingAt_eq_some_iff.mp hd).1.2
    exact hoff (hchecked f (List.mem_append_right above (mem_of_mem_walk hn hne)))

/-! ### Functions that are not declared -/

/-- An `if` statement in an `if` statement. -/
def exampleNestedIf : Node :=
  .node { kind := some "if_statement" } [
    .node { kind := some "parenthesized_expression" } [],
    .node { kind := some "statement_block" } [
      .node { kind := some "if_statement" } [
        .node { kind := some "parenthesized_expression" } [],
        .node { kind := some "statement_block" } []]]]

/-- The block that holds the nested `if` statements. -/
def exampleBody : Node :=
  .node { kind := some "statement_block" } [exampleNestedIf]

/-- A function of some kind, marked with a token, around the block. -/
def exampleFunction (kind token : String) : Node :=
  .node { kind := some kind } [.node { kind := some token, named := false } [], exampleBody]

/-- An asynchronous arrow function and a method that is a generator are checked even with these
checks off. -/
theorem check_of_arrow_and_method :
  let o : Options := { checkAsyncFunctions := false, checkGenerators := false }
  let arrow := exampleFunction "arrow_function" "async"
  let method := exampleFunction "method_definition" "*"
  let root : Node := .node { kind := some "program" } [arrow, method]
  let file := FileContext.single "a.ts" "" (some root)
  arrow.isOneOf functionKinds = true ∧ arrow.isAsync file.octets = true
    ∧ (exampleNestedIf, [root, arrow, exampleBody]) ∈ root.walk
    ∧ (findingAt o file (exampleNestedIf, [root, arrow, exampleBody])).isSome = true
    ∧ method.isOneOf functionKinds = true ∧ method.isGenerator = true
    ∧ (exampleNestedIf, [root, method, exampleBody]) ∈ root.walk
    ∧ (findingAt o file (exampleNestedIf, [root, method, exampleBody])).isSome = true
  := by
  intro o arrow method root file
  have hbody : (exampleNestedIf, [exampleBody]) ∈ exampleBody.walk :=
    mem_walk_of_mem_children List.mem_cons_self
  have hinside : ∀ f, f ∈ root.children → exampleBody ∈ f.children →
      (exampleNestedIf, [root, f, exampleBody]) ∈ root.walk := fun f hf hbody' =>
    mem_walk_of_mem_walk (mem_walk_of_mem_children hf)
      (mem_walk_of_mem_walk (mem_walk_of_mem_children hbody') hbody)
  have harrow := hinside arrow List.mem_cons_self (List.mem_cons_of_mem _ List.mem_cons_self)
  have hmethod := hinside method (List.mem_cons_of_mem _ List.mem_cons_self)
    (List.mem_cons_of_mem _ List.mem_cons_self)
  exact ⟨by decide, by decide +kernel, harrow, by decide +kernel, by decide, by decide +kernel,
    hmethod, by decide +kernel⟩

end SourceAudit.NegativeFirst
