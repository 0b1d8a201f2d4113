import SourceAudit.Rule.Basic

/-!
# Negative conditions first

Finds conditionals that nest where guard clauses would do. Only outermost `if`
statements are measured, for those inside one count towards it, and conditional
expressions when they are to be checked.
-/

namespace SourceAudit.NegativeFirst

open Text

/-- What can be set for the rule. -/
structure Options where
  maxNestingDepth : Nat := 1
  enforceThrow : Bool := false
  allowSingleNesting : Bool := false
  checkArrowFunctions : Bool := true
  checkAsyncFunctions : Bool := true
  checkGenerators : Bool := true
  checkTernaries : Bool := true
  checkTryCatch : Bool := true
  enforceEarlyReturn : Bool := false
  maxElseDepth : Nat := 2
  deriving DecidableEq, Repr

namespace Options

/-- The options under their names. -/
def toEntries (o : Options) : Entries := [
  ("max_nesting_depth", .int o.maxNestingDepth),
  ("enforce_throw", .bool o.enforceThrow),
  ("allow_single_nesting", .bool o.allowSingleNesting),
  ("check_arrow_functions", .bool o.checkArrowFunctions),
  ("check_async_functions", .bool o.checkAsyncFunctions),
  ("check_generators", .bool o.checkGenerators),
  ("check_ternaries", .bool o.checkTernaries),
  ("check_try_catch", .bool o.checkTryCatch),
  ("enforce_early_return", .bool o.enforceEarlyReturn),
  ("max_else_depth", .int o.maxElseDepth)]

/-- The options with given names. -/
def ofEntries (values : Entries) : Options where
  maxNestingDepth := optionNat values "max_nesting_depth"
  enforceThrow := optionBool values "enforce_throw"
  allowSingleNesting := optionBool values "allow_single_nesting"
  checkArrowFunctions := optionBool values "check_arrow_functions"
  checkAsyncFunctions := optionBool values "check_async_functions"
  checkGenerators := optionBool values "check_generators"
  checkTernaries := optionBool values "check_ternaries"
  checkTryCatch := optionBool values "check_try_catch"
  enforceEarlyReturn := optionBool values "enforce_early_return"
  maxElseDepth := optionNat values "max_else_depth"

end Options

def about : RuleMeta where
  id := "handle-negative-first"
  title := "Handle negative conditions first"
  description :=
    "Enforce handling negative conditions first (guard clauses) to reduce nesting."
  severity := .warn

/-! ### Parts of conditionals -/

/-- What an `if` statement does when its condition holds. -/
def consequence? (n : Node) : Option Node :=
  match n.parts[1]? with
  | some part => if part.isA "else_clause" then none else some part
  | none => none

/-- What the last `else` clause of an `if` statement does. -/
def alternative? (n : Node) : Option Node :=
  match (n.parts.filter (·.isA "else_clause")).getLast? with
  | some clause => clause.parts.head?
  | none => none

/-- What a conditional expression is when its condition holds. -/
def whenTrue? (n : Node) : Option Node :=
  n.parts[1]?

/-- What a conditional expression is when its condition does not hold. -/
def whenFalse? (n : Node) : Option Node :=
  n.parts[2]?

theorem sizeOf_consequence? {n c : Node} (h : consequence? n = some c) :
  sizeOf c < sizeOf n
  := by
  unfold consequence? at h
  split at h
  · rename_i part hpart
    split at h
    · simp at h
    · simp only [Option.some.injEq] at h
      subst h
      exact Node.sizeOf_lt_of_mem_parts (List.mem_of_getElem? hpart)
  · simp at h

theorem sizeOf_alternative? {n c : Node} (h : alternative? n = some c) :
  sizeOf c < sizeOf n
  := by
  unfold alternative? at h
  split at h
  · rename_i clause hclause
    have hmem := (List.mem_filter.mp (List.mem_of_getLast? hclause)).1
    have hlt := Node.sizeOf_lt_of_mem_parts hmem
    have hlt' := Node.sizeOf_lt_of_mem_parts (List.mem_of_mem_head? h)
    omega
  · simp at h

theorem sizeOf_whenTrue? {n c : Node} (h : whenTrue? n = some c) :
  sizeOf c < sizeOf n
  :=
  Node.sizeOf_lt_of_mem_parts (List.mem_of_getElem? h)

theorem sizeOf_whenFalse? {n c : Node} (h : whenFalse? n = some c) :
  sizeOf c < sizeOf n
  :=
  Node.sizeOf_lt_of_mem_parts (List.mem_of_getElem? h)

theorem sizeOf_head?_parts {n c : Node} (h : n.parts.head? = some c) :
  sizeOf c < sizeOf n
  :=
  Node.sizeOf_lt_of_mem_parts (List.mem_of_mem_head? h)

theorem sizeOf_pairValue {n c : Node} (h : n.pairValue = some c) :
  sizeOf c < sizeOf n
  := by
  unfold Node.pairValue at h
  split at h
  · rename_i first second rest hparts
    apply Node.sizeOf_lt_of_mem_parts
    rw [hparts]
    exact List.mem_cons_of_mem _ (List.mem_of_getLast? h)
  · simp at h

/-! ### Measures

The measures follow a tree as deep as it goes; how deep calls may be nested in the program
that is measuring is no part of them.
-/

/-- How deep conditionals nest in a node, following the branches of conditionals, the
statements of blocks, and what is returned, parenthesised or assigned. -/
def nesting (ternaries : Bool) (n : Node) : Nat :=
  if n.isA "if_statement" then
    let inner := match _h : consequence? n with
      | some c => nesting ternaries c
      | none => 0
    let other := match _h : alternative? n with
      | some c => nesting ternaries c
      | none => 0
    max (1 + inner) other
  else if n.isOneOf ternaryKinds && ternaries then
    let inner := match _h : whenTrue? n with
      | some c => nesting ternaries c
      | none => 0
    let other := match _h : whenFalse? n with
      | some c => nesting ternaries c
      | none => 0
    max (1 + inner) (1 + other)
  else if n.isA "statement_block" then
    (n.parts.attach.map fun ⟨c, _⟩ => nesting ternaries c).foldl max 0
  else if n.isOneOf ["return_statement", "parenthesized_expression"] then
    match _h : n.parts.head? with
    | some c => nesting ternaries c
    | none => 0
  else if n.isOneOf ["assignment_pattern", "pair"] then
    match _h : n.pairValue with
    | some c => nesting ternaries c
    | none => 0
  else 0
  termination_by sizeOf n
  decreasing_by
    all_goals first
      | exact sizeOf_consequence? _h
      | exact sizeOf_alternative? _h
      | exact sizeOf_whenTrue? _h
      | exact sizeOf_whenFalse? _h
      | exact sizeOf_head?_parts _h
      | exact sizeOf_pairValue _h
      | (apply Node.sizeOf_lt_of_mem_parts; assumption)

/-- How many `else` clauses follow one another below a chain of `if` statements. -/
def elseDepth (n : Node) : Nat :=
  if n.isA "if_statement" then
    match _h : alternative? n with
    | some c => 1 + elseDepth c
    | none => 0
  else 0
  termination_by sizeOf n
  decreasing_by exact sizeOf_alternative? _h

/-- Whether a branch of the node throws. -/
def throws (n : Node) : Bool :=
  if n.isA "throw_statement" then true
  else if n.isA "if_statement" then
    let inner := match _h : consequence? n with
      | some c => throws c
      | none => false
    let other := match _h : alternative? n with
      | some c => throws c
      | none => false
    inner || other
  else if n.isOneOf ternaryKinds then
    let inner := match _h : whenTrue? n with
      | some c => throws c
      | none => false
    let other := match _h : whenFalse? n with
      | some c => throws c
      | none => false
    inner || other
  else if n.isA "statement_block" then
    n.parts.attach.any fun ⟨c, _⟩ => throws c
  else false
  termination_by sizeOf n
  decreasing_by
    all_goals first
      | exact sizeOf_consequence? _h
      | exact sizeOf_alternative? _h
      | exact sizeOf_whenTrue? _h
      | exact sizeOf_whenFalse? _h
      | (apply Node.sizeOf_lt_of_mem_parts; assumption)

/-! ### Findings -/

/-- The kinds of function declarations. -/
def declarationKinds : List String :=
  ["function_declaration", "generator_function_declaration"]

/-- Whether a function around a conditional is of a kind that is not checked. -/
def isUncheckedFunction (o : Options) (source : Octets) (f : Node) : Bool :=
  (f.isA "arrow_function" && !o.checkArrowFunctions)
    || (f.isOneOf declarationKinds
      && ((!o.checkAsyncFunctions && f.isAsync source)
        || (!o.checkGenerators && f.isGenerator)))

/-- Whether a conditional is passed over because of a node above it. -/
def isExempt (o : Options) (source : Octets) (above : List Node) : Bool :=
  above.any (·.isA "if_statement")
    || above.any (isUncheckedFunction o source)
    || (!o.checkTryCatch && above.any (·.isA "try_statement"))

/-- What is said about the `else` clauses of an `if` statement. -/
def elseMessage? (o : Options) (n : Node) : Option String :=
  if !n.isA "if_statement" then none
  else if o.maxElseDepth < elseDepth n then
    some ("Too many else-if statements, maximum allowed is " ++ natText o.maxElseDepth)
  else if o.enforceEarlyReturn && (alternative? n).isSome then
    some "Use early return instead of else block"
  else none

/-- Whether a conditional nests more than the options allow. -/
def nestsTooDeep (o : Options) (n : Node) : Bool :=
  let nested : Int := (nesting o.checkTernaries n : Int) - 1
  !(o.allowSingleNesting && nested ≤ 1) && (o.maxNestingDepth : Int) ≤ nested
    && !(o.enforceThrow && throws n)

/-- What is said about a conditional. -/
def message? (o : Options) (source : Octets) (n : Node) (above : List Node) : Option String :=
  if isExempt o source above then none
  else
    match elseMessage? o n with
    | some message => some message
    | none =>
      if nestsTooDeep o n then some "Handle negative conditions first to reduce nesting" else none

/-- Whether the node is a conditional that is measured. -/
def isMeasured (o : Options) (n : Node) : Bool :=
  n.isA "if_statement" || (n.isOneOf ternaryKinds && o.checkTernaries)

def suggestion : String :=
  "Return or throw early for the failing case, then handle the main path unindented."

/-- The nodes that are found fault with, and what is said about each. -/
def faults (o : Options) (source : Octets) (root : Node) : List (Node × String) :=
  root.walk.filterMap fun (n, above) =>
    if isMeasured o n then (message? o source n above).map (n, ·) else none

/-- The findings in a file whose tree has a given root. -/
def check (o : Options) (file : FileContext) (root : Node) : List Diagnostic :=
  (faults o file.octets root).map fun (n, message) =>
    about.finding file n message (some suggestion)

end SourceAudit.NegativeFirst
