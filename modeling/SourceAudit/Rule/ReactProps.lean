import SourceAudit.Rule.Basic

/-!
# Complex props

Finds object literals in markup attributes that had better be made in a helper: those
with too many members, and those whose values hold conditional expressions, template
strings or calls. In an element inside another element one member less is allowed.
-/

namespace SourceAudit.ReactProps

open Text

/-- What can be set for the rule. -/
structure Options where
  maxInlineProps : Nat := 2
  maxTernaryOperations : Nat := 1
  ignoreProps : List String := []
  deriving DecidableEq, Repr

namespace Options

/-- The options under their names. -/
def toEntries (o : Options) : Entries := [
  ("max_inline_props", .int o.maxInlineProps),
  ("max_ternary_operations", .int o.maxTernaryOperations),
  ("ignore_props", .list (o.ignoreProps.map .text))]

/-- The options with given names. -/
def ofEntries (values : Entries) : Options where
  maxInlineProps := optionNat values "max_inline_props"
  maxTernaryOperations := optionNat values "max_ternary_operations"
  ignoreProps := optionTexts values "ignore_props"

end Options

def about : RuleMeta where
  id := "react-props-helper"
  title := "Extract complex props into a helper"
  description :=
    "Enforce using helper functions for complex object literals passed as JSX props."
  severity := .warn

/-! ### Measures -/

/-- How many nodes of the kinds that make a value complex it holds. -/
structure Complexity where
  ternaries : Nat := 0
  templates : Nat := 0
  calls : Nat := 0
  deriving DecidableEq, Repr

def Complexity.add (a b : Complexity) : Complexity :=
  ⟨a.ternaries + b.ternaries, a.templates + b.templates, a.calls + b.calls⟩

/-- What a node of some kind adds by itself. -/
def ownComplexity (kind : Option String) : Complexity :=
  match kind with
  | some "ternary_expression" => { ternaries := 1 }
  | some "conditional_expression" => { ternaries := 1 }
  | some "template_string" => { templates := 1 }
  | some "call_expression" => { calls := 1 }
  | _ => {}

mutual

/-- What a value holds outside the functions in it. -/
def measure : Node → Complexity
  | .node label children =>
    if (Node.node label children).isOneOf functionKinds then ownComplexity label.kind
    else (ownComplexity label.kind).add (measureAll children)

/-- What some values hold together. -/
def measureAll : List Node → Complexity
  | [] => {}
  | n :: rest => (measure n).add (measureAll rest)

end

/-- The kinds of members of an object literal. -/
def memberKinds : List String :=
  ["pair", "shorthand_property_identifier", "spread_element", "method_definition"]

/-- The members of an object literal. -/
def members (object : Node) : List Node :=
  object.parts.filter (·.isOneOf memberKinds)

/-- The values of the pairs of an object literal. -/
def pairValues (object : Node) : List Node :=
  ((members object).filter (·.isA "pair")).filterMap Node.pairValue

/-- Whether an object literal is complex, given how many members and conditional
expressions it may have. -/
def isComplex (maxMembers maxTernaries : Nat) (object : Node) : Bool :=
  let count := (members object).length
  let found := measureAll (pairValues object)
  maxMembers < count || maxTernaries < found.ternaries || 0 < found.templates
    || (0 < found.calls && 1 < count)

/-! ### Attributes -/

/-- The name of an attribute. -/
def attributeName? (source : Octets) (attr : Node) : Option String :=
  (attr.children.find? fun c =>
    c.isOneOf ["property_identifier", "jsx_namespace_name", "identifier"]).map (·.textIn source)

/-- The object literal of an expression in braces. -/
def bracedObject? (expression : Node) : Option Node :=
  if expression.isA "jsx_expression" then
    match expression.parts with
    | inner :: _ => if inner.isA "object" then some inner else none
    | [] => none
  else none

/-- The object literal that is the value of an attribute. -/
def objectValue? (attr : Node) : Option Node :=
  attr.parts.findSome? bracedObject?

/-- Whether the element of an attribute is inside another element, given the nodes above
the attribute. -/
def isNested (above : List Node) : Bool :=
  let elements := above.countP (·.isA "jsx_element")
  let own := match above.getLast? with
    | some n => if n.isA "jsx_opening_element" then 1 else 0
    | none => 0
  own < elements

/-- How many members an object literal may have. -/
def memberLimit (o : Options) (above : List Node) : Nat :=
  if isNested above then max 1 (o.maxInlineProps - 1) else o.maxInlineProps

/-- The object literal of an attribute, when it is found fault with. -/
def fault? (o : Options) (source : Octets) (n : Node) (above : List Node) : Option Node :=
  if !n.isA "jsx_attribute" then none
  else if (attributeName? source n).any o.ignoreProps.contains then none
  else
    match objectValue? n with
    | some object =>
      if isComplex (memberLimit o above) o.maxTernaryOperations object then some object else none
    | none => none

/-- The object literals that are found fault with. -/
def faults (o : Options) (source : Octets) (root : Node) : List Node :=
  root.walk.filterMap fun (n, above) => fault? o source n above

/-- The findings in a file whose tree has a given root. -/
def check (o : Options) (file : FileContext) (root : Node) : List Diagnostic :=
  (faults o file.octets root).map fun n =>
    about.finding file n "Complex props should be extracted into a helper function"
      (some "Build the object in a named helper (or a memoized value) and pass the result.")

end SourceAudit.ReactProps
