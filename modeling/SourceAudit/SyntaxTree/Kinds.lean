import SourceAudit.SyntaxTree.Basic
import SourceAudit.Text.Search

/-!
# Kinds of nodes

The kinds that rules look for: functions, conditional expressions, and the pairs of an
object literal with their keys and values.
-/

namespace SourceAudit

open Text

/-- The kinds of functions. -/
def functionKinds : List String := [
  "function_declaration", "generator_function_declaration", "function", "function_expression",
  "generator_function", "arrow_function", "method_definition"]

/-- The kinds of conditional expressions. -/
def ternaryKinds : List String :=
  ["ternary_expression", "conditional_expression"]

namespace Node

/-- Whether a function is asynchronous: it has the keyword as a child, or its text
begins with it. -/
def isAsync (source : Octets) (n : Node) : Bool :=
  n.children.any (·.isA "async")
    || startsWith "async".toList (trimLeft (n.textIn source).toList)

/-- Whether a function is a generator: its kind says so, or it has a star as a child. -/
def isGenerator (n : Node) : Bool :=
  mentions "generator" (n.kind.getD "") || n.children.any (·.isA "*")

/-- The pairs of an object literal. -/
def pairs (n : Node) : List Node :=
  n.parts.filter (·.isA "pair")

/-- The key of a pair when it is a plain identifier. -/
def pairKey (source : Octets) (n : Node) : Option String :=
  match n.parts with
  | key :: _ => if key.isA "property_identifier" then some (key.textIn source) else none
  | [] => none

/-- The value of a pair. -/
def pairValue (n : Node) : Option Node :=
  match n.parts with
  | _ :: second :: rest => (second :: rest).getLast?
  | _ => none

end Node

end SourceAudit
