import SourceAudit.Rule.Basic

/-!
# Labels of queries

Checks the `prometheusLabels` of a query configuration: an object with a `query` or a
`label` that is a string and not empty.
-/

namespace SourceAudit.PrometheusLabels

open Text

def about : RuleMeta where
  id := "prometheus-label-config"
  title := "Valid prometheusLabels configuration"
  description := "Enforce that `prometheusLabels` in query configs is an object with a "
    ++ "non-empty string `query` or `label`."
  severity := .error

/-- What is wrong with labels. -/
inductive Complaint where
  | notObject
  | noIdentifier
  | emptyIdentifier
  | notString
  deriving DecidableEq, Repr

def Complaint.message : Complaint → String
  | .notObject => "prometheusLabels must be an object"
  | .noIdentifier => "prometheusLabels must contain either a 'query' or 'label' property"
  | .emptyIdentifier => "prometheusLabels.query or prometheusLabels.label cannot be empty"
  | .notString => "prometheusLabels.query or prometheusLabels.label must be a string"

/-- The first pair of an object whose key is one of some names. -/
def pairNamed? (source : Octets) (names : List String) (object : Node) : Option Node :=
  object.pairs.find? fun p =>
    match p.pairKey source with
    | some key => names.contains key
    | none => false

/-- What is wrong with an identifying value. -/
def identifierFault? (source : Octets) (n : Node) : Option (Complaint × Node) :=
  if n.isOneOf ["number", "true", "false", "null", "regex"] then some (.notString, n)
  else if n.isA "string" && ["\"\"", "''"].contains (n.textIn source) then
    some (.emptyIdentifier, n)
  else none

/-- What is wrong with the value of the labels. -/
def labelsFault? (source : Octets) (n : Node) : Option (Complaint × Node) :=
  if !n.isA "object" then some (.notObject, n)
  else
    match pairNamed? source ["query", "label"] n with
    | none => some (.noIdentifier, n)
    | some pair => pair.pairValue.bind (identifierFault? source)

/-- What is wrong with the labels of an object, and the node at fault. -/
def objectFault? (source : Octets) (object : Node) : Option (Complaint × Node) :=
  match pairNamed? source ["prometheusLabels"] object with
  | some pair => pair.pairValue.bind (labelsFault? source)
  | none => none

/-- The faults of a tree in order. -/
def faults (source : Octets) (root : Node) : List (Complaint × Node) :=
  root.nodes.filterMap fun n => if n.isA "object" then objectFault? source n else none

/-- The findings in a file whose tree has a given root. -/
def check (file : FileContext) (root : Node) : List Diagnostic :=
  (faults file.octets root).map fun (complaint, n) => about.finding file n complaint.message

end SourceAudit.PrometheusLabels
