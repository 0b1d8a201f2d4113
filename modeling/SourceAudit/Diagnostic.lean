import SourceAudit.Path

/-!
# Diagnostics

A diagnostic is a finding of a rule about a place in a file, about a file, or about the
whole project. A file whose directives cannot be read is a failure. A summary holds
both, with the number of files that were examined.
-/

namespace SourceAudit

/-- How serious a diagnostic is. -/
inductive Severity where
  | error
  | warn
  | info
  /-- A severity of a rule that follows a scale of its own. -/
  | other (name : String)
  deriving DecidableEq, Repr

/-- The severity with a given name. -/
def Severity.ofName : String → Severity
  | "error" => .error
  | "warn" => .warn
  | "info" => .info
  | name => .other name

def Severity.name : Severity → String
  | .error => "error"
  | .warn => "warn"
  | .info => "info"
  | .other name => name

/-- The rank of a severity; one of another scale ranks lowest. -/
def Severity.rank : Severity → Nat
  | .error => 2
  | .warn => 1
  | _ => 0

/-- A place in a file. Lines and columns count from one. -/
structure Location where
  path : Option Path := none
  startLine : Option Int := none
  startColumn : Option Int := none
  endLine : Option Int := none
  endColumn : Option Int := none
  deriving DecidableEq, Repr

/-- A finding. -/
structure Diagnostic where
  rule : Option String
  severity : Severity
  message : String
  suggestion : Option String := none
  location : Option Location := none
  deriving DecidableEq, Repr

/-- The file a diagnostic is located in. -/
def Diagnostic.path (d : Diagnostic) : Option Path :=
  d.location.bind (·.path)

/-- The line a diagnostic is located at. -/
def Diagnostic.line (d : Diagnostic) : Option Int :=
  d.location.bind (·.startLine)

/-- The column a diagnostic is located at. -/
def Diagnostic.column (d : Diagnostic) : Option Int :=
  d.location.bind (·.startColumn)

/-- A file that was not examined because of a directive in it. -/
structure Failure where
  path : Path
  error : String
  line : Option Int
  deriving DecidableEq, Repr

/-- What an audit found. -/
structure Summary where
  examined : Int
  diagnostics : List Diagnostic
  failures : List Failure := []
  deriving DecidableEq, Repr

namespace Summary

/-- The number of diagnostics of one severity. -/
def count (s : Summary) (severity : Severity) : Nat :=
  s.diagnostics.countP fun d => d.severity = severity

/-- Whether some diagnostic ranks at least as high as a severity. -/
def reaches (s : Summary) (severity : Severity) : Bool :=
  s.diagnostics.any fun d => severity.rank ≤ d.severity.rank

end Summary

end SourceAudit
