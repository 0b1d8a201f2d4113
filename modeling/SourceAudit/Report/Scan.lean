import SourceAudit.Diagnostic
import SourceAudit.Disk
import SourceAudit.Terminal.Screen
import SourceAudit.Value.Json

/-!
# Reports of audits

The summary of an audit as JSON, and as a screen. On the screen the diagnostics are
grouped by file; those that belong to no file come first. In a group they stand by line,
then the most severe first, then by rule, each with the line of the file it points at.
-/

namespace SourceAudit

open Text Terminal

/-- The version of the program, as reports name it. -/
def programVersion : String := "0.3.0"

namespace Report

/-- A text that may be absent, as a value. -/
def optionalText : Option String → Value
  | some s => .text s
  | none => .null

/-- A number that may be absent, as a value. -/
def optionalInt : Option Int → Value
  | some n => .int n
  | none => .null

/-! ### As JSON -/

/-- A place as a value, unless it lies in no file. -/
def locationValue (cwd root : Path) (l : Location) : Value :=
  match l.path with
  | none => .null
  | some path => .table [
      ("path", .text (path.shown cwd root)),
      ("start_line", optionalInt l.startLine), ("start_col", optionalInt l.startColumn),
      ("end_line", optionalInt l.endLine), ("end_col", optionalInt l.endColumn)]

def diagnosticValue (cwd root : Path) (d : Diagnostic) : Value :=
  .table [
    ("rule_id", optionalText d.rule), ("severity", .text d.severity.name),
    ("message", .text d.message), ("suggestion", optionalText d.suggestion),
    ("location", (d.location.map (locationValue cwd root)).getD .null)]

def failureValue (cwd root : Path) (f : Failure) : Value :=
  .table [
    ("path", .text (f.path.shown cwd root)), ("line", optionalInt f.line),
    ("error", .text f.error)]

/-- The summary of an audit as a value. -/
def summaryValue (cwd root : Path) (s : Summary) : Value :=
  let counts := [Severity.error, .warn, .info].map fun severity =>
    (severity.name, Value.int (s.count severity))
  .table [
    ("schema_version", .int 1),
    ("tool", .table [("name", .text "Avesta"), ("version", .text programVersion)]),
    ("files_scanned", .int s.examined),
    ("counts", .table counts),
    ("diagnostics", .list (s.diagnostics.map (diagnosticValue cwd root))),
    ("failures", .list (s.failures.map (failureValue cwd root)))]

/-- The summary of an audit as JSON, if its numbers can be written out. -/
def scanJson (cwd root : Path) (s : Summary) : Option String :=
  Json.spread? (summaryValue cwd root s)

/-! ### As a screen -/

/-- The sign of a severity. -/
def severitySign : Severity → Char
  | .error => '✖'
  | .warn => '⚠'
  | .info => 'ℹ'
  | .other _ => '•'

/-- The place of a severity among others in a group. -/
def severityPlace : Severity → Nat
  | .error => 0
  | .warn => 1
  | .info => 2
  | .other _ => 3

/-- The name of the group of diagnostics that belong to no file. -/
def projectGroup : String := "(project)"

/-- The group of a diagnostic. -/
def groupOf (cwd root : Path) (d : Diagnostic) : String :=
  match d.path with
  | some path => path.shown cwd root
  | none => projectGroup

/-- Whether a group comes before another one or equals it. -/
def groupLe (g h : String) : Bool :=
  g = projectGroup || (h ≠ projectGroup && textLe g h)

/-- Whether a diagnostic comes before another one of its group or is level with it. -/
def inGroupLe (d e : Diagnostic) : Bool :=
  let line (d : Diagnostic) := d.line.getD 0
  let rule (d : Diagnostic) := d.rule.getD ""
  if line d ≠ line e then line d ≤ line e
  else if severityPlace d.severity ≠ severityPlace e.severity then
    severityPlace d.severity ≤ severityPlace e.severity
  else textLe (rule d) (rule e)

/-- The groups in order, each with its diagnostics in order. -/
def groups (cwd root : Path) (ds : List Diagnostic) : List (String × List Diagnostic) :=
  let names := (distinct (ds.map (groupOf cwd root))).mergeSort groupLe
  names.map fun name => (name, (ds.filter (groupOf cwd root · = name)).mergeSort inGroupLe)

/-- The text with blanks before it up to a number of characters. -/
def rightAligned (n : Nat) (s : String) : String :=
  String.ofList (List.replicate (n - s.length) ' ') ++ s

/-- The text with blanks after it up to a number of characters. -/
def leftAligned (n : Nat) (s : String) : String :=
  s ++ String.ofList (List.replicate (n - s.length) ' ')

/-- The column of a diagnostic as it is shown; a missing one is the first. -/
def shownColumn (d : Diagnostic) : Int :=
  let column := d.column.getD 1
  if column = 0 then 1 else column

/-- The line and column of a diagnostic, nothing if it has no line. There is no text for
numbers that cannot be written out. -/
def position (d : Diagnostic) : Option String :=
  match d.line with
  | none => some ""
  | some line => do
    let line ← intText? line
    let column ← intText? (shownColumn d)
    return line ++ ":" ++ column

/-- The line of a file that a diagnostic points at. -/
def sourceLine? (lines : List String) (d : Diagnostic) : Option String :=
  d.line.bind fun line => if 0 < line then lines[line.toNat - 1]? else none

/-- What stands before the lines under a diagnostic. -/
def underIndent : String := "           "

/-- A rule's name as it is shown. -/
def shownRule (d : Diagnostic) : String :=
  match d.rule with
  | some rule => if rule = "" then "(no rule)" else rule
  | none => "(no rule)"

/-- The first line of a diagnostic, given its line and column as they are shown. -/
def headText (place : String) (d : Diagnostic) : String :=
  "  " ++ rightAligned 7 place ++ "  "
    ++ String.ofList [severitySign d.severity] ++ " " ++ leftAligned 5 d.severity.name
    ++ "  " ++ d.message ++ "  " ++ shownRule d

/-- What is printed of a diagnostic, given the lines of its file. -/
def diagnosticPrints (lines : List String) (d : Diagnostic) : List (Option Screen) :=
  let head := (position d).map fun place => paragraph (headText place d)
  let source := match sourceLine? lines d with
    | some line => [pictureParagraph (underIndent ++ "│ " ++ line)]
    | none => []
  let suggestion := match d.suggestion with
    | some s => if s = "" then [] else [pictureParagraph (underIndent ++ "→ " ++ s)]
    | none => []
  head :: (source ++ suggestion).map some

/-- The lines of a group's file; there are none when it cannot be read. -/
def groupLines (disk : Disk) (root : Path) (group : String) : List String :=
  if group = projectGroup then []
  else
    match disk.readText (root ++ Path.ofText group) with
    | .ok text => (boundaryLines text.toList).map String.ofList
    | .error _ => []

/-- What is printed of a group, with an empty line at the end. -/
def groupPrints (disk : Disk) (root : Path) (group : String × List Diagnostic) :
    List (Option Screen) :=
  let (name, ds) := group
  some (paragraph (name ++ "  " ++ natText ds.length))
    :: ds.flatMap (diagnosticPrints (groupLines disk root name))
    ++ [some [[]]]

/-- Where a failure lies: its file, and its line if there is one that can be written out. -/
def failurePlace (cwd root : Path) (f : Failure) : Option String :=
  let place := f.path.shown cwd root
  match f.line with
  | some line => (intText? line).map (place ++ ":" ++ ·)
  | none => some place

/-- What is printed of a failure. -/
def failurePrint (cwd root : Path) (f : Failure) : Option Screen :=
  (failurePlace cwd root f).map fun place => paragraph ("  ✖ " ++ place ++ "  " ++ f.error)

/-- What is printed of failures: nothing, or a heading, the failures and an empty line. -/
def failuresPrints (cwd root : Path) (failures : List Failure) : List (Option Screen) :=
  if failures.isEmpty then []
  else
    some (paragraph "Skipped (malformed directives)") :: failures.map (failurePrint cwd root)
      ++ [some [[]]]

/-- How many findings there are of each kind, in words. -/
def totals (s : Summary) : String :=
  natText (s.count .error) ++ " error(s), " ++ natText (s.count .warn) ++ " warning(s), "
    ++ natText (s.count .info) ++ " info"
    ++ if s.failures.isEmpty then "" else ", " ++ natText s.failures.length ++ " file(s) skipped"

/-- What is printed of the summary of an audit. -/
def scanPrints (disk : Disk) (root : Path) (s : Summary) : List (Option Screen) :=
  let title := (intText? s.examined).map fun examined =>
    panel none (some ("Scanned " ++ examined ++ " files").toList)
      (paragraphIn panelWidth ("Avesta v" ++ programVersion))
  title :: (groups disk.cwd root s.diagnostics).flatMap (groupPrints disk root)
    ++ failuresPrints disk.cwd root s.failures
    ++ [some [ruleLine], some (paragraph (totals s))]

/-- The summary of an audit as a screen, up to the first number that cannot be written
out. -/
def scanScreen (disk : Disk) (root : Path) (s : Summary) : Printout :=
  printAll (scanPrints disk root s)

end Report

end SourceAudit
