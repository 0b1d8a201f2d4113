import SourceAudit.Report.Scan
import SourceAudit.Rule.Example
import SourceAudit.Rule.Registry
import SourceAudit.Terminal.Table

/-!
# Reports of rules

The rules of a project as a list, and one rule with how to turn it off, how to set it and
an example, both as JSON and as a screen.
-/

namespace SourceAudit.Report

open Text Terminal

/-- Why rules cannot be shown on a screen. -/
inductive RulesReportFault where
  /-- A rule that is enabled has a severity that no colour stands for. -/
  | unknownSeverity (name : String)
  | markup (fault : MarkupFault)
  deriving DecidableEq, Repr

/-! ### As JSON -/

/-- What is said of a rule, entry by entry. -/
def ruleEntries (s : RuleSummary) : Entries := [
  ("rule_id", .text s.about.id), ("title", .text s.about.title),
  ("description", .text s.about.description),
  ("default_severity", .text s.about.severity.name), ("severity", .text s.severity.name),
  ("enabled", .bool s.enabled), ("languages", .list (s.about.languages.map .text))]

/-- Rules as JSON. -/
def rulesJson (summaries : List RuleSummary) : String :=
  Json.spread (.list (summaries.map fun s => .table (ruleEntries s)))

/-- An example as a value. -/
def exampleValue (e : RuleExample) : Value :=
  .table [
    ("language", .text e.language), ("bad", .text e.flagged),
    ("good", optionalText e.preferred), ("notes", optionalText e.notes)]

/-- The example of a rule. -/
def exampleOf? (s : RuleSummary) : Option RuleExample :=
  ruleExamples.lookup s.about.id

/-- One rule as JSON. -/
def ruleJson (s : RuleSummary) : String :=
  Json.spread
    (.table (ruleEntries s ++ [("example", ((exampleOf? s).map exampleValue).getD .null)]))

/-! ### As a screen -/

/-- The severity of a rule as it is shown. -/
def shownSeverity (s : RuleSummary) : String :=
  if s.enabled then s.severity.name else "off"

/-- The first enabled rule's severity that no colour stands for. -/
def colourless? (summaries : List RuleSummary) : Option String :=
  summaries.findSome? fun s =>
    match s.severity with
    | .other name => if s.enabled then some name else none
    | _ => none

/-- The cells of a rule. -/
def ruleRow (s : RuleSummary) : Except MarkupFault Row := do
  let id ← shownLabel s.about.id
  let languages ← shownLabel (joinWith ", " s.about.languages)
  let title ← shownLabel s.about.title
  return [id, (shownSeverity s).toList, languages, title].map withoutControls

/-- The columns of the table of rules. -/
def ruleColumns : List Column := [
  { heading := "Rule", keepWhole := true }, { heading := "Severity" },
  { heading := "Languages" }, { heading := "Title" }]

/-- Rules as a table on a screen. -/
def rulesScreen (summaries : List RuleSummary) : Except RulesReportFault Screen :=
  match colourless? summaries with
  | some name => .error (.unknownSeverity name)
  | none =>
    match summaries.mapM ruleRow with
    | .error fault => .error (.markup fault)
    | .ok rows => .ok (Table.shown ⟨"Avesta rules".toList, ruleColumns, rows⟩)

/-- What a rule is, as a text. -/
def ruleFacts (s : RuleSummary) : String :=
  joinWith "\n" [
    s.about.title, "", s.about.description, "",
    "severity  " ++ shownSeverity s ++ " (default " ++ s.about.severity.name ++ ")",
    "languages " ++ joinWith ", " s.about.languages]

/-- Code that turns a rule off. -/
def silencingCode (rule : String) : String :=
  joinWith "\n" [
    "/* avesta-disable " ++ rule ++ " */", "", "// avesta-disable-next-line " ++ rule,
    "const value = 1;"]

/-- Settings that make findings of a rule mere information. -/
def tuningCode (rule : String) : String :=
  "[tool.avesta.rules." ++ rule ++ "]\nseverity = \"info\""

/-- The lines of an example. -/
def exampleLines (e : RuleExample) : Screen :=
  let notes := match e.notes with
    | some notes => if notes = "" then [] else paragraphIn panelWidth notes
    | none => []
  let preferred := match e.preferred with
    | some code => paragraphIn panelWidth "Preferred:" ++ blockIn panelWidth code
    | none => []
  notes ++ paragraphIn panelWidth "Flagged:" ++ blockIn panelWidth e.flagged ++ preferred

/-- One rule on a screen. -/
def ruleScreen (s : RuleSummary) : Screen :=
  let id := s.about.id
  panel (some id.toList) none (paragraphIn panelWidth (ruleFacts s))
    ++ paragraph "Silence it in a file:"
    ++ blockIn screenWidth (silencingCode id)
    ++ paragraph "Tune it in pyproject.toml:"
    ++ blockIn screenWidth (tuningCode id)
    ++ match exampleOf? s with
      | some e => panel (some "Example".toList) none (exampleLines e)
      | none => []

end SourceAudit.Report
