import SourceAudit.Report.Scan
import SourceAudit.Suppressions
import SourceAudit.Terminal.Table

/-!
# Reports of suppressions

The rules that a file turns off, in the whole file and line by line, as JSON and as a
screen.
-/

namespace SourceAudit.Report

open Text Terminal

/-- The suppressions of a file as JSON. -/
def suppressionsJson (path : String) (s : Suppressions) : String :=
  let lines := s.sortedLineRules.map fun (n, rules) =>
    (intText n, Value.list (rules.map .text))
  Json.spread (.table [
    ("path", .text path),
    ("file_disabled_rules", .list (s.sortedFileRules.map .text)),
    ("line_disabled_rules", .table lines),
    ("is_file_fully_disabled", .bool s.everything)])

/-- The cells of a scope and the rules turned off in it. -/
def scopeRow (scope : String) (rules : List String) : Except MarkupFault Row := do
  let rules ← shownLabel (joinWith ", " rules)
  return [scope.toList, withoutControls rules]

/-- The suppressions of a file as a screen. -/
def suppressionsScreen (name : String) (s : Suppressions) : Except MarkupFault Screen :=
  if s.isEmpty then .ok (pictureParagraph (name ++ ": no avesta directives"))
  else do
    let title ← shownLabel ("Suppressions in " ++ name)
    let whole ←
      if s.fileRules.isEmpty then pure []
      else (scopeRow "whole file" s.sortedFileRules).map fun row => [row]
    let lines ← s.sortedLineRules.mapM fun (n, rules) => scopeRow ("line " ++ intText n) rules
    return Table.shown
      ⟨withoutControls title, [⟨"Scope", false⟩, ⟨"Rules", false⟩], whole ++ lines⟩

end SourceAudit.Report
