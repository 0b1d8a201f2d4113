import SourceAudit.Diagnostic

/-!
# Suppressions

Which rules are turned off in a file, and where: in the whole file, or on single lines.
A diagnostic is suppressed by the suppressions of its own file; one that no rule
signs never is.
-/

namespace SourceAudit

/-- The rules turned off in one file. -/
structure Suppressions where
  /-- The rules turned off in the whole file. -/
  fileRules : List String := []
  /-- Lines, each with rules that are turned off on it. -/
  lineRules : List (Int × List String) := []
  /-- Whether every rule is turned off. -/
  everything : Bool := false
  deriving DecidableEq, Repr

namespace Suppressions

/-- Nothing is turned off. -/
def none : Suppressions := {}

/-- Whether a rule is turned off on one line by name. -/
def disablesOn (s : Suppressions) (line : Int) (rule : String) : Bool :=
  s.lineRules.any fun (n, rules) => n == line && rules.contains rule

/-- Whether a rule's diagnostic at a line is suppressed. -/
def suppresses (s : Suppressions) (rule : Option String) (line : Option Int) : Bool :=
  match rule with
  | .none => false
  | some rule =>
    s.everything || s.fileRules.contains rule
      || (match line with
          | .none => false
          | some line => s.disablesOn line rule)

/-- Whether nothing at all is recorded. -/
def isEmpty (s : Suppressions) : Bool :=
  s.fileRules.isEmpty && s.lineRules.isEmpty && !s.everything

/-- Both files' suppressions together. -/
def union (s t : Suppressions) : Suppressions :=
  ⟨s.fileRules ++ t.fileRules, s.lineRules ++ t.lineRules, s.everything || t.everything⟩

/-- The diagnostics that are not suppressed. -/
def keep (s : Suppressions) (ds : List Diagnostic) : List Diagnostic :=
  ds.filter fun d => !s.suppresses d.rule d.line

/-- The rules of the whole file in ascending order. -/
def sortedFileRules (s : Suppressions) : List String :=
  Text.sortedSet s.fileRules

/-- The lines in ascending order, each with its rules in ascending order. -/
def sortedLineRules (s : Suppressions) : List (Int × List String) :=
  let lines := (Text.distinct (s.lineRules.map (·.1))).mergeSort fun a b => decide (a ≤ b)
  lines.map fun n =>
    (n, Text.sortedSet ((s.lineRules.filter fun entry => entry.1 == n).flatMap (·.2)))

/-! ### Both together -/

@[simp]
theorem fileRules_union (s t : Suppressions) :
  (s.union t).fileRules = s.fileRules ++ t.fileRules
  := rfl

@[simp]
theorem lineRules_union (s t : Suppressions) :
  (s.union t).lineRules = s.lineRules ++ t.lineRules
  := rfl

@[simp]
theorem everything_union (s t : Suppressions) :
  (s.union t).everything = (s.everything || t.everything)
  := rfl

@[simp]
theorem disablesOn_union (s t : Suppressions) (line : Int) (rule : String) :
  (s.union t).disablesOn line rule = (s.disablesOn line rule || t.disablesOn line rule)
  := List.any_append

@[simp]
theorem union_none (s : Suppressions) :
  s.union .none = s
  := by
  simp [union, none]

@[simp]
theorem none_union (s : Suppressions) :
  Suppressions.none.union s = s
  := by
  simp [union, none]

end Suppressions

end SourceAudit
