import SourceAudit.Config.Options
import SourceAudit.Suppressions
import SourceAudit.SyntaxTree.Kinds

/-!
# What a rule sees and says

A rule is described by its name, which directives use as well, a title, a description,
the severity of its findings and the languages it applies to. It is shown one file at a
time.
-/

namespace SourceAudit

open Text

/-- The description of a rule. -/
structure RuleMeta where
  id : String
  title : String
  description : String
  severity : Severity
  languages : List String := ["javascript", "typescript"]
  deriving DecidableEq, Repr

/-- A file as rules see it. -/
structure FileContext where
  projectRoot : Path
  path : Path
  /-- How reports show the path. -/
  shownPath : String
  language : String
  grammar : Option Grammar
  text : String
  lines : List String
  suppressions : Suppressions
  /-- The settings of the project. -/
  config : Config
  /-- The root of the syntax tree, when the file was parsed. -/
  root : Option Node

/-- A file by itself in TypeScript, in a project without settings and with no directives. -/
def FileContext.single (name text : String) (root : Option Node) : FileContext where
  projectRoot := .absolute []
  path := .absolute [name]
  shownPath := name
  language := "typescript"
  grammar := none
  text := text
  lines := []
  suppressions := .none
  config := {}
  root := root

/-- The octets of a file's text, as nodes count them. -/
def FileContext.octets (file : FileContext) : Octets :=
  encode file.text.toList

/-- The place of a node in its file. -/
def FileContext.locate (file : FileContext) (n : Node) : Location :=
  let start := n.label.start
  { path := some file.path
    startLine := some (start.row + 1)
    startColumn := some (start.column + 1)
    endLine := n.label.stop.map fun p => (p.row : Int) + 1
    endColumn := n.label.stop.map fun p => (p.column : Int) + 1 }

/-- A finding of a rule at a node. -/
def RuleMeta.finding (about : RuleMeta) (file : FileContext) (n : Node) (message : String)
    (suggestion : Option String := none) : Diagnostic :=
  { rule := some about.id
    severity := about.severity
    message := message
    suggestion := suggestion
    location := some (file.locate n) }

/-! ### Options as values -/

/-- The whole number of an option. -/
def optionNat (values : Entries) (name : String) : Nat :=
  match values.get? name with
  | some (.int n) => n.toNat
  | _ => 0

/-- The truth value of an option. -/
def optionBool (values : Entries) (name : String) : Bool :=
  match values.get? name with
  | some (.bool b) => b
  | _ => false

/-- The texts of an option. -/
def optionTexts (values : Entries) (name : String) : List String :=
  ((values.get? name).bind Value.texts?).getD []

end SourceAudit
