import SourceAudit.Rule.NegativeFirst
import SourceAudit.Rule.PrometheusLabels
import SourceAudit.Rule.ReactProps

/-!
# Rules

A rule is one of the three that are built in, or comes from a plugin. It says at once what
it finds in a file, or looks at its own options first. A built-in rule has nothing to say
about a file without a tree, and looks at its options only when there is one. What a file
says of the settings of the project, a rule of a plugin may read as well.
-/

namespace SourceAudit

open Text

/-- What a rule does with a file. -/
inductive Inspection where
  | found (ds : List Diagnostic)
  /-- It looks at its options, and then says what it finds. -/
  | asking (findings : Entries → List Diagnostic)

/-- A rule. -/
inductive Rule where
  | negativeFirst
  | reactProps
  | prometheusLabels
  /-- A rule of a plugin, with the options it takes and the values they have when nothing is
  set. -/
  | plugin (about : RuleMeta) (fields : Entries) (inspect : FileContext → Inspection)

namespace Rule

def about : Rule → RuleMeta
  | negativeFirst => NegativeFirst.about
  | reactProps => ReactProps.about
  | prometheusLabels => PrometheusLabels.about
  | plugin about _ _ => about

def id (r : Rule) : String :=
  r.about.id

/-- The options a rule takes, each with the value it has when nothing is set. -/
def fields : Rule → Entries
  | negativeFirst => NegativeFirst.Options.toEntries {}
  | reactProps => ReactProps.Options.toEntries {}
  | prometheusLabels => []
  | plugin _ fields _ => fields

/-- The options of a rule in a project. -/
def options (r : Rule) (config : Config) : Except ConfigFault Entries :=
  readOptions r.fields (ruleTableName r.id) (config.ruleSettings r.id).options

/-- Whether a rule applies to files of a language. -/
def applies (r : Rule) (file : FileContext) : Bool :=
  r.about.languages.contains file.language

/-- What a rule does with a file. -/
def inspect (r : Rule) (file : FileContext) : Inspection :=
  match r, file.root with
  | plugin _ _ inspect, _ => inspect file
  | _, none => .found []
  | negativeFirst, some root =>
    .asking fun values => NegativeFirst.check (NegativeFirst.Options.ofEntries values) file root
  | reactProps, some root =>
    .asking fun values => ReactProps.check (ReactProps.Options.ofEntries values) file root
  | prometheusLabels, some root => .found (PrometheusLabels.check file root)

/-- What a rule finds in a file. -/
def check (r : Rule) (file : FileContext) : Except ConfigFault (List Diagnostic) :=
  match r.inspect file with
  | .found ds => .ok ds
  | .asking findings => (r.options file.config).map findings

/-- The built-in rules, ordered by name. -/
def builtin : List Rule :=
  [negativeFirst, prometheusLabels, reactProps]

end Rule

end SourceAudit
