import SourceAudit.Rule.Registered

/-!
# The registry of rules

The rules a run knows: the built-in ones and those of plugins, under their names. Rules
of plugins are registered together, and only if every name is a rule name, differs from
the built-in ones and occurs once.
-/

namespace SourceAudit

open Text

/-- Why rules are not registered. -/
inductive RegistryFault where
  | badName (id : String)
  | builtinName (id : String)
  | duplicate (id : String)
  deriving DecidableEq, Repr

def RegistryFault.message : RegistryFault → String
  | .badName id => "Plugin rule id must match ^[a-z0-9-]+$: " ++ quoted id
  | .builtinName id => "Plugin rule id conflicts with built-in rule id: " ++ id
  | .duplicate id => "Duplicate plugin rule id: " ++ id

/-- The rules of a run, those of plugins apart. -/
structure Registry where
  extra : List Rule := []

namespace Registry

/-- The built-in rules alone. -/
def initial : Registry := {}

/-- Whether one rule's name comes before another's or equals it. -/
def idLe (r s : Rule) : Bool :=
  textLe r.id s.id

/-- All rules, ordered by name. -/
def rules (reg : Registry) : List Rule :=
  (Rule.builtin ++ reg.extra).mergeSort idLe

/-- The names of all rules, in order. -/
def ids (reg : Registry) : List String :=
  reg.rules.map Rule.id

/-- The rule with a name. -/
def find? (reg : Registry) (id : String) : Option Rule :=
  reg.rules.find? fun r => r.id == id

/-- The first fault among rules to be registered, given the names that came before. -/
def firstFault? (before : List String) : List Rule → Option RegistryFault
  | [] => none
  | r :: rest =>
    if !isRuleName r.id then some (.badName r.id)
    else if (Rule.builtin.map Rule.id).contains r.id then some (.builtinName r.id)
    else if before.contains r.id then some (.duplicate r.id)
    else firstFault? (r.id :: before) rest

/-- Registers the rules of plugins in place of those registered before. -/
def register (rules : List Rule) : Except RegistryFault Registry :=
  match firstFault? [] rules with
  | some fault => .error fault
  | none => .ok ⟨rules⟩

/-- The rules a project enables, ordered by name. -/
def enabled (reg : Registry) (config : Config) : List Rule :=
  reg.rules.filter fun r => config.enables r.id

end Registry

/-- A rule as a project sees it. -/
structure RuleSummary where
  about : RuleMeta
  enabled : Bool
  severity : Severity
  deriving DecidableEq, Repr

/-- Every rule as a project sees it. -/
def Registry.describe (reg : Registry) (config : Config) : List RuleSummary :=
  reg.rules.map fun r =>
    { about := r.about
      enabled := config.enables r.id
      severity := (config.ruleSettings r.id).severity.getD r.about.severity }

end SourceAudit
