import SourceAudit.Project.Context
import SourceAudit.Project.Discovery
import SourceAudit.Project.Workers
import SourceAudit.Rule.Plugin

/-!
# Audits

An audit registers the rules of a project, reads its files, runs the enabled rules on
each file, drops what the file's own directives suppress, and puts what is left in
order: by path, line and column, the most severe first, then by rule.
-/

namespace SourceAudit

open Text

/-! ### Loading rules -/

/-- Why the rules of a project cannot be loaded. -/
inductive RulesFault where
  | plugin (fault : PluginFault)
  | registry (fault : RegistryFault)
  | config (fault : ConfigFault)
  deriving DecidableEq, Repr

def RulesFault.message : RulesFault → String
  | .plugin fault => fault.message
  | .registry fault => fault.message
  | .config fault => fault.message

/-- What loading rules comes to. -/
structure RulesLoaded where
  registry : Registry
  log : Log
  result : Except RulesFault Unit

/-- Checks the options of rules one after another. -/
def checkOptions (config : Config) : List Rule → Except ConfigFault Unit
  | [] => .ok ()
  | r :: rest =>
    match r.options config with
    | .error fault => .error fault
    | .ok _ => checkOptions config rest

/-- The rules that settings are made for and no rule is known by, in order. -/
def unknownRules (reg : Registry) (config : Config) : List String :=
  sortedSet ((config.settings.map (·.1)).filter fun id => !reg.ids.contains id)

/-- Registers the rules of a project's plugins and checks the options of the rules it
enables. The registry stays as it was when plugins or their names are at fault. -/
def loadRules (modules : Modules) (before : Registry) (config : Config) : RulesLoaded :=
  match loadPluginSpecs modules config.plugins with
  | (log, .error fault) => ⟨before, log, .error (.plugin fault)⟩
  | (log, .ok rules) =>
    match Registry.register rules with
    | .error fault => ⟨before, log, .error (.registry fault)⟩
    | .ok reg =>
      let unknown := (unknownRules reg config).map fun id =>
        ⟨.warning, "avesta.audit", "unknown rule id in rules settings: " ++ id⟩
      ⟨reg, log ++ unknown, (checkOptions config (reg.enabled config)).mapError .config⟩

/-! ### Running rules -/

/-- The findings of rules in a file, with the severities that are set for them. -/
def runRules (config : Config) (file : FileContext) :
    List Rule → Except ConfigFault (List Diagnostic)
  | [] => .ok []
  | r :: rest =>
    if !r.applies file then runRules config file rest
    else
      match r.check file with
      | .error fault => .error fault
      | .ok found =>
        let found := match (config.ruleSettings r.id).severity with
          | some severity => found.map fun d => { d with severity }
          | none => found
        (runRules config file rest).map (found ++ ·)

/-- The findings in a file that are not suppressed there. -/
def examine (config : Config) (rules : List Rule) (file : FileContext) :
    Except ConfigFault (Log × List Diagnostic) :=
  (runRules config file rules).map fun found =>
    let kept := file.suppressions.keep found
    let dropped := found.length - kept.length
    let log :=
      if dropped = 0 then []
      else
        [⟨.debug, "avesta.engine.detection",
          file.shownPath ++ ": " ++ natText dropped ++ " diagnostic(s) suppressed"⟩]
    (log, kept)

/-- The findings in files, in the order of the files. -/
def detect (config : Config) (rules : List Rule) :
    List FileContext → Except ConfigFault (Log × List Diagnostic)
  | [] => .ok ([], [])
  | file :: rest =>
    match examine config rules file with
    | .error fault => .error fault
    | .ok (log, found) =>
      (detect config rules rest).map fun (later, more) => (log ++ later, found ++ more)

/-! ### The order of a report -/

/-- What a report is ordered by. -/
structure ReportKey where
  path : String
  line : Int
  column : Int
  severity : Int
  rule : String
  deriving DecidableEq, Repr

/-- The key of a diagnostic. -/
def Diagnostic.reportKey (d : Diagnostic) : ReportKey where
  path := (d.path.map Path.toText).getD ""
  line := d.line.getD 0
  column := d.column.getD 0
  severity := -(d.severity.rank : Int)
  rule := d.rule.getD ""

/-- Whether one key comes before another or equals it. -/
def ReportKey.le (a b : ReportKey) : Bool :=
  if a.path ≠ b.path then textLe a.path b.path
  else if a.line ≠ b.line then a.line < b.line
  else if a.column ≠ b.column then a.column < b.column
  else if a.severity ≠ b.severity then a.severity < b.severity
  else textLe a.rule b.rule

/-- Diagnostics in the order of a report. -/
def reportOrder (ds : List Diagnostic) : List Diagnostic :=
  ds.mergeSort fun a b => a.reportKey.le b.reportKey

/-! ### Auditing files -/

/-- Why an audit does not come to an end. -/
inductive AuditFault where
  | rules (fault : RulesFault)
  | workers (fault : WorkerFault)
  /-- An option is refused while a rule runs. -/
  | options (fault : ConfigFault)
  deriving DecidableEq, Repr

/-- What is said before the fault of a plugin. -/
def pluginsFailed : String := "Failed to load Avesta plugins: "

def AuditFault.message : AuditFault → String
  | .rules (.plugin fault) => pluginsFailed ++ fault.message
  | .rules fault => fault.message
  | .workers _ => "the number of workers is no number"
  | .options fault => fault.message

/-- What an audit comes to. -/
structure Audited where
  registry : Registry
  log : Log
  /-- The files that rules were run on, and the summary. -/
  result : Except AuditFault (List FileContext × Summary)

/-- What is said when there is no parser. -/
def noParserMessage : String :=
  "tree-sitter is not installed, so the JavaScript/TypeScript rules have nothing to inspect. "
    ++ "Install `avesta-review[treesitter]` (tree-sitter + tree-sitter-languages)."

/-- The number of workers that is taken when none is asked for. -/
def standardWorkers : Int := 2

/-- What is logged at the end of an audit. -/
private def auditEndRecord (contexts diagnostics failures : Nat) : LogRecord :=
  ⟨.debug, "avesta.audit",
    "linted " ++ natText contexts ++ " file(s): " ++ natText diagnostics
      ++ " diagnostic(s), " ++ natText failures ++ " skipped"⟩

/-- Audits files of a project whose rules are registered. -/
def auditLoaded (w : World) (target : Target) (files : List Path) (reg : Registry) :
    Log × Except AuditFault (List FileContext × Summary) :=
  let missing :=
    if files.isEmpty || w.hasParser then [] else [⟨.warning, "avesta.audit", noParserMessage⟩]
  match workerCount (w.environmentValue "AVESTA_WORKERS") standardWorkers defaultMaxWorkers with
  | .error fault => (missing, .error (.workers fault))
  | .ok _ =>
    let readings := readFiles w target files
    let log := missing ++ readings.log
    match detect target.config (reg.enabled target.config) readings.contexts with
    | .error fault => (log, .error (.options fault))
    | .ok (detected, found) =>
      let ending :=
        auditEndRecord readings.contexts.length found.length readings.failures.length
      (log ++ detected ++ [ending],
        .ok (readings.contexts,
          ⟨readings.contexts.length, reportOrder found, readings.failures⟩))

/-- Audits files of a project. -/
def auditFiles (w : World) (before : Registry) (target : Target) (files : List Path) : Audited :=
  let loaded := loadRules w.modules before target.config
  match loaded.result with
  | .error fault => ⟨loaded.registry, loaded.log, .error (.rules fault)⟩
  | .ok () =>
    let (log, result) := auditLoaded w target files loaded.registry
    ⟨loaded.registry, loaded.log ++ log, result⟩

end SourceAudit
