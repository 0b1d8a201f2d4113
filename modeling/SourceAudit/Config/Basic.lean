import SourceAudit.Config.Fault
import SourceAudit.Diagnostic
import SourceAudit.Directive.RuleList
import SourceAudit.Language
import SourceAudit.Value.Basic

/-!
# Settings

What a project can set: the languages that are examined, which rules are enabled, the
severity and the options of single rules, paths that are left out, the review, and
plugins. `Config.ofTable` reads a table of settings and refuses it with the first fault
it meets.
-/

namespace SourceAudit

open Text

/-- Which rules are enabled, as it was set: one word, or a list of words. -/
inductive Enabling where
  | word (token : String)
  | tokens (tokens : List String)
  deriving DecidableEq, Repr

/-- The words of an enabling. -/
def Enabling.words : Enabling → List String
  | .word w => [w]
  | .tokens ws => ws

/-- What is set for one rule. Names of options have underscores for hyphens. -/
structure RuleSettings where
  severity : Option Severity := none
  options : Entries := []

/-- What is set for reviews. -/
structure ReviewSettings where
  model : Option String := none
  prompts : List String := ["code-review"]
  extensions : List String := [".ts", ".tsx"]
  timeout : Int := 60
  deriving DecidableEq, Repr

/-- The settings of a project. -/
structure Config where
  languages : List Language := [.javascript, .typescript]
  enable : Enabling := .word "all"
  disable : List String := []
  settings : List (String × RuleSettings) := []
  ignorePaths : List String := []
  review : ReviewSettings := {}
  plugins : List String := []

/-- What is set for a rule. -/
def Config.ruleSettings (config : Config) (rule : String) : RuleSettings :=
  (config.settings.lookup rule).getD {}

/-! ### Which rules are enabled -/

/-- Whether a word stands for every rule. -/
def standsForAll (token : String) : Bool :=
  small token == "all"

/-- Whether a known rule is enabled. -/
def Config.enables (config : Config) (rule : String) : Bool :=
  let wanted := config.enable.words
  (wanted.any standsForAll || wanted.contains rule)
    && !(config.disable.any standsForAll || config.disable.contains rule)

/-- The known rules that are enabled. -/
def Config.enabledAmong (config : Config) (known : List String) : List String :=
  known.filter config.enables

/-! ### Reading settings -/

/-- A table of settings, with the name it goes by in messages. -/
structure Section where
  entries : Entries
  name : String

namespace Section

def setting (s : Section) (key : String) : String :=
  s.name ++ "." ++ key

/-- The values of a list of texts, trimmed; an absent value is an empty list. -/
def trimmedTexts (setting : String) (v : Value) : Except ConfigFault (List String) :=
  match v with
  | .null => .ok []
  | v =>
    match v.texts? with
    | some ts => .ok (ts.map trimmed)
    | none => .error (.notTexts setting)

/-- The texts of a key, or the default when there is no such key. -/
def texts (s : Section) (key : String) (default : List String) :
    Except ConfigFault (List String) :=
  match s.entries.get? key with
  | some v => trimmedTexts (s.setting key) v
  | none => .ok default

/-- The table of a key; no table is an empty one. -/
def child (s : Section) (key : String) : Except ConfigFault Section :=
  match (s.entries.get? key).getD .null with
  | .null => .ok ⟨[], s.setting key⟩
  | .table entries => .ok ⟨entries, s.setting key⟩
  | _ => .error (.notTable (s.setting key))

/-- The trimmed text of a key, unless it is blank. -/
def text? (s : Section) (key : String) : Except ConfigFault (Option String) :=
  match (s.entries.get? key).getD .null with
  | .null => .ok none
  | .text t => .ok (if trimmed t = "" then none else some (trimmed t))
  | _ => .error (.notText (s.setting key))

/-- The positive number of seconds of a key. -/
def seconds (s : Section) (key : String) (default : Int) : Except ConfigFault Int :=
  match s.entries.get? key with
  | none => .ok default
  | some (.int n) => if 0 < n then .ok n else .error (.notSeconds (s.setting key))
  | some _ => .error (.notSeconds (s.setting key))

end Section

/-- The words between commas in some texts, trimmed, without the empty ones. -/
def commaWords (texts : List String) : List String :=
  ((texts.flatMap fun t => (pieces ',' t.toList).map trim).filter fun w => !w.isEmpty).map
    String.ofList

/-- The words of a setting that lists rules; each stands for all rules or is a rule
name. -/
def ruleWords (setting : String) (texts : List String) : Except ConfigFault (List String) :=
  let words := commaWords texts
  match words.find? fun w => !(standsForAll w || isRuleName w) with
  | some w => .error (.ruleToken setting w)
  | none => .ok words

/-- Reads which rules are enabled. A text without a comma stays one word, and a blank
one stands for all rules. -/
def readEnabling (s : Section) : Except ConfigFault Enabling :=
  let name := s.setting "enable"
  match (s.entries.get? "enable").getD (.text "all") with
  | .text t => do
    let words ← ruleWords name [t]
    return if t.toList.contains ',' then .tokens words else .word (words.head?.getD "all")
  | v =>
    match v.texts? with
    | some ts => (ruleWords name ts).map .tokens
    | none => .error (.notTextOrTexts name)

/-- Reads a severity; `warning` is another word for `warn`. -/
def readSeverity (setting : String) : Value → Except ConfigFault Severity
  | .text t =>
    match small (trimmed t) with
    | "info" => .ok .info
    | "warn" => .ok .warn
    | "warning" => .ok .warn
    | "error" => .ok .error
    | _ => .error (.severity setting)
  | _ => .error (.notText setting)

/-- The name of an option as it is kept: trimmed, with underscores for hyphens. -/
def optionName (key : String) : String :=
  String.ofList (replaceChar '-' '_' (trim key.toList))

/-- Options under the names they are kept by; of two with one name the later counts. -/
def keptOptions (entries : Entries) : Entries :=
  entries.foldl (fun kept (key, v) => kept.put (optionName key) v) []

/-- Reads the table of one rule. -/
def readRuleTable (s : Section) (key : String) : Except ConfigFault (String × RuleSettings) := do
  let sub ← s.child key
  let rule := trimmed key
  if !isRuleName rule then .error (.ruleTable sub.name)
  else
    let severity ← match (sub.entries.get? "severity").getD .null with
      | .null => .ok none
      | v => (readSeverity (sub.setting "severity") v).map some
    let options := keptOptions (sub.entries.filter fun (k, _) => k ≠ "severity")
    return (rule, ⟨severity, options⟩)

/-- Settings of rules with those of one rule put in place of earlier ones. -/
def putSettings (settings : List (String × RuleSettings)) (rule : String) (new : RuleSettings) :
    List (String × RuleSettings) :=
  match settings with
  | [] => [(rule, new)]
  | (r, old) :: rest =>
    if r = rule then (r, new) :: rest else (r, old) :: putSettings rest rule new

/-- Reads the tables of rules, given by their keys in order. -/
def readRuleTables (s : Section) (before : List (String × RuleSettings)) :
    List String → Except ConfigFault (List (String × RuleSettings))
  | [] => .ok before
  | key :: keys =>
    match readRuleTable s key with
    | .error e => .error e
    | .ok (rule, new) => readRuleTables s (putSettings before rule new) keys

/-- An extension in small letters with a dot in front, if there is anything of it. -/
def readExtension? (t : String) : Option String :=
  let ext := small t
  if ext = "" then none
  else if startsWith ['.'] ext.toList then some ext
  else some ("." ++ ext)

/-- Reads what is set for reviews. -/
def readReview (s : Section) : Except ConfigFault ReviewSettings := do
  let default : ReviewSettings := {}
  let extensions ← s.texts "extensions" default.extensions
  let model ← s.text? "model"
  let prompts ← s.texts "prompts" default.prompts
  let timeout ← s.seconds "timeout" default.timeout
  return ⟨model, prompts, extensions.filterMap readExtension?, timeout⟩

/-- Reads the languages. -/
def readLanguages (s : Section) : Except ConfigFault (List Language) := do
  let default : Config := {}
  let names ← s.texts "languages" (default.languages.map (·.name))
  let names := names.map small
  match names.filter fun name => (Language.ofName? name).isNone with
  | [] => return names.filterMap Language.ofName?
  | unknown => .error (.languages (sortedSet unknown))

/-- Reads settings from a table. -/
def Config.ofTable (table : Entries) : Except ConfigFault Config := do
  let root : Section := ⟨table, "tool.avesta"⟩
  let languages ← readLanguages root
  let rules ← root.child "rules"
  let enable ← readEnabling rules
  let disabled ← rules.texts "disable" []
  let disable ← ruleWords (rules.setting "disable") disabled
  let keys := (rules.entries.map (·.1)).filter fun key => key ≠ "enable" && key ≠ "disable"
  let settings ← readRuleTables rules [] keys
  let ignore ← root.child "ignore"
  let ignorePaths ← ignore.texts "paths" []
  let reviewSection ← root.child "review"
  let review ← readReview reviewSection
  let plugins ← root.texts "plugins" []
  return { languages, enable, disable, settings, ignorePaths, review, plugins }

end SourceAudit
