import SourceAudit.Log
import SourceAudit.Rule.Registry

/-!
# Plugins

A project names plugins by specifications `module` or `module:attribute`. A module
exports rules as a list, or through a function that returns one; without an attribute the
export is looked for under two usual names.
-/

namespace SourceAudit

open Text

/-- What a module can export. -/
inductive Export where
  | rules (isTuple : Bool) (items : List Export)
  | rule (r : Rule)
  /-- Any other value, of which only the name of its type matters. -/
  | value (typeName : String)
  | factory (returns : Export)
  | failing (error : String)

instance : Inhabited Export :=
  ⟨.rules false []⟩

/-- What a module defines, by name. -/
abbrev Module := List (String × Export)

/-- The modules that can be loaded, by name. -/
abbrev Modules := List (String × Module)

/-- Why a plugin cannot be loaded. -/
inductive PluginFault where
  | load (spec reason : String)
  | noAttribute (spec attr : String)
  | noRules (spec : String)
  | factory (spec error : String)
  | notList (spec typeName : String)
  | notRules (spec : String) (typeNames : List String)
  deriving DecidableEq, Repr

def PluginFault.message : PluginFault → String
  | .load spec reason => spec ++ ": import failed: " ++ reason
  | .noAttribute spec name => spec ++ ": module has no attribute " ++ quoted name
  | .noRules spec => spec ++ ": module must define `avesta_rules()` or `RULES`"
  | .factory spec error => spec ++ ": rule factory failed: " ++ error
  | .notList spec typeName => spec ++ ": expected a list of rules, got " ++ typeName
  | .notRules spec typeNames =>
    spec ++ ": plugin rules must be BaseRule instances, got: " ++ joinWith ", " typeNames

/-- The name of an export's type. -/
def Export.typeName : Export → String
  | .rules isTuple _ => if isTuple then "tuple" else "list"
  | .rule _ => "Rule"
  | .value typeName => typeName
  | .factory _ => "function"
  | .failing _ => "function"

/-! ### Finding modules -/

/-- A dotted name from its first part on: the first part, the first two, and so on. -/
def dottedPrefixes (name : String) : List String :=
  let parts := (pieces '.' name.toList).map String.ofList
  (List.range parts.length).map fun k => joinWith "." (parts.take (k + 1))

/-- The first link of a chain of parents that is missing, and the link before it. -/
def missingLink? (known : String → Bool) : Option String → List String →
    Option (String × Option String)
  | _, [] => none
  | parent, name :: rest =>
    if known name then missingLink? known (some name) rest else some (name, parent)

/-- The module with a name, or why there is none. -/
def findModule (modules : Modules) (name : String) : Except String Module :=
  match modules.lookup name with
  | some m => .ok m
  | none =>
    if name = "" then .error "Empty module name"
    else if startsWith ['.'] name.toList then
      .error ("the 'package' argument is required to perform a relative import for "
        ++ quoted name)
    else
      match missingLink? (fun n => (modules.lookup n).isSome) none (dottedPrefixes name) with
      | some (missing, some parent) =>
        .error ("No module named " ++ quoted missing ++ "; " ++ quoted parent
          ++ " is not a package")
      | _ => .error ("No module named " ++ quoted ((dottedPrefixes name).head?.getD name))

/-! ### Loading -/

/-- The export that a specification names. -/
def findExport (spec attr : String) (m : Module) : Except PluginFault Export :=
  if attr = "" then
    match m.lookup "avesta_rules", m.lookup "RULES" with
    | some e, _ => .ok e
    | none, some e => .ok e
    | none, none => .error (.noRules spec)
  else
    match m.lookup attr with
    | some e => .ok e
    | none => .error (.noAttribute spec attr)

/-- What a function among exports returns; anything else is itself. -/
def callFactory (spec : String) : Export → Except PluginFault Export
  | .factory returns => .ok returns
  | .failing error => .error (.factory spec error)
  | e => .ok e

/-- The rules of an export. -/
def exportRules (spec : String) (e : Export) : Except PluginFault (List Rule) :=
  match e with
  | .rules _ items =>
    let others := items.filterMap fun
      | .rule _ => none
      | item => some item.typeName
    if others.isEmpty then
      .ok (items.filterMap fun
        | .rule r => some r
        | _ => none)
    else .error (.notRules spec (sortedSet others))
  | e => .error (.notList spec e.typeName)

/-- A specification's module and attribute. -/
def splitSpec (spec : String) : String × String :=
  match cut? [':'] spec.toList with
  | some (m, attr) => (String.ofList m, String.ofList attr)
  | none => (spec, "")

/-- The rules of one plugin. -/
def loadPlugin (modules : Modules) (spec : String) : Except PluginFault (List Rule) := do
  let (name, attr) := splitSpec spec
  let m ← match findModule modules name with
    | .ok m => .ok m
    | .error reason => .error (.load spec reason)
  let found ← findExport spec attr m
  let called ← callFactory spec found
  exportRules spec called

/-- What is logged about a plugin's rules. -/
def pluginRecord (spec : String) (rules : List Rule) : LogRecord :=
  let listed := joinWith ", " (rules.map Rule.id)
  let listed := if listed = "" then "no rules" else listed
  ⟨.debug, "avesta.rules.plugins", "plugin " ++ spec ++ ": " ++ listed⟩

/-- Loads plugins one after another, up to the first that cannot be loaded. -/
def loadPlugins (modules : Modules) : List String → Log × Except PluginFault (List Rule)
  | [] => ([], .ok [])
  | spec :: rest =>
    match loadPlugin modules spec with
    | .error fault => ([], .error fault)
    | .ok rules =>
      let (log, later) := loadPlugins modules rest
      (pluginRecord spec rules :: log, later.map (rules ++ ·))

/-- The rules of the plugins a project names; blank specifications are passed over. -/
def loadPluginSpecs (modules : Modules) (specs : List String) :
    Log × Except PluginFault (List Rule) :=
  loadPlugins modules ((specs.map trimmed).filter (· ≠ ""))

end SourceAudit
