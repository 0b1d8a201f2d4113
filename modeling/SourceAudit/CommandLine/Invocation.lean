import SourceAudit.CommandLine.Options
import SourceAudit.Diagnostic
import SourceAudit.Disk

/-!
# Invocations

What a command line asks for: the version, help, or one of five commands. Options before
the command say how much is logged. A path that a command is given has to be there, and
to be a file or a directory as the command wants it.
-/

namespace SourceAudit.CommandLine

open Text

/-- The forms of output. -/
inductive OutputForm where
  | screen
  | json
  deriving DecidableEq, Repr

/-- A command with what it is given. Paths are resolved. -/
inductive Command where
  /-- Audits a file or the files below a directory. Without a severity no finding counts
  as a failure. -/
  | scan (path : Path) (form : OutputForm) (failOn : Option Severity)
  | rules (directory : Path) (form : OutputForm) (enabledOnly : Bool)
  | explain (rule : String) (directory : Path) (form : OutputForm)
  | suppressions (file : Path) (form : OutputForm)
  /-- Reviews a file, or else what is staged. -/
  | review (file : Option Path) (model : Option String)
  deriving DecidableEq, Repr

/-- What options before the command say. -/
structure Settings where
  verbose : Bool := false
  quiet : Bool := false
  deriving DecidableEq, Repr

/-! ### Options -/

private def helpSpec : OptionSpec := { long := "help" }

private def formatSpec : OptionSpec := { long := "format", takesValue := true }

/-- The options before the command. -/
def generalSpecs : List OptionSpec := [
  { long := "version" }, { long := "verbose", short := some 'v' },
  { long := "quiet", short := some 'q' }, { long := "progress" }, { long := "no-progress" },
  helpSpec]

/-- The options of each command. -/
def commandSpecs : List (String × List OptionSpec) := [
  ("scan", [formatSpec, { long := "fail-on", takesValue := true }, helpSpec]),
  ("rules", [formatSpec, { long := "enabled-only" }, helpSpec]),
  ("explain", [{ long := "path", takesValue := true }, formatSpec, helpSpec]),
  ("suppressions", [formatSpec, helpSpec]),
  ("review", [{ long := "file", takesValue := true }, { long := "model", takesValue := true },
    helpSpec])]

/-! ### Values -/

/-- The small form of a character, as far as the choices of options are concerned. -/
private def choiceChar (c : Char) : Char :=
  if c.toNat = 0x17F then 's' else c.toLower

/-- The choice that a value names, whatever its case. -/
def choice? {α : Type} (option value : String) (choices : List (String × α)) :
    Except UsageFault α :=
  match choices.lookup (String.ofList (value.toList.map choiceChar)) with
  | some a => .ok a
  | none => .error (.badChoice option value)

/-- The form of output that is asked for; a screen when none is named. -/
def outputForm (p : Parsed) : Except UsageFault OutputForm :=
  match p.value? "format" with
  | none => .ok .screen
  | some value => choice? "format" value [("terminal", .screen), ("json", .json)]

/-- The lowest severity that counts as a failure; that of errors when none is named. -/
def failureThreshold (p : Parsed) : Except UsageFault (Option Severity) :=
  match p.value? "fail-on" with
  | none => .ok (some .error)
  | some value =>
    choice? "fail-on" value [
      ("error", some .error), ("warn", some .warn), ("info", some .info), ("never", none)]

/-- The path that a text means, when something of the wanted kind is there. -/
def existing (d : Disk) (fileWanted directoryWanted : Bool) (text : String) :
    Except UsageFault Path :=
  let p := (Path.ofText text).resolve d.cwd
  if (fileWanted && d.isFile p) || (directoryWanted && d.isDirectory p) then .ok p
  else .error (.badPath text)

/-- The only argument, if there is one. -/
def onlyArgument (p : Parsed) : Except UsageFault (Option String) :=
  match p.arguments with
  | [] => .ok none
  | [word] => .ok (some word)
  | _ :: word :: _ => .error (.unexpectedArgument word)

/-- The only argument, which must be there. -/
def neededArgument (name : String) (p : Parsed) : Except UsageFault String := do
  match ← onlyArgument p with
  | some word => return word
  | none => .error (.missingArgument name)

/-! ### Commands -/

/-- The command with a name, given its parsed words. -/
def commandOf (d : Disk) (name : String) (p : Parsed) : Except UsageFault Command :=
  match name with
  | "scan" => do
    let path ← existing d true true ((← onlyArgument p).getD ".")
    return .scan path (← outputForm p) (← failureThreshold p)
  | "rules" => do
    let path ← existing d false true ((← onlyArgument p).getD ".")
    return .rules path (← outputForm p) (p.gives "enabled-only")
  | "explain" => do
    let rule ← neededArgument "RULE_ID" p
    let path ← existing d false true ((p.value? "path").getD ".")
    return .explain rule path (← outputForm p)
  | "suppressions" => do
    let file ← existing d true false (← neededArgument "FILE" p)
    return .suppressions file (← outputForm p)
  | "review" => do
    let file ← (p.value? "file").mapM (existing d true false)
    match ← onlyArgument p with
    | some word => .error (.unexpectedArgument word)
    | none => return .review file (p.value? "model")
  | name => .error (.unknownCommand name)

/-- What a command line asks for. -/
inductive Invocation where
  | version
  | help
  /-- The name of a command and its words, which are still to be read. -/
  | command (settings : Settings) (name : String) (specs : List OptionSpec)
      (words : List String)
  deriving DecidableEq, Repr

/-- Reads a command line up to the name of the command. Asking for the version or for
help wins over everything after it. -/
def Invocation.ofWords (words : List String) : Except UsageFault Invocation := do
  let p ← parseWords generalSpecs false words
  match p.options.find? fun g => g.name = "version" || g.name = "help" with
  | some g => return if g.name = "version" then .version else .help
  | none =>
    match p.arguments with
    | [] => .error .noCommand
    | name :: rest =>
      match commandSpecs.lookup name with
      | none => .error (.unknownCommand name)
      | some specs =>
        if p.gives "verbose" && p.gives "quiet" then .error .loudAndQuiet
        else return .command ⟨p.gives "verbose", p.gives "quiet"⟩ name specs rest

/-- Reads the words after the name of a command; `none` when they ask for help. -/
def readCommand (d : Disk) (name : String) (specs : List OptionSpec) (words : List String) :
    Except UsageFault (Option Command) := do
  let p ← parseWords specs true words
  if p.gives "help" then return none
  else return some (← commandOf d name p)

end SourceAudit.CommandLine
