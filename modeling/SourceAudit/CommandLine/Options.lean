import SourceAudit.Text.Search

/-!
# Options of a command line

A long option is a word after two hyphens, a short one a letter after a single hyphen;
letters of short options may stand together. The value of an option is the next word, or
stands after an equals sign. After two hyphens alone every word is an argument. Options
and arguments mix freely, except before the name of a command, where the first argument
ends the options.
-/

namespace SourceAudit.CommandLine

open Text

/-- An option that a command knows. -/
structure OptionSpec where
  /-- The word after two hyphens. -/
  long : String
  /-- The letter after one hyphen. -/
  short : Option Char := none
  takesValue : Bool := false
  deriving DecidableEq, Repr

/-- An option that was given, by its long name, with its value. -/
structure Given where
  name : String
  value : String
  deriving DecidableEq, Repr

/-- Why a command line is not understood. -/
inductive UsageFault where
  | noCommand
  | unknownCommand (name : String)
  | unknownOption (word : String)
  | missingValue (option : String)
  | unwantedValue (option : String)
  | missingArgument (name : String)
  | unexpectedArgument (word : String)
  | badChoice (option value : String)
  /-- A path is not there, or not of the kind that is wanted. -/
  | badPath (path : String)
  | loudAndQuiet
  | unknownRule (id : String)
  deriving DecidableEq, Repr

/-- What words of a command line come to. -/
structure Parsed where
  options : List Given := []
  arguments : List String := []
  deriving DecidableEq, Repr

/-- What is parsed with one more option before it. -/
def Parsed.withOption (g : Given) (p : Parsed) : Parsed :=
  { p with options := g :: p.options }

/-- What is parsed with one more argument before it. -/
def Parsed.withArgument (word : String) (p : Parsed) : Parsed :=
  { p with arguments := word :: p.arguments }

/-- How one word of a command line is read. -/
inductive Reading where
  /-- Options without values. -/
  | flags (names : List String)
  /-- An option with its value in the same word. -/
  | valued (name value : String)
  /-- An option whose value is the next word. -/
  | wantsValue (name : String)
  /-- The end of options. -/
  | endOfOptions
  | argument
  deriving DecidableEq, Repr

/-- Reads a word after two hyphens. -/
def readLong (specs : List OptionSpec) (word : String) (body : List Char) :
    Except UsageFault Reading :=
  let (name, value) := match cut? ['='] body with
    | some (name, value) => (String.ofList name, some (String.ofList value))
    | none => (String.ofList body, none)
  match specs.find? (·.long = name), value with
  | none, _ => .error (.unknownOption word)
  | some spec, none => .ok (if spec.takesValue then .wantsValue name else .flags [name])
  | some spec, some value =>
    if spec.takesValue then .ok (.valued name value) else .error (.unwantedValue name)

/-- Reads letters after one hyphen; the short options that are known take no values. -/
def readShort (specs : List OptionSpec) (word : String) (letters : List Char) :
    Except UsageFault Reading :=
  let found := letters.mapM fun c => specs.find? fun spec => spec.short = some c && !spec.takesValue
  match found with
  | some found => .ok (.flags (found.map (·.long)))
  | none => .error (.unknownOption word)

/-- Reads one word. -/
def readWord (specs : List OptionSpec) (word : String) : Except UsageFault Reading :=
  match word.toList with
  | ['-', '-'] => .ok .endOfOptions
  | '-' :: '-' :: body => readLong specs word body
  | '-' :: c :: letters => readShort specs word (c :: letters)
  | _ => .ok .argument

/-- Reads words up to the end; with `mixed` options may follow arguments. -/
def parseWords (specs : List OptionSpec) (mixed : Bool) :
    List String → Except UsageFault Parsed
  | [] => .ok {}
  | word :: rest =>
    match readWord specs word with
    | .error fault => .error fault
    | .ok .endOfOptions => .ok { arguments := rest }
    | .ok .argument =>
      if mixed then (parseWords specs mixed rest).map (.withArgument word)
      else .ok { arguments := word :: rest }
    | .ok (.flags names) =>
      (parseWords specs mixed rest).map fun p =>
        { p with options := names.map (⟨·, ""⟩) ++ p.options }
    | .ok (.valued name value) =>
      (parseWords specs mixed rest).map (.withOption ⟨name, value⟩)
    | .ok (.wantsValue name) =>
      match rest with
      | [] => .error (.missingValue name)
      | value :: rest => (parseWords specs mixed rest).map (.withOption ⟨name, value⟩)

namespace Parsed

/-- The value of an option that was given last. -/
def value? (p : Parsed) (name : String) : Option String :=
  (p.options.reverse.find? (·.name = name)).map (·.value)

/-- Whether an option was given. -/
def gives (p : Parsed) (name : String) : Bool :=
  p.options.any (·.name = name)

end Parsed

end SourceAudit.CommandLine
