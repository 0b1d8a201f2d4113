import SourceAudit.Directive.Line
import SourceAudit.Suppressions
import SourceAudit.Text.Digit
import SourceAudit.Text.Lines

/-!
# Scanning a source for directives

The lines of a source are read one after another, and the first one at fault ends the
scan. A directive for the next line aims at the first line after it that is neither
blank nor a directive comment; in a source of a single line it aims at a second line.
-/

namespace SourceAudit

open Text

/-- Where a message belongs: a file and a line of it, as far as they are known. -/
structure Place where
  file : Option String := none
  line : Option Int := none
  deriving DecidableEq, Repr

/-- A message with the place it belongs to in front. -/
def Place.annotate (place : Place) (message : String) : String :=
  match place.file, place.line with
  | none, none => message
  | none, some line => "line " ++ intText line ++ ": " ++ message
  | some file, none => file ++ ": " ++ message
  | some file, some line => file ++ ":" ++ intText line ++ ": " ++ message

/-- A line that ended a scan. -/
structure ScanFault where
  fault : LineFault
  /-- The whole line. -/
  text : String
  line : Nat
  deriving DecidableEq, Repr

/-- Whether a line holds code: it is not blank and does not open a directive. -/
def isCodeLine (line : List Char) : Bool :=
  !isBlankText line && !opensDirective line

/-- The number of the line that a directive on line `n` aims at, given the lines after
it. -/
def targetLine? (lineCount n : Nat) (rest : List (List Char)) : Option Nat :=
  match rest with
  | [] => if lineCount = 1 then some 2 else none
  | rest => (rest.findIdx? isCodeLine).map (n + 1 + ·)

/-- The number of the line of a source that a directive on line `n` aims at. -/
def nextCodeLine (lines : List (List Char)) (n : Nat) : Option Nat :=
  targetLine? lines.length n (lines.drop n)

/-- What the directive on line `n` turns off. -/
def directiveEffect (lineCount n : Nat) (rest : List (List Char)) :
    Option Directive → Suppressions
  | none => .none
  | some (.wholeFile rules) => { fileRules := rules }
  | some (.nextLine rules) =>
    match targetLine? lineCount n rest with
    | some target => { lineRules := [((target : Int), rules)] }
    | none => .none

/-- What the lines from line `n` on turn off. -/
def scanFrom (lineCount n : Nat) : List (List Char) → Except ScanFault Suppressions
  | [] => .ok .none
  | line :: rest =>
    match readLine line with
    | .error fault => .error ⟨fault, String.ofList line, n⟩
    | .ok directive =>
      match scanFrom lineCount (n + 1) rest with
      | .error e => .error e
      | .ok later => .ok ((directiveEffect lineCount n rest directive).union later)

/-- What the lines of a source turn off. -/
def scanLines (lines : List (List Char)) : Except ScanFault Suppressions :=
  scanFrom lines.length 1 lines

/-- What the directives of a source turn off. -/
def scanSource (source : String) : Except ScanFault Suppressions :=
  if isBlankText source.toList then .ok .none else scanLines (sourceLines source.toList)

/-! ### Refusals -/

/-- Why the directives of a source are refused, as it is reported. -/
inductive DirectiveError where
  /-- A comment is at fault; `text` is its whole line. -/
  | comment (message text : String) (place : Place)
  /-- A rule list holds a text that is no rule name. -/
  | ruleName (name : String) (place : Place)
  deriving DecidableEq, Repr

namespace DirectiveError

/-- Where the refusal belongs. -/
def place : DirectiveError → Place
  | .comment _ _ place => place
  | .ruleName _ place => place

/-- What is said without the place. -/
def bareMessage : DirectiveError → String
  | .comment message _ _ => message
  | .ruleName name _ => ruleNameMessage name

def message (e : DirectiveError) : String :=
  e.place.annotate e.bareMessage

end DirectiveError

/-- The refusal that a line at fault leads to, in a file of a given name. -/
def ScanFault.toError (file : Option String) (e : ScanFault) : DirectiveError :=
  match e.fault with
  | .rules (.ruleName name) => .ruleName name ⟨file, some e.line⟩
  | fault => .comment fault.message e.text ⟨file, some e.line⟩

/-- What the directives of a source turn off. The name of the file only tells where a
refusal belongs. -/
def readDirectives (source : String) (file : Option String) :
    Except DirectiveError Suppressions :=
  (scanSource source).mapError (ScanFault.toError file)

end SourceAudit
