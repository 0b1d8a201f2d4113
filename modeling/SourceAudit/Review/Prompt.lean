import SourceAudit.Review.Change
import SourceAudit.Text.Quoted

/-!
# Prompts

What a reviewer is asked: a standing text, the texts that a project chooses by name, and
the lines to be reviewed, each with its number in front.
-/

namespace SourceAudit

open Text

/-- What every reviewer is told. -/
def systemPrompt : String :=
  joinWith "\n" [
    "You are an expert code reviewer with deep knowledge of software engineering principles.",
    "The code will be provided with line numbers in the format \"line_number: code\".",
    "Please use ONLY these provided line numbers in your review.",
    "",
    "Important Rules:",
    "1. If you see a function call or reference to code that is marked as ignored (with "
      ++ "@ai-review-ignore markers), DO NOT review or make assumptions about that code or "
      ++ "its usage.",
    "2. Focus only on the visible implementation details, not on code that might be "
      ++ "hidden or ignored.",
    "",
    "For each issue found, provide the following information in a structured format:",
    "",
    "File: <filename>",
    "Line: <line_number>",
    "Column: <column_number>",
    "Issue: <description>",
    "Length: <number_of_lines> (only for long function issues)",
    "",
    "Example format:",
    "File: src/components/Button.tsx",
    "Line: 45",
    "Column: 12",
    "Issue: Function is 25 lines long and handles multiple responsibilities",
    "Length: 25"]

/-- The texts that a project can choose, by name. -/
def namedPrompts : List (String × String) := [
  ("code-review",
    joinWith "\n" [
      "Specifically check for:",
      "1. Functions longer than 20 lines (excluding whitespace and brackets)",
      "2. Complex functions that could be split into smaller ones",
      "3. Functions that violate Single Responsibility Principle"])]

/-- A name that no text has. -/
structure PromptFault where
  name : String
  deriving DecidableEq, Repr

def PromptFault.message (fault : PromptFault) : String :=
  "unknown review prompt " ++ quoted fault.name ++ " (valid: "
    ++ joinWith ", " (sortTexts (namedPrompts.map Prod.fst)) ++ ")"

/-- The text with a name. -/
def namedPrompt (name : String) : Except PromptFault String :=
  match namedPrompts.lookup name with
  | some text => .ok text
  | none => .error ⟨name⟩

/-- The texts with some names, with an empty line between every two. -/
def chosenPrompts (names : List String) : Except PromptFault String :=
  (names.mapM namedPrompt).map (joinWith "\n\n")

/-! ### Numbered lines -/

/-- A line with its number in front. -/
def numberedLine (number : Int) (line : String) : String :=
  intText number ++ ": " ++ line

/-- Lines with their numbers in front, when there are as many of both and every number can be
written out. -/
def numberedLines (numbers : List Int) (lines : List String) : Option String :=
  if numbers.length = lines.length && numbers.all isWritableNumber then
    some (joinWith "\n" (List.zipWith numberedLine numbers lines))
  else none

/-- Lines with their numbers from one in front. -/
def countedLines (lines : List String) : String :=
  joinWith "\n" (lines.zipIdx.map fun (line, k) => numberedLine (k + 1) line)

/-- What is asked about a text. -/
def textPrompt (text : String) : String :=
  "Review the following code with line numbers:\n\n"
    ++ countedLines ((feedLines text.toList).map String.ofList)

/-- How a change's path is shown: from the root on, when it lies below one. -/
def Change.shownPath (root : Option Path) (c : Change) : String :=
  match root.bind c.path.below? with
  | some names => (Path.relative names).toText
  | none => c.path.toText

/-- Lines of a file as they are shown: under a path, and with numbers in front. -/
structure ShownFile where
  path : String
  numbers : List Int
  lines : List String
  deriving DecidableEq, Repr

/-- The part of a question that is about one file. -/
def ShownFile.prompt? (f : ShownFile) : Option String :=
  (numberedLines f.numbers f.lines).map fun lines =>
    "\n=== File: " ++ f.path ++ " ===\n" ++ lines

/-- What is asked about files. -/
def filesPrompt? (files : List ShownFile) : Option String :=
  (files.mapM ShownFile.prompt?).map fun parts =>
    "Review the following changes with line numbers:\n" ++ joinWith "\n" parts

/-- A change as it is shown. -/
def Change.shown (root : Option Path) (c : Change) : ShownFile :=
  ⟨c.shownPath root, c.numbers.map Int.ofNat, c.lines⟩

/-- What is asked about changes. -/
def changesPrompt? (root : Option Path) (changes : List Change) : Option String :=
  filesPrompt? (changes.map (Change.shown root))

end SourceAudit
