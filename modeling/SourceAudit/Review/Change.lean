import SourceAudit.Path
import SourceAudit.Text.Digit
import SourceAudit.Text.Letter
import SourceAudit.Text.Lines

/-!
# Staged changes

A diff without lines of context falls into sections, one for each file, and a section
into hunks. The header of a hunk gives the number of its first line in the new version.
Every other line of a hunk counts, except the lines that were taken away and notes about
the end of a file. Lines between two markers in the source are hidden from reviewers, the
markers included; they count all the same.
-/

namespace SourceAudit

open Text

/-- The lines that were added to one file, with their numbers in the new version. -/
structure Change where
  path : Path
  lines : List String
  numbers : List Nat
  deriving DecidableEq, Repr

/-- Why a diff is not read. -/
inductive DiffFault where
  /-- The header of a hunk holds a number of too many digits. -/
  | tooManyDigits
  deriving DecidableEq, Repr

/-! ### Sections -/

/-- The lines of a diff about one file. -/
structure DiffSection where
  header : List Char
  body : List (List Char)

/-- Whether a line opens a section. -/
def opensSection (line : List Char) : Bool :=
  startsWith "diff --git".toList line

/-- The lines before the first section, and the sections. -/
def diffSections : List (List Char) → List (List Char) × List DiffSection
  | [] => ([], [])
  | line :: rest =>
    let (front, sections) := diffSections rest
    if opensSection line then ([], ⟨line, front⟩ :: sections) else (line :: front, sections)

/-- The path of the file that a section is about, when its suffix is among those
wanted. -/
def DiffSection.path? (root : Path) (suffixes : List String) (s : DiffSection) : Option Path :=
  (cut? " b/".toList s.header).bind fun (_, shown) =>
    let p := Path.ofText (String.ofList (trim shown))
    if suffixes.contains (small p.suffix) then some (root ++ p) else none

/-! ### Hunks -/

/-- A line number in front of a text, with the text after it and after the count of
lines that may follow it. -/
def takeRange? (s : List Char) : Option (List Char × List Char) :=
  let first := s.takeWhile isDecimal
  if first.isEmpty then none
  else
    match s.dropWhile isDecimal with
    | ',' :: t => if (t.takeWhile isDecimal).isEmpty then none else some (first, t.dropWhile isDecimal)
    | t => some (first, t)

/-- The digits of the first line number of a hunk in the new version, when the line is
the header of a hunk. -/
def hunkStart? (line : List Char) : Option (List Char) := do
  let s ← after? "@@ -".toList line
  let (_, s) ← takeRange? s
  let s ← after? " +".toList s
  let (first, s) ← takeRange? s
  let _ ← after? " @@".toList s
  return first

/-- What a line of a section is. -/
inductive DiffLine where
  /-- The header of a hunk, with the digits of its first line number. -/
  | hunk (digits : List Char)
  /-- A line that does not count. -/
  | passedOver
  | content (text : List Char)
  deriving DecidableEq, Repr

/-- Tells what a line of a section is. -/
def DiffLine.ofText (line : List Char) : DiffLine :=
  if startsWith ['@', '@'] line then
    match hunkStart? line with
    | some digits => .hunk digits
    | none => .passedOver
  else
    match line with
    | '-' :: _ => .passedOver
    | '\\' :: _ => .passedOver
    | '+' :: text => .content text
    | text => .content text

/-- The marker from which on lines are hidden. -/
def hidingMarker : List Char := "@ai-review-ignore-start".toList

/-- The marker after which lines are shown again. -/
def showingMarker : List Char := "@ai-review-ignore-end".toList

/-- The lines of a section that reviewers see, with their numbers, given whether lines
are hidden, and the number of the next line once a hunk has begun. -/
def visibleLines : Bool → Option Nat → List DiffLine → Except DiffFault (List (Nat × List Char))
  | _, _, [] => .ok []
  | hidden, _, .hunk digits :: rest =>
    if maxDigits < digits.length then .error .tooManyDigits
    else visibleLines hidden (some ((decimalNumber? digits).getD 0)) rest
  | hidden, next, .passedOver :: rest => visibleLines hidden next rest
  | hidden, none, .content _ :: rest => visibleLines hidden none rest
  | hidden, some n, .content text :: rest =>
    if occurs hidingMarker text then visibleLines true (some (n + 1)) rest
    else if occurs showingMarker text then visibleLines false (some (n + 1)) rest
    else if hidden then visibleLines true (some (n + 1)) rest
    else (visibleLines false (some (n + 1)) rest).map ((n, text) :: ·)

/-- The change that a section shows, unless nothing of it is to be seen. -/
def DiffSection.change? (root : Path) (suffixes : List String) (s : DiffSection) :
    Except DiffFault (Option Change) :=
  match s.path? root suffixes with
  | none => .ok none
  | some path =>
    (visibleLines false none (s.body.map .ofText)).map fun seen =>
      if seen.isEmpty then none
      else some ⟨path, seen.map fun (_, text) => String.ofList text, seen.map Prod.fst⟩

/-- The changes that a diff shows in files with some extensions below a root. -/
def stagedChanges (root : Path) (extensions : List String) (diff : String) :
    Except DiffFault (List Change) :=
  let (_, sections) := diffSections (boundaryLines diff.toList)
  (sections.mapM (DiffSection.change? root (extensions.map small))).map (·.filterMap id)

end SourceAudit
