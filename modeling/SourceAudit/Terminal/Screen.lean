import SourceAudit.Terminal.Markup
import SourceAudit.Terminal.Wrap

/-!
# Screens

What is shown on a terminal is a list of lines. A paragraph is a text broken into lines; a
block is code, whose lines are cut off and never broken; a panel is a box around
paragraphs and blocks, as wide as the screen, with a title at the left of its upper edge
and a subtitle in the middle of its lower edge.
-/

namespace SourceAudit.Terminal

open Text

/-- Lines of a terminal from top to bottom. -/
abbrev Screen := List (List Char)

/-- The number of cells of a line. -/
def screenWidth : Nat := 160

/-- A text in lines of a number of cells. -/
def paragraphIn (cells : Nat) (s : String) : Screen :=
  broken .fold false cells (withoutControls s.toList)

/-- A text in lines as wide as the screen. -/
def paragraph (s : String) : Screen :=
  paragraphIn screenWidth s

/-- A text in lines as wide as the screen, with names between colons replaced by
pictures. -/
def pictureParagraph (s : String) : Screen :=
  broken .fold false screenWidth (withoutControls (withPictures s.toList))

/-- A text on a line of its own however long it is, with names between colons replaced by
pictures. -/
def unbrokenLines (s : String) : Screen :=
  (feedLines (withoutControls (withPictures s.toList))).map (expandTabs 0)

/-- The lines of code. -/
def blockIn (cells : Nat) (code : String) : Screen :=
  broken .fold true cells (withoutControls code.toList)

/-- A line across the screen. -/
def ruleLine : List Char :=
  List.replicate screenWidth '─'

/-- A title on an edge, with a blank on both sides, within a number of cells. -/
private def edgeTitle (cells : Nat) (title : List Char) : List Char :=
  let title := replaceChar '\n' ' ' (withoutControls title)
  fitted .fold cells (' ' :: expandTabs 0 title ++ [' '])

/-- An edge of a box between its corners; the title stands after `before` parts of what is
left free. -/
private def boxEdge (left right : Char) (title : Option (List Char)) (before : Nat → Nat) :
    List Char :=
  match title with
  | none => left :: List.replicate (screenWidth - 2) '─' ++ [right]
  | some title =>
    let cells := screenWidth - 4
    let title := edgeTitle cells title
    let free := cells - width title
    left :: '─' :: List.replicate (before free) '─' ++ title
      ++ List.replicate (free - before free) '─' ++ ['─', right]

/-- The number of cells of a line in a panel. -/
def panelWidth : Nat :=
  screenWidth - 4

/-- A box around lines. -/
def panel (title subtitle : Option (List Char)) (body : Screen) : Screen :=
  boxEdge '╭' '╮' title (fun _ => 0)
    :: body.map (fun line => '│' :: ' ' :: padded panelWidth line ++ [' ', '│'])
    ++ [boxEdge '╰' '╯' subtitle (· / 2)]

/-! ### Printing -/

/-- What comes of printing one thing after another. -/
structure Printout where
  lines : Screen
  /-- Whether there was nothing that cannot be printed. -/
  whole : Bool

/-- Prints one thing after another, up to the first that cannot be printed. -/
def printAll : List (Option Screen) → Printout
  | [] => ⟨[], true⟩
  | none :: _ => ⟨[], false⟩
  | some lines :: rest =>
    let later := printAll rest
    ⟨lines ++ later.lines, later.whole⟩

end SourceAudit.Terminal
