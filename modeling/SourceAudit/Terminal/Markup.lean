import SourceAudit.Terminal.Picture

/-!
# Markup

Labels may hold tags in square brackets, which change how the text looks and are not
shown themselves. A tag begins with a small letter, a number sign, a slash or an at sign;
other brackets are text, and so is a tag behind an odd number of backslashes. A closing
tag has to close a tag that is open. Names between colons are replaced by pictures.
-/

namespace SourceAudit.Terminal

open Text

/-- A piece of a label. -/
inductive Piece where
  | plain (text : List Char)
  | tag (name : List Char)
  deriving DecidableEq, Repr

/-- Why a label cannot be shown. -/
inductive MarkupFault where
  /-- A closing tag has nothing to close. -/
  | nothingToClose (name : String)
  deriving DecidableEq, Repr

/-- Whether a tag can begin with a character. -/
def opensTag (c : Char) : Bool :=
  ('a' ≤ c && c ≤ 'z') || c = '#' || c = '/' || c = '@'

/-- What stands before the closing bracket of a tag, and the text after it. No bracket
opens on the way. -/
def readTagEnd : List Char → Option (List Char × List Char)
  | [] => none
  | c :: s =>
    if c = ']' then some ([], s)
    else if c = '[' then none
    else (readTagEnd s).map fun (t, rest) => (c :: t, rest)

/-- A tag at the beginning of a text, with the text after it. -/
def readTag? : List Char → Option (List Char × List Char)
  | '[' :: c :: s =>
    if opensTag c then (readTagEnd s).map fun (t, rest) => (c :: t, rest) else none
  | _ => none

/-- The name of a tag, without the parameters after an equals sign. -/
def tagName (tag : List Char) : List Char :=
  tag.takeWhile (· ≠ '=')

/-- The pieces of a label, after text that stands before them; the budget is the length
of the label. -/
def labelPieces : Nat → List Char → List Char → List Piece
  | 0, before, s => [.plain (before.reverse ++ s)]
  | _, before, [] => [.plain before.reverse]
  | budget + 1, before, c :: s =>
    let slashes := (c :: s).takeWhile (· = '\\')
    match readTag? ((c :: s).drop slashes.length) with
    | none => labelPieces budget (c :: before) s
    | some (tag, rest) =>
      let kept := List.replicate (slashes.length / 2) '\\'
      let shown : List Piece :=
        if slashes.length % 2 = 1 then [.plain kept, .plain ('[' :: tag ++ [']'])]
        else [.plain kept, .tag (tagName tag)]
      .plain before.reverse :: shown ++ labelPieces budget [] rest

/-- Plain text of a label as it is shown: a backslash before a bracket is left out. -/
def unescaped : List Char → List Char
  | '\\' :: '[' :: s => '[' :: unescaped s
  | c :: s => c :: unescaped s
  | [] => []

/-- The long names of attributes that have a short one. -/
private def attributeNames : List (String × String) := [
  ("b", "bold"), ("d", "dim"), ("i", "italic"), ("u", "underline"), ("uu", "underline2"),
  ("r", "reverse"), ("s", "strike"), ("o", "overline"), ("c", "conceal")]

/-- The form of a tag's name in which an opening and a closing tag are compared. -/
def tagStyle (name : List Char) : String :=
  let name := small (String.ofList (trim name))
  (attributeNames.lookup name).getD name

/-- Whether the tags of a label close what is open, given the open tags, last first. -/
def checkTags : List String → List Piece → Except MarkupFault Unit
  | _, [] => .ok ()
  | opened, .plain _ :: rest => checkTags opened rest
  | opened, .tag ('/' :: name) :: rest =>
    let style := tagStyle name
    if style = "" then
      if opened.isEmpty then .error (.nothingToClose "") else checkTags opened.tail rest
    else if opened.contains style then checkTags (opened.erase style) rest
    else .error (.nothingToClose style)
  | opened, .tag name :: rest => checkTags (tagStyle name :: opened) rest

/-- What is shown of a piece. -/
def Piece.shown : Piece → List Char
  | .plain text => withPictures (unescaped text)
  | .tag _ => []

/-- What is shown of a label. -/
def shownLabel (label : String) : Except MarkupFault (List Char) :=
  let s := label.toList
  if s.contains '[' then
    let pieces := labelPieces s.length [] s
    (checkTags [] pieces).map fun _ => pieces.flatMap Piece.shown
  else .ok (withPictures s)

end SourceAudit.Terminal
