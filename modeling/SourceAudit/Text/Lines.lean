import SourceAudit.Text.Search

/-!
# Lines

Three ways a text falls into lines.

* `sourceLines`: a line of source code ends at a line feed, a carriage return, or the
  two in that order. These are the lines that rules, directives and positions count.
* `boundaryLines`: a line ends at any of Unicode's line boundaries as well, and a text
  that ends with a boundary has no empty last line. A diff and a snippet are cut so.
* `unifyBreaks`: every line break of a file is read as a line feed.
-/

namespace SourceAudit.Text

/-- The text with every carriage return, alone or before a line feed, turned into one
line feed. -/
def unifyBreaks : List Char → List Char
  | [] => []
  | '\r' :: '\n' :: s => '\n' :: unifyBreaks s
  | '\r' :: s => '\n' :: unifyBreaks s
  | c :: s => c :: unifyBreaks s

/-- The lines of a text in which line feeds alone end a line. -/
def feedLines (s : List Char) : List (List Char) :=
  pieces '\n' s

/-- The lines of a source text: a line feed, a carriage return, or the two in that
order end a line. -/
def sourceLines (s : List Char) : List (List Char) :=
  feedLines (unifyBreaks s)

/-- Whether a character ends a line by itself: line feed, vertical tab, form feed,
carriage return, the file, group and record separators, next line, and the line and
paragraph separators. -/
def isBoundary (c : Char) : Bool :=
  let n := c.toNat
  (10 ≤ n && n ≤ 13) || (28 ≤ n && n ≤ 30) || n == 0x85 || n == 0x2028 || n == 0x2029

/-- The lines of a text cut at every line boundary. -/
def boundaryLines : List Char → List (List Char)
  | [] => []
  | '\r' :: '\n' :: s => [] :: boundaryLines s
  | c :: s =>
    if isBoundary c then [] :: boundaryLines s
    else
      match boundaryLines s with
      | [] => [[c]]
      | l :: ls => (c :: l) :: ls

/-! ### Laws of source lines -/

theorem feedLines_ne_nil (s : List Char) :
  feedLines s ≠ []
  := pieces_ne_nil '\n' s

end SourceAudit.Text
