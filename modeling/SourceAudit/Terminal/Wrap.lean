import SourceAudit.Terminal.Width
import SourceAudit.Text.Blank
import SourceAudit.Text.Lines

/-!
# Breaking lines

A text is shown in lines of a bounded number of cells. A line is broken between words; a
word that fits on no line is broken where a line is full, or cut off. Blanks at the end
of a line may stand over its bound and are dropped there.
-/

namespace SourceAudit.Terminal

open Text

/-- What becomes of a word that fits on no line. -/
inductive Overflow where
  /-- It goes on in the next line. -/
  | fold
  /-- It is cut off, with an ellipsis for the rest. -/
  | ellipsis
  deriving DecidableEq, Repr

/-- The text without the controls that would move the cursor. -/
def withoutControls (s : List Char) : List Char :=
  s.filter fun c => !([7, 8, 11, 12, 13].contains c.toNat)

/-- The distance between tab stops. -/
def tabWidth : Nat := 8

/-- The line with its tabs turned into blanks up to the next tab stop, given the cells
before it. -/
def expandTabs : Nat → List Char → List Char
  | _, [] => []
  | position, c :: s =>
    if c = '\t' then
      let blanks := tabWidth - position % tabWidth
      List.replicate blanks ' ' ++ expandTabs (position + blanks) s
    else c :: expandTabs (position + charWidth c) s

/-- The words of a line, each with the blanks after it, the first with those before it as
well, given the word that has been begun. -/
private def wordsAfter : List Char → List Char → List (List Char)
  | begun, [] => if isBlankText begun then [] else [begun]
  | begun, c :: s =>
    let closed := !isBlankText begun && begun.getLast?.any isBlank
    if closed && !isBlank c then begun :: wordsAfter [c] s else wordsAfter (begun ++ [c]) s

/-- The words of a line, each with the blanks after it, the first with those before it as
well. A blank line has no words. -/
def words (line : List Char) : List (List Char) :=
  wordsAfter [] line

/-- A word in parts that fill the cells of a line each, given the part that has been begun
and its width. -/
def fillLines (cells : Nat) : List Char → Nat → List Char → List (List Char)
  | begun, _, [] => [begun]
  | begun, used, c :: s =>
    if cells < used + charWidth c then begun :: fillLines cells [c] (charWidth c) s
    else fillLines cells (begun ++ [c]) (used + charWidth c) s

/-- Lays words out in lines, given the line that has been begun and the cells used of
it. -/
def layWords (overflow : Overflow) (cells : Nat) :
    List Char → Nat → List (List Char) → List (List Char)
  | line, _, [] => [line]
  | line, used, word :: rest =>
    let size := width (trimRight word)
    let before := if line.isEmpty then [] else [line]
    if used + size ≤ cells then layWords overflow cells (line ++ word) (used + width word) rest
    else if cells < size && overflow = .fold then
      let parts := fillLines cells [] 0 word
      let last := parts.getLast?.getD []
      before ++ parts.dropLast ++ layWords overflow cells last (width last) rest
    else before ++ layWords overflow cells word (width word) rest

/-- The beginning of a line that takes a number of cells, with a blank for half a wide
character. -/
def cropped : Nat → List Char → List Char
  | _, [] => []
  | cells, c :: s =>
    if charWidth c ≤ cells then c :: cropped (cells - charWidth c) s
    else List.replicate cells ' '

/-- A line within its bound: blanks beyond it are dropped, and what else is beyond it is
cut off. -/
def fitted (overflow : Overflow) (cells : Nat) (line : List Char) : List Char :=
  let excess := line.length - cells
  let blanks := line.length - (trimRight line).length
  let line := line.take (line.length - min excess blanks)
  if width line ≤ cells then line
  else
    match overflow with
    | .fold => cropped cells line
    | .ellipsis => cropped (cells - 1) line ++ ['…']

/-- The lines of one line of text. -/
def brokenLine (overflow : Overflow) (keepWhole : Bool) (cells : Nat) (line : List Char) :
    List (List Char) :=
  let line := expandTabs 0 line
  let laid :=
    if keepWhole || (words line).isEmpty then [line]
    else layWords overflow cells [] 0 (words line)
  laid.map (fitted overflow cells)

/-- The lines of a text within a number of cells; with `keepWhole` lines are cut off and
never broken. -/
def broken (overflow : Overflow) (keepWhole : Bool) (cells : Nat) (s : List Char) :
    List (List Char) :=
  (feedLines s).flatMap (brokenLine overflow keepWhole cells)

/-- The line with blanks up to a number of cells. -/
def padded (cells : Nat) (line : List Char) : List Char :=
  line ++ List.replicate (cells - width line) ' '

/-! ### Words -/

private theorem flatten_wordsAfter {begun line : List Char}
    (h : isBlankText (begun ++ line) = false) :
  (wordsAfter begun line).flatten = begun ++ line
  := by
  induction line generalizing begun with
  | nil =>
      rw [List.append_nil] at h
      rw [wordsAfter, if_neg (by simp [h]), List.flatten_singleton, List.append_nil]
  | cons c line ih =>
      rw [wordsAfter]
      split
      · rename_i hclosed
        have hc : isBlank c = false := by
          simp only [Bool.and_eq_true, Bool.not_eq_true'] at hclosed
          exact hclosed.2
        have hrest : isBlankText ([c] ++ line) = false := by
          rw [isBlankText, List.singleton_append, List.all_cons, hc, Bool.false_and]
        rw [List.flatten_cons, ih hrest, List.singleton_append]
      · rw [List.append_cons] at h
        rw [ih h, List.append_cons begun c line]

private theorem wordsAfter_of_blank {begun line : List Char}
    (h : isBlankText (begun ++ line) = true) :
  wordsAfter begun line = []
  := by
  induction line generalizing begun with
  | nil =>
      rw [List.append_nil] at h
      rw [wordsAfter, if_pos h]
  | cons c line ih =>
      have hbegun : isBlankText begun = true := by
        rw [isBlankText, List.all_append, Bool.and_eq_true] at h
        exact h.1
      rw [List.append_cons] at h
      rw [wordsAfter, hbegun]
      exact ih h

/-- A blank line has no words. -/
theorem words_of_blank {line : List Char} (h : isBlankText line = true) :
  words line = []
  := wordsAfter_of_blank h

/-- The words of a line that is not blank make up the line. -/
theorem flatten_words {line : List Char} (h : isBlankText line = false) :
  (words line).flatten = line
  := by
  rw [words, flatten_wordsAfter (by rwa [List.nil_append]), List.nil_append]

end SourceAudit.Terminal
