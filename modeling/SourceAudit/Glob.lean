import SourceAudit.Text.Search

/-!
# Glob patterns

A star stands for any text, a question mark for any character, and a set in brackets for
one character of the set, or, after an exclamation mark, for one outside it. Slashes are
characters like any other. An opening bracket that is not closed stands for itself.

In a set a hyphen between two characters makes a range. A range that runs backwards is
empty: both its ends are dropped. A set of nothing matches nothing, and the complement of
nothing matches any character.
-/

namespace SourceAudit.Glob

/-- The characters that a set names: single ones, and ranges with both ends. -/
structure CharSet where
  singles : List Char
  ranges : List (Char × Char)
  deriving DecidableEq, Repr

def CharSet.contains (s : CharSet) (c : Char) : Bool :=
  s.singles.contains c || s.ranges.any fun (low, high) => low ≤ c && c ≤ high

/-- One part of a pattern. -/
inductive Part where
  | star
  | anyChar
  | char (c : Char)
  | oneOf (s : CharSet)
  | noneOf (s : CharSet)
  | never
  deriving DecidableEq, Repr

/-! ### Sets -/

/-- The text before and after the first hyphen that has at least `skip` characters before
it. -/
private def globCutHyphen? (skip : Nat) (s : List Char) : Option (List Char × List Char) :=
  (Text.cut? ['-'] (s.drop skip)).map fun (before, rest) => (s.take skip ++ before, rest)

/-- The chunks of a set, between the hyphens that make ranges. The first such hyphen has
at least `skip` characters before it, and every later one at least two. -/
private def globChunks : Nat → Nat → List Char → List (List Char)
  | 0, _, s => [s]
  | budget + 1, skip, s =>
    match globCutHyphen? skip s with
    | none => [s]
    | some (chunk, rest) => chunk :: globChunks budget 2 rest

/-- The chunks, with a hyphen that ends the set joined to the chunk before it. -/
private def globCloseChunks : List (List Char) → List (List Char)
  | [] => []
  | [chunk] => [chunk]
  | [chunk, []] => [chunk ++ ['-']]
  | chunk :: rest => chunk :: globCloseChunks rest

/-- The chunks without backward ranges: the ends of such a range are dropped and the
chunks around it joined, from the last range to the first. -/
private def globForward : List (List Char) → List (List Char)
  | [] => []
  | chunk :: rest =>
    match globForward rest with
    | [] => [chunk]
    | next :: rest =>
      match chunk.getLast?, next with
      | some low, high :: tail =>
        if high < low then (chunk.dropLast ++ tail) :: rest else chunk :: next :: rest
      | _, _ => chunk :: next :: rest

/-- The ranges between neighbouring chunks. -/
private def globRanges : List (List Char) → List (Char × Char)
  | chunk :: next :: rest =>
    match chunk.getLast?, next.head? with
    | some low, some high => (low, high) :: globRanges (next :: rest)
    | _, _ => globRanges (next :: rest)
  | _ => []

/-- The part that the text between brackets denotes. -/
def setPart (stuff : List Char) : Part :=
  let skip := if stuff.head? == some '!' then 2 else 1
  let chunks := globForward (globCloseChunks (globChunks stuff.length skip stuff))
  match chunks with
  | [[]] => .never
  | ['!'] :: [] => .anyChar
  | ('!' :: chunk) :: rest => .noneOf ⟨chunk ++ rest.flatten, globRanges (chunk :: rest)⟩
  | chunks => .oneOf ⟨chunks.flatten, globRanges chunks⟩

/-- The text between an opening bracket and the bracket that closes it, and what follows.
A closing bracket at the very beginning, or after an exclamation mark there, belongs to
the set. -/
def closeSet? (s : List Char) : Option (List Char × List Char) :=
  let (start, rest) := match s with
    | '!' :: ']' :: rest => (['!', ']'], rest)
    | '!' :: rest => (['!'], rest)
    | ']' :: rest => ([']'], rest)
    | rest => ([], rest)
  (Text.cut? [']'] rest).map fun (inner, rest) => (start ++ inner, rest)

/-! ### Patterns -/

/-- The parts of a pattern. -/
private def globParts : Nat → List Char → List Part
  | 0, _ => []
  | _ + 1, [] => []
  | budget + 1, c :: s =>
    if c = '*' then
      match globParts budget s with
      | .star :: parts => .star :: parts
      | parts => .star :: parts
    else if c = '?' then .anyChar :: globParts budget s
    else if c = '[' then
      match closeSet? s with
      | some (stuff, rest) => setPart stuff :: globParts budget rest
      | none => .char '[' :: globParts budget s
    else .char c :: globParts budget s

/-- Reads a pattern; two stars side by side are one. -/
def parse (pattern : List Char) : List Part :=
  globParts pattern.length pattern

/-- Whether a part other than a star stands for a character. -/
def Part.accepts : Part → Char → Bool
  | .star, _ => false
  | .anyChar, _ => true
  | .char d, c => d = c
  | .oneOf s, c => s.contains c
  | .noneOf s, c => !s.contains c
  | .never, _ => false

/-- Whether the parts of a pattern stand for the whole text. -/
def matchesParts : List Part → List Char → Bool
  | [], s => s.isEmpty
  | .star :: parts, s => (Text.endings s).any (matchesParts parts)
  | part :: parts, c :: s => part.accepts c && matchesParts parts s
  | _ :: _, [] => false

/-! ### Matching all endings at once

Trying a star's lengths one by one takes a time that doubles with every star. Each part
is held against all endings of the text instead, from the last part to the first. -/

/-- Whether a truth value or one after it holds, for each place in a list. -/
def someFrom : List Bool → List Bool
  | [] => []
  | b :: bs =>
    let later := someFrom bs
    (b || later.headD false) :: later

/-- Whether a part and what follows it stand for each ending of the text, given whether
what follows stands for it. -/
def extendMatches (part : Part) (s : List Char) (later : List Bool) : List Bool :=
  match part with
  | .star => someFrom later
  | part => List.zipWith (fun c rest => part.accepts c && rest) s later.tail ++ [false]

/-- Whether the parts of a pattern stand for each ending of the text, the whole text
first. -/
def matchedEndings (s : List Char) : List Part → List Bool
  | [] => (Text.endings s).map List.isEmpty
  | part :: parts => extendMatches part s (matchedEndings s parts)

/-- Whether the pattern stands for the whole text. -/
def matchesText (pattern s : List Char) : Bool :=
  (matchedEndings s (parse pattern)).headD false

theorem headD_someFrom (bs : List Bool) :
  (someFrom bs).headD false = bs.any id
  := by
  induction bs with
  | nil => rfl
  | cons b bs ih =>
      rw [someFrom, List.headD_cons, ih]
      rfl

theorem someFrom_map_endings (f : List Char → Bool) (s : List Char) :
  someFrom ((Text.endings s).map f) = (Text.endings s).map fun t => (Text.endings t).any f
  := by
  induction s with
  | nil => simp [Text.endings, someFrom]
  | cons c s ih =>
      rw [Text.endings, List.map_cons, someFrom, headD_someFrom, ih]
      simp [Text.endings, List.any_map]

theorem zipWith_tail_endings (accepts : Char → Bool) (f : List Char → Bool) (s : List Char) :
  List.zipWith (fun c rest => accepts c && rest) s ((Text.endings s).map f).tail ++ [false]
    = (Text.endings s).map fun
      | [] => false
      | c :: t => accepts c && f t
  := by
  induction s with
  | nil => rfl
  | cons c s ih =>
      rw [Text.endings, List.map_cons, List.tail_cons, List.map_cons, ← ih]
      cases s <;> simp [Text.endings]

theorem matchedEndings_eq (s : List Char) (parts : List Part) :
  matchedEndings s parts = (Text.endings s).map (matchesParts parts)
  := by
  induction parts with
  | nil =>
      apply List.map_congr_left
      intro t _
      cases t <;> rfl
  | cons part parts ih =>
      rw [matchedEndings, ih]
      cases part with
      | star =>
          rw [extendMatches, someFrom_map_endings]
          apply List.map_congr_left
          intro t _
          rw [matchesParts]
      | _ =>
          rw [extendMatches, zipWith_tail_endings]
          · apply List.map_congr_left
            intro t _
            cases t <;> simp [matchesParts]
          · simp

/-- Matching all endings at once finds what the meaning of the parts says. -/
theorem matchesText_eq (pattern s : List Char) :
  matchesText pattern s = matchesParts (parse pattern) s
  := by
  rw [matchesText, matchedEndings_eq]
  cases s <;> rfl

end SourceAudit.Glob
