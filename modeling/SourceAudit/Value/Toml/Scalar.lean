import SourceAudit.Text.Digit
import SourceAudit.Value.Basic

/-!
# Scalars of TOML

The strings, numbers, dates and times of a TOML document. The text is one whose line
breaks are line feeds. Every function reads from the beginning of a text and gives what
follows.
-/

namespace SourceAudit.Toml

open Text

/-- Why a document is not read. -/
inductive Fault where
  | malformed
  | tooManyDigits
  | tooDeep
  deriving DecidableEq, Repr

/-- What a reading step gives: a result, and the text after it. -/
abbrev Step (α : Type) := Except Fault (α × List Char)

/-- Whether a character is a blank within a line. -/
def isSpace (c : Char) : Bool :=
  c = ' ' || c = '\t'

def skipSpace (s : List Char) : List Char :=
  s.dropWhile isSpace

/-- Whether a character is a control that no string on one line and no comment may
hold. -/
def isControl (c : Char) : Bool :=
  (c.toNat < 32 && c ≠ '\t') || c.toNat = 127

/-! ### Strings -/

/-- The text before a closing apostrophe. -/
def readLiteral : List Char → Step (List Char)
  | [] => .error .malformed
  | c :: s =>
    if c = '\'' then .ok ([], s)
    else if isControl c then .error .malformed
    else (readLiteral s).map fun (t, rest) => (c :: t, rest)

/-- The text before three closing apostrophes. -/
def readLongLiteral : List Char → Step (List Char)
  | [] => .error .malformed
  | '\'' :: '\'' :: '\'' :: s => .ok ([], s)
  | c :: s =>
    if isControl c && c ≠ '\n' then .error .malformed
    else (readLongLiteral s).map fun (t, rest) => (c :: t, rest)

/-- The character that a letter after a backslash stands for. -/
private def tomlEscape? : Char → Option Char
  | 'b' => some (Char.ofNat 8)
  | 't' => some '\t'
  | 'n' => some '\n'
  | 'f' => some (Char.ofNat 12)
  | 'r' => some '\r'
  | '"' => some '"'
  | '\\' => some '\\'
  | _ => none

/-- The character that hexadecimal digits denote. -/
private def tomlHexChar? (ds : List Char) : Option Char := do
  let n ← ds.foldlM (fun acc d => (hexValue? d).map (acc * 16 + ·)) 0
  if n < 0xD800 || (0xE000 ≤ n && n < 0x110000) then some (Char.ofNat n) else none

/-- What is passed over after a backslash at the end of a line: nothing, blanks up to
the end of the line, or blanks and line breaks. -/
inductive Skipping where
  | nothing
  | toLineEnd
  | blankLines
  deriving DecidableEq

/-- The text before the closing quote, or before three of them in a long string. -/
def readBasic (long : Bool) : Skipping → List Char → Step (List Char)
  | _, [] => .error .malformed
  | mode, c :: s =>
    if mode = .toLineEnd then
      if isSpace c then readBasic long .toLineEnd s
      else if c = '\n' then readBasic long .blankLines s
      else .error .malformed
    else if mode = .blankLines && (isSpace c || c = '\n') then readBasic long .blankLines s
    else if c = '"' then
      if !long then .ok ([], s)
      else
        match s with
        | '"' :: '"' :: rest => .ok ([], rest)
        | s => (readBasic long .nothing s).map fun (t, rest) => ('"' :: t, rest)
    else if c = '\\' then
      match s with
      | 'u' :: a :: b :: c :: d :: s =>
        match tomlHexChar? [a, b, c, d] with
        | some c => (readBasic long .nothing s).map fun (t, rest) => (c :: t, rest)
        | none => .error .malformed
      | 'U' :: a :: b :: c :: d :: e :: f :: g :: h :: s =>
        match tomlHexChar? [a, b, c, d, e, f, g, h] with
        | some c => (readBasic long .nothing s).map fun (t, rest) => (c :: t, rest)
        | none => .error .malformed
      | e :: s =>
        if long && isSpace e then readBasic long .toLineEnd s
        else if long && e = '\n' then readBasic long .blankLines s
        else
          match tomlEscape? e with
          | some c => (readBasic long .nothing s).map fun (t, rest) => (c :: t, rest)
          | none => .error .malformed
      | [] => .error .malformed
    else if isControl c && !(long && c = '\n') then .error .malformed
    else (readBasic long .nothing s).map fun (t, rest) => (c :: t, rest)

/-- A long string with up to two more of its closing characters. -/
private def tomlExtraQuotes (quote : Char) : List Char × List Char → List Char × List Char
  | (t, rest) =>
    match rest with
    | c :: d :: rest' =>
      if c = quote && d = quote then (t ++ [quote, quote], rest')
      else if c = quote then (t ++ [quote], d :: rest')
      else (t, rest)
    | [c] => if c = quote then (t ++ [quote], []) else (t, rest)
    | [] => (t, rest)

/-- The text without a line feed it begins with. -/
private def tomlDropFeed : List Char → List Char
  | '\n' :: s => s
  | s => s

/-- A string, when the text begins with one. -/
def readString? : List Char → Option (Step (List Char))
  | '"' :: '"' :: '"' :: s =>
    some ((readBasic true .nothing (tomlDropFeed s)).map (tomlExtraQuotes '"'))
  | '"' :: s => some (readBasic false .nothing s)
  | '\'' :: '\'' :: '\'' :: s =>
    some ((readLongLiteral (tomlDropFeed s)).map (tomlExtraQuotes '\''))
  | '\'' :: s => some (readLiteral s)
  | _ => none

/-! ### Numbers -/

/-- The digits after a first one, with single underscores between digits. -/
def groupedRest (isDigit : Char → Bool) : List Char → List Char × List Char
  | '_' :: c :: s =>
    if isDigit c then
      let (ds, rest) := groupedRest isDigit s
      (c :: ds, rest)
    else ([], '_' :: c :: s)
  | c :: s =>
    if isDigit c then
      let (ds, rest) := groupedRest isDigit s
      (c :: ds, rest)
    else ([], c :: s)
  | [] => ([], [])

/-- Digits with single underscores between them. -/
def grouped? (isDigit : Char → Bool) : List Char → Option (List Char × List Char)
  | c :: s =>
    if isDigit c then
      let (ds, rest) := groupedRest isDigit s
      some (c :: ds, rest)
    else none
  | [] => none

/-- The number that digits denote in a base. -/
private def tomlInBase (base : Nat) (ds : List Char) : Nat :=
  ds.foldl (fun n d => n * base + (hexValue? d).getD 0) 0

/-- A whole number in base sixteen, eight or two. -/
def readRadix? : List Char → Option (Value × List Char)
  | '0' :: c :: s =>
    let radix := match c with
      | 'x' => 16
      | 'o' => 8
      | 'b' => 2
      | _ => 0
    (grouped? (fun d => (hexValue? d).any (· < radix)) s).map fun (ds, rest) =>
      (.int (tomlInBase radix ds), rest)
  | _ => none

/-- The exponent of a number, when the text begins with one. -/
private def tomlExponent? : List Char → Option (Int × List Char)
  | c :: s =>
    if c = 'e' || c = 'E' then
      let (sign, s) : Int × List Char := match s with
        | '+' :: s => (1, s)
        | '-' :: s => (-1, s)
        | s => (1, s)
      (grouped? isAsciiDigit s).map fun (ds, rest) => (sign * tomlInBase 10 ds, rest)
    else none
  | [] => none

/-- A number in base ten, when the text begins with one. -/
def readDecimal? (s : List Char) : Option (Step Value) :=
  let (negative, s) := match s with
    | '+' :: s => (false, s)
    | '-' :: s => (true, s)
    | s => (false, s)
  let whole := match s with
    | '0' :: s => some (['0'], s)
    | s => grouped? isAsciiDigit s
  whole.map fun (ds, rest) =>
    let fraction := match rest with
      | '.' :: t => grouped? isAsciiDigit t
      | _ => none
    let (places, rest) := fraction.getD ([], rest)
    let exponent := tomlExponent? rest
    if fraction.isNone && exponent.isNone then
      if ds.length > maxDigits then .error .tooManyDigits
      else
        let n : Int := tomlInBase 10 ds
        .ok (.int (if negative then -n else n), rest)
    else
      let (e, rest) := exponent.getD (0, rest)
      let d := Decimal.finite negative (tomlInBase 10 (ds ++ places)) (e - places.length)
      .ok (.decimal d.settle, rest)

/-! ### Dates and times -/

/-- The number that two digits denote. -/
private def tomlPair? : List Char → Option (Nat × List Char)
  | a :: b :: s =>
    if isAsciiDigit a && isAsciiDigit b then some (tomlInBase 10 [a, b], s) else none
  | _ => none

/-- What follows a character at the beginning of a text. -/
private def tomlAfter? (c : Char) : List Char → Option (List Char)
  | d :: s => if d = c then some s else none
  | [] => none

/-- A number in two digits. -/
private def twoDigits (n : Nat) : String :=
  String.ofList [Char.ofNat (48 + n / 10 % 10), Char.ofNat (48 + n % 10)]

/-- A fraction of a second after its point, in six digits, unless it is nothing. -/
private def tomlFractionText (ds : List Char) : String :=
  let six := ds.take 6 ++ List.replicate (6 - ds.length) '0'
  if six.all (· = '0') then "" else "." ++ String.ofList six

/-- A time of day in its standard text, when the text begins with one. -/
def readTime? (s : List Char) : Option (String × List Char) := do
  let (hour, s) ← tomlPair? s
  let s ← tomlAfter? ':' s
  let (minute, s) ← tomlPair? s
  let s ← tomlAfter? ':' s
  let (second, s) ← tomlPair? s
  if 23 < hour || 59 < minute || 59 < second then none
  else
    let (fraction, s) := match s with
      | '.' :: t =>
        let ds := t.takeWhile isAsciiDigit
        if ds.isEmpty then ("", s) else (tomlFractionText ds, t.drop ds.length)
      | _ => ("", s)
    some (twoDigits hour ++ ":" ++ twoDigits minute ++ ":" ++ twoDigits second ++ fraction, s)

/-- The distance from universal time in its standard text. -/
def readOffset (s : List Char) : String × List Char :=
  match s with
  | 'Z' :: rest => ("+00:00", rest)
  | 'z' :: rest => ("+00:00", rest)
  | sign :: rest =>
    if sign = '+' || sign = '-' then
      let offset := do
        let (hour, t) ← tomlPair? rest
        let t ← tomlAfter? ':' t
        let (minute, t) ← tomlPair? t
        if 23 < hour || 59 < minute then none else some (hour, minute, t)
      match offset with
      | some (hour, minute, t) =>
        let sign := if hour = 0 && minute = 0 then '+' else sign
        (String.ofList [sign] ++ twoDigits hour ++ ":" ++ twoDigits minute, t)
      | none => ("", s)
    else ("", s)
  | [] => ("", [])

/-- The number of days of a month. -/
def daysIn (year month : Nat) : Nat :=
  if month = 2 then
    if year % 4 = 0 && (year % 100 ≠ 0 || year % 400 = 0) then 29 else 28
  else if [4, 6, 9, 11].contains month then 30
  else 31

/-- A date, with a time of day or without, when the text begins with one. A date that
the calendar does not have is malformed. -/
def readDate? (s : List Char) : Option (Step Value) := do
  let (century, s) ← tomlPair? s
  let (decade, s) ← tomlPair? s
  let s ← tomlAfter? '-' s
  let (month, s) ← tomlPair? s
  let s ← tomlAfter? '-' s
  let (day, s) ← tomlPair? s
  if month = 0 || 12 < month || day = 0 || 31 < day then none
  else
    let year := century * 100 + decade
    let date := twoDigits century ++ twoDigits decade ++ "-" ++ twoDigits month ++ "-"
      ++ twoDigits day
    let time := match s with
      | c :: t => if c = 'T' || c = 't' || c = ' ' then readTime? t else none
      | [] => none
    let valid := year ≠ 0 && day ≤ daysIn year month
    some <|
      if !valid then .error .malformed
      else
        match time with
        | some (time, s) =>
          let (offset, s) := readOffset s
          .ok (.time (date ++ "T" ++ time ++ offset), s)
        | none => .ok (.time date, s)

/-! ### Values that hold no others -/

/-- The value that a word denotes, when the text begins with one of some words. -/
private def tomlWord? (s : List Char) : List (String × Value) → Option (Value × List Char)
  | [] => none
  | (word, v) :: rest =>
    if word.toList.isPrefixOf s then some (v, s.drop word.length) else tomlWord? s rest

/-- A string, truth value, date, time or number. -/
def readScalar (s : List Char) : Step Value :=
  match readString? s with
  | some step => step.map fun (t, rest) => (.text (String.ofList t), rest)
  | none =>
    match tomlWord? s [("true", .bool true), ("false", .bool false)] with
    | some result => .ok result
    | none =>
      match readDate? s with
      | some step => step
      | none =>
        match readTime? s with
        | some (time, rest) => .ok (.time time, rest)
        | none =>
          match readRadix? s with
          | some result => .ok result
          | none =>
            match readDecimal? s with
            | some step => step
            | none =>
              let words := [
                ("inf", Value.decimal (.infinite false)), ("nan", .decimal .undefined),
                ("+inf", .decimal (.infinite false)), ("-inf", .decimal (.infinite true)),
                ("+nan", .decimal .undefined), ("-nan", .decimal .undefined)]
              match tomlWord? s words with
              | some result => .ok result
              | none => .error .malformed

end SourceAudit.Toml
