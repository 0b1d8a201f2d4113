import SourceAudit.Text.Digit
import SourceAudit.Value.Basic

/-!
# Reading JSON

Reads a text as one JSON value. Beside the standard's values `NaN`, `Infinity` and
`-Infinity` are numbers; of two entries with one key the last gives the value and the
first the place. A number without fraction and exponent is whole. A text that is not
JSON is refused, and so, each with a fault of its own, are a whole number with more
digits than `Text.maxDigits` and values nested deeper than a limit.
-/

namespace SourceAudit.Json

open Text

/-- Why a text was not read. -/
inductive Fault where
  | malformed
  | tooManyDigits
  | tooDeep
  deriving DecidableEq, Repr

/-- What a reading step gives: a result, and the text after it. -/
abbrev Step (α : Type) := Except Fault (α × List Char)

/-- The text without the blanks that may stand between two parts of a value. -/
def skipBlanks : List Char → List Char
  | [] => []
  | c :: s =>
    if c = ' ' || c = '\t' || c = '\n' || c = '\r' then skipBlanks s else c :: s

/-- The unit that four hexadecimal digits denote. -/
def jsonUnit? (a b c d : Char) : Option Nat := do
  let a ← hexValue? a
  let b ← hexValue? b
  let c ← hexValue? c
  let d ← hexValue? d
  return ((a * 16 + b) * 16 + c) * 16 + d

/-- The character that a letter after a backslash stands for. -/
def jsonEscape? : Char → Option Char
  | '"' => some '"'
  | '\\' => some '\\'
  | '/' => some '/'
  | 'b' => some (Char.ofNat 8)
  | 'f' => some (Char.ofNat 12)
  | 'n' => some '\n'
  | 'r' => some '\r'
  | 't' => some '\t'
  | _ => none

/-- The characters that a row of code points denotes. Two halves of a pair make one
character, and half of a pair alone is replaced. -/
def pairUnits : List Nat → List Char
  | [] => []
  | [n] => [if 0xD800 ≤ n && n < 0xE000 then Char.ofNat 0xFFFD else Char.ofNat n]
  | high :: low :: rest =>
    if 0xD800 ≤ high && high < 0xDC00 && 0xDC00 ≤ low && low < 0xE000 then
      Char.ofNat (0x10000 + (high - 0xD800) * 0x400 + (low - 0xDC00)) :: pairUnits rest
    else if 0xD800 ≤ high && high < 0xE000 then
      Char.ofNat 0xFFFD :: pairUnits (low :: rest)
    else Char.ofNat high :: pairUnits (low :: rest)

/-- The code points of a text up to its closing quote, and what follows the quote. -/
def readUnits : List Char → Step (List Nat)
  | [] => .error .malformed
  | '"' :: s => .ok ([], s)
  | '\\' :: 'u' :: a :: b :: c :: d :: s =>
    match jsonUnit? a b c d with
    | some n => (readUnits s).map fun (t, rest) => (n :: t, rest)
    | none => .error .malformed
  | '\\' :: e :: s =>
    match jsonEscape? e with
    | some c => (readUnits s).map fun (t, rest) => (c.toNat :: t, rest)
    | none => .error .malformed
  | c :: s =>
    if c.toNat < 32 || c = '\\' then .error .malformed
    else (readUnits s).map fun (t, rest) => (c.toNat :: t, rest)

/-- The text before its closing quote, and what follows the quote. -/
def readText (s : List Char) : Step String :=
  (readUnits s).map fun (units, rest) => (String.ofList (pairUnits units), rest)

/-- The number of an exponent, when `s` begins with one, and what follows it. -/
def readExponent? : List Char → Option (Int × List Char)
  | e :: s =>
    if e = 'e' || e = 'E' then
      let (sign, s) : Int × List Char := match s with
        | '+' :: s => (1, s)
        | '-' :: s => (-1, s)
        | s => (1, s)
      let ds := s.takeWhile isAsciiDigit
      (decimalNumber? ds).map fun n => (sign * n, s.dropWhile isAsciiDigit)
    else none
  | [] => none

/-- A number, read from its first digit on. -/
def readNumber (negative : Bool) (s : List Char) : Step Value :=
  let whole := match s with
    | '0' :: _ => ['0']
    | s => s.takeWhile isAsciiDigit
  let rest := s.drop whole.length
  if whole.isEmpty then .error .malformed
  else
    let (places, rest) := match rest with
      | '.' :: t =>
        let ds := t.takeWhile isAsciiDigit
        if ds.isEmpty then ([], rest) else (ds, t.drop ds.length)
      | _ => ([], rest)
    let exponent := readExponent? rest
    if places.isEmpty && exponent.isNone then
      if whole.length > maxDigits then .error .tooManyDigits
      else
        let n : Int := (decimalNumber? whole).getD 0
        .ok (.int (if negative then -n else n), rest)
    else
      let coefficient := (decimalNumber? (whole ++ places)).getD 0
      let (e, rest) := exponent.getD (0, rest)
      .ok (.decimal (.settle (.finite negative coefficient (e - places.length))), rest)

/-- What follows a word at the beginning of a text, with the value the word denotes. -/
def jsonWord (word : String) (v : Value) (s : List Char) : Step Value :=
  if word.toList.isPrefixOf s then .ok (v, s.drop word.length) else .error .malformed

/-- A value that begins with `c` and holds no other values. -/
def readScalar (s : List Char) : Step Value :=
  match s with
  | '"' :: s => (readText s).map fun (t, rest) => (.text t, rest)
  | 'n' :: _ => jsonWord "null" .null s
  | 't' :: _ => jsonWord "true" (.bool true) s
  | 'f' :: _ => jsonWord "false" (.bool false) s
  | 'N' :: _ => jsonWord "NaN" (.decimal .undefined) s
  | 'I' :: _ => jsonWord "Infinity" (.decimal (.infinite false)) s
  | '-' :: 'I' :: _ => jsonWord "-Infinity" (.decimal (.infinite true)) s
  | '-' :: s => readNumber true s
  | s => readNumber false s

mutual

/-- A value at the beginning of a text. Every call spends one unit of the budget, and
every list or table a value stands in one unit of room. -/
def readValue : Nat → Nat → List Char → Step Value
  | 0, _, _ => .error .malformed
  | budget + 1, room, s =>
    match s, room with
    | '[' :: _, 0 => .error .tooDeep
    | '\x7b' :: _, 0 => .error .tooDeep
    | '[' :: s, room + 1 =>
      match skipBlanks s with
      | ']' :: rest => .ok (.list [], rest)
      | s => (readItems budget room s).map fun (items, rest) => (.list items, rest)
    | '\x7b' :: s, room + 1 =>
      match skipBlanks s with
      | '\x7d' :: rest => .ok (.table [], rest)
      | s => (readEntries budget room [] s).map fun (entries, rest) => (.table entries, rest)
    | s, _ => readScalar s

/-- The items of a list from the first one on, through the closing bracket. -/
def readItems : Nat → Nat → List Char → Step (List Value)
  | 0, _, _ => .error .malformed
  | budget + 1, room, s =>
    match readValue budget room s with
    | .error e => .error e
    | .ok (v, rest) =>
      match skipBlanks rest with
      | ']' :: rest => .ok ([v], rest)
      | ',' :: rest =>
        (readItems budget room (skipBlanks rest)).map fun (items, rest) => (v :: items, rest)
      | _ => .error .malformed

/-- The entries of a table after those already read, through the closing brace. -/
def readEntries : Nat → Nat → Entries → List Char → Step Entries
  | 0, _, _, _ => .error .malformed
  | budget + 1, room, before, s =>
    match s with
    | '"' :: s =>
      match readText s with
      | .error e => .error e
      | .ok (key, rest) =>
        match skipBlanks rest with
        | ':' :: rest =>
          match readValue budget room (skipBlanks rest) with
          | .error e => .error e
          | .ok (v, rest) =>
            let entries := before.put key v
            match skipBlanks rest with
            | '\x7d' :: rest => .ok (entries, rest)
            | ',' :: rest => readEntries budget room entries (skipBlanks rest)
            | _ => .error .malformed
        | _ => .error .malformed
    | _ => .error .malformed

end

/-- The value that a whole text denotes, with lists and tables nested at most `room`
deep. -/
def readWithin (room : Nat) (s : List Char) : Except Fault Value :=
  match readValue (2 * s.length + 2) room (skipBlanks s) with
  | .error e => .error e
  | .ok (v, rest) => if (skipBlanks rest).isEmpty then .ok v else .error .malformed

/-- How deep lists and tables may be nested in a message. -/
def nestingLimit : Nat := 990

/-- The value that a message denotes. -/
def read (s : List Char) : Except Fault Value :=
  readWithin nestingLimit s

/-- The value that a string denotes, however deep it is nested. -/
def parse (s : String) : Except Fault Value :=
  readWithin s.length s.toList

end SourceAudit.Json
