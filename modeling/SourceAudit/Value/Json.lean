import SourceAudit.Text.Digit
import SourceAudit.Text.Order
import SourceAudit.Text.Quoted
import SourceAudit.Value.Basic

/-!
# JSON text

Values written as JSON, in ASCII alone: on one line with a blank after every comma and
colon, or with every item on a line of its own, indented by two blanks a level.
-/

namespace SourceAudit.Json

open Text

/-- The escape of a sixteen-bit unit. -/
def jsonUnitEscape (unit : Nat) : List Char :=
  '\\' :: 'u' :: hexDigits 4 unit

/-- How one character stands between double quotes. -/
def escapedChar (c : Char) : List Char :=
  if c = '"' then ['\\', '"']
  else if c = '\\' then ['\\', '\\']
  else if c = '\n' then ['\\', 'n']
  else if c = '\r' then ['\\', 'r']
  else if c = '\t' then ['\\', 't']
  else if c.toNat = 8 then ['\\', 'b']
  else if c.toNat = 12 then ['\\', 'f']
  else if 32 ≤ c.toNat && c.toNat < 127 then [c]
  else if c.toNat < 0x10000 then jsonUnitEscape c.toNat
  else
    let n := c.toNat - 0x10000
    jsonUnitEscape (0xD800 + n / 0x400) ++ jsonUnitEscape (0xDC00 + n % 0x400)

/-- A text between double quotes. -/
def textLiteral (s : String) : String :=
  String.ofList ('"' :: s.toList.flatMap escapedChar ++ ['"'])

/-- The places of a decimal after its point that are still written out. -/
private def decimalPlaceLimit : Nat := 30

/-- A decimal: with a point when it has few places, else with an exponent. -/
def decimalLiteral : Decimal → String
  | .finite negative coefficient exponent =>
    let sign := if negative then "-" else ""
    if exponent < 0 && exponent.natAbs ≤ decimalPlaceLimit then
      let places := exponent.natAbs
      let ds := Nat.toDigits 10 coefficient
      let ds := List.replicate (places + 1 - ds.length) '0' ++ ds
      let (whole, part) := ds.splitAt (ds.length - places)
      sign ++ String.ofList (whole ++ '.' :: part)
    else sign ++ natText coefficient ++ "e" ++ intText exponent
  | .infinite negative => if negative then "-Infinity" else "Infinity"
  | .undefined => "NaN"

/-- A value that holds no other values. -/
def scalarLiteral : Value → String
  | .null => "null"
  | .bool b => if b then "true" else "false"
  | .int n => intText n
  | .decimal d => decimalLiteral d
  | .time written => textLiteral written
  | .text s => textLiteral s
  | .list _ => "[]"
  | .table _ => "\x7b\x7d"

mutual

/-- A value on one line. -/
def compact : Value → String
  | .list items => "[" ++ joinWith ", " (compactItems items) ++ "]"
  | .table entries => "\x7b" ++ joinWith ", " (compactEntries entries) ++ "\x7d"
  | v => scalarLiteral v

private def compactItems : List Value → List String
  | [] => []
  | v :: rest => compact v :: compactItems rest

private def compactEntries : List (String × Value) → List String
  | [] => []
  | (k, v) :: rest => (textLiteral k ++ ": " ++ compact v) :: compactEntries rest

end

/-- A line break and the indent of a level. -/
def newLineAt (level : Nat) : String :=
  String.ofList ('\n' :: List.replicate (2 * level) ' ')

/-- Parts on lines of their own, a level deeper than the brackets around them. -/
def jsonBracketed (level : Nat) (opening closing : String) (parts : List String) : String :=
  if parts.isEmpty then opening ++ closing
  else
    opening ++ newLineAt (level + 1) ++ joinWith ("," ++ newLineAt (level + 1)) parts
      ++ newLineAt level ++ closing

mutual

/-- A value spread over lines, standing at a level of indentation. -/
def spreadAt (level : Nat) : Value → String
  | .list items => jsonBracketed level "[" "]" (spreadItems (level + 1) items)
  | .table entries => jsonBracketed level "\x7b" "\x7d" (spreadEntries (level + 1) entries)
  | v => scalarLiteral v

def spreadItems (level : Nat) : List Value → List String
  | [] => []
  | v :: rest => spreadAt level v :: spreadItems level rest

def spreadEntries (level : Nat) : List (String × Value) → List String
  | [] => []
  | (k, v) :: rest => (textLiteral k ++ ": " ++ spreadAt level v) :: spreadEntries level rest

end

/-- A value spread over lines. -/
def spread (v : Value) : String :=
  spreadAt 0 v

mutual

/-- Whether every whole number of a value can be written out. -/
def isWritable : Value → Bool
  | .int n => isWritableNumber n
  | .list items => areWritable items
  | .table entries => areWritableEntries entries
  | _ => true

def areWritable : List Value → Bool
  | [] => true
  | v :: rest => isWritable v && areWritable rest

def areWritableEntries : List (String × Value) → Bool
  | [] => true
  | (_, v) :: rest => isWritable v && areWritableEntries rest

end

/-- A value spread over lines, if every whole number of it can be written out. -/
def spread? (v : Value) : Option String :=
  if isWritable v then some (spread v) else none

end SourceAudit.Json
