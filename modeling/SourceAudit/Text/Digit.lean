import SourceAudit.Text.Ranges

/-!
# Digits

A decimal digit is a character of one of the runs of ten that Unicode lists, zero
first. A text of decimal digits denotes a number whatever runs its digits come from.
Superscripts and circled numbers are digits too, but denote nothing by themselves.
-/

namespace SourceAudit.Text

/-- The code points of the zeros; each is followed by the other nine digits. -/
def decimalZeros : List Nat := [
    0x30, 0x660, 0x6F0, 0x7C0, 0x966, 0x9E6, 0xA66, 0xAE6,
    0xB66, 0xBE6, 0xC66, 0xCE6, 0xD66, 0xDE6, 0xE50, 0xED0,
    0xF20, 0x1040, 0x1090, 0x17E0, 0x1810, 0x1946, 0x19D0, 0x1A80,
    0x1A90, 0x1B50, 0x1BB0, 0x1C40, 0x1C50, 0xA620, 0xA8D0, 0xA900,
    0xA9D0, 0xA9F0, 0xAA50, 0xABF0, 0xFF10, 0x104A0, 0x10D30, 0x11066,
    0x110F0, 0x11136, 0x111D0, 0x112F0, 0x11450, 0x114D0, 0x11650, 0x116C0,
    0x11730, 0x118E0, 0x11950, 0x11C50, 0x11D50, 0x11DA0, 0x16A60, 0x16AC0,
    0x16B50, 0x1D7CE, 0x1D7D8, 0x1D7E2, 0x1D7EC, 0x1D7F6, 0x1E140, 0x1E2F0,
    0x1E950, 0x1FBF0]

/-- The digits that are not decimal digits. -/
def otherDigits : List (Nat × Nat) := [
    (0xB2, 0xB3), (0xB9, 0xB9), (0x1369, 0x1371), (0x19DA, 0x19DA), (0x2070, 0x2070), (0x2074, 0x2079),
    (0x2080, 0x2089), (0x2460, 0x2468), (0x2474, 0x247C), (0x2488, 0x2490), (0x24EA, 0x24EA), (0x24F5, 0x24FD),
    (0x24FF, 0x24FF), (0x2776, 0x277E), (0x2780, 0x2788), (0x278A, 0x2792), (0x10A40, 0x10A43), (0x10E60, 0x10E68),
    (0x11052, 0x1105A), (0x1F100, 0x1F10A)]

/-- The value of a decimal digit. -/
def decimalValue? (c : Char) : Option Nat :=
  (decimalZeros.find? fun z => z ≤ c.toNat && c.toNat < z + 10).map (c.toNat - ·)

/-- Whether a character is a decimal digit. -/
def isDecimal (c : Char) : Bool :=
  (decimalValue? c).isSome

/-- Whether a character is a digit of any kind. -/
def isDigit (c : Char) : Bool :=
  isDecimal c || inRanges otherDigits c.toNat

/-- Whether a character is one of the ten digits of ASCII. -/
def isAsciiDigit (c : Char) : Bool :=
  '0' ≤ c && c ≤ '9'

/-- The value of a hexadecimal digit. -/
def hexValue? (c : Char) : Option Nat :=
  if '0' ≤ c && c ≤ '9' then some (c.toNat - '0'.toNat)
  else if 'a' ≤ c && c ≤ 'f' then some (c.toNat - 'a'.toNat + 10)
  else if 'A' ≤ c && c ≤ 'F' then some (c.toNat - 'A'.toNat + 10)
  else none

/-- The number that a text of decimal digits denotes, read on from a number. -/
def decimalFrom (acc : Nat) : List Char → Option Nat
  | [] => some acc
  | c :: s =>
    match decimalValue? c with
    | some d => decimalFrom (acc * 10 + d) s
    | none => none

/-- The number that a non-empty text of decimal digits denotes. -/
def decimalNumber? (s : List Char) : Option Nat :=
  if s.isEmpty then none else decimalFrom 0 s

/-- The most digits that a whole number may have where it is read from a text, or written as
one. -/
def maxDigits : Nat := 4300

/-- The text of a number in decimal. -/
def natText (n : Nat) : String :=
  String.ofList (Nat.toDigits 10 n)

/-- The text of an integer in decimal. -/
def intText : Int → String
  | .ofNat n => natText n
  | .negSucc n => "-" ++ natText (n + 1)

/-- Whether a number can be written out: it has no more digits than a number may have. -/
def isWritableNumber (number : Int) : Bool :=
  number.natAbs < Nat.pow 10 maxDigits

/-- The text of an integer in decimal, if it can be written out. -/
def intText? (n : Int) : Option String :=
  if isWritableNumber n then some (intText n) else none

end SourceAudit.Text
