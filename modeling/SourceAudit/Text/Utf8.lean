import SourceAudit.Text.Digit
import SourceAudit.Text.Quoted

/-!
# Octets and characters

Texts as the octets of UTF-8, and octets as texts. Reading octets runs a small machine
that knows how many octets the character at hand still owes and between which bounds the
next one lies. Where octets make no character, reading either goes on with a
replacement character, one for every longest beginning of a character, or stops and
says where and why.
-/

namespace SourceAudit.Text

/-- Octets, as numbers below 256. -/
abbrev Octets := List Nat

/-- The octets of one character. -/
def charOctets (c : Char) : Octets :=
  let n := c.toNat
  if n < 0x80 then [n]
  else if n < 0x800 then [0xC0 + n / 0x40, 0x80 + n % 0x40]
  else if n < 0x10000 then [0xE0 + n / 0x1000, 0x80 + n / 0x40 % 0x40, 0x80 + n % 0x40]
  else [0xF0 + n / 0x40000, 0x80 + n / 0x1000 % 0x40, 0x80 + n / 0x40 % 0x40, 0x80 + n % 0x40]

/-- The octets of a text. -/
def encode (s : List Char) : Octets :=
  s.flatMap charOctets

/-- A character begun: the octets it still owes, the bounds of the next one, and the
number made of those read. -/
structure Begun where
  owed : Nat
  low : Nat
  high : Nat
  number : Nat

/-- What the first octet of a character tells. -/
inductive Lead where
  | whole (c : Char)
  | begun (b : Begun)
  | invalid

/-- Reads the first octet of a character. -/
def lead (b : Nat) : Lead :=
  if b < 0x80 then .whole (Char.ofNat b)
  else if b < 0xC2 then .invalid
  else if b < 0xE0 then .begun ⟨1, 0x80, 0xBF, b - 0xC0⟩
  else if b = 0xE0 then .begun ⟨2, 0xA0, 0xBF, 0⟩
  else if b = 0xED then .begun ⟨2, 0x80, 0x9F, 0xD⟩
  else if b < 0xF0 then .begun ⟨2, 0x80, 0xBF, b - 0xE0⟩
  else if b = 0xF0 then .begun ⟨3, 0x90, 0xBF, 0⟩
  else if b < 0xF4 then .begun ⟨3, 0x80, 0xBF, b - 0xF0⟩
  else if b = 0xF4 then .begun ⟨3, 0x80, 0x8F, 4⟩
  else .invalid

/-- The character that stands for octets that make none. -/
def replacement : Char := Char.ofNat 0xFFFD

/-- The text that octets denote, after the beginning of a character. -/
def decodeFrom : Option Begun → Octets → List Char
  | none, [] => []
  | some _, [] => [replacement]
  | none, b :: bs =>
    match lead b with
    | .whole c => c :: decodeFrom none bs
    | .begun g => decodeFrom (some g) bs
    | .invalid => replacement :: decodeFrom none bs
  | some g, b :: bs =>
    if g.low ≤ b && b ≤ g.high then
      let number := g.number * 0x40 + (b - 0x80)
      if g.owed ≤ 1 then Char.ofNat number :: decodeFrom none bs
      else decodeFrom (some ⟨g.owed - 1, 0x80, 0xBF, number⟩) bs
    else
      match lead b with
      | .whole c => replacement :: c :: decodeFrom none bs
      | .begun g => replacement :: decodeFrom (some g) bs
      | .invalid => replacement :: replacement :: decodeFrom none bs

/-- The text that octets denote, with replacements. -/
def decode (bs : Octets) : List Char :=
  decodeFrom none bs

/-- Octets that make no character. -/
structure OctetFault where
  first : Nat
  position : Nat
  length : Nat
  reason : String
  deriving DecidableEq, Repr

/-- What is said about octets that make no character. -/
def OctetFault.message (f : OctetFault) : String :=
  let place :=
    if f.length = 1 then
      "byte 0x" ++ String.ofList (hexDigits 2 f.first) ++ " in position " ++ natText f.position
    else
      "bytes in position " ++ natText f.position ++ "-" ++ natText (f.position + f.length - 1)
  "'utf-8' codec can't decode " ++ place ++ ": " ++ f.reason

/-- A character begun, with its first octet, its position and the octets read of it. -/
structure Partial where
  begun : Begun
  first : Nat
  position : Nat
  length : Nat

/-- Reads octets strictly from a position on. -/
def decodeStrictFrom (position : Nat) : Option Partial → Octets → Except OctetFault (List Char)
  | none, [] => .ok []
  | some p, [] => .error ⟨p.first, p.position, p.length, "unexpected end of data"⟩
  | none, b :: bs =>
    match lead b with
    | .whole c => (decodeStrictFrom (position + 1) none bs).map (c :: ·)
    | .begun g => decodeStrictFrom (position + 1) (some ⟨g, b, position, 1⟩) bs
    | .invalid => .error ⟨b, position, 1, "invalid start byte"⟩
  | some p, b :: bs =>
    let g := p.begun
    if g.low ≤ b && b ≤ g.high then
      let number := g.number * 0x40 + (b - 0x80)
      if g.owed ≤ 1 then
        (decodeStrictFrom (position + 1) none bs).map (Char.ofNat number :: ·)
      else
        let g := ⟨g.owed - 1, 0x80, 0xBF, number⟩
        decodeStrictFrom (position + 1) (some ⟨g, p.first, p.position, p.length + 1⟩) bs
    else .error ⟨p.first, p.position, p.length, "invalid continuation byte"⟩

/-- The text that octets denote, if all of them make characters. -/
def decodeStrict (bs : Octets) : Except OctetFault (List Char) :=
  decodeStrictFrom 0 none bs

end SourceAudit.Text
