import SourceAudit.Value.Toml.Document
import SourceAudit.Value.Toml.Scalar

/-!
# Reading TOML

Reads a document as a table whose entries keep the order they were written in. The text
is one whose line breaks are line feeds.
-/

namespace SourceAudit.Toml

open Text

/-- The text from the end of a comment on, when it begins with a comment. -/
def skipComment : Bool → List Char → Except Fault (List Char)
  | _, [] => .ok []
  | inside, c :: s =>
    if inside then
      if c = '\n' then .ok (c :: s)
      else if isControl c then .error .malformed
      else skipComment true s
    else if c = '#' then skipComment true s
    else .ok (c :: s)

/-- The text without the blanks, line breaks and comments it begins with. -/
def skipLines : Bool → List Char → Except Fault (List Char)
  | _, [] => .ok []
  | inside, c :: s =>
    if inside then
      if c = '\n' then skipLines false s
      else if isControl c then .error .malformed
      else skipLines true s
    else if isSpace c || c = '\n' then skipLines false s
    else if c = '#' then skipLines true s
    else .ok (c :: s)

/-- Whether a character may stand in a key without quotes. -/
def isBareChar (c : Char) : Bool :=
  (c.toNat < 128 && c.isAlphanum) || c = '-' || c = '_'

/-- One name of a key. -/
def readName (s : List Char) : Step String :=
  match s with
  | '\'' :: s => (readLiteral s).map fun (t, rest) => (String.ofList t, rest)
  | '"' :: s => (readBasic false .nothing s).map fun (t, rest) => (String.ofList t, rest)
  | s =>
    let name := s.takeWhile isBareChar
    if name.isEmpty then .error .malformed
    else .ok (String.ofList name, s.dropWhile isBareChar)

/-- A dotted key, with the blanks after it. -/
def readKey : Nat → List Char → Except Fault (Key × List Char)
  | 0, _ => .error .malformed
  | budget + 1, s => do
    let (name, s) ← readName s
    match skipSpace s with
    | '.' :: s =>
      let (rest, s) ← readKey budget (skipSpace s)
      return (name :: rest, s)
    | s => return ([name], s)

/-- What is left of some room after a step that takes `taken` of it. -/
def roomAfter (taken room : Nat) : Except Fault Nat :=
  if room < taken then .error .tooDeep else .ok (room - taken)

/-- The room that an array takes for the values in it. -/
def arrayRoom : Nat := 2

/-- The room that a table in braces takes for the values in it. -/
def inlineRoom : Nat := 3

mutual

/-- A value. Every call spends one unit of the budget, and every array or table that a
value stands in some of the room. -/
def readValue : Nat → Nat → List Char → Except Fault (Value × List Char)
  | 0, _, _ => .error .malformed
  | budget + 1, room, s =>
    match s with
    | '[' :: s => do
      let room ← roomAfter arrayRoom room
      match ← skipLines false s with
      | ']' :: s => return (.list [], s)
      | s => (readItems budget room s).map fun (items, rest) => (.list items, rest)
    | '\x7b' :: s => do
      let room ← roomAfter inlineRoom room
      match skipSpace s with
      | '\x7d' :: s => return (.table [], s)
      | s => (readInline budget room [] [] s).map fun (entries, rest) => (.table entries, rest)
    | s => readScalar s

/-- The items of an array from the first one on, through the closing bracket. -/
def readItems : Nat → Nat → List Char → Step (List Value)
  | 0, _, _ => .error .malformed
  | budget + 1, room, s =>
    match readValue budget room s with
    | .error e => .error e
    | .ok (v, s) =>
      match skipLines false s with
      | .error e => .error e
      | .ok (']' :: s) => .ok ([v], s)
      | .ok (',' :: s) =>
        match skipLines false s with
        | .error e => .error e
        | .ok (']' :: s) => .ok ([v], s)
        | .ok s => (readItems budget room s).map fun (items, rest) => (v :: items, rest)
      | .ok _ => .error .malformed

/-- The entries of a table in braces after those already read, through the closing
brace, given the paths that nothing is added below. -/
def readInline : Nat → Nat → List Key → Entries → List Char → Step Entries
  | 0, _, _, _, _ => .error .malformed
  | budget + 1, room, frozen, before, s =>
    match readKey budget s with
    | .error e => .error e
    | .ok (key, '=' :: s) =>
      match readValue budget room (skipSpace s) with
      | .error e => .error e
      | .ok (v, s) =>
        if leadsThrough frozen key then .error .malformed
        else
          match addAt false key v before with
          | none => .error .malformed
          | some entries =>
            match skipSpace s with
            | '\x7d' :: s => .ok (entries, s)
            | ',' :: s =>
              let frozen := match v with
                | .table _ => key :: frozen
                | .list _ => key :: frozen
                | _ => frozen
              readInline budget room frozen entries (skipSpace s)
            | _ => .error .malformed
    | .ok _ => .error .malformed

end

/-- The room there is for arrays and tables in braces that stand in one another. -/
def nestingRoom : Nat := 988

/-- What a step on the document gives, with the text after it. -/
private def tomlStep (d : Option Document) (header : Key) (s : List Char) :
    Except Fault (Document × Key × List Char) :=
  match d with
  | some d => .ok (d, header, s)
  | none => .error .malformed

/-- Reads a header or an entry, given the header it stands below. -/
def readStatement (budget : Nat) (d : Document) (header : Key) (s : List Char) :
    Except Fault (Document × Key × List Char) :=
  match s with
  | '[' :: '[' :: s => do
    let (key, s) ← readKey budget (skipSpace s)
    match s with
    | ']' :: ']' :: s => tomlStep (d.settle.openItem key) key s
    | _ => .error .malformed
  | '[' :: s => do
    let (key, s) ← readKey budget (skipSpace s)
    match s with
    | ']' :: s => tomlStep (d.settle.openTable key) key s
    | _ => .error .malformed
  | '#' :: _ => .ok (d, header, s)
  | s => do
    let (key, s) ← readKey budget s
    match s with
    | '=' :: s =>
      let (v, s) ← readValue budget nestingRoom (skipSpace s)
      tomlStep (d.add header key v) header s
    | _ => .error .malformed

/-- Reads the rest of a document line by line. -/
def readLines : Nat → Document → Key → List Char → Except Fault Document
  | 0, _, _, _ => .error .malformed
  | budget + 1, d, header, s =>
    match skipSpace s with
    | [] => .ok d
    | '\n' :: s => readLines budget d header s
    | s => do
      let (d, header, s) ← readStatement (budget + 1) d header s
      match ← skipComment false (skipSpace s) with
      | [] => return d
      | '\n' :: s => readLines budget d header s
      | _ => .error .malformed

/-- The table that a whole text denotes. -/
def read (s : List Char) : Except Fault Entries :=
  (readLines (2 * s.length + 2) {} [] s).map (·.entries)

end SourceAudit.Toml
