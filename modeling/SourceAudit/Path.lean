import SourceAudit.Text.Order
import SourceAudit.Text.Search

/-!
# Paths

A path is where it starts and the names that lead on from there. Empty names and
single dots are dropped when a path is read, and double dots are kept until the path is
resolved. Resolving is lexical: a double dot takes back the name before it, and at the
root it takes back nothing.
-/

namespace SourceAudit

open Text

/-- Where a path starts. -/
inductive Anchor where
  | here
  | root
  /-- Two slashes, which a system may treat in a way of its own. -/
  | doubleRoot
  deriving DecidableEq, Repr

/-- A path of names separated by slashes. -/
structure Path where
  anchor : Anchor
  names : List String
  deriving DecidableEq, Repr

namespace Path

/-- The names between slashes, less the empty ones and single dots. -/
def splitNames (s : String) : List String :=
  ((pieces '/' s.toList).map String.ofList).filter fun name => name ≠ "" && name ≠ "."

/-- Reads a path. -/
def ofText (s : String) : Path :=
  let anchor := match s.toList with
    | '/' :: '/' :: '/' :: _ => .root
    | '/' :: '/' :: _ => .doubleRoot
    | '/' :: _ => .root
    | _ => .here
  ⟨anchor, splitNames s⟩

/-- The path from the root along some names. -/
def absolute (names : List String) : Path :=
  ⟨.root, names⟩

/-- The path from here along some names. -/
def relative (names : List String) : Path :=
  ⟨.here, names⟩

/-- The text of a path. The path of no names is a single dot. -/
def toText (p : Path) : String :=
  match p.anchor with
  | .here => if p.names.isEmpty then "." else joinWith "/" p.names
  | .root => "/" ++ joinWith "/" p.names
  | .doubleRoot => "//" ++ joinWith "/" p.names

def isAbsolute (p : Path) : Bool :=
  p.anchor != .here

/-- The path reached by following the second path from the end of the first. -/
def append (p q : Path) : Path :=
  if q.isAbsolute then q else ⟨p.anchor, p.names ++ q.names⟩

instance : Append Path := ⟨append⟩

/-- The last name, empty when there is none. -/
def name (p : Path) : String :=
  p.names.getLast?.getD ""

/-- The path without its last name. -/
def parent (p : Path) : Path :=
  ⟨p.anchor, p.names.dropLast⟩

/-- The path and the paths above it, nearest first. -/
def ancestry (p : Path) : List Path :=
  (List.range (p.names.length + 1)).map fun k => ⟨p.anchor, p.names.take (p.names.length - k)⟩

/-- The end of a name from its last dot on, when characters stand on both sides of the
dot. -/
def suffixOf (name : String) : String :=
  let ending := name.toList.reverse.takeWhile (· ≠ '.')
  if ending.isEmpty || name.toList.length ≤ ending.length + 1 then ""
  else String.ofList ('.' :: ending.reverse)

/-- The suffix of the last name. -/
def suffix (p : Path) : String :=
  suffixOf p.name

/-- The names that lead from `base` to the path, when the path lies at or below it as
written. -/
def below? (p base : Path) : Option (List String) :=
  if p.anchor = base.anchor && base.names.isPrefixOf p.names then
    some (p.names.drop base.names.length)
  else none

/-- Follows names from a place given by the names that lead to it, last first. -/
def follow (back : List String) : List String → List String
  | [] => back.reverse
  | name :: rest => if name = ".." then follow back.tail rest else follow (name :: back) rest

/-- The path from the root, without double dots; a relative path is taken from
`cwd`. -/
def resolve (p cwd : Path) : Path :=
  let start := if p.isAbsolute then [] else cwd.names
  .absolute (follow [] (start ++ p.names))

/-- How reports show a path: relative to the root when it lies below it, as written or
else resolved, and unchanged otherwise. -/
def shown (p cwd root : Path) : String :=
  match p.below? root with
  | some names => (relative names).toText
  | none =>
    match (p.resolve cwd).below? (root.resolve cwd) with
    | some names => (relative names).toText
    | none => p.toText

/-- Whether one path comes before another or equals it, name by name. -/
def le (p q : Path) : Bool :=
  textsLe p.names q.names

end Path

end SourceAudit
