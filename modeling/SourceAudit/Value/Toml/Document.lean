import SourceAudit.Value.Basic

/-!
# Tables in the making

A TOML document while it is read: the tables so far, and which of them may no longer be
opened or added to. A key is a path of names from the top of the document. Where a path
leads through an array of tables it goes on in the last of them.
-/

namespace SourceAudit.Toml

/-- A path of names. -/
abbrev Key := List String

/-- A document while it is read. -/
structure Document where
  entries : Entries := []
  /-- Tables that have been opened, and may not be opened by a header again. -/
  opened : List Key := []
  /-- Tables that will count as opened from the next header on. -/
  pending : List Key := []
  /-- Arrays and tables that were written as one value; nothing is added below them. -/
  frozen : List Key := []

/-- Changes the table that a path leads to, and makes the tables on the way that are
missing. With `throughArrays` an array on the way stands for its last item. -/
def changeAt (throughArrays : Bool) (change : Entries → Option Entries) :
    Key → Entries → Option Entries
  | [], entries => change entries
  | name :: rest, entries =>
    match (entries.get? name).getD (.table []) with
    | .table inner =>
      (changeAt throughArrays change rest inner).map fun inner =>
        entries.put name (.table inner)
    | .list items =>
      if throughArrays then
        match items.getLast? with
        | some (.table inner) =>
          (changeAt throughArrays change rest inner).map fun inner =>
            entries.put name (.list (items.dropLast ++ [.table inner]))
        | _ => none
      else none
    | _ => none

/-- Adds an entry under a new name. -/
def addEntry (name : String) (v : Value) (entries : Entries) : Option Entries :=
  if (entries.get? name).isSome then none else some (entries.put name v)

/-- Adds an empty table at the end of an array of tables. -/
def addTable (name : String) (entries : Entries) : Option Entries :=
  match entries.get? name with
  | none => some (entries.put name (.list [.table []]))
  | some (.list items) => some (entries.put name (.list (items ++ [.table []])))
  | some _ => none

/-- Adds an entry at a path. -/
def addAt (throughArrays : Bool) (key : Key) (v : Value) (entries : Entries) : Option Entries :=
  match key.getLast? with
  | some name => changeAt throughArrays (addEntry name v) key.dropLast entries
  | none => none

/-- Whether a path leads to or through one of some paths. -/
def leadsThrough (paths : List Key) (key : Key) : Bool :=
  paths.any fun p => p.isPrefixOf key

namespace Document

/-- The document with what was pending counted as opened. -/
def settle (d : Document) : Document :=
  { d with opened := d.opened ++ d.pending, pending := [] }

/-- Opens the table that a header names. -/
def openTable (d : Document) (key : Key) : Option Document :=
  if d.opened.contains key || leadsThrough d.frozen key then none
  else
    (changeAt true some key d.entries).map fun entries =>
      { d with entries, opened := key :: d.opened }

/-- Adds a table to the array that a header names. -/
def openItem (d : Document) (key : Key) : Option Document :=
  if leadsThrough d.frozen key then none
  else
    match key.getLast? with
    | none => none
    | some name =>
      (changeAt true (addTable name) key.dropLast d.entries).map fun entries =>
        { d with
          entries
          opened := key :: d.opened.filter fun k => !key.isPrefixOf k
          frozen := d.frozen.filter fun k => !key.isPrefixOf k }

/-- The paths from a header along a dotted key, without the whole of it. -/
private def dottedSteps (header key : Key) : List Key :=
  ((List.range key.length).drop 1).map fun k => header ++ key.take k

/-- Adds an entry under a dotted key below a header. -/
def add (d : Document) (header key : Key) (v : Value) : Option Document :=
  let steps := dottedSteps header key
  if steps.any d.opened.contains || leadsThrough d.frozen (header ++ key.dropLast) then none
  else
    let isCompound := match v with
      | .table _ => true
      | .list _ => true
      | _ => false
    (addAt true (header ++ key) v d.entries).map fun entries =>
      { d with
        entries
        pending := d.pending ++ steps
        frozen := if isCompound then (header ++ key) :: d.frozen else d.frozen }

end Document

end SourceAudit.Toml
