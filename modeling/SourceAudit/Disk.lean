import SourceAudit.Path
import SourceAudit.Text.Lines
import SourceAudit.Text.Quoted
import SourceAudit.Text.Utf8

/-!
# Files and directories

The files of a disk by the names that lead to them from the root, and directories that
may be empty. Every directory above a file or a directory is there as well. Paths are
resolved before they are looked up.
-/

namespace SourceAudit

open Text

/-- The files and directories of a disk. -/
structure Disk where
  files : List (List String × Octets) := []
  directories : List (List String) := []
  /-- The directory that relative paths start from. -/
  cwd : Path := .absolute []

/-- Why a file cannot be read. -/
inductive ReadFault where
  | missing
  | isDirectory
  /-- What should be a directory on the way to it is a file. -/
  | throughFile
  deriving DecidableEq, Repr

/-- What is said about a path that cannot be read. -/
def ReadFault.message (p : Path) (fault : ReadFault) : String :=
  let reason := match fault with
    | .missing => "[Errno 2] No such file or directory: "
    | .isDirectory => "[Errno 21] Is a directory: "
    | .throughFile => "[Errno 20] Not a directory: "
  reason ++ quoted p.toText

namespace Disk

/-- The names that lead from the root to a path. -/
def placeOf (d : Disk) (p : Path) : List String :=
  (p.resolve d.cwd).names

/-- Whether a path is a file. -/
def isFile (d : Disk) (p : Path) : Bool :=
  d.files.any fun (names, _) => names == d.placeOf p

/-- Whether names lead to a directory. -/
def isDirectoryAt (d : Disk) (names : List String) : Bool :=
  names.isEmpty || d.directories.any (names.isPrefixOf ·)
    || d.files.any fun (file, _) => names.isPrefixOf file && names.length < file.length

/-- Whether a path is a directory. -/
def isDirectory (d : Disk) (p : Path) : Bool :=
  d.isDirectoryAt (d.placeOf p)

/-- The first place that a double dot leads out of and that is no directory, given the
names that lead on and, last first, those followed so far. -/
def deadEnd? (d : Disk) (back : List String) : List String → Option (List String)
  | [] => none
  | name :: rest =>
    if name = ".." then
      if d.isDirectoryAt back.reverse then d.deadEnd? back.tail rest else some back.reverse
    else d.deadEnd? (name :: back) rest

/-- Why nothing can be read where names lead and there is neither a file nor a
directory. -/
def absence (d : Disk) (names : List String) : ReadFault :=
  if d.files.any fun (file, _) => file.isPrefixOf names then .throughFile else .missing

/-- The octets of a file. A path leads to it only if each double dot leads out of a
directory. -/
def read (d : Disk) (p : Path) : Except ReadFault Octets :=
  match d.deadEnd? [] (if p.isAbsolute then p.names else d.cwd.names ++ p.names) with
  | some names => .error (d.absence names)
  | none =>
    match d.files.lookup (d.placeOf p) with
    | some octets => .ok octets
    | none => .error (if d.isDirectory p then .isDirectory else d.absence (d.placeOf p))

/-- The text of a file, with replacements and line feeds for line breaks. -/
def readText (d : Disk) (p : Path) : Except ReadFault String :=
  (d.read p).map fun octets => String.ofList (unifyBreaks (decode octets))

/-- The names that lead on from a place to one at or below it. -/
def onward? (place names : List String) : Option (List String) :=
  if place.isPrefixOf names then some (names.drop place.length) else none

/-- The names of the files in a directory. -/
def filesIn (d : Disk) (place : List String) : List String :=
  d.files.filterMap fun (names, _) =>
    match onward? place names with
    | some [name] => some name
    | _ => none

/-- The names of the directories in a directory. -/
def directoriesIn (d : Disk) (place : List String) : List String :=
  distinct ((d.files.map (·.1.dropLast) ++ d.directories).filterMap fun names =>
    (onward? place names).bind List.head?)

/-- The number of names in the longest way to a file. -/
def depth (d : Disk) : Nat :=
  d.files.foldr (fun (names, _) deepest => max names.length deepest) 0

end Disk

end SourceAudit
