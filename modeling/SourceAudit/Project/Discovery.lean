import SourceAudit.Ignore
import SourceAudit.Project.Target

/-!
# Finding files

The files to be examined below a path: those of an enabled language that are not
ignored. Directories that hold vendored, generated or tool-owned files are passed over on
the way down, but not the path itself. A path that is a file has to meet the same two
conditions.
-/

namespace SourceAudit

open Text

/-- The names of directories that are passed over. -/
def skippedDirectories : List String := [
  ".git", ".hg", ".svn", ".idea", ".vscode", ".venv", "venv", "node_modules",
  "bower_components", "dist", "build", "out", "coverage", ".next", ".nuxt", ".turbo",
  "__pycache__"]

/-- The ways to the files of a directory and, from there, to those of the directories in it,
which are gone down in order unless they are passed over. The walk ends that many levels
down. -/
def Disk.walk (d : Disk) : Nat → List String → List (List String)
  | 0, _ => []
  | levels + 1, place =>
    let entered := sortTexts ((d.directoriesIn place).filter (!skippedDirectories.contains ·))
    (d.filesIn place).map ([·])
      ++ entered.flatMap fun name => (d.walk levels (place ++ [name])).map (name :: ·)

/-- The files that a scan path leads to. No way to a file is longer than the disk is deep. -/
def candidates (d : Disk) (scanPath : Path) : List Path :=
  if d.isFile scanPath then [scanPath]
  else (d.walk d.depth (d.placeOf scanPath)).map fun names => scanPath ++ Path.relative names

/-- Whether a file is to be examined. -/
def isExamined (d : Disk) (target : Target) (p : Path) : Bool :=
  (suffixesOf target.config.languages).contains (small p.suffix)
    && !isIgnored d.cwd target.root target.config.ignorePaths p

/-- The files to be examined, in order and without repetition. -/
def discover (d : Disk) (target : Target) : List Path :=
  (distinct ((candidates d target.scanPath).filter (isExamined d target))).mergeSort Path.le

end SourceAudit
