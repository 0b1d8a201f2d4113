import SourceAudit.Glob
import SourceAudit.Path

/-!
# Ignored paths

A project leaves out the files that match a pattern. A pattern that ends with a slash
stands for everything below a directory, one with a slash elsewhere for a path from the
root of the project, and one without a slash for such a path or a name. Nothing outside
the project is ignored.
-/

namespace SourceAudit

open Text

/-- A pattern as it is matched: trimmed, with slashes only, without a leading `./`. -/
def cleanPattern (pattern : List Char) : List Char :=
  let p := replaceChar '\\' '/' (trim pattern)
  (after? "./".toList p).getD p

/-- Whether a cleaned pattern stands for a path of names below the root of a project. -/
def patternHits (pattern : List Char) (names : List String) : Bool :=
  let shown := (Path.relative names).toText.toList
  if pattern.isEmpty then false
  else if endsWith ['/'] pattern then startsWith pattern shown
  else if pattern.contains '/' then Glob.matchesText pattern shown
  else
    Glob.matchesText pattern (names.getLast?.getD "").toList || Glob.matchesText pattern shown

/-- Whether a path can be looked up at all. -/
def isLookable (p : Path) : Bool :=
  p.names.all fun name => !name.toList.contains (Char.ofNat 0)

/-- Whether some pattern leaves a path out. -/
def isIgnored (cwd root : Path) (patterns : List String) (p : Path) : Bool :=
  if !(isLookable p && isLookable root) then false
  else
    match (p.resolve cwd).below? (root.resolve cwd) with
    | none => false
    | some names => patterns.any fun pattern => patternHits (cleanPattern pattern.toList) names

end SourceAudit
