import SourceAudit.Disk
import SourceAudit.Rule.Plugin

/-!
# The world of a run

Everything a run can look at: files, the trees a parser makes of them, the modules of
plugins, the version control program, replies of a review service, and the environment.
-/

namespace SourceAudit

/-- What a parser makes of a file. -/
inductive Parse where
  | tree (root : Node)
  /-- The parser gave up, for a reason that it words. -/
  | refused (reason : String)

/-- How the version control program ends. -/
inductive GitOutcome where
  | finished (code : Int) (output errors : String)
  | missing
  | denied (reason : String)

/-- One reply of a review service. -/
inductive Reply where
  | answer (status : Int) (body : Text.Octets)
  /-- The service could not be reached, in the words of the network. -/
  | unreachable (reason : String)
  /-- The service did not answer in time. -/
  | timeout (reason : String)

/-- Everything a run can look at. -/
structure World where
  disk : Disk := {}
  /-- The trees of files, by the names that lead to each, when a parser is there. -/
  trees : Option (List (List String × Parse)) := none
  modules : Modules := []
  /-- The outcomes of the version control program, by its first argument, when it is
  there. -/
  git : Option (List (String × GitOutcome)) := none
  replies : List Reply := []
  /-- The jitter of each delay, as a share of the part that varies. -/
  jitter : Nat → Rat := fun _ => 1
  environment : List (String × String) := []

namespace World

/-- The value of an environment variable. -/
def environmentValue (w : World) (name : String) : Option String :=
  w.environment.lookup name

/-- Whether a parser is there. -/
def hasParser (w : World) : Bool :=
  w.trees.isSome

/-- What the parser makes of a file; a file it knows nothing of is a lone program. -/
def parse? (w : World) (p : Path) : Option Parse :=
  w.trees.map fun trees =>
    (trees.lookup (w.disk.placeOf p)).getD (.tree (.node { kind := some "program" } []))

end World

end SourceAudit
