import SourceAudit.World

/-!
# Version control

What a run asks the version control program: where the top of a repository is, and what
is staged in it.
-/

namespace SourceAudit

open Text

/-- Why the program gave no output. -/
inductive GitFault where
  | unavailable
  | cannotRun (directory : String) (reason : String)
  | failed (arguments : List String) (detail : String)
  deriving DecidableEq, Repr

def GitFault.message : GitFault → String
  | .unavailable => "git is unavailable"
  | .cannotRun directory reason => "cannot run git in " ++ directory ++ ": " ++ reason
  | .failed arguments detail => "git " ++ joinWith " " arguments ++ " failed: " ++ detail

/-- The output of the program run with some arguments in a directory. -/
def runGit (w : World) (arguments : List String) (directory : Path) : Except GitFault String :=
  match w.git with
  | none => .error .unavailable
  | some outcomes =>
    match (outcomes.lookup (arguments.head?.getD "")).getD (.finished 0 "" "") with
    | .missing => .error .unavailable
    | .denied reason => .error (.cannotRun directory.toText reason)
    | .finished code output errors =>
      if code = 0 then .ok output
      else
        let detail := trimmed errors
        let detail := if detail = "" then "exit status " ++ intText code else detail
        .error (.failed arguments detail)

/-- The arguments that ask for the top of a repository. -/
def topArguments : List String := ["rev-parse", "--show-toplevel"]

/-- The arguments that ask for what is staged, without lines of context. -/
def stagedArguments : List String := ["diff", "--staged", "--no-color", "--no-ext-diff", "-U0"]

/-- The top of the repository that holds a directory. -/
def gitTop? (w : World) (directory : Path) : Option Path :=
  match runGit w topArguments directory with
  | .ok output => if trimmed output = "" then none else some (.ofText (trimmed output))
  | .error _ => none

end SourceAudit
