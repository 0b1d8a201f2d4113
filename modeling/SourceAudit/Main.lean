import SourceAudit.CommandLine.Run

/-!
# The program

Reads the paths of a project's files from standard input, one a line, and runs the command
line over them. Nothing is parsed, and neither a version control program nor a review
service is reached: a run sees files and the environment alone.
-/

open SourceAudit

/-- The paths on standard input, up to its end. -/
partial def readPaths (input : IO.FS.Stream) : IO (List String) := do
  let line ← input.getLine
  if line.isEmpty then return []
  let path := Text.trimmed line
  let rest ← readPaths input
  return if path.isEmpty then rest else path :: rest

/-- The environment variables that a run looks at. -/
def knownVariables : List String := [
  "AVESTA_WORKERS", "AVESTA_LOG_LEVEL", "AI_REVIEW_MODEL", "OPENAI_API_KEY",
  "AI_PROVIDER_API_KEY"]

/-- The world of a run over some files. -/
def readWorld (paths : List String) : IO World := do
  let cwd := Path.ofText (← IO.currentDir).toString
  let files ← paths.mapM fun (path : String) => do
    let octets ← IO.FS.readBinFile path
    return (((Path.ofText path).resolve cwd).names, octets.toList.map UInt8.toNat)
  let environment ← knownVariables.filterMapM fun (name : String) => do
    return (← IO.getEnv name).map fun value => (name, value)
  return { disk := { files, directories := [cwd.names], cwd }, environment }

/-- The code of a run. -/
def exitCode : CommandLine.Ending → UInt32
  | .code n => UInt32.ofNat n
  | .usage _ => 2
  | .breakdown _ => 1

def main (words : List String) : IO UInt32 := do
  let w ← readWorld (← readPaths (← IO.getStdin))
  let r := CommandLine.run w words
  let errors ← IO.getStderr
  for line in r.errors do
    errors.putStrLn (String.ofList line)
  IO.print r.output
  return exitCode r.ending
