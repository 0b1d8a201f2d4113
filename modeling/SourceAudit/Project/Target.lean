import SourceAudit.Config.Options
import SourceAudit.Git
import SourceAudit.Value.Toml.Reader

/-!
# Projects

The root of a project is the closest directory with a settings file, or else the top of
the repository, or else the directory at hand. A target is a path to be scanned, with its
project's root and settings.
-/

namespace SourceAudit

open Text

/-- Why the settings of a project cannot be had. -/
inductive ConfigLoadFault where
  | config (fault : ConfigFault)
  /-- The settings file is not a text. -/
  | undecodable (fault : OctetFault)
  /-- The settings file holds a number with too many digits. -/
  | tooManyDigits
  /-- The values of the settings file are nested too deep. -/
  | tooDeep
  deriving DecidableEq, Repr

/-- The name of the settings file. -/
def settingsFile : Path := .relative ["pyproject.toml"]

/-- The settings of a document. -/
def configOfDocument (document : Entries) : Except ConfigFault Config :=
  match document.get? "tool" with
  | some (.table tool) =>
    match Entries.get? tool "avesta" with
    | some (.table []) => .ok {}
    | some (.table table) => Config.ofTable table
    | _ => .ok {}
  | _ => .ok {}

/-- The settings that a settings file holds. -/
def configOfOctets (file : Path) (octets : Octets) : Except ConfigLoadFault Config :=
  match decodeStrict octets with
  | .error fault => .error (.undecodable fault)
  | .ok text =>
    match Toml.read (unifyBreaks text) with
    | .error .malformed => .error (.config (.malformedFile file.toText))
    | .error .tooManyDigits => .error .tooManyDigits
    | .error .tooDeep => .error .tooDeep
    | .ok document => (configOfDocument document).mapError .config

/-- The settings of the project in a directory. -/
def loadConfig (d : Disk) (directory : Path) : Except ConfigLoadFault Config :=
  match d.read (directory ++ settingsFile) with
  | .ok octets => configOfOctets (directory ++ settingsFile) octets
  | .error _ => .ok {}

/-- A path to be scanned. -/
structure Target where
  root : Path
  scanPath : Path
  config : Config

/-- The closest directory, from one upwards, that has a settings file. -/
def settingsRoot? (d : Disk) (start : Path) : Option Path :=
  start.ancestry.find? fun p => d.isFile (p ++ settingsFile)

/-- The directory that a path is in, or is. -/
def baseDirectory (d : Disk) (p : Path) : Path :=
  if d.isDirectory p then p else p.parent

/-- Whether the root of a project is asked of the version control program. -/
def asksGit (w : World) (start : Path) : Bool :=
  (settingsRoot? w.disk (baseDirectory w.disk start)).isNone

/-- The root of the project that a path belongs to. -/
def projectRoot (w : World) (start : Path) : Path :=
  let base := baseDirectory w.disk start
  match settingsRoot? w.disk base with
  | some root => root
  | none => (gitTop? w base).getD base

/-- The target of a scan path. -/
def prepareTarget (w : World) (scanPath : Path) : Except ConfigLoadFault Target :=
  let scanPath := scanPath.resolve w.disk.cwd
  let root := projectRoot w scanPath
  (loadConfig w.disk root).map fun config => ⟨root, scanPath, config⟩

end SourceAudit
