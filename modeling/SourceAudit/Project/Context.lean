import SourceAudit.Directive.Scan
import SourceAudit.Project.Target
import SourceAudit.Rule.Registered

/-!
# Reading files

Reads files one after another into what rules see. A file that cannot be read, or is in
no known dialect, is left out. A file with a directive at fault is a failure, and its
tree is never asked for.
-/

namespace SourceAudit

open Text

/-- What reading a file comes to. -/
inductive FileReading where
  | context (file : FileContext)
  | failure (f : Failure)
  | leftOut

/-- What is logged when the parser gives a file up. -/
private def refusedParseRecord (grammar : Grammar) (reason : String) : LogRecord :=
  ⟨.debug, "avesta.engine.tree_sitter",
    "tree-sitter could not parse " ++ grammar.name ++ " source: " ++ reason⟩

/-- The tree of a parse, and what is logged about it. -/
def treeOf (grammar : Grammar) : Option Parse → Log × Option Node
  | some (.tree root) => ([], some root)
  | some (.refused reason) => ([refusedParseRecord grammar reason], none)
  | none => ([], none)

/-- Reads a text as a file of a project with some settings, with what a parser makes of
it. -/
def readFileText (cwd root : Path) (config : Config) (parse : Option Parse) (p : Path)
    (text : String) : Log × FileReading :=
  match dialectOf? p with
  | none => ([], .leftOut)
  | some dialect =>
    let shown := p.shown cwd root
    match readDirectives text (some shown) with
    | .error e =>
      ([⟨.warning, "avesta.scanner", e.message⟩], .failure ⟨p, e.bareMessage, e.place.line⟩)
    | .ok suppressions =>
      let (log, tree) := treeOf dialect.grammar parse
      (log, .context {
        projectRoot := root
        path := p
        shownPath := shown
        language := dialect.language.name
        grammar := some dialect.grammar
        text := text
        lines := (sourceLines text.toList).map String.ofList
        suppressions := suppressions
        config := config
        root := tree })

/-- What is logged about a file that cannot be read. -/
def unreadableRecord (p : Path) (fault : ReadFault) : LogRecord :=
  ⟨.debug, "avesta.scanner",
    "skipping unreadable file " ++ p.toText ++ ": " ++ fault.message p⟩

/-- Reads a file of a project. -/
def readFile (w : World) (target : Target) (p : Path) : Log × FileReading :=
  match w.disk.readText p with
  | .error fault => ([unreadableRecord p fault], .leftOut)
  | .ok text => readFileText w.disk.cwd target.root target.config (w.parse? p) p text

/-- What reading some files comes to. -/
structure Readings where
  log : Log := []
  contexts : List FileContext := []
  failures : List Failure := []

/-- Reads files in order. -/
def readFiles (w : World) (target : Target) : List Path → Readings
  | [] => {}
  | p :: rest =>
    let (log, reading) := readFile w target p
    let later := readFiles w target rest
    let later := { later with log := log ++ later.log }
    match reading with
    | .context file => { later with contexts := file :: later.contexts }
    | .failure f => { later with failures := f :: later.failures }
    | .leftOut => later

end SourceAudit
