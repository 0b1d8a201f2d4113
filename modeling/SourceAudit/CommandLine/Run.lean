import SourceAudit.Audit
import SourceAudit.CommandLine.Invocation
import SourceAudit.LogLevel
import SourceAudit.Report.Rules
import SourceAudit.Report.Suppressions
import SourceAudit.Review.Exchange

/-!
# Runs

A run of the program: what it writes to its two outputs, how it ends, and what passes
between it and a review service. A run ends with 0 when all is well, with 1 when findings
count as a failure, and with 2 when a file, the settings, a plugin or a review is at
fault.
-/

namespace SourceAudit.CommandLine

open Text Terminal Report

/-- What a run cannot go on from. -/
inductive Breakdown where
  /-- The settings file is not a text. -/
  | undecodableSettings (fault : OctetFault)
  /-- A number of the settings file, of a diff, of a message or of a report has too many
  digits. -/
  | tooManyDigits
  /-- The values of the settings file or of a message are nested too deep. -/
  | tooDeep
  | workers (fault : WorkerFault)
  | rulesReport (fault : RulesReportFault)
  /-- A delay is beyond reckoning. -/
  | delayOverflow
  /-- A request has no tries left, and none of them was the last. -/
  | noTry
  deriving DecidableEq, Repr

/-- How a run ends. -/
inductive Ending where
  | code (n : Nat)
  | usage (fault : UsageFault)
  | breakdown (fault : Breakdown)
  deriving DecidableEq, Repr

/-- What a run comes to. -/
structure Run where
  log : Log := []
  output : String := ""
  /-- What is written beside the output, after the log. -/
  errors : Screen := []
  ending : Ending := .code 0
  /-- The requests to a review service, and the delays between them. -/
  requests : List Request := []
  delays : List Rat := []

/-- The code of a run that something was at fault in. -/
def brokenCode : Nat := 2

/-- The code of a run with findings that count as a failure. -/
def findingsCode : Nat := 1

/-! ### Output -/

/-- The text of a screen, each line ended by a line feed. -/
def screenText (screen : Screen) : String :=
  String.ofList (screen.flatMap (· ++ ['\n']))

/-- A run that writes a text and a line feed. -/
def Run.printing (text : String) : Run :=
  { output := text ++ "\n" }

/-- A run that shows a screen. -/
def Run.showing (screen : Screen) : Run :=
  { output := screenText screen }

/-- A run that ends because something is at fault. -/
def Run.refusing (message : String) : Run :=
  { errors := unbrokenLines message, ending := .code brokenCode }

/-- A run that breaks down. -/
def Run.breaking (fault : Breakdown) : Run :=
  { ending := .breakdown fault }

/-- A run after log records. -/
def Run.after (log : Log) (r : Run) : Run :=
  { r with log := log ++ r.log }

/-! ### Loading -/

/-- What is said before a fault of the settings. -/
private def configPreamble : String := "Invalid configuration: "

/-- The run that ends because settings cannot be had. -/
def refuseConfig : ConfigLoadFault → Run
  | .config fault => .refusing (configPreamble ++ fault.message)
  | .undecodable fault => .breaking (.undecodableSettings fault)
  | .tooManyDigits => .breaking .tooManyDigits
  | .tooDeep => .breaking .tooDeep

/-- Goes on with the target of a path. -/
def withTarget (w : World) (p : Path) (next : Target → Run) : Run :=
  match prepareTarget w p with
  | .error fault => refuseConfig fault
  | .ok target => next target

/-- Goes on with the rules of the project of a directory as the project sees them. -/
def withRules (w : World) (p : Path) (next : List RuleSummary → Run) : Run :=
  withTarget w p fun target =>
    let loaded := loadRules w.modules .initial target.config
    Run.after loaded.log <|
      match loaded.result with
      | .error (.config fault) => .refusing (configPreamble ++ fault.message)
      | .error fault => .refusing (pluginsFailed ++ fault.message)
      | .ok () => next (loaded.registry.describe target.config)

/-! ### Commands -/

/-- The code of a run that has reported a summary. -/
def scanCode (failOn : Option Severity) (s : Summary) : Nat :=
  if !s.failures.isEmpty then brokenCode
  else
    match failOn with
    | some severity => if s.reaches severity then findingsCode else 0
    | none => 0

/-- The run that ends because an audit does not come to an end. -/
def refuseAudit : AuditFault → Run
  | .rules (.config fault) => .refusing (configPreamble ++ fault.message)
  | .options fault => .refusing (configPreamble ++ fault.message)
  | .workers fault => .breaking (.workers fault)
  | fault => .refusing fault.message

/-- The run that reports a summary, and ends with a code if every number of it can be written
out. -/
def reportSummary (disk : Disk) (root : Path) (s : Summary) (form : OutputForm) (code : Nat) :
    Run :=
  match form with
  | .json =>
    match scanJson disk.cwd root s with
    | some text => { Run.printing text with ending := .code code }
    | none => .breaking .tooManyDigits
  | .screen =>
    let shown := scanScreen disk root s
    { Run.showing shown.lines with
      ending := if shown.whole then .code code else .breakdown .tooManyDigits }

/-- Audits a path and reports what was found. -/
def runScan (w : World) (path : Path) (form : OutputForm) (failOn : Option Severity) : Run :=
  withTarget w path fun target =>
    let files := discover w.disk target
    let found : LogRecord :=
      ⟨.debug, "avesta.cli", "discovered " ++ natText files.length ++ " candidate file(s)"⟩
    let audited := auditFiles w .initial target files
    Run.after (found :: audited.log) <|
      match audited.result with
      | .error fault => refuseAudit fault
      | .ok (_, summary) =>
        reportSummary w.disk target.root summary form (scanCode failOn summary)

/-- Lists rules. -/
def runRulesList (w : World) (directory : Path) (form : OutputForm) (enabledOnly : Bool) : Run :=
  withRules w directory fun summaries =>
    let listed := summaries.filter fun s => s.enabled || !enabledOnly
    match form with
    | .json => .printing (rulesJson listed)
    | .screen =>
      match rulesScreen listed with
      | .ok screen => .showing screen
      | .error fault => .breaking (.rulesReport fault)

/-- Explains a rule. Its name may have blanks around it, and capitals. -/
def runExplain (w : World) (rule : String) (directory : Path) (form : OutputForm) : Run :=
  withRules w directory fun summaries =>
    match summaries.find? fun s => s.about.id = small (trimmed rule) with
    | none => { ending := .usage (.unknownRule rule) }
    | some s =>
      match form with
      | .json => .printing (ruleJson s)
      | .screen => .showing (ruleScreen s)

/-- Shows what a file turns off. -/
def runSuppressions (w : World) (file : Path) (form : OutputForm) : Run :=
  match w.disk.readText file with
  | .error fault => .refusing ("Failed to read " ++ file.toText ++ ": " ++ fault.message file)
  | .ok text =>
    match readDirectives text (some file.name) with
    | .error e => .refusing e.message
    | .ok s =>
      match form with
      | .json => .printing (suppressionsJson file.name s)
      | .screen =>
        match suppressionsScreen file.name s with
        | .ok screen => .showing screen
        | .error fault => .breaking (.rulesReport (.markup fault))

/-- The run that shows what comes of an exchange. -/
def showReview (e : Exchange (Option String)) : Run :=
  let shown : Run := match e.outcome with
    | .ok (some text) => .printing text
    | .ok none => .printing "No staged files to review."
    | .error .tooManyDigits => .breaking .tooManyDigits
    | .error .tooDeep => .breaking .tooDeep
    | .error .delayOverflow => .breaking .delayOverflow
    | .error .noTry => .breaking .noTry
    | .error fault => .refusing ("AI review failed: " ++ fault.message)
  { shown with log := e.log, requests := e.requests, delays := e.delays }

/-- Has a file reviewed, or what is staged. -/
def runReview (w : World) (file : Option Path) (model : Option String) : Run :=
  let start := match file with
    | some file => file.parent
    | none => w.disk.cwd
  withTarget w start fun target =>
    let settings := target.config.review
    let (log, p) := createProvider w settings model
    Run.after log <| showReview <|
      match file with
      | some file => (reviewFile w file p).map some
      | none => reviewStaged w start settings p

/-- Runs a command. -/
def Command.run (w : World) : Command → Run
  | .scan path form failOn => runScan w path form failOn
  | .rules directory form enabledOnly => runRulesList w directory form enabledOnly
  | .explain rule directory form => runExplain w rule directory form
  | .suppressions file form => runSuppressions w file form
  | .review file model => runReview w file model

/-! ### Runs -/

/-- The log records that are shown from a rank on, a line or more for each. Showing
records of all levels shows where they come from as well. -/
def shownRecords (rank : Nat) (log : Log) : Screen :=
  (log.filter fun r => rank ≤ r.level.rank).flatMap fun r =>
    let line :=
      if rank ≤ Level.debug.rank then
        "Avesta [" ++ r.level.name ++ "] " ++ r.source ++ ": " ++ r.message
      else "Avesta: " ++ r.message
    feedLines line.toList

/-- What is said of a command line, as far as it is about this program. -/
def UsageFault.message : UsageFault → Option String
  | .loudAndQuiet => some "Choose at most one: --verbose or --quiet."
  | .unknownRule id =>
    some ("Unknown rule id: " ++ quoted id ++ ". Run `avesta rules` to list them.")
  | _ => none

/-- The run of a command line, its log shown from the rank that the options and the
environment ask for. -/
def run (w : World) (words : List String) : Run :=
  match Invocation.ofWords words with
  | .error fault => { ending := .usage fault }
  | .ok .version => .printing programVersion
  | .ok .help => {}
  | .ok (.command settings name specs words) =>
    match readCommand w.disk name specs words with
    | .error fault => { ending := .usage fault }
    | .ok none => {}
    | .ok (some command) =>
      let r := command.run w
      let rank :=
        logLevel settings.verbose settings.quiet (w.environmentValue "AVESTA_LOG_LEVEL")
      { r with errors := shownRecords rank r.log ++ r.errors }

end SourceAudit.CommandLine
