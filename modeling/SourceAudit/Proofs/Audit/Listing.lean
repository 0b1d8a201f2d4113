import SourceAudit.Proofs.Audit.Completion
import SourceAudit.Proofs.Config.Enabling
import SourceAudit.Proofs.Config.NormalForm
import SourceAudit.Proofs.Report.Rules
import SourceAudit.Proofs.Rule.History
import SourceAudit.Proofs.Rule.Silencing

/-!
# The rules that are listed and the rules that are run

A project lists its rules with whether each is enabled and with the severity of its
findings, and runs rules without a look at that list. Both come to the same: the rules
listed as enabled are those that are run, on every file of their languages, and a rule whose
findings have the severity it is described with is found with the severity it is listed with.
As JSON the enabled rules are always listed; on the screen they are when each of them can stand
in the table, as the built-in rules can.
-/

namespace SourceAudit

/-! ### Severities -/

/-- Whatever the rule finds in a file under the settings has the severity that the rule is
described with. -/
def Rule.ReportsOwnSeverity (r : Rule) (config : Config) : Prop :=
  ∀ file found, file.config = config → r.check file = .ok found →
    ∀ d ∈ found, d.severity = r.about.severity

theorem Rule.reportsOwnSeverity_of_mem_builtin {r : Rule} (hr : r ∈ Rule.builtin)
    (config : Config) :
  r.ReportsOwnSeverity config
  := by
  intro file found _ h d hd
  obtain ⟨n, message, suggestion, rfl⟩ := exists_finding_of_check hr h d hd
  rfl

/-- A rule whose findings have the severity it is described with reports with the severity it
is listed with. -/
theorem severity_of_mem_reports {r : Rule} {config : Config} {file : FileContext}
    (hr : r.ReportsOwnSeverity file.config) {d : Diagnostic} (hd : d ∈ r.reports config file) :
  d.severity = (r.summary config).severity
  := by
  rw [Rule.reports] at hd
  cases hcheck : r.check file with
  | error fault =>
      rw [hcheck] at hd
      cases hd
  | ok found =>
      rw [hcheck] at hd
      obtain ⟨d, hfound, rfl⟩ := List.mem_map.mp hd
      rw [Config.regrade, Rule.summary, hr file found rfl hcheck d hfound]

/-! ### Lists of rules -/

/-- The rules that a project lists as enabled are those that it enables. -/
theorem filter_describe (reg : Registry) (config : Config) :
  (reg.describe config).filter (·.enabled) = (reg.enabled config).map (·.summary config)
  := by
  rw [describe_eq_map, List.filter_map, Registry.enabled]
  rfl

theorem ids_enabled (reg : Registry) (config : Config) :
  (reg.enabled config).map Rule.id = config.enabledAmong reg.ids
  := by
  rw [Registry.enabled, Config.enabledAmong, Registry.ids, List.filter_map]
  rfl

/-- The names of the rules that are enabled, in ascending order. -/
theorem pairwise_ids_enabled (calls : List RegistryCall) (config : Config) :
  (config.enabledAmong (Registry.after calls).ids).Pairwise (· < ·)
  := by
  obtain ⟨rules, -, hafter, hnames⟩ := exists_isLastAccepted calls
  rw [hafter]
  apply List.Pairwise.filter
  rw [Registry.ids, List.pairwise_map]
  exact pairwise_id_lt hnames

/-! ### The list that is shown -/

/-- The run writes a list of the rules as JSON. -/
def ListsAsJson (run : CommandLine.Run) (summaries : List RuleSummary) : Prop :=
  ∃ text items, run.output = text ++ "\n" ∧ Json.parse text = .ok (.list items)
    ∧ List.Forall₂ Report.HoldsRule summaries items ∧ run.ending = .code 0

/-- The run shows a table with the names of the rules in its first column. -/
def ListsOnScreen (run : CommandLine.Run) (summaries : List RuleSummary) : Prop :=
  ∃ lines, run.output = CommandLine.screenText lines
    ∧ Terminal.firstCells lines = summaries.map (fun s => Report.shownName s.about.id)
    ∧ run.ending = .code 0

/-- The run shows nothing, because a rule cannot stand in the table. -/
def FailsToList (run : CommandLine.Run) : Prop :=
  run.output = "" ∧ ∃ fault, run.ending = .breakdown (.rulesReport fault)

section

variable {w : World} {directory : Path} {target : Target}
  (htarget : prepareTarget w directory = .ok target)
  (h : (loadRules w.modules .initial target.config).result = .ok ())

include htarget h

/-- The command that lists the enabled rules only lists them as JSON. -/
theorem listsAsJson_enabled :
  ListsAsJson (CommandLine.runRulesList w directory .json true)
    (((loadRules w.modules .initial target.config).registry.describe target.config).filter
      (·.enabled))
  := by
  obtain ⟨items, hparse, hitems⟩ := Report.exists_parse_rulesJson
    (((loadRules w.modules .initial target.config).registry.describe target.config).filter
      (·.enabled))
  rw [CommandLine.runRulesList, withRules_of_target htarget h]
  simp only [Bool.not_true, Bool.or_false]
  exact ⟨_, items, rfl, hparse, hitems, rfl⟩

/-- On the screen the command lists the enabled rules just if each of them can stand in the
table. -/
theorem listsOnScreen_enabled :
  let listed := ((loadRules w.modules .initial target.config).registry.describe
    target.config).filter (·.enabled)
  ((∀ s ∈ listed, Report.IsShowable s) →
    ListsOnScreen (CommandLine.runRulesList w directory .screen true) listed)
  ∧ ((∃ s ∈ listed, ¬ Report.IsShowable s) →
    FailsToList (CommandLine.runRulesList w directory .screen true))
  := by
  intro listed
  have hnames : ∀ s ∈ listed, isRuleName s.about.id = true := by
    intro s hs
    obtain ⟨rules, -, hregister⟩ := exists_register_of_loadRules h
    rw [List.mem_filter, describe_eq_map] at hs
    obtain ⟨r, hr, rfl⟩ := List.mem_map.mp hs.1
    exact isRuleName_of_mem_rules hregister hr
  have hshown := Report.exists_rulesScreen_iff hnames
  rw [CommandLine.runRulesList, withRules_of_target htarget h]
  simp only [Bool.not_true, Bool.or_false]
  constructor
  · intro hall
    obtain ⟨lines, hlines⟩ := hshown.mpr hall
    have hcells := Report.firstCells_rulesScreen hnames hlines
    rw [hlines]
    exact ⟨lines, rfl, hcells, rfl⟩
  · rintro ⟨s, hs, hno⟩
    cases hresult : Report.rulesScreen listed with
    | ok lines => exact absurd (hshown.mp ⟨lines, hresult⟩ s hs) hno
    | error fault => exact ⟨rfl, fault, rfl⟩

end

/-- Severities that are set by a table are those of the scale. -/
theorem mem_scale_of_ruleSettings {table : Entries} {config : Config}
    (h : Config.ofTable table = .ok config) {rule : String} {severity : Severity}
    (hseverity : (config.ruleSettings rule).severity = some severity) :
  severity ∈ Severity.scale
  := by
  have hnormal := ((ofTable_eq_ok_iff table config).mp h).isNormal
  rw [Config.ruleSettings] at hseverity
  cases hlookup : config.settings.lookup rule with
  | none =>
      rw [hlookup] at hseverity
      cases hseverity
  | some own =>
      rw [hlookup] at hseverity
      obtain ⟨before, after, hsplit, -⟩ := List.lookup_eq_some_iff.mp hlookup
      have hmem : (rule, own) ∈ config.settings := by
        rw [hsplit]
        exact List.mem_append_right before List.mem_cons_self
      exact (hnormal.rules _ hmem).2.severity severity hseverity

/-- A built-in rule can stand in the table. -/
theorem isShowable_of_mem_builtin {table : Entries} {config : Config}
    (h : Config.ofTable table = .ok config) {r : Rule} (hr : r ∈ Rule.builtin) :
  Report.IsShowable (r.summary config)
  := by
  have hscale : (r.summary config).severity ∈ Severity.scale := by
    rw [Rule.summary]
    cases hseverity : (config.ruleSettings r.id).severity with
    | none =>
        have hall : ∀ r ∈ Rule.builtin, r.about.severity ∈ Severity.scale := by decide
        exact hall r hr
    | some severity => exact mem_scale_of_ruleSettings h hseverity
  have hnoTag : ∀ r ∈ Rule.builtin, '[' ∉ (Text.joinWith ", " r.about.languages).toList
      ∧ '[' ∉ r.about.title.toList := by
    decide +kernel
  apply Report.isShowable_of_no_closing
  · intro name heq
    rw [heq] at hscale
    revert hscale
    simp [Severity.scale]
  · exact fun htag => (hnoTag r hr).1 (htag.subset List.mem_cons_self)
  · exact fun htag => (hnoTag r hr).2 (htag.subset List.mem_cons_self)

/-! ### Listing and running -/

/-- What is found in files is found by the rules that are listed as enabled. -/
structure FoundAsListed (reg : Registry) (config : Config) (files : List FileContext)
    (found : List Diagnostic) : Prop where
  consulted : ∀ file ∈ files, ∀ r ∈ reg.rules, (r.summary config).enabled = true →
    r.applies file = true → ∃ raw, r.check file = .ok raw
  found_eq : found = files.flatMap fun file => file.suppressions.keep
    ((reg.rules.filter fun r => (r.summary config).enabled && r.applies file).flatMap
      (·.reports config file))
  listed : ∀ d ∈ found, ∃ file ∈ files, ∃ r ∈ reg.rules, (r.summary config).enabled = true
    ∧ r.applies file = true ∧ d ∈ r.reports config file
    ∧ (r.ReportsOwnSeverity file.config → d.severity = (r.summary config).severity)

/-- Running the enabled rules finds what the rules find that are listed as enabled. -/
theorem foundAsListed_of_detect {reg : Registry} {config : Config} {files : List FileContext}
    {log : Log} {found : List Diagnostic}
    (h : detect config (reg.enabled config) files = .ok (log, found)) :
  FoundAsListed reg config files found
  := by
  obtain ⟨hchecks, hfound⟩ := (detect_eq_ok_iff _ _ _ _).mp ⟨log, h⟩
  have hfilter : ∀ file, (reg.enabled config).filter (·.applies file)
      = reg.rules.filter fun r => (r.summary config).enabled && r.applies file := by
    intro file
    rw [Registry.enabled, List.filter_filter]
    apply List.filter_congr
    intro r _
    apply Bool.and_comm
  simp only [hfilter] at hfound
  refine ⟨?_, hfound, ?_⟩
  · intro file hfile r hr henabled
    exact hchecks file hfile r (List.mem_filter.mpr ⟨hr, henabled⟩)
  · intro d hd
    rw [hfound] at hd
    obtain ⟨file, hfile, hkept⟩ := List.mem_flatMap.mp hd
    obtain ⟨r, hr, hreport⟩ := List.mem_flatMap.mp (List.mem_of_mem_filter hkept)
    obtain ⟨hmem, henabled⟩ := List.mem_filter.mp hr
    rw [Bool.and_eq_true] at henabled
    exact ⟨file, hfile, r, hmem, henabled.1, henabled.2, hreport,
      fun hown => severity_of_mem_reports hown hreport⟩

end SourceAudit
