import SourceAudit.Proofs.Audit.Completion
import SourceAudit.Proofs.Config.Editing
import SourceAudit.Proofs.Rule.Registry

/-!
# Audits before and after an edit of the settings

Two audits of the same files, with settings that differ in what they say of one rule. When
the rule is dropped, the report loses what the rule found and nothing else, and what is left
keeps its order. When a severity is set for the rule, what it found gets this severity; no
finding comes or goes, and the same findings are suppressed.
-/

namespace SourceAudit

/-! ### Findings with their rules -/

/-- What the rules that apply to a file find there, each finding with its rule. -/
def signedFindings (config : Config) (rules : List Rule) (file : FileContext) :
    List (Rule × Diagnostic) :=
  (rules.filter (·.applies file)).flatMap fun r => (r.reports config file).map (r, ·)

/-- The findings that are suppressed in their file. -/
def suppressedFindings (config : Config) (rules : List Rule) (file : FileContext) :
    List (Rule × Diagnostic) :=
  (signedFindings config rules file).filter fun e => Silenced file.suppressions e.2

/-- The findings that are not suppressed in their file. -/
def signedKept (config : Config) (rules : List Rule) (file : FileContext) :
    List (Rule × Diagnostic) :=
  (signedFindings config rules file).filter fun e => ¬ Silenced file.suppressions e.2

/-- A report in which each diagnostic stands with the rule that produced it. -/
def signedReport (config : Config) (rules : List Rule) (files : List FileContext) :
    List (Rule × Diagnostic) :=
  (files.flatMap (signedKept config rules)).mergeSort fun a b => a.2.reportKey.le b.2.reportKey

theorem signedReport_perm (config : Config) (rules : List Rule) (files : List FileContext) :
  (signedReport config rules files).Perm (files.flatMap (signedKept config rules))
  := List.mergeSort_perm _ _

theorem map_snd_signedKept (config : Config) (rules : List Rule) (file : FileContext) :
  (signedKept config rules file).map (·.2) = keptFindings config rules file
  := by
  rw [signedKept, signedFindings, keptFindings, List.filter_flatMap, List.map_flatMap]
  apply List.flatMap_congr
  intro r _
  rw [List.filter_map, List.map_map]
  exact List.map_id _

/-- The diagnostics of a report are those that stand in it with their rules. -/
theorem map_snd_signedReport (config : Config) (rules : List Rule) (files : List FileContext) :
  (signedReport config rules files).map (·.2)
    = reportOrder (files.flatMap (keptFindings config rules))
  := by
  have hfound : (files.flatMap (signedKept config rules)).map (·.2)
      = files.flatMap (keptFindings config rules) := by
    rw [List.map_flatMap]
    simp only [map_snd_signedKept]
  rw [signedReport, reportOrder, ← hfound]
  exact List.map_mergeSort fun _ _ _ _ => rfl

/-- The entries of some rules are what these rules alone find. -/
theorem filter_flatMap_signed (p : Rule → Bool) (found : Rule → List Diagnostic)
    (rules : List Rule) :
  (rules.flatMap fun r => (found r).map (r, ·)).filter (fun e => p e.1)
    = (rules.filter p).flatMap fun r => (found r).map (r, ·)
  := by
  induction rules with
  | nil => rfl
  | cons r rest ih =>
      rw [List.flatMap_cons, List.filter_append, ih, List.filter_cons, List.filter_map]
      cases hr : p r with
      | false => simp [Function.comp_def, hr]
      | true => simp [Function.comp_def, hr]

/-! ### Rules and settings -/

/-- The file in a project with other settings. -/
def FileContext.under (file : FileContext) (config : Config) : FileContext :=
  { file with config }

/-- The rule does the same with a file under either settings. What it looks at are at most its
own options. -/
def Rule.Overlooks (r : Rule) (config config' : Config) : Prop :=
  ∀ file : FileContext, r.inspect (file.under config') = r.inspect (file.under config)

/-- The built-in rules look at nothing but their own options. -/
theorem Rule.overlooks_of_mem_builtin {r : Rule} (hr : r ∈ Rule.builtin)
    (config config' : Config) :
  r.Overlooks config config'
  := by
  rintro ⟨_, _, _, _, _, _, _, _, _, root⟩
  cases r with
  | plugin about fields inspect => simp [Rule.builtin] at hr
  | negativeFirst =>
      cases root with
      | none => rfl
      | some root => rfl
  | reactProps =>
      cases root with
      | none => rfl
      | some root => rfl
  | prometheusLabels =>
      cases root with
      | none => rfl
      | some root => rfl

/-- The rules of a registry overlook what those of plugins do. -/
theorem overlooks_of_mem_enabled {reg : Registry} {config config' : Config}
    (h : ∀ r ∈ reg.extra, r.Overlooks config config') (config'' : Config) :
  ∀ r ∈ reg.enabled config'', r.Overlooks config config'
  := by
  intro r hr
  rcases (mem_rules_iff reg r).mp (List.mem_of_mem_filter hr) with hbuiltin | hextra
  · exact Rule.overlooks_of_mem_builtin hbuiltin config config'
  · exact h r hextra

theorem examined?_under (w : World) (target : Target) (config : Config) (p : Path) :
  examined? w { target with config } p = (examined? w target p).map (·.under config)
  := by
  rw [examined?, examined?]
  cases w.disk.readText p with
  | error fault => rfl
  | ok text =>
      cases dialectOf? p with
      | none => rfl
      | some dialect =>
          dsimp only
          cases readDirectives text (some (p.shown w.disk.cwd target.root)) with
          | error e => rfl
          | ok suppressions => rfl

section
variable {config config' : Config}

theorem options_congr {r : Rule}
    (h : (config'.ruleSettings r.id).options = (config.ruleSettings r.id).options) :
  r.options config' = r.options config
  := by
  rw [Rule.options, Rule.options, h]

/-- A rule that overlooks what differs in two settings, and has the same options in both, finds
the same. -/
theorem check_congr {r : Rule}
    (h : (config'.ruleSettings r.id).options = (config.ruleSettings r.id).options)
    (hr : r.Overlooks config config') {file : FileContext} (hfile : file.config = config) :
  r.check (file.under config') = r.check file
  := by
  have hinspect : r.inspect (file.under config') = r.inspect file := by
    rw [hr file, ← hfile]
    rfl
  have hconfig : (file.under config').config = config' := rfl
  rw [Rule.check, Rule.check, hinspect, hconfig, hfile, options_congr h]

/-! ### Dropping a rule -/

section
variable {rule : String} (h : config.DropsAlso rule config')

include h

theorem ruleSettings_of_dropsAlso (other : String) :
  config'.ruleSettings other = config.ruleSettings other
  := by
  rw [← h.rest]
  rfl

theorem reports_of_dropsAlso {r : Rule} (hr : r.Overlooks config config') {file : FileContext}
    (hfile : file.config = config) :
  r.reports config' (file.under config') = r.reports config file
  := by
  have hsettings := ruleSettings_of_dropsAlso h r.id
  have hregrade : config'.regrade r = config.regrade r := by
    funext d
    rw [Config.regrade, Config.regrade, hsettings]
  have hcheck : r.check (file.under config') = r.check file := by
    apply check_congr _ hr hfile
    rw [hsettings]
  rw [Rule.reports, Rule.reports, hcheck, hregrade]

theorem enabled_of_dropsAlso (hrule : ¬ IsAll rule) (reg : Registry) :
  reg.enabled config' = (reg.enabled config).filter fun r => r.id ≠ rule
  := by
  rw [Registry.enabled, Registry.enabled, List.filter_filter]
  apply List.filter_congr
  intro r _
  rw [enables_of_dropsAlso h hrule, Bool.and_comm]

section
variable {rules : List Rule}
  (hrules : ∀ r ∈ rules.filter fun r => r.id ≠ rule, r.Overlooks config config')

include hrules

/-- What is kept of a file when a rule is dropped: all that the others found. -/
theorem signedKept_of_dropsAlso {file : FileContext} (hfile : file.config = config) :
  signedKept config' (rules.filter fun r => r.id ≠ rule) (file.under config')
    = (signedKept config rules file).filter fun e => e.1.id ≠ rule
  := by
  have hfound : signedFindings config' (rules.filter fun r => r.id ≠ rule) (file.under config')
      = (signedFindings config rules file).filter fun e => e.1.id ≠ rule := by
    rw [signedFindings, signedFindings,
      filter_flatMap_signed (fun r => decide (r.id ≠ rule)) fun r => r.reports config file,
      List.filter_comm]
    apply List.flatMap_congr
    intro r hr
    rw [List.filter_comm] at hr
    rw [reports_of_dropsAlso h (hrules r (List.mem_of_mem_filter hr)) hfile]
  rw [signedKept, signedKept, hfound, List.filter_comm]
  rfl

/-- The report when a rule is dropped: that of before without what the rule found. -/
theorem signedReport_of_dropsAlso {files : List FileContext}
    (hfiles : ∀ file ∈ files, file.config = config) :
  signedReport config' (rules.filter fun r => r.id ≠ rule) (files.map (·.under config'))
    = (signedReport config rules files).filter fun e => e.1.id ≠ rule
  := by
  have hkept : (files.map (·.under config')).flatMap
        (signedKept config' (rules.filter fun r => r.id ≠ rule))
      = (files.flatMap (signedKept config rules)).filter fun e => e.1.id ≠ rule := by
    rw [List.filter_flatMap, List.flatMap_map]
    apply List.flatMap_congr
    intro file hfile
    exact signedKept_of_dropsAlso h hrules (hfiles file hfile)
  rw [signedReport, signedReport, hkept, filter_mergeSort]
  · intro a b c
    apply reportKey_le_trans
  · intro a b
    apply reportKey_le_total

end

end

/-! ### Setting a severity -/

/-- A diagnostic of the rule gets the severity, every other one stays as it is. -/
def regraded (rule : String) (severity : Severity) (e : Rule × Diagnostic) : Diagnostic :=
  if e.1.id = rule then { e.2 with severity } else e.2

/-- A severity has no say in what is suppressed. -/
theorem silenced_regraded_iff (s : Suppressions) (rule : String) (severity : Severity)
    (e : Rule × Diagnostic) :
  Silenced s (regraded rule severity e) ↔ Silenced s e.2
  := by
  rw [regraded]
  split
  · rfl
  · rfl

section
variable {rule : String} {severity : Severity} (h : config.Regrades rule severity config')

include h

theorem options_of_regrades (other : String) :
  (config'.ruleSettings other).options = (config.ruleSettings other).options
  := by
  by_cases hother : other = rule
  · rw [hother, h.own]
  · rw [h.others other hother]

theorem reports_of_regrades {r : Rule} (hr : r.Overlooks config config') {file : FileContext}
    (hfile : file.config = config) :
  r.reports config' (file.under config')
    = (r.reports config file).map fun d => regraded rule severity (r, d)
  := by
  have hcheck : r.check (file.under config') = r.check file := by
    apply check_congr _ hr hfile
    exact options_of_regrades h r.id
  have hregrade : ∀ d, config'.regrade r d = regraded rule severity (r, config.regrade r d) := by
    intro d
    rw [regraded, Config.regrade]
    by_cases hr : r.id = rule
    · rw [if_pos hr, hr, h.own]
      rfl
    · rw [if_neg hr, h.others r.id hr]
      rfl
  rw [Rule.reports, Rule.reports, hcheck]
  cases r.check file with
  | error fault => rfl
  | ok found =>
      dsimp only
      rw [List.map_map]
      apply List.map_congr_left
      intro d _
      exact hregrade d

theorem enabled_of_regrades (reg : Registry) :
  reg.enabled config' = reg.enabled config
  := by
  rw [Registry.enabled, Registry.enabled]
  simp only [enables_of_regrades h]

section
variable {rules : List Rule} (hrules : ∀ r ∈ rules, r.Overlooks config config')

include hrules

section
variable {file : FileContext} (hfile : file.config = config)

include hfile

theorem signedFindings_of_regrades :
  signedFindings config' rules (file.under config')
    = (signedFindings config rules file).map fun e => (e.1, regraded rule severity e)
  := by
  rw [signedFindings, signedFindings, List.map_flatMap]
  apply List.flatMap_congr
  intro r hr
  rw [reports_of_regrades h (hrules r (List.mem_of_mem_filter hr)) hfile, List.map_map,
    List.map_map]
  rfl

theorem suppressedFindings_of_regrades :
  suppressedFindings config' rules (file.under config')
    = (suppressedFindings config rules file).map fun e => (e.1, regraded rule severity e)
  := by
  rw [suppressedFindings, suppressedFindings, signedFindings_of_regrades h hrules hfile,
    List.filter_map]
  simp only [Function.comp_def, silenced_regraded_iff]
  rfl

theorem signedKept_of_regrades :
  signedKept config' rules (file.under config')
    = (signedKept config rules file).map fun e => (e.1, regraded rule severity e)
  := by
  rw [signedKept, signedKept, signedFindings_of_regrades h hrules hfile, List.filter_map]
  simp only [Function.comp_def, silenced_regraded_iff]
  rfl

end

/-- The diagnostics of a report when a severity is set for a rule, in some order. -/
theorem map_snd_signedReport_of_regrades {files : List FileContext}
    (hfiles : ∀ file ∈ files, file.config = config) :
  ((signedReport config' rules (files.map (·.under config'))).map (·.2)).Perm
    ((signedReport config rules files).map (regraded rule severity))
  := by
  have hkept : (files.map (·.under config')).flatMap (signedKept config' rules)
      = (files.flatMap (signedKept config rules)).map
        fun e => (e.1, regraded rule severity e) := by
    rw [List.map_flatMap, List.flatMap_map]
    apply List.flatMap_congr
    intro file hfile
    exact signedKept_of_regrades h hrules (hfiles file hfile)
  have hlater := (signedReport_perm config' rules (files.map (·.under config'))).map (·.2)
  have hearlier := (signedReport_perm config rules files).map (regraded rule severity)
  rw [hkept, List.map_map] at hlater
  exact hlater.trans hearlier.symm

end

end

end

/-! ### Audits -/

/-- The files of an audit are those of the project of the audit. -/
theorem config_of_result_auditFiles {w : World} {before : Registry} {target : Target}
    {files : List Path} {contexts : List FileContext} {summary : Summary}
    (h : (auditFiles w before target files).result = .ok (contexts, summary)) :
  ∀ file ∈ contexts, file.config = target.config
  := by
  obtain ⟨-, -, rfl, -⟩ := (result_auditFiles_eq_ok_iff _ _ _ _ _ _).mp h
  intro file hfile
  obtain ⟨p, -, hp⟩ := List.mem_filterMap.mp hfile
  exact config_of_examined? hp

/-- An audit with other settings that load the same rules. -/
theorem result_auditFiles_of_edited {w : World} {before : Registry} {target : Target}
    {files : List Path} {contexts : List FileContext} {summary : Summary}
    (h : (auditFiles w before target files).result = .ok (contexts, summary)) {config' : Config}
    (hplugins : config'.plugins = target.config.plugins)
    (hoptions : ∀ r ∈ (loadRules w.modules before target.config).registry.enabled config',
      ∃ values, r.options config' = .ok values) :
  let reg := (loadRules w.modules before target.config).registry
  let contexts' := contexts.map (·.under config')
  (auditFiles w before { target with config := config' } files).result
    = .ok (contexts', { summary with
      diagnostics := (signedReport config' (reg.enabled config') contexts').map (·.2) })
  := by
  intro reg contexts'
  obtain ⟨hload, hworkers, hcontexts, rfl⟩ := (result_auditFiles_eq_ok_iff _ _ _ _ _ _).mp h
  obtain ⟨hreg, hresult⟩ := loadRules_of_plugins_eq hload hplugins hoptions
  have hexamined : contexts' = files.filterMap
      (examined? w { target with config := config' }) := by
    show contexts.map (·.under config') = _
    rw [hcontexts, List.map_filterMap]
    simp only [examined?_under]
  rw [result_auditFiles_eq_ok_iff, hreg, map_snd_signedReport]
  refine ⟨hresult, hworkers, hexamined, ?_⟩
  rw [List.length_map]

/-- An audit that comes to an end, and a rule whose name is an identifier. When the rule is
dropped as well, and the rules that are left overlook that, the same files are examined and
fail, and the report is that of before less what the rule produced. When a severity is set for
the rule, and the enabled rules overlook that, the same files are examined and fail, the same
findings are suppressed, and the report has the diagnostics of before, in which those that the
rule produced have this severity. Both edits can be made in every table that the settings are
read from. The built-in rules overlook every difference of settings. -/
theorem auditFiles_of_edited_settings {w : World} {before : Registry} {target : Target}
    {files : List Path} {contexts : List FileContext} {summary : Summary}
    (h : (auditFiles w before target files).result = .ok (contexts, summary)) {rule : String}
    (hrule : IsIdentifier rule.toList) (hwords : rule ∉ ["all", "enable", "disable"]) :
  let reg := (loadRules w.modules before target.config).registry
  let report := signedReport target.config (reg.enabled target.config) contexts
  summary.diagnostics = report.map (·.2)
  ∧ (∀ config', target.config.DropsAlso rule config' →
      (∀ r ∈ reg.enabled config', r.Overlooks target.config config') →
      (auditFiles w before { target with config := config' } files).result
        = .ok (contexts.map (·.under config'), { summary with
          diagnostics := (report.filter fun e => e.1.id ≠ rule).map (·.2) }))
  ∧ (∀ severity config', target.config.Regrades rule severity config' →
      (∀ r ∈ reg.enabled config', r.Overlooks target.config config') →
      ∃ diagnostics,
        (auditFiles w before { target with config := config' } files).result
          = .ok (contexts.map (·.under config'), { summary with diagnostics })
        ∧ diagnostics.Perm (report.map (regraded rule severity))
        ∧ ∀ file ∈ contexts,
          suppressedFindings config' (reg.enabled config') (file.under config')
            = (suppressedFindings target.config (reg.enabled target.config) file).map
              fun e => (e.1, regraded rule severity e))
  ∧ (∀ table, Config.ofTable table = .ok target.config →
      (∀ i, ∃ config', Config.ofTable (table.dropping rule i) = .ok config'
        ∧ target.config.DropsAlso rule config')
      ∧ ∀ setting v severity, readSeverity setting v = .ok severity →
        ∃ config', Config.ofTable (table.grading rule v) = .ok config'
          ∧ target.config.Regrades rule severity config')
  ∧ ∀ r ∈ Rule.builtin, ∀ config config', r.Overlooks config config'
  := by
  intro reg report
  obtain ⟨hload, -, -, hsummary⟩ := (result_auditFiles_eq_ok_iff _ _ _ _ _ _).mp h
  have hoptions := options_of_loadRules hload
  have hcontexts := config_of_result_auditFiles h
  have hall : ¬ IsAll rule := by
    apply not_isAll_of_isIdentifier hrule
    rintro rfl
    simp at hwords
  refine ⟨?_, ?_, ?_, ?_, ?_⟩
  · rw [hsummary, map_snd_signedReport]
  · intro config' hdrops hrules
    have henabled := enabled_of_dropsAlso hdrops hall reg
    rw [henabled] at hrules
    rw [result_auditFiles_of_edited h (plugins_of_dropsAlso hdrops), henabled,
      signedReport_of_dropsAlso hdrops hrules hcontexts]
    intro r hr
    rw [henabled] at hr
    obtain ⟨values, hvalues⟩ := hoptions r (List.mem_of_mem_filter hr)
    use values
    rw [options_congr, hvalues]
    rw [ruleSettings_of_dropsAlso hdrops]
  · intro severity config' hregrades hrules
    have henabled := enabled_of_regrades hregrades reg
    rw [henabled] at hrules
    refine ⟨_, result_auditFiles_of_edited h (plugins_of_regrades hregrades) ?_, ?_, ?_⟩
    · intro r hr
      rw [henabled] at hr
      obtain ⟨values, hvalues⟩ := hoptions r hr
      use values
      rw [options_congr (options_of_regrades hregrades r.id), hvalues]
    · rw [henabled]
      exact map_snd_signedReport_of_regrades hregrades hrules hcontexts
    · intro file hfile
      rw [henabled]
      exact suppressedFindings_of_regrades hregrades hrules (hcontexts file hfile)
  · intro table htable
    constructor
    · intro i
      exact exists_ofTable_dropping htable hrule i
    · intro setting v severity hv
      have henable : rule ≠ "enable" := by
        rintro rfl
        simp at hwords
      have hdisable : rule ≠ "disable" := by
        rintro rfl
        simp at hwords
      exact exists_ofTable_grading htable hrule henable hdisable hv
  · intro r hr config config'
    exact Rule.overlooks_of_mem_builtin hr config config'

/-- Two rules of a plugin, of which one looks at its options and signs its findings with another
name. It is dropped, or a severity is set for it. -/
theorem auditFiles_of_edited_settings_todo :
  let found := fun (id : String) => ({ rule := some id, severity := .warn, message := "found" } :
    Diagnostic)
  let todo := Rule.plugin { id := "todo", title := "", description := "", severity := .warn }
    [("names", .list [.text "other"])]
    fun _ => .asking fun values => (optionTexts values "names").map found
  let unused := Rule.plugin { id := "unused", title := "", description := "", severity := .warn }
    [] fun _ => .found [found "unused"]
  let w : World := {
    disk := { files := [(["p", "a.ts"], Text.encode "f();".toList)] }
    modules := [("rules", [("RULES", .rules false [.rule todo, .rule unused])])] }
  let table : Entries := [("plugins", .list [.text "rules"])]
  let target : Target := {
    root := .absolute ["p"], scanPath := .absolute ["p"], config := { plugins := ["rules"] } }
  let files : List Path := [.absolute ["p", "a.ts"]]
  Config.ofTable table = .ok target.config
  ∧ (∃ config' contexts summary, Config.ofTable (table.dropping "todo" 0) = .ok config'
    ∧ (auditFiles w .initial { target with config := config' } files).result
      = .ok (contexts, summary)
    ∧ summary.diagnostics = [found "unused"])
  ∧ ∃ config' contexts summary, Config.ofTable (table.grading "todo" (.text "Info")) = .ok config'
    ∧ (auditFiles w .initial { target with config := config' } files).result
      = .ok (contexts, summary)
    ∧ summary.diagnostics.Perm [{ found "other" with severity := .info }, found "unused"]
  := by
  intro found todo unused w table target files
  have htable : Config.ofTable table = .ok target.config := rfl
  have hplugins : (loadPluginSpecs w.modules target.config.plugins).2 = .ok [todo, unused] := rfl
  have hfault : Registry.firstFault? [] [todo, unused] = none := by decide +kernel
  obtain ⟨henabled, hresult⟩ := loadRules_of_pairwise hplugins hfault (by decide +kernel) .initial
  have hload : (loadRules w.modules .initial target.config).result = .ok () := by
    rw [hresult]
    decide +kernel
  have hreg : (loadRules w.modules .initial target.config).registry = ⟨[todo, unused]⟩ := by
    refine (loadRules_of_register hplugins ?_ .initial).1
    rw [Registry.register, hfault]
  have hoverlook : ∀ config', ∀ r ∈ Registry.enabled ⟨[todo, unused]⟩ config',
      r.Overlooks target.config config' := by
    intro config'
    apply overlooks_of_mem_enabled
    rintro r hr file
    rcases List.mem_pair.mp hr with rfl | rfl
    · rfl
    · rfl
  have haudit := (result_auditFiles_eq_ok_iff w .initial target files _ _).mpr
    ⟨hload, ⟨2, by decide +kernel⟩, rfl, rfl⟩
  have hrule : IsIdentifier "todo".toList := by decide +kernel
  obtain ⟨-, hdrop, hgrade, htables, -⟩ := auditFiles_of_edited_settings haudit hrule (by decide)
  obtain ⟨hdropping, hgrading⟩ := htables table htable
  rw [hreg] at hdrop hgrade
  refine ⟨htable, ?_, ?_⟩
  · obtain ⟨config', hconfig, hdrops⟩ := hdropping 0
    refine ⟨config', _, _, hconfig, hdrop config' hdrops (hoverlook config'), ?_⟩
    apply List.perm_singleton.mp
    apply (((signedReport_perm _ _ _).filter _).map _).trans
    rw [← hreg, henabled]
    exact .of_eq (by decide +kernel)
  · obtain ⟨config', hconfig, hregrades⟩ := hgrading "" (.text "Info") .info (by decide +kernel)
    obtain ⟨diagnostics, hlater, hperm, -⟩ :=
      hgrade .info config' hregrades (hoverlook config')
    refine ⟨config', _, _, hconfig, hlater, hperm.trans ?_⟩
    apply ((signedReport_perm _ _ _).map _).trans
    rw [← hreg, henabled]
    exact .of_eq (by decide +kernel)

/-- A rule of a plugin finds something until another rule is dropped, which it reads in the
settings. And the options of a rule stand under its name with blanks around it: a severity
under the name itself makes a table of its own, so that the rule has the options that stand
when nothing is set, and finds something. -/
theorem auditFiles_of_overheard_settings :
  let found := fun (id : String) => ({ rule := some id, severity := .warn, message := "found" } :
    Diagnostic)
  let watch := Rule.plugin { id := "watch", title := "", description := "", severity := .warn }
    [] fun file => .found (if file.config.disable.contains "todo" then [] else [found "watch"])
  let todo := Rule.plugin { id := "todo", title := "", description := "", severity := .warn }
    [("limit", .int 1)]
    fun _ => .asking fun values => if optionNat values "limit" < 2 then [found "todo"] else []
  let own : Value := .table [("limit", .int 9)]
  let table : Entries := [("plugins", .list [.text "rules"]),
    ("rules", .table [(" todo ", own)])]
  let dropping : Entries := [("plugins", .list [.text "rules"]),
    ("rules", .table [(" todo ", own), ("disable", .list [.text "todo"])])]
  let grading : Entries := [("plugins", .list [.text "rules"]),
    ("rules", .table [(" todo ", own), ("todo", .table [("severity", .text "error")])])]
  let w : World := {
    disk := { files := [(["p", "a.ts"], Text.encode "f();".toList)] }
    modules := [("rules", [("RULES", .rules false [.rule todo, .rule watch])])] }
  let files : List Path := [.absolute ["p", "a.ts"]]
  let reports (table : Entries) (ds : List Diagnostic) : Prop :=
    ∃ config contexts summary, Config.ofTable table = .ok config
      ∧ (auditFiles w .initial ⟨.absolute ["p"], .absolute ["p"], config⟩ files).result
        = .ok (contexts, summary)
      ∧ summary.diagnostics = ds
  reports table [found "watch"]
  ∧ reports dropping []
  ∧ reports grading [{ found "todo" with severity := .error }, found "watch"]
  := by
  intro found watch todo own table dropping grading w files reports
  have hplugins : (loadPluginSpecs w.modules ["rules"]).2 = .ok [todo, watch] := rfl
  let read (table : Entries) : Config := (Config.ofTable table).toOption.getD {}
  let rules (table : Entries) : List Rule :=
    (Rule.builtin ++ [todo, watch]).filter fun r => (read table).enables r.id
  have hreports : ∀ table ds, (Config.ofTable table).isOk = true →
      (read table).plugins = ["rules"] → checkOptions (read table) (rules table) = .ok () →
      (files.filterMap (examined? w ⟨.absolute ["p"], .absolute ["p"], read table⟩)).flatMap
        (keptFindings (read table) (rules table)) = ds →
      (ds.Pairwise fun a b => a.reportKey.le b.reportKey = true) →
      reports table ds := by
    intro table ds hok hnames hoptions hds hsorted
    have hconfig : Config.ofTable table = .ok (read table) := by
      show Config.ofTable table = .ok ((Config.ofTable table).toOption.getD {})
      cases htable : Config.ofTable table with
      | error fault =>
          rw [htable] at hok
          cases hok
      | ok config => rfl
    rw [← hnames] at hplugins
    obtain ⟨henabled, hresult⟩ := loadRules_of_pairwise hplugins (by decide +kernel)
      (by decide +kernel) .initial
    rw [hoptions] at hresult
    refine ⟨read table, _, _, hconfig, (result_auditFiles_eq_ok_iff w .initial _ files _ _).mpr
      ⟨hresult, ⟨2, by decide +kernel⟩, rfl, rfl⟩, ?_⟩
    dsimp only
    rw [henabled, hds]
    exact List.mergeSort_of_pairwise hsorted
  refine ⟨?_, ?_, ?_⟩
  · exact hreports table _ (by decide +kernel) (by decide +kernel) (by decide +kernel)
      (by decide +kernel) (by decide +kernel)
  · exact hreports dropping _ (by decide +kernel) (by decide +kernel) (by decide +kernel)
      (by decide +kernel) (by decide +kernel)
  · exact hreports grading _ (by decide +kernel) (by decide +kernel) (by decide +kernel)
      (by decide +kernel) (by decide +kernel)

end SourceAudit
