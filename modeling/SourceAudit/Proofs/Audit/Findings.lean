import SourceAudit.Audit
import SourceAudit.Proofs.Directive.Scan

/-!
# What an audit finds

Each stage of an audit, from the reading of files to the findings that are kept, as one
pass over its list:

* the files that rules are run on are those that can be read, are in a known dialect and
  have no directive at fault;
* the failures are those of the files of which only the last is not true;
* once the options of the enabled rules are accepted no rule fails, and a file's findings
  are those of the rules that apply to it, with the severities that are set;
* a finding is dropped exactly when a rule signs it that the directives of the same file
  turn off, in the whole file or on the line of the finding.
-/

namespace SourceAudit

open Text

/-! ### Options of rules -/

theorem checkOptions_eq_ok_iff (config : Config) (rules : List Rule) :
  checkOptions config rules = .ok () ↔ ∀ r ∈ rules, ∃ values, r.options config = .ok values
  := by
  induction rules with
  | nil => simp [checkOptions]
  | cons r rest ih =>
      rw [checkOptions, List.forall_mem_cons, ← ih]
      cases r.options config with
      | error fault => simp
      | ok values => simp

/-- A rule whose options are accepted in the project of a file does not fail on the file. -/
theorem Rule.exists_check_eq_ok {r : Rule} {file : FileContext} {values : Entries}
    (h : r.options file.config = .ok values) :
  ∃ found, r.check file = .ok found
  := by
  rw [Rule.check]
  cases r.inspect file with
  | found ds => exact ⟨_, rfl⟩
  | asking findings =>
      dsimp only
      rw [h]
      exact ⟨_, rfl⟩

/-- Loading rules of plugins that can be registered comes to checking the options of the
rules that are enabled then. -/
theorem loadRules_of_register {modules : Modules} {config : Config} {rules : List Rule}
    {reg : Registry} (hplugins : (loadPluginSpecs modules config.plugins).2 = .ok rules)
    (hreg : Registry.register rules = .ok reg) (before : Registry) :
  (loadRules modules before config).registry = reg
    ∧ (loadRules modules before config).result
      = (checkOptions config (reg.enabled config)).mapError .config
  := by
  rw [loadRules]
  split
  · rename_i fault heq
    rw [heq] at hplugins
    cases hplugins
  · rename_i found heq
    rw [heq] at hplugins
    cases hplugins
    rw [hreg]
    exact ⟨rfl, rfl⟩

/-- Loading rules of plugins whose names follow those of the built-in rules in order. -/
theorem loadRules_of_pairwise {modules : Modules} {config : Config} {rules : List Rule}
    (hplugins : (loadPluginSpecs modules config.plugins).2 = .ok rules)
    (hfault : Registry.firstFault? [] rules = none)
    (hsorted : (Rule.builtin ++ rules).Pairwise fun r s => Registry.idLe r s = true)
    (before : Registry) :
  (loadRules modules before config).registry.enabled config
      = (Rule.builtin ++ rules).filter (fun r => config.enables r.id)
    ∧ (loadRules modules before config).result
      = (checkOptions config ((Rule.builtin ++ rules).filter fun r =>
          config.enables r.id)).mapError .config
  := by
  have hregister : Registry.register rules = .ok ⟨rules⟩ := by
    rw [Registry.register, hfault]
  have hrules : Registry.rules ⟨rules⟩ = Rule.builtin ++ rules :=
    List.mergeSort_of_pairwise hsorted
  obtain ⟨hreg, hresult⟩ := loadRules_of_register hplugins hregister before
  rw [hreg, hresult, Registry.enabled, hrules]
  constructor
  · rfl
  · rfl

/-- When rules are loaded, those of the plugins have been registered. -/
theorem exists_register_of_loadRules {modules : Modules} {before : Registry} {config : Config}
    (h : (loadRules modules before config).result = .ok ()) :
  ∃ rules, (loadPluginSpecs modules config.plugins).2 = .ok rules
    ∧ Registry.register rules = .ok (loadRules modules before config).registry
  := by
  rw [loadRules] at h ⊢
  split at h
  · cases h
  · rename_i rules heq
    split at h
    · cases h
    · rename_i reg hregister
      rw [heq]
      exact ⟨rules, rfl, hregister⟩

/-- The options of the enabled rules have been accepted when rules are loaded. -/
theorem options_of_loadRules {modules : Modules} {before : Registry} {config : Config}
    (h : (loadRules modules before config).result = .ok ()) :
  ∀ r ∈ (loadRules modules before config).registry.enabled config,
    ∃ values, r.options config = .ok values
  := by
  obtain ⟨rules, hplugins, hregister⟩ := exists_register_of_loadRules h
  rw [(loadRules_of_register hplugins hregister before).2] at h
  apply (checkOptions_eq_ok_iff _ _).mp
  cases hcheck : checkOptions config
      ((loadRules modules before config).registry.enabled config) with
  | error fault =>
      rw [hcheck] at h
      cases h
  | ok _ => rfl

/-- Settings that name the same plugins load the same rules, when the options of the rules
they enable are accepted. -/
theorem loadRules_of_plugins_eq {modules : Modules} {before : Registry} {config config' : Config}
    (h : (loadRules modules before config).result = .ok ())
    (hplugins : config'.plugins = config.plugins)
    (hoptions : ∀ r ∈ (loadRules modules before config).registry.enabled config',
      ∃ values, r.options config' = .ok values) :
  (loadRules modules before config').registry = (loadRules modules before config).registry
    ∧ (loadRules modules before config').result = .ok ()
  := by
  obtain ⟨rules, hrules, hregister⟩ := exists_register_of_loadRules h
  rw [← hplugins] at hrules
  obtain ⟨hreg, hresult⟩ := loadRules_of_register hrules hregister before
  use hreg
  rw [hresult, (checkOptions_eq_ok_iff _ _).mpr hoptions]
  rfl

/-- No enabled rule fails on a file of the project once rules are loaded. -/
theorem exists_check_of_loadRules {modules : Modules} {before : Registry} {config : Config}
    (h : (loadRules modules before config).result = .ok ()) :
  ∀ r ∈ (loadRules modules before config).registry.enabled config,
    ∀ file : FileContext, file.config = config → ∃ found, r.check file = .ok found
  := by
  rintro r hr file rfl
  obtain ⟨values, hvalues⟩ := options_of_loadRules h r hr
  exact Rule.exists_check_eq_ok hvalues

/-! ### Findings of rules -/

theorem exists_eq_of_map_eq_ok {ε α β : Type} {x : Except ε α} {g : α → β} {y : β}
    (h : x.map g = .ok y) :
  ∃ a, y = g a
  := by
  cases x with
  | error e => cases h
  | ok a => exact ⟨a, (Except.ok.inj h).symm⟩

/-- What a built-in rule finds it finds at a node of the file that it is shown. -/
theorem exists_finding_of_check {r : Rule} (hr : r ∈ Rule.builtin) {file : FileContext}
    {found : List Diagnostic} (h : r.check file = .ok found) :
  ∀ d ∈ found, ∃ n message suggestion, d = r.about.finding file n message suggestion
  := by
  intro d hd
  rw [Rule.check, Rule.inspect.eq_def] at h
  split at h
  · rename_i heq
    split at heq
    · simp [Rule.builtin] at hr
    · cases heq
      cases h
      cases hd
    · cases heq
    · cases heq
    · cases heq
      cases h
      obtain ⟨⟨complaint, n⟩, -, rfl⟩ := List.mem_map.mp hd
      exact ⟨n, complaint.message, _, rfl⟩
  · rename_i heq
    split at heq
    · simp [Rule.builtin] at hr
    · cases heq
    · cases heq
      obtain ⟨values, rfl⟩ := exists_eq_of_map_eq_ok h
      obtain ⟨⟨n, message⟩, -, rfl⟩ := List.mem_map.mp hd
      exact ⟨n, message, _, rfl⟩
    · cases heq
      obtain ⟨values, rfl⟩ := exists_eq_of_map_eq_ok h
      obtain ⟨n, -, rfl⟩ := List.mem_map.mp hd
      exact ⟨n, _, _, rfl⟩
    · cases heq

/-- A finding of a rule with the severity that is set for the rule, if one is. -/
def Config.regrade (config : Config) (r : Rule) (d : Diagnostic) : Diagnostic :=
  { d with severity := (config.ruleSettings r.id).severity.getD d.severity }

/-- What a rule finds in a file, with the severity that is set for it. -/
def Rule.reports (r : Rule) (config : Config) (file : FileContext) : List Diagnostic :=
  match r.check file with
  | .ok found => found.map (config.regrade r)
  | .error _ => []

theorem reports_of_check {r : Rule} {file : FileContext} {found : List Diagnostic}
    (h : r.check file = .ok found) (config : Config) :
  r.reports config file
    = match (config.ruleSettings r.id).severity with
      | some severity => found.map fun d => { d with severity }
      | none => found
  := by
  have hregrade : ∀ d, config.regrade r d
      = { d with severity := (config.ruleSettings r.id).severity.getD d.severity } :=
    fun _ => rfl
  rw [Rule.reports, h]
  cases hseverity : (config.ruleSettings r.id).severity with
  | none =>
      have hid : config.regrade r = id := by
        funext d
        rw [hregrade, hseverity]
        rfl
      dsimp only
      rw [hid, List.map_id]
  | some severity =>
      apply List.map_congr_left
      intro d _
      rw [hregrade, hseverity]
      rfl

/-- Running rules gathers what those of them report that apply, when none of these fails. -/
theorem runRules_of_applies {config : Config} {file : FileContext} {rules : List Rule}
    (h : ∀ r ∈ rules, r.applies file = true → ∃ found, r.check file = .ok found) :
  runRules config file rules
    = .ok ((rules.filter (·.applies file)).flatMap (·.reports config file))
  := by
  induction rules with
  | nil => rfl
  | cons r rest ih =>
      obtain ⟨hr, hrest⟩ := List.forall_mem_cons.mp h
      rw [runRules, ih hrest]
      cases happlies : r.applies file with
      | false => simp [happlies]
      | true =>
          obtain ⟨found, hfound⟩ := hr happlies
          rw [List.filter_cons, if_pos happlies, List.flatMap_cons,
            reports_of_check hfound config, hfound]
          rfl

/-- No rule that applies fails when running rules comes to an end. -/
theorem exists_check_of_runRules {config : Config} {file : FileContext} {rules : List Rule}
    {found : List Diagnostic} (h : runRules config file rules = .ok found) :
  ∀ r ∈ rules, r.applies file = true → ∃ found, r.check file = .ok found
  := by
  induction rules generalizing found with
  | nil => exact List.forall_mem_nil _
  | cons r rest ih =>
      rw [runRules] at h
      rw [List.forall_mem_cons]
      cases happlies : r.applies file with
      | false =>
          rw [happlies] at h
          exact ⟨nofun, ih h⟩
      | true =>
          rw [happlies] at h
          cases hcheck : r.check file with
          | error fault =>
              rw [hcheck] at h
              cases h
          | ok raw =>
              rw [hcheck] at h
              cases hrest : runRules config file rest with
              | error fault =>
                  rw [hrest] at h
                  cases h
              | ok more => exact ⟨fun _ => ⟨raw, rfl⟩, ih hrest⟩

/-! ### Findings that are kept -/

/-- The finding is signed by a rule that is turned off, in the whole file or on the line of
the finding. -/
def Silenced (s : Suppressions) (d : Diagnostic) : Prop :=
  ∃ rule ∈ d.rule, rule ∈ s.fileRules ∨ ∃ line ∈ d.line, s.disablesOn line rule = true

instance (s : Suppressions) (d : Diagnostic) : Decidable (Silenced s d) :=
  inferInstanceAs (Decidable (∃ rule ∈ d.rule,
    rule ∈ s.fileRules ∨ ∃ line ∈ d.line, s.disablesOn line rule = true))

theorem suppresses_iff {s : Suppressions} (h : s.everything = false) (d : Diagnostic) :
  s.suppresses d.rule d.line = true ↔ Silenced s d
  := by
  rw [Silenced]
  cases d.rule with
  | none => simp [Suppressions.suppresses]
  | some rule =>
      cases d.line with
      | none => simp [Suppressions.suppresses, h]
      | some line => simp [Suppressions.suppresses, h]

theorem keep_eq_filter {s : Suppressions} (h : s.everything = false) (ds : List Diagnostic) :
  s.keep ds = ds.filter fun d => ¬ Silenced s d
  := by
  rw [Suppressions.keep]
  apply List.filter_congr
  intro d _
  rw [Bool.eq_iff_iff, Bool.not_eq_true', ← Bool.not_eq_true, suppresses_iff h,
    decide_eq_true_iff]

/-- The findings of rules in a file that its directives do not turn off. -/
def keptFindings (config : Config) (rules : List Rule) (file : FileContext) : List Diagnostic :=
  (rules.filter (·.applies file)).flatMap fun r =>
    (r.reports config file).filter fun d => ¬ Silenced file.suppressions d

theorem examine_eq_ok_iff (config : Config) (rules : List Rule) (file : FileContext)
    (found : List Diagnostic) :
  (∃ log, examine config rules file = .ok (log, found))
    ↔ (∀ r ∈ rules, r.applies file = true → ∃ raw, r.check file = .ok raw)
      ∧ found = file.suppressions.keep
        ((rules.filter (·.applies file)).flatMap (·.reports config file))
  := by
  constructor
  · rintro ⟨log, h⟩
    rw [examine] at h
    cases hrun : runRules config file rules with
    | error fault =>
        rw [hrun] at h
        cases h
    | ok raw =>
        have hchecks := exists_check_of_runRules hrun
        rw [runRules_of_applies hchecks] at h
        cases h
        exact ⟨hchecks, rfl⟩
  · rintro ⟨hchecks, rfl⟩
    rw [examine, runRules_of_applies hchecks]
    exact ⟨_, rfl⟩

/-- Running rules on files comes to an end exactly when no rule fails on a file that it applies
to. Found is, file by file, what these rules report, less what is suppressed there. -/
theorem detect_eq_ok_iff (config : Config) (rules : List Rule) (files : List FileContext)
    (found : List Diagnostic) :
  (∃ log, detect config rules files = .ok (log, found))
    ↔ (∀ file ∈ files, ∀ r ∈ rules, r.applies file = true →
        ∃ raw, r.check file = .ok raw)
      ∧ found = files.flatMap fun file => file.suppressions.keep
        ((rules.filter (·.applies file)).flatMap (·.reports config file))
  := by
  induction files generalizing found with
  | nil =>
      constructor
      · rintro ⟨log, h⟩
        cases h
        exact ⟨List.forall_mem_nil _, rfl⟩
      · rintro ⟨-, rfl⟩
        exact ⟨_, rfl⟩
  | cons file rest ih =>
      rw [detect, List.forall_mem_cons, List.flatMap_cons]
      constructor
      · rintro ⟨log, h⟩
        split at h
        · cases h
        · rename_i log found hfile
          cases hrest : detect config rules rest with
          | error fault =>
              rw [hrest] at h
              cases h
          | ok result =>
              rw [hrest] at h
              cases h
              obtain ⟨hchecks, rfl⟩ := (examine_eq_ok_iff _ _ _ _).mp ⟨_, hfile⟩
              obtain ⟨hmore, hfound⟩ := (ih _).mp ⟨_, hrest⟩
              rw [← hfound]
              exact ⟨⟨hchecks, hmore⟩, rfl⟩
      · rintro ⟨⟨hchecks, hmore⟩, rfl⟩
        obtain ⟨log, hfile⟩ := (examine_eq_ok_iff _ _ _ _).mpr ⟨hchecks, rfl⟩
        obtain ⟨later, hrest⟩ := (ih _).mpr ⟨hmore, rfl⟩
        rw [hfile, hrest]
        exact ⟨_, rfl⟩

/-- The findings in files are the kept findings in each, in the order of the files. -/
theorem detect_eq {files : List FileContext} {rules : List Rule}
    (h : ∀ r ∈ rules, ∀ file ∈ files, ∃ found, r.check file = .ok found)
    (hfiles : ∀ file ∈ files, file.suppressions.everything = false) (config : Config) :
  ∃ log, detect config rules files = .ok (log, files.flatMap (keptFindings config rules))
  := by
  rw [detect_eq_ok_iff]
  use fun file hfile r hr _ => h r hr file hfile
  apply List.flatMap_congr
  intro file hfile
  rw [keptFindings, ← List.filter_flatMap, ← keep_eq_filter (hfiles file hfile)]

/-! ### Files that rules are run on -/

/-- A file as rules see it, when it can be read, is in a known dialect and has no directive
at fault. -/
def examined? (w : World) (target : Target) (p : Path) : Option FileContext :=
  match w.disk.readText p, dialectOf? p with
  | .ok text, some dialect =>
    match readDirectives text (some (p.shown w.disk.cwd target.root)) with
    | .ok suppressions => some {
        projectRoot := target.root
        path := p
        shownPath := p.shown w.disk.cwd target.root
        language := dialect.language.name
        grammar := some dialect.grammar
        text := text
        lines := (sourceLines text.toList).map String.ofList
        suppressions := suppressions
        config := target.config
        root := (treeOf dialect.grammar (w.parse? p)).2 }
    | .error _ => none
  | _, _ => none

theorem readFile_eq_context_iff (w : World) (target : Target) (p : Path) (file : FileContext) :
  (readFile w target p).2 = .context file ↔ examined? w target p = some file
  := by
  rw [readFile, examined?]
  cases w.disk.readText p with
  | error fault => simp
  | ok text =>
      dsimp only [readFileText]
      cases dialectOf? p with
      | none => simp
      | some dialect =>
          dsimp only
          cases readDirectives text (some (p.shown w.disk.cwd target.root)) with
          | error e => simp
          | ok suppressions => simp

theorem examined?_eq_none {w : World} {target : Target} {p : Path}
    (h : ∀ file, (readFile w target p).2 ≠ .context file) :
  examined? w target p = none
  := by
  apply Option.eq_none_iff_forall_ne_some.mpr
  intro file hfile
  exact h file ((readFile_eq_context_iff _ _ _ _).mpr hfile)

/-- Rules are run on the files that can be examined, in the order of the files. -/
theorem contexts_readFiles (w : World) (target : Target) (files : List Path) :
  (readFiles w target files).contexts = files.filterMap (examined? w target)
  := by
  induction files with
  | nil => rfl
  | cons p rest ih =>
      rw [readFiles, List.filterMap_cons]
      dsimp only
      split
      · rename_i file hread
        rw [(readFile_eq_context_iff _ _ _ _).mp hread, ih]
      · rename_i f hread
        rw [examined?_eq_none (by simp [hread]), ih]
      · rename_i hread
        rw [examined?_eq_none (by simp [hread]), ih]

/-- Directives never turn every rule off. -/
theorem everything_of_examined? {w : World} {target : Target} {p : Path} {file : FileContext}
    (h : examined? w target p = some file) :
  file.suppressions.everything = false
  := by
  rw [examined?] at h
  split at h
  · split at h
    · rename_i s hs
      cases h
      exact everything_of_scanFrom ((readDirectives_eq_ok_iff _ _ _).mp hs)
    · cases h
  · cases h

theorem config_of_examined? {w : World} {target : Target} {p : Path} {file : FileContext}
    (h : examined? w target p = some file) :
  file.config = target.config
  := by
  rw [examined?] at h
  split at h
  · split at h
    · cases h
      rfl
    · cases h
  · cases h

theorem path_of_examined? {w : World} {target : Target} {p : Path} {file : FileContext}
    (h : examined? w target p = some file) :
  file.path = p
  := by
  rw [examined?] at h
  split at h
  · split at h
    · cases h
      rfl
    · cases h
  · cases h

/-- What rules report of one file. -/
def reportsOf (w : World) (target : Target) (rules : List Rule) (p : Path) : List Diagnostic :=
  (examined? w target p).toList.flatMap (keptFindings target.config rules)

theorem flatMap_keptFindings (w : World) (target : Target) (rules : List Rule)
    (files : List Path) :
  (files.filterMap (examined? w target)).flatMap (keptFindings target.config rules)
    = files.flatMap (reportsOf w target rules)
  := by
  rw [List.filterMap_eq_flatMap_toList, List.flatMap_assoc]
  rfl

/-! ### Files with a directive at fault -/

/-- What is reported of a file that can be read, is in a known dialect and has a directive at
fault. -/
def failure? (w : World) (root p : Path) : Option Failure :=
  match w.disk.readText p, dialectOf? p with
  | .ok text, some _ =>
    match readDirectives text (some (p.shown w.disk.cwd root)) with
    | .ok _ => none
    | .error e => some ⟨p, e.bareMessage, e.place.line⟩
  | _, _ => none

theorem readFile_eq_failure_iff (w : World) (target : Target) (p : Path) (f : Failure) :
  (readFile w target p).2 = .failure f ↔ failure? w target.root p = some f
  := by
  rw [readFile, failure?]
  cases w.disk.readText p with
  | error fault => simp
  | ok text =>
      dsimp only [readFileText]
      cases dialectOf? p with
      | none => simp
      | some dialect =>
          dsimp only
          cases readDirectives text (some (p.shown w.disk.cwd target.root)) with
          | error e => simp
          | ok suppressions => simp

theorem failure?_eq_none {w : World} {target : Target} {p : Path}
    (h : ∀ f, (readFile w target p).2 ≠ .failure f) :
  failure? w target.root p = none
  := by
  apply Option.eq_none_iff_forall_ne_some.mpr
  intro f hf
  exact h f ((readFile_eq_failure_iff _ _ _ _).mpr hf)

/-- Failures are reported in the order of the files. -/
theorem failures_readFiles (w : World) (target : Target) (files : List Path) :
  (readFiles w target files).failures = files.filterMap (failure? w target.root)
  := by
  induction files with
  | nil => rfl
  | cons p rest ih =>
      rw [readFiles, List.filterMap_cons]
      dsimp only
      split
      · rename_i file hread
        rw [failure?_eq_none (by simp [hread]), ih]
      · rename_i f hread
        rw [(readFile_eq_failure_iff _ _ _ _).mp hread, ih]
      · rename_i hread
        rw [failure?_eq_none (by simp [hread]), ih]

theorem path_of_failure? {w : World} {root p : Path} {f : Failure}
    (h : failure? w root p = some f) :
  f.path = p
  := by
  rw [failure?] at h
  split at h
  · split at h
    · cases h
    · cases h
      rfl
  · cases h

end SourceAudit
