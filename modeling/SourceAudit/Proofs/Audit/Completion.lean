import SourceAudit.Proofs.Audit.Summary
import SourceAudit.Proofs.Project.Workers

/-!
# When an audit comes to an end

An audit ends without a summary only before it reads a file: when its rules cannot be
loaded, and else when the number of workers is refused. What the files hold has no say in
it. Once rules are loaded, the options of every enabled rule are accepted again whenever
the rule looks at them.
-/

namespace SourceAudit

open Text

/-! ### Rules do not fail -/

/-- Rules that fail on no file that they apply to come to an end. -/
theorem exists_detect_eq_ok {files : List FileContext} {rules : List Rule}
    (h : ∀ file ∈ files, ∀ r ∈ rules, r.applies file = true →
      ∃ found, r.check file = .ok found) (config : Config) :
  ∃ log found, detect config rules files = .ok (log, found)
  := by
  obtain ⟨log, hlog⟩ := (detect_eq_ok_iff config rules files _).mpr ⟨h, rfl⟩
  exact ⟨log, _, hlog⟩

/-! ### How an audit ends -/

theorem result_auditFiles_of_error {w : World} {before : Registry} {target : Target}
    {fault : RulesFault}
    (h : (loadRules w.modules before target.config).result = .error fault)
    (files : List Path) :
  (auditFiles w before target files).result = .error (.rules fault)
  := by
  rw [auditFiles]
  dsimp only
  rw [h]

/-- An audit ends with a fault of its rules, or with a fault of the number of workers when
the rules can be loaded. -/
theorem result_auditFiles_eq_error_iff (w : World) (before : Registry) (target : Target)
    (files : List Path) (e : AuditFault) :
  (auditFiles w before target files).result = .error e
    ↔ (∃ fault, (loadRules w.modules before target.config).result = .error fault
        ∧ e = .rules fault)
      ∨ ((loadRules w.modules before target.config).result = .ok ()
        ∧ ∃ fault, workerCount (w.environmentValue "AVESTA_WORKERS") standardWorkers
            defaultMaxWorkers = .error fault
          ∧ e = .workers fault)
  := by
  cases hload : (loadRules w.modules before target.config).result with
  | error fault =>
      rw [result_auditFiles_of_error hload]
      simp [eq_comm]
  | ok _ =>
      cases hworkers : workerCount (w.environmentValue "AVESTA_WORKERS") standardWorkers
        defaultMaxWorkers with
      | error fault =>
          rw [result_auditFiles hload, auditLoaded_of_workers_error hworkers]
          simp [eq_comm]
      | ok n =>
          rw [result_auditFiles_of_workers_ok hload hworkers]
          simp

/-- An audit ends with a summary when its rules can be loaded and the number of workers is
accepted. -/
theorem result_auditFiles_eq_ok_iff (w : World) (before : Registry) (target : Target)
    (files : List Path) (contexts : List FileContext) (summary : Summary) :
  (auditFiles w before target files).result = .ok (contexts, summary)
    ↔ (loadRules w.modules before target.config).result = .ok ()
      ∧ (∃ n, workerCount (w.environmentValue "AVESTA_WORKERS") standardWorkers
        defaultMaxWorkers = .ok n)
      ∧ contexts = files.filterMap (examined? w target)
      ∧ summary = {
        examined := contexts.length
        diagnostics := reportOrder (contexts.flatMap (keptFindings target.config
          ((loadRules w.modules before target.config).registry.enabled target.config)))
        failures := files.filterMap (failure? w target.root) }
  := by
  cases hload : (loadRules w.modules before target.config).result with
  | error fault =>
      rw [result_auditFiles_of_error hload]
      simp
  | ok _ =>
      cases hworkers : workerCount (w.environmentValue "AVESTA_WORKERS") standardWorkers
        defaultMaxWorkers with
      | error fault =>
          rw [result_auditFiles hload, auditLoaded_of_workers_error hworkers]
          simp
      | ok n =>
          rw [result_auditFiles_of_workers_ok hload hworkers, ← flatMap_keptFindings]
          constructor
          · intro h
            cases h
            exact ⟨rfl, ⟨n, rfl⟩, rfl, rfl⟩
          · rintro ⟨-, -, rfl, rfl⟩
            rfl

/-- Two audits of a project, in worlds with the same modules and the same environment but
with any files on their disks, any parses and any lists of files. They end with the same
fault or both with a summary; the fault is one of the rules, or else one of the number of
workers. When no number is asked for, or one in ASCII digits that are not too many, only a
fault of the rules ends an audit. Once rules are loaded, the options of every enabled rule
are accepted, and no list of files of the project makes a rule fail. -/
theorem auditFiles_fail_alike {w w' : World} (hmodules : w'.modules = w.modules)
    (henvironment : w'.environment = w.environment) (before : Registry) (target : Target)
    (files files' : List Path) :
  let loaded := loadRules w.modules before target.config
  let requested := w.environmentValue "AVESTA_WORKERS"
  let result := (auditFiles w before target files).result
  (∀ e, result = .error e ↔ (auditFiles w' before target files').result = .error e)
  ∧ (∀ e, result = .error e
    ↔ (∃ fault, loaded.result = .error fault ∧ e = .rules fault)
      ∨ (loaded.result = .ok ()
        ∧ ∃ fault, workerCount requested standardWorkers defaultMaxWorkers = .error fault
          ∧ e = .workers fault))
  ∧ ((∀ s, requested = some s → IsAsciiNumber (trim s.toList)
        ∧ (trim s.toList).length ≤ maxDigits) →
      ∀ e, result = .error e ↔ ∃ fault, loaded.result = .error fault ∧ e = .rules fault)
  ∧ (loaded.result = .ok () →
      (∀ r ∈ loaded.registry.enabled target.config, ∃ values,
        r.options target.config = .ok values)
      ∧ ∀ contexts : List FileContext, (∀ file ∈ contexts, file.config = target.config) →
        ∃ log found,
          detect target.config (loaded.registry.enabled target.config) contexts
            = .ok (log, found))
  := by
  intro loaded requested result
  have hrequested : w'.environmentValue "AVESTA_WORKERS" = requested := by
    rw [World.environmentValue, henvironment]
    rfl
  have hresult := result_auditFiles_eq_error_iff w before target files
  refine ⟨?_, hresult, ?_, ?_⟩
  · intro e
    rw [hresult e, result_auditFiles_eq_error_iff w' before target files' e, hmodules,
      hrequested]
  · intro hascii e
    obtain ⟨n, hn⟩ := exists_workerCount_eq_ok hascii standardWorkers defaultMaxWorkers
    rw [hresult e]
    constructor
    · rintro (h | ⟨-, fault, hfault, -⟩)
      · exact h
      · rw [hn] at hfault
        cases hfault
    · exact Or.inl
  · intro h
    use options_of_loadRules h
    intro contexts hcontexts
    apply exists_detect_eq_ok
    intro file hfile r hr _
    exact exists_check_of_loadRules h r hr file (hcontexts file hfile)

/-- A file with a directive at fault, a rule of a plugin that looks at its options, and an
option that its rule does not take. The last rule is disabled, so nobody looks at its
options. -/
theorem auditFiles_fail_alike_disabled_rule :
  let rule := Rule.plugin
    { id := "todo", title := "", description := "", severity := .warn }
    [("words", .list [.text "todo"])]
    fun _ => .asking fun values => (optionTexts values "words").map fun word =>
      { rule := some "todo", severity := .warn, message := word }
  let target : Target := {
    root := .absolute ["p"]
    scanPath := .absolute ["p"]
    config := {
      plugins := ["rules"]
      disable := ["react-props-helper"]
      settings := [("react-props-helper", { options := [("no_option", .null)] }),
        ("todo", { options := [("words", .list [.text "fixme"])] })] } }
  let modules : Modules := [("rules", [("RULES", .rules false [.rule rule])])]
  let w : World := {
    disk := { files := [(["p", "a.ts"], Text.encode "/* avesta-disable */".toList)] }
    modules := modules
    environment := [("AVESTA_WORKERS", " 64 ")] }
  let w' : World := { modules := modules, environment := [("AVESTA_WORKERS", " 64 ")] }
  (loadRules w.modules .initial target.config).result = .ok ()
  ∧ ∀ e, (auditFiles w .initial target [.absolute ["p", "a.ts"]]).result ≠ .error e
    ∧ (auditFiles w' .initial target []).result ≠ .error e
  := by
  intro rule target modules w w'
  obtain ⟨-, hresult⟩ := loadRules_of_pairwise
    (show (loadPluginSpecs w.modules target.config.plugins).2 = .ok [rule] from rfl)
    (by decide +kernel) (by decide +kernel) .initial
  have h : (loadRules w.modules .initial target.config).result = .ok () := by
    rw [hresult]
    decide +kernel
  use h
  have hmodules : w'.modules = w.modules := rfl
  have henvironment : w'.environment = w.environment := rfl
  obtain ⟨halike, -, hascii, -⟩ := auditFiles_fail_alike hmodules henvironment .initial target
    [.absolute ["p", "a.ts"]] []
  have hno : ∀ e, (auditFiles w .initial target [.absolute ["p", "a.ts"]]).result ≠ .error e := by
    intro e he
    have hrequested : ∀ s, w.environmentValue "AVESTA_WORKERS" = some s →
        IsAsciiNumber (trim s.toList) ∧ (trim s.toList).length ≤ maxDigits := by
      intro s hs
      cases hs
      have hdigits : (trim " 64 ".toList).all isAsciiDigit = true := by decide +kernel
      exact ⟨⟨by decide +kernel, List.all_eq_true.mp hdigits⟩, by decide +kernel⟩
    obtain ⟨fault, hfault, -⟩ := (hascii hrequested e).mp he
    rw [h] at hfault
    cases hfault
  intro e
  use hno e
  intro he
  exact hno e ((halike e).mpr he)

/-- A number of workers with more digits than are read ends every audit, though the rules can
be loaded. -/
theorem auditFiles_of_too_many_digits :
  let target : Target :=
    { root := .absolute ["p"], scanPath := .absolute ["p"], config := {} }
  let requested := String.ofList (List.replicate (maxDigits + 1) '1')
  let w : World := { environment := [("AVESTA_WORKERS", requested)] }
  IsAsciiNumber requested.toList
  ∧ (loadRules w.modules .initial target.config).result = .ok ()
  ∧ ∀ files, (auditFiles w .initial target files).result = .error (.workers .tooManyDigits)
  := by
  intro target requested w
  have hdigits : ∀ c ∈ requested.toList, c = '1' := by
    intro c hc
    rw [String.toList_ofList] at hc
    exact List.eq_of_mem_replicate hc
  have hnumber : IsAsciiNumber requested.toList := by
    constructor
    · rw [String.toList_ofList]
      exact List.cons_ne_nil _ _
    · intro c hc
      rw [hdigits c hc]
      decide
  have htrim : trim requested.toList = requested.toList := by
    apply trim_of_not_blank
    intro c hc
    rw [hdigits c hc]
    decide
  obtain ⟨-, hresult⟩ := loadRules_of_pairwise
    (show (loadPluginSpecs w.modules target.config.plugins).2 = .ok [] from rfl)
    (by decide +kernel) (by decide +kernel) .initial
  have h : (loadRules w.modules .initial target.config).result = .ok () := by
    rw [hresult]
    decide +kernel
  have hlength : maxDigits < (trim requested.toList).length := by
    rw [htrim, String.toList_ofList, List.length_replicate]
    exact Nat.lt_add_one maxDigits
  have hworkers : workerCount (w.environmentValue "AVESTA_WORKERS") standardWorkers
      defaultMaxWorkers = .error .tooManyDigits := by
    apply workerCount_of_too_many_digits
    · rw [htrim]
      exact hnumber
    · exact hlength
  refine ⟨hnumber, h, ?_⟩
  intro files
  rw [result_auditFiles h]
  exact auditLoaded_of_workers_error hworkers _ _ _

end SourceAudit
