import SourceAudit.CommandLine.Run
import SourceAudit.Proofs.Audit.Accounting
import SourceAudit.Proofs.Audit.Completion
import SourceAudit.Proofs.Report.Summary
import SourceAudit.Proofs.Rule.Silencing

/-!
# How a scan ends

A scan of a project whose settings and rules can be loaded prints a report, unless the
number of workers is refused or a number in the report has too many digits. Its code tells what is in the report: that of broken runs
when a file that was discovered has a directive at fault, else that of findings when one of
them is as severe as the threshold, else none. A lower threshold never makes a run that
failed succeed.
-/

namespace SourceAudit.CommandLine

open Text Report

/-! ### Codes -/

/-- Some diagnostic is as severe as the threshold, if there is one. -/
def Reaches (ds : List Diagnostic) (failOn : Option Severity) : Prop :=
  ∃ severity ∈ failOn, ∃ d ∈ ds, severity.rank ≤ d.severity.rank

instance (ds : List Diagnostic) (failOn : Option Severity) : Decidable (Reaches ds failOn) :=
  inferInstanceAs (Decidable
    (∃ severity ∈ failOn, ∃ d ∈ ds, severity.rank ≤ d.severity.rank))

/-- Failures decide the code first, and what reaches the threshold next. -/
theorem scanCode_eq (failOn : Option Severity) (s : Summary) :
  scanCode failOn s
    = if s.failures ≠ [] then brokenCode
      else if Reaches s.diagnostics failOn then findingsCode else 0
  := by
  cases failOn with
  | none => simp [scanCode, Reaches]
  | some severity => simp [scanCode, Reaches, Summary.reaches]

theorem scanCode_eq_brokenCode_iff (failOn : Option Severity) (s : Summary) :
  scanCode failOn s = brokenCode ↔ s.failures ≠ []
  := by
  rw [scanCode_eq]
  split_ifs with hfailures hreaches
  · simp [hfailures]
  · simp [hfailures, findingsCode, brokenCode]
  · simp [hfailures, brokenCode]

theorem scanCode_eq_findingsCode_iff (failOn : Option Severity) (s : Summary) :
  scanCode failOn s = findingsCode ↔ s.failures = [] ∧ Reaches s.diagnostics failOn
  := by
  rw [scanCode_eq]
  split_ifs with hfailures hreaches
  · simp [hfailures, findingsCode, brokenCode]
  · simp [not_not.mp hfailures, hreaches]
  · simp [hreaches, findingsCode]

theorem scanCode_eq_zero_iff (failOn : Option Severity) (s : Summary) :
  scanCode failOn s = 0 ↔ s.failures = [] ∧ ¬ Reaches s.diagnostics failOn
  := by
  rw [scanCode_eq]
  split_ifs with hfailures hreaches
  · simp [hfailures, brokenCode]
  · simp [hreaches, findingsCode]
  · simp [not_not.mp hfailures, hreaches]

/-! ### Thresholds -/

/-- The second threshold is as low as the first one. No threshold at all is the highest. -/
def IsLowered (failOn lower : Option Severity) : Prop :=
  ∀ severity ∈ failOn, ∃ s ∈ lower, s.rank ≤ severity.rank

instance (failOn lower : Option Severity) : Decidable (IsLowered failOn lower) :=
  inferInstanceAs (Decidable (∀ severity ∈ failOn, ∃ s ∈ lower, s.rank ≤ severity.rank))

example : [none, some Severity.error, some .warn, some .info].Pairwise IsLowered := by
  decide

theorem Reaches.of_isLowered {ds : List Diagnostic} {failOn lower : Option Severity}
    (hreaches : Reaches ds failOn) (h : IsLowered failOn lower) :
  Reaches ds lower
  := by
  obtain ⟨severity, hseverity, d, hd, hrank⟩ := hreaches
  obtain ⟨s, hs, hlower⟩ := h severity hseverity
  exact ⟨s, hs, d, hd, hlower.trans hrank⟩

theorem scanCode_ne_zero_of_isLowered {failOn lower : Option Severity}
    (h : IsLowered failOn lower) {s : Summary} (hcode : scanCode failOn s ≠ 0) :
  scanCode lower s ≠ 0
  := by
  rw [ne_eq, scanCode_eq_zero_iff] at hcode ⊢
  rintro ⟨hfailures, hno⟩
  apply hcode
  use hfailures
  intro hreaches
  exact hno (hreaches.of_isLowered h)

/-! ### Projects with the standard settings -/

/-- A project without a settings file has the standard settings. -/
theorem prepareTarget_of_unread {w : World} {p root : Path} {e : ReadFault}
    (hresolved : p.resolve w.disk.cwd = p) (hroot : projectRoot w p = root)
    (hread : w.disk.read (root ++ settingsFile) = .error e) :
  prepareTarget w p = .ok ⟨root, p, {}⟩
  := by
  rw [prepareTarget, hresolved, hroot, loadConfig, hread]
  rfl

/-- The rules that are built in can be loaded under the standard settings. -/
theorem loadRules_standard (modules : Modules) :
  (loadRules modules .initial {}).result = .ok ()
  := by
  obtain ⟨-, hresult⟩ := loadRules_of_pairwise
    (show (loadPluginSpecs modules (Config.plugins {})).2 = .ok [] from rfl)
    (by decide +kernel) (by decide +kernel) .initial
  rw [hresult]
  decide +kernel

theorem mem_builtin_of_mem_enabled_standard {modules : Modules} {r : Rule}
    (hr : r ∈ (loadRules modules .initial {}).registry.enabled {}) :
  r ∈ Rule.builtin
  := by
  obtain ⟨henabled, -⟩ := loadRules_of_pairwise
    (show (loadPluginSpecs modules (Config.plugins {})).2 = .ok [] from rfl)
    (by decide +kernel) (by decide +kernel) .initial
  rw [henabled, List.append_nil] at hr
  exact List.mem_of_mem_filter hr

/-- A built-in rule finds nothing in a file without a tree. -/
theorem check_of_no_tree {r : Rule} (hr : r ∈ Rule.builtin) {file : FileContext}
    (hroot : file.root = none) :
  r.check file = .ok []
  := by
  rw [Rule.builtin, List.mem_cons, List.mem_cons, List.mem_singleton] at hr
  rcases hr with rfl | rfl | rfl
  all_goals simp only [Rule.check, Rule.inspect, hroot]

theorem root_of_examined? {w : World} {target : Target} {p : Path} {file : FileContext}
    (hparse : w.parse? p = none) (h : examined? w target p = some file) :
  file.root = none
  := by
  rw [examined?, hparse] at h
  split at h
  · split at h
    · cases h
      rfl
    · cases h
  · cases h

/-- Without a parser nothing is found under the standard settings. -/
theorem diagnostics_of_parse_none {w : World} (hparse : ∀ p, w.parse? p = none) {target : Target}
    (hconfig : target.config = {}) {files : List Path} {contexts : List FileContext} {s : Summary}
    (h : (auditFiles w .initial target files).result = .ok (contexts, s)) :
  s.diagnostics = []
  := by
  obtain ⟨-, -, rfl, rfl⟩ := (result_auditFiles_eq_ok_iff _ _ _ _ _ _).mp h
  rw [hconfig]
  have hkept : ∀ file ∈ files.filterMap (examined? w target),
      keptFindings {} ((loadRules w.modules .initial {}).registry.enabled {}) file = [] := by
    intro file hfile
    obtain ⟨p, -, hexamined⟩ := List.mem_filterMap.mp hfile
    rw [keptFindings, List.flatMap_eq_nil_iff]
    intro r hr
    have hbuiltin := mem_builtin_of_mem_enabled_standard (List.mem_of_mem_filter hr)
    have hcheck := check_of_no_tree hbuiltin (root_of_examined? (hparse p) hexamined)
    rw [Rule.reports, hcheck]
    rfl
  dsimp only
  rw [List.flatMap_eq_nil_iff.mpr hkept, reportOrder, List.mergeSort_nil]

/-! ### Scans -/

/-- The report of a summary in one of the forms of output, if there is one. -/
def reportText? (d : Disk) (root : Path) (s : Summary) : OutputForm → Option String
  | .json => (scanJson d.cwd root s).map (· ++ "\n")
  | .screen =>
    let shown := scanScreen d root s
    if shown.whole then some (screenText shown.lines) else none

/-- The numbers that a report shows of the summary can be written out. -/
def IsReportable (s : Summary) : OutputForm → Prop
  | .json => IsWritableAsJson s
  | .screen => IsWritableOnScreen s

theorem isSome_reportText?_iff (d : Disk) (root : Path) (s : Summary) (form : OutputForm) :
  (reportText? d root s form).isSome = true ↔ IsReportable s form
  := by
  cases form with
  | json => rw [reportText?, Option.isSome_map, isSome_scanJson_iff, IsReportable]
  | screen =>
      rw [reportText?, IsReportable, ← whole_scanScreen_iff d root]
      split <;> simp [*]

theorem isReportable_of_no_diagnostics {s : Summary} (hdiagnostics : s.diagnostics = [])
    (hexamined : isWritableNumber s.examined = true)
    (hfailures : ∀ f ∈ s.failures, ∀ n, f.line = some n → isWritableNumber n = true)
    (form : OutputForm) :
  IsReportable s form
  := by
  cases form with
  | json =>
      refine ⟨hexamined, ?_, ?_, hfailures⟩
      · intro severity _
        simp only [Summary.count, hdiagnostics, List.countP_nil]
        decide +kernel
      · simp [hdiagnostics]
  | screen => exact ⟨hexamined, by simp [hdiagnostics], hfailures⟩

section

variable {disk : Disk} {root : Path} {s : Summary} {form : OutputForm}

theorem reportSummary_of_eq_some {text : String} (h : reportText? disk root s form = some text)
    (code : Nat) :
  (reportSummary disk root s form code).output = text
    ∧ (reportSummary disk root s form code).ending = .code code
  := by
  -- as for `withTarget`, the equation of `reportSummary` is not asked for
  delta reportSummary
  cases form with
  | json =>
      rw [reportText?, Option.map_eq_some_iff] at h
      obtain ⟨json, hjson, rfl⟩ := h
      rw [hjson]
      exact ⟨rfl, rfl⟩
  | screen =>
      rw [reportText?] at h
      generalize scanScreen disk root s = shown at h ⊢
      cases hwhole : shown.whole with
      | false => simp [hwhole] at h
      | true =>
          simp only [hwhole, if_true, Option.some_inj] at h ⊢
          exact ⟨h, trivial⟩

theorem ending_reportSummary_of_eq_none (h : reportText? disk root s form = none) (code : Nat) :
  (reportSummary disk root s form code).ending = .breakdown .tooManyDigits
  := by
  delta reportSummary
  cases form with
  | json =>
      rw [reportText?, Option.map_eq_none_iff] at h
      rw [h]
      rfl
  | screen =>
      rw [reportText?] at h
      generalize scanScreen disk root s = shown at h ⊢
      cases hwhole : shown.whole with
      | false => simp [hwhole]
      | true => simp [hwhole] at h

end

section

variable {w : World} {path : Path} {target : Target}

theorem runScan_of_settings_error {fault : ConfigLoadFault}
    (h : prepareTarget w path = .error fault) (form : OutputForm) (failOn : Option Severity) :
  runScan w path form failOn = refuseConfig fault
  := by
  rw [runScan]
  -- the equation of `withTarget` is not asked for, as in `withTarget_of_ok`
  delta withTarget
  rw [h]

theorem runScan_of_error (htarget : prepareTarget w path = .ok target) {fault : AuditFault}
    (h : (auditFiles w .initial target (discover w.disk target)).result = .error fault)
    (form : OutputForm) (failOn : Option Severity) :
  (runScan w path form failOn).output = (refuseAudit fault).output
    ∧ (runScan w path form failOn).ending = (refuseAudit fault).ending
  := by
  rw [runScan, withTarget_of_ok htarget]
  dsimp only
  rw [h]
  exact ⟨rfl, rfl⟩

theorem runScan_of_ok (htarget : prepareTarget w path = .ok target)
    {contexts : List FileContext} {s : Summary}
    (h : (auditFiles w .initial target (discover w.disk target)).result = .ok (contexts, s))
    (form : OutputForm) (failOn : Option Severity) :
  let reported := reportSummary w.disk target.root s form (scanCode failOn s)
  (runScan w path form failOn).output = reported.output
    ∧ (runScan w path form failOn).ending = reported.ending
  := by
  intro reported
  rw [runScan, withTarget_of_ok htarget]
  dsimp only
  rw [h]
  exact ⟨rfl, rfl⟩

end

/-- The threshold has a say in the ending of a scan only by the code of what is reported. -/
theorem ending_runScan_ne_zero_of_isLowered {failOn lower : Option Severity}
    (h : IsLowered failOn lower) {w : World} {path : Path} {form : OutputForm}
    (hending : (runScan w path form failOn).ending ≠ .code 0) :
  (runScan w path form lower).ending ≠ .code 0
  := by
  cases htarget : prepareTarget w path with
  | error fault =>
      rw [runScan_of_settings_error htarget] at hending ⊢
      exact hending
  | ok target =>
      cases hresult : (auditFiles w .initial target (discover w.disk target)).result with
      | error fault =>
          rw [(runScan_of_error htarget hresult form _).2] at hending ⊢
          exact hending
      | ok result =>
          cases htext : reportText? w.disk target.root result.2 form with
          | none =>
              rw [(runScan_of_ok htarget hresult form _).2,
                ending_reportSummary_of_eq_none htext] at hending ⊢
              exact hending
          | some text =>
              rw [(runScan_of_ok htarget hresult form _).2,
                (reportSummary_of_eq_some htext _).2] at hending ⊢
              intro hzero
              apply scanCode_ne_zero_of_isLowered h (s := result.2)
              · intro hcode
                exact hending (congrArg Ending.code hcode)
              · exact Ending.code.inj hzero

/-- What a scan does that comes to a summary of some files and reports it. -/
structure ReportsOn (r : Run) (d : Disk) (target : Target) (files : List Path)
    (form : OutputForm) (failOn : Option Severity) (s : Summary) : Prop where
  output : reportText? d target.root s form = some r.output
  broken : r.ending = .code 2 ↔ ∃ p ∈ files, d.HasFaultyLine p
  findings : r.ending = .code 1
    ↔ (¬ ∃ p ∈ files, d.HasFaultyLine p) ∧ Reaches s.diagnostics failOn
  clean : r.ending = .code 0
    ↔ (¬ ∃ p ∈ files, d.HasFaultyLine p) ∧ ¬ Reaches s.diagnostics failOn

theorem reportsOn_of_ok {w : World} {path : Path} {target : Target}
    (htarget : prepareTarget w path = .ok target) {contexts : List FileContext} {s : Summary}
    (h : (auditFiles w .initial target (discover w.disk target)).result = .ok (contexts, s))
    {form : OutputForm} (hform : IsReportable s form) (failOn : Option Severity) :
  ReportsOn (runScan w path form failOn) w.disk target (discover w.disk target) form failOn s
  := by
  obtain ⟨text, htext⟩ := Option.isSome_iff_exists.mp
    ((isSome_reportText?_iff w.disk target.root s form).mpr hform)
  obtain ⟨hreported, hcode⟩ := reportSummary_of_eq_some htext (scanCode failOn s)
  obtain ⟨houtput, hending⟩ := runScan_of_ok htarget h form failOn
  rw [hreported] at houtput
  rw [hcode] at hending
  have hfailures : s.failures ≠ [] ↔ ∃ p ∈ discover w.disk target, w.disk.HasFaultyLine p := by
    obtain ⟨-, -, -, rfl⟩ := (result_auditFiles_eq_ok_iff _ _ _ _ _ _).mp h
    exact failures_ne_nil_iff target (exists_dialect_of_discover _ _)
  have hnone : s.failures = [] ↔ ¬ ∃ p ∈ discover w.disk target, w.disk.HasFaultyLine p := by
    rw [← hfailures, not_not]
  constructor
  · rw [houtput, htext]
  · rw [hending, Ending.code.injEq, ← hfailures]
    exact scanCode_eq_brokenCode_iff failOn s
  · rw [hending, Ending.code.injEq, ← hnone]
    exact scanCode_eq_findingsCode_iff failOn s
  · rw [hending, Ending.code.injEq, ← hnone]
    exact scanCode_eq_zero_iff failOn s

theorem ending_of_not_isReportable {w : World} {path : Path} {target : Target}
    (htarget : prepareTarget w path = .ok target) {contexts : List FileContext} {s : Summary}
    (h : (auditFiles w .initial target (discover w.disk target)).result = .ok (contexts, s))
    {form : OutputForm} (hform : ¬ IsReportable s form) (failOn : Option Severity) :
  (runScan w path form failOn).ending = .breakdown .tooManyDigits
  := by
  rw [← isSome_reportText?_iff w.disk target.root, Option.not_isSome_iff_eq_none] at hform
  rw [(runScan_of_ok htarget h form failOn).2, ending_reportSummary_of_eq_none hform]

/-- The files of a list in the accounts of an audit: those that were examined, the failures
and those that cannot be read are all of them. -/
structure AccountsFor (d : Disk) (files : List Path) (contexts : List FileContext)
    (s : Summary) : Prop where
  examined : s.examined = contexts.length
  each : files.Perm
    (contexts.map (·.path) ++ s.failures.map (·.path) ++ files.filter d.isUnreadable)
  total : s.examined + s.failures.length + files.countP d.isUnreadable = files.length

theorem accountsFor_of_ok {w : World} {before : Registry} {target : Target}
    {files : List Path} (hfiles : ∀ p ∈ files, ∃ dialect, dialectOf? p = some dialect)
    {contexts : List FileContext} {s : Summary}
    (h : (auditFiles w before target files).result = .ok (contexts, s)) :
  AccountsFor w.disk files contexts s
  := by
  obtain ⟨-, -, rfl, rfl⟩ := (result_auditFiles_eq_ok_iff _ _ _ _ _ _).mp h
  have hperm := perm_examined_append_failures (w := w) target hfiles
  constructor
  · rfl
  · exact hperm
  · have hlength := hperm.length_eq
    simp only [List.length_append, List.length_map, ← List.countP_eq_length_filter] at hlength
    dsimp only
    exact_mod_cast hlength.symm

/-- A scan breaks down when the number of workers is refused, and prints nothing. -/
theorem runScan_of_isFaultOf {w : World} {path : Path} {target : Target}
    (htarget : prepareTarget w path = .ok target)
    (hrules : (loadRules w.modules .initial target.config).result = .ok ()) {fault : WorkerFault}
    (h : fault.IsFaultOf (trim ((w.environmentValue "AVESTA_WORKERS").getD "").toList))
    (form : OutputForm) (failOn : Option Severity) :
  (runScan w path form failOn).output = ""
    ∧ (runScan w path form failOn).ending = .breakdown (.workers fault)
  := by
  have hresult : (auditFiles w .initial target (discover w.disk target)).result
      = .error (.workers fault) := by
    apply (result_auditFiles_eq_error_iff _ _ _ _ _).mpr
    right
    exact ⟨hrules, fault, (workerCount_eq_error_iff _ _ _ _).mpr h, rfl⟩
  exact runScan_of_error htarget hresult form failOn

/-- A scan of a project whose settings and rules can be loaded. When the number of workers is
refused, the scan prints nothing and breaks down. Otherwise it comes to a summary. When a number
that its report shows has too many digits, the scan breaks down as well. Else it prints the
report; its code is 2 just if a discovered file has a line at fault, 1 just if none has and
a diagnostic of the report is as severe as the threshold, and 0 in all other cases. No file is
discovered twice, each is in the dialect of an enabled language, and the files that were
examined, the failures and the files that cannot be read add up to those discovered. A scan
that does not end with 0 does not end with 0 under a lower threshold. -/
theorem runScan_report {w : World} {path : Path} {target : Target}
    (htarget : prepareTarget w path = .ok target)
    (hrules : (loadRules w.modules .initial target.config).result = .ok ()) :
  let files := discover w.disk target
  let requested := trim ((w.environmentValue "AVESTA_WORKERS").getD "").toList
  (∀ fault : WorkerFault, fault.IsFaultOf requested → ∀ form failOn,
    (runScan w path form failOn).output = ""
    ∧ (runScan w path form failOn).ending = .breakdown (.workers fault))
  ∧ ((∀ fault : WorkerFault, ¬ fault.IsFaultOf requested) → ∃ contexts s,
    (auditFiles w .initial target files).result = .ok (contexts, s)
    ∧ (∀ form failOn,
      (IsReportable s form →
        ReportsOn (runScan w path form failOn) w.disk target files form failOn s)
      ∧ (¬ IsReportable s form →
        (runScan w path form failOn).ending = .breakdown .tooManyDigits))
    ∧ AccountsFor w.disk files contexts s)
  ∧ files.Nodup
  ∧ (∀ p ∈ files, ∃ dialect, dialectOf? p = some dialect
    ∧ dialect.language ∈ target.config.languages)
  ∧ ∀ form failOn lower, IsLowered failOn lower →
    (runScan w path form failOn).ending ≠ .code 0 →
    (runScan w path form lower).ending ≠ .code 0
  := by
  intro files requested
  refine ⟨?_, ?_, nodup_discover _ _, ?_, ?_⟩
  · intro fault hfault
    exact runScan_of_isFaultOf htarget hrules hfault
  · intro hno
    have hworkers := (exists_workerCount_iff _ standardWorkers defaultMaxWorkers).mpr hno
    have hresult := (result_auditFiles_eq_ok_iff w .initial target files _ _).mpr
      ⟨hrules, hworkers, rfl, rfl⟩
    refine ⟨_, _, hresult, ?_, ?_⟩
    · intro form failOn
      exact ⟨fun hform => reportsOn_of_ok htarget hresult hform failOn,
        fun hform => ending_of_not_isReportable htarget hresult hform failOn⟩
    · exact accountsFor_of_ok (exists_dialect_of_discover _ _) hresult
  · intro p hp
    exact exists_dialect_of_mem_discover hp
  · intro form failOn lower hlower
    exact ending_runScan_ne_zero_of_isLowered hlower

/-- Two files, one of them with a directive at fault. -/
theorem runScan_report_of_faulty_file :
  let w : World := {
    disk := { files := [
      (["p", "a.ts"], Text.encode "f();".toList),
      (["p", "b.ts"], Text.encode "/* avesta-disable */".toList)] }
    environment := [("AVESTA_WORKERS", "auto")] }
  let path : Path := .absolute ["p"]
  let target : Target := { root := path, scanPath := path, config := {} }
  prepareTarget w path = .ok target
  ∧ (loadRules w.modules .initial target.config).result = .ok ()
  ∧ ∃ s : Summary, s.examined + s.failures.length = 2
    ∧ ∀ form failOn, reportText? w.disk path s form = some (runScan w path form failOn).output
      ∧ (runScan w path form failOn).ending = .code 2
  := by
  intro w path target
  have htarget : prepareTarget w path = .ok target :=
    prepareTarget_of_unread (e := .missing) (by decide +kernel) (by decide +kernel)
      (by decide +kernel)
  have hrules := loadRules_standard w.modules
  refine ⟨htarget, hrules, ?_⟩
  obtain ⟨-, hreport, -⟩ := runScan_report htarget hrules
  have hno : ∀ fault : WorkerFault,
      ¬ fault.IsFaultOf (trim ((w.environmentValue "AVESTA_WORKERS").getD "").toList) := by
    intro fault hfault
    have hdigit := hfault.digits.2 'a' (by decide +kernel)
    revert hdigit
    decide +kernel
  obtain ⟨contexts, s, hresult, hruns, haccounts⟩ := hreport hno
  have hfiles : (discover w.disk target).Perm
      [.absolute ["p", "a.ts"], .absolute ["p", "b.ts"]] := by
    apply (List.mergeSort_perm _ _).trans
    decide +kernel
  have hfaulty : ∃ p ∈ discover w.disk target, w.disk.HasFaultyLine p := by
    use .absolute ["p", "b.ts"], hfiles.mem_iff.mpr (by simp)
    have hread : w.disk.readText (.absolute ["p", "b.ts"]) = .ok "/* avesta-disable */" := by
      decide +kernel
    apply (Disk.hasFaultyLine_iff_refused hread none).mpr
    use .comment "Invalid file-level disable comment format" "/* avesta-disable */" ⟨none, some 1⟩
    decide +kernel
  have htotal : s.examined + s.failures.length = 2 := by
    have hreadable : (discover w.disk target).countP w.disk.isUnreadable = 0 := by
      rw [hfiles.countP_eq]
      decide +kernel
    have hall := haccounts.total
    rw [hreadable, hfiles.length_eq] at hall
    simpa using hall
  have hdiagnostics : s.diagnostics = [] :=
    diagnostics_of_parse_none (fun _ => rfl) rfl hresult
  have hexamined : isWritableNumber s.examined = true := by
    have hcount := haccounts.examined
    have hle : s.examined.natAbs ≤ 2 := by omega
    have htwo : isWritableNumber 2 = true := by decide +kernel
    rw [isWritableNumber_iff] at htwo ⊢
    exact lt_of_le_of_lt hle htwo
  have hfailures : ∀ f ∈ s.failures, ∀ n, f.line = some n → isWritableNumber n = true := by
    obtain ⟨-, -, -, rfl⟩ := (result_auditFiles_eq_ok_iff _ _ _ _ _ _).mp hresult
    intro f hf
    obtain ⟨p, hp, hfailure⟩ := List.mem_filterMap.mp hf
    have hone : f.line = some 1 := by
      rw [hfiles.mem_iff] at hp
      rcases List.mem_pair.mp hp with rfl | rfl
      · have hnone : failure? w path (.absolute ["p", "a.ts"]) = none := by decide +kernel
        rw [hnone] at hfailure
        cases hfailure
      · have hline : (failure? w path (.absolute ["p", "b.ts"])).bind (·.line) = some 1 := by
          decide +kernel
        rw [hfailure] at hline
        exact hline
    intro n hn
    obtain rfl : n = 1 := Option.some_inj.mp (hn.symm.trans hone)
    decide +kernel
  use s, htotal
  intro form failOn
  have hon := (hruns form failOn).1
    (isReportable_of_no_diagnostics hdiagnostics hexamined hfailures form)
  exact ⟨hon.output, hon.broken.mpr hfaulty⟩

/-- A number of workers that is no number ends a scan of a file in which nothing is at fault,
and no report is printed. -/
theorem runScan_of_superscript_workers :
  let w : World := {
    disk := { files := [(["p", "a.ts"], Text.encode "f();".toList)] }
    environment := [("AVESTA_WORKERS", "²")] }
  let path : Path := .absolute ["p"]
  let target : Target := { root := path, scanPath := path, config := {} }
  prepareTarget w path = .ok target
  ∧ (loadRules w.modules .initial target.config).result = .ok ()
  ∧ (¬ ∃ p ∈ discover w.disk target, w.disk.HasFaultyLine p)
  ∧ ∀ form failOn, (runScan w path form failOn).output = ""
    ∧ (runScan w path form failOn).ending = .breakdown (.workers .notNumber)
  := by
  intro w path target
  have htarget : prepareTarget w path = .ok target :=
    prepareTarget_of_unread (e := .missing) (by decide +kernel) (by decide +kernel)
      (by decide +kernel)
  have hrules := loadRules_standard w.modules
  refine ⟨htarget, hrules, ?_, ?_⟩
  · rintro ⟨p, hp, hfaulty⟩
    obtain ⟨hcandidate, -⟩ := (mem_discover_iff _ _ _).mp hp
    have hcandidates : candidates w.disk target.scanPath = [.absolute ["p", "a.ts"]] := by
      decide +kernel
    rw [hcandidates, List.mem_singleton] at hcandidate
    have hread : w.disk.readText (.absolute ["p", "a.ts"]) = .ok "f();" := by decide +kernel
    rw [hcandidate, Disk.hasFaultyLine_iff_refused hread none] at hfaulty
    obtain ⟨e, hrefused⟩ := hfaulty
    have haccepted : readDirectives "f();" none = .ok .none := by decide +kernel
    rw [haccepted] at hrefused
    cases hrefused
  · intro form failOn
    apply runScan_of_isFaultOf htarget hrules
    have hdigits : (trim "²".toList).all isDigit = true := by decide +kernel
    constructor
    · exact List.all_eq_true.mp hdigits
    · use '²'
      decide +kernel

end SourceAudit.CommandLine
