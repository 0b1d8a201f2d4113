import SourceAudit.Proofs.Audit.Findings
import SourceAudit.Proofs.Audit.Order
import Mathlib.Control.Monad.Basic

/-!
# The summary of an audit

An audit whose rules can be loaded reports, in the order of a report, what the enabled
rules find in the files that can be examined, less what the directives of the same file
turn off. Nothing else is dropped, and nothing is reported twice.
-/

namespace SourceAudit

theorem result_auditFiles {w : World} {before : Registry} {target : Target}
    (h : (loadRules w.modules before target.config).result = .ok ()) (files : List Path) :
  (auditFiles w before target files).result
    = (auditLoaded w target files (loadRules w.modules before target.config).registry).2
  := by
  rw [auditFiles]
  dsimp only
  rw [h]

theorem auditLoaded_of_workers_error {w : World} {fault : WorkerFault}
    (h : workerCount (w.environmentValue "AVESTA_WORKERS") standardWorkers defaultMaxWorkers
      = .error fault) (target : Target) (files : List Path) (reg : Registry) :
  (auditLoaded w target files reg).2 = .error (.workers fault)
  := by
  rw [auditLoaded, h]

/-- The summary of an audit, once the number of workers is accepted and no rule fails. -/
theorem auditLoaded_of_workers_ok {w : World} {workers : Int}
    (h : workerCount (w.environmentValue "AVESTA_WORKERS") standardWorkers defaultMaxWorkers
      = .ok workers) {target : Target} {reg : Registry}
    (hrules : ∀ r ∈ reg.enabled target.config, ∀ file : FileContext,
      file.config = target.config → ∃ found, r.check file = .ok found) (files : List Path) :
  (auditLoaded w target files reg).2
    = .ok (files.filterMap (examined? w target),
        { examined := (files.filterMap (examined? w target)).length
          diagnostics := reportOrder ((files.filterMap (examined? w target)).flatMap
            (keptFindings target.config (reg.enabled target.config)))
          failures := (readFiles w target files).failures })
  := by
  have hfiles : ∀ file ∈ files.filterMap (examined? w target),
      file.suppressions.everything = false := by
    intro file hfile
    obtain ⟨p, -, hp⟩ := List.mem_filterMap.mp hfile
    exact everything_of_examined? hp
  have hchecks : ∀ r ∈ reg.enabled target.config,
      ∀ file ∈ files.filterMap (examined? w target), ∃ found, r.check file = .ok found := by
    intro r hr file hfile
    obtain ⟨p, -, hp⟩ := List.mem_filterMap.mp hfile
    exact hrules r hr file (config_of_examined? hp)
  obtain ⟨log, hdetect⟩ := detect_eq hchecks hfiles target.config
  rw [auditLoaded, h]
  dsimp only
  rw [contexts_readFiles, hdetect]

/-- The result of an audit whose rules can be loaded, file by file. -/
theorem result_auditFiles_of_workers_ok {w : World} {before : Registry} {target : Target}
    (h : (loadRules w.modules before target.config).result = .ok ()) {workers : Int}
    (hworkers : workerCount (w.environmentValue "AVESTA_WORKERS") standardWorkers
      defaultMaxWorkers = .ok workers) (files : List Path) :
  (auditFiles w before target files).result
    = .ok (files.filterMap (examined? w target),
        { examined := (files.filterMap (examined? w target)).length
          diagnostics := reportOrder (files.flatMap (reportsOf w target
            ((loadRules w.modules before target.config).registry.enabled target.config)))
          failures := files.filterMap (failure? w target.root) })
  := by
  rw [result_auditFiles h, auditLoaded_of_workers_ok hworkers (exists_check_of_loadRules h),
    flatMap_keptFindings, failures_readFiles]

/-- An audit whose rules can be loaded. No enabled rule fails on any file of the project. The
audit ends
without a summary only when the number of workers is refused; otherwise the diagnostics of
its summary are those that the enabled rules report in the files that can be examined, with
the severities that are set, less exactly those that the directives of the same file turn
off. They are ordered by path, line and column, then the most severe first, then by rule,
and a diagnostic without a path comes before every one whose path has no empty name. -/
theorem auditFiles_diagnostics {w : World} {before : Registry} {target : Target}
    (h : (loadRules w.modules before target.config).result = .ok ()) (files : List Path) :
  let rules := (loadRules w.modules before target.config).registry.enabled target.config
  let workers := workerCount (w.environmentValue "AVESTA_WORKERS") standardWorkers
    defaultMaxWorkers
  (∀ r ∈ rules, ∀ file : FileContext, file.config = target.config →
      ∃ found, r.check file = .ok found)
  ∧ (∀ fault, workers = .error fault →
      (auditFiles w before target files).result = .error (.workers fault))
  ∧ (∀ n, workers = .ok n →
      ∃ contexts summary, (auditFiles w before target files).result = .ok (contexts, summary)
        ∧ summary.diagnostics.Perm
          ((files.filterMap (examined? w target)).flatMap fun file =>
            (rules.filter (·.applies file)).flatMap fun r =>
              (r.reports target.config file).filter fun d => ¬ Silenced file.suppressions d)
        ∧ (summary.diagnostics.Pairwise fun a b =>
          a.reportKey.toTuple ≤ b.reportKey.toTuple)
        ∧ summary.diagnostics.Pairwise fun a b =>
          b.path = none → (∀ p, a.path = some p → "" ∉ p.names) → a.path = none)
  := by
  intro rules workers
  have hchecks : ∀ r ∈ rules, ∀ file : FileContext, file.config = target.config →
      ∃ found, r.check file = .ok found := exists_check_of_loadRules h
  use hchecks
  rw [result_auditFiles h]
  constructor
  · intro fault hfault
    apply auditLoaded_of_workers_error hfault
  · intro n hn
    rw [auditLoaded_of_workers_ok hn hchecks]
    refine ⟨_, _, rfl, ?_, ?_, ?_⟩
    · apply reportOrder_perm
    · apply pairwise_reportOrder
    · apply (pairwise_reportOrder _).imp
      intro a b hab hb ha
      exact path_eq_none_of_reportKey_le hab hb ha

/-- Two files that a rule of a plugin finds the same in, with a directive for it in the first
file only. The finding that no rule signs is kept in both. -/
theorem auditFiles_diagnostics_two_files :
  let found := fun (file : FileContext) =>
    { rule := some "todo", severity := .warn, message := "signed",
      location := some { path := some file.path, startLine := some 2 } : Diagnostic }
  let unsigned : Diagnostic := { rule := none, severity := .error, message := "unsigned" }
  let rule := Rule.plugin
    { id := "todo", title := "", description := "", severity := .warn } []
    fun file => .found [found file, unsigned]
  let w : World := {
    disk := { files := [
      (["p", "a.ts"], Text.encode "// avesta-disable-next-line todo\nf();".toList),
      (["p", "b.ts"], Text.encode "\nf();".toList)] }
    modules := [("rules", [("RULES", .rules false [.rule rule])])] }
  let target : Target := {
    root := .absolute ["p"]
    scanPath := .absolute ["p"]
    config := { plugins := ["rules"], settings := [("todo", { severity := some .info })] } }
  let files : List Path := [.absolute ["p", "b.ts"], .absolute ["p", "a.ts"]]
  (loadRules w.modules .initial target.config).result = .ok ()
  ∧ ∃ contexts summary, (auditFiles w .initial target files).result = .ok (contexts, summary)
    ∧ summary.diagnostics.Perm [
      { rule := some "todo", severity := .info, message := "signed",
        location := some { path := some (.absolute ["p", "b.ts"]), startLine := some 2 } },
      { rule := none, severity := .info, message := "unsigned" },
      { rule := none, severity := .info, message := "unsigned" }]
  := by
  intro found unsigned rule w target files
  have hregister : Registry.register [rule] = .ok ⟨[rule]⟩ := by
    have hfault : Registry.firstFault? [] [rule] = none := by decide +kernel
    rw [Registry.register, hfault]
  obtain ⟨hreg, hresult⟩ := loadRules_of_register
    (show (loadPluginSpecs w.modules target.config.plugins).2 = .ok [rule] from rfl)
    hregister .initial
  have hrules : Registry.enabled ⟨[rule]⟩ target.config = Rule.builtin ++ [rule] := by
    have hsorted : Registry.rules ⟨[rule]⟩ = Rule.builtin ++ [rule] :=
      List.mergeSort_of_pairwise (by decide +kernel)
    rw [Registry.enabled, hsorted]
    rfl
  have h : (loadRules w.modules .initial target.config).result = .ok () := by
    rw [hresult, hrules]
    decide +kernel
  use h
  obtain ⟨-, -, hsummary⟩ := auditFiles_diagnostics h files
  obtain ⟨contexts, summary, haudit, hperm, -⟩ := hsummary 2 (by decide +kernel)
  use contexts, summary, haudit
  rw [hreg, hrules] at hperm
  exact hperm.trans (.of_eq (by decide +kernel))

end SourceAudit
