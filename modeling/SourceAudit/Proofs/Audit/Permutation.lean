import SourceAudit.Proofs.Audit.Isolation
import SourceAudit.Proofs.Path
import Mathlib.Order.Basic

/-!
# The order of files does not matter to a report

The diagnostics of an audit are gathered in the order of the files and then sorted by a key
that does not tell them all apart. Diagnostics with one key are located in one file when the
rules keep to the files that they are shown, so their order is that in which rules find them
there, and the sort does not change it. Files in another order lead to the same report.
-/

namespace SourceAudit

open Text

/-! ### Sorted lists -/

theorem mem_iff_of_filter_eq {α β : Type} [DecidableEq β] {key : α → β} {l m : List α}
    (h : ∀ k, l.filter (fun a => key a = k) = m.filter fun a => key a = k) (a : α) :
  a ∈ l ↔ a ∈ m
  := by
  have hiff : a ∈ l.filter (fun b => key b = key a) ↔ a ∈ m.filter fun b => key b = key a := by
    rw [h]
  simpa using hiff

/-- A sorted list is determined by the entries that it has of each key, in their order. -/
theorem eq_of_pairwise_of_filter_eq {α β : Type} [LinearOrder β] {key : α → β} {l m : List α}
    (hl : l.Pairwise fun a b => key a ≤ key b) (hm : m.Pairwise fun a b => key a ≤ key b)
    (h : ∀ k, l.filter (fun a => key a = k) = m.filter fun a => key a = k) :
  l = m
  := by
  induction l generalizing m with
  | nil =>
      symm
      apply List.eq_nil_iff_forall_not_mem.mpr
      intro a ha
      cases (mem_iff_of_filter_eq h a).mpr ha
  | cons a l ih =>
      have hmem := mem_iff_of_filter_eq h
      cases m with
      | nil => cases (hmem a).mp List.mem_cons_self
      | cons b m =>
          obtain ⟨hal, hl'⟩ := List.pairwise_cons.mp hl
          obtain ⟨hbm, hm'⟩ := List.pairwise_cons.mp hm
          have hab : key a ≤ key b := by
            rcases List.mem_cons.mp ((hmem b).mpr List.mem_cons_self) with rfl | hb
            · exact le_refl _
            · exact hal b hb
          have hba : key b ≤ key a := by
            rcases List.mem_cons.mp ((hmem a).mp List.mem_cons_self) with rfl | ha
            · exact le_refl _
            · exact hbm a ha
          have hkey : key a = key b := le_antisymm hab hba
          -- both lists begin with the first entry of the least key
          have hfirst := h (key a)
          rw [List.filter_cons_of_pos (by simp), List.filter_cons_of_pos (by simp [hkey])]
            at hfirst
          obtain ⟨rfl, htail⟩ := List.cons.inj hfirst
          have hrest : ∀ k, l.filter (fun c => key c = k) = m.filter fun c => key c = k := by
            intro k
            by_cases hk : key a = k
            · rw [← hk]
              exact htail
            · have hboth := h k
              rw [List.filter_cons_of_neg (by simpa using hk),
                List.filter_cons_of_neg (by simpa using hk)] at hboth
              exact hboth
          rw [ih hl' hm' hrest]

/-- Diagnostics are put in the same order when those of each key come in the same order. -/
theorem reportOrder_eq_of_filter_eq {ds ds' : List Diagnostic}
    (h : ∀ k, ds.filter (fun d => d.reportKey.toTuple = k)
      = ds'.filter fun d => d.reportKey.toTuple = k) :
  reportOrder ds = reportOrder ds'
  := by
  apply eq_of_pairwise_of_filter_eq (pairwise_reportOrder ds) (pairwise_reportOrder ds')
  intro k
  rw [filter_reportOrder, filter_reportOrder, h]

/-! ### Files in another order -/

/-- Lists of which at most one is not empty can be strung together in any order. -/
theorem flatMap_eq_of_perm {α β : Type} {g : α → List β} {l m : List α} (hperm : l.Perm m)
    (hone : l.Pairwise fun a b => g a = [] ∨ g b = []) :
  l.flatMap g = m.flatMap g
  := by
  induction hperm with
  | nil => rfl
  | cons a _ ih => rw [List.flatMap_cons, List.flatMap_cons, ih (List.pairwise_cons.mp hone).2]
  | swap a b l =>
      rw [List.flatMap_cons, List.flatMap_cons, List.flatMap_cons, List.flatMap_cons,
        ← List.append_assoc, ← List.append_assoc]
      rcases (List.pairwise_cons.mp hone).1 a List.mem_cons_self with h | h
      · rw [h, List.nil_append, List.append_nil]
      · rw [h, List.nil_append, List.append_nil]
  | trans hlm _ ih ih' =>
      rw [ih hone]
      apply ih'
      exact (hlm.pairwise_iff Or.symm).mp hone

/-- What is reported of a file is sorted by the text of its path first. -/
theorem path_reportKey_of_mem_reportsOf {w : World} {target : Target} {rules : List Rule}
    (hlocate : ∀ r ∈ rules, r.Locates target.config) {p : Path} {d : Diagnostic}
    (hd : d ∈ reportsOf w target rules p) :
  d.reportKey.path = p.toText
  := by
  rw [Diagnostic.reportKey, path_of_mem_reportsOf hlocate hd]
  rfl

/-- Diagnostics with one key are reported of at most one of several files. -/
theorem pairwise_filter_reportsOf {w : World} {target : Target} {rules : List Rule}
    (hlocate : ∀ r ∈ rules, r.Locates target.config) {files : List Path} (hfiles : files.Nodup)
    (hproper : ∀ p ∈ files, p.IsProper) (k : String ×ₗ Int ×ₗ Int ×ₗ Int ×ₗ String) :
  files.Pairwise fun p q =>
    (reportsOf w target rules p).filter (fun d => d.reportKey.toTuple = k) = []
    ∨ (reportsOf w target rules q).filter (fun d => d.reportKey.toTuple = k) = []
  := by
  have htext : ∀ p, (reportsOf w target rules p).filter (fun d => d.reportKey.toTuple = k) ≠ [] →
      p.toText = (ofLex k).1 := by
    intro p hp
    obtain ⟨d, hd⟩ := List.exists_mem_of_ne_nil _ hp
    obtain ⟨hd, hkey⟩ := List.mem_filter.mp hd
    rw [← path_reportKey_of_mem_reportsOf hlocate hd, ← of_decide_eq_true hkey]
    rfl
  apply hfiles.imp_of_mem
  intro p q hp hq hne
  by_contra hboth
  rw [not_or] at hboth
  apply hne
  apply Path.eq_of_toText_eq (hproper p hp) (hproper q hq)
  rw [htext p hboth.1, htext q hboth.2]

theorem reportOrder_reports_of_perm {w : World} {target : Target} {rules : List Rule}
    (hlocate : ∀ r ∈ rules, r.Locates target.config) {files files' : List Path}
    (hperm : files.Perm files') (hfiles : files.Nodup) (hproper : ∀ p ∈ files, p.IsProper) :
  reportOrder (files.flatMap (reportsOf w target rules))
    = reportOrder (files'.flatMap (reportsOf w target rules))
  := by
  apply reportOrder_eq_of_filter_eq
  intro k
  rw [List.filter_flatMap, List.filter_flatMap]
  exact flatMap_eq_of_perm hperm (pairwise_filter_reportsOf hlocate hfiles hproper k)

/-- Different files, with paths as reading texts leads to, are audited in two orders by rules
that can be loaded and locate what they find in the file that they are shown. Either both
audits end with the same fault of the number of workers, or both come to a summary. The two
summaries then have the same list of diagnostics and count the same number of files, and
the failures of one are those of the other in some order. -/
theorem auditFiles_of_perm {w : World} {before : Registry} {target : Target}
    {files files' : List Path}
    (h : (loadRules w.modules before target.config).result = .ok ())
    (hlocate : ∀ r ∈ (loadRules w.modules before target.config).registry.enabled target.config,
      r.Locates target.config)
    (hperm : files.Perm files') (hfiles : files.Nodup) (hproper : ∀ p ∈ files, p.IsProper) :
  let workers := workerCount (w.environmentValue "AVESTA_WORKERS") standardWorkers
    defaultMaxWorkers
  (∀ fault, workers = .error fault →
    (auditFiles w before target files).result = .error (.workers fault)
    ∧ (auditFiles w before target files').result = .error (.workers fault))
  ∧ ∀ n, workers = .ok n → ∃ contexts contexts' summary summary',
    (auditFiles w before target files).result = .ok (contexts, summary)
    ∧ (auditFiles w before target files').result = .ok (contexts', summary')
    ∧ summary'.diagnostics = summary.diagnostics
    ∧ summary'.examined = summary.examined
    ∧ summary'.failures.Perm summary.failures
  := by
  intro workers
  constructor
  · intro fault hfault
    rw [result_auditFiles h, result_auditFiles h]
    exact ⟨auditLoaded_of_workers_error hfault _ _ _, auditLoaded_of_workers_error hfault _ _ _⟩
  · intro n hn
    refine ⟨_, _, _, _, result_auditFiles_of_workers_ok h hn files,
      result_auditFiles_of_workers_ok h hn files', ?_, ?_, ?_⟩
    · exact (reportOrder_reports_of_perm hlocate hperm hfiles hproper).symm
    · have hcount := (hperm.filterMap (examined? w target)).length_eq
      dsimp only
      rw [hcount]
    · exact (hperm.filterMap (failure? w target.root)).symm

/-- Two files that a rule finds the same two things in, with keys that do not tell the two
apart, and a third file with a directive at fault. -/
theorem auditFiles_of_perm_three_files :
  let rule := Rule.plugin
    { id := "todo", title := "", description := "", severity := .warn } []
    fun file => .found <| ["second", "first"].map fun message =>
      { rule := some "todo", severity := .warn, message := message,
        location := some { path := some file.path, startLine := some 1 } }
  let a : Path := .absolute ["p", "a.ts"]
  let b : Path := .absolute ["p", "b.ts"]
  let c : Path := .absolute ["p", "c.ts"]
  let w : World := {
    disk := { files := [
      (["p", "a.ts"], Text.encode "f();".toList), (["p", "b.ts"], Text.encode "g();".toList),
      (["p", "c.ts"], Text.encode "/* avesta-disable */".toList)] }
    modules := [("rules", [("RULES", .rules false [.rule rule])])] }
  let target : Target := {
    root := .absolute ["p"], scanPath := .absolute ["p"], config := { plugins := ["rules"] } }
  (loadRules w.modules .initial target.config).result = .ok ()
  ∧ ∃ contexts contexts' summary summary',
    (auditFiles w .initial target [a, b, c]).result = .ok (contexts, summary)
    ∧ (auditFiles w .initial target [c, b, a]).result = .ok (contexts', summary')
    ∧ summary'.diagnostics = summary.diagnostics
    ∧ summary'.examined = summary.examined
    ∧ summary'.failures.Perm summary.failures
  := by
  intro rule a b c w target
  obtain ⟨henabled, hresult⟩ := loadRules_of_pairwise
    (show (loadPluginSpecs w.modules target.config.plugins).2 = .ok [rule] from rfl)
    (by decide +kernel) (by decide +kernel) .initial
  have h : (loadRules w.modules .initial target.config).result = .ok () := by
    rw [hresult]
    decide +kernel
  have hlocate : ∀ r ∈ (loadRules w.modules .initial target.config).registry.enabled
      target.config, r.Locates target.config := by
    rw [henabled]
    intro r hr
    rcases List.mem_append.mp (List.mem_of_mem_filter hr) with hr | hr
    · exact Rule.locates_of_mem_builtin hr target.config
    · rw [List.mem_singleton.mp hr]
      intro file _ found hfound d hd
      cases hfound
      obtain ⟨message, -, rfl⟩ := List.mem_map.mp hd
      rfl
  have hproper : ∀ p ∈ [a, b, c], p.IsProper := by
    have htexts : [a, b, c]
        = ["/p/a.ts", "/p/b.ts", "/p/c.ts"].map Path.ofText := by
      decide +kernel
    rw [htexts]
    intro p hp
    obtain ⟨s, -, rfl⟩ := List.mem_map.mp hp
    exact Path.isProper_ofText s
  use h
  obtain ⟨-, hsummary⟩ := auditFiles_of_perm h hlocate
    (List.reverse_perm [a, b, c]).symm (by decide +kernel) hproper
  exact hsummary 2 (by decide +kernel)

end SourceAudit
