import SourceAudit.Proofs.Audit.Summary
import SourceAudit.Proofs.Project.Writing
import Mathlib.Data.List.Nodup

/-!
# Files are audited apart from each other

What an audit reports of a file depends on no other file. Two worlds that differ only in
what one file holds, and in what a parser makes of it, lead to the same diagnostics in
other files and to the same failures of other files, in the same order. A file with a
directive at fault is reported as one failure and has no diagnostics.
-/

namespace SourceAudit

open Text

/-! ### Rules that keep to their file -/

/-- The rule locates what it finds in the file of a project that it is shown. -/
def Rule.Locates (r : Rule) (config : Config) : Prop :=
  ∀ file : FileContext, file.config = config →
    ∀ found, r.check file = .ok found → ∀ d ∈ found, d.path = some file.path

/-- The built-in rules locate what they find in the file that they are shown. -/
theorem Rule.locates_of_mem_builtin {r : Rule} (hr : r ∈ Rule.builtin) (config : Config) :
  r.Locates config
  := by
  intro file _ found hcheck d hd
  obtain ⟨n, message, suggestion, rfl⟩ := exists_finding_of_check hr hcheck d hd
  rfl

theorem path_of_mem_keptFindings {config : Config} {rules : List Rule} {file : FileContext}
    (hfile : file.config = config) (hlocate : ∀ r ∈ rules, r.Locates config) {d : Diagnostic}
    (hd : d ∈ keptFindings config rules file) :
  d.path = some file.path
  := by
  obtain ⟨r, hr, hd⟩ := List.mem_flatMap.mp hd
  have hreport := List.mem_of_mem_filter hd
  rw [Rule.reports] at hreport
  split at hreport
  · rename_i found hfound
    -- a severity that is set for the rule leaves the place of a finding alone
    obtain ⟨d', hd', rfl⟩ := List.mem_map.mp hreport
    exact hlocate r (List.mem_of_mem_filter hr) file hfile found hfound d' hd'
  · cases hreport

/-- What is reported of a file is located in it. -/
theorem path_of_mem_reportsOf {w : World} {target : Target} {rules : List Rule}
    (hlocate : ∀ r ∈ rules, r.Locates target.config) {p : Path} {d : Diagnostic}
    (hd : d ∈ reportsOf w target rules p) :
  d.path = some p
  := by
  obtain ⟨file, hfile, hd⟩ := List.mem_flatMap.mp hd
  have hexamined := Option.mem_toList.mp hfile
  rw [path_of_mem_keptFindings (config_of_examined? hexamined) hlocate hd,
    path_of_examined? hexamined]

/-! ### Files at other places -/

/-- Whether the diagnostic is located in a file at another place than `p`. -/
def Diagnostic.isApart (d : Diagnostic) (disk : Disk) (p : Path) : Bool :=
  d.path.any (disk.apart p)

theorem examined?_of_differsOnlyAt {f p : Path} {w w' : World} (h : DiffersOnlyAt f w w')
    (hp : w.disk.apart f p = true) (target : Target) :
  examined? w' target p = examined? w target p
  := by
  rw [examined?, examined?, h.cwd, h.parse p hp]
  rcases h.readText_cases hp with ⟨fault, fault', hread, hread'⟩ | ⟨text, hread, hread'⟩
  · rw [hread, hread']
  · rw [hread, hread']

theorem failure?_of_differsOnlyAt {f p : Path} {w w' : World} (h : DiffersOnlyAt f w w')
    (hp : w.disk.apart f p = true) (root : Path) :
  failure? w' root p = failure? w root p
  := by
  rw [failure?, failure?, h.cwd]
  rcases h.readText_cases hp with ⟨fault, fault', hread, hread'⟩ | ⟨text, hread, hread'⟩
  · rw [hread, hread']
  · rw [hread, hread']

theorem reportsOf_of_differsOnlyAt {f p : Path} {w w' : World} (h : DiffersOnlyAt f w w')
    (hp : w.disk.apart f p = true) (target : Target) (rules : List Rule) :
  reportsOf w' target rules p = reportsOf w target rules p
  := by
  rw [reportsOf, examined?_of_differsOnlyAt h hp, reportsOf]

/-! ### Parts of an audit -/

/-- When what each file leads to passes a test just if the file passes one, then what passes
is what those files lead to. -/
theorem filter_flatMap_of_forall {α β : Type} {g : α → List β} {q : β → Bool}
    {a : α → Bool} (h : ∀ p, ∀ x ∈ g p, q x = a p) (l : List α) :
  (l.flatMap g).filter q = (l.filter a).flatMap g
  := by
  induction l with
  | nil => rfl
  | cons p rest ih =>
      rw [List.flatMap_cons, List.filter_append, ih, List.filter_cons]
      cases ha : a p with
      | false =>
          have hnone : (g p).filter q = [] := by
            apply List.filter_eq_nil_iff.mpr
            intro x hx
            simp [h p x hx, ha]
          rw [hnone]
          rfl
      | true =>
          have hall : (g p).filter q = g p := by
            apply List.filter_eq_self.mpr
            intro x hx
            rw [h p x hx, ha]
          rw [hall]
          rfl

theorem filter_filterMap_of_forall {α β : Type} {g : α → Option β} {q : β → Bool}
    {a : α → Bool} (h : ∀ p x, g p = some x → q x = a p) (l : List α) :
  (l.filterMap g).filter q = (l.filter a).filterMap g
  := by
  rw [List.filterMap_eq_flatMap_toList, List.filterMap_eq_flatMap_toList]
  apply filter_flatMap_of_forall
  intro p x hx
  exact h p x (Option.mem_toList.mp hx)

section

variable {w : World} {target : Target} {rules : List Rule}

theorem filter_reports_apart (hlocate : ∀ r ∈ rules, r.Locates target.config) (disk : Disk)
    (f : Path) (files : List Path) :
  (files.flatMap (reportsOf w target rules)).filter (·.isApart disk f)
    = (files.filter (disk.apart f)).flatMap (reportsOf w target rules)
  := by
  apply filter_flatMap_of_forall
  intro p d hd
  rw [Diagnostic.isApart, path_of_mem_reportsOf hlocate hd, Option.any_some]

theorem filter_failures_apart (root : Path) (disk : Disk) (f : Path) (files : List Path) :
  (files.filterMap (failure? w root)).filter (fun x => disk.apart f x.path)
    = (files.filter (disk.apart f)).filterMap (failure? w root)
  := by
  apply filter_filterMap_of_forall
  intro p x hx
  rw [path_of_failure? hx]

end

theorem filter_reports_of_differsOnlyAt {f : Path} {w w' : World} (h : DiffersOnlyAt f w w')
    {target : Target} {rules : List Rule} (hlocate : ∀ r ∈ rules, r.Locates target.config)
    (files : List Path) :
  (files.flatMap (reportsOf w' target rules)).filter (·.isApart w.disk f)
    = (files.flatMap (reportsOf w target rules)).filter (·.isApart w.disk f)
  := by
  rw [filter_reports_apart hlocate, filter_reports_apart hlocate]
  apply List.flatMap_congr
  intro p hp
  exact reportsOf_of_differsOnlyAt h (List.mem_filter.mp hp).2 _ _

theorem filter_failures_of_differsOnlyAt {f : Path} {w w' : World} (h : DiffersOnlyAt f w w')
    (root : Path) (files : List Path) :
  (files.filterMap (failure? w' root)).filter (fun x => w.disk.apart f x.path)
    = (files.filterMap (failure? w root)).filter (fun x => w.disk.apart f x.path)
  := by
  rw [filter_failures_apart, filter_failures_apart]
  apply List.filterMap_congr
  intro p hp
  exact failure?_of_differsOnlyAt h (List.mem_filter.mp hp).2 _

/-! ### A file with a directive at fault -/

/-- A file has a directive at fault: it can be read, is in a known dialect, and its
directives are refused. -/
def IsRefused (w : World) (root p : Path) (e : DirectiveError) : Prop :=
  ∃ text dialect, w.disk.readText p = .ok text ∧ dialectOf? p = some dialect
    ∧ readDirectives text (some (p.shown w.disk.cwd root)) = .error e

theorem examined?_of_isRefused {w : World} {target : Target} {p : Path} {e : DirectiveError}
    (h : IsRefused w target.root p e) :
  examined? w target p = none
  := by
  obtain ⟨text, dialect, hread, hdialect, herror⟩ := h
  rw [examined?, hread, hdialect]
  dsimp only
  rw [herror]

theorem failure?_of_isRefused {w : World} {root p : Path} {e : DirectiveError}
    (h : IsRefused w root p e) :
  failure? w root p = some ⟨p, e.bareMessage, e.place.line⟩
  := by
  obtain ⟨text, dialect, hread, hdialect, herror⟩ := h
  rw [failure?, hread, hdialect]
  dsimp only
  rw [herror]

theorem IsRefused.not_mem_reports {w : World} {target : Target} {rules : List Rule} {p : Path}
    {e : DirectiveError} (h : IsRefused w target.root p e)
    (hlocate : ∀ r ∈ rules, r.Locates target.config) {files : List Path} {d : Diagnostic}
    (hd : d ∈ files.flatMap (reportsOf w target rules)) :
  d.path ≠ some p
  := by
  obtain ⟨q, -, hq⟩ := List.mem_flatMap.mp hd
  rw [path_of_mem_reportsOf hlocate hq]
  intro heq
  cases heq
  rw [reportsOf, examined?_of_isRefused h] at hq
  cases hq

theorem IsRefused.filter_failures {w : World} {root p : Path} {e : DirectiveError}
    (h : IsRefused w root p e) {files : List Path} (hfiles : files.Nodup) (hp : p ∈ files) :
  (files.filterMap (failure? w root)).filter (fun x => x.path = p)
    = [⟨p, e.bareMessage, e.place.line⟩]
  := by
  have hone : files.filter (fun q => q = p) = [p] := by
    rw [List.filter_eq, List.count_eq_one_of_mem hfiles hp]
    rfl
  have hfilter := filter_filterMap_of_forall (g := failure? w root)
    (q := fun x => x.path = p) (a := fun q => q = p) (by
      intro q x hx
      rw [path_of_failure? hx]) files
  rw [hfilter, hone, List.filterMap_cons, failure?_of_isRefused h]
  rfl

/-! ### Isolation -/

/-- Two worlds that differ only in a file `f`, and rules that can be loaded and locate what
they find in the file that they are shown. Either both audits end with the same fault of
the number of workers, or both come to a summary. Then the diagnostics at other places
than that of `f` are the same in the same order, and so are the failures; and where `f`
has a directive at fault, no diagnostic is located in it, and its only failure carries
the bare message and the line of the fault. -/
theorem auditFiles_isolated {w w' : World} {before : Registry} {target : Target} {f : Path}
    (hworlds : DiffersOnlyAt f w w')
    (h : (loadRules w.modules before target.config).result = .ok ())
    (hlocate : ∀ r ∈ (loadRules w.modules before target.config).registry.enabled target.config,
      r.Locates target.config) (files : List Path) :
  let workers := workerCount (w.environmentValue "AVESTA_WORKERS") standardWorkers
    defaultMaxWorkers
  (∀ fault, workers = .error fault →
    (auditFiles w before target files).result = .error (.workers fault)
    ∧ (auditFiles w' before target files).result = .error (.workers fault))
  ∧ ∀ n, workers = .ok n → ∃ contexts contexts' summary summary',
    (auditFiles w before target files).result = .ok (contexts, summary)
    ∧ (auditFiles w' before target files).result = .ok (contexts', summary')
    ∧ summary'.diagnostics.filter (·.isApart w.disk f)
      = summary.diagnostics.filter (·.isApart w.disk f)
    ∧ summary'.failures.filter (fun x => w.disk.apart f x.path)
      = summary.failures.filter (fun x => w.disk.apart f x.path)
    ∧ ∀ e, IsRefused w' target.root f e →
      (∀ d ∈ summary'.diagnostics, d.path ≠ some f)
      ∧ (files.Nodup → f ∈ files →
        summary'.failures.filter (fun x => x.path = f)
          = [⟨f, e.bareMessage, e.place.line⟩])
  := by
  intro workers
  have hload : loadRules w'.modules before target.config
      = loadRules w.modules before target.config := by
    rw [hworlds.modules]
  have h' : (loadRules w'.modules before target.config).result = .ok () := by
    rw [hload, h]
  have henvironment : w'.environmentValue "AVESTA_WORKERS"
      = w.environmentValue "AVESTA_WORKERS" := by
    rw [World.environmentValue, hworlds.environment]
    rfl
  constructor
  · intro fault hfault
    rw [result_auditFiles h, result_auditFiles h']
    constructor
    · exact auditLoaded_of_workers_error hfault _ _ _
    · apply auditLoaded_of_workers_error
      rw [henvironment]
      exact hfault
  · intro n hn
    have hn' : workerCount (w'.environmentValue "AVESTA_WORKERS") standardWorkers
        defaultMaxWorkers = .ok n := by
      rw [henvironment]
      exact hn
    refine ⟨_, _, _, _, result_auditFiles_of_workers_ok h hn files,
      result_auditFiles_of_workers_ok h' hn' files, ?_, ?_, ?_⟩
    · dsimp only
      rw [hload, filter_reportOrder, filter_reportOrder,
        filter_reports_of_differsOnlyAt hworlds hlocate]
    · exact filter_failures_of_differsOnlyAt hworlds target.root files
    · intro e hrefused
      constructor
      · intro d hd
        rw [hload] at hd
        exact hrefused.not_mem_reports hlocate ((reportOrder_perm _).mem_iff.mp hd)
      · exact hrefused.filter_failures

/-- A directive that is at fault is written into one of two files that a rule finds something
in. -/
theorem auditFiles_isolated_from_refused :
  let rule := Rule.plugin
    { id := "todo", title := "", description := "", severity := .warn } []
    fun file => .found [{
      rule := some "todo", severity := .warn, message := "signed",
      location := some { path := some file.path, startLine := some 1 } }]
  let a : Path := .absolute ["p", "a.ts"]
  let b : Path := .absolute ["p", "b.ts"]
  let w : World := {
    disk := { files := [
      (["p", "a.ts"], Text.encode "f();".toList), (["p", "b.ts"], Text.encode "g();".toList)] }
    modules := [("rules", [("RULES", .rules false [.rule rule])])] }
  let w' := w.write a (some (Text.encode "f();\n/* avesta-disable */".toList)) (.refused "")
  let target : Target := {
    root := .absolute ["p"], scanPath := .absolute ["p"], config := { plugins := ["rules"] } }
  DiffersOnlyAt a w w'
  ∧ (loadRules w.modules .initial target.config).result = .ok ()
  ∧ ∃ contexts contexts' summary summary',
    (auditFiles w .initial target [b, a]).result = .ok (contexts, summary)
    ∧ (auditFiles w' .initial target [b, a]).result = .ok (contexts', summary')
    ∧ summary'.diagnostics.filter (·.isApart w.disk a)
      = summary.diagnostics.filter (·.isApart w.disk a)
    ∧ (∀ d ∈ summary'.diagnostics, d.path ≠ some a)
    ∧ summary'.failures.filter (fun x => x.path = a)
      = [⟨a, "Invalid file-level disable comment format", some 2⟩]
  := by
  intro rule a b w w' target
  have hworlds : DiffersOnlyAt a w w' := differsOnlyAt_write (by decide +kernel) _ _
  obtain ⟨henabled, hresult⟩ := loadRules_of_pairwise
    (show (loadPluginSpecs w.modules target.config.plugins).2 = .ok [rule] from rfl)
    (by decide +kernel) (by decide +kernel) .initial
  have h : (loadRules w.modules .initial target.config).result = .ok () := by
    rw [hresult]
    decide +kernel
  have hlocate : ∀ r ∈ (loadRules w.modules .initial target.config).registry.enabled
      target.config, r.Locates target.config := by
    rw [henabled]
    intro r hr
    rcases List.mem_append.mp (List.mem_of_mem_filter hr) with hr | hr
    · exact Rule.locates_of_mem_builtin hr target.config
    · rw [List.mem_singleton.mp hr]
      intro file _ found hfound d hd
      cases hfound
      rw [List.mem_singleton.mp hd]
      rfl
  use hworlds, h
  obtain ⟨-, hsummary⟩ := auditFiles_isolated hworlds h hlocate [b, a]
  obtain ⟨contexts, contexts', summary, summary', haudit, haudit', hfound, -, hrefused⟩ :=
    hsummary 2 (by decide +kernel)
  use contexts, contexts', summary, summary', haudit, haudit', hfound
  obtain ⟨hnone, hfailure⟩ := hrefused
    (.comment "Invalid file-level disable comment format" "/* avesta-disable */"
      ⟨some "a.ts", some 2⟩)
    ⟨"f();\n/* avesta-disable */", { language := .typescript, grammar := .typescript },
      by decide +kernel, by decide +kernel, by decide +kernel⟩
  exact ⟨hnone, hfailure (by decide +kernel) (by decide +kernel)⟩

end SourceAudit
