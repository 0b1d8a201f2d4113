import SourceAudit.Proofs.Report.Printing
import SourceAudit.Proofs.Value.Json

/-!
# Reports show whole summaries

The summary of an audit is shown on the screen and as JSON, on each when the numbers that it
shows can be written out.

* The screen shows every diagnostic once, in its group, under the name and the size of the
  group.
* JSON lists diagnostics and failures in the order of the summary and tells all of each. The
  summaries with one text agree in all that is shown of them, finding by finding.
* The totals on the screen are the counts of JSON, and they add up to the number of diagnostics
  exactly when no diagnostic has a severity of another scale.
-/

namespace SourceAudit.Report

open Text Terminal

/-! ### Counts -/

/-- The severities whose diagnostics are counted. -/
def countedSeverities : List Severity :=
  [.error, .warn, .info]

/-- A diagnostic is counted once when its severity is counted at all. -/
theorem sum_countP_severity (ds : List Diagnostic) :
  (countedSeverities.map fun severity => ds.countP (·.severity = severity)).sum
    = ds.countP (·.severity ∈ countedSeverities)
  := by
  have hnodup : countedSeverities.Nodup := by decide
  have hlength := (flatMap_filter_perm Diagnostic.severity hnodup ds).length_eq
  simp only [List.length_flatMap, ← List.countP_eq_length_filter] at hlength
  exact hlength

/-- The counts add up to the number of diagnostics when every severity is counted. -/
theorem sum_counts_eq_length_iff (s : Summary) :
  (countedSeverities.map s.count).sum = s.diagnostics.length
    ↔ ∀ d ∈ s.diagnostics, d.severity ∈ countedSeverities
  := by
  have hsum := sum_countP_severity s.diagnostics
  have hcounts : countedSeverities.map s.count
      = countedSeverities.map fun severity => s.diagnostics.countP (·.severity = severity) := rfl
  rw [hcounts, hsum, List.countP_eq_length]
  simp only [decide_eq_true_iff]

/-! ### What is shown of a diagnostic -/

/-- What is shown of the place of a diagnostic: the name of its file and the numbers. -/
def shownLocation? (cwd root : Path) (d : Diagnostic) :
    Option (String × Option Int × Option Int × Option Int × Option Int) :=
  d.location.bind fun l =>
    l.path.map fun p =>
      (p.shown cwd root, l.startLine, l.startColumn, l.endLine, l.endColumn)

theorem optionalText_inj {o o' : Option String} :
  optionalText o = optionalText o' ↔ o = o'
  := by
  cases o <;> cases o' <;> simp [optionalText]

theorem optionalInt_inj {o o' : Option Int} :
  optionalInt o = optionalInt o' ↔ o = o'
  := by
  cases o <;> cases o' <;> simp [optionalInt]

section

variable (cwd root : Path)

/-- The place of a diagnostic as a value is made from what is shown of it. -/
theorem locationValue_eq_shown (d : Diagnostic) :
  (d.location.map (locationValue cwd root)).getD .null
    = match shownLocation? cwd root d with
      | none => .null
      | some (path, startLine, startColumn, endLine, endColumn) => .table [
          ("path", .text path),
          ("start_line", optionalInt startLine), ("start_col", optionalInt startColumn),
          ("end_line", optionalInt endLine), ("end_col", optionalInt endColumn)]
  := by
  rw [shownLocation?]
  cases d.location with
  | none => rfl
  | some l =>
      obtain ⟨path, startLine, startColumn, endLine, endColumn⟩ := l
      cases path with
      | none => rfl
      | some p => rfl

theorem locationValue_eq_iff (d e : Diagnostic) :
  (d.location.map (locationValue cwd root)).getD .null
      = (e.location.map (locationValue cwd root)).getD .null
    ↔ shownLocation? cwd root d = shownLocation? cwd root e
  := by
  rw [locationValue_eq_shown, locationValue_eq_shown]
  cases shownLocation? cwd root d <;> cases shownLocation? cwd root e
  all_goals simp [optionalInt_inj, Prod.ext_iff]

/-- The diagnostics agree in all that is shown of them. -/
def AreShownAlike (d e : Diagnostic) : Prop :=
  d.rule = e.rule ∧ d.severity.name = e.severity.name ∧ d.message = e.message
    ∧ d.suggestion = e.suggestion ∧ shownLocation? cwd root d = shownLocation? cwd root e

theorem diagnosticValue_eq_iff (d e : Diagnostic) :
  diagnosticValue cwd root d = diagnosticValue cwd root e ↔ AreShownAlike cwd root d e
  := by
  rw [AreShownAlike, ← locationValue_eq_iff]
  simp [diagnosticValue, optionalText_inj]

theorem failureValue_eq_iff (f g : Failure) :
  failureValue cwd root f = failureValue cwd root g
    ↔ f.path.shown cwd root = g.path.shown cwd root ∧ f.line = g.line ∧ f.error = g.error
  := by
  simp [failureValue, optionalInt_inj]

end

/-! ### When a report can be written as JSON -/

/-- The numbers of a place in a file. -/
def locationNumbers (l : Location) : List Int :=
  l.path.elim [] fun _ => [l.startLine, l.startColumn, l.endLine, l.endColumn].reduceOption

/-- The numbers of a summary can be written out. -/
structure IsWritableAsJson (s : Summary) : Prop where
  examined : isWritableNumber s.examined = true
  counts : ∀ severity ∈ countedSeverities, isWritableNumber (s.count severity) = true
  locations : ∀ d ∈ s.diagnostics, ∀ l, d.location = some l → ∀ n ∈ locationNumbers l,
    isWritableNumber n = true
  failures : ∀ f ∈ s.failures, ∀ n, f.line = some n → isWritableNumber n = true

theorem isWritable_optionalText (o : Option String) :
  Json.isWritable (optionalText o) = true
  := by
  cases o <;> rfl

theorem isWritable_optionalInt_iff (o : Option Int) :
  Json.isWritable (optionalInt o) = true ↔ ∀ n, o = some n → isWritableNumber n = true
  := by
  cases o with
  | none => simp [optionalInt, Json.isWritable]
  | some n => simp [optionalInt, Json.isWritable]

section

variable (cwd root : Path)

theorem isWritable_locationValue_iff (l : Location) :
  Json.isWritable (locationValue cwd root l) = true
    ↔ ∀ n ∈ locationNumbers l, isWritableNumber n = true
  := by
  rw [locationValue, locationNumbers]
  cases l.path with
  | none => simp [Json.isWritable]
  | some p =>
      rw [Option.elim_some]
      trans ∀ o ∈ [l.startLine, l.startColumn, l.endLine, l.endColumn],
        Json.isWritable (optionalInt o) = true
      · simp [Json.isWritable, Json.areWritableEntries]
      · simp only [isWritable_optionalInt_iff, List.reduceOption_mem_iff]
        constructor
        · exact fun h n hn => h _ hn n rfl
        · rintro h o ho n rfl
          exact h n ho

theorem isWritable_diagnosticValue_iff (d : Diagnostic) :
  Json.isWritable (diagnosticValue cwd root d) = true
    ↔ ∀ l, d.location = some l → ∀ n ∈ locationNumbers l, isWritableNumber n = true
  := by
  simp only [diagnosticValue, Json.isWritable, Json.areWritableEntries_iff, List.forall_mem_cons,
    isWritable_optionalText]
  cases d.location with
  | none => simp [Json.isWritable]
  | some l => simp [isWritable_locationValue_iff]

theorem isWritable_failureValue_iff (f : Failure) :
  Json.isWritable (failureValue cwd root f) = true
    ↔ ∀ n, f.line = some n → isWritableNumber n = true
  := by
  simp [failureValue, Json.isWritable, Json.areWritableEntries, isWritable_optionalInt_iff]

/-- There is a report as JSON when the numbers of the summary can be written out. -/
theorem isSome_scanJson_iff (s : Summary) :
  (scanJson cwd root s).isSome = true ↔ IsWritableAsJson s
  := by
  have hone : isWritableNumber 1 = true := by decide +kernel
  have hparts : Json.isWritable (summaryValue cwd root s) = true
      ↔ isWritableNumber s.examined = true
        ∧ (∀ severity ∈ countedSeverities, isWritableNumber (s.count severity) = true)
        ∧ (∀ d ∈ s.diagnostics, Json.isWritable (diagnosticValue cwd root d) = true)
        ∧ ∀ f ∈ s.failures, Json.isWritable (failureValue cwd root f) = true := by
    simp [summaryValue, Json.isWritable, Json.areWritableEntries, Json.areWritable_iff, hone,
      countedSeverities]
  rw [scanJson, Json.isSome_spread?_iff, hparts]
  simp only [isWritable_diagnosticValue_iff, isWritable_failureValue_iff]
  constructor
  · rintro ⟨hexamined, hcounts, hlocations, hfailures⟩
    exact ⟨hexamined, hcounts, hlocations, hfailures⟩
  · rintro ⟨hexamined, hcounts, hlocations, hfailures⟩
    exact ⟨hexamined, hcounts, hlocations, hfailures⟩

end

/-! ### JSON is read back -/

theorem isPlain_optionalText (o : Option String) :
  Json.IsPlain (optionalText o)
  := by
  cases o with
  | none => exact .null
  | some s => exact .text s

theorem isPlain_optionalInt {o : Option Int} (h : ∀ n, o = some n → isWritableNumber n = true) :
  Json.IsPlain (optionalInt o)
  := by
  cases o with
  | none => exact .null
  | some n => exact .int ((isWritableNumber_iff n).mp (h n rfl))

section

variable (cwd root : Path)

theorem isPlain_locationValue {l : Location}
    (h : ∀ n ∈ locationNumbers l, isWritableNumber n = true) :
  Json.IsPlain (locationValue cwd root l)
  := by
  rw [locationNumbers] at h
  rw [locationValue]
  cases hpath : l.path with
  | none => exact .null
  | some p =>
      rw [hpath] at h
      have hnumber : ∀ o ∈ [l.startLine, l.startColumn, l.endLine, l.endColumn],
          Json.IsPlain (optionalInt o) := by
        rintro o ho
        apply isPlain_optionalInt
        rintro n rfl
        exact h n (List.reduceOption_mem_iff.mpr ho)
      simp only [List.forall_mem_cons] at hnumber
      obtain ⟨hstartLine, hstartColumn, hendLine, hendColumn, -⟩ := hnumber
      apply Json.IsPlain.table (by simp)
      simp only [List.forall_mem_cons]
      exact ⟨.text _, hstartLine, hstartColumn, hendLine, hendColumn, by simp⟩

theorem isPlain_diagnosticValue {d : Diagnostic}
    (h : ∀ l, d.location = some l → ∀ n ∈ locationNumbers l, isWritableNumber n = true) :
  Json.IsPlain (diagnosticValue cwd root d)
  := by
  have hlocation : Json.IsPlain ((d.location.map (locationValue cwd root)).getD .null) := by
    cases hl : d.location with
    | none => exact .null
    | some l => exact isPlain_locationValue cwd root (h l hl)
  apply Json.IsPlain.table (by simp)
  simp only [List.forall_mem_cons]
  exact ⟨isPlain_optionalText _, .text _, .text _, isPlain_optionalText _, hlocation, by simp⟩

theorem isPlain_failureValue {f : Failure}
    (h : ∀ n, f.line = some n → isWritableNumber n = true) :
  Json.IsPlain (failureValue cwd root f)
  := by
  apply Json.IsPlain.table (by simp)
  simp only [List.forall_mem_cons]
  exact ⟨.text _, isPlain_optionalInt h, .text _, by simp⟩

theorem isPlain_summaryValue {s : Summary} (h : IsWritableAsJson s) :
  Json.IsPlain (summaryValue cwd root s)
  := by
  have hnumber {n : Int} (hn : isWritableNumber n = true) : Json.IsPlain (.int n) :=
    .int ((isWritableNumber_iff n).mp hn)
  have hcounts := h.counts
  simp only [countedSeverities, List.forall_mem_cons] at hcounts
  obtain ⟨herrors, hwarnings, hinfos, -⟩ := hcounts
  apply Json.IsPlain.table (by simp)
  simp only [List.forall_mem_cons]
  refine ⟨hnumber (by decide +kernel), ?tool, hnumber h.examined, ?counts, ?diagnostics, ?failures,
    by simp⟩
  case tool =>
    apply Json.IsPlain.table (by simp)
    simp only [List.forall_mem_cons]
    exact ⟨.text _, .text _, by simp⟩
  case counts =>
    apply Json.IsPlain.table (by simp [Severity.name])
    simp only [List.map_cons, List.map_nil, List.forall_mem_cons]
    exact ⟨hnumber herrors, hnumber hwarnings, hnumber hinfos, by simp⟩
  case diagnostics =>
    apply Json.IsPlain.list
    rw [List.forall_mem_map]
    exact fun d hd => isPlain_diagnosticValue cwd root (h.locations d hd)
  case failures =>
    apply Json.IsPlain.list
    rw [List.forall_mem_map]
    exact fun f hf => isPlain_failureValue cwd root (h.failures f hf)

/-- What is written as JSON denotes the value of the summary. -/
theorem parse_of_scanJson {s : Summary} {text : String} (h : scanJson cwd root s = some text) :
  Json.parse text = .ok (summaryValue cwd root s)
  := by
  have hwritable : IsWritableAsJson s := by
    rw [← isSome_scanJson_iff cwd root, h]
    rfl
  rw [← (Json.spread?_eq_some_iff.mp h).2]
  exact Json.parse_spread (isPlain_summaryValue cwd root hwritable)

end

/-! ### What JSON holds of a summary -/

/-- The value tells the file of a place and its numbers. -/
structure HoldsPlace (cwd root : Path) (p : Path) (l : Location) (v : Value) : Prop where
  path : v.get? "path" = some (.text (p.shown cwd root))
  startLine : v.get? "start_line" = some (l.startLine.elim .null .int)
  startColumn : v.get? "start_col" = some (l.startColumn.elim .null .int)
  endLine : v.get? "end_line" = some (l.endLine.elim .null .int)
  endColumn : v.get? "end_col" = some (l.endColumn.elim .null .int)

/-- The value tells all of a diagnostic. -/
structure HoldsDiagnostic (cwd root : Path) (d : Diagnostic) (v : Value) : Prop where
  rule : v.get? "rule_id" = some (d.rule.elim .null .text)
  severity : v.get? "severity" = some (.text d.severity.name)
  message : v.get? "message" = some (.text d.message)
  suggestion : v.get? "suggestion" = some (d.suggestion.elim .null .text)
  located : ∀ l p, d.location = some l → l.path = some p →
    ∃ place, v.get? "location" = some place ∧ HoldsPlace cwd root p l place
  unlocated : d.path = none → v.get? "location" = some .null

/-- The value tells all of a failure. -/
structure HoldsFailure (cwd root : Path) (f : Failure) (v : Value) : Prop where
  path : v.get? "path" = some (.text (f.path.shown cwd root))
  line : v.get? "line" = some (f.line.elim .null .int)
  error : v.get? "error" = some (.text f.error)

/-- The value counts the diagnostics of the summary and lists them and the failures in order. -/
structure HoldsSummary (cwd root : Path) (s : Summary) (v : Value) : Prop where
  examined : v.get? "files_scanned" = some (.int s.examined)
  counts : ∃ counts, v.get? "counts" = some counts ∧ ∀ severity ∈ countedSeverities,
    counts.get? severity.name = some (.int (s.count severity))
  diagnostics : ∃ items, v.get? "diagnostics" = some (.list items)
    ∧ List.Forall₂ (HoldsDiagnostic cwd root) s.diagnostics items
  failures : ∃ items, v.get? "failures" = some (.list items)
    ∧ List.Forall₂ (HoldsFailure cwd root) s.failures items

theorem optionalText_eq_elim (o : Option String) :
  optionalText o = o.elim .null .text
  := by
  cases o <;> rfl

theorem optionalInt_eq_elim (o : Option Int) :
  optionalInt o = o.elim .null .int
  := by
  cases o <;> rfl

section

variable (cwd root : Path)

theorem holdsDiagnostic (d : Diagnostic) :
  HoldsDiagnostic cwd root d (diagnosticValue cwd root d)
  where
  rule := congrArg some (optionalText_eq_elim d.rule)
  severity := rfl
  message := rfl
  suggestion := congrArg some (optionalText_eq_elim d.suggestion)
  located := by
    intro l p hl hp
    refine ⟨locationValue cwd root l, ?_, ?_⟩
    · rw [diagnosticValue, hl]
      rfl
    · rw [locationValue, hp]
      exact {
        path := rfl
        startLine := congrArg some (optionalInt_eq_elim l.startLine)
        startColumn := congrArg some (optionalInt_eq_elim l.startColumn)
        endLine := congrArg some (optionalInt_eq_elim l.endLine)
        endColumn := congrArg some (optionalInt_eq_elim l.endColumn) }
  unlocated := by
    intro hpath
    have hnull : (d.location.map (locationValue cwd root)).getD .null = .null := by
      rw [Diagnostic.path] at hpath
      cases hl : d.location with
      | none => rfl
      | some l =>
          rw [hl] at hpath
          rw [Option.map_some, Option.getD_some, locationValue, show l.path = none from hpath]
    exact congrArg some hnull

theorem holdsFailure (f : Failure) :
  HoldsFailure cwd root f (failureValue cwd root f)
  where
  path := rfl
  line := congrArg some (optionalInt_eq_elim f.line)
  error := rfl

theorem holdsSummary (s : Summary) :
  HoldsSummary cwd root s (summaryValue cwd root s)
  where
  examined := rfl
  counts := by
    refine ⟨_, rfl, ?_⟩
    simp only [countedSeverities, List.forall_mem_cons]
    exact ⟨rfl, rfl, rfl, by simp⟩
  diagnostics := by
    refine ⟨_, rfl, ?_⟩
    rw [List.forall₂_map_right_iff, List.forall₂_same]
    exact fun d _ => holdsDiagnostic cwd root d
  failures := by
    refine ⟨_, rfl, ?_⟩
    rw [List.forall₂_map_right_iff, List.forall₂_same]
    exact fun f _ => holdsFailure cwd root f

theorem forall₂_of_map_eq {α β : Type} {f : α → β} {r : α → α → Prop}
    (hf : ∀ a b, f a = f b → r a b) {as bs : List α} (h : as.map f = bs.map f) :
  List.Forall₂ r as bs
  := by
  rw [← List.forall₂_eq_eq_eq, List.forall₂_map_left_iff, List.forall₂_map_right_iff] at h
  exact h.imp hf

/-- Summaries with the same JSON agree in all that is shown of their diagnostics and failures,
one after another. -/
theorem forall₂_of_scanJson_eq {s t : Summary} {text : String}
    (hs : scanJson cwd root s = some text) (ht : scanJson cwd root t = some text) :
  List.Forall₂ (AreShownAlike cwd root) s.diagnostics t.diagnostics
  ∧ List.Forall₂ (fun f g => f.path.shown cwd root = g.path.shown cwd root ∧ f.line = g.line
      ∧ f.error = g.error) s.failures t.failures
  := by
  have hvalue := parse_of_scanJson cwd root hs
  rw [parse_of_scanJson cwd root ht, Except.ok.injEq, summaryValue, summaryValue] at hvalue
  simp only [Value.table.injEq, List.cons.injEq, Prod.mk.injEq, Value.list.injEq, true_and,
    and_true] at hvalue
  obtain ⟨-, -, hdiagnostics, hfailures⟩ := hvalue
  constructor
  · exact forall₂_of_map_eq (fun d e => (diagnosticValue_eq_iff cwd root d e).mp)
      hdiagnostics.symm
  · exact forall₂_of_map_eq (fun f g => (failureValue_eq_iff cwd root f g).mp) hfailures.symm

end

/-! ### Both reports -/

/-- Both reports show the whole summary when no file is shown under the name of the group of the
project and the numbers they show can be written out. The screen shows the diagnostics in
groups, each group under its name and size, and totals that are the counts of JSON; JSON lists
diagnostics and failures in the order of the summary. -/
theorem reports_of_summary (disk : Disk) {root : Path} {s : Summary}
    (h : ∀ d ∈ s.diagnostics, ∀ p, d.path = some p → p.shown disk.cwd root ≠ projectGroup) :
  IsGrouping disk.cwd root s.diagnostics (groups disk.cwd root s.diagnostics)
  ∧ ((scanScreen disk root s).whole = true ↔ IsWritableOnScreen s)
  ∧ (IsWritableOnScreen s → ShowsSummary disk root s (scanScreen disk root s).lines)
  ∧ ((scanJson disk.cwd root s).isSome = true ↔ IsWritableAsJson s)
  ∧ (∀ text, scanJson disk.cwd root s = some text →
    (∃ v, Json.parse text = .ok v ∧ HoldsSummary disk.cwd root s v)
    ∧ ∀ t, scanJson disk.cwd root t = some text →
      List.Forall₂ (AreShownAlike disk.cwd root) s.diagnostics t.diagnostics
      ∧ List.Forall₂ (fun f g => f.path.shown disk.cwd root = g.path.shown disk.cwd root
          ∧ f.line = g.line ∧ f.error = g.error) s.failures t.failures)
  ∧ (s.count .error + s.count .warn + s.count .info = s.diagnostics.length
    ↔ ∀ d ∈ s.diagnostics, d.severity ∈ countedSeverities)
  := by
  refine ⟨isGrouping_groups h, whole_scanScreen_iff disk root s, fun hs => showsSummary hs disk root,
    isSome_scanJson_iff disk.cwd root s, ?json, ?sum⟩
  case json =>
    intro text htext
    constructor
    · exact ⟨_, parse_of_scanJson disk.cwd root htext, holdsSummary disk.cwd root s⟩
    · exact fun t ht => forall₂_of_scanJson_eq disk.cwd root htext ht
  case sum =>
    rw [← sum_counts_eq_length_iff]
    simp only [countedSeverities, List.map_cons, List.map_nil, List.sum_cons, List.sum_nil,
      Nat.add_zero, Nat.add_assoc]

/-- A diagnostic of the project, two at one line of a file outside of it, one at a line of a file
in it between them, and a failure. -/
theorem reports_of_summary_mixed :
  let disk : Disk := {}
  let root : Path := .ofText "/p"
  let at2 (file : String) (severity : Severity) (rule : String) : Diagnostic := {
    rule := some rule, severity := severity, message := "m"
    location := some { path := some (.ofText file), startLine := some 2 } }
  let whole : Diagnostic := { rule := none, severity := .info, message := "m" }
  let s : Summary := {
    examined := 3
    diagnostics := [whole, at2 "/q/b.ts" .error "B", at2 "/p/a.ts" .error "A",
      at2 "/q/b.ts" .warn "A"]
    failures := [{ path := .ofText "/p/c.ts", error := "e", line := some 1 }] }
  let gs := [
    ("(project)", [whole]), ("/q/b.ts", [at2 "/q/b.ts" .error "B", at2 "/q/b.ts" .warn "A"]),
    ("a.ts", [at2 "/p/a.ts" .error "A"])]
  IsGrouping disk.cwd root s.diagnostics gs
  ∧ (scanScreen disk root s).whole = true
  ∧ (∃ top, (scanScreen disk root s).lines = top ++ totalsScreen 2 1 1 1)
  ∧ (∃ text v counts, scanJson disk.cwd root s = some text ∧ Json.parse text = .ok v
    ∧ v.get? "counts" = some counts ∧ counts.get? "error" = some (.int 2)
    ∧ counts.get? "warn" = some (.int 1) ∧ counts.get? "info" = some (.int 1))
  ∧ s.count .error + s.count .warn + s.count .info = 4
  := by
  intro disk root at2 whole s gs
  have hnames : ∀ d ∈ s.diagnostics, ∀ p, d.path = some p →
      p.shown disk.cwd root ≠ projectGroup := by
    simp only [s, List.forall_mem_cons]
    refine ⟨?_, ?_, ?_, ?_, by simp⟩ <;> rintro p ⟨⟩ <;> decide +kernel
  have hscreen : IsWritableOnScreen s := {
    examined := by decide +kernel
    places := by decide +kernel
    failures := by
      simp only [s, List.forall_mem_singleton]
      rintro n ⟨⟩
      decide +kernel }
  have hjson : IsWritableAsJson s := {
    examined := by decide +kernel
    counts := by decide +kernel
    locations := by
      simp only [s, List.forall_mem_cons]
      refine ⟨?_, ?_, ?_, ?_, by simp⟩ <;> rintro l ⟨⟩ <;> decide +kernel
    failures := hscreen.failures }
  have hgroups : groups disk.cwd root s.diagnostics = gs := by
    have hsorted : ∀ name ∈ distinct (s.diagnostics.map (groupOf disk.cwd root)),
        (s.diagnostics.filter (groupOf disk.cwd root · = name)).Pairwise
          fun d e => inGroupLe d e = true := by
      decide +kernel
    rw [groups, List.mergeSort_of_pairwise (by decide +kernel),
      List.map_congr_left fun name hname =>
        congrArg (Prod.mk name) (List.mergeSort_of_pairwise (hsorted name hname))]
    decide +kernel
  obtain ⟨hgrouping, hwhole, hshown, hsome, htexts, hsum⟩ := reports_of_summary disk hnames
  rw [hgroups] at hgrouping
  obtain ⟨each, skipped, hlines, -, -⟩ := hshown hscreen
  obtain ⟨text, htext⟩ := Option.isSome_iff_exists.mp (hsome.mpr hjson)
  obtain ⟨⟨v, hparse, hholds⟩, -⟩ := htexts text htext
  obtain ⟨counts, hcounts, heach⟩ := hholds.counts
  simp only [countedSeverities, List.forall_mem_cons] at heach
  obtain ⟨herrors, hwarnings, hinfos, -⟩ := heach
  exact ⟨hgrouping, hwhole.mpr hscreen, ⟨_, hlines⟩,
    ⟨text, v, counts, htext, hparse, hcounts, herrors, hwarnings, hinfos⟩,
    hsum.mpr (by decide)⟩

/-- A summary is not reported when its one diagnostic stands at a line whose number has too many
digits. -/
theorem no_report_of_long_line :
  let disk : Disk := {}
  let root : Path := .ofText "/p"
  let line : ℤ := (10 ^ maxDigits : ℕ)
  let d : Diagnostic := {
    rule := none, severity := .warn, message := "m"
    location := some { path := some (.ofText "/p/a.ts"), startLine := some line } }
  let s : Summary := { examined := 1, diagnostics := [d] }
  scanJson disk.cwd root s = none ∧ (scanScreen disk root s).whole = false
  := by
  intro disk root line d s
  have hlong : isWritableNumber line = false := by
    rw [← Bool.not_eq_true, isWritableNumber_natCast_iff]
    exact lt_irrefl _
  constructor
  · rw [← Option.not_isSome_iff_eq_none, isSome_scanJson_iff]
    intro hs
    have hshort := hs.locations d List.mem_cons_self _ rfl line List.mem_cons_self
    rw [hlong] at hshort
    cases hshort
  · rw [← Bool.not_eq_true, whole_scanScreen_iff]
    intro hs
    have hshort := hs.places d List.mem_cons_self line List.mem_cons_self
    rw [hlong] at hshort
    cases hshort

end SourceAudit.Report
