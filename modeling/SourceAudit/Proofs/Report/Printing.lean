import SourceAudit.Proofs.Report.Groups
import SourceAudit.Proofs.Terminal.Paragraph
import SourceAudit.Proofs.Text.Numbers
import Mathlib.Data.List.ReduceOption

/-!
# What a report prints on the screen

A report prints one thing after another, up to the first number that cannot be written out.

* It is printed as a whole exactly when the number of files, the line and the column of every
  diagnostic that has a line, and the lines of failures can be written out.
* A diagnostic is shown with its place, its severity, its message and its rule, above the line
  of its file and its suggestion; a failure with its place and its error.
* A group is shown under its name and its size, with its diagnostics in order.

What is shown of a text are its marks, whatever lines the text is broken into.
-/

namespace SourceAudit.Report

open Text Terminal

/-! ### Printing -/

/-- The lines of what can be printed. -/
def printed (prints : List (Option Screen)) : Screen :=
  prints.reduceOption.flatten

@[simp]
theorem printed_nil :
  printed [] = []
  := rfl

@[simp]
theorem printed_cons_some (lines : Screen) (prints : List (Option Screen)) :
  printed (some lines :: prints) = lines ++ printed prints
  := by rw [printed, List.reduceOption_cons_of_some, List.flatten_cons, printed]

@[simp]
theorem printed_append (prints prints' : List (Option Screen)) :
  printed (prints ++ prints') = printed prints ++ printed prints'
  := by rw [printed, List.reduceOption_append, List.flatten_append, printed, printed]

@[simp]
theorem printed_map_some (lines : List Screen) :
  printed (lines.map some) = lines.flatten
  := by
  induction lines with
  | nil => rfl
  | cons l lines ih => rw [List.map_cons, printed_cons_some, ih, List.flatten_cons]

theorem printed_flatMap {α : Type} (f : α → List (Option Screen)) (as : List α) :
  printed (as.flatMap f) = (as.map fun a => printed (f a)).flatten
  := by
  induction as with
  | nil => rfl
  | cons a as ih => rw [List.flatMap_cons, printed_append, ih, List.map_cons, List.flatten_cons]

/-- All is printed when there is nothing that cannot be. -/
theorem whole_printAll_iff (prints : List (Option Screen)) :
  (printAll prints).whole = true ↔ none ∉ prints
  := by
  induction prints with
  | nil => simp [printAll]
  | cons p prints ih =>
      cases p with
      | none => simp [printAll]
      | some lines => simp [printAll, ih]

theorem lines_printAll {prints : List (Option Screen)} (h : none ∉ prints) :
  (printAll prints).lines = printed prints
  := by
  induction prints with
  | nil => rfl
  | cons p prints ih =>
      cases p with
      | none => exact absurd List.mem_cons_self h
      | some lines =>
          rw [printAll, printed_cons_some, ← ih fun hmem => h (List.mem_cons_of_mem _ hmem)]

/-- Each thing that is printed stands on the screen. -/
theorem infix_printed {lines : Screen} {prints : List (Option Screen)} (h : some lines ∈ prints) :
  lines <:+: printed prints
  := List.infix_of_mem_flatten (List.reduceOption_mem_iff.mpr h)

/-! ### Numbers -/

/-- The numbers that the screen shows of a diagnostic. -/
def placeNumbers (d : Diagnostic) : List Int :=
  d.line.elim [] fun line => [line, shownColumn d]

/-- The numbers that the screen shows of a summary can be written out. -/
structure IsWritableOnScreen (s : Summary) : Prop where
  examined : isWritableNumber s.examined = true
  places : ∀ d ∈ s.diagnostics, ∀ n ∈ placeNumbers d, isWritableNumber n = true
  failures : ∀ f ∈ s.failures, ∀ n, f.line = some n → isWritableNumber n = true

/-- The line and column of a diagnostic as a text, nothing if it has no line. -/
def placeText (d : Diagnostic) : String :=
  d.line.elim "" fun line => intText line ++ ":" ++ intText (shownColumn d)

theorem position_of_isWritable {d : Diagnostic}
    (h : ∀ n ∈ placeNumbers d, isWritableNumber n = true) :
  position d = some (placeText d)
  := by
  rw [placeNumbers] at h
  rw [position, placeText]
  cases hline : d.line with
  | none => rfl
  | some line =>
      rw [hline] at h
      obtain ⟨hl, hc⟩ := List.forall_mem_cons.mp h
      have hlineText := intText?_eq_some_iff.mpr ⟨hl, rfl⟩
      have hcolumnText := intText?_eq_some_iff.mpr ⟨hc _ List.mem_cons_self, rfl⟩
      simp only [hlineText, hcolumnText]
      rfl

theorem position_eq_none_iff (d : Diagnostic) :
  position d = none ↔ ∃ n ∈ placeNumbers d, isWritableNumber n = false
  := by
  constructor
  · intro hnone
    by_contra hno
    push Not at hno
    have hsome := position_of_isWritable fun n hn => by simpa using hno n hn
    rw [hsome] at hnone
    cases hnone
  · rintro ⟨n, hn, hlong⟩
    rw [placeNumbers] at hn
    rw [position]
    cases hline : d.line with
    | none =>
        rw [hline] at hn
        cases hn
    | some line =>
        rw [hline] at hn
        dsimp only
        rcases List.mem_pair.mp hn with rfl | rfl
        · rw [intText?_eq_none_iff.mpr hlong]
          rfl
        · rw [intText?_eq_none_iff.mpr hlong]
          cases intText? line with
          | none => rfl
          | some text => rfl

theorem failurePlace_eq_none_iff (cwd root : Path) (f : Failure) :
  failurePlace cwd root f = none ↔ ∃ n, f.line = some n ∧ isWritableNumber n = false
  := by
  rw [failurePlace]
  cases f.line with
  | none => simp
  | some n => simp [intText?_eq_none_iff]

/-! ### When a report is printed as a whole -/

theorem none_mem_diagnosticPrints_iff (lines : List String) (d : Diagnostic) :
  none ∈ diagnosticPrints lines d ↔ position d = none
  := by
  simp [diagnosticPrints, eq_comm (a := none)]

theorem none_mem_groupPrints_iff (disk : Disk) (root : Path) (g : String × List Diagnostic) :
  none ∈ groupPrints disk root g ↔ ∃ d ∈ g.2, position d = none
  := by
  simp [groupPrints, none_mem_diagnosticPrints_iff]

theorem none_mem_failuresPrints_iff (cwd root : Path) (fs : List Failure) :
  none ∈ failuresPrints cwd root fs ↔ ∃ f ∈ fs, failurePlace cwd root f = none
  := by
  rw [failuresPrints]
  cases fs with
  | nil => simp
  | cons f fs => simp [failurePrint, eq_comm (a := none)]

theorem none_mem_scanPrints_iff (disk : Disk) (root : Path) (s : Summary) :
  none ∈ scanPrints disk root s
    ↔ intText? s.examined = none ∨ (∃ d ∈ s.diagnostics, position d = none)
      ∨ ∃ f ∈ s.failures, failurePlace disk.cwd root f = none
  := by
  have hgroups : (∃ g ∈ groups disk.cwd root s.diagnostics, none ∈ groupPrints disk root g)
      ↔ ∃ d ∈ s.diagnostics, position d = none := by
    constructor
    · rintro ⟨g, hg, hnone⟩
      obtain ⟨d, hd, hplace⟩ := (none_mem_groupPrints_iff disk root g).mp hnone
      exact ⟨d, ((mem_of_mem_groups hg d).mp hd).1, hplace⟩
    · rintro ⟨d, hd, hplace⟩
      obtain ⟨g, hg, hmem⟩ := List.mem_flatMap.mp (groups_perm.mem_iff.mpr hd)
      exact ⟨g, hg, (none_mem_groupPrints_iff disk root g).mpr ⟨d, hmem, hplace⟩⟩
  rw [← hgroups, ← none_mem_failuresPrints_iff, scanPrints]
  simp [eq_comm (a := none)]

/-- A report is printed as a whole when the numbers of the summary can be written out. -/
theorem whole_scanScreen_iff (disk : Disk) (root : Path) (s : Summary) :
  (scanScreen disk root s).whole = true ↔ IsWritableOnScreen s
  := by
  rw [scanScreen, whole_printAll_iff, none_mem_scanPrints_iff, intText?_eq_none_iff]
  simp only [position_eq_none_iff, failurePlace_eq_none_iff]
  push Not
  simp only [Bool.not_eq_false]
  constructor
  · rintro ⟨hexamined, hplaces, hfailures⟩
    exact ⟨hexamined, hplaces, hfailures⟩
  · rintro ⟨hexamined, hplaces, hfailures⟩
    exact ⟨hexamined, hplaces, hfailures⟩

/-! ### What is shown of a diagnostic -/

theorem textMarks_blanks (n : Nat) :
  textMarks (String.ofList (List.replicate n ' ')) = []
  := by
  apply marks_of_isBlankText
  rw [String.toList_ofList, isBlankText, withoutControls, List.filter_replicate]
  split
  · rw [List.all_replicate]
    simp [isBlank]
  · rfl

theorem textMarks_severitySign (severity : Severity) :
  textMarks (String.ofList [severitySign severity]) = [severitySign severity]
  := by
  rw [textMarks, String.toList_ofList]
  cases severity <;> rfl

/-- The lines show a diagnostic: its place, its severity, its message and its rule, then the
line of its file if it points at one, then its suggestion if it has one. -/
def ShowsDiagnostic (lines : List String) (d : Diagnostic) (shown : Screen) : Prop :=
  ∃ head source suggestion : Screen, shown = head ++ source ++ suggestion
    ∧ seen head = textMarks (placeText d) ++ [severitySign d.severity]
      ++ textMarks d.severity.name ++ textMarks d.message ++ textMarks (shownRule d)
    ∧ seen source = (sourceLine? lines d).elim [] (fun line => '│' :: pictureMarks line)
    ∧ seen suggestion
      = d.suggestion.elim [] (fun s => if s = "" then [] else '→' :: pictureMarks s)

theorem seen_head (place : String) (d : Diagnostic) :
  seen (paragraph (headText place d)) = textMarks place ++ [severitySign d.severity]
    ++ textMarks d.severity.name ++ textMarks d.message ++ textMarks (shownRule d)
  := by
  have hone : textMarks " " = [] := by rfl
  have htwo : textMarks "  " = [] := by rfl
  rw [seen_paragraph]
  simp only [headText, rightAligned, leftAligned, textMarks_append, textMarks_blanks,
    textMarks_severitySign, hone, htwo, List.nil_append, List.append_nil]

/-- Under a diagnostic stands a sign, then the text. -/
theorem seen_underIndent (sign : Char) (text : String)
    (h : sign = '│' ∨ sign = '→') :
  seen (pictureParagraph (underIndent ++ String.ofList [sign, ' '] ++ text))
    = sign :: pictureMarks text
  := by
  rw [seen_pictureParagraph]
  rcases h with rfl | rfl
  · exact pictureMarks_append (by decide) text
  · exact pictureMarks_append (by decide) text

theorem showsDiagnostic {d : Diagnostic} (h : ∀ n ∈ placeNumbers d, isWritableNumber n = true)
    (lines : List String) :
  ShowsDiagnostic lines d (printed (diagnosticPrints lines d))
  := by
  rw [diagnosticPrints, position_of_isWritable h]
  rw [Option.map_some, printed_cons_some, printed_map_some, List.flatten_append,
    ← List.append_assoc]
  refine ⟨_, _, _, rfl, seen_head _ d, ?source, ?suggestion⟩
  case source =>
    cases sourceLine? lines d with
    | none => rfl
    | some line =>
        rw [List.flatten_singleton]
        exact seen_underIndent '│' line (Or.inl rfl)
  case suggestion =>
    cases d.suggestion with
    | none => rfl
    | some s =>
        dsimp only
        rw [Option.elim_some]
        split
        · rfl
        · rw [List.flatten_singleton]
          exact seen_underIndent '→' s (Or.inr rfl)

/-! ### What is shown of groups and failures -/

/-- The lines show a group: its name and its size, then its diagnostics in order. -/
def ShowsGroup (disk : Disk) (root : Path) (g : String × List Diagnostic) (shown : Screen) :
    Prop :=
  ∃ (header : Screen) (each : List Screen), shown = header ++ each.flatten ++ [[]]
    ∧ seen header = textMarks g.1 ++ textMarks (natText g.2.length)
    ∧ List.Forall₂ (ShowsDiagnostic (groupLines disk root g.1)) g.2 each

theorem showsGroup {g : String × List Diagnostic}
    (h : ∀ d ∈ g.2, ∀ n ∈ placeNumbers d, isWritableNumber n = true) (disk : Disk) (root : Path) :
  ShowsGroup disk root g (printed (groupPrints disk root g))
  := by
  obtain ⟨name, ds⟩ := g
  rw [groupPrints, List.cons_append, printed_cons_some, printed_append, printed_flatMap, ← List.append_assoc]
  refine ⟨_, _, rfl, ?header, ?each⟩
  case header =>
    have htwo : textMarks "  " = [] := by rfl
    rw [seen_paragraph, textMarks_append, textMarks_append, htwo, List.append_nil]
  case each =>
    rw [List.forall₂_map_right_iff, List.forall₂_same]
    exact fun d hd => showsDiagnostic (h d hd) _

/-- The lines show a failure: its file, its line if it has one, and its error. -/
def ShowsFailure (cwd root : Path) (f : Failure) (shown : Screen) : Prop :=
  seen shown = '✖' :: textMarks (f.path.shown cwd root)
    ++ f.line.elim [] (fun line => ':' :: textMarks (intText line)) ++ textMarks f.error

/-- The lines show failures in order, under a heading if there are any. -/
def ShowsFailures (cwd root : Path) (fs : List Failure) (shown : Screen) : Prop :=
  (fs = [] → shown = [])
  ∧ (fs ≠ [] → ∃ (heading : Screen) (each : List Screen),
      shown = heading ++ each.flatten ++ [[]]
      ∧ seen heading = textMarks "Skipped (malformed directives)"
      ∧ List.Forall₂ (ShowsFailure cwd root) fs each)

section

variable (cwd root : Path)

theorem exists_failurePrint_eq {f : Failure} (h : ∀ n, f.line = some n → isWritableNumber n = true) :
  ∃ lines, failurePrint cwd root f = some lines ∧ ShowsFailure cwd root f lines
  := by
  have hsign : textMarks "  ✖ " = ['✖'] := by rfl
  have hcolon : textMarks ":" = [':'] := by rfl
  have htwo : textMarks "  " = [] := by rfl
  rw [failurePrint, failurePlace]
  cases hline : f.line with
  | none =>
      refine ⟨_, rfl, ?_⟩
      rw [ShowsFailure, seen_paragraph, hline]
      simp [hsign, htwo]
  | some n =>
      dsimp only
      rw [intText?_eq_some_iff.mpr ⟨h n hline, rfl⟩]
      refine ⟨_, rfl, ?_⟩
      rw [ShowsFailure, seen_paragraph, hline]
      simp [hsign, hcolon, htwo]

theorem showsFailures {fs : List Failure}
    (h : ∀ f ∈ fs, ∀ n, f.line = some n → isWritableNumber n = true) :
  ShowsFailures cwd root fs (printed (failuresPrints cwd root fs))
  := by
  rw [failuresPrints]
  cases fs with
  | nil => exact ⟨fun _ => rfl, fun hne => absurd rfl hne⟩
  | cons f fs =>
      refine ⟨fun hnil => absurd hnil (List.cons_ne_nil f fs), fun _ => ?_⟩
      choose! lines hprint hshown using
        fun f hf => exists_failurePrint_eq cwd root (h f hf)
      rw [if_neg (by simp), List.cons_append, printed_cons_some, printed_append]
      have hprints : (f :: fs).map (failurePrint cwd root) = ((f :: fs).map lines).map some := by
        rw [List.map_map]
        exact List.map_congr_left hprint
      rw [hprints, printed_map_some, ← List.append_assoc]
      refine ⟨_, _, rfl, seen_paragraph _, ?_⟩
      rw [List.forall₂_map_right_iff, List.forall₂_same]
      exact hshown

end

/-! ### What is shown of a summary -/

/-- The lines at the top of the screen. -/
def titleScreen (examined : Int) : Screen :=
  panel none (some ("Scanned " ++ intText examined ++ " files").toList)
    (paragraphIn panelWidth ("Avesta v" ++ programVersion))

/-- The last lines of the screen, with three counts and the number of failures. -/
def totalsScreen (errors warnings infos failures : Nat) : Screen :=
  let skipped := if failures = 0 then "" else ", " ++ natText failures ++ " file(s) skipped"
  ruleLine :: paragraph (natText errors ++ " error(s), " ++ natText warnings ++ " warning(s), "
    ++ natText infos ++ " info" ++ skipped)

theorem totalsScreen_counts (s : Summary) :
  totalsScreen (s.count .error) (s.count .warn) (s.count .info) s.failures.length
    = ruleLine :: paragraph (totals s)
  := by
  simp only [totals, totalsScreen, List.isEmpty_iff_length_eq_zero]

/-- The screen shows the groups one after another, then the failures, then the totals. -/
def ShowsSummary (disk : Disk) (root : Path) (s : Summary) (shown : Screen) : Prop :=
  ∃ (each : List Screen) (skipped : Screen),
    shown = titleScreen s.examined ++ each.flatten ++ skipped
      ++ totalsScreen (s.count .error) (s.count .warn) (s.count .info) s.failures.length
    ∧ List.Forall₂ (ShowsGroup disk root) (groups disk.cwd root s.diagnostics) each
    ∧ ShowsFailures disk.cwd root s.failures skipped

theorem showsSummary {s : Summary} (h : IsWritableOnScreen s) (disk : Disk) (root : Path) :
  ShowsSummary disk root s (scanScreen disk root s).lines
  := by
  have hwhole := (whole_scanScreen_iff disk root s).mpr h
  rw [scanScreen, whole_printAll_iff] at hwhole
  rw [scanScreen, lines_printAll hwhole, scanPrints, intText?_eq_some_iff.mpr ⟨h.examined, rfl⟩]
  refine ⟨(groups disk.cwd root s.diagnostics).map fun g => printed (groupPrints disk root g),
    printed (failuresPrints disk.cwd root s.failures), ?lines, ?groups,
    showsFailures disk.cwd root h.failures⟩
  case lines =>
    simp [printed_flatMap, titleScreen, totalsScreen_counts]
  case groups =>
    rw [List.forall₂_map_right_iff, List.forall₂_same]
    intro g hg
    apply showsGroup
    exact fun d hd => h.places d ((mem_of_mem_groups hg d).mp hd).1

end SourceAudit.Report
