import SourceAudit.Proofs.Project.Workers
import SourceAudit.Proofs.Review.Sections
import SourceAudit.Proofs.Text.Boundary

/-!
# Reading a written diff

A diff of staged files is written line by line: for each file a header with its path, lines
about the file, and its hunks, each with a header and the lines that were removed or added.
Reading the text gives the files back that are wanted, with those of their added lines that
are seen, numbered in every hunk from its first line on.
-/

namespace SourceAudit

open Text

/-! ### Written hunks -/

/-- A line number as it is written: a text of decimal digits. -/
structure LineNumber where
  digits : List Char
  digits_ne_nil : digits ≠ []
  decimal : ∀ c ∈ digits, isDecimal c = true

/-- A line number of one digit. -/
def LineNumber.ofDigit (c : Char) (h : isDecimal c = true) : LineNumber where
  digits := [c]
  digits_ne_nil := List.cons_ne_nil c []
  decimal := List.forall_mem_singleton.mpr h

/-- The number that is written. -/
def LineNumber.value (n : LineNumber) : Nat :=
  (decimalNumber? n.digits).getD 0

/-- The first line of a hunk in one version, and how many lines there are, unless it is
one. -/
structure HunkRange where
  first : LineNumber
  count : Option LineNumber

def HunkRange.text (r : HunkRange) : List Char :=
  r.first.digits ++ (r.count.map fun n => ',' :: n.digits).getD []

/-- A line of a hunk. -/
inductive HunkLine where
  | removed (text : List Char)
  | added (text : List Char)
  /-- A note that the file ends without a line feed. -/
  | note (text : List Char)

def HunkLine.text : HunkLine → List Char
  | .removed text => '-' :: text
  | .added text => '+' :: text
  | .note text => '\\' :: text

/-- The text that the line adds, if it adds one. -/
def HunkLine.added? : HunkLine → Option (List Char)
  | .removed _ => none
  | .added text => some text
  | .note _ => none

/-- A hunk: its place in both versions, what its header says after that, and its lines. -/
structure Hunk where
  old : HunkRange
  new : HunkRange
  heading : List Char
  lines : List HunkLine
  heading_oneLine : IsOneLine heading
  lines_oneLine : ∀ line ∈ lines, IsOneLine line.text

def Hunk.header (h : Hunk) : List Char :=
  "@@ -".toList ++ (h.old.text ++ (" +".toList ++ (h.new.text ++ (" @@".toList ++ h.heading))))

def Hunk.text (h : Hunk) : List (List Char) :=
  h.header :: h.lines.map HunkLine.text

/-- The added lines of a hunk with their numbers. -/
def Hunk.added (h : Hunk) : List (Nat × List Char) :=
  (h.lines.filterMap HunkLine.added?).mapIdx fun k text => (h.new.first.value + k, text)

/-- The first line number of the hunk in the new version has too many digits. -/
def Hunk.IsTooLong (h : Hunk) : Prop :=
  maxDigits < h.new.first.digits.length

instance : DecidablePred Hunk.IsTooLong :=
  fun h => inferInstanceAs (Decidable (maxDigits < h.new.first.digits.length))

/-! ### Written files -/

/-- A staged file: its path, the lines about it, and its hunks. -/
structure StagedFile where
  path : String
  metadata : List (List Char)
  hunks : List Hunk
  path_uncut : ¬ " b/".toList <:+: path.toList
  path_trim : trim path.toList = path.toList
  path_oneLine : IsOneLine path.toList
  metadata_oneLine : ∀ line ∈ metadata, IsOneLine line
  metadata_plain : ∀ line ∈ metadata, opensSection line = false ∧ ¬ ['@', '@'] <+: line

def StagedFile.header (f : StagedFile) : List Char :=
  "diff --git a/".toList ++ (f.path.toList ++ (" b/".toList ++ f.path.toList))

def StagedFile.body (f : StagedFile) : List (List Char) :=
  f.metadata ++ f.hunks.flatMap Hunk.text

/-- The lines of the diff that are about the file. -/
def StagedFile.toSection (f : StagedFile) : DiffSection :=
  ⟨f.header, f.body⟩

/-- The diff of staged files. -/
def diffText (files : List StagedFile) : String :=
  String.ofList (fedLines (files.flatMap fun f => f.header :: f.body))

/-- The suffix of the file is among the extensions, in whatever case. -/
def StagedFile.IsWanted (extensions : List String) (f : StagedFile) : Prop :=
  small (Path.ofText f.path).suffix ∈ extensions.map small

instance (extensions : List String) : DecidablePred (StagedFile.IsWanted extensions) :=
  fun f => inferInstanceAs (Decidable (small (Path.ofText f.path).suffix ∈ extensions.map small))

/-- The lines of a staged file that are seen, when the file is wanted and there are any. -/
def StagedFile.change? (root : Path) (extensions : List String) (f : StagedFile) :
    Option Change :=
  if f.IsWanted extensions then
    Change.ofEntries? (root ++ Path.ofText f.path) (shown [] (f.hunks.flatMap Hunk.added))
  else none

/-! ### Reading a hunk -/

/-- The digits denote the number. -/
theorem LineNumber.decimalNumber?_digits (n : LineNumber) :
  decimalNumber? n.digits = some n.value
  := by
  obtain ⟨v, hv⟩ := (exists_decimalFrom_iff 0 n.digits).mpr n.decimal
  rw [value, decimalNumber?_of_ne_nil n.digits_ne_nil, hv]
  rfl

theorem LineNumber.isOneLine_digits (n : LineNumber) :
  IsOneLine n.digits
  := isOneLine_of_forall_isDecimal n.decimal

theorem HunkRange.isOneLine_text (r : HunkRange) :
  IsOneLine r.text
  := by
  rw [text, isOneLine_append]
  use r.first.isOneLine_digits
  cases r.count with
  | none => exact isOneLine_nil
  | some n => exact (isOneLine_cons ',' n.digits).mpr ⟨by decide, n.isOneLine_digits⟩

section

variable (n : LineNumber) {c : Char} (hc : isDecimal c = false) (s : List Char)

include hc

theorem LineNumber.takeWhile_digits_append :
  (n.digits ++ c :: s).takeWhile isDecimal = n.digits
  := by
  rw [List.takeWhile_append_of_pos n.decimal, List.takeWhile_cons_of_neg (by simp [hc]),
    List.append_nil]

theorem LineNumber.dropWhile_digits_append :
  (n.digits ++ c :: s).dropWhile isDecimal = c :: s
  := by
  rw [List.dropWhile_append_of_pos n.decimal, List.dropWhile_cons_of_neg (by simp [hc])]

end

theorem LineNumber.isEmpty_digits (n : LineNumber) :
  n.digits.isEmpty = false
  := List.isEmpty_eq_false_iff.mpr n.digits_ne_nil

/-- A written range is read up to the blank after it. -/
theorem HunkRange.takeRange?_text_append (r : HunkRange) (s : List Char) :
  takeRange? (r.text ++ ' ' :: s) = some (r.first.digits, ' ' :: s)
  := by
  have hblank : isDecimal ' ' = false := by decide
  have hcomma : isDecimal ',' = false := by decide
  rw [takeRange?, text, List.append_assoc]
  cases r.count with
  | none =>
      rw [Option.map_none, Option.getD_none, List.nil_append,
        r.first.takeWhile_digits_append hblank, r.first.dropWhile_digits_append hblank,
        r.first.isEmpty_digits]
      rfl
  | some n =>
      rw [Option.map_some, Option.getD_some, List.cons_append,
        r.first.takeWhile_digits_append hcomma, r.first.dropWhile_digits_append hcomma,
        r.first.isEmpty_digits]
      simp only [Bool.false_eq_true, if_false]
      rw [n.takeWhile_digits_append hblank, n.dropWhile_digits_append hblank, n.isEmpty_digits]
      rfl

/-- The header of a hunk gives the number of its first line, whatever it says after that. -/
theorem hunkStart?_of_ranges (old new : HunkRange) (heading : List Char) :
  hunkStart? ("@@ -".toList
      ++ (old.text ++ (" +".toList ++ (new.text ++ (" @@".toList ++ heading)))))
    = some new.first.digits
  := by
  have hold : takeRange? (old.text ++ (" +".toList ++ (new.text ++ (" @@".toList ++ heading))))
      = some (old.first.digits, " +".toList ++ (new.text ++ (" @@".toList ++ heading))) :=
    old.takeRange?_text_append _
  have hnew : takeRange? (new.text ++ (" @@".toList ++ heading))
      = some (new.first.digits, " @@".toList ++ heading) :=
    new.takeRange?_text_append _
  simp only [hunkStart?, after?_append, bind, Option.bind, hold, hnew, pure]

theorem Hunk.hunkStart?_header (h : Hunk) :
  hunkStart? h.header = some h.new.first.digits
  := hunkStart?_of_ranges h.old h.new h.heading

theorem Hunk.ofText_header (h : Hunk) :
  DiffLine.ofText h.header = .hunk h.new.first.digits
  := by
  have hstart : startsWith ['@', '@'] h.header = true := rfl
  rw [DiffLine.ofText.eq_def, if_pos hstart, h.hunkStart?_header]

theorem numbered_lines (n : Nat) (lines : List HunkLine) :
  numbered (some n) (lines.map fun line => .ofText line.text)
    = (lines.filterMap HunkLine.added?).mapIdx fun k text => (n + k, text)
  := by
  induction lines generalizing n with
  | nil => rfl
  | cons line lines ih =>
      cases line with
      | removed text => exact ih n
      | note text => exact ih n
      | added text =>
          have hnext : (fun (k : Nat) (text : List Char) => (n + (k + 1), text))
              = fun k text => (n + 1 + k, text) := by
            funext k text
            rw [Nat.add_right_comm, Nat.add_assoc]
          rw [List.map_cons, List.filterMap_cons_some (by rfl), List.mapIdx_cons, hnext, ← ih]
          rfl

/-- Every hunk is numbered anew, so that the added lines of hunks in a row are numbered as those
of each. -/
theorem numbered_hunks (next : Option Nat) (hunks : List Hunk) :
  numbered next ((hunks.flatMap Hunk.text).map .ofText) = hunks.flatMap Hunk.added
  := by
  induction hunks generalizing next with
  | nil => rfl
  | cons h hunks ih =>
      have hlines := numbered_lines h.new.first.value h.lines
      rw [List.flatMap_cons, List.flatMap_cons, List.map_append, numbered_append, ih, Hunk.text,
        List.map_cons, h.ofText_header, List.map_map]
      congr 1

/-- Only the header of a hunk can be too long. -/
theorem Hunk.isTooLong_iff (h : Hunk) :
  h.IsTooLong ↔ ∃ line ∈ h.text, (DiffLine.ofText line).IsTooLong
  := by
  have hline : ∀ line : HunkLine, ¬ (DiffLine.ofText line.text).IsTooLong := by
    intro line
    cases line <;> exact not_false
  simp only [text, List.mem_cons, exists_eq_or_imp, h.ofText_header, List.mem_map,
    exists_exists_and_eq_and, hline, and_false, exists_false, or_false]
  rfl

theorem isTooLong_hunks_iff (hunks : List Hunk) :
  (∃ line ∈ (hunks.flatMap Hunk.text).map DiffLine.ofText, line.IsTooLong)
    ↔ ∃ h ∈ hunks, h.IsTooLong
  := by
  simp only [List.mem_map, exists_exists_and_eq_and, List.mem_flatMap, Hunk.isTooLong_iff]
  constructor
  · rintro ⟨line, ⟨h, hh, hline⟩, hlong⟩
    exact ⟨h, hh, line, hline, hlong⟩
  · rintro ⟨h, hh, line, hline, hlong⟩
    exact ⟨line, ⟨h, hh, hline⟩, hlong⟩

theorem Hunk.opensSection_of_mem_text {h : Hunk} {line : List Char} (hline : line ∈ h.text) :
  opensSection line = false
  := by
  rcases List.mem_cons.mp hline with rfl | hline
  · rfl
  · obtain ⟨l, -, rfl⟩ := List.mem_map.mp hline
    cases l <;> rfl

theorem Hunk.isOneLine_of_mem_text {h : Hunk} {line : List Char} (hline : line ∈ h.text) :
  IsOneLine line
  := by
  rcases List.mem_cons.mp hline with rfl | hline
  · rw [header, isOneLine_append, isOneLine_append, isOneLine_append, isOneLine_append,
      isOneLine_append]
    exact ⟨by decide, h.old.isOneLine_text, by decide, h.new.isOneLine_text, by decide,
      h.heading_oneLine⟩
  · obtain ⟨l, hl, rfl⟩ := List.mem_map.mp hline
    exact h.lines_oneLine l hl

/-! ### Reading a file -/

/-- The header of a section is cut where the text after its beginning is. -/
theorem isFirstCut_header {s before rest : List Char}
    (h : IsFirstCut " b/".toList s before rest) :
  IsFirstCut " b/".toList ("diff --git a/".toList ++ s) ("diff --git a/".toList ++ before) rest
  := by
  simp only [String.reduceToList, List.cons_append, List.nil_append] at h ⊢
  -- no character of the beginning is one that the mark starts with and goes on after
  iterate 13 apply IsFirstCut.cons _ (by simp [List.cons_prefix_cons])
  exact h

/-- A path that does not hold the mark in front of the second path is cut off there. -/
theorem isFirstCut_path {path : List Char} (h : ¬ " b/".toList <:+: path) :
  IsFirstCut " b/".toList (path ++ (" b/".toList ++ path)) path path
  := by
  -- the mark ends with a slash: cut short before it, it cannot be made up of the path's end
  have hend : ∀ (s : List Char) {c : Char}, c ≠ '/' → ¬ " b/".toList <:+ s ++ [c] := by
    intro s c hc h
    have h' : " b".toList ++ ['/'] <:+ s ++ [c] := h
    have hlength : ['/'].length = [c].length := rfl
    obtain ⟨-, hlast⟩ := (List.suffix_append_inj_of_length_eq hlength).mp h'
    exact hc (List.singleton_inj.mp hlast).symm
  have hpath : ¬ " b".toList ++ ['/'] <:+: path ++ " b".toList := by
    have hsplit : path ++ " b".toList = (path ++ [' ']) ++ ['b'] := by simp
    rw [hsplit, List.infix_concat_iff, List.infix_concat_iff]
    rintro (hb | hblank | hin)
    · exact hend _ (by decide) hb
    · exact hend _ (by decide) hblank
    · exact h hin
  exact isFirstCut_of_not_infix hpath path

theorem StagedFile.path?_toSection (root : Path) (extensions : List String) (f : StagedFile) :
  f.toSection.path? root (extensions.map small)
    = if f.IsWanted extensions then some (root ++ Path.ofText f.path) else none
  := by
  have hcut : IsFirstCut " b/".toList f.header ("diff --git a/".toList ++ f.path.toList)
      f.path.toList := isFirstCut_header (isFirstCut_path f.path_uncut)
  rw [DiffSection.path?, toSection, (cut?_eq_some_iff _ _ _ _).mpr hcut, Option.bind_some]
  dsimp only
  rw [f.path_trim, String.ofList_toList]
  by_cases hwanted : f.IsWanted extensions
  · rw [if_pos hwanted, if_pos (List.contains_iff_mem.mpr hwanted)]
  · rw [if_neg hwanted, if_neg (mt List.contains_iff_mem.mp hwanted)]

theorem StagedFile.opensSection_of_mem_body {f : StagedFile} {line : List Char}
    (hline : line ∈ f.body) :
  opensSection line = false
  := by
  rcases List.mem_append.mp hline with hline | hline
  · exact (f.metadata_plain line hline).1
  · obtain ⟨h, -, hline⟩ := List.mem_flatMap.mp hline
    exact Hunk.opensSection_of_mem_text hline

theorem StagedFile.isOneLine_of_mem {f : StagedFile} {line : List Char}
    (hline : line ∈ f.header :: f.body) :
  IsOneLine line
  := by
  rcases List.mem_cons.mp hline with rfl | hline
  · unfold header
    rw [isOneLine_append, isOneLine_append, isOneLine_append]
    exact ⟨by decide +kernel, f.path_oneLine, by decide +kernel, f.path_oneLine⟩
  · rcases List.mem_append.mp hline with hline | hline
    · exact f.metadata_oneLine line hline
    · obtain ⟨h, -, hline⟩ := List.mem_flatMap.mp hline
      exact Hunk.isOneLine_of_mem_text hline

/-- The lines about a file hold no header of a hunk. -/
theorem StagedFile.not_hunk_of_mem_metadata {f : StagedFile} {line : DiffLine}
    (hline : line ∈ f.metadata.map .ofText) (digits : List Char) :
  line ≠ .hunk digits
  := by
  obtain ⟨l, hl, rfl⟩ := List.mem_map.mp hline
  intro hread
  exact (f.metadata_plain l hl).2 (prefix_of_ofText_eq_hunk hread)

theorem StagedFile.numbered_toSection (f : StagedFile) :
  numbered none f.toSection.lines = f.hunks.flatMap Hunk.added
  := by
  rw [DiffSection.lines, toSection, body, List.map_append,
    numbered_append_of_no_hunk fun line => not_hunk_of_mem_metadata, numbered_hunks]

theorem StagedFile.isTooLong_toSection_iff (f : StagedFile) :
  (∃ line ∈ f.toSection.lines, line.IsTooLong) ↔ ∃ h ∈ f.hunks, h.IsTooLong
  := by
  have hmetadata : ∀ line ∈ f.metadata.map DiffLine.ofText, ¬ line.IsTooLong := by
    intro line hline
    cases hread : line with
    | hunk digits => exact absurd hread (not_hunk_of_mem_metadata hline digits)
    | passedOver => exact not_false
    | content text => exact not_false
  rw [← isTooLong_hunks_iff, DiffSection.lines, toSection, body, List.map_append]
  constructor
  · rintro ⟨line, hline, hlong⟩
    exact ⟨line, (List.mem_append.mp hline).resolve_left fun h => hmetadata line h hlong, hlong⟩
  · rintro ⟨line, hline, hlong⟩
    exact ⟨line, List.mem_append_right _ hline, hlong⟩

/-! ### Reading a diff -/

theorem boundaryLines_diffText (files : List StagedFile) :
  boundaryLines (diffText files).toList = files.flatMap fun f => f.header :: f.body
  := by
  rw [diffText, String.toList_ofList]
  apply boundaryLines_fedLines
  intro line hline
  obtain ⟨f, -, hline⟩ := List.mem_flatMap.mp hline
  exact StagedFile.isOneLine_of_mem hline

theorem diffSections_files (files : List StagedFile) :
  diffSections (files.flatMap fun f => f.header :: f.body)
    = ([], files.map StagedFile.toSection)
  := by
  induction files with
  | nil => rfl
  | cons f files ih =>
      rw [List.flatMap_cons, List.cons_append,
        diffSections_section (by rfl) fun line => StagedFile.opensSection_of_mem_body, ih,
        List.append_nil, List.map_cons, StagedFile.toSection]

theorem StagedFile.isUnreadable_toSection_iff (root : Path) (extensions : List String)
    (f : StagedFile) :
  f.toSection.IsUnreadable root (extensions.map small)
    ↔ f.IsWanted extensions ∧ ∃ h ∈ f.hunks, h.IsTooLong
  := by
  rw [DiffSection.IsUnreadable, f.path?_toSection, f.isTooLong_toSection_iff]
  apply and_congr_left'
  split
  · simp_all
  · simp_all

theorem StagedFile.shown?_toSection (root : Path) (extensions : List String) (f : StagedFile) :
  f.toSection.shown? root (extensions.map small) = f.change? root extensions
  := by
  rw [DiffSection.shown?, f.path?_toSection, f.numbered_toSection, change?]
  split
  · rfl
  · rfl

/-- A written diff is read as the files it was written from: those that are wanted and keep a
line that is seen, in order, each with the added lines that are seen and their numbers. The
only thing that is not read is a wanted file with a hunk whose first line number has too many
digits. -/
theorem stagedChanges_diffText (root : Path) (extensions : List String)
    (files : List StagedFile) :
  stagedChanges root extensions (diffText files)
    = if ∃ f ∈ files, f.IsWanted extensions ∧ ∃ h ∈ f.hunks, h.IsTooLong then
        .error .tooManyDigits
      else .ok (files.filterMap (StagedFile.change? root extensions))
  := by
  have hshown : DiffSection.shown? root (extensions.map small) ∘ StagedFile.toSection
      = StagedFile.change? root extensions := by
    funext f
    apply f.shown?_toSection
  rw [stagedChanges_eq, readSections]
  simp only [boundaryLines_diffText, diffSections_files, List.mem_map, exists_exists_and_eq_and,
    StagedFile.isUnreadable_toSection_iff, List.filterMap_map, hshown]

/-- A block that goes on from one hunk into the next, where a note ends the file, and a file
that is not wanted. -/
theorem stagedChanges_diffText_two_hunks :
  let diff := "diff --git a/a.md b/a.md\n@@ -0,0 +1 @@\n+text\ndiff --git a/src/a.ts b/src/a.ts\n"
    ++ "+++ b/src/a.ts\n@@ -1 +1,2 @@\n-old();\n+f();\n+// @ai-review-ignore-start\n"
    ++ "@@ -5,0 +7,3 @@ g\n+hidden();\n+// @ai-review-ignore-end\n+g();\n\\ No newline\n"
  ∃ files, diff = diffText files
    ∧ stagedChanges (.absolute ["repo"]) [".TS"] diff
      = .ok [⟨.absolute ["repo", "src", "a.ts"], ["f();", "g();"], [1, 9]⟩]
  := by
  intro diff
  let text : Hunk := {
    old := ⟨.ofDigit '0' (by decide), some (.ofDigit '0' (by decide))⟩
    new := ⟨.ofDigit '1' (by decide), none⟩
    heading := []
    lines := [.added "text".toList]
    heading_oneLine := by decide
    lines_oneLine := by decide }
  let first : Hunk := {
    old := ⟨.ofDigit '1' (by decide), none⟩
    new := ⟨.ofDigit '1' (by decide), some (.ofDigit '2' (by decide))⟩
    heading := []
    lines := [.removed "old();".toList, .added "f();".toList,
      .added "// @ai-review-ignore-start".toList]
    heading_oneLine := by decide
    lines_oneLine := by decide +kernel }
  let second : Hunk := {
    old := ⟨.ofDigit '5' (by decide), some (.ofDigit '0' (by decide))⟩
    new := ⟨.ofDigit '7' (by decide), some (.ofDigit '3' (by decide))⟩
    heading := " g".toList
    lines := [.added "hidden();".toList, .added "// @ai-review-ignore-end".toList,
      .added "g();".toList, .note " No newline".toList]
    heading_oneLine := by decide
    lines_oneLine := by decide +kernel }
  let notWanted : StagedFile := {
    path := "a.md"
    metadata := []
    hunks := [text]
    path_uncut := by decide
    path_trim := by decide
    path_oneLine := by decide
    metadata_oneLine := by decide
    metadata_plain := by decide }
  let wanted : StagedFile := {
    path := "src/a.ts"
    metadata := ["+++ b/src/a.ts".toList]
    hunks := [first, second]
    path_uncut := by decide
    path_trim := by decide +kernel
    path_oneLine := by decide +kernel
    metadata_oneLine := by decide +kernel
    metadata_plain := by decide +kernel }
  have hdiff : diff = diffText [notWanted, wanted] := by decide +kernel
  use [notWanted, wanted], hdiff
  rw [hdiff, stagedChanges_diffText, if_neg (by decide +kernel)]
  decide +kernel

/-- A hunk that adds no line, with a line number of too many digits, in front of one that adds a
line: the change is there and is not read. -/
theorem stagedChanges_of_long_number :
  ∃ f : StagedFile,
    f.change? (.absolute ["repo"]) [".ts"]
      = some ⟨.absolute ["repo", "a.ts"], ["x();"], [3]⟩
    ∧ stagedChanges (.absolute ["repo"]) [".ts"] (diffText [f]) = .error .tooManyDigits
  := by
  let ones : LineNumber := {
    digits := List.replicate 4301 '1'
    digits_ne_nil := by
      apply List.ne_nil_of_length_pos
      rw [List.length_replicate]
      decide
    decimal := by
      intro c hc
      rw [List.eq_of_mem_replicate hc]
      decide }
  let long : Hunk := {
    old := ⟨.ofDigit '1' (by decide), none⟩
    new := ⟨ones, some (.ofDigit '0' (by decide))⟩
    heading := []
    lines := [.removed "old".toList]
    heading_oneLine := by decide
    lines_oneLine := by decide }
  let added : Hunk := {
    old := ⟨.ofDigit '5' (by decide), some (.ofDigit '0' (by decide))⟩
    new := ⟨.ofDigit '3' (by decide), none⟩
    heading := []
    lines := [.added "x();".toList]
    heading_oneLine := by decide
    lines_oneLine := by decide }
  let f : StagedFile := {
    path := "a.ts"
    metadata := []
    hunks := [long, added]
    path_uncut := by decide
    path_trim := by decide
    path_oneLine := by decide
    metadata_oneLine := by decide
    metadata_plain := by decide }
  have hlong : long.IsTooLong := by
    have hlength : long.new.first.digits.length = 4301 := List.length_replicate
    rw [Hunk.IsTooLong, hlength]
    decide
  have hunreadable : f.toSection.IsUnreadable (.absolute ["repo"]) ([".ts"].map small) := by
    apply (f.isUnreadable_toSection_iff _ _).mpr
    exact ⟨by decide +kernel, long, List.mem_cons_self, hlong⟩
  use f
  constructor
  · decide +kernel
  · rw [stagedChanges_eq]
    apply if_pos
    rw [boundaryLines_diffText, diffSections_files]
    exact ⟨f.toSection, List.mem_cons_self, hunreadable⟩

end SourceAudit
