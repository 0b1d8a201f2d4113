import SourceAudit.Review.Prompt
import SourceAudit.Proofs.Review.StagedDiff
import SourceAudit.Proofs.Text.Numbers
import SourceAudit.Proofs.Text.Pieces
import Mathlib.Data.List.Basic

/-!
# What prompts show

A prompt about files shows each of them under its path, line by line with numbers in front. As
long as no path and no line goes over a line feed, the files are found again in the prompt,
whatever their lines look like: an empty line opens the part of a file, its path follows, and a
numbered line is never empty. The staged changes of a diff can be asked about, unless a line has
a number of too many digits.
-/

namespace SourceAudit

open Text

/-! ### Numbered lines -/

theorem toList_numberedLine (number : Int) (line : String) :
  (numberedLine number line).toList = (intText number).toList ++ ':' :: ' ' :: line.toList
  := by
  rw [numberedLine, String.toList_append, String.toList_append, List.append_assoc]
  rfl

/-- A numbered line tells its number and what stands in it. -/
theorem numberedLine_injective {number number' : Int} {line line' : String}
    (h : numberedLine number line = numberedLine number' line') :
  number = number' ∧ line = line'
  := by
  have hcolon : ∀ n : Int, ':' ∉ (intText n).toList :=
    fun n => not_mem_intText n (by decide) (by decide)
  have hlist := congrArg String.toList h
  rw [toList_numberedLine, toList_numberedLine] at hlist
  -- the number is the first piece between colons
  have hpieces := congrArg (pieces ':') hlist
  rw [pieces_append_cons _ (hcolon number), pieces_append_cons _ (hcolon number')] at hpieces
  have hnumber := (List.cons.inj hpieces).1
  rw [hnumber] at hlist
  have hrest := List.append_cancel_left hlist
  simp only [List.cons.injEq, true_and] at hrest
  exact ⟨intText_injective (String.toList_inj.mp hnumber), String.toList_inj.mp hrest⟩

/-! ### The part of a file -/

namespace ShownFile

/-- No text of the file goes over a line feed. -/
def IsUnbroken (f : ShownFile) : Prop :=
  '\n' ∉ f.path.toList ∧ ∀ line ∈ f.lines, '\n' ∉ line.toList

/-- What stands before a path. -/
def headerOpening : List Char := "=== File: ".toList

/-- What stands after a path. -/
def headerClosing : List Char := " ===".toList

instance : DecidablePred IsUnbroken :=
  fun f => inferInstanceAs (Decidable ('\n' ∉ f.path.toList ∧ ∀ line ∈ f.lines, '\n' ∉ line.toList))

/-- The line above the lines of a file. -/
def header (f : ShownFile) : List Char :=
  headerOpening ++ (f.path.toList ++ headerClosing)

/-- The lines of a file with their numbers. -/
def numbered (f : ShownFile) : List (List Char) :=
  (f.numbers.zip f.lines).map fun entry => (numberedLine entry.1 entry.2).toList

/-- What stands below the line with the path: an empty line, when the file has no lines. -/
def body (f : ShownFile) : List (List Char) :=
  if f.numbered = [] then [[]] else f.numbered

/-- The lines of a prompt that are about the file. -/
def part (f : ShownFile) : List (List Char) :=
  [] :: f.header :: f.body

theorem body_ne_nil (f : ShownFile) :
  f.body ≠ []
  := by
  rw [body]
  split
  · exact List.cons_ne_nil _ _
  · assumption

theorem joined_body (f : ShownFile) :
  joined ['\n'] f.body = joined ['\n'] f.numbered
  := by
  rw [body]
  split
  · rename_i h
    rw [h]
    rfl
  · rfl

/-- Every line has a number, and the numbers can be written out. -/
def IsWritable (f : ShownFile) : Prop :=
  f.numbers.length = f.lines.length ∧ ∀ n ∈ f.numbers, isWritableNumber n = true

instance : DecidablePred IsWritable :=
  fun f => inferInstanceAs
    (Decidable (f.numbers.length = f.lines.length ∧ ∀ n ∈ f.numbers, isWritableNumber n = true))

theorem joined_part (f : ShownFile) :
  joined ['\n'] f.part
    = '\n' :: (headerOpening ++ (f.path.toList ++ (headerClosing ++ '\n' :: joined ['\n'] f.numbered)))
  := by
  have hheader : joined ['\n'] (f.header :: f.body) = f.header ++ ['\n'] ++ joined ['\n'] f.body :=
    joined_append ['\n'] (List.cons_ne_nil f.header []) f.body_ne_nil
  rw [part, joined, hheader, joined_body, header]
  simp only [List.nil_append, List.append_assoc, List.cons_append]

theorem prompt?_eq (f : ShownFile) :
  f.prompt? = if f.IsWritable then some (String.ofList (joined ['\n'] f.part)) else none
  := by
  have hgood : (f.numbers.length = f.lines.length && f.numbers.all isWritableNumber) = true
      ↔ f.IsWritable := by
    rw [Bool.and_eq_true, decide_eq_true_iff, List.all_eq_true, IsWritable]
  have hlines : (List.zipWith numberedLine f.numbers f.lines).map String.toList = f.numbered := by
    rw [← List.map_uncurry_zip_eq_zipWith, List.map_map]
    rfl
  have hopening : "\n=== File: ".toList = '\n' :: headerOpening := by decide +kernel
  have hclosing : " ===\n".toList = headerClosing ++ ['\n'] := by decide +kernel
  have hfeed : "\n".toList = ['\n'] := by decide +kernel
  rw [prompt?, numberedLines]
  by_cases h : f.IsWritable
  · rw [if_pos (hgood.mpr h), if_pos h, Option.map_some, Option.some.injEq, ← String.toList_inj,
      String.toList_ofList, joined_part, String.toList_append, String.toList_append,
      String.toList_append, toList_joinWith, hopening, hclosing, hfeed, hlines]
    simp only [List.append_assoc, List.cons_append, List.nil_append]
  · rw [if_neg (fun hbool => h (hgood.mp hbool)), if_neg h]
    rfl

/-! ### Parts in a row -/

/-- The lines stand at the end, or an empty line opens a part there. -/
def IsBreak (rest : List (List Char)) : Prop :=
  rest = [] ∨ ∃ later, rest = [] :: later

theorem isBreak_flatMap_part (files : List ShownFile) :
  IsBreak (files.flatMap part)
  := by
  cases files with
  | nil => exact Or.inl rfl
  | cons f files => exact Or.inr ⟨_, rfl⟩

theorem ne_nil_of_mem_numbered {f : ShownFile} {line : List Char} (h : line ∈ f.numbered) :
  line ≠ []
  := by
  obtain ⟨entry, -, rfl⟩ := List.mem_map.mp h
  rw [toList_numberedLine]
  exact List.append_ne_nil_of_right_ne_nil _ (List.cons_ne_nil _ _)

/-- Up to the next empty line there are the lines of the file. -/
theorem takeWhile_numbered_append (f : ShownFile) {rest : List (List Char)} (h : IsBreak rest) :
  (f.numbered ++ rest).takeWhile (fun line => !line.isEmpty) = f.numbered
  := by
  have hrest : rest.takeWhile (fun line => !line.isEmpty) = [] := by
    rcases h with rfl | ⟨later, rfl⟩
    · rfl
    · rfl
  rw [List.takeWhile_append_of_pos, hrest, List.append_nil]
  intro line hline
  simpa using ne_nil_of_mem_numbered hline

/-- What stands below the path of a file ends where an empty line opens the next part. -/
theorem body_append_inj {f f' : ShownFile} {rest rest' : List (List Char)} (hrest : IsBreak rest)
    (hrest' : IsBreak rest') (h : f.body ++ rest = f'.body ++ rest') :
  f.numbered = f'.numbered ∧ rest = rest'
  := by
  have htake : ∀ (f : ShownFile) {rest : List (List Char)}, IsBreak rest →
      (f.body ++ rest).takeWhile (fun line => !line.isEmpty) = f.numbered := by
    intro f rest hrest
    rw [body]
    split
    · rename_i hnone
      rw [hnone]
      rfl
    · exact f.takeWhile_numbered_append hrest
  have hnumbered : f.numbered = f'.numbered := by
    rw [← htake f hrest, h, htake f' hrest']
  have hbody : f.body = f'.body := by rw [body, body, hnumbered]
  rw [hbody] at h
  exact ⟨hnumbered, List.append_cancel_left h⟩

theorem numbered_inj {f f' : ShownFile} (hf : f.IsWritable) (hf' : f'.IsWritable)
    (h : f.numbered = f'.numbered) :
  f.numbers = f'.numbers ∧ f.lines = f'.lines
  := by
  have hinjective : Function.Injective
      fun entry : Int × String => (numberedLine entry.1 entry.2).toList := by
    intro entry entry' hsame
    obtain ⟨hnumber, hline⟩ := numberedLine_injective (String.toList_inj.mp hsame)
    exact Prod.ext hnumber hline
  have hzip := congrArg List.unzip (List.map_injective_iff.mpr hinjective h)
  rw [List.unzip_zip hf.1, List.unzip_zip hf'.1] at hzip
  exact Prod.mk.inj hzip

theorem path_inj {f f' : ShownFile} (h : f.header = f'.header) :
  f.path = f'.path
  := by
  rw [header, header, List.append_right_inj, List.append_left_inj] at h
  exact String.toList_inj.mp h

/-- Files are told from the lines of their parts. -/
theorem flatMap_part_inj {files files' : List ShownFile} (hfiles : ∀ f ∈ files, f.IsWritable)
    (hfiles' : ∀ f ∈ files', f.IsWritable) (h : files.flatMap part = files'.flatMap part) :
  files = files'
  := by
  induction files generalizing files' with
  | nil =>
      cases files' with
      | nil => rfl
      | cons f' files' => cases h
  | cons f files ih =>
      cases files' with
      | nil => cases h
      | cons f' files' =>
          obtain ⟨hf, hfiles⟩ := List.forall_mem_cons.mp hfiles
          obtain ⟨hf', hfiles'⟩ := List.forall_mem_cons.mp hfiles'
          have hlines : [] :: f.header :: (f.body ++ files.flatMap part)
              = [] :: f'.header :: (f'.body ++ files'.flatMap part) := h
          simp only [List.cons.injEq, true_and] at hlines
          obtain ⟨hheader, hbelow⟩ := hlines
          obtain ⟨hnumbered, hrest⟩ :=
            body_append_inj (isBreak_flatMap_part files) (isBreak_flatMap_part files') hbelow
          obtain ⟨hnumbers, hlines⟩ := numbered_inj hf hf' hnumbered
          have hpath := path_inj hheader
          rw [ih hfiles hfiles' hrest]
          congr 1
          cases f
          cases f'
          cases hpath
          cases hnumbers
          cases hlines
          rfl

end ShownFile

/-! ### Prompts -/

/-- The first line of a prompt about files. -/
def promptHeading : List Char := "Review the following changes with line numbers:".toList

/-- The lines of a prompt about files. -/
def promptLines (files : List ShownFile) : List (List Char) :=
  promptHeading :: if files = [] then [[]] else files.flatMap ShownFile.part

theorem promptLines_ne_nil (files : List ShownFile) :
  promptLines files ≠ []
  := List.cons_ne_nil _ _

/-- When each step leads to a value or fails, so do the steps in a row. -/
theorem mapM_eq_of_good {α β : Type} {f : α → Option β} {g : α → β} {good : α → Prop}
    [DecidablePred good] (h : ∀ a, f a = if good a then some (g a) else none) (as : List α) :
  as.mapM f = if ∀ a ∈ as, good a then some (as.map g) else none
  := by
  induction as with
  | nil => simp
  | cons a as ih =>
      rw [List.mapM_cons, h, ih]
      by_cases ha : good a
      · by_cases has : ∀ a ∈ as, good a
        · rw [if_pos ha, if_pos has, if_pos (List.forall_mem_cons.mpr ⟨ha, has⟩)]
          rfl
        · rw [if_pos ha, if_neg has, if_neg fun hall => has (List.forall_mem_cons.mp hall).2]
          rfl
      · rw [if_neg ha, if_neg fun hall => ha (List.forall_mem_cons.mp hall).1]
        rfl

/-- Files can be asked about when each line of them has a number that can be written out. -/
theorem filesPrompt?_eq (files : List ShownFile) :
  filesPrompt? files = if ∀ f ∈ files, f.IsWritable
    then some (String.ofList (joined ['\n'] (promptLines files))) else none
  := by
  have hheading : "Review the following changes with line numbers:\n".toList
      = promptHeading ++ ['\n'] := by decide +kernel
  have hfeed : "\n".toList = ['\n'] := by decide +kernel
  have hgroups : ∀ group ∈ files.map ShownFile.part, group ≠ [] := by
    intro group hgroup
    obtain ⟨f, -, rfl⟩ := List.mem_map.mp hgroup
    exact List.cons_ne_nil _ _
  have hparts : (files.map fun f => String.ofList (joined ['\n'] f.part)).map String.toList
      = (files.map ShownFile.part).map (joined ['\n']) := by
    rw [List.map_map, List.map_map]
    apply List.map_congr_left
    intro f _
    exact String.toList_ofList
  rw [filesPrompt?, mapM_eq_of_good ShownFile.prompt?_eq]
  split
  · rw [Option.map_some, Option.some.injEq, ← String.toList_inj, String.toList_ofList,
      String.toList_append, toList_joinWith, hheading, hfeed, hparts,
      joined_map_joined _ hgroups, ← List.flatMap_def, promptLines]
    split
    · rename_i hnone
      rw [hnone]
      exact List.append_nil _
    · rename_i hsome
      have hlines : files.flatMap ShownFile.part ≠ [] := by
        obtain ⟨f, later, rfl⟩ := List.exists_cons_of_ne_nil hsome
        exact List.cons_ne_nil _ _
      exact (joined_append ['\n'] (List.cons_ne_nil promptHeading []) hlines).symm
  · rfl

theorem ShownFile.IsUnbroken.not_mem_part {f : ShownFile} (h : f.IsUnbroken) :
  ∀ line ∈ f.part, '\n' ∉ line
  := by
  have hopening : '\n' ∉ headerOpening ∧ '\n' ∉ headerClosing := by decide +kernel
  have hnumbered : ∀ line ∈ f.numbered, '\n' ∉ line := by
    intro line hline
    obtain ⟨entry, hentry, rfl⟩ := List.mem_map.mp hline
    have hnumber := not_mem_intText entry.1 (show '\n'.isDigit = false by decide) (by decide)
    have htext := h.2 entry.2 (List.of_mem_zip hentry).2
    rw [toList_numberedLine]
    simp [hnumber, htext]
  rw [part, List.forall_mem_cons, List.forall_mem_cons]
  refine ⟨List.not_mem_nil, ?_, ?_⟩
  · rw [header]
    simp [hopening, h.1]
  · rw [body]
    split
    · exact List.forall_mem_singleton.mpr List.not_mem_nil
    · exact hnumbered

theorem not_mem_promptLines {files : List ShownFile} (h : ∀ f ∈ files, f.IsUnbroken) :
  ∀ line ∈ promptLines files, '\n' ∉ line
  := by
  have hheading : '\n' ∉ promptHeading := by decide +kernel
  rw [promptLines, List.forall_mem_cons]
  use hheading
  split
  · exact List.forall_mem_singleton.mpr List.not_mem_nil
  · intro line hline
    obtain ⟨f, hf, hline⟩ := List.mem_flatMap.mp hline
    exact (h f hf).not_mem_part line hline

theorem promptLines_inj {files files' : List ShownFile} (h : promptLines files = promptLines files') :
  files.flatMap ShownFile.part = files'.flatMap ShownFile.part
  := by
  have hnone : ∀ files : List ShownFile, files.flatMap ShownFile.part ≠ [[]] := by
    intro files
    cases files with
    | nil => exact nofun
    | cons f files => exact nofun
  rw [promptLines, promptLines, List.cons.injEq] at h
  obtain ⟨-, h⟩ := h
  split at h
  · split at h
    · rename_i hfiles hfiles'
      rw [hfiles, hfiles']
    · exact absurd h.symm (hnone files')
  · split at h
    · exact absurd h (hnone files)
    · exact h

/-- Files without line feeds in their texts are told from a prompt about them. -/
theorem files_of_prompt {files files' : List ShownFile} {prompt : String}
    (hfiles : ∀ f ∈ files, f.IsUnbroken) (hfiles' : ∀ f ∈ files', f.IsUnbroken)
    (h : filesPrompt? files = some prompt) (h' : filesPrompt? files' = some prompt) :
  files = files'
  := by
  rw [filesPrompt?_eq, Option.ite_none_right_eq_some, Option.some.injEq] at h h'
  obtain ⟨hwritable, htext⟩ := h
  obtain ⟨hwritable', htext'⟩ := h'
  have hsame : joined ['\n'] (promptLines files) = joined ['\n'] (promptLines files') := by
    rw [← String.ofList_inj, htext, htext']
  have hlines : promptLines files = promptLines files' := by
    rw [← pieces_joined (promptLines_ne_nil files) (not_mem_promptLines hfiles), hsame,
      pieces_joined (promptLines_ne_nil files') (not_mem_promptLines hfiles')]
  exact ShownFile.flatMap_part_inj hwritable hwritable' (promptLines_inj hlines)

/-! ### Staged changes -/

/-- A change that a diff shows has lines, and a number for each of them. -/
theorem lines_of_stagedChanges {root : Path} {extensions : List String} {diff : String}
    {changes : List Change} (h : stagedChanges root extensions diff = .ok changes) :
  ∀ c ∈ changes, c.lines ≠ [] ∧ c.numbers.length = c.lines.length
  := by
  intro c hc
  rw [stagedChanges_eq, readSections] at h
  split at h
  · cases h
  · rw [← Except.ok.inj h] at hc
    obtain ⟨section', -, hshown⟩ := List.mem_filterMap.mp hc
    obtain ⟨path, -, hentries⟩ := Option.bind_eq_some_iff.mp hshown
    rw [Change.ofEntries?, Option.ite_none_left_eq_some, List.isEmpty_iff] at hentries
    obtain ⟨hne, hchange⟩ := hentries
    obtain rfl := Option.some.inj hchange
    simp [hne]

/-- The changes that a diff shows can be asked about, unless a line has a number of too many
digits. -/
theorem changesPrompt?_eq_none_iff {changes : List Change}
    (h : ∀ c ∈ changes, c.lines ≠ [] ∧ c.numbers.length = c.lines.length) (root : Option Path) :
  changesPrompt? root changes = none ↔ ∃ c ∈ changes, ∃ n ∈ c.numbers, 10 ^ maxDigits ≤ n
  := by
  have hwritable : ∀ c ∈ changes,
      (c.shown root).IsWritable ↔ ∀ n ∈ c.numbers, n < 10 ^ maxDigits := by
    intro c hc
    rw [ShownFile.IsWritable, Change.shown, List.length_map, and_iff_right (h c hc).2,
      List.forall_mem_map]
    apply forall₂_congr
    intro n _
    exact isWritableNumber_natCast_iff n
  rw [changesPrompt?, filesPrompt?_eq, ite_eq_right_iff, List.forall_mem_map]
  constructor
  · intro hnone
    by_contra hall
    have hgood := hnone fun c hc => (hwritable c hc).mpr fun n hn =>
      Nat.lt_of_not_le fun hlong => hall ⟨c, hc, n, hn, hlong⟩
    cases hgood
  · rintro ⟨c, hc, n, hn, hlong⟩ hall
    exact absurd ((hwritable c hc).mp (hall c hc) n hn) (Nat.not_lt.mpr hlong)

/-! ### Numbers of too many digits -/

/-- A file to which two lines are added, from a line on. -/
def twoLines (first : LineNumber) : StagedFile where
  path := "a.ts"
  metadata := []
  hunks := [{
    old := ⟨.ofDigit '0' (by decide), some (.ofDigit '0' (by decide))⟩
    new := ⟨first, some (.ofDigit '2' (by decide))⟩
    heading := []
    lines := [.added "x();".toList, .added "y();".toList]
    heading_oneLine := by decide
    lines_oneLine := by decide }]
  path_uncut := by decide
  path_trim := by decide
  path_oneLine := by decide
  metadata_oneLine := by decide
  metadata_plain := by decide

theorem change?_twoLines (first : LineNumber) :
  (twoLines first).change? (.absolute ["repo"]) [".ts"]
    = some ⟨.absolute ["repo", "a.ts"], ["x();", "y();"], [first.value, first.value + 1]⟩
  := by
  have hwanted : (twoLines first).IsWanted [".ts"] := by
    have hsuffix : small (Path.ofText "a.ts").suffix ∈ [".ts"].map small := by decide +kernel
    exact hsuffix
  have hunmarked : IsUnmarked "x();".toList ∧ IsUnmarked "y();".toList := by
    rw [IsUnmarked, IsUnmarked]
    decide +kernel
  have hadded : (twoLines first).hunks.flatMap Hunk.added
      = [(first.value, "x();".toList), (first.value + 1, "y();".toList)] := rfl
  rw [StagedFile.change?, if_pos hwanted, hadded, shown_cons_of_isUnmarked hunmarked.1,
    if_neg not_inBlock_nil, shown_cons_of_isUnmarked hunmarked.2, if_neg not_inBlock_nil]
  have hpath : Path.absolute ["repo"] ++ Path.ofText (twoLines first).path
      = .absolute ["repo", "a.ts"] := by
    have hname : Path.absolute ["repo"] ++ Path.ofText "a.ts" = .absolute ["repo", "a.ts"] := by
      decide +kernel
    exact hname
  rw [hpath]
  simp only [Change.ofEntries?, shown, List.isEmpty_cons, List.map_cons, List.map_nil,
    String.ofList_toList]
  rfl

theorem decimalFrom_replicate_nine (acc count : Nat) :
  decimalFrom acc (List.replicate count '9') = some ((acc + 1) * 10 ^ count - 1)
  := by
  induction count generalizing acc with
  | zero => simp [decimalFrom]
  | succ count ih =>
      have hnine : decimalValue? '9' = some 9 := by decide
      rw [List.replicate_succ, decimalFrom, hnine]
      dsimp only
      have hacc : acc * 10 + 9 + 1 = (acc + 1) * 10 := by omega
      rw [ih, hacc, Nat.mul_assoc, Nat.pow_succ']

/-- The greatest number of so many digits. -/
def LineNumber.nines (count : Nat) (h : 0 < count) : LineNumber where
  digits := List.replicate count '9'
  digits_ne_nil := by
    apply List.ne_nil_of_length_pos
    rw [List.length_replicate]
    exact h
  decimal := by
    intro c hc
    rw [List.eq_of_mem_replicate hc]
    decide

theorem LineNumber.value_nines {count : Nat} (h : 0 < count) :
  (nines count h).value + 1 = 10 ^ count
  := by
  have hpos : 0 < 10 ^ count := Nat.pow_pos (by decide)
  have hvalue := (nines count h).decimalNumber?_digits
  have hne : ¬ (nines count h).digits.isEmpty = true := by
    simpa using (nines count h).digits_ne_nil
  rw [decimalNumber?, if_neg hne, nines, decimalFrom_replicate_nine, Nat.zero_add, Nat.one_mul]
    at hvalue
  rw [nines, ← Option.some.inj hvalue, Nat.sub_add_cancel hpos]

theorem stagedChanges_twoLines {first : LineNumber} (h : first.digits.length ≤ maxDigits) :
  stagedChanges (.absolute ["repo"]) [".ts"] (diffText [twoLines first])
    = .ok [⟨.absolute ["repo", "a.ts"], ["x();", "y();"], [first.value, first.value + 1]⟩]
  := by
  have hreadable : ¬ ∃ s ∈ [(twoLines first).toSection],
      s.IsUnreadable (.absolute ["repo"]) ([".ts"].map small) := by
    rintro ⟨s, hs, hunreadable⟩
    rw [List.mem_singleton.mp hs, StagedFile.isUnreadable_toSection_iff] at hunreadable
    obtain ⟨-, hunk, hhunk, hlong⟩ := hunreadable
    rw [List.mem_singleton.mp hhunk] at hlong
    exact absurd h (Nat.not_le.mpr hlong)
  rw [stagedChanges_eq, boundaryLines_diffText, diffSections_files, readSections,
    List.map_singleton, if_neg hreadable, List.filterMap_cons, StagedFile.shown?_toSection,
    change?_twoLines]
  rfl

/-! ### Prompts about a diff -/

/-- What a prompt shows can be asked and found again. Each change that a diff shows has lines,
with a number for each, so that it can be asked about, unless a number has too many digits. And
files with no line feed in their texts are told from the prompt about them. -/
theorem prompts_of_files (root : Path) (extensions : List String) (diff : String) :
  (∀ changes, stagedChanges root extensions diff = .ok changes →
    (∀ c ∈ changes, c.lines ≠ [] ∧ c.numbers.length = c.lines.length)
    ∧ ∀ shownRoot, changesPrompt? shownRoot changes = none
      ↔ ∃ c ∈ changes, ∃ n ∈ c.numbers, 10 ^ maxDigits ≤ n)
  ∧ ∀ (files files' : List ShownFile) (prompt : String),
    (∀ f ∈ files, f.IsUnbroken) → (∀ f ∈ files', f.IsUnbroken) →
      filesPrompt? files = some prompt → filesPrompt? files' = some prompt → files = files'
  := by
  constructor
  · intro changes h
    have hlines := lines_of_stagedChanges h
    exact ⟨hlines, changesPrompt?_eq_none_iff hlines⟩
  · intro files files' prompt hfiles hfiles' h h'
    exact files_of_prompt hfiles hfiles' h h'

/-- Two staged files, and lines that look like parts of a prompt. -/
theorem prompts_of_files_lookalikes :
  let diff := "diff --git a/a.ts b/a.ts\n@@ -0,0 +7,3 @@\n+7: code\n+\n+=== File: b.ts ===\n"
    ++ "diff --git a/b.ts b/b.ts\n@@ -0,0 +1 @@\n+x\n"
  let changes : List Change := [
    ⟨.absolute ["repo", "a.ts"], ["7: code", "", "=== File: b.ts ==="], [7, 8, 9]⟩,
    ⟨.absolute ["repo", "b.ts"], ["x"], [1]⟩]
  let files := changes.map (Change.shown none)
  stagedChanges (.absolute ["repo"]) [".ts"] diff = .ok changes
    ∧ ∃ prompt, filesPrompt? files = some prompt
      ∧ ∀ files', (∀ f ∈ files', f.IsUnbroken) → filesPrompt? files' = some prompt → files' = files
  := by
  intro diff changes files
  have hdiff : stagedChanges (.absolute ["repo"]) [".ts"] diff = .ok changes := by decide +kernel
  obtain ⟨hstaged, hdecoded⟩ := prompts_of_files (.absolute ["repo"]) [".ts"] diff
  obtain ⟨-, hasked⟩ := hstaged changes hdiff
  obtain ⟨prompt, hprompt⟩ : ∃ prompt, filesPrompt? files = some prompt := by
    apply Option.ne_none_iff_exists'.mp
    intro hnone
    have hlong := (hasked none).mp hnone
    revert hlong
    decide +kernel
  have hunbroken : ∀ f ∈ files, f.IsUnbroken := by decide +kernel
  use hdiff, prompt, hprompt
  intro files' hfiles' hprompt'
  exact hdecoded files' files prompt hfiles' hunbroken hprompt' hprompt

/-- The first of two lines has the greatest number that can be written out: the changes are
read, and cannot be asked about. -/
theorem changesPrompt?_of_greatest_number :
  let first : LineNumber := .nines 4300 (by decide)
  ∃ changes, stagedChanges (.absolute ["repo"]) [".ts"] (diffText [twoLines first]) = .ok changes
    ∧ changes.length = 1 ∧ changesPrompt? (some (.absolute ["repo"])) changes = none
  := by
  intro first
  have hlength : first.digits.length = maxDigits := List.length_replicate
  have hchanges := stagedChanges_twoLines hlength.le
  refine ⟨_, hchanges, rfl, ?_⟩
  rw [changesPrompt?_eq_none_iff (lines_of_stagedChanges hchanges)]
  refine ⟨_, List.mem_singleton_self _, first.value + 1, ?_, (LineNumber.value_nines _).ge⟩
  exact List.mem_cons_of_mem _ (List.mem_singleton_self _)

end SourceAudit
