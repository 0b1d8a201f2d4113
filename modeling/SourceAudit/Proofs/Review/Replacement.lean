import SourceAudit.Proofs.Review.Sections
import SourceAudit.Proofs.Text.Boundary

/-!
# Replacing the text of an added line

As long as the text of an added line holds no boundary and no marker, it reaches the result
of reading the diff in one place at most: the text of the line itself. A line in a block of
hidden lines does not reach it at all. Boundaries that are no line feeds are what makes the
difference: for the reader of the diff they end a line, though for its writer they do not.
-/

namespace SourceAudit

open Text

/-- The diff with an added line of some text between other lines. -/
def withAdded (before after : List (List Char)) (text : List Char) : String :=
  String.ofList (joined ['\n'] (before ++ ('+' :: text) :: after))

/-- The text of the line holds no marker, and no boundary except for a carriage return before
the line feed. -/
structure IsPlain (text : List Char) : Prop where
  oneLine : IsOneLine (withoutReturn text)
  not_hiding : ¬ hidingMarker <:+: text
  not_showing : ¬ showingMarker <:+: text

/-- After these lines of a diff one is in a block of hidden lines of a file. -/
def EndsInBlock (before : List (List Char)) : Prop :=
  ∃ earlier header body, boundaryLines (fedLines before) = earlier ++ header :: body
    ∧ opensSection header = true ∧ (∀ line ∈ body, opensSection line = false)
    ∧ InBlock ((numbered none (body.map .ofText)).map Prod.snd)

/-! ### One line -/

theorem IsPlain.isUnmarked {text : List Char} (h : IsPlain text) :
  IsUnmarked (withoutReturn text)
  := by
  obtain ⟨t, ht, -⟩ := exists_withoutReturn_append text
  have hinfix : withoutReturn text <:+: text := by
    conv_rhs => rw [ht]
    exact (List.prefix_append _ _).isInfix
  constructor
  · intro hopen
    exact h.not_hiding (hopen.trans hinfix)
  · intro hclose
    exact h.not_showing (hclose.1.trans hinfix)

/-- The lines of the diff other than the added one do not depend on its text. -/
theorem boundaryLines_withAdded (before after : List (List Char)) {text : List Char}
    (h : IsPlain text) :
  boundaryLines (withAdded before after text).toList
    = boundaryLines (fedLines before)
      ++ ('+' :: withoutReturn text) :: boundaryLines (joined ['\n'] after)
  := by
  obtain ⟨t, htext, ht⟩ := exists_withoutReturn_append text
  have hline : '+' :: text = ('+' :: withoutReturn text) ++ t := congrArg _ htext
  have hone : IsOneLine ('+' :: withoutReturn text) :=
    (isOneLine_cons _ _).mpr ⟨by decide, h.oneLine⟩
  rw [withAdded, String.toList_ofList, joined_append_cons, boundaryLines_fedLines_append, hline,
    boundaryLines_joined_cons hone (List.cons_ne_nil _ _) ht]

/-- The number of an added line below these lines of a section, when it is seen: a hunk has
begun, and one is not in a block. -/
def numberBelow? (lines : List DiffLine) : Option Nat :=
  if InBlock ((numbered none lines).map Prod.snd) then none else lines.foldl nextNumber none

/-- A line without markers is seen under its number or not at all, and whichever text it has, the
lines around it are seen alike. -/
theorem exists_shown_numbered (lines lines' : List DiffLine) :
  ∃ above below, ∀ text, IsUnmarked text →
    shown [] (numbered none (lines ++ .content text :: lines'))
      = above ++ ((numberBelow? lines).toList.map (·, text) ++ below)
  := by
  use shown [] (numbered none lines), shown ((numbered none lines).map Prod.snd)
    (numbered ((lines.foldl nextNumber none).map (· + 1)) lines')
  intro text htext
  rw [numbered_append, shown_append, List.nil_append, numbered, nextNumber, numberBelow?]
  cases lines.foldl nextNumber none with
  | none => simp
  | some n =>
      rw [Option.toList_some, List.map_singleton, List.singleton_append,
        shown_cons_of_isUnmarked htext]
      split
      · rfl
      · rfl

/-! ### One section -/

theorem Change.ofEntries?_append_cons (path : Path) (above below : List (Nat × List Char))
    (n : Nat) (text : List Char) :
  ofEntries? path (above ++ ((some n).toList.map (·, text) ++ below))
    = some ⟨path,
      (above.map fun (_, t) => String.ofList t) ++ String.ofList text
        :: below.map fun (_, t) => String.ofList t,
      above.map Prod.fst ++ n :: below.map Prod.fst⟩
  := by
  simp [ofEntries?]

/-- A section with an added line of some text between its other lines. -/
def sectionWithAdded (header : List Char) (body front : List (List Char)) (text : List Char) :
    DiffSection :=
  ⟨header, body ++ ('+' :: text) :: front⟩

section

variable (root : Path) (suffixes : List String) (header : List Char)
  (body front : List (List Char))

theorem isUnreadable_sectionWithAdded_iff (text : List Char) :
  (sectionWithAdded header body front text).IsUnreadable root suffixes
    ↔ (DiffSection.mk header (body ++ front)).IsUnreadable root suffixes
  := by
  have hadded : ¬ (DiffLine.ofText ('+' :: text)).IsTooLong := not_false
  apply and_congr Iff.rfl
  simp only [DiffSection.lines, sectionWithAdded, List.mem_map, exists_exists_and_eq_and]
  simp only [List.mem_append, List.mem_cons, or_and_right, exists_or, exists_eq_left, hadded,
    false_or]

/-- The section shows the same whichever text without markers the line has, or the text is at
one place of what the section shows. The line has a number then. -/
theorem shown?_sectionWithAdded_cases :
  (∃ change, ∀ text, IsUnmarked text →
    (sectionWithAdded header body front text).shown? root suffixes = change)
  ∨ numberBelow? (body.map .ofText) ≠ none ∧ ∃ path above below numbers,
    ∀ text, IsUnmarked text → (sectionWithAdded header body front text).shown? root suffixes
      = some ⟨path, above ++ String.ofList text :: below, numbers⟩
  := by
  obtain ⟨above, below, h⟩ := exists_shown_numbered (body.map .ofText) (front.map .ofText)
  have hshown : ∀ text, IsUnmarked text →
      (sectionWithAdded header body front text).shown? root suffixes
        = ((DiffSection.mk header (body ++ front)).path? root suffixes).bind fun path =>
          Change.ofEntries? path
            (above ++ ((numberBelow? (body.map .ofText)).toList.map (·, text) ++ below)) := by
    intro text htext
    have hlines : (sectionWithAdded header body front text).lines
        = body.map .ofText ++ .content text :: front.map .ofText := by
      rw [DiffSection.lines, sectionWithAdded, List.map_append, List.map_cons]
      rfl
    rw [DiffSection.shown?, hlines, h text htext]
    rfl
  cases hpath : (DiffSection.mk header (body ++ front)).path? root suffixes with
  | none =>
      left
      use none
      intro text htext
      rw [hshown text htext, hpath, Option.bind_none]
  | some path =>
      cases hnumber : numberBelow? (body.map .ofText) with
      | none =>
          left
          use Change.ofEntries? path (above ++ below)
          intro text htext
          rw [hshown text htext, hpath, hnumber]
          rfl
      | some n =>
          right
          use Option.some_ne_none n, path, above.map fun (_, t) => String.ofList t,
            below.map fun (_, t) => String.ofList t, above.map Prod.fst ++ n :: below.map Prod.fst
          intro text htext
          rw [hshown text htext, hpath, hnumber, Option.bind_some, Change.ofEntries?_append_cons]

/-- Sections among which one has such a line are read the same whichever text the line has, or
the text is at one place of what they show. -/
theorem readSections_sectionWithAdded_cases (earlier later : List DiffSection) :
  let read text := readSections root suffixes
    (earlier ++ sectionWithAdded header body front text :: later)
  (∃ result, ∀ text, IsUnmarked text → read text = result)
  ∨ numberBelow? (body.map .ofText) ≠ none ∧ ∃ earlier path above below numbers later,
    ∀ text, IsUnmarked text →
      read text = .ok (earlier ++ ⟨path, above ++ String.ofList text :: below, numbers⟩ :: later)
  := by
  intro read
  have hread : ∀ text, read text = if (∃ s ∈ earlier ++ later, s.IsUnreadable root suffixes)
        ∨ (DiffSection.mk header (body ++ front)).IsUnreadable root suffixes then
        .error .tooManyDigits
      else .ok (earlier.filterMap (DiffSection.shown? root suffixes)
        ++ (((sectionWithAdded header body front text).shown? root suffixes).toList
        ++ later.filterMap (DiffSection.shown? root suffixes))) := by
    intro text
    apply (readSections_append_cons _ _ _ _ _).trans
    apply if_congr _ rfl rfl
    rw [isUnreadable_sectionWithAdded_iff]
  by_cases hbad : (∃ s ∈ earlier ++ later, s.IsUnreadable root suffixes)
      ∨ (DiffSection.mk header (body ++ front)).IsUnreadable root suffixes
  · left
    use .error .tooManyDigits
    intro text htext
    rw [hread, if_pos hbad]
  · simp only [hread, if_neg hbad]
    rcases shown?_sectionWithAdded_cases root suffixes header body front with
      ⟨change, hshown⟩ | ⟨hnumber, path, above, below, numbers, hshown⟩
    · left
      use .ok (earlier.filterMap (DiffSection.shown? root suffixes)
        ++ (change.toList ++ later.filterMap (DiffSection.shown? root suffixes)))
      intro text htext
      rw [hshown text htext]
    · right
      use hnumber, earlier.filterMap (DiffSection.shown? root suffixes), path, above, below,
        numbers, later.filterMap (DiffSection.shown? root suffixes)
      intro text htext
      rw [hshown text htext]
      rfl

end

/-! ### One diff -/

/-- Before the first section of a diff an added line does not count. -/
theorem sections_withAdded_of_front {before : List (List Char)}
    (h : ∀ line ∈ boundaryLines (fedLines before), opensSection line = false)
    (after : List (List Char)) {text : List Char} (htext : IsPlain text) :
  (diffSections (boundaryLines (withAdded before after text).toList)).2
    = (diffSections (boundaryLines (joined ['\n'] after))).2
  := by
  rw [boundaryLines_withAdded before after htext, diffSections_append_of_not_opens h,
    diffSections_cons_of_not_opens (by rfl)]

/-- An added line belongs to the last section that opens before it. -/
theorem sections_withAdded_of_section {before earlier body : List (List Char)}
    {header : List Char} (h : boundaryLines (fedLines before) = earlier ++ header :: body)
    (hheader : opensSection header = true) (hbody : ∀ line ∈ body, opensSection line = false)
    (after : List (List Char)) {text : List Char} (htext : IsPlain text) :
  let rest := diffSections (boundaryLines (joined ['\n'] after))
  (diffSections (boundaryLines (withAdded before after text).toList)).2
    = (diffSections earlier).2
      ++ sectionWithAdded header body rest.1 (withoutReturn text) :: rest.2
  := by
  intro rest
  rw [boundaryLines_withAdded before after htext, h, List.append_assoc, List.cons_append,
    diffSections_append_of_opens _ hheader, diffSections_section hheader hbody,
    diffSections_cons_of_not_opens (by rfl), sectionWithAdded]

theorem stagedChanges_withAdded_of_section (root : Path) (extensions : List String)
    {before earlier body : List (List Char)} {header : List Char}
    (h : boundaryLines (fedLines before) = earlier ++ header :: body)
    (hheader : opensSection header = true) (hbody : ∀ line ∈ body, opensSection line = false)
    (after : List (List Char)) :
  let read text := stagedChanges root extensions (withAdded before after text)
  (∃ result, ∀ text, IsPlain text → read text = result)
  ∨ numberBelow? (body.map .ofText) ≠ none ∧ ∃ earlier path above below numbers later,
    ∀ text, IsPlain text → read text = .ok (earlier
      ++ ⟨path, above ++ String.ofList (withoutReturn text) :: below, numbers⟩ :: later)
  := by
  intro read
  have hread : ∀ text, IsPlain text → read text = readSections root (extensions.map small)
      ((diffSections earlier).2 ++ sectionWithAdded header body
        (diffSections (boundaryLines (joined ['\n'] after))).1 (withoutReturn text)
        :: (diffSections (boundaryLines (joined ['\n'] after))).2) := by
    intro text htext
    rw [← sections_withAdded_of_section h hheader hbody after htext]
    apply stagedChanges_eq
  rcases readSections_sectionWithAdded_cases root (extensions.map small) header body
      (diffSections (boundaryLines (joined ['\n'] after))).1 (diffSections earlier).2
      (diffSections (boundaryLines (joined ['\n'] after))).2 with
    ⟨result, hresult⟩ | ⟨hnumber, earlier, path, above, below, numbers, later, hresult⟩
  · left
    use result
    intro text htext
    exact (hread text htext).trans (hresult _ htext.isUnmarked)
  · right
    use hnumber, earlier, path, above, below, numbers, later
    intro text htext
    exact (hread text htext).trans (hresult _ htext.isUnmarked)

/-- Texts of an added line that have no markers, and no boundaries but for carriage returns
before the line feed. The diff is read the same with every such text, or the text is at one
and the same place of what is read, where nothing else depends on it. In a block of hidden
lines the diff is read the same with every such text. -/
theorem stagedChanges_withAdded (root : Path) (extensions : List String)
    (before after : List (List Char)) :
  let read text := stagedChanges root extensions (withAdded before after text)
  (∃ result, ∀ text, IsPlain text → read text = result)
  ∨ ¬ EndsInBlock before ∧ ∃ earlier path above below numbers later, ∀ text, IsPlain text →
    read text = .ok (earlier
      ++ ⟨path, above ++ String.ofList (withoutReturn text) :: below, numbers⟩ :: later)
  := by
  intro read
  -- the section that the block is in need not be shown to be the only last one
  by_cases hin : EndsInBlock before
  · obtain ⟨earlier, header, body, hlines, hheader, hbody, hblock⟩ := hin
    rcases stagedChanges_withAdded_of_section root extensions hlines hheader hbody after with
      hsame | ⟨hnumber, -⟩
    · left
      exact hsame
    · exact absurd (if_pos hblock) hnumber
  · rcases exists_last_section (boundaryLines (fedLines before)) with
      hno | ⟨earlier, header, body, hlines, hheader, hbody⟩
    · left
      use readSections root (extensions.map small)
        (diffSections (boundaryLines (joined ['\n'] after))).2
      intro text htext
      rw [← sections_withAdded_of_front hno after htext]
      apply stagedChanges_eq
    · rcases stagedChanges_withAdded_of_section root extensions hlines hheader hbody after with
        hsame | ⟨-, hplace⟩
      · left
        exact hsame
      · right
        exact ⟨hin, hplace⟩

/-- A line in a block, and one below the end of the block. -/
theorem stagedChanges_withAdded_block :
  let block := ["diff --git a/a.ts b/a.ts", "@@ -0,0 +1,4 @@", "+// @ai-review-ignore-start"]
  let hidden := block.map String.toList
  let visible := hidden ++ ["+// @ai-review-ignore-end".toList]
  let old := "x();".toList
  let new := "@@ -0,0 +9 @@\r".toList
  let read before text := stagedChanges (.absolute ["repo"]) [".ts"]
    (withAdded before ["+z();".toList, []] text)
  EndsInBlock hidden ∧ (∀ text, IsPlain text → read hidden text = .ok [])
  ∧ IsPlain old ∧ IsPlain new
  ∧ read visible old = .ok [⟨.absolute ["repo", "a.ts"], ["x();", "z();"], [3, 4]⟩]
  ∧ read visible new = .ok [⟨.absolute ["repo", "a.ts"], ["@@ -0,0 +9 @@", "z();"], [3, 4]⟩]
  := by
  intro block hidden visible old new read
  have hold : IsPlain old := ⟨by decide +kernel, by decide +kernel, by decide +kernel⟩
  have hnew : IsPlain new := ⟨by decide +kernel, by decide +kernel, by decide +kernel⟩
  have hin : EndsInBlock hidden := by
    use [], "diff --git a/a.ts b/a.ts".toList,
      ["@@ -0,0 +1,4 @@".toList, "+// @ai-review-ignore-start".toList]
    decide +kernel
  refine ⟨hin, ?_, hold, hnew, by decide +kernel, by decide +kernel⟩
  rcases stagedChanges_withAdded (.absolute ["repo"]) [".ts"] hidden ["+z();".toList, []] with
    ⟨result, hresult⟩ | ⟨hno, -⟩
  · have hempty : read hidden old = .ok [] := by decide +kernel
    intro text htext
    exact ((hresult text htext).trans (hresult old hold).symm).trans hempty
  · exact absurd hin hno

/-- A form feed in a line that is seen cuts it in two and moves the numbers below it. Carriage
returns in a hidden line make it open a section of its own, which ends the block: what it holds
itself and the hidden lines below it are seen. -/
theorem stagedChanges_withAdded_boundary :
  let visible := ["diff --git a/a.ts b/a.ts".toList, "@@ -0,0 +1,3 @@".toList]
  let hidden := visible ++ ["+// @ai-review-ignore-start".toList]
  let plain := "xy".toList
  let fed := "x\x0cy".toList
  let forged := "x\rdiff --git a/b.ts b/b.ts\r@@ -0,0 +1 @@\r+y".toList
  let read before text := stagedChanges (.absolute ["repo"]) [".ts"]
    (withAdded before ["+z".toList, []] text)
  (∀ text ∈ [plain, fed, forged],
    '\n' ∉ text ∧ ¬ hidingMarker <:+: text ∧ ¬ showingMarker <:+: text)
  ∧ read visible plain = .ok [⟨.absolute ["repo", "a.ts"], ["xy", "z"], [1, 2]⟩]
  ∧ read visible fed = .ok [⟨.absolute ["repo", "a.ts"], ["x", "y", "z"], [1, 2, 3]⟩]
  ∧ EndsInBlock hidden
  ∧ read hidden plain = .ok []
  ∧ read hidden forged = .ok [⟨.absolute ["repo", "b.ts"], ["y", "z"], [1, 2]⟩]
  := by
  intro visible hidden plain fed forged read
  have hin : EndsInBlock hidden := by
    use [], "diff --git a/a.ts b/a.ts".toList,
      ["@@ -0,0 +1,3 @@".toList, "+// @ai-review-ignore-start".toList]
    decide +kernel
  refine ⟨?_, ?_, ?_, hin, ?_, ?_⟩
  · decide +kernel
  · decide +kernel
  · decide +kernel
  · decide +kernel
  · decide +kernel

end SourceAudit
