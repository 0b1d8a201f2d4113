import SourceAudit.Proofs.Review.Sections
import SourceAudit.Proofs.Text.Boundary

/-!
# Diffs in a row

A diff that begins with the header of a file can be put after any other diff whose last line
is ended. The lines of both fall into the sections of the first and those of the second, and
what is read of a section depends on no other. So the two are read as each is read alone:
what the first leaves open, a hunk, a block of hidden lines or the count of its lines, is of
no concern to the second.
-/

namespace SourceAudit

open Text

/-! ### Sections of both -/

/-- The first line of a diff that begins with the header of a file opens a section. -/
theorem exists_opensSection {s : List Char} (h : "diff --git".toList <+: s) :
  ∃ header rest, boundaryLines s = header :: rest ∧ opensSection header = true
  := by
  obtain ⟨s, rfl⟩ := h
  -- no character of the keyword ends a line
  have hkeyword : IsOneLine "diff --git".toList := by decide
  obtain ⟨l, rest, hl⟩ := exists_boundaryLines_append hkeyword (by decide) s
  use "diff --git".toList ++ l, rest, hl
  rw [opensSection, startsWith_iff]
  use l

/-- The sections of two diffs in a row are those of the first and those of the second. -/
theorem diffSections_boundaryLines_append {d e : String} (hd : d = "" ∨ ∃ s, d = s ++ "\n")
    (he : ∃ s, e = "diff --git" ++ s) :
  (diffSections (boundaryLines (d ++ e).toList)).2
    = (diffSections (boundaryLines d.toList)).2 ++ (diffSections (boundaryLines e.toList)).2
  := by
  obtain ⟨t, rfl⟩ := he
  rcases hd with rfl | ⟨s, rfl⟩
  · rw [String.empty_append]
    rfl
  · obtain ⟨header, rest, hlines, hheader⟩ :=
      exists_opensSection (s := ("diff --git" ++ t).toList) ⟨t.toList, String.toList_append.symm⟩
    have hsplit : (s ++ "\n" ++ ("diff --git" ++ t)).toList
        = s.toList ++ '\n' :: ("diff --git" ++ t).toList := by
      rw [String.toList_append, String.toList_append, List.append_assoc]
      rfl
    have hfed : (s ++ "\n").toList = s.toList ++ ['\n'] := by
      rw [String.toList_append]
      rfl
    rw [hsplit, hfed, boundaryLines_append_feed, hlines, diffSections_append_of_opens _ hheader]

/-! ### Reading both -/

/-- Sections in a row show what those before and those after a place show. -/
theorem readSections_append (root : Path) (suffixes : List String)
    (earlier later : List DiffSection) :
  readSections root suffixes (earlier ++ later) = do
    let changes ← readSections root suffixes earlier
    let more ← readSections root suffixes later
    return changes ++ more
  := by
  have hsome : (∃ s ∈ earlier ++ later, s.IsUnreadable root suffixes)
      ↔ (∃ s ∈ earlier, s.IsUnreadable root suffixes)
        ∨ ∃ s ∈ later, s.IsUnreadable root suffixes := by
    simp only [List.mem_append, or_and_right, exists_or]
  rw [readSections, readSections, readSections, List.filterMap_append]
  simp only [hsome]
  by_cases hearlier : ∃ s ∈ earlier, s.IsUnreadable root suffixes
  · rw [if_pos (Or.inl hearlier), if_pos hearlier]
    rfl
  · by_cases hlater : ∃ s ∈ later, s.IsUnreadable root suffixes
    · rw [if_pos (Or.inr hlater), if_neg hearlier, if_pos hlater]
      rfl
    · rw [if_neg (not_or.mpr ⟨hearlier, hlater⟩), if_neg hearlier, if_neg hlater]
      rfl

/-- A diff that is empty or ends with a line feed, and after it one that begins with the
header of a file. Both together are read as the first and then the second, each by itself:
they show the changes of the first and after them those of the second, and are refused when
one of them is. -/
theorem stagedChanges_append (root : Path) (extensions : List String) {d e : String}
    (hd : d = "" ∨ ∃ s, d = s ++ "\n") (he : ∃ s, e = "diff --git" ++ s) :
  stagedChanges root extensions (d ++ e) = do
    let changes ← stagedChanges root extensions d
    let more ← stagedChanges root extensions e
    return changes ++ more
  := by
  rw [stagedChanges_eq, stagedChanges_eq, stagedChanges_eq,
    diffSections_boundaryLines_append hd he, readSections_append]

/-- The first diff ends within a hunk and in a block of hidden lines. The second has a line in
front of its first hunk. -/
theorem stagedChanges_append_open_block :
  let d := "diff --git a/a.ts b/a.ts\n@@ -0,0 +1,3 @@\n+f();\n+// @ai-review-ignore-start\n+hidden();\n"
  let e := "diff --git a/b.ts b/b.ts\n+++ b/b.ts\n@@ -4,0 +7 @@\n+g();\n"
  (∃ s, d = s ++ "\n") ∧ (∃ s, e = "diff --git" ++ s)
  ∧ stagedChanges (.absolute ["repo"]) [".ts"] (d ++ e)
    = .ok [⟨.absolute ["repo", "a.ts"], ["f();"], [1]⟩,
        ⟨.absolute ["repo", "b.ts"], ["g();"], [7]⟩]
  := by
  intro d e
  have hd : ∃ s, d = s ++ "\n" := by
    use "diff --git a/a.ts b/a.ts\n@@ -0,0 +1,3 @@\n+f();\n+// @ai-review-ignore-start\n+hidden();"
    decide +kernel
  have he : ∃ s, e = "diff --git" ++ s := by
    use " a/b.ts b/b.ts\n+++ b/b.ts\n@@ -4,0 +7 @@\n+g();\n"
    decide +kernel
  use hd, he
  rw [stagedChanges_append _ _ (Or.inr hd) he]
  decide +kernel

end SourceAudit
