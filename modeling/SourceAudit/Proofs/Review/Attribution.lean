import SourceAudit.Proofs.Review.Concatenation
import SourceAudit.Proofs.Review.StagedDiff

/-!
# The file that a section is about

The header of a section gives the path of its file twice, with nothing but a blank and the
mark `b/` in between. It is read as if the path did not hold that mark, and blanks around what
is read are dropped. So the file is the right one exactly when its path does not hold a blank
before `b/`, and neither begins nor ends with a blank.

* `pathAsRead_eq_self_iff`: the paths that are read as they are written.
* `stagedChanges_of_section`: the one change that a section leads to, between those of the
  sections around it.
-/

namespace SourceAudit

open Text

/-! ### The path that is read -/

/-- The header of the section about the file with a path. -/
def sectionHeader (path : String) : List Char :=
  "diff --git a/".toList ++ (path.toList ++ (" b/".toList ++ path.toList))

/-- The path that the header of the section about a file is read as. -/
def pathAsRead (path : String) : String :=
  match cut? " b/".toList path.toList with
  | none => trimmed path
  | some (_, rest) => String.ofList (trim (rest ++ (" b/".toList ++ path.toList)))

/-- Trimming takes away blanks only. -/
theorem count_trim {c : Char} (hc : isBlank c = false) (s : List Char) :
  (trim s).count c = s.count c
  := by
  have hnone : ∀ {ws : List Char}, isBlankText ws = true → ws.count c = 0 := by
    intro ws hws
    rw [List.count_eq_zero]
    exact not_mem_of_isBlankText hc hws
  obtain ⟨ws, ws', hws, hws', hs⟩ := exists_append_trim_append s
  conv_rhs => rw [hs]
  rw [List.count_append, List.count_append, hnone hws, hnone hws', Nat.zero_add, Nat.add_zero]

/-- The paths that are read as they are written. -/
theorem pathAsRead_eq_self_iff (path : String) :
  pathAsRead path = path ↔ ¬ " b/".toList <:+: path.toList ∧ trim path.toList = path.toList
  := by
  rw [pathAsRead]
  cases hcut : cut? " b/".toList path.toList with
  | none =>
      have hno := (cut?_eq_none_iff _ _).mp hcut
      constructor
      · intro h
        use hno
        have htext := congrArg String.toList h
        rwa [trimmed, String.toList_ofList] at htext
      · rintro ⟨-, htrim⟩
        dsimp only
        rw [trimmed, htrim, String.ofList_toList]
  | some found =>
      obtain ⟨before, rest⟩ := found
      have hfound := (cut?_isFirstCut hcut).eq
      constructor
      · intro h
        -- the text that is read holds more slashes than the path
        have htext := congrArg (fun s => s.toList.count '/') h
        have hslash : (" b/".toList).count '/' = 1 := by decide
        have hcount := congrArg (List.count '/') hfound
        simp only [String.toList_ofList, count_trim (show isBlank '/' = false by decide),
          List.count_append, hslash] at htext hcount
        omega
      · rintro ⟨hno, -⟩
        exfalso
        apply hno
        use before, rest
        exact hfound.symm

/-- The file that a section is taken to be about. -/
theorem path?_sectionHeader (root : Path) (suffixes : List String) (path : String)
    (body : List (List Char)) :
  DiffSection.path? root suffixes ⟨sectionHeader path, body⟩
    = if small (Path.ofText (pathAsRead path)).suffix ∈ suffixes then
        some (root ++ Path.ofText (pathAsRead path))
      else none
  := by
  have hread : ∃ before rest, IsFirstCut " b/".toList (sectionHeader path) before rest
      ∧ String.ofList (trim rest) = pathAsRead path := by
    rw [pathAsRead]
    cases hcut : cut? " b/".toList path.toList with
    | none =>
        have hno := (cut?_eq_none_iff _ _).mp hcut
        use "diff --git a/".toList ++ path.toList, path.toList
        exact ⟨isFirstCut_header (isFirstCut_path hno), rfl⟩
    | some found =>
        obtain ⟨before, rest⟩ := found
        use "diff --git a/".toList ++ before, rest ++ (" b/".toList ++ path.toList)
        exact ⟨isFirstCut_header ((cut?_isFirstCut hcut).append _), rfl⟩
  obtain ⟨before, rest, hcut, htrim⟩ := hread
  rw [DiffSection.path?, (cut?_eq_some_iff _ _ _ _).mpr hcut, Option.bind_some]
  dsimp only
  rw [htrim]
  simp only [List.contains_iff_mem]

/-! ### The section among others -/

/-- The sections of lines in the middle of which a section stands. -/
theorem diffSections_around (before : List (List Char)) {header : List Char}
    (hheader : opensSection header = true) {body : List (List Char)}
    (hbody : ∀ line ∈ body, opensSection line = false) {after : List (List Char)}
    (hafter : ∀ line ∈ after.head?, opensSection line = true) :
  (diffSections (before ++ header :: (body ++ after))).2
    = (diffSections before).2 ++ ⟨header, body⟩ :: (diffSections after).2
  := by
  have hfront : (diffSections after).1 = [] := by
    cases after with
    | nil => rfl
    | cons line after => rw [diffSections_cons_of_opens (hafter line rfl)]
  rw [diffSections_append_of_opens before hheader, diffSections_section hheader hbody, hfront,
    List.append_nil]

/-- A section that leads to a change puts it in front of those that come after. -/
theorem readSections_cons_of_shown? {root : Path} {suffixes : List String} {s : DiffSection}
    {change : Change} (hs : ¬ s.IsUnreadable root suffixes)
    (hshown : s.shown? root suffixes = some change) (later : List DiffSection) :
  readSections root suffixes (s :: later) = do
    let more ← readSections root suffixes later
    return change :: more
  := by
  have hone : readSections root suffixes [s] = .ok [change] := by
    rw [readSections, List.filterMap_cons_some hshown, if_neg (by simpa using hs)]
    rfl
  rw [← List.singleton_append, readSections_append, hone]
  rfl

/-- The section about a file, between other lines of a diff. It has a line that is seen, no
header of a hunk with a number of too many digits, and the suffix of the file is among the
extensions. When the path of the file does not hold a blank before `b/`, and neither begins nor
ends with a blank, the section leads to one change and no more: the lines of the file that are
seen, with their numbers. It stands between the changes that the lines before it and after it
lead to, and is refused only when these are. These are all the paths that are read as they are
written; off the header of a section about any other file a different path is read. -/
theorem stagedChanges_of_section {root : Path} {extensions : List String} {diff path : String}
    {before body after : List (List Char)}
    (hdiff : boundaryLines diff.toList = before ++ sectionHeader path :: (body ++ after))
    (hbody : ∀ line ∈ body, opensSection line = false)
    (hafter : ∀ line ∈ after.head?, opensSection line = true)
    (hwanted : small (Path.ofText path).suffix ∈ extensions.map small)
    (hseen : shown [] (numbered none (body.map .ofText)) ≠ [])
    (hreadable : ∀ line ∈ body, ¬ (DiffLine.ofText line).IsTooLong) :
  let seen := shown [] (numbered none (body.map .ofText))
  (¬ " b/".toList <:+: path.toList ∧ trim path.toList = path.toList →
    stagedChanges root extensions diff = do
      let changes ← readSections root (extensions.map small) (diffSections before).2
      let more ← readSections root (extensions.map small) (diffSections after).2
      return changes ++ ⟨root ++ Path.ofText path, seen.map fun (_, text) => String.ofList text,
        seen.map Prod.fst⟩ :: more)
  ∧ (pathAsRead path = path ↔ ¬ " b/".toList <:+: path.toList ∧ trim path.toList = path.toList)
  ∧ DiffSection.path? root (extensions.map small) ⟨sectionHeader path, body⟩
    = if small (Path.ofText (pathAsRead path)).suffix ∈ extensions.map small then
        some (root ++ Path.ofText (pathAsRead path))
      else none
  := by
  intro seen
  refine ⟨?_, pathAsRead_eq_self_iff path, path?_sectionHeader root _ path body⟩
  intro hpath
  have hread := (pathAsRead_eq_self_iff path).mpr hpath
  have hsection := path?_sectionHeader root (extensions.map small) path body
  rw [hread, if_pos hwanted] at hsection
  have hheader : opensSection (sectionHeader path) = true := by
    rw [opensSection, startsWith_iff]
    exact ⟨_, rfl⟩
  have hs : ¬ DiffSection.IsUnreadable root (extensions.map small) ⟨sectionHeader path, body⟩ := by
    rintro ⟨-, line, hline, hlong⟩
    obtain ⟨l, hl, rfl⟩ := List.mem_map.mp hline
    exact hreadable l hl hlong
  have hshown : DiffSection.shown? root (extensions.map small) ⟨sectionHeader path, body⟩
      = some ⟨root ++ Path.ofText path, seen.map fun (_, text) => String.ofList text,
        seen.map Prod.fst⟩ := by
    rw [DiffSection.shown?, hsection, Option.bind_some, DiffSection.lines, Change.ofEntries?,
      if_neg (by simpa using hseen)]
  rw [stagedChanges_eq, hdiff, diffSections_around before hheader hbody hafter,
    readSections_append, readSections_cons_of_shown? hs hshown]
  simp only [bind_assoc, pure_bind]

/-- A path with blanks in it, one of them before a `b` that no slash follows, between a file that
is not wanted and one that is. -/
theorem stagedChanges_of_section_with_blanks :
  let before := ["diff --git a/a.md b/a.md".toList, "@@ -0,0 +1 @@".toList, "+text".toList]
  let body := ["@@ -0,0 +4,2 @@".toList, "+f();".toList, "+g();".toList]
  let after := ["diff --git a/c.ts b/c.ts".toList, "@@ -2 +2 @@".toList, "+h();".toList]
  let path := "plan b.d/x y.TS"
  let diff := String.ofList (fedLines (before ++ sectionHeader path :: (body ++ after)))
  (¬ " b/".toList <:+: path.toList ∧ trim path.toList = path.toList)
  ∧ stagedChanges (.absolute ["repo"]) [".ts"] diff
    = .ok [⟨.absolute ["repo", "plan b.d", "x y.TS"], ["f();", "g();"], [4, 5]⟩,
      ⟨.absolute ["repo", "c.ts"], ["h();"], [2]⟩]
  := by
  intro before body after path diff
  have hpath : ¬ " b/".toList <:+: path.toList ∧ trim path.toList = path.toList := by
    decide +kernel
  have hdiff : boundaryLines diff.toList = before ++ sectionHeader path :: (body ++ after) := by
    decide +kernel
  have hsection := @stagedChanges_of_section (.absolute ["repo"]) [".ts"] diff path before body
    after hdiff (by decide) (by decide) (by decide +kernel) (by decide +kernel) (by decide +kernel)
  obtain ⟨hread, -⟩ := hsection
  use hpath
  rw [hread hpath]
  decide +kernel

/-- A directory whose name ends with ` b`, and a name that begins with a blank: the lines are
taken for those of another file. -/
theorem stagedChanges_of_other_path :
  let root : Path := .absolute ["repo"]
  let diff (path : String) := String.ofList
    (fedLines [sectionHeader path, "@@ -0,0 +1 @@".toList, "+f();".toList])
  diff "plan b/a.ts" = "diff --git a/plan b/a.ts b/plan b/a.ts\n@@ -0,0 +1 @@\n+f();\n"
  ∧ root ++ Path.ofText "plan b/a.ts" = .absolute ["repo", "plan b", "a.ts"]
  ∧ stagedChanges root [".ts"] (diff "plan b/a.ts")
    = .ok [⟨.absolute ["repo", "a.ts b", "plan b", "a.ts"], ["f();"], [1]⟩]
  ∧ root ++ Path.ofText " a.ts" = .absolute ["repo", " a.ts"]
  ∧ stagedChanges root [".ts"] (diff " a.ts")
    = .ok [⟨.absolute ["repo", "a.ts"], ["f();"], [1]⟩]
  := by
  decide +kernel

end SourceAudit
