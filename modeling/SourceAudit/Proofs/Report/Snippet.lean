import SourceAudit.Proofs.Audit.Findings
import SourceAudit.Proofs.Project.ShownPath
import SourceAudit.Proofs.Report.Printing
import SourceAudit.Proofs.Text.Boundary

/-!
# The line under a diagnostic

Under a diagnostic the screen shows a line of its file.

* The lines are those of the file that the diagnostic lies in, though they are read again
  from the name of its group.
* They are cut at every boundary, while rules, directives and trees count source lines: a line
  is shown up to its first boundary, and it is found further on by the number of boundaries
  that the lines above it hold.
* What is shown of a line with ordinary characters that fits the screen is the line itself.
-/

namespace SourceAudit.Report

open Text Terminal

/-! ### On the screen -/

/-- What stands before a line under a diagnostic. -/
def snippetMargin : String := "           │ "

/-- What the screen shows of the line that a diagnostic points at. -/
def snippetLines (lines : List String) (d : Diagnostic) : Screen :=
  match sourceLine? lines d with
  | some line => pictureParagraph (snippetMargin ++ line)
  | none => []

theorem infix_flatMap_of_mem {α β : Type} {a : α} {as : List α} (h : a ∈ as) (f : α → List β) :
  f a <:+: as.flatMap f
  := by
  rw [List.flatMap_def]
  exact List.infix_of_mem_flatten (List.mem_map_of_mem h)

/-- What is shown of the line is printed under a diagnostic whose place can be written out. -/
theorem snippetLines_infix_printed (lines : List String) (d : Diagnostic) :
  snippetLines lines d <:+: printed (diagnosticPrints lines d)
  := by
  rw [diagnosticPrints, snippetLines]
  cases hline : sourceLine? lines d with
  | none => exact List.nil_infix
  | some line =>
      apply infix_printed
      simp [snippetMargin, underIndent]

/-- What is shown of the line stands on a screen that is printed as a whole. -/
theorem snippetLines_infix_scanScreen {disk : Disk} {root : Path} {s : Summary}
    (hwhole : (scanScreen disk root s).whole = true)
    {g : String × List Diagnostic} (hg : g ∈ groups disk.cwd root s.diagnostics) {d : Diagnostic}
    (hd : d ∈ g.2) :
  snippetLines (groupLines disk root g.1) d <:+: (scanScreen disk root s).lines
  := by
  have hmembers : diagnosticPrints (groupLines disk root g.1) d <:+: groupPrints disk root g :=
    (infix_flatMap_of_mem hd _).trans (List.infix_append [_] _ _)
  have hgroups : (groups disk.cwd root s.diagnostics).flatMap (groupPrints disk root)
      <:+: scanPrints disk root s := by
    rw [scanPrints, List.append_assoc]
    exact List.infix_append' [_] _ _
  rw [scanScreen, whole_printAll_iff] at hwhole
  rw [scanScreen, lines_printAll hwhole]
  obtain ⟨before, after, hsplit⟩ :=
    (hmembers.trans (infix_flatMap_of_mem hg _)).trans hgroups
  rw [← hsplit, printed_append, printed_append]
  exact (snippetLines_infix_printed _ d).trans (List.infix_append _ _ _)

/-- The line fits the screen behind the margin, and each of its characters is shown as it is. -/
structure IsPlainLine (line : List Char) : Prop where
  whole : IsShownWhole line
  /-- No name between colons stands for a picture. -/
  pictures : withPictures line = line
  length : snippetMargin.length + line.length ≤ screenWidth
  width : width snippetMargin.toList + width line ≤ screenWidth

theorem snippetLines_of_isPlainLine {lines : List String} {d : Diagnostic} {line : String}
    (h : sourceLine? lines d = some line) (hplain : IsPlainLine line.toList) :
  snippetLines lines d = [snippetMargin.toList ++ line.toList]
  := by
  rw [snippetLines, h]
  dsimp only
  have hchars : (snippetMargin ++ line).toList = snippetMargin.toList ++ line.toList :=
    String.toList_append
  rw [← hchars]
  apply pictureParagraph_of_le
  · rw [hchars, withPictures_append_of_not_mem (by decide), hplain.pictures]
  · rw [hchars]
    intro c hc
    rcases List.mem_append.mp hc with hmargin | hline
    · have hmarginWhole : IsShownWhole snippetMargin.toList := by decide
      exact hmarginWhole c hmargin
    · exact hplain.whole c hline
  · rw [hchars, isBlankText_append]
    rfl
  · rw [hchars, List.length_append]
    exact hplain.length
  · rw [hchars, width_append]
    exact hplain.width

/-! ### The lines that are read again -/

theorem exists_of_sourceLine? {lines : List String} {d : Diagnostic} {line : String}
    (h : sourceLine? lines d = some line) :
  ∃ k : ℕ, d.line = some (k + 1 : ℤ) ∧ lines[k]? = some line
  := by
  obtain ⟨n, hn, hline⟩ := Option.bind_eq_some_iff.mp h
  split at hline
  · rename_i hpos
    use n.toNat - 1
    constructor
    · rw [hn, Option.some_inj]
      omega
    · exact hline
  · cases hline

theorem lines_of_readFile {w : World} {target : Target} {p : Path} {text : String}
    (htext : w.disk.readText p = .ok text) {file : FileContext}
    (h : (readFile w target p).2 = .context file) :
  file.lines = (sourceLines text.toList).map String.ofList
  := by
  rw [readFile_eq_context_iff, examined?, htext] at h
  split at h
  · rename_i heq hdialect
    cases heq
    split at h
    · cases h
      rfl
    · cases h
  · cases h

/-- The lines of the group that a file is shown in are those of the file, or there are none. -/
theorem groupLines_of_located {disk : Disk} {root p : Path} (hp : p.IsProper)
    (hcwd : disk.cwd.IsProper) (hshown : p.IsShownFrom disk.cwd root) {text : String}
    (htext : disk.readText p = .ok text) :
  groupLines disk root (p.shown disk.cwd root) = []
    ∨ groupLines disk root (p.shown disk.cwd root)
      = (boundaryLines text.toList).map String.ofList
  := by
  have hplace : disk.placeOf (root ++ Path.ofText (p.shown disk.cwd root)) = disk.placeOf p := by
    rw [Disk.placeOf, Path.resolve_append_ofText_shown hp hcwd hshown, Disk.placeOf]
  rw [groupLines]
  split
  · exact Or.inl rfl
  · split
    · rename_i text' htext'
      right
      rw [Disk.readText_eq_of_placeOf htext' htext hplace]
    · exact Or.inl rfl

/-- Under a diagnostic at a line of a file the screen shows a line of that file.
Rules, directives and trees count the lines of the file alike. When the line shown is not the
one they count, a line has a boundary of another kind: a line is found further on by the number
of boundaries that the lines above it hold, and is shown up to its own first boundary. So when
the lines above have none, the line shown begins the line that the diagnostic is about, and is
that line exactly when it has none either. It stands on every screen that is printed as a whole,
as it is when it has ordinary characters and fits the screen. -/
theorem snippet_of_located {disk : Disk} {root : Path} {s : Summary}
    {g : String × List Diagnostic} (hg : g ∈ groups disk.cwd root s.diagnostics) {d : Diagnostic}
    (hd : d ∈ g.2) {p : Path} (hpath : d.path = some p) (hp : p.IsProper)
    (hcwd : disk.cwd.IsProper) (hshown : p.IsShownFrom disk.cwd root) {text : String}
    (htext : disk.readText p = .ok text) {snippet : String}
    (hsnippet : sourceLine? (groupLines disk root g.1) d = some snippet) :
  let lines := sourceLines text.toList
  (∀ w target file, w.disk = disk → (readFile w target p).2 = .context file →
      file.lines = lines.map String.ofList)
  ∧ feedLines text.toList = lines
  ∧ (∃ k : ℕ, d.line = some (k + 1 : ℤ)
      ∧ (∀ j line, lines[j]? = some line → k = j + innerBoundaries (lines.take j) →
        snippet.toList = firstPart line)
      ∧ ((∀ l ∈ lines.take k, IsOneLine l) →
        ∃ line, lines[k]? = some line ∧ snippet.toList = firstPart line
          ∧ (snippet.toList = line ↔ IsOneLine line)))
  ∧ ((scanScreen disk root s).whole = true →
      snippetLines (groupLines disk root g.1) d <:+: (scanScreen disk root s).lines)
  ∧ (IsPlainLine snippet.toList →
      snippetLines (groupLines disk root g.1) d = [snippetMargin.toList ++ snippet.toList])
  := by
  intro lines
  have hreturn := Disk.not_mem_of_readText htext
  have hfeed : feedLines text.toList = lines := by
    rw [← unifyBreaks_of_not_mem hreturn]
    exact rfl
  obtain ⟨k, hk, hentry⟩ := exists_of_sourceLine? hsnippet
  have hcut : (boundaryLines text.toList)[k]? = some snippet.toList := by
    rw [← ((mem_of_mem_groups hg d).mp hd).2, groupOf_of_path hpath] at hentry
    rcases groupLines_of_located hp hcwd hshown htext with hnil | hlines
    · rw [hnil] at hentry
      cases hentry
    · rw [hlines, List.getElem?_map, Option.map_eq_some_iff] at hentry
      obtain ⟨part, hpart, rfl⟩ := hentry
      rw [hpart, String.toList_ofList]
  have hpart : ∀ j line, lines[j]? = some line → k = j + innerBoundaries (lines.take j) →
      snippet.toList = firstPart line := by
    rintro j line hline rfl
    rw [← hfeed] at hline hcut
    rw [getElem?_boundaryLines hreturn hline] at hcut
    split at hcut
    · cases hcut
    · exact (Option.some_inj.mp hcut).symm
  refine ⟨?_, hfeed, ⟨k, hk, hpart, ?_⟩, fun hwhole => snippetLines_infix_scanScreen hwhole hg hd,
    snippetLines_of_isPlainLine hsnippet⟩
  · rintro w target file rfl hfile
    exact lines_of_readFile htext hfile
  · intro hbefore
    rw [← hfeed] at hbefore
    have hlt := lt_length_feedLines hcut hbefore
    have hline : lines[k]? = some (feedLines text.toList)[k] := by
      rw [← hfeed]
      exact List.getElem?_eq_getElem hlt
    have hsnippet := hpart k _ hline (by rw [← hfeed, innerBoundaries_eq_zero hbefore]; rfl)
    refine ⟨_, hline, hsnippet, ?_⟩
    rw [hsnippet, firstPart_eq_self_iff]

/-- The second line of a file whose lines end with two characters each. -/
theorem snippet_of_located_second_line :
  let text := "f();\n  g();\n"
  let disk : Disk := { files := [(["p", "a.ts"], encode "f();\r\n  g();\r\n".toList)] }
  let root : Path := .ofText "/p"
  let p : Path := .ofText "/p/a.ts"
  let d : Diagnostic := {
    rule := none, severity := .warn, message := "m"
    location := some { path := some p, startLine := some 2 } }
  let s : Summary := { examined := 1, diagnostics := [d] }
  ("a.ts", [d]) ∈ groups disk.cwd root s.diagnostics
  ∧ disk.readText p = .ok text
  ∧ sourceLine? (groupLines disk root "a.ts") d = some "  g();"
  ∧ (sourceLines text.toList)[1]? = some "  g();".toList
  ∧ ["           │   g();".toList] <:+: (scanScreen disk root s).lines
  := by
  intro text disk root p d s
  have hg : ("a.ts", [d]) ∈ groups disk.cwd root s.diagnostics := by
    rw [mem_groups_iff]
    exact ⟨⟨d, List.mem_cons_self, by decide +kernel⟩, by decide +kernel⟩
  have htext : disk.readText p = .ok text := by decide +kernel
  have hsnippet : sourceLine? (groupLines disk root "a.ts") d = some "  g();" := by
    decide +kernel
  have hcwd : disk.cwd.IsProper := by
    rintro name ⟨⟩
  obtain ⟨-, -, ⟨k, hk, -, hbefore⟩, hscreen, hplain⟩ := snippet_of_located hg List.mem_cons_self
    (rfl : d.path = some p) (Path.isProper_ofText "/p/a.ts") hcwd (Or.inl rfl) htext hsnippet
  use hg, htext, hsnippet
  constructor
  · obtain rfl : k = 1 := by
      have hline : d.line = some 2 := rfl
      rw [hline, Option.some_inj] at hk
      omega
    have hall : ∀ l ∈ sourceLines text.toList, IsOneLine l := by decide +kernel
    obtain ⟨line, hline, -, hwhole⟩ := hbefore fun l hl => hall l (List.mem_of_mem_take hl)
    rw [hline, ← hwhole.mpr (hall line (List.mem_of_getElem? hline))]
  · have hwritable : IsWritableOnScreen s := {
      examined := by decide +kernel
      places := by decide +kernel
      failures := by
        intro f hf
        cases hf }
    rw [hplain ⟨by decide, by decide +kernel, by decide, by decide +kernel⟩] at hscreen
    exact hscreen ((whole_scanScreen_iff disk root s).mpr hwritable)

/-- The line shown is not the line that the diagnostic is about: when a line above has a form
feed; when a name in it stands for a picture; and when the file lies outside the project and its
path does not start at the root of the disk. -/
theorem snippet_of_other_line :
  let root : Path := .ofText "/p"
  let at2 (p : Path) : Diagnostic := {
    rule := none, severity := .warn, message := "m"
    location := some { path := some p, startLine := some 2 } }
  let disk : Disk := {
    files := [
      (["p", "a.ts"], encode "x\x0cy\nz\n".toList),
      (["p", "b.ts"], encode "x\n:1st_place_medal:\n".toList),
      (["p", "c.ts"], encode "x\ny\n".toList), (["q", "c.ts"], encode "x\nz\n".toList)]
    cwd := .ofText "/q" }
  let lineOf (p : Path) : Option (List Char) :=
    (disk.readText p).toOption.bind fun text => (sourceLines text.toList)[1]?
  let shownOf (p : Path) : Screen :=
    (groups disk.cwd root [at2 p]).flatMap fun g =>
      g.2.flatMap (snippetLines (groupLines disk root g.1))
  (lineOf (.ofText "/p/a.ts") = some "z".toList
    ∧ shownOf (.ofText "/p/a.ts") = ["           │ y".toList])
  ∧ (lineOf (.ofText "/p/b.ts") = some ":1st_place_medal:".toList
    ∧ shownOf (.ofText "/p/b.ts") = ["           │ 🥇".toList])
  ∧ lineOf (.ofText "c.ts") = some "z".toList
    ∧ shownOf (.ofText "c.ts") = ["           │ y".toList]
  := by
  decide +kernel

end SourceAudit.Report
