import SourceAudit.Proofs.Project.ShownPath
import SourceAudit.Proofs.Report.Groups

/-!
# Files opened again

The screen takes the lines under the diagnostics of a group from the file that the name of the
group, joined to the root of the project, leads to. For paths from the root of the disk this is
the place of the file in which the diagnostics lie, so that two files shown alike are one file.

* `Disk.readText_eq_ok_iff`: a file is read when the double dots of its path lead out of
  directories and there is a file at its place.
* `Disk.readText_append_ofText_shown`: what is read of a path is read again from how it is shown.
* `Report.shown_leads_back`: every group but that of the project has the lines of its file.
-/

namespace SourceAudit

open Text

namespace Disk

/-- Each double dot of the path leads out of a directory. -/
def LeadsOn (d : Disk) (p : Path) : Prop :=
  d.deadEnd? [] (if p.isAbsolute then p.names else d.cwd.names ++ p.names) = none

section

variable {d : Disk} {p root : Path}

theorem deadEnd?_of_not_mem {names : List String} (h : ".." ∉ names) (back : List String) :
  d.deadEnd? back names = none
  := by
  induction names generalizing back with
  | nil => rfl
  | cons name names ih =>
      rw [List.mem_cons, not_or] at h
      rw [deadEnd?, if_neg (Ne.symm h.1), ih h.2]

/-- Names without double dots meet no dead end behind names that meet none. -/
theorem deadEnd?_append_eq_none {back names rest : List String}
    (h : d.deadEnd? back names = none) (hrest : ".." ∉ rest) :
  d.deadEnd? back (names ++ rest) = none
  := by
  induction names generalizing back with
  | nil => exact deadEnd?_of_not_mem hrest back
  | cons name names ih =>
      rw [deadEnd?] at h
      rw [List.cons_append, deadEnd?]
      split
      · rename_i hdots
        rw [if_pos hdots] at h
        split
        · rename_i hdirectory
          rw [if_pos hdirectory] at h
          exact ih h
        · rename_i hnone
          rw [if_neg hnone] at h
          cases h
      · rename_i hname
        rw [if_neg hname] at h
        exact ih h

theorem LeadsOn.append_relative (h : d.LeadsOn root) {names : List String}
    (hnames : ".." ∉ names) :
  d.LeadsOn (root ++ Path.relative names)
  := by
  have hanchor : (root ++ Path.relative names).isAbsolute = root.isAbsolute := rfl
  rw [LeadsOn] at h
  rw [LeadsOn, hanchor]
  split
  · rename_i hroot
    rw [if_pos hroot] at h
    exact deadEnd?_append_eq_none h hnames
  · rename_i hroot
    rw [if_neg hroot] at h
    rw [Path.append_relative, ← List.append_assoc]
    exact deadEnd?_append_eq_none h hnames

theorem readText_eq_ok_iff {s : String} :
  d.readText p = .ok s
    ↔ d.LeadsOn p ∧ ∃ octets, d.files.lookup (d.placeOf p) = some octets
      ∧ s = String.ofList (unifyBreaks (decode octets))
  := by
  rw [LeadsOn, readText, read]
  cases d.deadEnd? [] (if p.isAbsolute then p.names else d.cwd.names ++ p.names) with
  | some names =>
      constructor
      · intro h
        cases h
      · rintro ⟨hnone, -⟩
        cases hnone
  | none =>
      cases d.files.lookup (d.placeOf p) with
      | none =>
          constructor
          · intro h
            cases h
          · rintro ⟨-, octets, hlookup, -⟩
            cases hlookup
      | some octets =>
          constructor
          · intro h
            cases h
            exact ⟨rfl, octets, rfl, rfl⟩
          · rintro ⟨-, octets', hlookup, hs⟩
            cases hlookup
            rw [hs]
            rfl

/-- What is read of a path from the root of the disk is read again from how it is shown, joined
to a root of the project that is there. -/
theorem readText_append_ofText_shown (hp : p.IsProper) (habsolute : p.isAbsolute = true)
    (hroot : d.LeadsOn root) {text : String} (h : d.readText p = .ok text) :
  d.readText (root ++ Path.ofText (p.shown d.cwd root)) = .ok text
  := by
  have hplace : (p.resolve d.cwd).IsProper := Path.isProper_resolve_of_isAbsolute hp habsolute
  rcases Path.append_ofText_shown hp hplace (Or.inl habsolute) with
    hself | ⟨names, hdots, hon, hresolved⟩
  · rw [hself, h]
  · have hsame : d.placeOf (root ++ Path.relative names) = d.placeOf p := by
      rw [placeOf, placeOf, Path.resolve_append_relative hdots, hresolved]
    obtain ⟨-, hfile⟩ := readText_eq_ok_iff.mp h
    rw [hon, readText_eq_ok_iff, hsame]
    exact ⟨hroot.append_relative hdots, hfile⟩

end

end Disk

namespace Report

theorem exists_path_of_mem_group {cwd root : Path} {ds : List Diagnostic}
    {g : String × List Diagnostic} (hg : g ∈ groups cwd root ds) (hname : g.1 ≠ projectGroup)
    {d : Diagnostic} (hd : d ∈ g.2) :
  ∃ p, d.path = some p ∧ g.1 = p.shown cwd root
  := by
  obtain ⟨-, hgroup⟩ := (mem_of_mem_groups hg d).mp hd
  cases hpath : d.path with
  | none =>
      rw [groupOf_of_no_path hpath] at hgroup
      exact absurd hgroup.symm hname
  | some p =>
      rw [groupOf_of_path hpath] at hgroup
      exact ⟨p, rfl, hgroup.symm⟩

theorem groupLines_of_ne {disk : Disk} {root : Path} {group : String}
    (h : group ≠ projectGroup) :
  groupLines disk root group
    = match disk.readText (root ++ Path.ofText group) with
      | .ok text => (boundaryLines text.toList).map String.ofList
      | .error _ => []
  := if_neg h

/-- Paths from the root of the disk lead back from how they are shown: joined to the root of the
project it leads to the place of the path, so that paths shown alike lead to one place. A group
other than that of the project is opened at the place of each file that its diagnostics lie in,
and has the lines of this file, unless a double dot leads the root of the project out of what is
no directory. -/
theorem shown_leads_back {disk : Disk} {root p : Path} (hp : p.IsProper)
    (habsolute : p.isAbsolute = true) :
  let cwd := disk.cwd
  (root ++ Path.ofText (p.shown cwd root)).resolve cwd = p.resolve cwd
  ∧ (∀ q : Path, q.IsProper → q.isAbsolute = true → q.shown cwd root = p.shown cwd root →
      q.resolve cwd = p.resolve cwd)
  ∧ ∀ s : Summary, ∀ g ∈ groups cwd root s.diagnostics, g.1 ≠ projectGroup → ∀ d ∈ g.2,
      d.path ≠ none
      ∧ (d.path = some p →
        disk.placeOf (root ++ Path.ofText g.1) = disk.placeOf p
        ∧ ∀ text, disk.readText p = .ok text →
          groupLines disk root g.1 = (boundaryLines text.toList).map String.ofList
            ∨ groupLines disk root g.1 = [] ∧ ¬ disk.LeadsOn root)
  := by
  intro cwd
  have hback : ∀ q : Path, q.IsProper → q.isAbsolute = true →
      (root ++ Path.ofText (q.shown cwd root)).resolve cwd = q.resolve cwd := by
    intro q hq hqabsolute
    apply Path.resolve_append_of_isProper_resolve hq _ (Or.inl hqabsolute)
    exact Path.isProper_resolve_of_isAbsolute hq hqabsolute
  refine ⟨hback p hp habsolute, ?_, ?_⟩
  · intro q hq hqabsolute hshown
    rw [← hback q hq hqabsolute, hshown, hback p hp habsolute]
  · intro s g hg hname d hd
    obtain ⟨p', hpath, hshown⟩ := exists_path_of_mem_group hg hname hd
    rw [hpath]
    use Option.some_ne_none p'
    rintro ⟨⟩
    have hplace : disk.placeOf (root ++ Path.ofText g.1) = disk.placeOf p := by
      rw [Disk.placeOf, Disk.placeOf, hshown, hback p hp habsolute]
    use hplace
    intro text htext
    rw [groupLines_of_ne hname]
    cases hread : disk.readText (root ++ Path.ofText g.1) with
    | ok text' =>
        left
        rw [Disk.readText_eq_of_placeOf htext hread hplace.symm]
    | error fault =>
        right
        use rfl
        intro hroot
        rw [hshown, Disk.readText_append_ofText_shown hp habsolute hroot htext] at hread
        cases hread

/-- A path and a root of the project that both leave a directory again. -/
theorem shown_leads_back_double_dots :
  let disk : Disk := {
    files := [(["p", "a.ts"], encode "f();\n".toList), (["p", "sub", "b.ts"], []),
      (["q", "c.ts"], [])] }
  let root : Path := .ofText "/p/sub/.."
  let p : Path := .ofText "/q/../p/a.ts"
  let d : Diagnostic := {
    rule := none, severity := .warn, message := "m", location := some { path := some p } }
  let s : Summary := { examined := 1, diagnostics := [d] }
  p.IsProper ∧ p.isAbsolute = true
  ∧ ("a.ts", [d]) ∈ groups disk.cwd root s.diagnostics
  ∧ disk.placeOf (root ++ Path.ofText "a.ts") = disk.placeOf p
  ∧ groupLines disk root "a.ts" = ["f();"]
  := by
  intro disk root p d s
  have hp : p.IsProper := Path.isProper_ofText "/q/../p/a.ts"
  have habsolute : p.isAbsolute = true := by decide +kernel
  have hg : ("a.ts", [d]) ∈ groups disk.cwd root s.diagnostics := by
    rw [mem_groups_iff]
    exact ⟨⟨d, List.mem_cons_self, by decide +kernel⟩, by decide +kernel⟩
  have htext : disk.readText p = .ok "f();\n" := by decide +kernel
  have hroot : disk.LeadsOn root := by
    rw [Disk.LeadsOn]
    decide +kernel
  obtain ⟨-, -, hgroups⟩ := shown_leads_back hp habsolute
  obtain ⟨-, hopened⟩ := hgroups s _ hg (by decide) d List.mem_cons_self
  obtain ⟨hplace, hlines⟩ := hopened rfl
  refine ⟨hp, habsolute, hg, hplace, ?_⟩
  rcases hlines "f();\n" htext with hlines | ⟨-, hlost⟩
  · rw [hlines]
    decide +kernel
  · exact absurd hroot hlost

end Report

end SourceAudit
