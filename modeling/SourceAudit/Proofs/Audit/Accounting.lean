import SourceAudit.Proofs.Audit.Findings
import SourceAudit.Proofs.Directive.Faults

/-!
# What becomes of the files of an audit

Every file that is discovered is in the dialect of an enabled language, and is discovered
once. A file in a known dialect is either unreadable, or at fault because of a line of it,
or examined: the three exclude each other, and so the files of an audit are accounted for
by their numbers.
-/

namespace SourceAudit

open Text

/-! ### Files that are discovered -/

theorem lookup_of_mem_dialects :
  ∀ e ∈ dialects, dialects.lookup e.1 = some e.2
  := by decide

theorem exists_lookup_of_mem_suffixesOf {languages : List Language} {suffix : String}
    (h : suffix ∈ suffixesOf languages) :
  ∃ dialect, dialects.lookup suffix = some dialect ∧ dialect.language ∈ languages
  := by
  obtain ⟨⟨s, dialect⟩, hmem, rfl⟩ := List.mem_map.mp h
  obtain ⟨hdialect, hlanguage⟩ := List.mem_filter.mp hmem
  use dialect
  constructor
  · exact lookup_of_mem_dialects _ hdialect
  · exact List.contains_iff_mem.mp hlanguage

theorem mem_discover_iff (d : Disk) (target : Target) (p : Path) :
  p ∈ discover d target ↔ p ∈ candidates d target.scanPath ∧ isExamined d target p = true
  := by
  rw [discover, List.mem_mergeSort, mem_distinct, List.mem_filter]

/-- A file that is discovered is in the dialect of an enabled language. -/
theorem exists_dialect_of_mem_discover {d : Disk} {target : Target} {p : Path}
    (h : p ∈ discover d target) :
  ∃ dialect, dialectOf? p = some dialect ∧ dialect.language ∈ target.config.languages
  := by
  obtain ⟨-, hexamined⟩ := (mem_discover_iff d target p).mp h
  rw [isExamined, Bool.and_eq_true] at hexamined
  apply exists_lookup_of_mem_suffixesOf
  exact List.contains_iff_mem.mp hexamined.1

theorem exists_dialect_of_discover (d : Disk) (target : Target) :
  ∀ p ∈ discover d target, ∃ dialect, dialectOf? p = some dialect
  := by
  intro p hp
  obtain ⟨dialect, hdialect, -⟩ := exists_dialect_of_mem_discover hp
  use dialect

/-- No file is discovered twice. -/
theorem nodup_discover (d : Disk) (target : Target) :
  (discover d target).Nodup
  := by
  rw [discover, (List.mergeSort_perm _ _).nodup_iff]
  apply nodup_distinct

/-! ### What becomes of a file -/

/-- The file can be read, and a line of it is at fault. -/
def Disk.HasFaultyLine (d : Disk) (p : Path) : Prop :=
  ∃ text, d.readText p = .ok text ∧ ∃ line ∈ sourceLines text.toList, Faulty line

/-- Whether the file cannot be read. -/
def Disk.isUnreadable (d : Disk) (p : Path) : Bool :=
  match d.readText p with
  | .ok _ => false
  | .error _ => true

/-- The ways that reading a file can end. -/
inductive FileFate (w : World) (target : Target) (p : Path) : Prop where
  | unreadable (unreadable : w.disk.isUnreadable p = true) (sound : ¬ w.disk.HasFaultyLine p)
      (unexamined : examined? w target p = none) (unfailed : failure? w target.root p = none)
  | faulty (f : Failure) (readable : w.disk.isUnreadable p = false)
      (faulty : w.disk.HasFaultyLine p) (unexamined : examined? w target p = none)
      (failed : failure? w target.root p = some f)
  | examined (file : FileContext) (readable : w.disk.isUnreadable p = false)
      (sound : ¬ w.disk.HasFaultyLine p) (examined : examined? w target p = some file)
      (unfailed : failure? w target.root p = none)

/-- A file that can be read has a line at fault just if its directives are refused. -/
theorem Disk.hasFaultyLine_iff_refused {d : Disk} {p : Path} {text : String}
    (h : d.readText p = .ok text) (file : Option String) :
  d.HasFaultyLine p ↔ ∃ e, readDirectives text file = .error e
  := by
  have hlines : d.HasFaultyLine p ↔ ∃ line ∈ sourceLines text.toList, Faulty line := by
    simp [Disk.HasFaultyLine, h]
  rw [hlines, ← exists_scanLines_eq_error_iff]
  constructor
  · rintro ⟨fault, hscan⟩
    use fault.toError file
    exact (readDirectives_eq_error_iff _ _ _).mpr ⟨fault, hscan, rfl⟩
  · rintro ⟨e, he⟩
    obtain ⟨fault, hscan, -⟩ := (readDirectives_eq_error_iff _ _ _).mp he
    exact ⟨fault, hscan⟩

/-- A file in a known dialect is unreadable, at fault or examined. -/
theorem fileFate_of_dialect (w : World) (target : Target) {p : Path} {dialect : Dialect}
    (h : dialectOf? p = some dialect) :
  FileFate w target p
  := by
  cases hread : w.disk.readText p with
  | error fault =>
      apply FileFate.unreadable
      · rw [Disk.isUnreadable, hread]
      · rintro ⟨text, htext, -⟩
        rw [hread] at htext
        cases htext
      · rw [examined?, hread]
      · rw [failure?, hread]
  | ok text =>
      have hreadable : w.disk.isUnreadable p = false := by
        rw [Disk.isUnreadable, hread]
      have hrefusal := Disk.hasFaultyLine_iff_refused hread (some (p.shown w.disk.cwd target.root))
      cases hdirectives : readDirectives text (some (p.shown w.disk.cwd target.root)) with
      | error e =>
          apply FileFate.faulty ⟨p, e.bareMessage, e.place.line⟩ hreadable
          · exact hrefusal.mpr ⟨e, hdirectives⟩
          · rw [examined?, hread, h]
            dsimp only
            rw [hdirectives]
          · rw [failure?, hread, h]
            dsimp only
            rw [hdirectives]
      | ok s =>
          apply FileFate.examined _ hreadable
          · rw [hrefusal]
            rintro ⟨e, he⟩
            rw [hdirectives] at he
            cases he
          · rw [examined?, hread, h]
            dsimp only
            rw [hdirectives]
          · rw [failure?, hread, h]
            dsimp only
            rw [hdirectives]

/-! ### All files -/

section

variable {w : World} {files : List Path}

/-- Each file in a known dialect is one of those that are examined, of those at fault or of
those that cannot be read. -/
theorem perm_examined_append_failures (target : Target)
    (h : ∀ p ∈ files, ∃ dialect, dialectOf? p = some dialect) :
  files.Perm ((files.filterMap (examined? w target)).map (·.path)
    ++ (files.filterMap (failure? w target.root)).map (·.path)
    ++ files.filter w.disk.isUnreadable)
  := by
  induction files with
  | nil => exact List.Perm.nil
  | cons p rest ih =>
      obtain ⟨⟨dialect, hdialect⟩, hrest⟩ := List.forall_mem_cons.mp h
      have hperm := (ih hrest).cons p
      cases fileFate_of_dialect w target hdialect with
      | unreadable hunreadable _ hunexamined hunfailed =>
          rw [List.filterMap_cons_none hunexamined, List.filterMap_cons_none hunfailed,
            List.filter_cons_of_pos hunreadable]
          exact hperm.trans List.perm_middle.symm
      | faulty f hreadable _ hunexamined hfailed =>
          rw [List.filterMap_cons_none hunexamined, List.filterMap_cons_some hfailed,
            List.filter_cons_of_neg (by simp [hreadable]), List.map_cons,
            path_of_failure? hfailed, List.append_assoc, List.cons_append]
          rw [List.append_assoc] at hperm
          exact hperm.trans List.perm_middle.symm
      | examined file hreadable _ hexamined hunfailed =>
          rw [List.filterMap_cons_some hexamined, List.filterMap_cons_none hunfailed,
            List.filter_cons_of_neg (by simp [hreadable]), List.map_cons,
            path_of_examined? hexamined]
          exact hperm

/-- There are failures just if a file is at fault. -/
theorem failures_ne_nil_iff (target : Target)
    (h : ∀ p ∈ files, ∃ dialect, dialectOf? p = some dialect) :
  files.filterMap (failure? w target.root) ≠ [] ↔ ∃ p ∈ files, w.disk.HasFaultyLine p
  := by
  rw [ne_eq, List.filterMap_eq_nil_iff]
  push Not
  apply exists_congr
  intro p
  apply and_congr_right
  intro hp
  obtain ⟨dialect, hdialect⟩ := h p hp
  cases fileFate_of_dialect w target hdialect with
  | unreadable _ hsound _ hunfailed => simp [hsound, hunfailed]
  | faulty f _ hfaulty _ hfailed => simp [hfaulty, hfailed]
  | examined file _ hsound _ hunfailed => simp [hsound, hunfailed]

end

end SourceAudit
