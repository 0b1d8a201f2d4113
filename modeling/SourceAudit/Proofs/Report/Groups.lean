import SourceAudit.Proofs.Audit.Order
import SourceAudit.Report.Scan
import Mathlib.Data.List.Perm.Basic

/-!
# The groups of a report

On the screen diagnostics are grouped by file. The groups take the diagnostics apart:

* every diagnostic stands in one group, as often as among the diagnostics,
* a group holds the diagnostics whose file is shown under its name, and the group of the
  project those that belong to no file,
* the group of the project comes first, and the other groups are in ascending order of name,
* in a group diagnostics stand by line, then the most severe first, then by rule.
-/

namespace SourceAudit.Report

open Text

/-! ### Orders -/

theorem groupLe_iff (g h : String) :
  groupLe g h = true ↔ g = projectGroup ∨ h ≠ projectGroup ∧ g ≤ h
  := by
  rw [groupLe, Bool.or_eq_true, Bool.and_eq_true, decide_eq_true_iff, decide_eq_true_iff,
    textLe_iff]

theorem groupLe_trans (f g h : String) (hfg : groupLe f g = true) (hgh : groupLe g h = true) :
  groupLe f h = true
  := by
  rw [groupLe_iff] at hfg hgh ⊢
  rcases hfg with hf | ⟨hg, hfg⟩
  · exact Or.inl hf
  · rcases hgh with hg' | ⟨hh, hgh⟩
    · exact absurd hg' hg
    · exact Or.inr ⟨hh, le_trans hfg hgh⟩

theorem groupLe_total (g h : String) :
  (groupLe g h || groupLe h g) = true
  := by
  rw [Bool.or_eq_true, groupLe_iff, groupLe_iff]
  by_cases hg : g = projectGroup
  · exact Or.inl (Or.inl hg)
  · by_cases hh : h = projectGroup
    · exact Or.inr (Or.inl hh)
    · exact (le_total g h).imp (fun hle => Or.inr ⟨hh, hle⟩) (fun hle => Or.inr ⟨hg, hle⟩)

/-- What diagnostics are ordered by in a group; keys are compared entry by entry. -/
def inGroupKey (d : Diagnostic) : Int ×ₗ Nat ×ₗ String :=
  toLex (d.line.getD 0, toLex (severityPlace d.severity, d.rule.getD ""))

theorem inGroupLe_iff (d e : Diagnostic) :
  inGroupLe d e = true ↔ inGroupKey d ≤ inGroupKey e
  := by
  rw [inGroupLe]
  apply ite_ne_eq_true_iff
  · intro hne
    rw [decide_eq_true_iff]
    exact ⟨fun hle => lt_of_le_of_ne hle hne, le_of_lt⟩
  · apply ite_ne_eq_true_iff
    · intro hne
      rw [decide_eq_true_iff]
      exact ⟨fun hle => lt_of_le_of_ne hle hne, le_of_lt⟩
    · apply textLe_iff

theorem pairwise_mergeSort_inGroupLe (ds : List Diagnostic) :
  (ds.mergeSort inGroupLe).Pairwise fun d e => inGroupKey d ≤ inGroupKey e
  := by
  simp only [← inGroupLe_iff]
  apply List.pairwise_mergeSort
  · intro a b c hab hbc
    rw [inGroupLe_iff] at hab hbc ⊢
    exact le_trans hab hbc
  · intro a b
    rw [Bool.or_eq_true, inGroupLe_iff, inGroupLe_iff]
    apply le_total

/-! ### Taking a list apart -/

/-- A list taken apart by names that are all different loses no entry whose name is among
them. -/
theorem flatMap_filter_perm {α β : Type} [DecidableEq β] (f : α → β) {names : List β}
    (hnodup : names.Nodup) (as : List α) :
  (names.flatMap fun name => as.filter (f · = name)).Perm (as.filter (f · ∈ names))
  := by
  induction names with
  | nil => simp
  | cons name names ih =>
      rw [List.nodup_cons] at hnodup
      have hname : (as.filter (f · ∈ name :: names)).filter (f · = name)
          = as.filter (f · = name) := by
        rw [List.filter_filter]
        apply List.filter_congr
        intro a _
        simp +contextual
      have hrest : (as.filter (f · ∈ name :: names)).filter (fun a => !decide (f a = name))
          = as.filter (f · ∈ names) := by
        rw [List.filter_filter]
        apply List.filter_congr
        intro a _
        by_cases h : f a = name
        · simp [h, hnodup.1]
        · simp [h]
      have hsplit := List.filter_append_perm (f · = name) (as.filter (f · ∈ name :: names))
      rw [hname, hrest] at hsplit
      rw [List.flatMap_cons]
      exact ((ih hnodup.2).append_left _).trans hsplit

/-! ### Groups -/

section

variable {cwd root : Path} {ds : List Diagnostic}

theorem mem_groups_iff {g : String × List Diagnostic} :
  g ∈ groups cwd root ds ↔ (∃ d ∈ ds, groupOf cwd root d = g.1)
    ∧ g.2 = (ds.filter (groupOf cwd root · = g.1)).mergeSort inGroupLe
  := by
  obtain ⟨name, members⟩ := g
  simp only [groups, List.mem_map, List.mem_mergeSort, mem_distinct, Prod.mk.injEq]
  constructor
  · rintro ⟨name', hname, rfl, rfl⟩
    exact ⟨hname, rfl⟩
  · rintro ⟨hname, hmembers⟩
    exact ⟨name, hname, rfl, hmembers.symm⟩

/-- A group holds the diagnostics that have its name. -/
theorem mem_of_mem_groups {g : String × List Diagnostic} (hg : g ∈ groups cwd root ds)
    (d : Diagnostic) :
  d ∈ g.2 ↔ d ∈ ds ∧ groupOf cwd root d = g.1
  := by
  rw [(mem_groups_iff.mp hg).2, List.mem_mergeSort, List.mem_filter, decide_eq_true_iff]

theorem groupOf_of_path {d : Diagnostic} {p : Path} (h : d.path = some p) :
  groupOf cwd root d = p.shown cwd root
  := by
  rw [groupOf, h]

theorem groupOf_of_no_path {d : Diagnostic} (h : d.path = none) :
  groupOf cwd root d = projectGroup
  := by
  rw [groupOf, h]

theorem groups_perm :
  ((groups cwd root ds).flatMap Prod.snd).Perm ds
  := by
  have hnodup : ((distinct (ds.map (groupOf cwd root))).mergeSort groupLe).Nodup :=
    (List.mergeSort_perm _ _).nodup_iff.mpr (nodup_distinct _)
  have hall : ds.filter
      (groupOf cwd root · ∈ (distinct (ds.map (groupOf cwd root))).mergeSort groupLe) = ds := by
    rw [List.filter_eq_self]
    intro d hd
    rw [decide_eq_true_iff, List.mem_mergeSort, mem_distinct]
    exact List.mem_map_of_mem hd
  have hperm := flatMap_filter_perm (groupOf cwd root) hnodup ds
  rw [hall] at hperm
  rw [groups, List.flatMap_map]
  apply List.Perm.trans _ hperm
  apply List.Perm.flatMap_left
  intro name _
  exact List.mergeSort_perm _ _

theorem pairwise_groups :
  (groups cwd root ds).Pairwise fun g h =>
    h.1 ≠ projectGroup ∧ (g.1 = projectGroup ∨ g.1 < h.1)
  := by
  have hsorted := List.pairwise_mergeSort groupLe_trans groupLe_total
    (distinct (ds.map (groupOf cwd root)))
  have hnodup := (List.mergeSort_perm (distinct (ds.map (groupOf cwd root))) groupLe).nodup_iff.mpr
    (nodup_distinct _)
  rw [groups, List.pairwise_map]
  apply (hsorted.and hnodup).imp
  rintro g h ⟨hle, hne⟩
  rw [groupLe_iff] at hle
  rcases hle with hg | ⟨hh, hle⟩
  · exact ⟨fun hh => hne (hg.trans hh.symm), Or.inl hg⟩
  · exact ⟨hh, Or.inr (lt_of_le_of_ne hle hne)⟩

end

/-- The groups hold the diagnostics, each once and in the group that its file is shown as. -/
structure IsGrouping (cwd root : Path) (ds : List Diagnostic)
    (gs : List (String × List Diagnostic)) : Prop where
  perm : (gs.flatMap Prod.snd).Perm ds
  /-- A diagnostic in a file stands in the group named as the file is shown. -/
  located : ∀ g ∈ gs, ∀ d ∈ g.2, ∀ p, d.path = some p → g.1 = p.shown cwd root
  /-- The group of the project holds the diagnostics that belong to no file. -/
  unlocated : ∀ g ∈ gs, ∀ d ∈ g.2, d.path = none ↔ g.1 = projectGroup
  nonempty : ∀ g ∈ gs, g.2 ≠ []
  /-- The group of the project comes first, then the names ascend. -/
  names : gs.Pairwise fun g h => h.1 ≠ projectGroup ∧ (g.1 = projectGroup ∨ g.1 < h.1)
  /-- In a group diagnostics stand by line, then severity, then rule. -/
  ordered : ∀ g ∈ gs, g.2.Pairwise fun d e => inGroupKey d ≤ inGroupKey e

theorem isGrouping_groups {cwd root : Path} {ds : List Diagnostic}
    (h : ∀ d ∈ ds, ∀ p, d.path = some p → p.shown cwd root ≠ projectGroup) :
  IsGrouping cwd root ds (groups cwd root ds)
  where
  perm := groups_perm
  located := by
    intro g hg d hd p hp
    rw [← ((mem_of_mem_groups hg d).mp hd).2, groupOf_of_path hp]
  unlocated := by
    intro g hg d hd
    obtain ⟨hmem, hname⟩ := (mem_of_mem_groups hg d).mp hd
    rw [← hname]
    cases hp : d.path with
    | none => simp [groupOf_of_no_path hp]
    | some p => simp [groupOf_of_path hp, h d hmem p hp]
  nonempty := by
    intro g hg
    obtain ⟨d, hd, hname⟩ := (mem_groups_iff.mp hg).1
    exact List.ne_nil_of_mem ((mem_of_mem_groups hg d).mpr ⟨hd, hname⟩)
  names := pairwise_groups
  ordered := by
    intro g hg
    rw [(mem_groups_iff.mp hg).2]
    apply pairwise_mergeSort_inGroupLe

end SourceAudit.Report
