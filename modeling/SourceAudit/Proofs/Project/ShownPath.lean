import SourceAudit.Disk
import SourceAudit.Proofs.Path

/-!
# Displayed paths lead back

A report shows a path relative to the root of the project where it can. Joined to the root
again, what is shown leads where the path led:

* names followed one after another lead where the last of them lead from the place of the
  first,
* the place that names lead to holds no double dot,
* a path leads back from how it is shown when it starts at the root of the disk or lies
  below the root of the project,
* at one place of a disk there is one text.
-/

namespace SourceAudit

namespace Path

/-! ### Following names -/

/-- Names are followed from where the names before them lead. -/
theorem follow_append (back names rest : List String) :
  follow back (names ++ rest) = follow (follow back names).reverse rest
  := by
  induction names generalizing back with
  | nil => rw [List.nil_append, follow, List.reverse_reverse]
  | cons name names ih =>
      rw [List.cons_append, follow, follow, ih, ih]
      split
      · rfl
      · rfl

/-- Names without double dots lead on name by name. -/
theorem follow_of_not_mem {names : List String} (h : ".." ∉ names) (back : List String) :
  follow back names = back.reverse ++ names
  := by
  induction names generalizing back with
  | nil => rw [follow, List.append_nil]
  | cons name names ih =>
      rw [List.mem_cons, not_or] at h
      rw [follow, if_neg (Ne.symm h.1), ih h.2, List.reverse_cons, List.append_assoc,
        List.singleton_append]

/-- A name of the place that names lead to is one of them, and no double dot, or one of the
names the way began with. -/
theorem mem_follow {name : String} {back names : List String} (h : name ∈ follow back names) :
  name ∈ back ∨ name ∈ names ∧ name ≠ ".."
  := by
  induction names generalizing back with
  | nil => exact Or.inl (List.mem_reverse.mp h)
  | cons next names ih =>
      rw [follow] at h
      split at h
      · rcases ih h with hback | ⟨hnames, hne⟩
        · exact Or.inl (List.mem_of_mem_tail hback)
        · exact Or.inr ⟨List.mem_cons_of_mem _ hnames, hne⟩
      · rename_i hnext
        rcases ih h with hback | ⟨hnames, hne⟩
        · rcases List.mem_cons.mp hback with rfl | hback
          · exact Or.inr ⟨List.mem_cons_self, hnext⟩
          · exact Or.inl hback
        · exact Or.inr ⟨List.mem_cons_of_mem _ hnames, hne⟩

/-! ### Resolved paths -/

section

variable {p q cwd root : Path} {names : List String}

theorem mem_names_resolve {name : String} (h : name ∈ (p.resolve cwd).names) :
  name ≠ ".." ∧ (name ∈ cwd.names ∨ name ∈ p.names)
  := by
  rcases mem_follow h with hnil | ⟨hname, hne⟩
  · cases hnil
  · use hne
    rcases List.mem_append.mp hname with hstart | hp
    · left
      split at hstart
      · cases hstart
      · exact hstart
    · exact Or.inr hp

theorem isProper_resolve (hp : p.IsProper) (hcwd : cwd.IsProper) :
  (p.resolve cwd).IsProper
  := by
  intro name hname
  rcases (mem_names_resolve hname).2 with h | h
  · exact hcwd name h
  · exact hp name h

theorem append_of_isAbsolute (h : q.isAbsolute = true) :
  root ++ q = q
  := if_pos h

theorem append_relative :
  root ++ relative names = ⟨root.anchor, root.names ++ names⟩
  := rfl

/-- A path joined with names without double dots leads on from its place name by name. -/
theorem resolve_append_relative (h : ".." ∉ names) :
  (root ++ relative names).resolve cwd = .absolute ((root.resolve cwd).names ++ names)
  := by
  have hanchor : isAbsolute ⟨root.anchor, root.names ++ names⟩ = root.isAbsolute := rfl
  rw [append_relative, resolve, hanchor, ← List.append_assoc, follow_append,
    follow_of_not_mem h, List.reverse_reverse]
  rfl

/-- What leads from one path down to another, put behind it, is the other. -/
theorem below?_eq_some_iff :
  p.below? root = some names ↔ p.anchor = root.anchor ∧ p.names = root.names ++ names
  := by
  rw [below?]
  constructor
  · intro h
    split at h
    · rename_i hbelow
      rw [Bool.and_eq_true, decide_eq_true_iff, List.isPrefixOf_iff_prefix] at hbelow
      obtain ⟨hanchor, rest, hrest⟩ := hbelow
      use hanchor
      rw [← hrest, List.drop_left, Option.some_inj] at h
      rw [← hrest, h]
    · cases h
  · rintro ⟨hanchor, hnames⟩
    rw [if_pos, hnames, List.drop_left]
    rw [Bool.and_eq_true, decide_eq_true_iff, List.isPrefixOf_iff_prefix, hnames]
    exact ⟨hanchor, List.prefix_append _ _⟩

/-! ### What is shown of a path -/

/-- The path starts at the root of the disk, or lies below the root of the project as it is
written or when both are resolved. -/
def IsShownFrom (p cwd root : Path) : Prop :=
  p.isAbsolute = true ∨ (p.below? root).isSome
    ∨ ((p.resolve cwd).below? (root.resolve cwd)).isSome

/-- A path as it is shown, joined to the root of the project, is the path itself, or leads on
from the root of the project name by name to the place of the path. -/
theorem append_ofText_shown (hp : p.IsProper) (hplace : (p.resolve cwd).IsProper)
    (h : p.IsShownFrom cwd root) :
  root ++ ofText (p.shown cwd root) = p
  ∨ ∃ names, ".." ∉ names
    ∧ root ++ ofText (p.shown cwd root) = root ++ relative names
    ∧ p.resolve cwd = .absolute ((root.resolve cwd).names ++ names)
  := by
  rw [shown]
  cases hbelow : p.below? root with
  | some names =>
      obtain ⟨hanchor, hnames⟩ := below?_eq_some_iff.mp hbelow
      have hproper : (relative names).IsProper := by
        intro name hname
        apply hp name
        rw [hnames]
        exact List.mem_append_right _ hname
      left
      dsimp only
      rw [ofText_toText hproper, append_relative, ← hanchor, ← hnames]
  | none =>
      cases hresolved : (p.resolve cwd).below? (root.resolve cwd) with
      | some names =>
          have hnames := (below?_eq_some_iff.mp hresolved).2
          have hmem : ∀ name ∈ names, name ∈ (p.resolve cwd).names := by
            intro name hname
            rw [hnames]
            exact List.mem_append_right _ hname
          have hproper : (relative names).IsProper :=
            fun name hname => hplace name (hmem name hname)
          right
          use names, fun hname => (mem_names_resolve (hmem ".." hname)).1 rfl
          dsimp only
          rw [ofText_toText hproper, ← hnames]
          exact ⟨rfl, rfl⟩
      | none =>
          rw [IsShownFrom, hbelow, hresolved] at h
          simp only [Option.isSome_none, Bool.false_eq_true, or_false] at h
          left
          dsimp only
          rw [ofText_toText hp, append_of_isAbsolute h]

theorem resolve_append_of_isProper_resolve (hp : p.IsProper) (hplace : (p.resolve cwd).IsProper)
    (h : p.IsShownFrom cwd root) :
  (root ++ ofText (p.shown cwd root)).resolve cwd = p.resolve cwd
  := by
  rcases append_ofText_shown hp hplace h with hself | ⟨names, hdots, hon, hresolved⟩
  · rw [hself]
  · rw [hon, resolve_append_relative hdots, hresolved]

/-- A path as it is shown, joined to the root of the project, leads where the path leads. -/
theorem resolve_append_ofText_shown (hp : p.IsProper) (hcwd : cwd.IsProper)
    (h : p.IsShownFrom cwd root) :
  (root ++ ofText (p.shown cwd root)).resolve cwd = p.resolve cwd
  := resolve_append_of_isProper_resolve hp (isProper_resolve hp hcwd) h

theorem isProper_resolve_of_isAbsolute (hp : p.IsProper) (h : p.isAbsolute = true) :
  (p.resolve cwd).IsProper
  := by
  intro name hname
  rw [resolve, if_pos h] at hname
  rcases mem_follow hname with hnil | ⟨hmem, -⟩
  · cases hnil
  · exact hp name hmem

end

end Path

/-! ### The file that is read again -/

namespace Disk

open Text

theorem exists_octets_of_readText {d : Disk} {p : Path} {s : String} (h : d.readText p = .ok s) :
  ∃ octets, d.files.lookup (d.placeOf p) = some octets
    ∧ s = String.ofList (unifyBreaks (decode octets))
  := by
  rw [readText, read] at h
  split at h
  · cases h
  · split at h
    · rename_i octets hoctets
      cases h
      exact ⟨octets, hoctets, rfl⟩
    · cases h

/-- At one place there is one text. -/
theorem readText_eq_of_placeOf {d : Disk} {p q : Path} {s t : String}
    (hp : d.readText p = .ok s) (hq : d.readText q = .ok t) (h : d.placeOf p = d.placeOf q) :
  s = t
  := by
  obtain ⟨octets, hs, rfl⟩ := exists_octets_of_readText hp
  obtain ⟨octets', ht, rfl⟩ := exists_octets_of_readText hq
  rw [h, ht, Option.some_inj] at hs
  rw [hs]

theorem not_mem_of_readText {d : Disk} {p : Path} {s : String} (h : d.readText p = .ok s) :
  '\r' ∉ s.toList
  := by
  obtain ⟨octets, -, rfl⟩ := exists_octets_of_readText h
  rw [String.toList_ofList]
  apply not_mem_unifyBreaks

end Disk

end SourceAudit
