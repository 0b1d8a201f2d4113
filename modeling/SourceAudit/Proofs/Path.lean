import SourceAudit.Path
import SourceAudit.Proofs.Text.Pieces

/-!
# Paths and their texts

A path that was read from a text has names that are neither empty nor a single dot and hold
no slash. Such a path is found again when its text is read, so that different paths have
different texts.
-/

namespace SourceAudit

open Text

theorem toList_joinWith_slash (names : List String) :
  (joinWith "/" names).toList = joined ['/'] (names.map String.toList)
  := toList_joinWith "/" names

namespace Path

/-- The name is neither empty nor a single dot, and holds no slash. -/
structure IsProperName (name : String) : Prop where
  ne_empty : name ≠ ""
  ne_dot : name ≠ "."
  no_slash : '/' ∉ name.toList

/-- The names of the path are such as reading a text leads to. -/
def IsProper (p : Path) : Prop :=
  ∀ name ∈ p.names, IsProperName name

theorem isProper_ofText (s : String) :
  (ofText s).IsProper
  := by
  intro name hname
  obtain ⟨hpiece, hkept⟩ := List.mem_filter.mp hname
  rw [Bool.and_eq_true, decide_eq_true_iff, decide_eq_true_iff] at hkept
  obtain ⟨piece, hmem, rfl⟩ := List.mem_map.mp hpiece
  use hkept.1, hkept.2
  rw [String.toList_ofList]
  exact not_mem_of_mem_pieces hmem

/-! ### Names -/

/-- A slash in front of a text adds an empty name, which is dropped. -/
theorem splitNames_of_slash {s t : String} (h : s.toList = '/' :: t.toList) :
  splitNames s = splitNames t
  := by
  rw [splitNames, splitNames, h, pieces, if_pos rfl, List.map_cons, List.filter_cons]
  rfl

theorem splitNames_joinWith {names : List String} (h : ∀ name ∈ names, IsProperName name) :
  splitNames (joinWith "/" names) = names
  := by
  rw [splitNames, toList_joinWith_slash]
  cases names with
  | nil => rfl
  | cons name rest =>
      have hslash : ∀ s ∈ (name :: rest).map String.toList, '/' ∉ s := by
        intro s hs
        obtain ⟨n, hn, rfl⟩ := List.mem_map.mp hs
        exact (h n hn).no_slash
      have hback : ((name :: rest).map String.toList).map String.ofList = name :: rest := by
        rw [List.map_map]
        apply List.map_id''
        intro n
        exact String.ofList_toList
      rw [pieces_joined (by simp) hslash, hback, List.filter_eq_self]
      intro n hn
      rw [Bool.and_eq_true, decide_eq_true_iff, decide_eq_true_iff]
      exact ⟨(h n hn).ne_empty, (h n hn).ne_dot⟩

/-! ### Anchors -/

/-- Where the path starts whose text has these characters. -/
def anchorOf (s : List Char) : Anchor :=
  match s with
  | '/' :: '/' :: '/' :: _ => .root
  | '/' :: '/' :: _ => .doubleRoot
  | '/' :: _ => .root
  | _ => .here

theorem ofText_eq (s : String) :
  ofText s = ⟨anchorOf s.toList, splitNames s⟩
  := rfl

/-- Names in a row do not begin with a slash. -/
theorem head?_toList_joinWith {names : List String} (h : ∀ name ∈ names, IsProperName name) :
  (joinWith "/" names).toList.head? ≠ some '/'
  := by
  rw [toList_joinWith_slash]
  cases names with
  | nil => simp [joined]
  | cons name rest =>
      obtain ⟨hempty, -, hslash⟩ := h name List.mem_cons_self
      cases hname : name.toList with
      | nil => exact absurd (String.toList_eq_nil_iff.mp hname) hempty
      | cons c s =>
          rw [hname, List.mem_cons, not_or] at hslash
          have hc : c ≠ '/' := Ne.symm hslash.1
          cases rest with
          | nil => simp [joined, hname, hc]
          | cons next rest => simp [joined, hname, hc]

section

variable {s : List Char}

theorem anchorOf_of_head? (h : s.head? ≠ some '/') :
  anchorOf s = .here
  := by
  cases s with
  | nil => rfl
  | cons c s =>
      have hc : c ≠ '/' := by simpa using h
      simp [anchorOf, hc]

theorem anchorOf_slash_of_head? (h : s.head? ≠ some '/') :
  anchorOf ('/' :: s) = .root
  := by
  cases s with
  | nil => rfl
  | cons c s =>
      have hc : c ≠ '/' := by simpa using h
      simp [anchorOf, hc]

theorem anchorOf_slash_slash_of_head? (h : s.head? ≠ some '/') :
  anchorOf ('/' :: '/' :: s) = .doubleRoot
  := by
  cases s with
  | nil => rfl
  | cons c s =>
      have hc : c ≠ '/' := by simpa using h
      simp [anchorOf, hc]

end

/-! ### Texts -/

/-- A path with proper names is found again in its text. -/
theorem ofText_toText {p : Path} (h : p.IsProper) :
  ofText p.toText = p
  := by
  obtain ⟨anchor, names⟩ := p
  have hnames := splitNames_joinWith h
  have hhead := head?_toList_joinWith h
  have hslash : ("/" ++ joinWith "/" names).toList = '/' :: (joinWith "/" names).toList := by
    simp
  have hslashes : ("//" ++ joinWith "/" names).toList
      = '/' :: ("/" ++ joinWith "/" names).toList := by
    simp
  rw [ofText_eq]
  cases anchor with
  | here =>
      cases names with
      | nil => rfl
      | cons name rest =>
          rw [toText]
          simp only [List.isEmpty_cons, Bool.false_eq_true, if_false]
          rw [anchorOf_of_head? hhead, hnames]
  | root =>
      rw [toText]
      dsimp only
      rw [splitNames_of_slash hslash, hnames, hslash, anchorOf_slash_of_head? hhead]
  | doubleRoot =>
      rw [toText]
      dsimp only
      rw [splitNames_of_slash hslashes, splitNames_of_slash hslash, hnames, hslashes, hslash,
        anchorOf_slash_slash_of_head? hhead]

/-- Paths with proper names that have the same text are the same. -/
theorem eq_of_toText_eq {p q : Path} (hp : p.IsProper) (hq : q.IsProper)
    (h : p.toText = q.toText) :
  p = q
  := by
  rw [← ofText_toText hp, h, ofText_toText hq]

end Path

end SourceAudit
