import SourceAudit.Text.Blank
import Mathlib.Data.List.DropRight

/-!
# Trimming

What trimming takes off a text and what it leaves: a text is its trimmed form between
blank characters, blanks at the ends do not count, and a part of a text that begins and
ends with characters that are not blank is left whole.
-/

namespace SourceAudit.Text

theorem isBlankText_iff (s : List Char) :
  isBlankText s = true ↔ ∀ c ∈ s, isBlank c = true
  := List.all_eq_true

@[simp]
theorem isBlankText_append (s t : List Char) :
  isBlankText (s ++ t) = (isBlankText s && isBlankText t)
  := List.all_append

theorem isBlankText_eq_isEmpty_trim (s : List Char) :
  isBlankText s = (trim s).isEmpty
  := by
  rw [Bool.eq_iff_iff, isBlankText_iff, List.isEmpty_iff, trim_eq_nil_iff]

theorem isBlankText_iff_trim_eq_nil (s : List Char) :
  isBlankText s = true ↔ trim s = []
  := by
  rw [isBlankText_eq_isEmpty_trim, List.isEmpty_iff]

/-- A character that is not blank does not stand among blanks. -/
theorem not_mem_of_isBlankText {c : Char} (hc : isBlank c = false) {ws : List Char}
    (h : isBlankText ws = true) :
  c ∉ ws
  := by
  intro hmem
  rw [(isBlankText_iff ws).mp h c hmem] at hc
  cases hc

/-! ### At the left end -/

theorem trimLeft_append_of_blank {ws : List Char} (h : isBlankText ws = true) (s : List Char) :
  trimLeft (ws ++ s) = trimLeft s
  := List.dropWhile_append_of_pos ((isBlankText_iff ws).mp h)

theorem trimLeft_of_blank {s : List Char} (h : isBlankText s = true) :
  trimLeft s = []
  := List.dropWhile_eq_nil_iff.mpr ((isBlankText_iff s).mp h)

/-- A text is what trimming leaves at its left end, after blank characters. -/
theorem exists_append_trimLeft (s : List Char) :
  ∃ ws, isBlankText ws = true ∧ s = ws ++ trimLeft s
  := by
  use s.takeWhile isBlank
  constructor
  · apply (isBlankText_iff _).mpr
    intro c hc
    apply List.mem_takeWhile_imp hc
  · symm
    apply List.takeWhile_append_dropWhile

/-- A character that is not blank ends what trimming takes off at the left. -/
theorem trimLeft_append_cons {c : Char} (hc : isBlank c = false) (s t : List Char) :
  trimLeft (s ++ c :: t) = trimLeft s ++ c :: t
  := by
  rw [trimLeft, List.dropWhile_append]
  split
  · rename_i h
    rw [trimLeft, List.isEmpty_iff.mp h, List.dropWhile_cons_of_neg (by simp [hc])]
    rfl
  · rfl

/-- A text that begins with a given character once it is trimmed at the left. -/
theorem trimLeft_eq_cons_iff {c : Char} (hc : isBlank c = false) (s t : List Char) :
  trimLeft s = c :: t ↔ ∃ ws, isBlankText ws = true ∧ s = ws ++ c :: t
  := by
  constructor
  · intro h
    obtain ⟨ws, hws, hs⟩ := exists_append_trimLeft s
    use ws, hws
    rw [← h]
    exact hs
  · rintro ⟨ws, hws, rfl⟩
    rw [trimLeft_append_of_blank hws, trimLeft_cons_of_not_blank t hc]

/-! ### At the right end -/

theorem trimRight_eq_rdropWhile (s : List Char) :
  trimRight s = s.rdropWhile isBlank
  := by
  induction s with
  | nil => rfl
  | cons c s ih =>
      rw [trimRight, ih, List.rdropWhile, List.rdropWhile, List.reverse_cons,
        List.dropWhile_append]
      by_cases h : (s.reverse.dropWhile isBlank).isEmpty = true
      · rw [if_pos h, List.isEmpty_iff.mp h]
        cases hc : isBlank c with
        | true => simp [hc]
        | false => simp [hc]
      · rw [if_neg h]
        split
        · rename_i hnil
          rw [List.reverse_eq_nil_iff] at hnil
          exact absurd (List.isEmpty_iff.mpr hnil) h
        · simp

theorem trimRight_append_of_blank (s : List Char) {ws : List Char} (h : isBlankText ws = true) :
  trimRight (s ++ ws) = trimRight s
  := by
  rw [trimRight_eq_rdropWhile, trimRight_eq_rdropWhile, List.rdropWhile, List.reverse_append,
    List.dropWhile_append_of_pos (by simpa [isBlankText_iff] using h)]
  rfl

/-- A text is what trimming leaves at its right end, before blank characters. -/
theorem exists_trimRight_append (s : List Char) :
  ∃ ws, isBlankText ws = true ∧ s = trimRight s ++ ws
  := by
  use s.rtakeWhile isBlank
  constructor
  · apply (isBlankText_iff _).mpr
    intro c hc
    apply List.mem_rtakeWhile_imp hc
  · rw [trimRight_eq_rdropWhile, List.rdropWhile_append_rtakeWhile]

/-- A character that is not blank ends what trimming takes off at the right. -/
theorem trimRight_append_cons {c : Char} (hc : isBlank c = false) (s t : List Char) :
  trimRight (s ++ c :: t) = s ++ c :: trimRight t
  := by
  have hcons : trimRight (c :: t) = c :: trimRight t := by
    rw [trimRight]
    split
    · rename_i h
      rw [h, if_neg (by simp [hc])]
    · rfl
  induction s with
  | nil => exact hcons
  | cons a s ih =>
      rw [List.cons_append, trimRight, ih]
      simp

/-- A character that is not blank does not stand among blanks added at the right. -/
theorem eq_append_cons_of_append_blank {d : Char} (hd : isBlank d = false) {ws : List Char}
    (h : isBlankText ws = true) {s b r : List Char} (heq : s ++ ws = b ++ d :: r) :
  ∃ r', s = b ++ d :: r' ∧ r = r' ++ ws
  := by
  have hnot : d ∉ ws := not_mem_of_isBlankText hd h
  rcases List.append_eq_append_iff.mp heq with ⟨t, -, ht⟩ | ⟨t, hs, ht⟩
  · exfalso
    apply hnot
    rw [ht]
    simp
  · cases t with
    | nil =>
        exfalso
        apply hnot
        rw [List.nil_append] at ht
        rw [← ht]
        simp
    | cons c t =>
        obtain ⟨rfl, hr⟩ := List.cons.inj ht
        use t, hs
        exact hr

/-! ### At both ends -/

theorem trim_append_of_blank_left {ws : List Char} (h : isBlankText ws = true) (s : List Char) :
  trim (ws ++ s) = trim s
  := by
  rw [trim, trimLeft_append_of_blank h, trim]

/-- Both ends are trimmed in either order. -/
theorem trimLeft_trimRight (s : List Char) :
  trimLeft (trimRight s) = trim s
  := by
  rw [trim]
  induction s with
  | nil => rfl
  | cons c s ih =>
      cases hc : isBlank c with
      | true =>
          rw [trimLeft_cons_of_blank s hc, ← ih, trimRight]
          split
          · rename_i h
            rw [h, if_pos hc]
          · exact trimLeft_cons_of_blank _ hc
      | false =>
          rw [trimLeft_cons_of_not_blank s hc]
          have h := trimRight_append_cons hc [] s
          rw [List.nil_append, List.nil_append] at h
          rw [h, trimLeft_cons_of_not_blank _ hc]

theorem trim_append_of_blank_right (s : List Char) {ws : List Char} (h : isBlankText ws = true) :
  trim (s ++ ws) = trim s
  := by
  rw [← trimLeft_trimRight, trimRight_append_of_blank s h, trimLeft_trimRight]

/-- A text is its trimmed form between blank characters. -/
theorem exists_append_trim_append (s : List Char) :
  ∃ ws ws', isBlankText ws = true ∧ isBlankText ws' = true ∧ s = ws ++ trim s ++ ws'
  := by
  obtain ⟨ws, hws, hs⟩ := exists_append_trimLeft s
  obtain ⟨ws', hws', ht⟩ := exists_trimRight_append (trimLeft s)
  use ws, ws', hws, hws'
  rw [List.append_assoc, trim, ← ht]
  exact hs

@[simp]
theorem trim_trim (s : List Char) :
  trim (trim s) = trim s
  := by
  obtain ⟨ws, ws', hws, hws', hs⟩ := exists_append_trim_append s
  have h := congrArg trim hs
  rw [trim_append_of_blank_right _ hws', trim_append_of_blank_left hws] at h
  exact h.symm

@[simp]
theorem trim_trimRight (s : List Char) :
  trim (trimRight s) = trim s
  := by
  obtain ⟨ws, hws, hs⟩ := exists_trimRight_append s
  have h := congrArg trim hs
  rw [trim_append_of_blank_right _ hws] at h
  exact h.symm

/-- Nothing is taken off a text that has no blank characters. -/
theorem trim_of_not_blank {s : List Char} (h : ∀ c ∈ s, isBlank c = false) :
  trim s = s
  := by
  have hleft : trimLeft s = s := by
    cases s with
    | nil => rfl
    | cons c s => exact trimLeft_cons_of_not_blank s (h c (List.mem_cons_self ..))
  rw [trim, hleft]
  rcases List.eq_nil_or_concat s with rfl | ⟨t, d, rfl⟩
  · rfl
  · rw [List.concat_eq_append] at h ⊢
    exact trimRight_append_cons (h d (by simp)) t []

/-- A part that begins and ends with characters that are not blank is left whole, and so
is what stands between it and the blanks that are taken off. -/
theorem trim_append_cons_append {c d : Char} (hc : isBlank c = false) (hd : isBlank d = false)
    (s m t : List Char) :
  trim (s ++ c :: (m ++ d :: t)) = trimLeft s ++ c :: (m ++ d :: trimRight t)
  := by
  rw [trim, trimLeft_append_cons hc]
  have h := trimRight_append_cons hd (trimLeft s ++ c :: m) t
  simpa using h

/-- Only a character that is not blank can begin a trimmed text. -/
theorem isBlank_head_trim {c : Char} {s t : List Char} (h : trim s = c :: t) :
  isBlank c = false
  := by
  have hs := trim_trim s
  rw [h] at hs
  by_contra hc
  rw [Bool.not_eq_false] at hc
  have hlen := congrArg List.length hs
  rw [trim, trimLeft_cons_of_blank t hc] at hlen
  have hle : (trimRight (trimLeft t)).length ≤ t.length := by
    rw [trimRight_eq_rdropWhile]
    apply le_trans (List.rdropWhile_prefix isBlank _).length_le
    apply (List.dropWhile_suffix isBlank).length_le
  rw [List.length_cons] at hlen
  omega

/-! ### Trimmed texts -/

/-- A text is trimmed when neither its first nor its last character is blank. -/
theorem trim_eq_self_iff (s : List Char) :
  trim s = s ↔ (∀ c ∈ s.head?, isBlank c = false) ∧ ∀ c ∈ s.getLast?, isBlank c = false
  := by
  have hleft : trimLeft s = s ↔ ∀ c ∈ s.head?, isBlank c = false := by
    cases s with
    | nil => simp [trimLeft]
    | cons c s => simp [trimLeft, List.dropWhile_eq_self_iff]
  have hright : trimRight s = s ↔ ∀ c ∈ s.getLast?, isBlank c = false := by
    rw [trimRight_eq_rdropWhile, List.rdropWhile_eq_self_iff]
    constructor
    · intro h c hc
      obtain ⟨hne, rfl⟩ := List.mem_getLast?_eq_getLast hc
      simpa using h hne
    · intro h hne
      simpa using h _ (List.getLast?_eq_some_getLast hne)
  rw [← hleft, ← hright]
  constructor
  · intro h
    -- nothing can be taken off at the left, or the whole would be shorter
    obtain ⟨ws, -, hws⟩ := exists_append_trimLeft s
    obtain ⟨ws', -, hws'⟩ := exists_trimRight_append (trimLeft s)
    rw [← trim, h] at hws'
    have hlength := congrArg List.length hws
    have hlength' := congrArg List.length hws'
    rw [List.length_append] at hlength hlength'
    have hl : trimLeft s = s := by
      have hnil : ws = [] := List.eq_nil_of_length_eq_zero (by omega)
      rw [hnil, List.nil_append] at hws
      exact hws.symm
    rw [trim, hl] at h
    exact ⟨hl, h⟩
  · rintro ⟨hl, hr⟩
    rw [trim, hl, hr]

/-- A change of single characters that makes none of them blank leaves a text trimmed. -/
theorem trim_map_of_trim_eq {f : Char → Char}
    (hf : ∀ c, isBlank c = false → isBlank (f c) = false) {s : List Char} (h : trim s = s) :
  trim (s.map f) = s.map f
  := by
  rw [trim_eq_self_iff] at h ⊢
  rw [List.head?_map, List.getLast?_map]
  constructor
  · intro d hd
    obtain ⟨c, hc, rfl⟩ := Option.map_eq_some_iff.mp hd
    exact hf c (h.1 c hc)
  · intro d hd
    obtain ⟨c, hc, rfl⟩ := Option.map_eq_some_iff.mp hd
    exact hf c (h.2 c hc)

/-- A change of single characters that leaves blanks blank and makes no others can as well be made
after trimming. -/
theorem trim_map {f : Char → Char} (hf : ∀ c, isBlank (f c) = isBlank c) (s : List Char) :
  trim (s.map f) = (trim s).map f
  := by
  have hblank : ∀ ws, isBlankText ws = true → isBlankText (ws.map f) = true := by
    intro ws h
    rw [isBlankText_iff] at h ⊢
    intro d hd
    obtain ⟨c, hc, rfl⟩ := List.mem_map.mp hd
    rw [hf]
    exact h c hc
  obtain ⟨ws, ws', hws, hws', hs⟩ := exists_append_trim_append s
  conv_lhs => rw [hs]
  rw [List.map_append, List.map_append, trim_append_of_blank_right _ (hblank ws' hws'),
    trim_append_of_blank_left (hblank ws hws)]
  apply trim_map_of_trim_eq _ (trim_trim s)
  intro c hc
  rw [hf, hc]

theorem trim_cons_of_trim_eq {c : Char} (hc : isBlank c = false) {s : List Char}
    (h : trim s = s) :
  trim (c :: s) = c :: s
  := by
  rw [trim_eq_self_iff] at h ⊢
  constructor
  · rintro d ⟨⟩
    exact hc
  · cases s with
    | nil =>
        rintro d ⟨⟩
        exact hc
    | cons d s =>
        rw [List.getLast?_cons_cons]
        exact h.2

end SourceAudit.Text
