import SourceAudit.Text.Search
import SourceAudit.Proofs.Text.Trimming
import Mathlib.Data.List.Infix

/-!
# Occurrences

A pattern occurs in a text when the text holds it as an uninterrupted part, and
`cut?` finds the first place where it does. Blank characters at the ends of a text
neither add nor take away occurrences of a pattern that begins and ends with characters
that are not blank.
-/

namespace SourceAudit.Text

theorem occurs_iff (pat s : List Char) :
  occurs pat s = true ↔ pat <:+: s
  := by
  induction s with
  | nil => simp [occurs]
  | cons c s ih => rw [occurs, Bool.or_eq_true, ih, List.isPrefixOf_iff_prefix, List.infix_cons_iff]

theorem startsWith_iff (pat s : List Char) :
  startsWith pat s = true ↔ pat <+: s
  := List.isPrefixOf_iff_prefix

theorem after?_eq_none_iff (pat s : List Char) :
  after? pat s = none ↔ ¬ pat <+: s
  := by
  rw [Option.eq_none_iff_forall_not_mem]
  constructor
  · rintro h ⟨rest, rfl⟩
    apply h rest
    apply (after?_eq_some_iff _ _ _).mpr rfl
  · intro h rest hrest
    apply h
    use rest
    exact ((after?_eq_some_iff _ _ _).mp hrest).symm

@[simp]
theorem after?_append (pat rest : List Char) :
  after? pat (pat ++ rest) = some rest
  := (after?_eq_some_iff _ _ _).mpr rfl

/-! ### The first occurrence -/

/-- `before` and `rest` are what stands before and after the first occurrence of a
pattern in a text. -/
structure IsFirstCut (pat s before rest : List Char) : Prop where
  eq : s = before ++ pat ++ rest
  first : ∀ before' rest', s = before' ++ pat ++ rest' → before.length ≤ before'.length

theorem IsFirstCut.cons {pat s before rest : List Char} {c : Char}
    (h : IsFirstCut pat s before rest) (hc : ¬ pat <+: c :: s) :
  IsFirstCut pat (c :: s) (c :: before) rest
  := by
  constructor
  · rw [h.eq]
    simp
  · intro before' rest' h'
    cases before' with
    | nil =>
        exfalso
        apply hc
        use rest'
        exact h'.symm
    | cons b before' =>
        have hs := (List.cons.inj h').2
        have hle := h.first before' rest' hs
        simpa using hle

theorem IsFirstCut.of_cons {pat s before rest : List Char} {c : Char}
    (h : IsFirstCut pat (c :: s) before rest) (hc : ¬ pat <+: c :: s) :
  IsFirstCut pat s before.tail rest
  := by
  obtain ⟨heq, hfirst⟩ := h
  cases before with
  | nil => exact absurd ⟨rest, heq.symm⟩ hc
  | cons b before =>
      constructor
      · exact (List.cons.inj heq).2
      · rintro before' rest' rfl
        have hle := hfirst (c :: before') rest' rfl
        simpa using hle

theorem cut?_isFirstCut {pat s before rest : List Char} (h : cut? pat s = some (before, rest)) :
  IsFirstCut pat s before rest
  := by
  induction s generalizing before with
  | nil =>
      rw [cut?] at h
      split at h
      · rename_i hpat
        cases List.isEmpty_iff.mp hpat
        cases h
        constructor
        · rfl
        · simp
      · cases h
  | cons c s ih =>
      rw [cut?] at h
      split at h
      · rename_i rest' hafter
        cases h
        constructor
        · exact (after?_eq_some_iff _ _ _).mp hafter
        · simp
      · rename_i hafter
        obtain ⟨⟨b, r⟩, hcut, hbr⟩ := Option.map_eq_some_iff.mp h
        cases hbr
        apply (ih hcut).cons
        exact (after?_eq_none_iff _ _).mp hafter

theorem cut?_eq_none_iff (pat s : List Char) :
  cut? pat s = none ↔ ¬ pat <:+: s
  := by
  induction s with
  | nil => simp [cut?]
  | cons c s ih =>
      rw [cut?, List.infix_cons_iff, not_or]
      split
      · rename_i rest hafter
        have hpre : pat <+: c :: s := ⟨rest, ((after?_eq_some_iff _ _ _).mp hafter).symm⟩
        simp [hpre]
      · rename_i hafter
        rw [Option.map_eq_none_iff, ih]
        have hpre := (after?_eq_none_iff _ _).mp hafter
        simp [hpre]

/-- A text is cut at the first occurrence of the pattern. -/
theorem cut?_eq_some_iff (pat s before rest : List Char) :
  cut? pat s = some (before, rest) ↔ IsFirstCut pat s before rest
  := by
  constructor
  · apply cut?_isFirstCut
  · intro h
    cases hcut : cut? pat s with
    | none =>
        have hno := (cut?_eq_none_iff _ _).mp hcut
        exfalso
        apply hno
        use before, rest
        exact h.eq.symm
    | some found =>
        obtain ⟨before', rest'⟩ := found
        have h' := cut?_isFirstCut hcut
        have hlen := le_antisymm (h.first _ _ h'.eq) (h'.first _ _ h.eq)
        have heq := h'.eq.symm.trans h.eq
        rw [List.append_assoc, List.append_assoc] at heq
        obtain ⟨rfl, hrest⟩ := List.append_inj heq hlen.symm
        rw [List.append_cancel_left hrest]

theorem IsFirstCut.rest_unique {pat s before rest before' rest' : List Char}
    (h : IsFirstCut pat s before rest) (h' : IsFirstCut pat s before' rest') :
  rest = rest'
  := by
  have hcut := (cut?_eq_some_iff _ _ _ _).mpr h
  rw [(cut?_eq_some_iff _ _ _ _).mpr h'] at hcut
  cases hcut
  rfl

/-- What is put after a text does not move the first occurrence of a pattern in it. -/
theorem IsFirstCut.append {pat s before rest : List Char} (h : IsFirstCut pat s before rest)
    (t : List Char) :
  IsFirstCut pat (s ++ t) before (rest ++ t)
  := by
  constructor
  · rw [h.eq]
    simp
  · intro before' rest' h'
    by_contra hlt
    rw [Nat.not_le] at hlt
    have hfound : before' ++ pat <+: s ++ t := ⟨rest', h'.symm⟩
    have hlength : (before' ++ pat).length ≤ s.length := by
      rw [h.eq]
      simp only [List.length_append]
      omega
    obtain ⟨r, hr⟩ :=
      List.prefix_of_prefix_length_le hfound (List.prefix_append s t) hlength
    exact absurd (h.first before' r hr.symm) (Nat.not_le.mpr hlt)

/-! ### Occurrences and trimming -/

theorem trim_isInfix (s : List Char) :
  trim s <:+: s
  := by
  obtain ⟨ws, ws', -, -, hs⟩ := exists_append_trim_append s
  use ws, ws'
  exact hs.symm

/-- A trimmed text does not begin with blanks. -/
theorem eq_nil_of_trim_append_left {ws s : List Char} (hws : isBlankText ws = true)
    (h : trim (ws ++ s) = ws ++ s) :
  ws = []
  := by
  have hlength := congrArg List.length h
  have hle := (trim_isInfix s).length_le
  rw [trim_append_of_blank_left hws, List.length_append] at hlength
  apply List.eq_nil_of_length_eq_zero
  omega

/-- A trimmed text does not end with blanks. -/
theorem eq_nil_of_trim_append_right {ws s : List Char} (hws : isBlankText ws = true)
    (h : trim (s ++ ws) = s ++ ws) :
  ws = []
  := by
  have hlength := congrArg List.length h
  have hle := (trim_isInfix s).length_le
  rw [trim_append_of_blank_right s hws, List.length_append] at hlength
  apply List.eq_nil_of_length_eq_zero
  omega

/-- Trimming keeps the occurrences of a pattern that begins and ends with characters that
are not blank. -/
theorem infix_trim_iff {c d : Char} (hc : isBlank c = false) (hd : isBlank d = false)
    (m s : List Char) :
  c :: (m ++ [d]) <:+: trim s ↔ c :: (m ++ [d]) <:+: s
  := by
  constructor
  · intro h
    apply h.trans (trim_isInfix s)
  · rintro ⟨s₁, s₂, rfl⟩
    have h := trim_append_cons_append hc hd s₁ m s₂
    use trimLeft s₁, trimRight s₂
    symm
    simpa using h

/-- Blank characters after a text add no occurrence of a pattern that ends with a character that
is not blank. -/
theorem infix_of_infix_append_blank {m s : List Char} {d : Char} (hd : isBlank d = false)
    {ws : List Char} (h : isBlankText ws = true) (hin : m ++ [d] <:+: s ++ ws) :
  m ++ [d] <:+: s
  := by
  obtain ⟨b, r, heq⟩ := hin
  have h' : s ++ ws = (b ++ m) ++ d :: r := by
    simpa using heq.symm
  obtain ⟨r', hs, -⟩ := eq_append_cons_of_append_blank hd h h'
  use b, r'
  rw [hs]
  simp

/-- A pattern first stands where its first character does. -/
theorem isFirstCut_of_not_mem {c : Char} {s : List Char} (h : c ∉ s) (pat t : List Char) :
  IsFirstCut (c :: pat) (s ++ c :: (pat ++ t)) s t
  := by
  induction s with
  | nil =>
      constructor
      · rfl
      · intro before' rest' _
        exact Nat.zero_le _
  | cons d s ih =>
      rw [List.mem_cons, not_or] at h
      apply (ih h.2).cons
      intro hbegins
      exact h.1 (List.cons_prefix_cons.mp hbegins).1

/-- The place of a pattern whose end does not come about earlier. -/
theorem isFirstCut_of_not_infix {pat s : List Char} {c : Char}
    (h : ¬ pat ++ [c] <:+: s ++ pat) (t : List Char) :
  IsFirstCut (pat ++ [c]) (s ++ (pat ++ [c] ++ t)) s t
  := by
  constructor
  · simp
  · intro before rest heq
    by_contra hlt
    apply h
    rw [Nat.not_le] at hlt
    have hfound : before ++ (pat ++ [c]) <+: s ++ (pat ++ [c] ++ t) := by
      rw [heq, ← List.append_assoc]
      apply List.prefix_append
    have hplace : s ++ pat <+: s ++ (pat ++ [c] ++ t) := by
      use c :: t
      simp
    have hlength : (before ++ (pat ++ [c])).length ≤ (s ++ pat).length := by
      simp only [List.length_append, List.length_singleton]
      omega
    have hpre := List.prefix_of_prefix_length_le hfound hplace hlength
    exact (List.suffix_append before _).isInfix.trans hpre.isInfix

/-! ### Occurrences and separators -/

/-- A pattern that a character does not occur in stands on one side of it. -/
theorem infix_append_cons_iff {pat : List Char} {c : Char} (hc : c ∉ pat) (s t : List Char) :
  pat <:+: s ++ c :: t ↔ pat <:+: s ∨ pat <:+: t
  := by
  constructor
  · intro h
    rcases List.infix_append_iff.mp h with h | h | ⟨p, q, rfl, hp, hq⟩
    · exact Or.inl h
    · rcases List.infix_cons_iff.mp h with hbegins | h
      · rcases List.prefix_cons_iff.mp hbegins with rfl | ⟨t', rfl, -⟩
        · exact Or.inl List.nil_infix
        · exact absurd List.mem_cons_self hc
      · exact Or.inr h
    · rcases List.prefix_cons_iff.mp hq with rfl | ⟨t', rfl, -⟩
      · rw [List.append_nil]
        exact Or.inl hp.isInfix
      · exact absurd (List.mem_append_right p List.mem_cons_self) hc
  · rintro (h | h)
    · exact h.trans (List.prefix_append s _).isInfix
    · exact h.trans ((List.suffix_cons c t).trans (List.suffix_append s _)).isInfix

end SourceAudit.Text
