import SourceAudit.Directive.Line
import SourceAudit.Proofs.Text.Occurrence

/-!
# The forms of directives

What a line has to look like to be a directive, said without the functions that read
lines:

* a directive for the next line is a line comment that begins with the keyword, a blank
  and a payload, and nothing but blanks stands before it;
* a directive for the whole file is the first block comment of the line that begins with
  the keyword; a blank follows the keyword, and the payload runs up to the end of the
  comment.

`nextLinePayload?`, `filePayload?` and `opensDirective` decide these forms.
-/

namespace SourceAudit

open Text

/-! ### Keywords -/

theorem directiveKeyword_eq_cons :
  directiveKeyword = 'a' :: "vesta-disable".toList
  := rfl

theorem directiveKeyword_eq_append :
  directiveKeyword = "avesta-disabl".toList ++ ['e']
  := rfl

theorem nextLineKeyword_eq_append :
  nextLineKeyword = directiveKeyword ++ "-next-line".toList
  := by decide

theorem isBlank_a :
  isBlank 'a' = false
  := by decide

/-- A text begins with the keyword once blanks are taken off its left end. -/
theorem trimLeft_eq_keyword_append_iff (s rest : List Char) :
  trimLeft s = directiveKeyword ++ rest
    ↔ ∃ ws, isBlankText ws = true ∧ s = ws ++ directiveKeyword ++ rest
  := by
  simp only [directiveKeyword_eq_cons, List.append_assoc, List.cons_append,
    trimLeft_eq_cons_iff isBlank_a]

/-! ### Comments -/

/-- The trimmed line is a comment that is opened by a slash and another character and
begins with a word; `rest` follows the word. -/
def IsComment (opener : Char) (word line rest : List Char) : Prop :=
  ∃ ws, isBlankText ws = true ∧ trim line = '/' :: opener :: (ws ++ word ++ rest)

/-- The line is a comment that begins with the keyword. -/
def OpensDirective (line : List Char) : Prop :=
  ∃ rest, IsComment '/' directiveKeyword line rest ∨ IsComment '*' directiveKeyword line rest

theorem commentBody?_eq_some_iff (text body : List Char) (toEnd : Bool) :
  commentBody? text = some (toEnd, body)
    ↔ ∃ s, text = '/' :: (if toEnd then '/' else '*') :: s ∧ body = trimLeft s
  := by
  constructor
  · intro h
    rw [commentBody?.eq_def] at h
    split at h
    · rename_i s
      cases h
      use s
      simp
    · rename_i s
      cases h
      use s
      simp
    · cases h
  · rintro ⟨s, rfl, rfl⟩
    cases toEnd with
    | true => rfl
    | false => rfl

theorem opensDirective_iff (line : List Char) :
  opensDirective line = true ↔ OpensDirective line
  := by
  rw [opensDirective]
  constructor
  · intro h
    split at h
    · rename_i toEnd body hbody
      obtain ⟨rest, rfl⟩ := (startsWith_iff _ _).mp h
      obtain ⟨s, hline, hs⟩ := (commentBody?_eq_some_iff _ _ _).mp hbody
      obtain ⟨ws, hws, rfl⟩ := (trimLeft_eq_keyword_append_iff _ _).mp hs.symm
      use rest
      cases toEnd with
      | true => exact Or.inl ⟨ws, hws, hline⟩
      | false => exact Or.inr ⟨ws, hws, hline⟩
    · cases h
  · have key : ∀ (toEnd : Bool) (ws rest : List Char), isBlankText ws = true →
        trim line = '/' :: (if toEnd then '/' else '*') :: (ws ++ directiveKeyword ++ rest) →
        commentBody? (trim line) = some (toEnd, directiveKeyword ++ rest) := by
      intro toEnd ws rest hws hline
      apply (commentBody?_eq_some_iff _ _ _).mpr
      use ws ++ directiveKeyword ++ rest, hline
      symm
      apply (trimLeft_eq_keyword_append_iff _ _).mpr
      use ws
    rintro ⟨rest, ⟨ws, hws, hline⟩ | ⟨ws, hws, hline⟩⟩
    · rw [key true ws rest hws hline]
      apply (startsWith_iff _ _).mpr
      use rest
    · rw [key false ws rest hws hline]
      apply (startsWith_iff _ _).mpr
      use rest

/-! ### Directives for the next line -/

/-- The line is a directive for the next line with a payload. -/
def NextLineForm (line payload : List Char) : Prop :=
  IsComment '/' nextLineKeyword line payload
    ∧ startsBlank payload = true ∧ isBlankText payload = false

theorem trimLeft_eq_nextLineKeyword_append_iff (s rest : List Char) :
  trimLeft s = nextLineKeyword ++ rest
    ↔ ∃ ws, isBlankText ws = true ∧ s = ws ++ nextLineKeyword ++ rest
  := by
  rw [nextLineKeyword_eq_append, List.append_assoc, trimLeft_eq_keyword_append_iff]
  simp only [List.append_assoc]

theorem nextLinePayload?_eq_some_iff (line payload : List Char) :
  nextLinePayload? (trim line) = some payload ↔ NextLineForm line payload
  := by
  rw [nextLinePayload?]
  constructor
  · intro h
    split at h
    · rename_i body hbody
      obtain ⟨s, hline, rfl⟩ := (commentBody?_eq_some_iff _ _ _).mp hbody
      split at h
      · rename_i rest hrest
        split at h
        · rename_i hblank
          cases h
          have hs := (after?_eq_some_iff _ _ _).mp hrest
          obtain ⟨ws, hws, rfl⟩ := (trimLeft_eq_nextLineKeyword_append_iff _ _).mp hs
          constructor
          · use ws, hws
            exact hline
          · simpa using hblank
        · cases h
      · cases h
    · cases h
  · rintro ⟨⟨ws, hws, hline⟩, hstart, hblank⟩
    have hbody : commentBody? (trim line) = some (true, nextLineKeyword ++ payload) := by
      apply (commentBody?_eq_some_iff _ _ _).mpr
      use ws ++ nextLineKeyword ++ payload, hline
      symm
      apply (trimLeft_eq_nextLineKeyword_append_iff _ _).mpr
      use ws
    rw [hbody]
    simp [hstart, hblank]

/-! ### Directives for the whole file -/

/-- A block comment that begins with the keyword stands in the line after `before`, and
`rest` follows the keyword. -/
def IsBlock (line before rest : List Char) : Prop :=
  ∃ ws, isBlankText ws = true
    ∧ line = before ++ '/' :: '*' :: (ws ++ directiveKeyword ++ rest)

/-- The first block comment that begins with the keyword. -/
structure IsFirstBlock (line before rest : List Char) : Prop where
  block : IsBlock line before rest
  first : ∀ before' rest', IsBlock line before' rest' → before.length ≤ before'.length

/-- The line holds a directive for the whole file with a payload. -/
def FileForm (line payload : List Char) : Prop :=
  ∃ before rest after, IsFirstBlock line before rest
    ∧ IsFirstCut "*/".toList rest payload after
    ∧ startsBlank payload = true ∧ isBlankText payload = false

/-- What follows the keyword is determined by where the comment stands. -/
theorem IsBlock.rest_unique {line before rest before' rest' : List Char}
    (h : IsBlock line before rest) (h' : IsBlock line before' rest')
    (hlen : before.length = before'.length) :
  rest = rest'
  := by
  obtain ⟨ws, hws, hline⟩ := h
  obtain ⟨ws', hws', hline'⟩ := h'
  obtain ⟨-, htail⟩ := List.append_inj (hline.symm.trans hline') hlen
  have hs : ws ++ directiveKeyword ++ rest = ws' ++ directiveKeyword ++ rest' := by
    simpa using htail
  have hk := (trimLeft_eq_keyword_append_iff _ rest).mpr ⟨ws, hws, rfl⟩
  have hk' := (trimLeft_eq_keyword_append_iff _ rest').mpr ⟨ws', hws', rfl⟩
  rw [hs, hk'] at hk
  exact (List.append_cancel_left hk).symm

theorem isBlock_cons_cons_iff (s rest : List Char) :
  IsBlock ('/' :: '*' :: s) [] rest ↔ after? directiveKeyword (trimLeft s) = some rest
  := by
  rw [after?_eq_some_iff, trimLeft_eq_keyword_append_iff, IsBlock]
  simp

theorem IsBlock.tail {c : Char} {s before rest : List Char}
    (h : IsBlock (c :: s) before rest) (hne : before ≠ []) :
  IsBlock s before.tail rest
  := by
  obtain ⟨ws, hws, hs⟩ := h
  cases before with
  | nil => exact absurd rfl hne
  | cons b before =>
      use ws, hws
      exact (List.cons.inj hs).2

theorem firstBlock?_isFirstBlock {line rest : List Char} (h : firstBlock? line = some rest) :
  ∃ before, IsFirstBlock line before rest
  := by
  fun_induction firstBlock? line with
  | case1 s rest' hafter =>
      cases h
      use []
      constructor
      · exact (isBlock_cons_cons_iff _ _).mpr hafter
      · simp
  | case2 s hafter ih =>
      obtain ⟨before, ⟨ws, hws, hs⟩, hfirst⟩ := ih h
      use '/' :: '*' :: before
      constructor
      · use ws, hws
        rw [hs]
        rfl
      · intro before' rest' h'
        match before' with
        | [] =>
            rw [(isBlock_cons_cons_iff _ _).mp h'] at hafter
            cases hafter
        | [b] =>
            -- a comment cannot be opened between the two characters of an opening
            obtain ⟨ws', -, hs'⟩ := h'
            simp at hs'
        | b :: b' :: before' =>
            have hle := hfirst _ _ ((h'.tail (by simp)).tail (by simp))
            simpa using hle
  | case3 c s hno ih =>
      obtain ⟨before, ⟨ws, hws, hs⟩, hfirst⟩ := ih h
      use c :: before
      constructor
      · use ws, hws
        rw [hs]
        rfl
      · intro before' rest' h'
        cases before' with
        | nil =>
            obtain ⟨ws', -, hs'⟩ := h'
            obtain ⟨rfl, rfl⟩ := List.cons.inj hs'
            exact absurd rfl (hno _ rfl)
        | cons b before' =>
            have hle := hfirst _ _ (h'.tail (by simp))
            simpa using hle
  | case4 => cases h

theorem not_isBlock_of_firstBlock?_eq_none {line : List Char} (h : firstBlock? line = none)
    (before rest : List Char) :
  ¬ IsBlock line before rest
  := by
  intro hblock
  fun_induction firstBlock? line generalizing before with
  | case1 s rest' hafter => cases h
  | case2 s hafter ih =>
      match before with
      | [] =>
          rw [(isBlock_cons_cons_iff _ _).mp hblock] at hafter
          cases hafter
      | [b] =>
          obtain ⟨ws', -, hs'⟩ := hblock
          simp at hs'
      | b :: b' :: before => exact ih h _ ((hblock.tail (by simp)).tail (by simp))
  | case3 c s hno ih =>
      cases before with
      | nil =>
          obtain ⟨ws', -, hs'⟩ := hblock
          obtain ⟨rfl, rfl⟩ := List.cons.inj hs'
          exact hno _ rfl rfl
      | cons b before => exact ih h _ (hblock.tail (by simp))
  | case4 =>
      obtain ⟨ws', -, hs'⟩ := hblock
      simp at hs'

theorem firstBlock?_eq_some_iff (line rest : List Char) :
  firstBlock? line = some rest ↔ ∃ before, IsFirstBlock line before rest
  := by
  constructor
  · apply firstBlock?_isFirstBlock
  · rintro ⟨before, h⟩
    cases hfound : firstBlock? line with
    | none => exact absurd h.block (not_isBlock_of_firstBlock?_eq_none hfound before rest)
    | some rest' =>
        obtain ⟨before', h'⟩ := firstBlock?_isFirstBlock hfound
        have hlen := le_antisymm (h.first _ _ h'.block) (h'.first _ _ h.block)
        rw [h.block.rest_unique h'.block hlen]

theorem startsBlank_append {s : List Char} (hs : s ≠ []) (t : List Char) :
  startsBlank (s ++ t) = startsBlank s
  := by
  cases s with
  | nil => exact absurd rfl hs
  | cons c s => rfl

theorem blockPayload?_eq_some_iff (rest payload : List Char) :
  blockPayload? rest = some payload
    ↔ ∃ after, IsFirstCut "*/".toList rest payload after
      ∧ startsBlank payload = true ∧ isBlankText payload = false
  := by
  have hstart : ∀ {p after : List Char}, IsFirstCut "*/".toList rest p after →
      isBlankText p = false → startsBlank rest = startsBlank p := by
    intro p after hcut hp
    have hne : p ≠ [] := by
      rintro rfl
      cases hp
    rw [hcut.eq, List.append_assoc, startsBlank_append hne]
  rw [blockPayload?]
  constructor
  · intro h
    split at h
    · rename_i p after hcut
      split at h
      · rename_i hblank
        cases h
        rw [Bool.and_eq_true, Bool.not_eq_true'] at hblank
        have hfirst := cut?_isFirstCut hcut
        use after, hfirst
        rw [← hstart hfirst hblank.2]
        exact hblank
      · cases h
    · cases h
  · rintro ⟨after, hfirst, hblank, hp⟩
    rw [(cut?_eq_some_iff _ _ _ _).mpr hfirst]
    simp [hstart hfirst hp, hblank, hp]

theorem filePayload?_eq_some_iff (line payload : List Char) :
  filePayload? line = some payload ↔ FileForm line payload
  := by
  rw [filePayload?, Option.bind_eq_some_iff]
  constructor
  · rintro ⟨rest, hrest, hpayload⟩
    obtain ⟨before, hfirst⟩ := (firstBlock?_eq_some_iff _ _).mp hrest
    obtain ⟨after, hcut⟩ := (blockPayload?_eq_some_iff _ _).mp hpayload
    use before, rest, after
  · rintro ⟨before, rest, after, hfirst, hcut⟩
    use rest
    constructor
    · apply (firstBlock?_eq_some_iff _ _).mpr
      use before
    · apply (blockPayload?_eq_some_iff _ _).mpr
      use after

/-! ### Blanks around a line -/

theorem firstBlock?_append_of_blank_left {ws : List Char} (h : isBlankText ws = true)
    (s : List Char) :
  firstBlock? (ws ++ s) = firstBlock? s
  := by
  induction ws with
  | nil => rfl
  | cons c ws ih =>
      obtain ⟨hc, hws⟩ := List.forall_mem_cons.mp ((isBlankText_iff _).mp h)
      have hslash : c ≠ '/' := by
        rintro rfl
        exact absurd hc (by decide)
      rw [List.cons_append, firstBlock?, ih ((isBlankText_iff _).mpr hws)]
      intro t ht
      exact absurd ht hslash

theorem IsBlock.append_of_blank {line before rest : List Char} (h : IsBlock line before rest)
    (ws : List Char) :
  IsBlock (line ++ ws) before (rest ++ ws)
  := by
  obtain ⟨ws', hws', rfl⟩ := h
  use ws', hws'
  simp

theorem IsBlock.of_append_blank {line before rest ws : List Char} (hws : isBlankText ws = true)
    (h : IsBlock (line ++ ws) before rest) :
  ∃ rest', IsBlock line before rest'
  := by
  obtain ⟨ws', hws', hline⟩ := h
  have he : isBlank 'e' = false := by decide
  have hsplit : line ++ ws
      = (before ++ '/' :: '*' :: (ws' ++ "avesta-disabl".toList)) ++ 'e' :: rest := by
    rw [hline, directiveKeyword_eq_append]
    simp only [List.append_assoc, List.cons_append, List.nil_append]
  obtain ⟨rest', hline', -⟩ := eq_append_cons_of_append_blank he hws hsplit
  use rest', ws', hws'
  rw [hline', directiveKeyword_eq_append]
  simp only [List.append_assoc, List.cons_append, List.nil_append]

theorem firstBlock?_append_of_blank_right (s : List Char) {ws : List Char}
    (h : isBlankText ws = true) :
  firstBlock? (s ++ ws) = (firstBlock? s).map (· ++ ws)
  := by
  cases hs : firstBlock? s with
  | none =>
      cases hsws : firstBlock? (s ++ ws) with
      | none => rfl
      | some rest =>
          obtain ⟨before, hfirst⟩ := firstBlock?_isFirstBlock hsws
          obtain ⟨rest', hblock⟩ := hfirst.block.of_append_blank h
          exact absurd hblock (not_isBlock_of_firstBlock?_eq_none hs _ _)
  | some rest =>
      obtain ⟨before, hblock, hfirst⟩ := firstBlock?_isFirstBlock hs
      apply (firstBlock?_eq_some_iff _ _).mpr
      use before
      constructor
      · apply hblock.append_of_blank
      · intro before' rest' h'
        obtain ⟨rest'', h''⟩ := h'.of_append_blank h
        apply hfirst _ _ h''

theorem blockPayload?_append_of_blank (rest : List Char) {ws : List Char}
    (h : isBlankText ws = true) :
  blockPayload? (rest ++ ws) = blockPayload? rest
  := by
  cases hcut : cut? "*/".toList rest with
  | none =>
      have hno := (cut?_eq_none_iff _ _).mp hcut
      have hno' : ¬ "*/".toList <:+: rest ++ ws := by
        intro hin
        apply hno
        apply infix_of_infix_append_blank (m := ['*']) (d := '/') (by decide) h hin
      rw [blockPayload?, blockPayload?, hcut, (cut?_eq_none_iff _ _).mpr hno']
  | some found =>
      obtain ⟨payload, after⟩ := found
      have hfirst := cut?_isFirstCut hcut
      have hfirst' : IsFirstCut "*/".toList (rest ++ ws) payload (after ++ ws) :=
        hfirst.append ws
      have hne : rest ≠ [] := by
        rw [hfirst.eq]
        simp
      rw [blockPayload?, blockPayload?, hcut, (cut?_eq_some_iff _ _ _ _).mpr hfirst',
        startsBlank_append hne]

/-- Blanks around a line do not change what directive for the whole file it holds. -/
theorem filePayload?_trim (line : List Char) :
  filePayload? (trim line) = filePayload? line
  := by
  obtain ⟨ws, ws', hws, hws', hline⟩ := exists_append_trim_append line
  conv_rhs => rw [hline]
  rw [filePayload?, filePayload?, List.append_assoc, firstBlock?_append_of_blank_left hws,
    firstBlock?_append_of_blank_right _ hws']
  cases firstBlock? (trim line) with
  | none => rfl
  | some rest => exact (blockPayload?_append_of_blank rest hws').symm

end SourceAudit
