import SourceAudit.Proofs.Text.Pieces
import SourceAudit.Text.Digit
import SourceAudit.Text.Lines
import Mathlib.Algebra.GroupWithZero.Nat

/-!
# Lines between boundaries

A line feed ends a line whatever stands on either side of it, so that a text falls into
lines on each side of a line feed by itself. A line without boundaries is one line, also
when a carriage return comes before the line feed that ends it. A line with boundaries is cut
there, and the lines below it are found further on by as many lines.
-/

namespace SourceAudit.Text

/-- No character of the text ends a line. -/
def IsOneLine (s : List Char) : Prop :=
  ∀ c ∈ s, isBoundary c = false

instance (s : List Char) : Decidable (IsOneLine s) :=
  List.decidableBAll (isBoundary · = false) s

@[simp]
theorem isOneLine_append (s t : List Char) :
  IsOneLine (s ++ t) ↔ IsOneLine s ∧ IsOneLine t
  := List.forall_mem_append

@[simp]
theorem isOneLine_cons (c : Char) (s : List Char) :
  IsOneLine (c :: s) ↔ isBoundary c = false ∧ IsOneLine s
  := List.forall_mem_cons

theorem isOneLine_nil :
  IsOneLine []
  := by
  rintro c ⟨⟩

/-- A decimal digit ends no line. -/
theorem isBoundary_of_isDecimal {c : Char} (h : isDecimal c = true) :
  isBoundary c = false
  := by
  rw [isDecimal, decimalValue?, Option.isSome_map, List.find?_isSome] at h
  obtain ⟨z, hz, hrange⟩ := h
  have hzeros : ∀ z ∈ decimalZeros,
      0x30 ≤ z ∧ (z + 10 ≤ 0x85 ∨ 0x85 < z) ∧ (z + 10 ≤ 0x2028 ∨ 0x2029 < z) := by
    decide
  have hfar := hzeros z hz
  rw [Bool.and_eq_true, decide_eq_true_iff, decide_eq_true_iff] at hrange
  rw [← Bool.not_eq_true, isBoundary]
  simp only [Bool.or_eq_true, Bool.and_eq_true, decide_eq_true_iff, beq_iff_eq]
  omega

theorem isOneLine_of_forall_isDecimal {s : List Char} (h : ∀ c ∈ s, isDecimal c = true) :
  IsOneLine s
  := by
  intro c hc
  apply isBoundary_of_isDecimal (h c hc)

/-! ### The first character -/

/-- A carriage return before a line feed makes one boundary with it. -/
theorem boundaryLines_return_cons {s : List Char} (h : s.head? = some '\n') :
  boundaryLines ('\r' :: s) = boundaryLines s
  := by
  obtain ⟨t, rfl⟩ := List.head?_eq_some_iff.mp h
  rw [boundaryLines, boundaryLines]
  · rfl
  · rintro t' ⟨⟩

/-- Any other boundary ends an empty line. -/
theorem boundaryLines_cons_of_boundary {c : Char} (hc : isBoundary c = true) {s : List Char}
    (h : c = '\r' → s.head? ≠ some '\n') :
  boundaryLines (c :: s) = [] :: boundaryLines s
  := by
  rw [boundaryLines, if_pos hc]
  rintro t rfl rfl
  exact h rfl rfl

theorem boundaryLines_cons_of_not_boundary {c : Char} (hc : isBoundary c = false)
    {s l : List Char} {ls : List (List Char)} (h : boundaryLines s = l :: ls) :
  boundaryLines (c :: s) = (c :: l) :: ls
  := by
  rw [boundaryLines, if_neg (by simp [hc]), h]
  rintro t rfl
  cases hc

theorem boundaryLines_ne_nil {s : List Char} (h : s ≠ []) :
  boundaryLines s ≠ []
  := by
  fun_cases boundaryLines s with
  | case1 => exact absurd rfl h
  | case2 s => simp
  | case3 c s hno hc => simp
  | case4 c s hno hc hnil => simp
  | case5 c s hno hc l ls hs => simp

/-! ### Line feeds -/

/-- A line feed ends a line, so that the texts on either side of it fall into lines by
themselves. -/
theorem boundaryLines_append_feed (s t : List Char) :
  boundaryLines (s ++ '\n' :: t) = boundaryLines (s ++ ['\n']) ++ boundaryLines t
  := by
  induction s with
  | nil =>
      have hfeed : isBoundary '\n' = true := by decide
      rw [List.nil_append, boundaryLines_cons_of_boundary hfeed (by simp)]
      rfl
  | cons c s ih =>
      -- a carriage return looks at no more than the next character, which `t` does not change
      have hhead : (s ++ ['\n']).head? = (s ++ '\n' :: t).head? := by
        cases s with
        | nil => rfl
        | cons d s => rfl
      rw [List.cons_append, List.cons_append]
      cases hc : isBoundary c with
      | true =>
          by_cases hpair : c = '\r' ∧ (s ++ '\n' :: t).head? = some '\n'
          · obtain ⟨rfl, hpair⟩ := hpair
            rw [boundaryLines_return_cons hpair, boundaryLines_return_cons (hhead.trans hpair), ih]
          · rw [not_and] at hpair
            rw [boundaryLines_cons_of_boundary hc hpair,
              boundaryLines_cons_of_boundary hc (by rwa [hhead]), ih, List.cons_append]
      | false =>
          obtain ⟨l, ls, hs⟩ := List.exists_cons_of_ne_nil
            (boundaryLines_ne_nil (List.append_ne_nil_of_right_ne_nil s (List.cons_ne_nil '\n' [])))
          rw [hs, List.cons_append] at ih
          rw [boundaryLines_cons_of_not_boundary hc ih, boundaryLines_cons_of_not_boundary hc hs,
            List.cons_append]

/-! ### Lines without boundaries -/

/-- A text without boundaries is put in front of the first line. -/
theorem boundaryLines_append_of_eq_cons {l : List Char} (hl : IsOneLine l) {s first : List Char}
    {rest : List (List Char)} (hs : boundaryLines s = first :: rest) :
  boundaryLines (l ++ s) = (l ++ first) :: rest
  := by
  induction l with
  | nil => exact hs
  | cons c l ih =>
      rw [isOneLine_cons] at hl
      apply boundaryLines_cons_of_not_boundary hl.1 (ih hl.2)

/-- What makes one empty line by itself ends the line in front of it. -/
theorem boundaryLines_append_of_isOneLine {l : List Char} (hl : IsOneLine l) {s : List Char}
    (hs : boundaryLines s = [[]]) :
  boundaryLines (l ++ s) = [l]
  := by
  rw [boundaryLines_append_of_eq_cons hl hs, List.append_nil]

theorem boundaryLines_of_isOneLine {l : List Char} (hl : IsOneLine l) (hne : l ≠ []) :
  boundaryLines l = [l]
  := by
  induction l with
  | nil => exact absurd rfl hne
  | cons c l ih =>
      rw [isOneLine_cons] at hl
      cases l with
      | nil =>
          rw [boundaryLines, if_neg (by simp [hl.1])]
          · rfl
          · rintro t - ⟨⟩
      | cons d l => apply boundaryLines_cons_of_not_boundary hl.1 (ih hl.2 (List.cons_ne_nil d l))

/-- A text without boundaries begins the first line of every text that it begins. -/
theorem exists_boundaryLines_append {l : List Char} (hl : IsOneLine l) (hne : l ≠ [])
    (s : List Char) :
  ∃ first rest, boundaryLines (l ++ s) = (l ++ first) :: rest
  := by
  cases s with
  | nil =>
      have hline := boundaryLines_of_isOneLine hl hne
      exact ⟨[], [], by rw [List.append_nil, hline]⟩
  | cons c s =>
      obtain ⟨first, rest, hs⟩ :=
        List.exists_cons_of_ne_nil (boundaryLines_ne_nil (List.cons_ne_nil c s))
      exact ⟨first, rest, boundaryLines_append_of_eq_cons hl hs⟩

/-- The lines, each with a line feed after it. -/
def fedLines (lines : List (List Char)) : List Char :=
  lines.flatMap (· ++ ['\n'])

@[simp]
theorem fedLines_cons (l : List Char) (lines : List (List Char)) :
  fedLines (l :: lines) = l ++ '\n' :: fedLines lines
  := by
  simp [fedLines]

theorem boundaryLines_fedLines_append (lines : List (List Char)) (t : List Char) :
  boundaryLines (fedLines lines ++ t) = boundaryLines (fedLines lines) ++ boundaryLines t
  := by
  induction lines with
  | nil => rfl
  | cons l lines ih =>
      rw [fedLines_cons, List.append_assoc, List.cons_append, boundaryLines_append_feed, ih,
        boundaryLines_append_feed l (fedLines lines), List.append_assoc]

theorem boundaryLines_fedLines {lines : List (List Char)} (h : ∀ l ∈ lines, IsOneLine l) :
  boundaryLines (fedLines lines) = lines
  := by
  induction lines with
  | nil => rfl
  | cons l lines ih =>
      rw [List.forall_mem_cons] at h
      rw [fedLines_cons, boundaryLines_append_feed,
        boundaryLines_append_of_isOneLine h.1 (by rfl), ih h.2, List.singleton_append]

/-! ### Lines joined with line feeds -/

theorem joined_append_cons (before : List (List Char)) (line : List Char)
    (after : List (List Char)) :
  joined ['\n'] (before ++ line :: after) = fedLines before ++ joined ['\n'] (line :: after)
  := by
  induction before with
  | nil => rfl
  | cons l before ih =>
      have hcons : ∀ rest, joined ['\n'] (l :: (before ++ line :: rest))
          = l ++ '\n' :: joined ['\n'] (before ++ line :: rest) := by
        intro rest
        cases before with
        | nil => simp [joined]
        | cons l' before => simp [joined]
      rw [List.cons_append, hcons, ih, fedLines_cons, List.append_assoc, List.cons_append]

/-- The text without the carriage return at its end, if there is one. -/
def withoutReturn (s : List Char) : List Char :=
  if s.getLast? = some '\r' then s.dropLast else s

theorem exists_withoutReturn_append (s : List Char) :
  ∃ t, s = withoutReturn s ++ t ∧ (t = [] ∨ t = ['\r'])
  := by
  rw [withoutReturn]
  split
  · rename_i h
    obtain ⟨init, rfl⟩ := List.getLast?_eq_some_iff.mp h
    exact ⟨['\r'], by simp, Or.inr rfl⟩
  · exact ⟨[], by simp, Or.inl rfl⟩

/-- A line is the first of the text that begins with it, with or without a carriage return at
its end. -/
theorem boundaryLines_joined_cons {l t : List Char} (hl : IsOneLine l) (hne : l ≠ [])
    (ht : t = [] ∨ t = ['\r']) (after : List (List Char)) :
  boundaryLines (joined ['\n'] ((l ++ t) :: after)) = l :: boundaryLines (joined ['\n'] after)
  := by
  cases after with
  | nil =>
      rcases ht with rfl | rfl
      · rw [List.append_nil]
        exact boundaryLines_of_isOneLine hl hne
      · exact boundaryLines_append_of_isOneLine hl (by rfl)
  | cons next after =>
      have hfeed : boundaryLines ((l ++ t) ++ ['\n']) = [l] := by
        rw [List.append_assoc]
        rcases ht with rfl | rfl
        · exact boundaryLines_append_of_isOneLine hl (by rfl)
        · exact boundaryLines_append_of_isOneLine hl (by rfl)
      rw [joined, List.append_assoc, List.singleton_append, boundaryLines_append_feed, hfeed,
        List.singleton_append]

/-! ### Boundaries inside lines -/

/-- What stands on a line before its first boundary. -/
def firstPart (l : List Char) : List Char :=
  l.takeWhile fun c => !isBoundary c

/-- A line is its first part exactly when it has no boundary. -/
theorem firstPart_eq_self_iff (l : List Char) :
  firstPart l = l ↔ IsOneLine l
  := by
  rw [firstPart, List.takeWhile_eq_self_iff, IsOneLine]
  simp only [Bool.not_eq_true']

theorem isOneLine_firstPart (l : List Char) :
  IsOneLine (firstPart l)
  := by
  rw [← firstPart_eq_self_iff]
  exact List.takeWhile_idem

/-- The number of boundaries that lines hold. -/
def innerBoundaries (lines : List (List Char)) : Nat :=
  (lines.map (·.countP isBoundary)).sum

theorem innerBoundaries_eq_zero {lines : List (List Char)} (h : ∀ l ∈ lines, IsOneLine l) :
  innerBoundaries lines = 0
  := by
  rw [innerBoundaries, List.sum_eq_zero_iff_forall_eq_nat]
  intro n hn
  obtain ⟨l, hl, rfl⟩ := List.mem_map.mp hn
  rw [List.countP_eq_zero]
  intro c hc
  rw [h l hl c hc]
  exact Bool.false_ne_true

/-- A line that is ended by a line feed falls into one line more than it has boundaries. -/
theorem length_boundaryLines_append_feed {l : List Char} (h : '\r' ∉ l) :
  (boundaryLines (l ++ ['\n'])).length = l.countP isBoundary + 1
  := by
  induction l with
  | nil => rfl
  | cons c l ih =>
      rw [List.mem_cons, not_or] at h
      rw [List.cons_append]
      cases hc : isBoundary c with
      | true =>
          rw [boundaryLines_cons_of_boundary hc (fun hreturn => absurd hreturn.symm h.1),
            List.length_cons, ih h.2, List.countP_cons_of_pos hc]
      | false =>
          obtain ⟨first, rest, hl⟩ := List.exists_cons_of_ne_nil
            (boundaryLines_ne_nil (List.append_ne_nil_of_right_ne_nil l (List.cons_ne_nil '\n' [])))
          rw [boundaryLines_cons_of_not_boundary hc hl, List.length_cons, ← List.length_cons,
            ← hl, ih h.2, List.countP_cons_of_neg (by simp [hc])]

theorem length_boundaryLines_fedLines {lines : List (List Char)} (h : ∀ l ∈ lines, '\r' ∉ l) :
  (boundaryLines (fedLines lines)).length = lines.length + innerBoundaries lines
  := by
  induction lines with
  | nil => rfl
  | cons l lines ih =>
      rw [List.forall_mem_cons] at h
      rw [fedLines_cons, boundaryLines_append_feed, List.length_append,
        length_boundaryLines_append_feed h.1, ih h.2, innerBoundaries, innerBoundaries,
        List.map_cons, List.sum_cons, List.length_cons]
      omega

/-- The first line ends at the first boundary. -/
theorem head?_boundaryLines_append_cons {l : List Char} (hl : IsOneLine l) {c : Char}
    (hc : isBoundary c = true) (hreturn : c ≠ '\r') (s : List Char) :
  (boundaryLines (l ++ c :: s)).head? = some l
  := by
  have hs := boundaryLines_cons_of_boundary (s := s) hc (fun h => absurd h hreturn)
  rw [boundaryLines_append_of_eq_cons hl hs, List.append_nil, List.head?_cons]

/-- The first line of a text that begins with a line is the first part of that line; only
nothing at the end of a text is no line. -/
theorem head?_boundaryLines_joined_cons {line : List Char} (h : '\r' ∉ line)
    (after : List (List Char)) :
  (boundaryLines (joined ['\n'] (line :: after))).head?
    = if line = [] ∧ after = [] then none else some (firstPart line)
  := by
  have hjoined : ∃ rest, joined ['\n'] (line :: after) = line ++ rest
      ∧ (after = [] ∧ rest = [] ∨ after ≠ [] ∧ rest.head? = some '\n') := by
    cases after with
    | nil => exact ⟨[], by simp [joined], Or.inl ⟨rfl, rfl⟩⟩
    | cons next after =>
        exact ⟨_, by rw [joined, List.append_assoc, List.singleton_append],
          Or.inr ⟨List.cons_ne_nil _ _, rfl⟩⟩
  obtain ⟨rest, hrest, hafter⟩ := hjoined
  rw [hrest]
  have hsplit : firstPart line ++ line.dropWhile (fun c => !isBoundary c) = line :=
    List.takeWhile_append_dropWhile
  cases hdrop : line.dropWhile (fun c => !isBoundary c) with
  | cons c t =>
      rw [hdrop] at hsplit
      have hc : isBoundary c = true := by
        have hhead := List.head?_dropWhile_not (fun c => !isBoundary c) line
        rw [hdrop] at hhead
        simpa using hhead
      have hreturn : c ≠ '\r' := by
        rintro rfl
        apply h
        rw [← hsplit]
        simp
      have hne : line ≠ [] := by
        rw [← hsplit]
        simp
      rw [if_neg (fun hboth => hne hboth.1)]
      nth_rewrite 1 [← hsplit]
      rw [List.append_assoc, List.cons_append,
        head?_boundaryLines_append_cons (isOneLine_firstPart line) hc hreturn]
  | nil =>
      rw [hdrop, List.append_nil] at hsplit
      have hline := (firstPart_eq_self_iff line).mp hsplit
      rw [hsplit]
      rcases hafter with ⟨rfl, rfl⟩ | ⟨hne, hhead⟩
      · rw [List.append_nil]
        by_cases hnil : line = []
        · rw [if_pos ⟨hnil, rfl⟩, hnil]
          rfl
        · rw [if_neg (fun hboth => hnil hboth.1), boundaryLines_of_isOneLine hline hnil,
            List.head?_cons]
      · obtain ⟨t, rfl⟩ := List.head?_eq_some_iff.mp hhead
        rw [if_neg (fun hboth => hne hboth.2),
          head?_boundaryLines_append_cons hline (by decide) (by decide)]

section

variable {s : List Char} {k : Nat}

/-- A line of a text is found again among the lines cut at every boundary, further on by the
number of boundaries that the lines above it hold, and no further than its own first
boundary. -/
theorem getElem?_boundaryLines (h : '\r' ∉ s) {line : List Char}
    (hline : (feedLines s)[k]? = some line) :
  (boundaryLines s)[k + innerBoundaries ((feedLines s).take k)]?
    = if line = [] ∧ (feedLines s).length = k + 1 then none else some (firstPart line)
  := by
  obtain ⟨hk, rfl⟩ := List.getElem?_eq_some_iff.mp hline
  have hlines : feedLines s
      = (feedLines s).take k ++ (feedLines s)[k] :: (feedLines s).drop (k + 1) := by
    rw [List.getElem_cons_drop, List.take_append_drop]
  have hreturn : ∀ l ∈ feedLines s, '\r' ∉ l :=
    fun l hl hmem => h (mem_of_mem_pieces hl hmem)
  have hbefore : (boundaryLines (fedLines ((feedLines s).take k))).length
      = k + innerBoundaries ((feedLines s).take k) := by
    rw [length_boundaryLines_fedLines fun l hl => hreturn l (List.mem_of_mem_take hl),
      List.length_take_of_le hk.le]
  have hcut : boundaryLines s = boundaryLines (fedLines ((feedLines s).take k))
      ++ boundaryLines (joined ['\n'] ((feedLines s)[k] :: (feedLines s).drop (k + 1))) := by
    rw [← boundaryLines_fedLines_append, ← joined_append_cons, ← hlines, feedLines,
      joined_pieces]
  have hlast : (feedLines s).drop (k + 1) = [] ↔ (feedLines s).length = k + 1 := by
    rw [List.drop_eq_nil_iff]
    omega
  rw [hcut, List.getElem?_append_right hbefore.le, hbefore, Nat.sub_self, ← List.head?_eq_getElem?,
    head?_boundaryLines_joined_cons (hreturn _ (List.getElem_mem hk))]
  simp only [hlast]

/-- A text whose lines above a place have no boundary is not cut there unless it has a line
there. -/
theorem lt_length_feedLines {part : List Char} (hpart : (boundaryLines s)[k]? = some part)
    (hbefore : ∀ l ∈ (feedLines s).take k, IsOneLine l) :
  k < (feedLines s).length
  := by
  by_contra hk
  rw [Nat.not_lt] at hk
  rw [List.take_of_length_le hk] at hbefore
  obtain ⟨init, last, hlines⟩ :=
    (List.eq_nil_or_concat (feedLines s)).resolve_left (feedLines_ne_nil s)
  rw [hlines, List.concat_eq_append, List.forall_mem_append] at hbefore
  rw [hlines, List.length_concat] at hk
  have hcut : boundaryLines s = init ++ boundaryLines last := by
    rw [← joined_pieces '\n' s, ← feedLines, hlines, List.concat_eq_append, joined_append_cons,
      boundaryLines_fedLines_append, boundaryLines_fedLines hbefore.1]
    rfl
  have hlast : (boundaryLines last).length ≤ 1 := by
    by_cases hnil : last = []
    · rw [hnil]
      exact Nat.zero_le 1
    · rw [boundaryLines_of_isOneLine (hbefore.2 last List.mem_cons_self) hnil]
      exact Nat.le_refl 1
  have hlength := (List.getElem?_eq_some_iff.mp hpart).1
  rw [hcut, List.length_append] at hlength
  omega

end

end SourceAudit.Text
