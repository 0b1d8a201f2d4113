import SourceAudit.Text.Lines
import SourceAudit.Text.Order
import SourceAudit.Proofs.Text.Trimming
import Mathlib.Data.String.Basic

/-!
# Pieces and lines

The pieces of a text between separators, once each of them is trimmed, do not change
when the text itself is trimmed. The lines of a source are the pieces between its line
breaks: lines that hold no line break are found again after they have been joined with
line feeds, and a blank source has blank lines only.
-/

namespace SourceAudit.Text

/-! ### Trimmed pieces -/

theorem pieces_cons_of_ne {sep c : Char} (h : c ≠ sep) (s : List Char) :
  ∃ p ps, pieces sep s = p :: ps ∧ pieces sep (c :: s) = (c :: p) :: ps
  := by
  cases hs : pieces sep s with
  | nil => exact absurd hs (pieces_ne_nil sep s)
  | cons p ps =>
      use p, ps, rfl
      rw [pieces, if_neg h, hs]

/-- The pieces hold all characters of the text but the separators. -/
theorem flatten_pieces (sep : Char) (s : List Char) :
  (pieces sep s).flatten = s.filter (· ≠ sep)
  := by
  induction s with
  | nil => rfl
  | cons c s ih =>
      by_cases hc : c = sep
      · rw [pieces, if_pos hc, List.flatten_cons, ih, List.filter_cons_of_neg (by simpa using hc)]
        rfl
      · obtain ⟨p, ps, hp⟩ := List.exists_cons_of_ne_nil (pieces_ne_nil sep s)
        rw [pieces, if_neg hc, hp, List.filter_cons_of_pos (by simpa using hc), ← ih, hp]
        rfl

theorem map_trim_pieces_append_of_blank_left {sep : Char} (hsep : isBlank sep = false)
    {ws : List Char} (h : isBlankText ws = true) (s : List Char) :
  (pieces sep (ws ++ s)).map trim = (pieces sep s).map trim
  := by
  induction ws with
  | nil => rfl
  | cons c ws ih =>
      obtain ⟨hc, hws⟩ := List.forall_mem_cons.mp ((isBlankText_iff _).mp h)
      have hne : c ≠ sep := fun heq =>
        not_mem_of_isBlankText hsep h (heq ▸ List.mem_cons_self)
      obtain ⟨p, ps, hp, hcp⟩ := pieces_cons_of_ne hne (ws ++ s)
      have hrest := ih ((isBlankText_iff _).mpr hws)
      rw [hp] at hrest
      rw [List.cons_append, hcp, ← hrest, List.map_cons, List.map_cons, trim,
        trimLeft_cons_of_blank p hc, trim]

/-- Blanks at the right end reach the last piece only, and its right end there. -/
theorem map_trimRight_pieces_append_of_blank {sep : Char} (hsep : isBlank sep = false)
    (s : List Char) {ws : List Char} (h : isBlankText ws = true) :
  (pieces sep (s ++ ws)).map trimRight = (pieces sep s).map trimRight
  := by
  induction s with
  | nil =>
      rw [List.nil_append, pieces_of_not_mem (not_mem_of_isBlankText hsep h)]
      have hnil := trimRight_append_of_blank [] h
      rw [List.nil_append] at hnil
      simp [pieces, hnil]
  | cons c s ih =>
      by_cases hc : c = sep
      · rw [List.cons_append, pieces, if_pos hc, pieces, if_pos hc, List.map_cons, ih,
          List.map_cons]
      · obtain ⟨p, ps, hp, hcp⟩ := pieces_cons_of_ne hc (s ++ ws)
        obtain ⟨q, qs, hq, hcq⟩ := pieces_cons_of_ne hc s
        rw [hp, hq, List.map_cons, List.map_cons] at ih
        obtain ⟨hpq, hrest⟩ := List.cons.inj ih
        rw [List.cons_append, hcp, hcq, List.map_cons, List.map_cons, hrest, trimRight, hpq,
          trimRight]

theorem map_trim_pieces_append_of_blank_right {sep : Char} (hsep : isBlank sep = false)
    (s : List Char) {ws : List Char} (h : isBlankText ws = true) :
  (pieces sep (s ++ ws)).map trim = (pieces sep s).map trim
  := by
  have hright : trim = trim ∘ trimRight := by
    funext p
    exact (trim_trimRight p).symm
  rw [hright, ← List.map_map, map_trimRight_pieces_append_of_blank hsep s h, List.map_map]

/-- The trimmed pieces of a text are those of the trimmed text. -/
theorem map_trim_pieces_trim {sep : Char} (hsep : isBlank sep = false) (s : List Char) :
  (pieces sep (trim s)).map trim = (pieces sep s).map trim
  := by
  obtain ⟨ws, ws', hws, hws', hs⟩ := exists_append_trim_append s
  conv_rhs => rw [hs]
  rw [map_trim_pieces_append_of_blank_right hsep _ hws',
    map_trim_pieces_append_of_blank_left hsep hws]

/-! ### Lines -/

theorem unifyBreaks_of_not_mem {s : List Char} (h : '\r' ∉ s) :
  unifyBreaks s = s
  := by
  fun_induction unifyBreaks s with
  | case1 => rfl
  | case2 s ih => exact absurd (List.mem_cons_self ..) h
  | case3 s hno ih => exact absurd (List.mem_cons_self ..) h
  | case4 c s hno hno' ih => rw [ih fun hmem => h (List.mem_cons_of_mem _ hmem)]

/-- Once line breaks are read as line feeds, no carriage return is left. -/
theorem not_mem_unifyBreaks (s : List Char) :
  '\r' ∉ unifyBreaks s
  := by
  fun_induction unifyBreaks s with
  | case1 => exact List.not_mem_nil
  | case2 s ih => simp [ih]
  | case3 s hno ih => simp [ih]
  | case4 c s hno hno' ih =>
      rw [List.mem_cons, not_or]
      exact ⟨fun hc => hno' hc.symm, ih⟩

theorem mem_joined {c : Char} {sep : List Char} {ps : List (List Char)}
    (h : c ∈ joined sep ps) :
  c ∈ sep ∨ ∃ p ∈ ps, c ∈ p
  := by
  fun_induction joined sep ps with
  | case1 => simp at h
  | case2 s => exact Or.inr ⟨s, List.mem_cons_self .., h⟩
  | case3 s t rest ih =>
      rw [List.mem_append, List.mem_append] at h
      rcases h with (h | h) | h
      · exact Or.inr ⟨s, List.mem_cons_self .., h⟩
      · exact Or.inl h
      · rcases ih h with hsep | ⟨p, hp, hc⟩
        · exact Or.inl hsep
        · exact Or.inr ⟨p, List.mem_cons_of_mem _ hp, hc⟩

/-- The characters of a part are in the joined text. -/
theorem mem_of_mem_joined {c : Char} {sep p : List Char} {ps : List (List Char)} (hp : p ∈ ps)
    (hc : c ∈ p) :
  c ∈ joined sep ps
  := by
  fun_induction joined sep ps with
  | case1 => cases hp
  | case2 s =>
      rw [List.mem_singleton.mp hp] at hc
      exact hc
  | case3 s t rest ih =>
      rcases List.mem_cons.mp hp with rfl | hp
      · simp [hc]
      · exact List.mem_append_right _ (ih hp)

/-- Lines without line breaks, joined with line feeds, are the lines of the source they
make. -/
theorem sourceLines_joined {lines : List (List Char)} (hne : lines ≠ [])
    (h : ∀ line ∈ lines, '\n' ∉ line ∧ '\r' ∉ line) :
  sourceLines (joined ['\n'] lines) = lines
  := by
  have hcr : '\r' ∉ joined ['\n'] lines := by
    intro hmem
    rcases mem_joined hmem with hsep | ⟨p, hp, hc⟩
    · simp at hsep
    · exact (h p hp).2 hc
  rw [sourceLines, unifyBreaks_of_not_mem hcr, feedLines,
    pieces_joined hne fun p hp => (h p hp).1]

theorem mem_of_mem_pieces {sep c : Char} {s p : List Char} (hp : p ∈ pieces sep s)
    (hc : c ∈ p) :
  c ∈ s
  := by
  rw [← joined_pieces sep s]
  exact mem_of_mem_joined hp hc

theorem isBlankText_unifyBreaks {s : List Char} (h : isBlankText s = true) :
  isBlankText (unifyBreaks s) = true
  := by
  rw [isBlankText_iff] at h ⊢
  fun_induction unifyBreaks s with
  | case1 => exact h
  | case2 s ih => simp_all [isBlank]
  | case3 s hno ih => simp_all [isBlank]
  | case4 c s hno hno' ih => simp_all

theorem isBlankText_of_mem_sourceLines {s line : List Char} (h : isBlankText s = true)
    (hline : line ∈ sourceLines s) :
  isBlankText line = true
  := by
  apply (isBlankText_iff line).mpr
  intro c hc
  apply (isBlankText_iff _).mp (isBlankText_unifyBreaks h)
  apply mem_of_mem_pieces hline hc

/-! ### Joined texts -/

theorem toList_joinWith (sep : String) (ts : List String) :
  (joinWith sep ts).toList = joined sep.toList (ts.map String.toList)
  := by
  rw [joinWith]
  induction ts with
  | nil => rfl
  | cons t ts ih =>
      cases ts with
      | nil =>
          rw [String.intercalate_singleton]
          rfl
      | cons next ts =>
          rw [String.intercalate_cons_cons, String.toList_append, String.toList_append, ih]
          rfl

theorem joined_append (sep : List Char) {ps qs : List (List Char)} (hp : ps ≠ []) (hq : qs ≠ []) :
  joined sep (ps ++ qs) = joined sep ps ++ sep ++ joined sep qs
  := by
  fun_induction joined sep ps with
  | case1 => exact absurd rfl hp
  | case2 s =>
      obtain ⟨q, qs, rfl⟩ := List.exists_cons_of_ne_nil hq
      rfl
  | case3 s t rest ih =>
      have hrest := ih (List.cons_ne_nil t rest)
      rw [List.cons_append, List.cons_append, joined, ← List.cons_append, hrest]
      simp only [List.append_assoc]

theorem joined_append_head (sep s p : List Char) (ps : List (List Char)) :
  joined sep ((s ++ p) :: ps) = s ++ joined sep (p :: ps)
  := by
  cases ps with
  | nil => rfl
  | cons q qs => simp only [joined, List.append_assoc]

/-- What follows every separator may as well stand in front of every text but the first. -/
theorem joined_append_sep (sep gap p : List Char) (ps : List (List Char)) :
  joined (sep ++ gap) (p :: ps) = joined sep (p :: ps.map (gap ++ ·))
  := by
  induction ps generalizing p with
  | nil => rfl
  | cons q qs ih =>
      rw [joined, ih, List.map_cons, joined, joined_append_head]
      simp only [List.append_assoc]

/-- Joining groups of texts and then the groups is joining all texts. -/
theorem joined_map_joined (sep : List Char) {groups : List (List (List Char))}
    (h : ∀ group ∈ groups, group ≠ []) :
  joined sep (groups.map (joined sep)) = joined sep groups.flatten
  := by
  induction groups with
  | nil => rfl
  | cons group rest ih =>
      obtain ⟨hgroup, hrest⟩ := List.forall_mem_cons.mp h
      cases rest with
      | nil => simp [joined]
      | cons next later =>
          have hflat : (next :: later).flatten ≠ [] := by
            rw [List.flatten_cons]
            exact List.append_ne_nil_of_left_ne_nil (hrest next (List.mem_cons_self ..)) _
          rw [List.flatten_cons, joined_append sep hgroup hflat, ← ih hrest]
          rfl

/-! ### Lines of two sources -/

/-- A separator between two texts cuts between their pieces. -/
theorem pieces_append_sep (sep : Char) (s t : List Char) :
  pieces sep (s ++ sep :: t) = pieces sep s ++ pieces sep t
  := by
  induction s with
  | nil => simp [pieces]
  | cons c s ih =>
      by_cases hc : c = sep
      · rw [List.cons_append, pieces, if_pos hc, pieces, if_pos hc, ih, List.cons_append]
      · obtain ⟨p, ps, hp, hcp⟩ := pieces_cons_of_ne hc s
        obtain ⟨q, qs, hq, hcq⟩ := pieces_cons_of_ne hc (s ++ sep :: t)
        rw [ih, hp, List.cons_append] at hq
        obtain ⟨rfl, rfl⟩ := List.cons.inj hq
        rw [List.cons_append, hcq, hcp, List.cons_append]

theorem unifyBreaks_return_cons {c : Char} (hc : c ≠ '\n') (s : List Char) :
  unifyBreaks ('\r' :: c :: s) = '\n' :: unifyBreaks (c :: s)
  := by
  rw [unifyBreaks]
  intro t ht
  exact hc (List.cons.inj ht).1

theorem unifyBreaks_append_return (s : List Char) :
  unifyBreaks (s ++ ['\r']) = unifyBreaks s ++ ['\n']
  := by
  fun_induction unifyBreaks s with
  | case1 => rfl
  | case2 s ih => simp [unifyBreaks, ih]
  | case3 s hno ih =>
      cases s with
      | nil => rfl
      | cons c s =>
          have hc : c ≠ '\n' := fun h => hno s (by rw [h])
          rw [List.cons_append, List.cons_append, unifyBreaks_return_cons hc,
            ← List.cons_append, ih, List.cons_append]
  | case4 c s hno hno' ih => simp_all [unifyBreaks]

/-- A carriage return before a line feed makes one break with it, so the texts on either side
of a line feed are apart only when the first does not end with a carriage return. -/
theorem unifyBreaks_append_feed {s : List Char} (h : s.getLast? ≠ some '\r') (t : List Char) :
  unifyBreaks (s ++ '\n' :: t) = unifyBreaks s ++ '\n' :: unifyBreaks t
  := by
  have hlast : ∀ {c : Char} {s : List Char}, (c :: s).getLast? ≠ some '\r' →
      s.getLast? ≠ some '\r' := by
    intro c s h hs
    apply h
    rw [List.getLast?_cons, hs]
    rfl
  fun_induction unifyBreaks s with
  | case1 => simp [unifyBreaks]
  | case2 s ih => simp [unifyBreaks, ih (hlast (hlast h))]
  | case3 s hno ih =>
      cases s with
      | nil => exact absurd rfl h
      | cons c s =>
          have hc : c ≠ '\n' := fun h => hno s (by rw [h])
          rw [List.cons_append, List.cons_append, unifyBreaks_return_cons hc,
            ← List.cons_append, ih (hlast h), List.cons_append]
  | case4 c s hno hno' ih => simp_all [unifyBreaks, ih (hlast h)]

/-- A line feed between two sources ends the last line of the first, unless that line is
empty: the first source may then end with a carriage return. -/
theorem sourceLines_append_feed {s last : List Char}
    (hlast : (sourceLines s).getLast? = some last) (hne : last ≠ []) (t : List Char) :
  sourceLines (s ++ '\n' :: t) = sourceLines s ++ sourceLines t
  := by
  have hreturn : s.getLast? ≠ some '\r' := by
    intro h
    obtain ⟨before, rfl⟩ := List.getLast?_eq_some_iff.mp h
    rw [sourceLines, unifyBreaks_append_return, feedLines, pieces_append_sep,
      List.getLast?_append] at hlast
    exact hne (Option.some.inj hlast).symm
  rw [sourceLines, unifyBreaks_append_feed hreturn, feedLines, pieces_append_sep]
  rfl

end SourceAudit.Text
