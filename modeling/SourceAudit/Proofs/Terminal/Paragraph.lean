import SourceAudit.Proofs.Text.Pieces
import SourceAudit.Proofs.Text.Trimming
import SourceAudit.Terminal.Screen
import Mathlib.Algebra.GroupWithZero.Nat

/-!
# Paragraphs

A paragraph shows every character of its text that can be seen, in order and once, whatever
lines it is broken into: only blanks are added and left out. A text on one line that fits the
screen is shown as it is: it is neither broken nor cut off, and nothing in it is expanded or
left out.
-/

namespace SourceAudit.Terminal

open Text

/-! ### Widths -/

theorem width_eq_sum (s : List Char) :
  width s = (s.map charWidth).sum
  := by
  rw [width, List.sum_eq_foldl]

@[simp]
theorem width_append (s t : List Char) :
  width (s ++ t) = width s + width t
  := by
  rw [width_eq_sum, width_eq_sum, width_eq_sum, List.map_append, List.sum_append]

theorem width_trimRight_le (s : List Char) :
  width (trimRight s) ≤ width s
  := by
  obtain ⟨blanks, -, hs⟩ := exists_trimRight_append s
  have hwidth := congrArg width hs
  rw [width_append] at hwidth
  omega

/-! ### Lines that fit -/

/-- The line holds no line feed, no tab and no control that would move the cursor. -/
def IsShownWhole (s : List Char) : Prop :=
  ∀ c ∈ s, ¬ (7 ≤ c.toNat ∧ c.toNat ≤ 13)

instance (s : List Char) : Decidable (IsShownWhole s) :=
  List.decidableBAll (fun c : Char => ¬ (7 ≤ c.toNat ∧ c.toNat ≤ 13)) s

theorem withoutControls_of_isShownWhole {s : List Char} (h : IsShownWhole s) :
  withoutControls s = s
  := by
  rw [withoutControls, List.filter_eq_self]
  intro c hc
  have hc := h c hc
  simp
  omega

theorem expandTabs_of_not_mem {s : List Char} (h : '\t' ∉ s) (position : Nat) :
  expandTabs position s = s
  := by
  induction s generalizing position with
  | nil => rfl
  | cons c s ih =>
      rw [List.mem_cons, not_or] at h
      rw [expandTabs, if_neg (Ne.symm h.1), ih h.2]

section

variable (overflow : Overflow) {cells : Nat}

/-- Words that fit on a line together are put on it one after another. -/
theorem layWords_of_width_le {line : List Char} {words : List (List Char)}
    (h : width (line ++ words.flatten) ≤ cells) :
  layWords overflow cells line (width line) words = [line ++ words.flatten]
  := by
  induction words generalizing line with
  | nil => rw [layWords, List.flatten_nil, List.append_nil]
  | cons word words ih =>
      rw [List.flatten_cons, ← List.append_assoc] at h
      have hword : width line + width (trimRight word) ≤ cells := by
        have htrim := width_trimRight_le word
        rw [width_append, width_append] at h
        omega
      rw [layWords, if_pos hword, ← width_append, ih h, List.flatten_cons, List.append_assoc]

/-- A line within its bound stays as it is. -/
theorem fitted_of_le {line : List Char} (hlength : line.length ≤ cells)
    (hwidth : width line ≤ cells) :
  fitted overflow cells line = line
  := by
  simp only [fitted, Nat.sub_eq_zero_of_le hlength, Nat.zero_min, Nat.sub_zero,
    List.take_length]
  rw [if_pos hwidth]

theorem brokenLine_of_le {line : List Char} (htab : '\t' ∉ line)
    (hblank : isBlankText line = false) (hlength : line.length ≤ cells)
    (hwidth : width line ≤ cells) :
  brokenLine overflow false cells line = [line]
  := by
  have hwords : words line ≠ [] := by
    intro hnil
    have hflat := flatten_words hblank
    rw [hnil] at hflat
    rw [← hflat] at hblank
    cases hblank
  have hlaid : layWords overflow cells [] 0 (words line) = [line] := by
    have hfits : width ([] ++ (words line).flatten) ≤ cells := by
      rwa [List.nil_append, flatten_words hblank]
    have hlay := layWords_of_width_le overflow hfits
    rw [List.nil_append, flatten_words hblank] at hlay
    exact hlay
  rw [brokenLine, expandTabs_of_not_mem htab, if_neg (by simp [hwords]), hlaid,
    List.map_singleton, fitted_of_le overflow hlength hwidth]

end

/-- A text on one line that fits the screen is shown as it is when none of its names stands for
a picture. -/
theorem pictureParagraph_of_le {s : String} (hpictures : withPictures s.toList = s.toList)
    (hwhole : IsShownWhole s.toList) (hblank : isBlankText s.toList = false)
    (hlength : s.toList.length ≤ screenWidth) (hwidth : width s.toList ≤ screenWidth) :
  pictureParagraph s = [s.toList]
  := by
  have hfeed : '\n' ∉ s.toList := fun hmem => hwhole _ hmem (by decide)
  have htab : '\t' ∉ s.toList := fun hmem => hwhole _ hmem (by decide)
  rw [pictureParagraph, hpictures, withoutControls_of_isShownWhole hwhole, broken, feedLines,
    pieces_of_not_mem hfeed, List.flatMap_singleton,
    brokenLine_of_le .fold htab hblank hlength hwidth]

/-! ### What can be seen

A word that is too wide for a line goes on in the next one, so that a line is too wide only by
the blanks at its end, and what is cropped there are blanks.
-/

/-- The characters of a text that leave a mark on a screen. -/
def marks (s : List Char) : List Char :=
  s.filter fun c => !isBlank c

/-- The marks on the lines of a screen. -/
def seen (lines : Screen) : List Char :=
  lines.flatMap marks

@[simp]
theorem marks_append (s t : List Char) :
  marks (s ++ t) = marks s ++ marks t
  := List.filter_append s t

@[simp]
theorem seen_append (lines lines' : Screen) :
  seen (lines ++ lines') = seen lines ++ seen lines'
  := List.flatMap_append

theorem seen_eq_marks_flatten (lines : Screen) :
  seen lines = marks lines.flatten
  := List.filter_flatten.symm

theorem marks_of_isBlankText {s : List Char} (h : isBlankText s = true) :
  marks s = []
  := by
  apply List.filter_eq_nil_iff.mpr
  intro c hc
  simp [(isBlankText_iff s).mp h c hc]

theorem marks_expandTabs (position : Nat) (s : List Char) :
  marks (expandTabs position s) = marks s
  := by
  induction s generalizing position with
  | nil => rfl
  | cons c s ih =>
      rw [expandTabs]
      split
      · rename_i hc
        have hblanks : isBlankText (List.replicate (tabWidth - position % tabWidth) ' ') = true := by
          rw [isBlankText, List.all_replicate]
          simp [isBlank]
        subst hc
        rw [marks_append, marks_of_isBlankText hblanks, ih]
        rfl
      · rw [marks, marks, List.filter_cons, List.filter_cons, ← marks, ih]
        rfl

theorem charWidth_le_two (c : Char) :
  charWidth c ≤ 2
  := by
  rw [charWidth]
  split_ifs <;> decide

/-! #### Words in lines -/

theorem flatten_fillLines (cells : Nat) (begun : List Char) (used : Nat) (s : List Char) :
  (fillLines cells begun used s).flatten = begun ++ s
  := by
  induction s generalizing begun used with
  | nil => simp [fillLines]
  | cons c s ih =>
      rw [fillLines]
      split
      · rw [List.flatten_cons, ih, List.singleton_append]
      · rw [ih, List.append_assoc, List.singleton_append]

theorem fillLines_ne_nil (cells : Nat) (begun : List Char) (used : Nat) (s : List Char) :
  fillLines cells begun used s ≠ []
  := by
  induction s generalizing begun used with
  | nil => simp [fillLines]
  | cons c s ih =>
      rw [fillLines]
      split
      · simp
      · exact ih _ _

section

variable {cells : Nat} (hcells : 2 ≤ cells)

include hcells

theorem width_le_of_mem_fillLines {begun s part : List Char} (hbegun : width begun ≤ cells)
    (h : part ∈ fillLines cells begun (width begun) s) :
  width part ≤ cells
  := by
  induction s generalizing begun with
  | nil =>
      rw [List.mem_singleton.mp h]
      exact hbegun
  | cons c s ih =>
      have hwidth : width [c] = charWidth c := by simp [width_eq_sum]
      rw [fillLines, ← hwidth, ← width_append] at h
      split at h
      · rcases List.mem_cons.mp h with rfl | h
        · exact hbegun
        · apply ih _ h
          rw [hwidth]
          exact (charWidth_le_two c).trans hcells
      · exact ih (by omega) h

omit hcells in
theorem width_trimRight_append_le {line word : List Char} (hline : width (trimRight line) ≤ cells)
    (hword : width line + width (trimRight word) ≤ cells) :
  width (trimRight (line ++ word)) ≤ cells
  := by
  obtain ⟨blanks, hblanks, hsplit⟩ := exists_trimRight_append word
  cases hempty : trimRight word with
  | nil =>
      rw [hempty, List.nil_append] at hsplit
      rw [hsplit, trimRight_append_of_blank line hblanks]
      exact hline
  | cons c t =>
      have htrim := width_trimRight_le (line ++ trimRight word)
      rw [width_append] at htrim
      rw [hsplit, ← List.append_assoc, trimRight_append_of_blank _ hblanks]
      omega

/-- Laying words out keeps their characters, and a line is too wide only by its last blanks. -/
theorem layWords_spec {line : List Char} (hline : width (trimRight line) ≤ cells)
    (words : List (List Char)) :
  (layWords .fold cells line (width line) words).flatten = line ++ words.flatten
  ∧ ∀ l ∈ layWords .fold cells line (width line) words, width (trimRight l) ≤ cells
  := by
  induction words generalizing line with
  | nil => simpa [layWords] using hline
  | cons word words ih =>
      have hbefore : (if line.isEmpty then [] else [line]).flatten = line := by
        cases line with
        | nil => rfl
        | cons c line => simp
      have hfits : ∀ l ∈ (if line.isEmpty then [] else [line]), width (trimRight l) ≤ cells := by
        intro l hl
        split at hl
        · cases hl
        · rw [List.mem_singleton.mp hl]
          exact hline
      rw [layWords]
      dsimp only
      split
      · rename_i hword
        obtain ⟨hflat, hlines⟩ := ih (width_trimRight_append_le hline hword)
        rw [← width_append]
        refine ⟨?_, hlines⟩
        rw [hflat, List.flatten_cons, List.append_assoc]
      · split
        · have hne := fillLines_ne_nil cells [] 0 word
          have hparts : ∀ part ∈ fillLines cells [] 0 word, width part ≤ cells := fun _ =>
            width_le_of_mem_fillLines hcells (Nat.zero_le _)
          rw [List.getLast?_eq_some_getLast hne, Option.getD_some]
          obtain ⟨hflat, hlines⟩ := ih
            ((width_trimRight_le _).trans (hparts _ (List.getLast_mem hne)))
          have hword : (fillLines cells [] 0 word).dropLast.flatten
              ++ (fillLines cells [] 0 word).getLast hne = word := by
            have hsplit := congrArg List.flatten (List.dropLast_append_getLast hne)
            rw [flatten_fillLines, List.flatten_append, List.flatten_singleton,
              List.nil_append] at hsplit
            exact hsplit
          constructor
          · rw [List.flatten_append, List.flatten_append, hflat, hbefore, List.flatten_cons,
              List.append_assoc, ← List.append_assoc _ _ words.flatten, hword]
          · intro l hl
            rcases List.mem_append.mp hl with hl | hl
            · rcases List.mem_append.mp hl with hl | hl
              · exact hfits l hl
              · exact (width_trimRight_le l).trans (hparts l (List.dropLast_subset _ hl))
            · exact hlines l hl
        · rename_i hwide
          have hword : width (trimRight word) ≤ cells := by simpa using hwide
          obtain ⟨hflat, hlines⟩ := ih hword
          constructor
          · rw [List.flatten_append, hbefore, hflat, List.flatten_cons]
          · intro l hl
            rcases List.mem_append.mp hl with hl | hl
            · exact hfits l hl
            · exact hlines l hl

end

/-! #### Lines within their bound -/

theorem marks_cropped_of_isBlankText {s : List Char} (h : isBlankText s = true) (cells : Nat) :
  marks (cropped cells s) = []
  := by
  induction s generalizing cells with
  | nil => rfl
  | cons c s ih =>
      rw [isBlankText, List.all_cons, Bool.and_eq_true] at h
      rw [cropped]
      split
      · rw [marks, List.filter_cons_of_neg (by simp [h.1]), ← marks]
        exact ih h.2 _
      · apply marks_of_isBlankText
        rw [isBlankText, List.all_replicate]
        simp [isBlank]

theorem cropped_append {cells : Nat} {s : List Char} (h : width s ≤ cells) (t : List Char) :
  cropped cells (s ++ t) = s ++ cropped (cells - width s) t
  := by
  induction s generalizing cells with
  | nil => rfl
  | cons c s ih =>
      have hwidth : width (c :: s) = charWidth c + width s := by simp [width_eq_sum]
      rw [hwidth] at h
      rw [List.cons_append, cropped, if_pos (by omega), ih (by omega), hwidth, Nat.sub_add_eq,
        List.cons_append]

/-- A line keeps its marks within its bound. -/
theorem marks_fitted {cells : Nat} {line : List Char} (h : width (trimRight line) ≤ cells) :
  marks (fitted .fold cells line) = marks line
  := by
  obtain ⟨blanks, hblanks, hsplit⟩ := exists_trimRight_append line
  rw [fitted]
  have hle : (trimRight line).length ≤ line.length - min (line.length - cells)
      (line.length - (trimRight line).length) := by
    have hlength := congrArg List.length hsplit
    rw [List.length_append] at hlength
    omega
  -- what is taken off the line are blanks at its end
  generalize line.length - min (line.length - cells)
    (line.length - (trimRight line).length) = n at hle
  have hkept : line.take n = trimRight line ++ blanks.take (n - (trimRight line).length) := by
    have htake := congrArg (List.take n) hsplit
    rwa [List.take_append, List.take_of_length_le hle] at htake
  have hrest : isBlankText (blanks.take (n - (trimRight line).length)) = true := by
    rw [isBlankText_iff] at hblanks ⊢
    exact fun c hc => hblanks c (List.mem_of_mem_take hc)
  have hmarks : marks line = marks (trimRight line) := by
    have hall := congrArg marks hsplit
    rwa [marks_append, marks_of_isBlankText hblanks, List.append_nil] at hall
  rw [hkept, hmarks]
  split
  · rw [marks_append, marks_of_isBlankText hrest, List.append_nil]
  · rw [cropped_append h, marks_append, marks_cropped_of_isBlankText hrest, List.append_nil]

/-- The lines that a line is broken into keep its marks, in order. -/
theorem seen_brokenLine {cells : Nat} (hcells : 2 ≤ cells) (line : List Char) :
  seen (brokenLine .fold false cells line) = marks line
  := by
  rw [brokenLine, Bool.false_or]
  rw [← marks_expandTabs 0 line]
  generalize expandTabs 0 line = line
  have hfitted : ∀ laid : Screen, (∀ l ∈ laid, width (trimRight l) ≤ cells) →
      seen (laid.map (fitted .fold cells)) = marks laid.flatten := by
    intro laid hlaid
    rw [← seen_eq_marks_flatten, seen, seen, List.flatMap_map]
    apply List.flatMap_congr
    intro l hl
    exact marks_fitted (hlaid l hl)
  cases hblank : isBlankText line with
  | true =>
      have htrim : trimRight line = [] :=
        (trimRight_eq_nil_iff line).mpr ((isBlankText_iff line).mp hblank)
      rw [words_of_blank hblank, List.isEmpty_nil, if_pos rfl, hfitted]
      · rw [List.flatten_singleton]
      · intro l hl
        rw [List.mem_singleton.mp hl, htrim]
        exact Nat.zero_le _
  | false =>
      have hwords : words line ≠ [] := by
        intro hnil
        have hflat := flatten_words hblank
        rw [hnil] at hflat
        rw [← hflat] at hblank
        cases hblank
      have hstart : width (trimRight []) ≤ cells := Nat.zero_le _
      obtain ⟨hflat, hlines⟩ := layWords_spec hcells hstart (words line)
      rw [if_neg (by simp [hwords])]
      exact (hfitted _ hlines).trans (congrArg marks (hflat.trans (flatten_words hblank)))

/-- A text in lines shows its marks, in order. -/
theorem seen_broken {cells : Nat} (hcells : 2 ≤ cells) (s : List Char) :
  seen (broken .fold false cells s) = marks s
  := by
  have hfeed : marks (feedLines s).flatten = marks s := by
    rw [feedLines, flatten_pieces, marks, marks, List.filter_filter]
    apply List.filter_congr
    intro c _
    by_cases hc : c = '\n'
    · rw [hc]
      rfl
    · simp [hc]
  rw [← hfeed, ← seen_eq_marks_flatten, seen, seen, broken, List.flatMap_assoc]
  apply List.flatMap_congr
  intro line _
  exact seen_brokenLine hcells line

/-- The marks of a text when it is printed. -/
def textMarks (s : String) : List Char :=
  marks (withoutControls s.toList)

/-- The marks of a text that is printed with pictures for the names between colons. -/
def pictureMarks (s : String) : List Char :=
  marks (withoutControls (withPictures s.toList))

@[simp]
theorem textMarks_append (s t : String) :
  textMarks (s ++ t) = textMarks s ++ textMarks t
  := by
  rw [textMarks, String.toList_append, withoutControls, List.filter_append, marks_append]
  rfl

theorem pictureMarks_append {s : String} (h : ':' ∉ s.toList) (t : String) :
  pictureMarks (s ++ t) = textMarks s ++ pictureMarks t
  := by
  rw [pictureMarks, String.toList_append, withPictures_append_of_not_mem h, withoutControls,
    List.filter_append, marks_append]
  rfl

/-- A paragraph shows the marks of its text, in order. -/
theorem seen_paragraph (s : String) :
  seen (paragraph s) = textMarks s
  := seen_broken (by decide) _

theorem seen_pictureParagraph (s : String) :
  seen (pictureParagraph s) = pictureMarks s
  := seen_broken (by decide) _

end SourceAudit.Terminal
