import SourceAudit.Review.Change
import SourceAudit.Proofs.Text.Occurrence
import Mathlib.Data.List.Induction

/-!
# Numbered lines and blocks that hide them

Reading a section does two things that have nothing to do with one another. The headers of
hunks give every line its number, and a number of too many digits is the only thing that
makes the section unreadable. Of the lines that are numbered those are seen that hold no
marker and do not stand in a block that an earlier line opens. A line with both markers
opens a block.
-/

namespace SourceAudit

open Text

/-! ### Numbers -/

/-- The line is the header of a hunk whose first line number has too many digits. -/
def DiffLine.IsTooLong : DiffLine → Prop
  | .hunk digits => maxDigits < digits.length
  | .passedOver => False
  | .content _ => False

instance : DecidablePred DiffLine.IsTooLong
  | .hunk digits => inferInstanceAs (Decidable (maxDigits < digits.length))
  | .passedOver => inferInstanceAs (Decidable False)
  | .content _ => inferInstanceAs (Decidable False)

@[simp]
theorem DiffLine.isTooLong_hunk (digits : List Char) :
  (hunk digits).IsTooLong ↔ maxDigits < digits.length
  := Iff.rfl

@[simp]
theorem DiffLine.not_isTooLong_passedOver :
  ¬ passedOver.IsTooLong
  := not_false

@[simp]
theorem DiffLine.not_isTooLong_content (text : List Char) :
  ¬ (content text).IsTooLong
  := not_false

/-- The number of the next line, after a line that comes before it. -/
def nextNumber (next : Option Nat) : DiffLine → Option Nat
  | .hunk digits => some ((decimalNumber? digits).getD 0)
  | .passedOver => next
  | .content _ => next.map (· + 1)

/-- The lines that count, with their numbers, given the number of the next line once a hunk
has begun. -/
def numbered : Option Nat → List DiffLine → List (Nat × List Char)
  | _, [] => []
  | next, .content text :: rest =>
    next.toList.map (·, text) ++ numbered (nextNumber next (.content text)) rest
  | next, line :: rest => numbered (nextNumber next line) rest

theorem numbered_append (next : Option Nat) (lines lines' : List DiffLine) :
  numbered next (lines ++ lines')
    = numbered next lines ++ numbered (lines.foldl nextNumber next) lines'
  := by
  induction lines generalizing next with
  | nil => rfl
  | cons line lines ih => cases line <;> simp [numbered, ih]

/-- The header of a hunk begins with two at signs. -/
theorem prefix_of_ofText_eq_hunk {line digits : List Char}
    (h : DiffLine.ofText line = .hunk digits) :
  ['@', '@'] <+: line
  := by
  rw [← startsWith_iff]
  by_contra hno
  rw [DiffLine.ofText.eq_def, if_neg hno] at h
  split at h <;> cases h

/-- Before the first hunk no line counts. -/
theorem numbered_append_of_no_hunk {lines : List DiffLine}
    (h : ∀ line ∈ lines, ∀ digits, line ≠ .hunk digits) (rest : List DiffLine) :
  numbered none (lines ++ rest) = numbered none rest
  := by
  induction lines with
  | nil => rfl
  | cons line lines ih =>
      rw [List.forall_mem_cons] at h
      rw [← ih h.2]
      cases line with
      | hunk digits => exact absurd rfl (h.1 digits)
      | passedOver => rfl
      | content text => rfl

/-! ### Blocks -/

/-- The line opens a block of hidden lines. -/
def OpensBlock (text : List Char) : Prop :=
  hidingMarker <:+: text

/-- The line ends the block of hidden lines that it stands in. -/
def ClosesBlock (text : List Char) : Prop :=
  showingMarker <:+: text ∧ ¬ OpensBlock text

/-- Below these lines one is in a block: one of them opens it, and none after it ends it. -/
def InBlock (above : List (List Char)) : Prop :=
  ∃ before opening after, above = before ++ opening :: after ∧ OpensBlock opening
    ∧ ∀ text ∈ after, ¬ ClosesBlock text

/-- The line neither opens nor closes a block: it holds no marker. -/
def IsUnmarked (text : List Char) : Prop :=
  ¬ OpensBlock text ∧ ¬ ClosesBlock text

/-- The line is seen below these lines: it holds no marker and is not in a block. -/
def IsVisible (above : List (List Char)) (text : List Char) : Prop :=
  IsUnmarked text ∧ ¬ InBlock above

instance : DecidablePred OpensBlock :=
  fun text => inferInstanceAs (Decidable (hidingMarker <:+: text))

instance : DecidablePred ClosesBlock :=
  fun text => inferInstanceAs (Decidable (showingMarker <:+: text ∧ ¬ OpensBlock text))

theorem not_inBlock_nil :
  ¬ InBlock []
  := by
  rintro ⟨before, opening, after, h, -, -⟩
  simp at h

/-- What a line makes of being in a block. -/
theorem inBlock_append_singleton_iff (above : List (List Char)) (text : List Char) :
  InBlock (above ++ [text]) ↔ OpensBlock text ∨ InBlock above ∧ ¬ ClosesBlock text
  := by
  constructor
  · rintro ⟨before, opening, after, h, hopen, hafter⟩
    rcases List.eq_nil_or_concat after with rfl | ⟨after, last, rfl⟩
    · left
      obtain ⟨-, hlast⟩ := List.append_inj' h rfl
      rw [List.singleton_inj.mp hlast]
      exact hopen
    · right
      rw [List.concat_eq_append] at h hafter
      rw [← List.cons_append, ← List.append_assoc] at h
      obtain ⟨habove, hlast⟩ := List.append_inj' h rfl
      rw [List.forall_mem_append] at hafter
      rw [List.singleton_inj.mp hlast]
      exact ⟨⟨before, opening, after, habove, hopen, hafter.1⟩, hafter.2 last (by simp)⟩
  · rintro (hopen | ⟨⟨before, opening, after, rfl, hopen, hafter⟩, hclose⟩)
    · use above, text, [], rfl, hopen
      rintro l ⟨⟩
    · use before, opening, after ++ [text], by simp, hopen
      rw [List.forall_mem_append, List.forall_mem_singleton]
      exact ⟨hafter, hclose⟩

/-- Whether one is in a block, after a line below which one was or was not. -/
def blockAfter (hidden : Bool) (text : List Char) : Bool :=
  decide (OpensBlock text) || hidden && !decide (ClosesBlock text)

theorem foldl_blockAfter_eq_true_iff (above : List (List Char)) :
  above.foldl blockAfter false = true ↔ InBlock above
  := by
  induction above using List.reverseRecOn with
  | nil => simp [not_inBlock_nil]
  | append_singleton above text ih =>
      rw [inBlock_append_singleton_iff, ← ih]
      simp [blockAfter]

instance : DecidablePred InBlock :=
  fun above => decidable_of_iff _ (foldl_blockAfter_eq_true_iff above)

instance (above : List (List Char)) (text : List Char) : Decidable (IsVisible above text) :=
  inferInstanceAs (Decidable ((¬ OpensBlock text ∧ ¬ ClosesBlock text) ∧ ¬ InBlock above))

/-- Those of the numbered lines that are seen, given the lines above them. -/
def shown (above : List (List Char)) : List (Nat × List Char) → List (Nat × List Char)
  | [] => []
  | (n, text) :: rest =>
    let below := shown (above ++ [text]) rest
    if IsVisible above text then (n, text) :: below else below

theorem shown_append (above : List (List Char)) (entries entries' : List (Nat × List Char)) :
  shown above (entries ++ entries')
    = shown above entries ++ shown (above ++ entries.map Prod.snd) entries'
  := by
  induction entries generalizing above with
  | nil => simp [shown]
  | cons entry entries ih =>
      obtain ⟨n, text⟩ := entry
      rw [List.cons_append, shown, shown, ih]
      split
      · simp
      · simp

/-- Of the lines above it matters only whether one is in a block below them. -/
theorem shown_congr {above above' : List (List Char)} (h : InBlock above ↔ InBlock above')
    (entries : List (Nat × List Char)) :
  shown above entries = shown above' entries
  := by
  induction entries generalizing above above' with
  | nil => rfl
  | cons entry entries ih =>
      obtain ⟨n, text⟩ := entry
      have hnext : InBlock (above ++ [text]) ↔ InBlock (above' ++ [text]) := by
        rw [inBlock_append_singleton_iff, inBlock_append_singleton_iff, h]
      rw [shown, shown, ih hnext]
      apply if_congr _ rfl rfl
      rw [IsVisible, IsVisible, h]

/-- A line without markers is seen unless it is in a block, and changes nothing for the lines
below it. -/
theorem shown_cons_of_isUnmarked {text : List Char} (h : IsUnmarked text)
    (above : List (List Char)) (n : Nat) (entries : List (Nat × List Char)) :
  shown above ((n, text) :: entries)
    = if InBlock above then shown above entries else (n, text) :: shown above entries
  := by
  have hsame : InBlock (above ++ [text]) ↔ InBlock above := by
    rw [inBlock_append_singleton_iff]
    simp [h.1, h.2]
  rw [shown, shown_congr hsame]
  by_cases hin : InBlock above
  · rw [if_pos hin, if_neg fun hvisible => hvisible.2 hin]
  · rw [if_neg hin, if_pos ⟨h, hin⟩]

/-! ### Reading a section -/

/-- A line of a hunk is seen or not as it is below the lines above it, and those below it
are then read as they are below all of these. -/
theorem visibleLines_content {hidden : Bool} {above : List (List Char)}
    (h : hidden = true ↔ InBlock above) (n : Nat) (text : List Char) (rest : List DiffLine) :
  visibleLines hidden (some n) (.content text :: rest)
    = (visibleLines (blockAfter hidden text) (some (n + 1)) rest).map fun seen =>
      if IsVisible above text then (n, text) :: seen else seen
  := by
  have hopen : occurs hidingMarker text = true ↔ OpensBlock text := occurs_iff _ _
  have hclose : occurs showingMarker text = true ↔ showingMarker <:+: text := occurs_iff _ _
  have hsame : ∀ result : Except DiffFault (List (Nat × List Char)),
      result = result.map fun seen => seen := by
    intro result
    exact (congrFun Except.map_id result).symm
  rw [visibleLines]
  -- a line with both markers opens a block, so the one that opens it is looked for first
  by_cases hmark : OpensBlock text
  · have hafter : blockAfter hidden text = true := by simp [blockAfter, hmark]
    simp only [hopen, hmark, if_true, hafter, IsVisible, IsUnmarked, not_true, false_and, if_false]
    apply hsame
  · by_cases hend : showingMarker <:+: text
    · have hcloses : ClosesBlock text := ⟨hend, hmark⟩
      have hafter : blockAfter hidden text = false := by simp [blockAfter, hmark, hcloses]
      simp only [hopen, hmark, hclose, hend, hcloses, if_true, hafter, IsVisible, IsUnmarked, not_true,
        false_and, and_false, if_false]
      apply hsame
    · have hcloses : ¬ ClosesBlock text := fun h => hend h.1
      have hafter : blockAfter hidden text = hidden := by simp [blockAfter, hmark, hcloses]
      simp only [hopen, hmark, hclose, hend, hcloses, hafter, IsVisible, IsUnmarked, ← h, not_false_iff,
        true_and, if_false]
      cases hidden with
      | true => apply hsame
      | false => rfl

/-- The lines of a section are numbered whether or not they are seen, and a number of too many
digits makes it unreadable wherever it stands. -/
theorem visibleLines_eq {hidden : Bool} {above : List (List Char)}
    (h : hidden = true ↔ InBlock above) (next : Option Nat) (lines : List DiffLine) :
  visibleLines hidden next lines
    = if ∃ line ∈ lines, line.IsTooLong then .error .tooManyDigits
      else .ok (shown above (numbered next lines))
  := by
  induction lines generalizing hidden above next with
  | nil => simp [visibleLines, numbered, shown]
  | cons line lines ih =>
      simp only [List.mem_cons, exists_eq_or_imp]
      cases line with
      | hunk digits =>
          rw [visibleLines]
          by_cases hlong : maxDigits < digits.length
          · simp [hlong]
          · rw [if_neg hlong, ih h]
            simp [hlong, numbered, nextNumber]
      | passedOver =>
          rw [visibleLines, ih h]
          simp [numbered, nextNumber]
      | content text =>
          cases next with
          | none =>
              rw [visibleLines, ih h]
              simp [numbered, nextNumber]
          | some n =>
              have hafter : blockAfter hidden text = true ↔ InBlock (above ++ [text]) := by
                rw [inBlock_append_singleton_iff, ← h]
                simp [blockAfter]
              rw [visibleLines_content h, ih hafter]
              by_cases hlong : ∃ line ∈ lines, line.IsTooLong
              · simp [hlong, Except.map]
              · simp [hlong, Except.map, numbered, nextNumber, shown]

end SourceAudit
