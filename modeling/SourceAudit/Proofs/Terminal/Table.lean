import SourceAudit.Proofs.Terminal.Paragraph
import SourceAudit.Proofs.Text.Boundary
import SourceAudit.Terminal.Table

/-!
# The first column of a table

When the cells of its first column are kept whole and those of all others may be broken, a table
is narrowed at the expense of the others alone. Under its headings the lines of the table show
the first cells from top to bottom, one for each row; a word that takes more cells than the
screen has is cut off.
-/

namespace SourceAudit.Terminal

open Text

/-! ### Narrowing -/

theorem totalWidth_eq_sum (sizes : List Nat) :
  totalWidth sizes = sizes.sum
  := List.sum_eq_foldl.symm

theorem nearestQuotient_zero (d : Nat) :
  nearestQuotient 0 d = 0
  := by
  simp [nearestQuotient]

@[simp]
theorem nearestQuotient_one (n : Nat) :
  nearestQuotient n 1 = n
  := by
  simp [nearestQuotient, Nat.mod_one]

theorem length_takeOff (excess : Nat) (parts : List (Nat × Nat × Bool)) :
  (takeOff excess parts).length = parts.length
  := by
  induction parts generalizing excess with
  | nil => rfl
  | cons p parts ih =>
      rw [takeOff]
      dsimp only
      split <;> rw [List.length_cons, ih, List.length_cons]

/-- Nothing is taken off when there is no excess. -/
theorem takeOff_zero (parts : List (Nat × Nat × Bool)) :
  takeOff 0 parts = parts.map Prod.fst
  := by
  induction parts with
  | nil => rfl
  | cons p parts ih =>
      rw [takeOff, nearestQuotient_zero, Nat.min_zero]
      dsimp only
      rw [Nat.sub_zero, Nat.sub_zero, ih, ite_self, List.map_cons]

theorem takeOff_cons_false (excess size most : Nat) (parts : List (Nat × Nat × Bool)) :
  takeOff excess ((size, most, false) :: parts) = size :: takeOff excess parts
  := rfl

theorem sum_takeOff_le (excess : Nat) (parts : List (Nat × Nat × Bool)) :
  (takeOff excess parts).sum ≤ (parts.map Prod.fst).sum
  := by
  induction parts generalizing excess with
  | nil => exact le_refl _
  | cons p parts ih =>
      rw [takeOff]
      dsimp only
      split
      · rw [List.sum_cons, List.map_cons, List.sum_cons]
        exact Nat.add_le_add (Nat.sub_le _ _) (ih _)
      · rw [List.sum_cons, List.map_cons, List.sum_cons]
        exact Nat.add_le_add_left (ih _) _

/-- An excess makes the columns narrower when something may be taken off one of them. -/
theorem sum_takeOff_lt {excess : Nat} (hexcess : 0 < excess) {parts : List (Nat × Nat × Bool)}
    (hmost : ∀ p ∈ parts, p.2.2 = true → p.2.1 ≤ p.1)
    (hsome : ∃ p ∈ parts, (p.2.2 && p.2.1 ≠ 0) = true) :
  (takeOff excess parts).sum < (parts.map Prod.fst).sum
  := by
  induction parts with
  | nil =>
      obtain ⟨p, hp, -⟩ := hsome
      cases hp
  | cons p parts ih =>
      obtain ⟨size, most, takesPart⟩ := p
      have hrest := ih fun p hp => hmost p (List.mem_cons_of_mem _ hp)
      rw [takeOff, List.map_cons, List.sum_cons]
      dsimp only
      split
      · rename_i hpart
        have hpart' := hpart
        rw [Bool.and_eq_true, decide_eq_true_iff] at hpart'
        have hle : most ≤ size := hmost _ List.mem_cons_self hpart'.1
        rw [List.sum_cons]
        cases hcount : parts.countP fun p => p.2.2 && p.2.1 ≠ 0 with
        | zero =>
            -- the last column of which something may be taken bears the whole excess
            have htail := sum_takeOff_le (excess - min most excess) parts
            rw [Nat.zero_add, nearestQuotient_one]
            omega
        | succ n =>
            have hmore : ∃ p ∈ parts, (p.2.2 && p.2.1 ≠ 0) = true := by
              rw [← List.countP_pos_iff, hcount]
              exact Nat.succ_pos n
            generalize hoff : min most (nearestQuotient excess (n + 1 + 1)) = off
            by_cases hzero : off = 0
            · rw [hzero, Nat.sub_zero, Nat.sub_zero]
              exact Nat.add_lt_add_left (hrest hmore) size
            · have htail := sum_takeOff_le (excess - off) parts
              omega
      · rename_i hno
        rw [List.sum_cons]
        apply Nat.add_lt_add_left
        apply hrest
        obtain ⟨p, hp, htakes⟩ := hsome
        rcases List.mem_cons.mp hp with rfl | hp
        · exact absurd htakes hno
        · exact ⟨p, hp, htakes⟩

theorem foldl_max_eq_or_mem (a : Nat) (ns : List Nat) :
  ns.foldl max a = a ∨ ns.foldl max a ∈ ns
  := by
  induction ns generalizing a with
  | nil => exact Or.inl rfl
  | cons n ns ih =>
      rw [List.foldl_cons]
      rcases ih (max a n) with heq | hmem
      · rw [heq]
        rcases max_choice a n with hmax | hmax
        · exact Or.inl hmax
        · exact Or.inr (List.mem_cons.mpr (Or.inl hmax))
      · exact Or.inr (List.mem_cons_of_mem n hmem)

theorem init_le_foldl_max (a : Nat) (ns : List Nat) :
  a ≤ ns.foldl max a
  := by
  induction ns generalizing a with
  | nil => exact le_refl a
  | cons n ns ih => exact (le_max_left a n).trans (ih _)

theorem le_foldl_max {n : Nat} {ns : List Nat} (h : n ∈ ns) (a : Nat) :
  n ≤ ns.foldl max a
  := by
  induction ns generalizing a with
  | nil => cases h
  | cons m ns ih =>
      rw [List.foldl_cons]
      rcases List.mem_cons.mp h with rfl | h
      · exact (le_max_right a n).trans (init_le_foldl_max _ ns)
      · exact ih h _

/-- The sizes of columns with whether they may be broken: the first may not, and all others
may. -/
theorem zip_flags (n : Nat) (sizes : List Nat) :
  (n :: sizes).zip (false :: List.replicate sizes.length true)
    = (n, false) :: sizes.map fun m => (m, true)
  := by
  rw [List.zip_cons_cons]
  congr 1
  induction sizes with
  | nil => rfl
  | cons m sizes ih =>
      rw [List.length_cons, List.replicate_succ, List.zip_cons_cons, ih, List.map_cons]

/-! ### The widest columns -/

section

variable {sizes : List Nat} {widest second : Nat} (hwidest : sizes.foldl max 0 = widest)
  (hsecond : (sizes.filter (· ≠ widest)).foldl max 0 = second)

include hsecond

theorem second_eq_zero_or_mem :
  second = 0 ∨ second ∈ sizes ∧ second ≠ widest
  := by
  rcases foldl_max_eq_or_mem 0 (sizes.filter (· ≠ widest)) with hzero | hmem
  · exact Or.inl (hsecond.symm.trans hzero)
  · rw [hsecond] at hmem
    simpa using Or.inr hmem

include hwidest

/-- Columns take no cells when the widest are no wider than all others. -/
theorem sum_eq_zero_of_widest_eq (h : widest = second) :
  sizes.sum = 0
  := by
  rw [List.sum_eq_zero_iff_forall_eq_nat]
  intro m hm
  have hm := le_foldl_max hm 0
  rcases second_eq_zero_or_mem hsecond with hzero | ⟨-, hne⟩
  · omega
  · exact absurd h.symm hne

theorem second_lt_widest (h : widest ≠ second) :
  widest ∈ sizes ∧ second < widest
  := by
  have hle : second ≤ widest := by
    rcases second_eq_zero_or_mem hsecond with hzero | ⟨hmem, -⟩
    · omega
    · exact hwidest ▸ le_foldl_max hmem 0
  constructor
  · rcases foldl_max_eq_or_mem 0 sizes with hzero | hmem
    · omega
    · rwa [hwidest] at hmem
  · omega

end

/-- When there is an excess, taking something off the widest columns makes all of them narrower
together. -/
theorem sum_takeOff_widest_lt {sizes : List Nat} {widest most excess : Nat}
    (hmem : widest ∈ sizes) (hexcess : 0 < excess) (hpos : most ≠ 0) (hle : most ≤ widest) :
  (takeOff excess (sizes.map fun m => (m, most, decide (m = widest)))).sum < sizes.sum
  := by
  have hsizes : (sizes.map fun m => (m, most, decide (m = widest))).map Prod.fst = sizes := by
    rw [List.map_map]
    exact List.map_id sizes
  apply lt_of_lt_of_eq _ (congrArg List.sum hsizes)
  apply sum_takeOff_lt hexcess
  · intro p hp htakes
    obtain ⟨m, -, rfl⟩ := List.mem_map.mp hp
    have hwide : m = widest := of_decide_eq_true htakes
    rw [hwide]
    exact hle
  · refine ⟨(widest, most, true), ?_, ?_⟩
    · exact List.mem_map.mpr ⟨widest, hmem, by simp⟩
    · simpa using hpos

section

variable {limit n : Nat} (hn : n ≤ limit)

include hn

/-- Narrowing the widest of all columns but the first brings the columns within their limit. -/
theorem exists_narrowWidest_eq (budget : Nat) {sizes : List Nat}
    (h : n + sizes.sum ≤ limit + budget) :
  ∃ narrowed : List Nat, n + narrowed.sum ≤ limit
    ∧ narrowWidest limit (false :: List.replicate sizes.length true) budget (n :: sizes)
      = n :: narrowed
  := by
  -- each turn takes at least one cell off, so that the budget is enough
  induction budget generalizing sizes with
  | zero => exact ⟨sizes, h, rfl⟩
  | succ budget ih =>
      have hmovable : (sizes.map fun m => (m, true)).filterMap
          (fun p => if p.2 then some p.1 else none) = sizes := by
        rw [List.filterMap_map]
        exact List.filterMap_some
      rw [narrowWidest, zip_flags, totalWidth_eq_sum, List.sum_cons, List.filterMap_cons_none rfl,
        hmovable]
      generalize hwidest : sizes.foldl max 0 = widest
      generalize hsecond : (sizes.filter (· ≠ widest)).foldl max 0 = second
      dsimp only
      split
      · rename_i hstop
        refine ⟨sizes, ?_, rfl⟩
        rw [Bool.or_eq_true, Bool.or_eq_true, decide_eq_true_iff, decide_eq_true_iff,
          List.isEmpty_iff] at hstop
        rcases hstop with (hexcess | rfl) | heq
        · omega
        · exact hn
        · have hzero := sum_eq_zero_of_widest_eq hwidest hsecond heq
          omega
      · rename_i hgo
        rw [Bool.or_eq_true, Bool.or_eq_true, decide_eq_true_iff, decide_eq_true_iff, not_or,
          not_or] at hgo
        obtain ⟨⟨hexcess, -⟩, hne⟩ := hgo
        obtain ⟨hmem, hlt⟩ := second_lt_widest hwidest hsecond hne
        rw [List.map_cons, Bool.false_and, takeOff_cons_false, List.map_map]
        generalize hmost : min (n + sizes.sum - limit) (widest - second) = most
        have hpos : most ≠ 0 := by omega
        have hless := sum_takeOff_widest_lt hmem (Nat.pos_of_ne_zero hexcess) hpos (by omega)
        generalize hparts : sizes.map (fun m => (m, most, decide (m = widest))) = parts at hless
        have hlength : (takeOff (n + sizes.sum - limit) parts).length = sizes.length := by
          rw [length_takeOff, ← hparts, List.length_map]
        have hbound : n + (takeOff (n + sizes.sum - limit) parts).sum ≤ limit + budget := by omega
        obtain ⟨narrowed, hfits, heq⟩ := ih hbound
        rw [hlength, ← hparts] at heq
        exact ⟨narrowed, hfits, heq⟩

/-- Fitting columns takes nothing off the first one. -/
theorem exists_fittedWidths_eq (sizes : List Nat) :
  ∃ fitting : List Nat,
    fittedWidths limit (false :: List.replicate sizes.length true) (n :: sizes) = n :: fitting
  := by
  rw [fittedWidths]
  split
  · exact ⟨sizes, rfl⟩
  · rw [totalWidth_eq_sum, List.sum_cons]
    have hbound : n + sizes.sum ≤ limit + (n + sizes.sum - limit) := by omega
    obtain ⟨narrowed, hfits, heq⟩ := exists_narrowWidest_eq hn _ hbound
    dsimp only
    rw [heq, totalWidth_eq_sum, List.sum_cons, Nat.sub_eq_zero_of_le hfits, takeOff_zero,
      List.map_map]
    exact ⟨narrowed, List.map_id _⟩

end

/-! ### The width of the first column -/

/-- The table has a first column whose cells are kept whole, under a heading of some width, and
all other columns may be broken. -/
structure Table.KeepsFirst (t : Table) (first : Column) (others : List Column) : Prop where
  columns : t.columns = first :: others
  whole : first.keepWhole = true
  breakable : ∀ c ∈ others, c.keepWhole = false
  heading : 0 < cellWidth first.heading.toList
  few : others.length + 5 ≤ screenWidth

/-- The number of cells for the columns, next to the lines between them. -/
def columnLimit (others : List Column) : Nat :=
  screenWidth - (others.length + 2)

/-- The first column has room for its widest cell, as far as the screen has. -/
theorem Table.KeepsFirst.exists_widths_eq {t : Table} {first : Column} {others : List Column}
    (h : t.KeepsFirst first others) :
  ∃ (size : Nat) (sizes : List Nat), t.widths = size :: sizes
    ∧ size ≤ columnLimit others ∧ 3 ≤ size
    ∧ ∀ row ∈ t.rows, ∀ cell cells, row = cell :: cells →
      size = columnLimit others ∨ cellWidth cell + 2 ≤ size
  := by
  generalize hwidest : ((t.allRows.map fun row => row[0]?.getD []).map cellWidth).foldl max 0
    = widest
  have hall : ∀ row ∈ t.allRows, cellWidth (row[0]?.getD []) ≤ widest := by
    intro row hrow
    rw [← hwidest]
    apply le_foldl_max
    exact List.mem_map_of_mem (List.mem_map_of_mem (f := fun row : Row => row[0]?.getD []) hrow)
  have hheading : cellWidth first.heading.toList ≤ widest := by
    have hfirst := hall (t.columns.map (·.heading.toList)) List.mem_cons_self
    rwa [h.columns] at hfirst
  have hflags : (first :: others).map (fun c => !c.keepWhole)
      = false :: List.replicate others.length true := by
    rw [List.map_cons, h.whole, Bool.not_true, List.map_eq_replicate_iff.mpr]
    intro c hc
    rw [h.breakable c hc, Bool.not_false]
  rw [Table.widths, h.columns, hflags, List.zipIdx_cons, List.map_cons]
  dsimp only
  rw [hwidest]
  generalize hsizes : (others.zipIdx (0 + 1)).map _ = sizes
  have hlength : sizes.length = others.length := by
    rw [← hsizes, List.length_map, List.length_zipIdx]
  obtain ⟨fitting, heq⟩ := exists_fittedWidths_eq
    (Nat.min_le_left (columnLimit others) (widest + 2)) sizes
  rw [hlength] at heq
  refine ⟨_, fitting, heq, Nat.min_le_left _ _, ?_, ?_⟩
  · have hpos := h.heading
    have hfew := h.few
    rw [columnLimit, Nat.le_min]
    omega
  · rintro row hrow cell cells rfl
    have hcell := hall _ (List.mem_cons_of_mem _ hrow)
    rw [List.getElem?_cons_zero, Option.getD_some] at hcell
    rcases Nat.le_total (columnLimit others) (widest + 2) with hle | hle
    · exact Or.inl (Nat.min_eq_left hle)
    · rw [Nat.min_eq_right hle]
      exact Or.inr (Nat.add_le_add_right hcell 2)

/-! ### Words -/

/-- A word in ASCII, without blanks and controls. -/
def IsAsciiWord (s : List Char) : Prop :=
  s ≠ [] ∧ ∀ c ∈ s, 33 ≤ c.toNat ∧ c.toNat ≤ 126

/-- The word as far as there are cells for it, with an ellipsis for the rest. -/
def cutOff (cells : Nat) (word : List Char) : List Char :=
  if word.length ≤ cells then word else word.take (cells - 1) ++ ['…']

section

variable {word : List Char} (h : IsAsciiWord word)

include h

theorem IsAsciiWord.isBlank {c : Char} (hc : c ∈ word) :
  Text.isBlank c = false
  := by
  have hrange := h.2 c hc
  rw [Text.isBlank, ← Bool.not_eq_true]
  simp only [Bool.or_eq_true, Bool.and_eq_true, decide_eq_true_iff, beq_iff_eq]
  omega

theorem IsAsciiWord.isOneLine :
  IsOneLine word
  := by
  intro c hc
  have hrange := h.2 c hc
  rw [isBoundary, ← Bool.not_eq_true]
  simp only [Bool.or_eq_true, Bool.and_eq_true, decide_eq_true_iff, beq_iff_eq]
  omega

theorem IsAsciiWord.not_mem {c : Char} (hc : c.toNat < 33 ∨ 126 < c.toNat) :
  c ∉ word
  := by
  intro hmem
  have hrange := h.2 c hmem
  omega

theorem IsAsciiWord.trimRight_eq :
  trimRight word = word
  := by
  rcases List.eq_nil_or_concat word with rfl | ⟨t, d, rfl⟩
  · rfl
  · rw [List.concat_eq_append] at h ⊢
    exact trimRight_append_cons (h.isBlank (by simp)) t []

theorem IsAsciiWord.charWidth_eq_one {c : Char} (hc : c ∈ word) :
  charWidth c = 1
  := by
  obtain ⟨hlow, hhigh⟩ := h.2 c hc
  rw [charWidth, if_pos]
  rw [Bool.and_eq_true, decide_eq_true_iff, decide_eq_true_iff, Char.le_def, Char.le_def,
    UInt32.le_iff_toNat_le, UInt32.le_iff_toNat_le]
  exact ⟨(by decide : ' '.toNat ≤ 33).trans hlow, hhigh⟩

theorem IsAsciiWord.width_eq :
  width word = word.length
  := by
  rw [width_eq_sum, List.map_congr_left fun c hc => h.charWidth_eq_one hc, List.map_const',
    List.sum_replicate_nat, Nat.mul_one]

theorem IsAsciiWord.cellWidth_eq :
  cellWidth word = word.length ∧ cellWidth (word ++ ['\n']) = word.length
  := by
  rw [cellWidth, cellWidth, boundaryLines_of_isOneLine h.isOneLine h.1,
    boundaryLines_append_of_isOneLine h.isOneLine rfl, List.map_singleton, h.width_eq]
  exact ⟨Nat.zero_max _, Nat.zero_max _⟩

theorem IsAsciiWord.cropped_eq {cells : Nat} (hcells : cells ≤ word.length) :
  cropped cells word = word.take cells
  := by
  have hwidth : ∀ c ∈ word, charWidth c = 1 := fun c hc => h.charWidth_eq_one hc
  clear h
  induction word generalizing cells with
  | nil =>
      rw [List.length_nil, Nat.le_zero] at hcells
      rw [hcells]
      rfl
  | cons c word ih =>
      rw [List.forall_mem_cons] at hwidth
      cases cells with
      | zero =>
          rw [cropped, hwidth.1, if_neg (by decide)]
          rfl
      | succ n =>
          rw [cropped, hwidth.1, if_pos (by omega), Nat.add_sub_cancel, List.take_succ_cons,
            ih (Nat.le_of_succ_le_succ hcells) hwidth.2]

theorem IsAsciiWord.fitted_eq (cells : Nat) :
  fitted .ellipsis cells word = cutOff cells word
  := by
  have hkept : fitted .ellipsis cells word
      = if width word ≤ cells then word else cropped (cells - 1) word ++ ['…'] := by
    rw [fitted, h.trimRight_eq, Nat.sub_self, Nat.min_zero, Nat.sub_zero, List.take_length]
  rw [hkept, cutOff, h.width_eq]
  split
  · rfl
  · rw [h.cropped_eq (by omega)]

/-- A word stands on one line of its cell, whether or not a line feed follows it. -/
theorem IsAsciiWord.cellLines_eq {first : Column} (hwhole : first.keepWhole = true) {size : Nat}
    (hsize : 3 ≤ size) :
  Table.cellLines first size word = [cutOff (size - 2) word]
    ∧ Table.cellLines first size (word ++ ['\n']) = [cutOff (size - 2) word, []]
  := by
  have hfeed : '\n' ∉ word := h.not_mem (by decide)
  have htab : '\t' ∉ word := h.not_mem (by decide)
  have hline : brokenLine .ellipsis true (size - 2) word = [cutOff (size - 2) word] := by
    rw [brokenLine, expandTabs_of_not_mem htab, Bool.true_or, if_pos rfl, List.map_singleton,
      h.fitted_eq]
  have hempty : brokenLine .ellipsis true (size - 2) [] = [[]] := by
    simp [brokenLine, expandTabs, fitted, width]
  rw [Table.cellLines, Table.cellLines, if_neg (by omega), if_neg (by omega), hwhole, broken,
    broken, feedLines, feedLines, pieces_of_not_mem hfeed, pieces_append_cons [] hfeed]
  constructor
  · rw [List.flatMap_singleton, hline]
  · rw [List.flatMap_cons, hline, pieces, List.flatMap_singleton, hempty, List.singleton_append]

end

/-! ### Lines -/

/-- The text in the first cell of a line between upright strokes. -/
def firstCell? (line : List Char) : Option (List Char) :=
  match line with
  | [] => none
  | c :: rest =>
    let text := trim (rest.takeWhile (· ≠ '│'))
    if c = '│' && text ≠ [] then some text else none

/-- The texts in the first cells of the lines of a screen, from top to bottom. -/
def firstCells (lines : Screen) : List (List Char) :=
  lines.filterMap firstCell?

theorem firstCell?_of_ne {c : Char} (hc : c ≠ '│') (rest : List Char) :
  firstCell? (c :: rest) = none
  := by
  simp [firstCell?, hc]

theorem firstCell?_boxLine {part : List Char} (hpart : '│' ∉ part) (parts : List (List Char)) :
  firstCell? (Table.boxLine '│' '│' '│' (part :: parts))
    = if trim part = [] then none else some (trim part)
  := by
  obtain ⟨rest, hrest⟩ : ∃ rest, joined ['│'] (part :: parts) ++ ['│'] = part ++ '│' :: rest := by
    cases parts with
    | nil => exact ⟨[], rfl⟩
    | cons q parts =>
        refine ⟨joined ['│'] (q :: parts) ++ ['│'], ?_⟩
        rw [joined, List.append_assoc, List.append_assoc, List.singleton_append]
  have hall : ∀ c ∈ part, decide (c ≠ '│') = true := by
    intro c hc
    exact decide_eq_true fun heq => hpart (heq ▸ hc)
  rw [Table.boxLine, List.cons_append, hrest, firstCell?, List.takeWhile_append_of_pos hall,
    List.takeWhile_cons_of_neg (by simp), List.append_nil]
  simp

theorem firstCells_of_not_mem_seen {lines : Screen} (h : '│' ∉ seen lines) :
  firstCells lines = []
  := by
  rw [firstCells, List.filterMap_eq_nil_iff]
  intro line hline
  cases line with
  | nil => rfl
  | cons c rest =>
      apply firstCell?_of_ne
      rintro rfl
      apply h
      rw [seen, List.mem_flatMap]
      exact ⟨_, hline, List.mem_filter.mpr ⟨List.mem_cons_self, by decide⟩⟩

/-- The first cells of lines of which only the first one shows any. -/
theorem firstCells_range {line : Nat → List Char} {text : List Char}
    (hfirst : firstCell? (line 0) = some text) (hrest : ∀ k, firstCell? (line (k + 1)) = none)
    (n : Nat) :
  firstCells ((List.range (n + 1)).map line) = [text]
  := by
  rw [firstCells, List.range_succ_eq_map, List.map_cons, List.map_map,
    List.filterMap_cons_some hfirst, List.filterMap_map, List.filterMap_eq_nil_iff.mpr]
  exact fun k _ => hrest k

theorem trim_cellLine_some (size : Nat) {line : List Char} (h : trim line = line) :
  trim (Table.cellLine size (some line)) = line
  := by
  have hblanks : isBlankText (List.replicate (size - 2 - width line) ' ' ++ [' ']) = true := by
    rw [← List.replicate_succ', isBlankText_iff]
    intro c hc
    rw [List.eq_of_mem_replicate hc]
    decide
  rw [Table.cellLine, padded, ← List.singleton_append, List.append_assoc, List.append_assoc,
    trim_append_of_blank_left (by decide), trim_append_of_blank_right line hblanks, h]

theorem trim_cellLine_none (size : Nat) :
  trim (Table.cellLine size none) = []
  := by
  rw [Table.cellLine, trim_eq_nil_iff]
  intro c hc
  rw [List.eq_of_mem_replicate hc]
  decide

theorem not_mem_cellLine {line : Option (List Char)} (h : ∀ l, line = some l → '│' ∉ l)
    (size : Nat) :
  '│' ∉ Table.cellLine size line
  := by
  cases line with
  | none => simp [Table.cellLine]
  | some l => simp [Table.cellLine, padded, h l rfl]

/-- The cell holds a word, which a line feed may follow. -/
def IsWordCell (word cell : List Char) : Prop :=
  IsAsciiWord word ∧ (cell = word ∨ cell = word ++ ['\n'])

section

variable {word cell : List Char} (h : IsWordCell word cell)

include h

theorem IsWordCell.cellWidth_eq :
  cellWidth cell = word.length
  := by
  rcases h.2 with rfl | rfl
  · exact h.1.cellWidth_eq.1
  · exact h.1.cellWidth_eq.2

/-- What is shown of the word is no blank and holds no upright stroke. -/
theorem IsWordCell.cutOff_spec (cells : Nat) :
  cutOff cells word ≠ [] ∧ trim (cutOff cells word) = cutOff cells word
    ∧ '│' ∉ cutOff cells word
  := by
  have hword : '│' ∉ word := h.1.not_mem (by decide)
  rw [cutOff]
  split
  · exact ⟨h.1.1, trim_of_not_blank fun c hc => h.1.isBlank hc, hword⟩
  · refine ⟨by simp, ?_, ?_⟩
    · apply trim_of_not_blank
      intro c hc
      rcases List.mem_append.mp hc with hc | hc
      · exact h.1.isBlank (List.mem_of_mem_take hc)
      · rw [List.mem_singleton.mp hc]
        decide
    · intro hmem
      rcases List.mem_append.mp hmem with hmem | hmem
      · exact hword (List.mem_of_mem_take hmem)
      · revert hmem
        decide

/-- The lines of a row show its first cell once. -/
theorem IsWordCell.firstCells_rowLines {first : Column} (hwhole : first.keepWhole = true)
    {size : Nat} (hsize : 3 ≤ size) (others : List Column) (sizes : List Nat) (cells : Row) :
  firstCells (Table.rowLines (first :: others) (size :: sizes) '│' '│' (cell :: cells))
    = [cutOff (size - 2) word]
  := by
  obtain ⟨hne, htrim, hstroke⟩ := h.cutOff_spec (size - 2)
  have hlines : ∃ rest, Table.cellLines first size cell = cutOff (size - 2) word :: rest
      ∧ ∀ l ∈ rest, l = [] := by
    obtain ⟨hword, hfed⟩ := h.1.cellLines_eq hwhole hsize
    rcases h.2 with rfl | rfl
    · exact ⟨[], hword, by simp⟩
    · exact ⟨[[]], hfed, by simp⟩
  obtain ⟨rest, hlines, hempty⟩ := hlines
  rw [Table.rowLines, List.zip_cons_cons, List.zip_cons_cons, List.map_cons]
  dsimp only
  rw [hlines, List.map_cons]
  generalize hheight : List.foldl max 1 _ = height
  have hpos : 1 ≤ height := by
    rw [← hheight]
    exact init_le_foldl_max 1 _
  obtain ⟨n, rfl⟩ := Nat.exists_eq_add_of_le' hpos
  apply firstCells_range
  · have hnone : ∀ l, some (cutOff (size - 2) word) = some l → '│' ∉ l :=
      fun l hl => Option.some_inj.mp hl ▸ hstroke
    have hpart := not_mem_cellLine hnone size
    have htext := firstCell?_boxLine hpart
    simp only [trim_cellLine_some size htrim, if_neg hne] at htext
    exact htext _
  · intro k
    have hblank : trim (Table.cellLine size rest[k]?) = [] ∧ '│' ∉ Table.cellLine size rest[k]? := by
      cases hl : rest[k]? with
      | none => exact ⟨trim_cellLine_none size, not_mem_cellLine (by simp) size⟩
      | some l =>
          rw [hempty l (List.mem_of_getElem? hl)]
          exact ⟨trim_cellLine_some size rfl, not_mem_cellLine (by simp) size⟩
    have htext := firstCell?_boxLine hblank.2
    simp only [hblank.1, if_true] at htext
    exact htext _

end

theorem firstCells_append (lines lines' : Screen) :
  firstCells (lines ++ lines') = firstCells lines ++ firstCells lines'
  := List.filterMap_append

theorem firstCells_border {left : Char} (h : left ≠ '│') (fill divider right : Char)
    (sizes : List Nat) :
  firstCells [Table.border left fill divider right sizes] = []
  := List.filterMap_cons_none (firstCell?_of_ne h _)

theorem firstCells_rowLines_of_ne {edge : Char} (h : edge ≠ '│') (columns : List Column)
    (sizes : List Nat) (divider : Char) (row : Row) :
  firstCells (Table.rowLines columns sizes edge divider row) = []
  := by
  rw [firstCells, Table.rowLines, List.filterMap_map, List.filterMap_eq_nil_iff]
  exact fun k _ => firstCell?_of_ne h _

/-- Under its headings the lines of a table show the first cells of its rows. -/
theorem Table.KeepsFirst.firstCells_shown {t : Table} {first : Column} {others : List Column}
    (h : t.KeepsFirst first others) (htitle : '│' ∉ t.title) {words : List (List Char)}
    (hrows : List.Forall₂ (fun word row => ∃ cell cells, row = cell :: cells
      ∧ IsWordCell word cell) words t.rows) :
  firstCells t.shown = words.map (cutOff (columnLimit others - 2))
  := by
  obtain ⟨size, sizes, hsizes, hle, hsize, hroom⟩ := h.exists_widths_eq
  have htop : firstCells (broken .fold false (totalWidth t.widths + t.columns.length + 1) t.title)
      = [] := by
    apply firstCells_of_not_mem_seen
    rw [seen_broken]
    · exact fun hmem => htitle (List.mem_of_mem_filter hmem)
    · rw [h.columns, List.length_cons]
      omega
  have heach : firstCells (t.rows.flatMap (Table.rowLines t.columns t.widths '│' '│'))
      = words.map (cutOff (columnLimit others - 2)) := by
    rw [h.columns, hsizes]
    generalize t.rows = rows at hrows hroom
    induction hrows with
    | nil => rfl
    | @cons word _ words rows hrow hrows ih =>
        obtain ⟨cell, cells, rfl, hcell⟩ := hrow
        have hshown : cutOff (size - 2) word = cutOff (columnLimit others - 2) word := by
          rcases hroom _ List.mem_cons_self cell cells rfl with rfl | hfits
          · rfl
          · rw [hcell.cellWidth_eq] at hfits
            rw [cutOff, if_pos (by omega), cutOff, if_pos (by omega)]
        rw [List.flatMap_cons, firstCells_append,
          hcell.firstCells_rowLines h.whole hsize others sizes cells, hshown, List.map_cons,
          ih fun row hrow => hroom row (List.mem_cons_of_mem _ hrow), List.singleton_append]
  rw [Table.shown]
  simp only [firstCells_append, htop, heach, firstCells_border (show '┏' ≠ '│' by decide),
    firstCells_border (show '┡' ≠ '│' by decide), firstCells_border (show '└' ≠ '│' by decide),
    firstCells_rowLines_of_ne (show '┃' ≠ '│' by decide), List.nil_append, List.append_nil]

end SourceAudit.Terminal
