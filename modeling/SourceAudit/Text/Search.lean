import SourceAudit.Text.Blank

/-!
# Searching and cutting texts

Occurrences of one text in another, cutting a text at the first occurrence, splitting
it at every occurrence of a character, and joining pieces again.
-/

namespace SourceAudit.Text

/-- Whether the text begins with `pat`. -/
def startsWith (pat s : List Char) : Bool :=
  pat.isPrefixOf s

/-- Whether the text ends with `pat`. -/
def endsWith (pat s : List Char) : Bool :=
  pat.isSuffixOf s

/-- What follows `pat` at the beginning of the text, when the text begins with it. -/
def after? : List Char → List Char → Option (List Char)
  | [], s => some s
  | _ :: _, [] => none
  | p :: pat, c :: s => if p = c then after? pat s else none

/-- Whether `pat` occurs in the text. -/
def occurs (pat : List Char) : List Char → Bool
  | [] => pat.isEmpty
  | c :: s => pat.isPrefixOf (c :: s) || occurs pat s

/-- The text before the first occurrence of `pat`, and the text after that occurrence. -/
def cut? (pat : List Char) : List Char → Option (List Char × List Char)
  | [] => if pat.isEmpty then some ([], []) else none
  | c :: s =>
    match after? pat (c :: s) with
    | some rest => some ([], rest)
    | none => (cut? pat s).map fun (before, rest) => (c :: before, rest)

/-- The pieces of the text between the occurrences of one character. -/
def pieces (sep : Char) : List Char → List (List Char)
  | [] => [[]]
  | c :: s =>
    if c = sep then [] :: pieces sep s
    else
      match pieces sep s with
      | [] => [[c]]
      | p :: ps => (c :: p) :: ps

/-- The texts in order with `sep` between every two of them. -/
def joined (sep : List Char) : List (List Char) → List Char
  | [] => []
  | [s] => s
  | s :: t :: rest => s ++ sep ++ joined sep (t :: rest)

/-- The ends of the text, from the whole text down to the empty one. -/
def endings : List Char → List (List Char)
  | [] => [[]]
  | c :: s => (c :: s) :: endings s

/-- The text with one character replaced by another. -/
def replaceChar (old new : Char) (s : List Char) : List Char :=
  s.map fun c => if c = old then new else c

/-- Whether `pat` occurs in the string. -/
def mentions (pat s : String) : Bool :=
  occurs pat.toList s.toList

/-! ### Laws of cutting and splitting -/

theorem after?_eq_some_iff (pat s rest : List Char) :
  after? pat s = some rest ↔ s = pat ++ rest
  := by
  induction pat generalizing s with
  | nil => simp [after?, eq_comm]
  | cons p pat ih =>
      cases s with
      | nil => simp [after?]
      | cons c s =>
          by_cases h : p = c
          · simp [after?, h, ih]
          · simp [after?, h, Ne.symm h]

theorem pieces_ne_nil (sep : Char) (s : List Char) :
  pieces sep s ≠ []
  := by
  cases s with
  | nil => simp [pieces]
  | cons c s =>
      rw [pieces]
      split
      · simp
      · split <;> simp

/-- Joining the pieces again gives the text back. -/
theorem joined_pieces (sep : Char) (s : List Char) :
  joined [sep] (pieces sep s) = s
  := by
  induction s with
  | nil => rfl
  | cons c s ih =>
      rw [pieces]
      split
      · rename_i h
        cases hp : pieces sep s with
        | nil => exact absurd hp (pieces_ne_nil sep s)
        | cons p ps =>
            rw [hp] at ih
            simp [joined, ih, h]
      · cases hp : pieces sep s with
        | nil => exact absurd hp (pieces_ne_nil sep s)
        | cons p ps =>
            cases ps with
            | nil => simp_all [joined]
            | cons q qs => simp_all [joined]

/-- A text without the separator is its only piece. -/
theorem pieces_of_not_mem {sep : Char} {s : List Char} (h : sep ∉ s) :
  pieces sep s = [s]
  := by
  induction s with
  | nil => rfl
  | cons c s ih =>
      have hc : c ≠ sep := fun e => h (e ▸ List.mem_cons_self ..)
      rw [pieces, ih fun m => h (List.mem_cons_of_mem _ m)]
      simp [hc]

/-- A separator cuts a text in two, and each half is split by itself. -/
theorem pieces_append_cons {sep : Char} {s : List Char} (t : List Char) (h : sep ∉ s) :
  pieces sep (s ++ sep :: t) = s :: pieces sep t
  := by
  induction s with
  | nil => simp [pieces]
  | cons c s ih =>
      have hc : c ≠ sep := fun e => h (e ▸ List.mem_cons_self ..)
      rw [List.cons_append, pieces, ih fun m => h (List.mem_cons_of_mem _ m)]
      simp [hc]

/-- Splitting gives joined pieces back when none of them holds the separator. -/
theorem pieces_joined {sep : Char} {ps : List (List Char)} (hne : ps ≠ [])
    (h : ∀ p ∈ ps, sep ∉ p) :
  pieces sep (joined [sep] ps) = ps
  := by
  induction ps with
  | nil => exact absurd rfl hne
  | cons p ps ih =>
      have hp := h p (List.mem_cons_self ..)
      cases ps with
      | nil => exact pieces_of_not_mem hp
      | cons q qs =>
          have hrest := ih (by simp) fun r hr => h r (List.mem_cons_of_mem _ hr)
          rw [joined, List.append_assoc, List.singleton_append, pieces_append_cons _ hp, hrest]

/-- No piece holds the character the text was split at. -/
theorem not_mem_of_mem_pieces {sep : Char} {s p : List Char} (hp : p ∈ pieces sep s) :
  sep ∉ p
  := by
  induction s generalizing p with
  | nil =>
      rw [pieces, List.mem_singleton] at hp
      simp [hp]
  | cons c s ih =>
      rw [pieces] at hp
      split at hp
      · rcases List.mem_cons.mp hp with rfl | hp
        · simp
        · exact ih hp
      · rename_i hc
        cases hq : pieces sep s with
        | nil => exact absurd hq (pieces_ne_nil sep s)
        | cons q qs =>
            rw [hq] at hp ih
            rcases List.mem_cons.mp hp with rfl | hp
            · have := ih (List.mem_cons_self ..)
              simp [this, Ne.symm hc]
            · exact ih (List.mem_cons_of_mem _ hp)

end SourceAudit.Text
