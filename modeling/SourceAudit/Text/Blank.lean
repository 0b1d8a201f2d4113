/-!
# Blank characters

What counts as white space in a source line, a rule list or a setting: the
characters Unicode calls white space, together with the four information separators.

Texts are handled as lists of characters. Trimming removes blank characters from
either end, and a text is blank when trimming leaves nothing of it.
-/

namespace SourceAudit.Text

/-- Whether a character is white space or an information separator. -/
def isBlank (c : Char) : Bool :=
  let n := c.toNat
  (9 ≤ n && n ≤ 13) || (28 ≤ n && n ≤ 32) || n == 0x85 || n == 0xA0 || n == 0x1680
    || (0x2000 ≤ n && n ≤ 0x200A) || n == 0x2028 || n == 0x2029 || n == 0x202F
    || n == 0x205F || n == 0x3000

/-- The text without the blank characters it begins with. -/
def trimLeft (s : List Char) : List Char :=
  s.dropWhile isBlank

/-- The text without the blank characters it ends with. -/
def trimRight : List Char → List Char
  | [] => []
  | c :: s =>
    match trimRight s with
    | [] => if isBlank c then [] else [c]
    | t => c :: t

/-- The text without the blank characters at either end. -/
def trim (s : List Char) : List Char :=
  trimRight (trimLeft s)

/-- Whether the text holds blank characters only. -/
def isBlankText (s : List Char) : Bool :=
  s.all isBlank

/-- Whether the text begins with a blank character. -/
def startsBlank : List Char → Bool
  | [] => false
  | c :: _ => isBlank c

/-- `trim` on strings. -/
def trimmed (s : String) : String :=
  String.ofList (trim s.toList)

/-! ### Trimming -/

theorem trimLeft_cons_of_not_blank {c : Char} (s : List Char) (h : isBlank c = false) :
  trimLeft (c :: s) = c :: s
  := by
  simp [trimLeft, h]

theorem trimLeft_cons_of_blank {c : Char} (s : List Char) (h : isBlank c = true) :
  trimLeft (c :: s) = trimLeft s
  := by
  simp [trimLeft, h]

theorem trimRight_eq_nil_iff (s : List Char) :
  trimRight s = [] ↔ ∀ c ∈ s, isBlank c = true
  := by
  induction s with
  | nil => simp [trimRight]
  | cons c s ih =>
      rw [trimRight]
      split
      · rename_i h
        have hs := ih.mp h
        by_cases hc : isBlank c <;> simp_all
      · rename_i h
        have hs : ¬ ∀ c ∈ s, isBlank c = true := fun hall => h (ih.mpr hall)
        simp_all

theorem trim_eq_nil_iff (s : List Char) :
  trim s = [] ↔ ∀ c ∈ s, isBlank c = true
  := by
  rw [trim, trimRight_eq_nil_iff]
  induction s with
  | nil => simp [trimLeft]
  | cons c s ih =>
      by_cases h : isBlank c
      · rw [trimLeft_cons_of_blank s h]
        simp_all
      · rw [trimLeft_cons_of_not_blank s (by simpa using h)]

end SourceAudit.Text
