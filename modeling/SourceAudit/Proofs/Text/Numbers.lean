import SourceAudit.Text.Digit
import Mathlib.Algebra.Group.Nat.Defs
import Mathlib.Data.Nat.Basic

/-!
# Texts of numbers

The text of a number tells the number, and holds digits only, and a hyphen in front where the
number is negative. It can be written out unless it has too many digits.
-/

namespace SourceAudit

open Text

theorem natText_injective :
  Function.Injective natText
  := by
  intro m n h
  have hdigits := congrArg String.toList h
  rw [natText, natText, String.toList_ofList, String.toList_ofList] at hdigits
  rw [← @Nat.ofDigitChars_ten_toDigits m, hdigits, Nat.ofDigitChars_ten_toDigits]

theorem isDigit_of_mem_natText {n : Nat} {c : Char} (h : c ∈ (natText n).toList) :
  c.isDigit = true
  := by
  rw [natText, String.toList_ofList] at h
  exact Nat.isDigit_of_mem_toDigits (by decide) (by decide) h

/-- The text of an integer holds digits and a hyphen only. -/
theorem not_mem_intText (n : Int) {c : Char} (hdigit : c.isDigit = false) (hhyphen : c ≠ '-') :
  c ∉ (intText n).toList
  := by
  have hnat : ∀ m, c ∉ (natText m).toList := by
    intro m hmem
    rw [isDigit_of_mem_natText hmem] at hdigit
    cases hdigit
  cases n with
  | ofNat m => exact hnat m
  | negSucc m =>
      rw [intText, String.toList_append]
      intro hmem
      rcases List.mem_append.mp hmem with hmem | hmem
      · exact hhyphen (List.mem_singleton.mp hmem)
      · exact hnat _ hmem

theorem intText_injective :
  Function.Injective intText
  := by
  have hapart : ∀ m n, natText m ≠ "-" ++ natText n := by
    intro m n h
    have hmem : '-' ∈ (natText m).toList := by
      rw [h, String.toList_append]
      exact List.mem_cons_self ..
    have hdigit := isDigit_of_mem_natText hmem
    cases hdigit
  intro m n h
  cases m with
  | ofNat m =>
      cases n with
      | ofNat n => rw [natText_injective h]
      | negSucc n => exact absurd h (hapart m (n + 1))
  | negSucc m =>
      cases n with
      | ofNat n => exact absurd h.symm (hapart n (m + 1))
      | negSucc n =>
          rw [intText, intText, String.append_right_inj] at h
          rw [Nat.succ_injective (natText_injective h)]

/-! ### Numbers that can be written out -/

theorem isWritableNumber_iff (n : Int) :
  isWritableNumber n = true ↔ n.natAbs < 10 ^ maxDigits
  := by
  rw [isWritableNumber, decide_eq_true_iff, Nat.pow_eq]

theorem isWritableNumber_natCast_iff (n : Nat) :
  isWritableNumber n = true ↔ n < 10 ^ maxDigits
  := by
  rw [isWritableNumber_iff, Int.natAbs_natCast]

theorem intText?_eq_some_iff {n : Int} {text : String} :
  intText? n = some text ↔ isWritableNumber n = true ∧ intText n = text
  := by
  rw [intText?]
  split
  · rename_i h
    simp [h]
  · rename_i h
    simp [h]

theorem intText?_eq_none_iff {n : Int} :
  intText? n = none ↔ isWritableNumber n = false
  := by
  rw [intText?]
  split
  · rename_i h
    simp [h]
  · rename_i h
    simpa using h

end SourceAudit
