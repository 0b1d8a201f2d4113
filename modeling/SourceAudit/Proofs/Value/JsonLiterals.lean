import SourceAudit.Proofs.Text.Pieces
import SourceAudit.Value.Json
import SourceAudit.Value.JsonReader

/-!
# Literals of JSON are read back

What holds no other values is found again in its JSON text, whatever follows it:

* a whole number in its digits, unless the text goes on with the number,
* a text between its quotes: each character is a letter behind a backslash, itself, or its
  units in hexadecimal, and the two units of a pair are put together again.
-/

namespace SourceAudit

open Text

/-! ### Numbers -/

namespace Text

theorem isAsciiDigit_of_mem_toDigits {n : Nat} {c : Char} (h : c ∈ Nat.toDigits 10 n) :
  isAsciiDigit c = true
  := by
  have hdigit := Nat.isDigit_of_mem_toDigits (by decide) (by decide) h
  rw [Char.isDigit, Bool.and_eq_true] at hdigit
  rw [isAsciiDigit, Bool.and_eq_true]
  exact hdigit

theorem decimalFrom_append_singleton (acc : Nat) (s : List Char) (c : Char) :
  decimalFrom acc (s ++ [c])
    = (decimalFrom acc s).bind fun m => (decimalValue? c).map (m * 10 + ·)
  := by
  induction s generalizing acc with
  | nil =>
      rw [List.nil_append, decimalFrom, decimalFrom, Option.bind_some]
      cases decimalValue? c with
      | none => rfl
      | some d => rfl
  | cons a s ih =>
      rw [List.cons_append, decimalFrom, decimalFrom]
      cases decimalValue? a with
      | none => rfl
      | some d =>
          dsimp only
          rw [ih]

/-- The digits of a number denote it. -/
theorem decimalFrom_toDigits (n : Nat) :
  decimalFrom 0 (Nat.toDigits 10 n) = some n
  := by
  have hdigit : ∀ d < 10, decimalValue? d.digitChar = some d := by decide
  induction n using Nat.strongRecOn with
  | ind n ih =>
      by_cases hn : n < 10
      · rw [Nat.toDigits_of_lt_base hn, decimalFrom, hdigit n hn]
        simp [decimalFrom]
      · rw [Nat.toDigits_of_base_le (by decide) (Nat.not_lt.mp hn), decimalFrom_append_singleton,
          ih (n / 10) (by omega), hdigit (n % 10) (by omega)]
        simp only [Option.bind_some, Option.map_some, Option.some_inj]
        omega

/-- Only the number zero begins with the digit zero. -/
theorem head?_toDigits {n : Nat} (h : 0 < n) :
  (Nat.toDigits 10 n).head? ≠ some '0'
  := by
  have hdigit : ∀ d < 10, 0 < d → d.digitChar ≠ '0' := by decide
  induction n using Nat.strongRecOn with
  | ind n ih =>
      by_cases hn : n < 10
      · rw [Nat.toDigits_of_lt_base hn, List.head?_cons, Ne, Option.some_inj]
        exact hdigit n hn h
      · rw [Nat.toDigits_of_base_le (by decide) (Nat.not_lt.mp hn),
          List.head?_append_of_ne_nil _ Nat.toDigits_ne_nil]
        exact ih (n / 10) (by omega) (by omega)

end Text

namespace Json

/-- What follows a number does not go on with it. -/
def EndsNumber (s : List Char) : Prop :=
  ∀ c, s.head? = some c → isAsciiDigit c = false ∧ c ≠ '.' ∧ c ≠ 'e' ∧ c ≠ 'E'

theorem EndsNumber.ne_point {s : List Char} (h : EndsNumber s) (t : List Char) :
  s ≠ '.' :: t
  := by
  rintro rfl
  exact (h '.' rfl).2.1 rfl

theorem readExponent?_of_endsNumber {s : List Char} (h : EndsNumber s) :
  readExponent? s = none
  := by
  cases s with
  | nil => rfl
  | cons c s =>
      obtain ⟨-, -, he, hE⟩ := h c rfl
      simp [readExponent?, he, hE]

theorem takeWhile_isAsciiDigit_append {ds s : List Char} (hds : ∀ c ∈ ds, isAsciiDigit c = true)
    (hs : EndsNumber s) :
  (ds ++ s).takeWhile isAsciiDigit = ds
  := by
  rw [List.takeWhile_append_of_pos hds]
  cases s with
  | nil => simp
  | cons c s =>
      have hc : ¬ isAsciiDigit c = true := by
        rw [(hs c rfl).1]
        exact Bool.false_ne_true
      rw [List.takeWhile_cons_of_neg hc, List.append_nil]

/-- A positive number is read back from its digits, unless they are too many. -/
theorem readNumber_toDigits_of_pos (negative : Bool) {n : Nat} (hn : 0 < n) {s : List Char}
    (hs : EndsNumber s) :
  readNumber negative (Nat.toDigits 10 n ++ s)
    = if 10 ^ maxDigits ≤ n then .error .tooManyDigits
      else .ok (.int (if negative then -(n : Int) else n), s)
  := by
  have hne : Nat.toDigits 10 n ≠ [] := Nat.toDigits_ne_nil
  have hlong : maxDigits < (Nat.toDigits 10 n).length ↔ 10 ^ maxDigits ≤ n := by
    rw [← Nat.not_le, Nat.length_toDigits_le_iff (by decide) (by decide), Nat.not_lt]
  have hvalue : decimalNumber? (Nat.toDigits 10 n) = some n := by
    rw [decimalNumber?, if_neg (by simp), decimalFrom_toDigits]
  have hexponent := readExponent?_of_endsNumber hs
  have hpoint := hs.ne_point
  rw [readNumber, takeWhile_isAsciiDigit_append (fun c hc => isAsciiDigit_of_mem_toDigits hc) hs,
    List.drop_left]
  · simp [hexponent, hvalue, hlong]
  · intro t hzero
    apply head?_toDigits hn
    rw [← List.head?_append_of_ne_nil _ hne, hzero, List.head?_cons]

/-- A number is read back from its digits. -/
theorem readNumber_toDigits (negative : Bool) {n : Nat} (hn : n < 10 ^ maxDigits) {s : List Char}
    (hs : EndsNumber s) :
  readNumber negative (Nat.toDigits 10 n ++ s)
    = .ok (.int (if negative then -(n : Int) else n), s)
  := by
  rcases Nat.eq_zero_or_pos n with rfl | hpos
  · have hvalue : decimalNumber? ['0'] = some 0 := rfl
    have hexponent := readExponent?_of_endsNumber hs
    have hpoint := hs.ne_point
    rw [Nat.toDigits_zero, List.singleton_append, readNumber]
    simp [hexponent, hvalue, maxDigits]
  · rw [readNumber_toDigits_of_pos negative hpos hs, if_neg (Nat.not_le.mpr hn)]

/-! ### Texts -/

theorem hexDigits_succ {width : Nat} (h : 0 < width) (n : Nat) :
  hexDigits (width + 1) n = hexDigits width (n / 16) ++ [(n % 16).digitChar]
  := by
  rw [hexDigits, hexDigits]
  by_cases hn : n < 16
  · rw [Nat.toDigits_of_lt_base hn, Nat.div_eq_of_lt hn, Nat.mod_eq_of_lt hn, Nat.toDigits_zero,
      List.length_singleton, List.length_singleton, Nat.add_sub_cancel]
    obtain ⟨k, rfl⟩ := Nat.exists_eq_add_of_lt h
    rw [Nat.zero_add, Nat.add_sub_cancel, ← List.replicate_succ']
  · rw [Nat.toDigits_of_base_le (by decide) (Nat.not_lt.mp hn), List.length_append,
      List.length_singleton, Nat.add_sub_add_right, List.append_assoc]

/-- The unit that four hexadecimal digits denote is read back from them. -/
theorem exists_hexDigits {n : Nat} (h : n < 0x10000) :
  ∃ a b c d, hexDigits 4 n = [a, b, c, d] ∧ jsonUnit? a b c d = some n
  := by
  have hvalue : ∀ d < 16, hexValue? d.digitChar = some d := by decide
  have hone : ∀ m < 16, hexDigits 1 m = [m.digitChar] := by decide
  refine ⟨(n / 16 / 16 / 16).digitChar, (n / 16 / 16 % 16).digitChar, (n / 16 % 16).digitChar,
    (n % 16).digitChar, ?_, ?_⟩
  · rw [hexDigits_succ (by decide), hexDigits_succ (by decide), hexDigits_succ (by decide),
      hone _ (by omega)]
    rfl
  · rw [jsonUnit?, hvalue _ (by omega), hvalue _ (by omega), hvalue _ (by omega),
      hvalue _ (by omega)]
    simp only [Option.bind_eq_bind, Option.bind_some, Option.pure_def, Option.some_inj]
    omega

/-- The units of a character: a character beyond the first plane is a pair. -/
def charUnits (c : Char) : List Nat :=
  if c.toNat < 0x10000 then [c.toNat]
  else [0xD800 + (c.toNat - 0x10000) / 0x400, 0xDC00 + (c.toNat - 0x10000) % 0x400]

theorem pairUnits_charUnits_append (c : Char) (units : List Nat) :
  pairUnits (charUnits c ++ units) = c :: pairUnits units
  := by
  have hvalid : c.toNat < 0xD800 ∨ 0xDFFF < c.toNat ∧ c.toNat < 0x110000 := c.valid
  rw [charUnits]
  split
  · rw [List.singleton_append]
    cases units with
    | nil =>
        simp only [pairUnits]
        rw [if_neg (by simp; omega), Char.ofNat_toNat]
    | cons low units =>
        rw [pairUnits, if_neg (by simp; omega), if_neg (by simp; omega), Char.ofNat_toNat]
  · have hchar : 0x10000 + (0xD800 + (c.toNat - 0x10000) / 0x400 - 0xD800) * 0x400
        + (0xDC00 + (c.toNat - 0x10000) % 0x400 - 0xDC00) = c.toNat := by omega
    rw [List.cons_append, List.singleton_append, pairUnits, if_pos (by simp; omega), hchar,
      Char.ofNat_toNat]

theorem readUnits_unitEscape {n : Nat} (h : n < 0x10000) (s : List Char) :
  readUnits (jsonUnitEscape n ++ s) = (readUnits s).map fun (units, rest) => (n :: units, rest)
  := by
  obtain ⟨a, b, c, d, hdigits, hunit⟩ := exists_hexDigits h
  rw [jsonUnitEscape, hdigits]
  simp only [List.cons_append, List.nil_append]
  rw [readUnits, hunit]

/-- The characters that a letter stands for behind a backslash, each with its letter. -/
def shortEscapes : List (Char × Char) :=
  [('"', '"'), ('\\', '\\'), ('\n', 'n'), ('\r', 'r'), ('\t', 't'), (Char.ofNat 8, 'b'),
    (Char.ofNat 12, 'f')]

theorem escapedChar_of_mem_shortEscapes :
  ∀ e ∈ shortEscapes, escapedChar e.1 = ['\\', e.2] ∧ e.2 ≠ 'u' ∧ jsonEscape? e.2 = some e.1
    ∧ charUnits e.1 = [e.1.toNat]
  := by decide

/-- Other characters stand for themselves, or by their units. -/
theorem escapedChar_of_not_mem {c : Char} (h : c ∉ shortEscapes.map Prod.fst) :
  escapedChar c = if 32 ≤ c.toNat && c.toNat < 127 then [c]
    else (charUnits c).flatMap jsonUnitEscape
  := by
  have hback : c.toNat ≠ 8 := fun hc => h (by rw [← Char.ofNat_toNat c, hc]; decide)
  have hfeed : c.toNat ≠ 12 := fun hc => h (by rw [← Char.ofNat_toNat c, hc]; decide)
  simp only [shortEscapes, List.map_cons, List.map_nil, List.mem_cons, not_or] at h
  rw [escapedChar, if_neg h.1, if_neg h.2.1, if_neg h.2.2.1, if_neg h.2.2.2.1,
    if_neg h.2.2.2.2.1, if_neg hback, if_neg hfeed]
  split
  · rfl
  · rw [charUnits]
    split
    · rw [List.flatMap_singleton]
    · rw [List.flatMap_cons, List.flatMap_singleton]

theorem readUnits_flatMap_unitEscape {units : List Nat} (h : ∀ n ∈ units, n < 0x10000)
    (s : List Char) :
  readUnits (units.flatMap jsonUnitEscape ++ s)
    = (readUnits s).map fun (later, rest) => (units ++ later, rest)
  := by
  induction units with
  | nil =>
      rw [List.flatMap_nil, List.nil_append]
      cases readUnits s with
      | error e => rfl
      | ok r => rfl
  | cons n units ih =>
      rw [List.forall_mem_cons] at h
      rw [List.flatMap_cons, List.append_assoc, readUnits_unitEscape h.1, ih h.2]
      cases readUnits s with
      | error e => rfl
      | ok r => rfl

theorem lt_of_mem_charUnits {c : Char} {n : Nat} (h : n ∈ charUnits c) :
  n < 0x10000
  := by
  have hvalid : c.toNat < 0xD800 ∨ 0xDFFF < c.toNat ∧ c.toNat < 0x110000 := c.valid
  rw [charUnits] at h
  split at h
  · rename_i hc
    rwa [List.mem_singleton.mp h]
  · simp only [List.mem_cons, List.not_mem_nil, or_false] at h
    omega

/-- The units of a character are read back from how it is written. -/
theorem readUnits_escapedChar (c : Char) (s : List Char) :
  readUnits (escapedChar c ++ s)
    = (readUnits s).map fun (units, rest) => (charUnits c ++ units, rest)
  := by
  by_cases hc : c ∈ shortEscapes.map Prod.fst
  · obtain ⟨⟨c, e⟩, he, rfl⟩ := List.mem_map.mp hc
    obtain ⟨hescaped, hu, hback, hunits⟩ := escapedChar_of_mem_shortEscapes _ he
    rw [hescaped, hunits]
    simp only [List.cons_append, List.nil_append]
    rw [readUnits, hback]
    rintro a b c d t he -
    exact hu he
  · rw [escapedChar_of_not_mem hc]
    split
    · rename_i hplain
      rw [Bool.and_eq_true, decide_eq_true_iff, decide_eq_true_iff] at hplain
      simp only [shortEscapes, List.map_cons, List.map_nil, List.mem_cons, not_or] at hc
      have hsmall : ¬ (decide (c.toNat < 32) || decide (c = '\\')) = true := by
        simp [hc.2.1, hplain.1]
      rw [charUnits, if_pos (by omega), List.singleton_append, readUnits, if_neg hsmall]
      · rfl
      · exact hc.1
      · rintro a b d e t h -
        exact hc.2.1 h
      · rintro e t h -
        exact hc.2.1 h
    · exact readUnits_flatMap_unitEscape (fun n hn => lt_of_mem_charUnits hn) s

theorem readUnits_escapedChars (s rest : List Char) :
  readUnits (s.flatMap escapedChar ++ '"' :: rest) = .ok (s.flatMap charUnits, rest)
  := by
  induction s with
  | nil => rw [List.flatMap_nil, List.nil_append, readUnits, List.flatMap_nil]
  | cons c s ih =>
      rw [List.flatMap_cons, List.append_assoc, readUnits_escapedChar, ih, List.flatMap_cons]
      rfl

theorem pairUnits_charUnits (s : List Char) :
  pairUnits (s.flatMap charUnits) = s
  := by
  induction s with
  | nil => rfl
  | cons c s ih => rw [List.flatMap_cons, pairUnits_charUnits_append, ih]

/-- A text is read back from between its quotes. -/
theorem readText_escapedChars (s : String) (rest : List Char) :
  readText (s.toList.flatMap escapedChar ++ '"' :: rest) = .ok (s, rest)
  := by
  rw [readText, readUnits_escapedChars]
  simp only [Except.map, pairUnits_charUnits, String.ofList_toList]

/-! ### Literals -/

theorem ne_of_isAsciiDigit {c d : Char} (hc : isAsciiDigit c = true)
    (hd : isAsciiDigit d = false) :
  c ≠ d
  := by
  rintro rfl
  rw [hc] at hd
  cases hd

theorem exists_toDigits_eq_cons (n : Nat) :
  ∃ c ds, Nat.toDigits 10 n = c :: ds ∧ isAsciiDigit c = true
  := by
  obtain ⟨c, ds, hdigits⟩ :=
    List.exists_cons_of_ne_nil (Nat.toDigits_ne_nil : Nat.toDigits 10 n ≠ [])
  refine ⟨c, ds, hdigits, ?_⟩
  apply isAsciiDigit_of_mem_toDigits
  rw [hdigits]
  exact List.mem_cons_self

theorem exists_intText_eq_cons (n : Int) :
  ∃ c s, (intText n).toList = c :: s ∧ (c = '-' ∨ isAsciiDigit c = true)
  := by
  cases n with
  | ofNat n =>
      obtain ⟨c, ds, hdigits, hc⟩ := exists_toDigits_eq_cons n
      refine ⟨c, ds, ?_, Or.inr hc⟩
      rw [intText, natText, String.toList_ofList, hdigits]
  | negSucc n =>
      refine ⟨'-', (natText (n + 1)).toList, ?_, Or.inl rfl⟩
      rw [intText, String.toList_append]
      rfl

theorem readScalar_of_isAsciiDigit {c : Char} (hc : isAsciiDigit c = true) (s : List Char) :
  readScalar (c :: s) = readNumber false (c :: s)
  := by
  rw [readScalar]
  all_goals
    intro t h
    exact ne_of_isAsciiDigit hc (by decide) (List.cons.inj h).1

/-- A whole number is read back from its text. -/
theorem readScalar_intText {n : Int} (hn : n.natAbs < 10 ^ maxDigits) {s : List Char}
    (hs : EndsNumber s) :
  readScalar ((intText n).toList ++ s) = .ok (.int n, s)
  := by
  cases n with
  | ofNat n =>
      have hread := readNumber_toDigits (n := n) false hn hs
      obtain ⟨c, ds, hdigits, hc⟩ := exists_toDigits_eq_cons n
      rw [hdigits, List.cons_append] at hread
      rw [intText, natText, String.toList_ofList, hdigits, List.cons_append,
        readScalar_of_isAsciiDigit hc, hread]
      rfl
  | negSucc n =>
      have hread := readNumber_toDigits (n := n + 1) true hn hs
      obtain ⟨c, ds, hdigits, hc⟩ := exists_toDigits_eq_cons (n + 1)
      have hminus : "-".toList = ['-'] := rfl
      rw [hdigits, List.cons_append] at hread
      rw [intText, natText, String.toList_append, hminus, String.toList_ofList, hdigits,
        List.singleton_append, List.cons_append, List.cons_append, readScalar, hread]
      · rfl
      · intro t h
        exact ne_of_isAsciiDigit hc (by decide) (List.cons.inj h).1

theorem toList_textLiteral (s : String) :
  (textLiteral s).toList = '"' :: s.toList.flatMap escapedChar ++ ['"']
  := by
  rw [textLiteral, String.toList_ofList]

theorem jsonWord_append (word : String) (v : Value) (s : List Char) :
  jsonWord word v (word.toList ++ s) = .ok (v, s)
  := by
  rw [jsonWord, if_pos (List.isPrefixOf_iff_prefix.mpr (List.prefix_append _ _)),
    ← String.length_toList, List.drop_left]

end Json

end SourceAudit
