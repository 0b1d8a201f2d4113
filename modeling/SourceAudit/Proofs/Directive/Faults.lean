import SourceAudit.Proofs.Directive.Scan
import Mathlib.Control.Monad.Basic

/-!
# Sources that are refused

A source is refused exactly when one of its lines is at fault, and the first such line
decides everything about the refusal: its number is the place, and either the first item
of its list that is no identifier or the whole line is the text. Lines after it, and what
the lines before it turn off, play no part.
-/

namespace SourceAudit

open Text

/-- The first line at fault, with its number. -/
structure IsFirstFaulty (lines : List (List Char)) (i : Nat) (line : List Char) : Prop where
  at_line : lineAt? lines i = some line
  faulty : Faulty line
  first : ∀ j l, j < i → lineAt? lines j = some l → ¬ Faulty l

theorem not_faulty_iff (line : List Char) :
  ¬ Faulty line ↔ ∃ directive, readLine line = .ok directive
  := by
  rw [← exists_readLine_eq_error_iff]
  cases readLine line with
  | error fault => simp
  | ok directive => simp

/-- The first line at fault cuts the lines in two, with no line at fault in front of
it. -/
theorem isFirstFaulty_iff (lines : List (List Char)) (i : Nat) (line : List Char) :
  IsFirstFaulty lines i line
    ↔ ∃ before after, lines = before ++ line :: after ∧ i = before.length + 1
      ∧ (∀ l ∈ before, ¬ Faulty l) ∧ Faulty line
  := by
  constructor
  · rintro ⟨hline, hfaulty, hfirst⟩
    obtain ⟨before, after, rfl, rfl⟩ := exists_of_lineAt? hline
    use before, after, rfl, rfl
    refine ⟨?_, hfaulty⟩
    intro l hl
    obtain ⟨j, hj, hjl⟩ := exists_lineAt?_of_mem hl
    apply hfirst j l (Nat.lt_succ_of_le hj)
    rw [lineAt?_append_left hj, hjl]
  · rintro ⟨before, after, rfl, rfl, hbefore, hfaulty⟩
    constructor
    · apply lineAt?_append_cons
    · exact hfaulty
    · intro j l hj hl
      rw [lineAt?_append_left (Nat.le_of_lt_succ hj)] at hl
      exact hbefore l (mem_of_lineAt? hl)

/-! ### Ends of scans -/

/-- A scan that is ended was ended by the first line at fault. -/
theorem scanLines_eq_error_iff (lines : List (List Char)) (e : ScanFault) :
  scanLines lines = .error e
    ↔ ∃ i line fault, IsFirstFaulty lines i line ∧ readLine line = .error fault
      ∧ e = ⟨fault, String.ofList line, i⟩
  := by
  rw [scanLines, scanFrom_eq_error_iff]
  constructor
  · rintro ⟨before, line, after, fault, hsplit, hbefore, hline, rfl⟩
    use before.length + 1, line, fault
    refine ⟨?_, hline, by rw [Nat.add_comm]⟩
    apply (isFirstFaulty_iff _ _ _).mpr
    use before, after, hsplit, rfl
    constructor
    · intro l hl
      exact (not_faulty_iff l).mpr (hbefore l hl)
    · exact (exists_readLine_eq_error_iff line).mp ⟨fault, hline⟩
  · rintro ⟨i, line, fault, hfirst, hline, rfl⟩
    obtain ⟨before, after, hsplit, rfl, hbefore, -⟩ := (isFirstFaulty_iff _ _ _).mp hfirst
    use before, line, after, fault, hsplit
    refine ⟨?_, hline, by rw [Nat.add_comm]⟩
    intro l hl
    exact (not_faulty_iff l).mp (hbefore l hl)

theorem exists_scanLines_eq_error_iff (lines : List (List Char)) :
  (∃ e, scanLines lines = .error e) ↔ ∃ line ∈ lines, Faulty line
  := by
  have hok := exists_scanFrom_eq_ok_iff lines.length 1 lines
  simp only [← not_faulty_iff] at hok
  rw [← scanLines] at hok
  have hneg : (∃ e, scanLines lines = .error e) ↔ ¬ ∃ s, scanLines lines = .ok s := by
    cases scanLines lines with
    | error e => simp
    | ok s => simp
  rw [hneg, hok]
  push Not
  rfl

/-! ### Refusals -/

theorem readDirectives_eq_error_iff (source : String) (file : Option String)
    (e : DirectiveError) :
  readDirectives source file = .error e
    ↔ ∃ fault, scanLines (sourceLines source.toList) = .error fault
      ∧ e = fault.toError file
  := by
  rw [readDirectives, scanSource_eq_scanLines]
  cases scanLines (sourceLines source.toList) with
  | error fault => simp [Except.mapError, eq_comm]
  | ok s => simp [Except.mapError]

@[simp]
theorem place_toError (file : Option String) (e : ScanFault) :
  (e.toError file).place = ⟨file, some (e.line : Int)⟩
  := by
  rw [ScanFault.toError]
  split
  · rfl
  · rfl

/-- Only a fault of a name is reported as one. -/
theorem toError_eq_ruleName_iff (file : Option String) (e : ScanFault) (name : String)
    (place : Place) :
  e.toError file = .ruleName name place
    ↔ e.fault = .rules (.ruleName name) ∧ place = ⟨file, some (e.line : Int)⟩
  := by
  rw [ScanFault.toError]
  split
  · rename_i name' hname
    rw [hname]
    simp [eq_comm]
  · rename_i hno
    constructor
    · intro h
      cases h
    · rintro ⟨hname, -⟩
      exact absurd hname (hno name)

/-- Any other fault is reported with its text. -/
theorem toError_cases (file : Option String) (e : ScanFault) :
  (∃ name, e.fault = .rules (.ruleName name)
      ∧ e.toError file = .ruleName name ⟨file, some (e.line : Int)⟩)
    ∨ e.toError file = .comment e.fault.message e.text ⟨file, some (e.line : Int)⟩
  := by
  rw [ScanFault.toError]
  split
  · rename_i name hname
    left
    use name
  · right
    rfl

/-- The refusal of a source, read off its lines. It is refused when a line is at fault. The
refusal stands at the first line at fault: it is about a name exactly when the form and the
commas of that line are fine, and the name is then the first of its items that is no
identifier; otherwise its text is the whole line. It depends on nothing but that line, its
number and the name of the file. -/
theorem readDirectives_refusal (source : String) (file : Option String) :
  ((∃ e, readDirectives source file = .error e)
    ↔ ∃ line ∈ sourceLines source.toList, Faulty line)
  ∧ ∀ e, readDirectives source file = .error e →
    ∃ i line, IsFirstFaulty (sourceLines source.toList) i line
      ∧ e.place = ⟨file, some (i : Int)⟩
      ∧ (∀ name, (∃ place, e = .ruleName name place)
        ↔ ¬ FormFault line ∧ ∃ make payload, HasForm line make payload
          ∧ CommasFine payload ∧ IsFirstBadItem payload name.toList)
      ∧ ((∃ name place, e = .ruleName name place)
        ∨ ∃ message place, e = .comment message (String.ofList line) place)
      ∧ ∀ source' : String, IsFirstFaulty (sourceLines source'.toList) i line →
        readDirectives source' file = .error e
  := by
  constructor
  · rw [← exists_scanLines_eq_error_iff]
    simp only [readDirectives_eq_error_iff]
    constructor
    · rintro ⟨e, fault, hscan, -⟩
      use fault
    · rintro ⟨fault, hscan⟩
      use fault.toError file, fault
  · intro e he
    obtain ⟨fault, hscan, rfl⟩ := (readDirectives_eq_error_iff _ _ _).mp he
    obtain ⟨i, line, lineFault, hfirst, hread, rfl⟩ := (scanLines_eq_error_iff _ _).mp hscan
    use i, line, hfirst, place_toError ..
    refine ⟨?_, ?_, ?_⟩
    · intro name
      have hname := readLine_eq_ruleName_iff line name.toList
      rw [String.ofList_toList, hread] at hname
      have hg := hfirst.faulty.1
      simp only [toError_eq_ruleName_iff, exists_and_left, exists_eq, and_true]
      rw [← Except.error.injEq, hname]
      simp [hg]
    · rcases toError_cases file ⟨lineFault, String.ofList line, i⟩ with ⟨name, -, h⟩ | h
      · exact Or.inl ⟨_, _, h⟩
      · exact Or.inr ⟨_, _, h⟩
    · intro source' hfirst'
      apply (readDirectives_eq_error_iff _ _ _).mpr
      refine ⟨_, ?_, rfl⟩
      apply (scanLines_eq_error_iff _ _).mpr
      use i, line, lineFault

/-- A list whose second item is no identifier, with a line at fault after it. -/
theorem readDirectives_refusal_of_name :
  let source := "f();\n/* avesta-disable a, B, C */\n// avesta-disable"
  let e := DirectiveError.ruleName "B" ⟨some "f.ts", some 2⟩
  readDirectives source (some "f.ts") = .error e
  ∧ ∃ i line, IsFirstFaulty (sourceLines source.toList) i line
    ∧ e.place = ⟨some "f.ts", some (i : Int)⟩
    ∧ ¬ FormFault line ∧ ∃ make payload, HasForm line make payload
      ∧ CommasFine payload ∧ IsFirstBadItem payload "B".toList
  := by
  intro source e
  have he : readDirectives source (some "f.ts") = .error e := by
    decide +kernel
  obtain ⟨i, line, hfirst, hplace, hname, -⟩ := (readDirectives_refusal source (some "f.ts")).2 e he
  use he, i, line, hfirst, hplace
  apply (hname "B").mp
  use ⟨some "f.ts", some 2⟩

end SourceAudit
