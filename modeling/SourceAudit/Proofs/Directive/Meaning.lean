import SourceAudit.Proofs.Directive.Scan
import Mathlib.Control.Monad.Basic

/-!
# The meaning of directives

What the directives of a source turn off, read off its lines. A rule is turned off in the
whole file exactly when a line that is not passed over holds a block directive that lists
it, and on a line exactly when a directive for the next line lists it and aims there.
-/

namespace SourceAudit

open Text

/-- A line that has the form of a directive, in a source that is not refused, turns off
the rules that its payload lists. -/
theorem readLine_of_hasForm_of_ok {line payload : List Char} {make : List String → Directive}
    {read : Option Directive} (hread : readLine line = .ok read) (hg : ¬ Guarded line)
    (hform : HasForm line make payload) :
  ∃ rules, readLine line = .ok (some (make rules))
    ∧ ∀ rule, rule ∈ rules ↔ Lists payload rule
  := by
  have hf := not_formFault_of_readLine hread hg
  have hblank := hform.payload_not_blank
  cases hrules : readRuleList payload with
  | error fault =>
      obtain ⟨fault', herror⟩ := (exists_readLine_eq_error_iff line).mpr
        ⟨hg, Or.inr ⟨make, payload, fault, hform, hrules⟩⟩
      rw [hread] at herror
      cases herror
  | ok rules =>
      use rules
      constructor
      · apply (readLine_eq_ok_some_iff _ _).mpr
        use hg, hf, make, payload, rules
      · intro rule
        obtain ⟨-, -, rfl⟩ := (readRuleList_eq_ok_iff hblank rules).mp hrules
        exact (lists_iff payload rule).symm

/-- The rules that a line turns off are listed in the payload of its directive. -/
theorem exists_hasForm_of_readLine {line : List Char} {directive : Directive}
    (h : readLine line = .ok (some directive)) :
  ¬ Guarded line ∧ ∃ make payload rules, HasForm line make payload ∧ directive = make rules
    ∧ ∀ rule, rule ∈ rules ↔ Lists payload rule
  := by
  obtain ⟨hg, -, make, payload, rules, hform, hrules, rfl⟩ := (readLine_eq_ok_some_iff _ _).mp h
  use hg, make, payload, rules, hform, rfl
  intro rule
  obtain ⟨-, -, rfl⟩ := (readRuleList_eq_ok_iff hform.payload_not_blank rules).mp hrules
  exact (lists_iff payload rule).symm

/-- What a line turns off in the whole file. -/
theorem readLine_wholeFile_iff {line : List Char} {read : Option Directive}
    (hread : readLine line = .ok read) (rule : String) :
  (∃ rules, readLine line = .ok (some (.wholeFile rules)) ∧ rule ∈ rules)
    ↔ ¬ Guarded line ∧ ¬ SpeaksOfNextLine line
      ∧ ∃ payload, FileForm line payload ∧ Lists payload rule
  := by
  constructor
  · rintro ⟨rules, hrules, hrule⟩
    obtain ⟨hg, make, payload, rules', hform, heq, hlists⟩ := exists_hasForm_of_readLine hrules
    cases hform with
    | nextLine hnext hform => cases heq
    | wholeFile hnext hform =>
        cases heq
        use hg, hnext, payload, hform
        exact (hlists rule).mp hrule
  · rintro ⟨hg, hnext, payload, hform, hlists⟩
    obtain ⟨rules, hrules, hmem⟩ := readLine_of_hasForm_of_ok hread hg (.wholeFile hnext hform)
    use rules, hrules
    exact (hmem rule).mpr hlists

/-- What a line turns off on the line that it aims at. -/
theorem readLine_nextLine_iff {line : List Char} {read : Option Directive}
    (hread : readLine line = .ok read) (rule : String) :
  (∃ rules, readLine line = .ok (some (.nextLine rules)) ∧ rule ∈ rules)
    ↔ ¬ Guarded line ∧ ∃ payload, NextLineForm line payload ∧ Lists payload rule
  := by
  constructor
  · rintro ⟨rules, hrules, hrule⟩
    obtain ⟨hg, make, payload, rules', hform, heq, hlists⟩ := exists_hasForm_of_readLine hrules
    cases hform with
    | nextLine hnext hform =>
        cases heq
        use hg, payload, hform
        exact (hlists rule).mp hrule
    | wholeFile hnext hform => cases heq
  · rintro ⟨hg, payload, hform, hlists⟩
    obtain ⟨rules, hrules, hmem⟩ :=
      readLine_of_hasForm_of_ok hread hg (.nextLine hform.speaksOfNextLine hform)
    use rules, hrules
    exact (hmem rule).mpr hlists

/-- The meaning of the directives of a source that is not refused. A rule is turned off in
the whole file when a line that is not passed over and does not speak of the next line
lists it in its first block comment with the keyword; it is turned off on a line when a
directive for the next line that is not passed over lists it and aims at that line. Nothing
else is turned off. -/
theorem readDirectives_meaning {source : String} {file : Option String} {s : Suppressions}
    (h : readDirectives source file = .ok s) :
  (∀ rule, rule ∈ s.fileRules
    ↔ ∃ line ∈ sourceLines source.toList, ¬ Guarded line ∧ ¬ SpeaksOfNextLine line
      ∧ ∃ payload, FileForm line payload ∧ Lists payload rule)
  ∧ (∀ (m : Int) rule, s.disablesOn m rule = true
    ↔ ∃ i line n, lineAt? (sourceLines source.toList) i = some line ∧ ¬ Guarded line
      ∧ (∃ payload, NextLineForm line payload ∧ Lists payload rule)
      ∧ IsTarget (sourceLines source.toList) i n ∧ m = (n : Int))
  ∧ s.everything = false
  := by
  have hscan := (readDirectives_eq_ok_iff source file s).mp h
  generalize sourceLines source.toList = lines at hscan ⊢
  have hread := (exists_scanFrom_eq_ok_iff _ _ _).mp ⟨s, hscan⟩
  refine ⟨?_, ?_, everything_of_scanFrom hscan⟩
  · intro rule
    rw [mem_fileRules_of_scanFrom_iff hscan]
    constructor
    · rintro ⟨line, hline, hrules⟩
      obtain ⟨read, hread⟩ := hread line hline
      use line, hline
      exact (readLine_wholeFile_iff hread rule).mp hrules
    · rintro ⟨line, hline, hform⟩
      obtain ⟨read, hread⟩ := hread line hline
      use line, hline
      exact (readLine_wholeFile_iff hread rule).mpr hform
  · intro m rule
    rw [disablesOn_of_scanLines_iff hscan]
    constructor
    · rintro ⟨i, line, rules, n, hline, hrules, hrule, htarget, hm⟩
      obtain ⟨hg, hform⟩ := (readLine_nextLine_iff hrules rule).mp ⟨rules, hrules, hrule⟩
      use i, line, n
    · rintro ⟨i, line, n, hline, hg, hform, htarget, hm⟩
      obtain ⟨read, hread⟩ := hread line (mem_of_lineAt? hline)
      obtain ⟨rules, hrules, hrule⟩ := (readLine_nextLine_iff hread rule).mpr ⟨hg, hform⟩
      use i, line, rules, n

/-- A source with a directive of each kind, and a blank line between the second and the
line it aims at. -/
theorem readDirectives_meaning_both_kinds :
  let source := "/* avesta-disable a */\n// avesta-disable-next-line b, c\n\nfoo();"
  readDirectives source none = .ok ⟨["a"], [(4, ["b", "c"])], false⟩
  ∧ (∃ line ∈ sourceLines source.toList, ¬ Guarded line ∧ ¬ SpeaksOfNextLine line
      ∧ ∃ payload, FileForm line payload ∧ Lists payload "a")
  ∧ (∃ i line n, lineAt? (sourceLines source.toList) i = some line ∧ ¬ Guarded line
      ∧ (∃ payload, NextLineForm line payload ∧ Lists payload "c")
      ∧ IsTarget (sourceLines source.toList) i n ∧ (4 : Int) = (n : Int))
  := by
  intro source
  have hread : readDirectives source none = .ok ⟨["a"], [(4, ["b", "c"])], false⟩ := by
    decide +kernel
  obtain ⟨hfile, hline, -⟩ := readDirectives_meaning hread
  use hread
  constructor
  · apply (hfile "a").mp
    decide
  · apply (hline 4 "c").mp
    decide

end SourceAudit
