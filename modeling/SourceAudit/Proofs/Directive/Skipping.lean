import SourceAudit.Proofs.Directive.Scan

/-!
# Lines that a directive skips

A directive for the next line skips the lines between it and the line that it aims at.

* A line holds no code when it is blank, or when it consists of comments and blanks.
* A line that is skipped is blank or a comment that begins with the keyword. A block comment
  ends on the line, unless the line is guarded.
* A line is skipped for how it begins. It holds no code exactly when nothing but blanks and
  comments follows the block comment that it begins with, if there is one.
-/

namespace SourceAudit

open Text

/-! ### Lines without code -/

/-- The text begins with a block comment that ends before `rest`. -/
def BeginsWithBlock (s rest : List Char) : Prop :=
  ∃ text inside, trimLeft s = '/' :: '*' :: text ∧ IsFirstCut "*/".toList text inside rest

/-- The text consists of blanks and comments. The last of them may be a block comment that
does not end on the line. -/
inductive HoldsNoCode : List Char → Prop where
  | blank {s : List Char} : isBlankText s = true → HoldsNoCode s
  | lineComment {s text : List Char} : trimLeft s = '/' :: '/' :: text → HoldsNoCode s
  | openBlock {s text : List Char} :
      trimLeft s = '/' :: '*' :: text → ¬ "*/".toList <:+: text → HoldsNoCode s
  | block {s rest : List Char} : BeginsWithBlock s rest → HoldsNoCode rest → HoldsNoCode s

/-- Whether a text holds no code; `inBlock` tells whether it begins inside a block
comment. -/
def isCodeFree : Bool → List Char → Bool
  | _, [] => true
  | true, '*' :: '/' :: s => isCodeFree false s
  | true, _ :: s => isCodeFree true s
  | false, '/' :: '/' :: _ => true
  | false, '/' :: '*' :: s => isCodeFree true s
  | false, c :: s => isBlank c && isCodeFree false s

theorem BeginsWithBlock.unique {s rest rest' : List Char} (h : BeginsWithBlock s rest)
    (h' : BeginsWithBlock s rest') :
  rest = rest'
  := by
  obtain ⟨text, inside, hs, hcut⟩ := h
  obtain ⟨text', inside', hs', hcut'⟩ := h'
  rw [hs] at hs'
  cases hs'
  exact hcut.rest_unique hcut'

/-- After a block comment, only what follows it counts. -/
theorem BeginsWithBlock.holdsNoCode_iff {s rest : List Char} (h : BeginsWithBlock s rest) :
  HoldsNoCode s ↔ HoldsNoCode rest
  := by
  constructor
  · intro hno
    obtain ⟨text, inside, hs, hcut⟩ := id h
    cases hno with
    | blank hblank =>
        rw [trimLeft_of_blank hblank] at hs
        cases hs
    | lineComment hline =>
        rw [hline] at hs
        cases hs
    | openBlock hopen hend =>
        rw [hopen] at hs
        cases hs
        exact absurd ⟨inside, rest, hcut.eq.symm⟩ hend
    | block h' hrest =>
        rw [h.unique h']
        exact hrest
  · exact .block h

theorem holdsNoCode_of_opensBlock_iff {s text : List Char} (hs : trimLeft s = '/' :: '*' :: text) :
  HoldsNoCode s ↔ ∀ inside rest, IsFirstCut "*/".toList text inside rest → HoldsNoCode rest
  := by
  constructor
  · intro h inside rest hcut
    apply (BeginsWithBlock.holdsNoCode_iff ⟨text, inside, hs, hcut⟩).mp h
  · intro h
    cases hcut : cut? "*/".toList text with
    | none => exact .openBlock hs ((cut?_eq_none_iff _ _).mp hcut)
    | some found =>
        obtain ⟨inside, rest⟩ := found
        have hfirst := cut?_isFirstCut hcut
        exact .block ⟨text, inside, hs, hfirst⟩ (h inside rest hfirst)

/-- Blanks in front of a text do not count. -/
theorem HoldsNoCode.of_trimLeft_eq {s s' : List Char} (h : HoldsNoCode s)
    (heq : trimLeft s = trimLeft s') :
  HoldsNoCode s'
  := by
  cases h with
  | blank hblank =>
      rw [trimLeft_of_blank hblank] at heq
      apply HoldsNoCode.blank
      apply (isBlankText_iff s').mpr
      exact List.dropWhile_eq_nil_iff.mp heq.symm
  | lineComment hline => exact .lineComment (heq.symm.trans hline)
  | openBlock hopen hend => exact .openBlock (heq.symm.trans hopen) hend
  | block hbegins hrest =>
      obtain ⟨text, inside, hs, hcut⟩ := hbegins
      exact .block ⟨text, inside, heq.symm.trans hs, hcut⟩ hrest

/-- A text without code is blank or begins with a comment. -/
theorem HoldsNoCode.begins {s : List Char} (h : HoldsNoCode s) :
  trimLeft s = [] ∨ (∃ text, trimLeft s = '/' :: '/' :: text)
    ∨ ∃ text, trimLeft s = '/' :: '*' :: text
  := by
  cases h with
  | blank hblank => exact Or.inl (trimLeft_of_blank hblank)
  | lineComment hline => exact Or.inr (Or.inl ⟨_, hline⟩)
  | openBlock hopen _ => exact Or.inr (Or.inr ⟨_, hopen⟩)
  | block hbegins _ =>
      obtain ⟨text, inside, hs, -⟩ := hbegins
      exact Or.inr (Or.inr ⟨text, hs⟩)

/-- `isCodeFree` decides whether a text holds no code. -/
theorem isCodeFree_iff (inBlock : Bool) (s : List Char) :
  isCodeFree inBlock s = true
    ↔ if inBlock then ∀ inside rest, IsFirstCut "*/".toList s inside rest → HoldsNoCode rest
      else HoldsNoCode s
  := by
  fun_induction isCodeFree inBlock s with
  | case1 inBlock =>
      cases inBlock with
      | true =>
          simp only [if_true, true_iff]
          rintro inside rest ⟨heq, -⟩
          simp at heq
      | false =>
          simp only [Bool.false_eq_true, if_false, true_iff]
          exact .blank rfl
  | case2 s ih =>
      rw [ih]
      simp only [Bool.false_eq_true, if_false, if_true]
      have hcut : IsFirstCut "*/".toList ('*' :: '/' :: s) [] s := ⟨rfl, by simp⟩
      constructor
      · intro h inside rest hcut'
        rw [hcut'.rest_unique hcut]
        exact h
      · intro h
        exact h [] s hcut
  | case3 c s hno ih =>
      have hend : ¬ "*/".toList <+: c :: s := by
        rintro ⟨rest, heq⟩
        obtain ⟨rfl, rfl⟩ := List.cons.inj heq
        exact hno rest rfl rfl
      rw [ih]
      simp only [if_true]
      constructor
      · intro h inside rest hcut
        apply h inside.tail rest (hcut.of_cons hend)
      · intro h inside rest hcut
        apply h (c :: inside) rest (hcut.cons hend)
  | case4 s =>
      simp only [Bool.false_eq_true, if_false, true_iff]
      exact .lineComment rfl
  | case5 s ih =>
      rw [ih]
      simp only [Bool.false_eq_true, if_false, if_true]
      rw [holdsNoCode_of_opensBlock_iff rfl]
  | case6 c s hline hblock ih =>
      rw [Bool.and_eq_true, ih]
      simp only [Bool.false_eq_true, if_false]
      constructor
      · rintro ⟨hc, hs⟩
        apply hs.of_trimLeft_eq
        symm
        apply trimLeft_cons_of_blank s hc
      · intro h
        cases hc : isBlank c with
        | true =>
            use rfl
            apply h.of_trimLeft_eq
            apply trimLeft_cons_of_blank s hc
        | false =>
            exfalso
            have hbegins := h.begins
            rw [trimLeft_cons_of_not_blank s hc] at hbegins
            rcases hbegins with hnil | ⟨text, heq⟩ | ⟨text, heq⟩
            · cases hnil
            · obtain ⟨rfl, rfl⟩ := List.cons.inj heq
              exact hline text rfl rfl
            · obtain ⟨rfl, rfl⟩ := List.cons.inj heq
              exact hblock text rfl rfl

instance : DecidablePred HoldsNoCode :=
  fun s => decidable_of_iff (isCodeFree false s = true) (by simpa using isCodeFree_iff false s)

example : HoldsNoCode " /* a */ // b".toList ∧ ¬ HoldsNoCode "/* a */ b()".toList := by decide

/-! ### Comments with the keyword -/

/-- A comment fills the line from its first character that is not blank. -/
theorem IsComment.trimLeft_eq {opener : Char} {word line rest : List Char}
    (h : IsComment opener word line rest) :
  ∃ ws ws', isBlankText ws = true
    ∧ trimLeft line = '/' :: opener :: (ws ++ word ++ rest ++ ws')
  := by
  obtain ⟨ws, hws, hline⟩ := h
  obtain ⟨ws', -, htrim⟩ := exists_trimRight_append (trimLeft line)
  use ws, ws', hws
  rw [htrim, ← trim, hline]
  simp only [List.cons_append]

theorem exists_beginsWithBlock {s text : List Char} (hs : trimLeft s = '/' :: '*' :: text)
    (hend : "*/".toList <:+: text) :
  ∃ rest, BeginsWithBlock s rest
  := by
  cases hcut : cut? "*/".toList text with
  | none => exact absurd hend ((cut?_eq_none_iff _ _).mp hcut)
  | some found =>
      obtain ⟨inside, rest⟩ := found
      use rest, text, inside, hs
      apply cut?_isFirstCut hcut

/-- A block comment that begins with the keyword and holds a payload ends on the line. -/
theorem exists_beginsWithBlock_of_fileForm {line rest payload : List Char}
    (h : IsComment '*' directiveKeyword line rest) (hform : FileForm line payload) :
  ∃ after, BeginsWithBlock line after
  := by
  obtain ⟨ws, ws', -, hbegins⟩ := h.trimLeft_eq
  apply exists_beginsWithBlock hbegins
  have hfirst : firstBlock? (trim line) = some rest := by
    obtain ⟨ws, hws, hline⟩ := h
    have hkeyword := (trimLeft_eq_keyword_append_iff (ws ++ directiveKeyword ++ rest) rest).mpr
      ⟨ws, hws, rfl⟩
    rw [hline, firstBlock?, hkeyword, after?_append]
  have hpayload := (filePayload?_eq_some_iff line payload).mpr hform
  rw [← filePayload?_trim, filePayload?, hfirst, Option.bind_some,
    blockPayload?_eq_some_iff] at hpayload
  obtain ⟨after, hcut, -⟩ := hpayload
  use ws ++ directiveKeyword ++ payload, after ++ ws'
  rw [hcut.eq]
  simp only [List.append_assoc]

/-- A block comment that begins with the keyword ends on a line that is neither guarded nor
refused. -/
theorem exists_beginsWithBlock_of_readLine {line rest : List Char} {read : Option Directive}
    (hread : readLine line = .ok read) (hg : ¬ Guarded line)
    (h : IsComment '*' directiveKeyword line rest) :
  ∃ after, BeginsWithBlock line after
  := by
  have hmentions : Mentions line := by
    obtain ⟨ws, hws, hline⟩ := h
    apply List.IsInfix.trans _ (trim_isInfix line)
    use '/' :: '*' :: ws, rest
    rw [hline]
    simp only [List.cons_append]
  have hf := not_formFault_of_readLine hread hg
  rw [formFault_iff, not_or, not_and] at hf
  obtain ⟨make, hmake⟩ := Classical.not_forall.mp (hf.2 hmentions)
  obtain ⟨payload, hno⟩ := Classical.not_forall.mp hmake
  have hform := Classical.not_not.mp hno
  cases hform with
  | nextLine _ hnext =>
      obtain ⟨⟨ws', -, hline'⟩, -⟩ := hnext
      obtain ⟨ws, -, hline⟩ := h
      rw [hline] at hline'
      simp at hline'
  | wholeFile _ hfile => exact exists_beginsWithBlock_of_fileForm h hfile

/-! ### Lines between a directive and its target -/

/-- A line before the target of a directive holds no code for the scan. -/
theorem IsTarget.not_isCode {lines : List (List Char)} {i j n : Nat} {directive line : List Char}
    (htarget : IsTarget lines i n) (hdirective : lineAt? lines i = some directive) (hij : i < j)
    (hjn : j < n) (hline : lineAt? lines j = some line) :
  ¬ IsCode line
  := by
  intro hcode
  rcases htarget with ⟨-, hleast⟩ | ⟨-, rfl⟩
  · have hle := hleast ⟨hij, line, hline, hcode⟩
    omega
  · have hi := pos_of_lineAt? hdirective
    omega

/-- A directive for the next line skips a line for how it begins. In a source that is not
refused, every line between the directive on line `i` and the line `n` that it aims at is blank
or a comment that begins with the keyword, and a block comment ends on the line unless the line
is guarded. Such a line holds no code exactly when nothing but blanks and comments follows the
block comment that it begins with, if it begins with one. -/
theorem readDirectives_skipped_line {source : String} {file : Option String} {s : Suppressions}
    (h : readDirectives source file = .ok s) {i j n : Nat} {directive line : List Char}
    (hdirective : lineAt? (sourceLines source.toList) i = some directive)
    (htarget : IsTarget (sourceLines source.toList) i n) (hij : i < j) (hjn : j < n)
    (hline : lineAt? (sourceLines source.toList) j = some line) :
  (HoldsNoCode line ↔ ∀ rest, BeginsWithBlock line rest → HoldsNoCode rest)
    ∧ (isBlankText line = true ∨ (∃ rest, IsComment '/' directiveKeyword line rest)
      ∨ ((∃ rest, IsComment '*' directiveKeyword line rest)
        ∧ (Guarded line ∨ ∃ rest, BeginsWithBlock line rest)))
  := by
  have hscan := (readDirectives_eq_ok_iff source file s).mp h
  obtain ⟨read, hread⟩ := (exists_scanFrom_eq_ok_iff _ _ _).mp ⟨s, hscan⟩ line
    (mem_of_lineAt? hline)
  have hkind : isBlankText line = true ∨ OpensDirective line := by
    have hno := htarget.not_isCode hdirective hij hjn hline
    by_cases hblank : isBlankText line = true
    · exact Or.inl hblank
    · right
      by_contra hopens
      exact hno ⟨by simpa using hblank, hopens⟩
  constructor
  · constructor
    · intro hno rest hbegins
      apply hbegins.holdsNoCode_iff.mp hno
    · intro hrest
      rcases hkind with hblank | ⟨rest, hcomment | hcomment⟩
      · exact .blank hblank
      · obtain ⟨ws, ws', -, hbegins⟩ := hcomment.trimLeft_eq
        exact .lineComment hbegins
      · obtain ⟨ws, ws', -, hbegins⟩ := hcomment.trimLeft_eq
        apply (holdsNoCode_of_opensBlock_iff hbegins).mpr
        intro inside after hcut
        exact hrest after ⟨_, inside, hbegins, hcut⟩
  · rcases hkind with hblank | ⟨rest, hcomment | hcomment⟩
    · exact Or.inl hblank
    · exact Or.inr (Or.inl ⟨rest, hcomment⟩)
    · right
      right
      use ⟨rest, hcomment⟩
      by_cases hg : Guarded line
      · exact Or.inl hg
      · exact Or.inr (exists_beginsWithBlock_of_readLine hread hg hcomment)

/-- A blank line and a block comment with a line comment after it are skipped. -/
theorem readDirectives_skipped_line_comments :
  let source := "// avesta-disable-next-line r\n\n/* avesta-disable a */ // b\nfoo();"
  let lines := sourceLines source.toList
  let line := "/* avesta-disable a */ // b".toList
  readDirectives source none = .ok ⟨["a"], [(4, ["r"])], false⟩
    ∧ lineAt? lines 1 = some "// avesta-disable-next-line r".toList
    ∧ IsTarget lines 1 4 ∧ lineAt? lines 3 = some line
    ∧ (HoldsNoCode line ↔ ∀ rest, BeginsWithBlock line rest → HoldsNoCode rest)
    ∧ HoldsNoCode line
  := by
  intro source lines line
  have hread : readDirectives source none = .ok ⟨["a"], [(4, ["r"])], false⟩ := by
    decide +kernel
  have hlines : lines = [] ++ "// avesta-disable-next-line r".toList
      :: [[], line, "foo();".toList] := by decide +kernel
  have hdirective : lineAt? lines 1 = some "// avesta-disable-next-line r".toList := by
    rw [hlines]
    rfl
  have hline : lineAt? lines 3 = some line := by
    rw [hlines]
    rfl
  have htarget : IsTarget lines 1 4 := by
    rw [hlines]
    apply (targetLine?_eq_some_iff _ _ _ _).mp
    decide
  have hskipped := readDirectives_skipped_line hread hdirective htarget (by decide) (by decide)
    hline
  use hread, hdirective, htarget, hline, hskipped.1
  decide

/-- Code that follows a directive for the whole file is skipped: what aims at the next line of
code aims past it. -/
theorem readDirectives_skipped_code :
  let source := "// avesta-disable-next-line r\n/* avesta-disable a */ foo();\nbar();"
  let lines := sourceLines source.toList
  let directive := "// avesta-disable-next-line r".toList
  let line := "/* avesta-disable a */ foo();".toList
  (∃ s, readDirectives source none = .ok s ∧ s.disablesOn 2 "r" = false
      ∧ s.disablesOn 3 "r" = true)
    ∧ lines.length = 3 ∧ lineAt? lines 1 = some directive ∧ ¬ Guarded directive
    ∧ NextLineForm directive " r".toList ∧ IsTarget lines 1 3 ∧ lineAt? lines 2 = some line
    ∧ ¬ HoldsNoCode line
  := by
  intro source lines directive line
  have hread : readDirectives source none = .ok ⟨["a"], [(3, ["r"])], false⟩ := by
    decide +kernel
  have hlines : lines = [] ++ directive :: [line, "bar();".toList] := by
    decide +kernel
  have htarget : IsTarget lines 1 3 := by
    rw [hlines]
    apply (targetLine?_eq_some_iff _ _ _ _).mp
    decide
  have hguarded : ¬ Guarded directive := by
    rw [Guarded]
    decide +kernel
  have hform : NextLineForm directive " r".toList := by
    apply (nextLinePayload?_eq_some_iff _ _).mp
    decide
  rw [hlines] at htarget ⊢
  exact ⟨⟨_, hread, by decide, by decide⟩, rfl, rfl, hguarded, hform, htarget, rfl, by decide⟩

end SourceAudit
