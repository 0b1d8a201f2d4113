import SourceAudit.Proofs.Directive.Scan
import Mathlib.Control.Monad.Basic

/-!
# Inserting a directive

A directive for the next line is put before a line of code. The lines from there on move
down by one, and so does everything that is turned off on them: the inserted line is no
line of code, so that a directive above it still finds the line it aimed at. The inserted
directive itself aims at the line of code that follows it.
-/

namespace SourceAudit

open Text

/-! ### Lines that move -/

/-- Where a line stands after a line has been inserted before line `n`. -/
def shiftFrom (n i : Nat) : Nat :=
  if i < n then i else i + 1

theorem shiftFrom_of_lt {n i : Nat} (h : i < n) :
  shiftFrom n i = i
  := if_pos h

theorem shiftFrom_of_le {n i : Nat} (h : n ≤ i) :
  shiftFrom n i = i + 1
  := if_neg (Nat.not_lt_of_le h)

theorem strictMono_shiftFrom (n : Nat) :
  StrictMono (shiftFrom n)
  := by
  intro i j hij
  rw [shiftFrom, shiftFrom]
  split
  · split
    · exact hij
    · exact Nat.lt_succ_of_lt hij
  · rw [if_neg (by omega)]
    exact Nat.succ_lt_succ hij

/-- Every line but the inserted one has moved to where it stands. -/
theorem exists_shiftFrom_of_ne {n i : Nat} (h : i ≠ n) :
  ∃ j, i = shiftFrom n j
  := by
  rcases Nat.lt_or_gt_of_ne h with hlt | hgt
  · use i
    rw [shiftFrom_of_lt hlt]
  · use i - 1
    rw [shiftFrom_of_le (by omega)]
    omega

theorem lineAt?_insertIdx_shiftFrom {n : Nat} (hn : 0 < n) (lines : List (List Char))
    (new : List Char) (i : Nat) :
  lineAt? (lines.insertIdx (n - 1) new) (shiftFrom n i) = lineAt? lines i
  := by
  by_cases hi : i < n
  · rw [shiftFrom_of_lt hi]
    cases i with
    | zero => rfl
    | succ i => exact List.getElem?_insertIdx_of_lt (by omega)
  · rw [shiftFrom_of_le (by omega)]
    cases i with
    | zero => omega
    | succ i => exact List.getElem?_insertIdx_of_gt (by omega)

theorem lineAt?_insertIdx_self {lines : List (List Char)} {n : Nat} {line : List Char}
    (hline : lineAt? lines n = some line) (new : List Char) :
  lineAt? (lines.insertIdx (n - 1) new) n = some new
  := by
  obtain ⟨before, after, rfl, rfl⟩ := exists_of_lineAt? hline
  rw [lineAt?, Nat.add_sub_cancel, List.getElem?_insertIdx_self, if_pos]
  simp

theorem mem_insertIdx_iff {lines : List (List Char)} {n : Nat} {line : List Char}
    (hline : lineAt? lines n = some line) (new l : List Char) :
  l ∈ lines.insertIdx (n - 1) new ↔ l = new ∨ l ∈ lines
  := by
  obtain ⟨before, after, rfl, rfl⟩ := exists_of_lineAt? hline
  apply List.mem_insertIdx
  simp

/-- What holds of numbers of lines, and of them where they have moved to. -/
theorem exists_shiftFrom_iff {P : Int → Prop} (hP : ∀ k, P k → ∃ j : Nat, k = (j : Int))
    (n : Nat) (m : Int) :
  (∃ k : Nat, P k ∧ m = (shiftFrom n k : Nat)) ↔ (m < n ∧ P m) ∨ (n < m ∧ P (m - 1))
  := by
  constructor
  · rintro ⟨k, hk, rfl⟩
    by_cases hkn : k < n
    · left
      rw [shiftFrom_of_lt hkn]
      exact ⟨by omega, hk⟩
    · right
      rw [shiftFrom_of_le (by omega), Int.natCast_succ, Int.add_sub_cancel]
      exact ⟨by omega, hk⟩
  · rintro (⟨hm, hk⟩ | ⟨hm, hk⟩)
    · obtain ⟨k, rfl⟩ := hP m hk
      use k, hk
      rw [shiftFrom_of_lt (by omega)]
    · obtain ⟨k, heq⟩ := hP (m - 1) hk
      rw [heq] at hk
      use k, hk
      rw [shiftFrom_of_le (by omega)]
      omega

/-! ### Targets that move -/

theorem length_insertIdx_of_lineAt? {lines : List (List Char)} {n : Nat} {line : List Char}
    (hline : lineAt? lines n = some line) (new : List Char) :
  (lines.insertIdx (n - 1) new).length = lines.length + 1
  := by
  obtain ⟨before, after, rfl, rfl⟩ := exists_of_lineAt? hline
  apply List.length_insertIdx_of_le_length
  simp

/-- The lines of code are those from before, moved. -/
theorem codeAfter_insertIdx {lines : List (List Char)} {n : Nat} {line new : List Char}
    (hline : lineAt? lines n = some line) (hnew : ¬ IsCode new) (i : Nat) :
  codeAfter (lines.insertIdx (n - 1) new) (shiftFrom n i)
    = shiftFrom n '' codeAfter lines i
  := by
  have hn := pos_of_lineAt? hline
  ext k
  constructor
  · rintro ⟨hk, l, hl, hcode⟩
    have hkn : k ≠ n := by
      rintro rfl
      rw [lineAt?_insertIdx_self hline new] at hl
      cases hl
      exact hnew hcode
    obtain ⟨j, rfl⟩ := exists_shiftFrom_of_ne hkn
    rw [lineAt?_insertIdx_shiftFrom hn] at hl
    use j
    exact ⟨⟨(strictMono_shiftFrom n).lt_iff_lt.mp hk, l, hl, hcode⟩, rfl⟩
  · rintro ⟨j, ⟨hj, l, hl, hcode⟩, rfl⟩
    use strictMono_shiftFrom n hj, l
    rw [lineAt?_insertIdx_shiftFrom hn]
    use hl

theorem isLeast_image_shiftFrom_iff (n : Nat) (s : Set Nat) (m : Nat) :
  IsLeast (shiftFrom n '' s) m ↔ ∃ k, IsLeast s k ∧ m = shiftFrom n k
  := by
  constructor
  · rintro ⟨⟨k, hk, rfl⟩, hleast⟩
    use k
    refine ⟨⟨hk, ?_⟩, rfl⟩
    intro j hj
    exact (strictMono_shiftFrom n).le_iff_le.mp (hleast ⟨j, hj, rfl⟩)
  · rintro ⟨k, hk, rfl⟩
    constructor
    · use k, hk.1
    · rintro - ⟨j, hj, rfl⟩
      exact (strictMono_shiftFrom n).le_iff_le.mpr (hk.2 hj)

/-- A directive from before still aims at the line it aimed at, which may have moved. A
source of a single line has no directive in it when that line holds code. -/
theorem isTarget_insertIdx_iff {lines : List (List Char)} {n i : Nat} {line new l : List Char}
    (hline : lineAt? lines n = some line) (hcode : IsCode line) (hnew : ¬ IsCode new)
    (hl : lineAt? lines i = some l) (hno : ¬ IsCode l) (m : Nat) :
  IsTarget (lines.insertIdx (n - 1) new) (shiftFrom n i) m
    ↔ ∃ k, IsTarget lines i k ∧ m = shiftFrom n k
  := by
  -- lines `n` and `i` differ, so the rule for a source of one line applies neither before
  -- nor after the insertion
  have hmany : lines.length ≠ 1 := by
    intro hone
    obtain ⟨only, rfl⟩ := List.length_eq_one_iff.mp hone
    have hline' := mem_of_lineAt? hline
    have hl' := mem_of_lineAt? hl
    rw [List.mem_singleton] at hline' hl'
    rw [hl', ← hline'] at hno
    exact hno hcode
  have hmany' : (lines.insertIdx (n - 1) new).length ≠ 1 := by
    rw [length_insertIdx_of_lineAt? hline]
    have hpos := List.length_pos_of_mem (mem_of_lineAt? hline)
    omega
  simp only [IsTarget, hmany, hmany', false_and, or_false]
  rw [codeAfter_insertIdx hline hnew, isLeast_image_shiftFrom_iff]

/-- The inserted directive aims at the line that it was put before. -/
theorem isTarget_insertIdx_self_iff {lines : List (List Char)} {n : Nat} {line : List Char}
    (hline : lineAt? lines n = some line) (hcode : IsCode line) (new : List Char) (m : Nat) :
  IsTarget (lines.insertIdx (n - 1) new) n m ↔ m = n + 1
  := by
  have hleast : IsLeast (codeAfter (lines.insertIdx (n - 1) new) n) (n + 1) := by
    constructor
    · use Nat.lt_succ_self n, line
      have hshift := lineAt?_insertIdx_shiftFrom (pos_of_lineAt? hline) lines new n
      rw [shiftFrom_of_le le_rfl] at hshift
      rw [hshift]
      use hline
    · intro k hk
      exact hk.1
  have hmany : (lines.insertIdx (n - 1) new).length ≠ 1 := by
    rw [length_insertIdx_of_lineAt? hline]
    have hpos := List.length_pos_of_mem (mem_of_lineAt? hline)
    omega
  simp only [IsTarget, hmany, false_and, or_false]
  constructor
  · intro h
    exact h.unique hleast
  · rintro rfl
    exact hleast

/-! ### Scans -/

/-- A directive for the next line is put before line `n`, which holds code: what was turned
off on single lines has moved with its line, and the new rules are turned off on the line
of code. -/
theorem disablesOn_insertIdx_iff {lines : List (List Char)} {s s' : Suppressions} {n : Nat}
    {line new : List Char} {rules : List String} (hline : lineAt? lines n = some line)
    (hcode : IsCode line) (hnew : readLine new = .ok (some (.nextLine rules)))
    (hscan : scanLines lines = .ok s) (hscan' : scanLines (lines.insertIdx (n - 1) new) = .ok s')
    (m : Int) (q : String) :
  s'.disablesOn m q = true
    ↔ (∃ k : Nat, s.disablesOn k q = true ∧ m = (shiftFrom n k : Nat))
      ∨ (m = (n + 1 : Nat) ∧ q ∈ rules)
  := by
  have hn := pos_of_lineAt? hline
  have hnocode := not_isCode_of_readLine_nextLine hnew
  rw [disablesOn_of_scanLines_iff hscan']
  constructor
  · rintro ⟨i, l, rules', k, hl, hread, hq, htarget, rfl⟩
    by_cases hin : i = n
    · subst hin
      right
      rw [lineAt?_insertIdx_self hline new] at hl
      cases hl
      rw [hnew] at hread
      cases hread
      use congrArg _ ((isTarget_insertIdx_self_iff hline hcode new k).mp htarget)
    · left
      obtain ⟨j, rfl⟩ := exists_shiftFrom_of_ne hin
      rw [lineAt?_insertIdx_shiftFrom hn] at hl
      obtain ⟨k, hk, rfl⟩ := (isTarget_insertIdx_iff hline hcode hnocode hl
        (not_isCode_of_readLine_nextLine hread) k).mp htarget
      use k
      refine ⟨?_, rfl⟩
      apply (disablesOn_of_scanLines_iff hscan _ _).mpr
      use j, l, rules', k
  · rintro (⟨k, hk, rfl⟩ | ⟨rfl, hq⟩)
    · obtain ⟨i, l, rules', k', hl, hread, hq, htarget, heq⟩ :=
        (disablesOn_of_scanLines_iff hscan _ _).mp hk
      rw [Int.natCast_inj] at heq
      subst heq
      use shiftFrom n i, l, rules', shiftFrom n k
      rw [lineAt?_insertIdx_shiftFrom hn]
      refine ⟨hl, hread, hq, ?_, rfl⟩
      apply (isTarget_insertIdx_iff hline hcode hnocode hl
        (not_isCode_of_readLine_nextLine hread) _).mpr
      use k
    · use n, new, rules, n + 1, lineAt?_insertIdx_self hline new, hnew, hq
      use (isTarget_insertIdx_self_iff hline hcode new _).mpr rfl

/-- The scan still comes to an end, and turns off the same in the whole file. -/
theorem exists_scanLines_insertIdx {lines : List (List Char)} {s : Suppressions} {n : Nat}
    {line new : List Char} {rules : List String} (hline : lineAt? lines n = some line)
    (hnew : readLine new = .ok (some (.nextLine rules))) (hscan : scanLines lines = .ok s) :
  ∃ s', scanLines (lines.insertIdx (n - 1) new) = .ok s'
    ∧ ∀ q, q ∈ s'.fileRules ↔ q ∈ s.fileRules
  := by
  have hmem := mem_insertIdx_iff hline new
  obtain ⟨s', hscan'⟩ : ∃ s', scanLines (lines.insertIdx (n - 1) new) = .ok s' := by
    apply (exists_scanFrom_eq_ok_iff _ _ _).mpr
    intro l hl
    rcases (hmem l).mp hl with rfl | hl
    · exact ⟨_, hnew⟩
    · exact (exists_scanFrom_eq_ok_iff _ _ _).mp ⟨s, hscan⟩ l hl
  use s', hscan'
  intro q
  rw [mem_fileRules_of_scanFrom_iff hscan', mem_fileRules_of_scanFrom_iff hscan]
  simp [hmem, hnew]

/-! ### The inserted line -/

/-- The comment `// avesta-disable-next-line` with one rule. -/
def nextLineComment (rule : String) : List Char :=
  '/' :: '/' :: ' ' :: (nextLineKeyword ++ ' ' :: rule.toList)

/-- No character of the text is a quote. -/
def IsUnquoted (s : List Char) : Prop :=
  ∀ c ∈ s, isQuote c = false

instance (s : List Char) : Decidable (IsUnquoted s) :=
  List.decidableBAll (isQuote · = false) s

@[simp]
theorem isUnquoted_append (s t : List Char) :
  IsUnquoted (s ++ t) ↔ IsUnquoted s ∧ IsUnquoted t
  := List.forall_mem_append

@[simp]
theorem isUnquoted_cons (c : Char) (s : List Char) :
  IsUnquoted (c :: s) ↔ isQuote c = false ∧ IsUnquoted s
  := List.forall_mem_cons

theorem quotedSpans_of_isUnquoted {s : List Char} (h : IsUnquoted s) :
  quotedSpans s = []
  := by
  induction s with
  | nil => rw [quotedSpans]
  | cons c s ih =>
      rw [isUnquoted_cons] at h
      rw [quotedSpans, if_neg (by simp [h.1]), ih h.2]

/-- A line that is not blank and has no quotes is not passed over. -/
theorem not_guarded_of_isUnquoted {line : List Char} {c : Char} (hc : isBlank c = false)
    (hmem : c ∈ line) (h : IsUnquoted line) :
  ¬ Guarded line
  := by
  rintro (hblank | hquotes)
  · exact not_mem_of_isBlankText hc hblank hmem
  · rw [quotesDirective, quotedSpans_of_isUnquoted h] at hquotes
    cases hquotes

/-- What holds of no quote makes a character that it holds of no quote. -/
theorem isQuote_of_not_quotes {p : Char → Bool}
    (hp : p '\'' = false ∧ p '"' = false ∧ p '`' = false) {c : Char} (h : p c = true) :
  isQuote c = false
  := by
  by_contra hq
  rw [Bool.not_eq_false, isQuote, Bool.or_eq_true, Bool.or_eq_true, decide_eq_true_iff,
    decide_eq_true_iff, decide_eq_true_iff] at hq
  rcases hq with (rfl | rfl) | rfl
  · simp [hp.1] at h
  · simp [hp.2.1] at h
  · simp [hp.2.2] at h

theorem isQuote_of_isRuleChar {c : Char} (h : isRuleChar c = true) :
  isQuote c = false
  := isQuote_of_not_quotes (by decide) h

theorem IsIdentifier.isUnquoted {s : List Char} (h : IsIdentifier s) :
  IsUnquoted s
  := by
  intro c hc
  exact isQuote_of_isRuleChar (h.2 c hc)

theorem isUnquoted_nextLineComment {rule : String} (h : IsIdentifier rule.toList) :
  IsUnquoted (nextLineComment rule)
  := by
  simp only [nextLineComment, isUnquoted_cons, isUnquoted_append]
  exact ⟨by decide, by decide, by decide, by decide, by decide, h.isUnquoted⟩

theorem trim_nextLineComment {rule : String} (h : IsIdentifier rule.toList) :
  trim (nextLineComment rule) = nextLineComment rule
  := by
  rcases List.eq_nil_or_concat rule.toList with hnil | ⟨t, d, hd⟩
  · exact absurd hnil h.1
  · rw [List.concat_eq_append] at hd
    have hblank := isBlank_of_isRuleChar (h.2 d (by simp [hd]))
    have hsplit : nextLineComment rule
        = [] ++ '/' :: ('/' :: ' ' :: (nextLineKeyword ++ ' ' :: t) ++ d :: []) := by
      rw [nextLineComment, hd]
      simp only [List.nil_append, List.cons_append, List.append_assoc]
    rw [hsplit]
    apply trim_append_cons_append (by decide) hblank

theorem nextLineForm_nextLineComment {rule : String} (h : IsIdentifier rule.toList) :
  NextLineForm (nextLineComment rule) (' ' :: rule.toList)
  := by
  have hspace : isBlank ' ' = true := by decide
  refine ⟨?_, hspace, ?_⟩
  · use [' ']
    constructor
    · decide
    · rw [trim_nextLineComment h, nextLineComment]
      rfl
  · rw [← List.singleton_append, isBlankText_append, h.not_blank, Bool.and_false]

/-- The comment is read as a directive for its rule. -/
theorem readLine_nextLineComment {rule : String} (h : IsIdentifier rule.toList) :
  readLine (nextLineComment rule) = .ok (some (.nextLine [rule]))
  := by
  have hform := nextLineForm_nextLineComment h
  have hg : ¬ Guarded (nextLineComment rule) := by
    apply not_guarded_of_isUnquoted (c := '/') (by decide) List.mem_cons_self
    exact isUnquoted_nextLineComment h
  have hpayload : trim (' ' :: rule.toList) = rule.toList := by
    rw [trim, trimLeft_cons_of_blank _ (by decide), ← trim, h.trim_eq]
  have hrules := readRuleList_of_isIdentifier hpayload h
  rw [String.ofList_toList] at hrules
  rw [readLine_of_hasForm hg hform.not_isMalformedOpener
    (.nextLine hform.speaksOfNextLine hform)]
  exact payloadDirective_of_ok hrules .nextLine

/-! ### Sources -/

theorem sourceLines_ofList_joined {lines : List (List Char)} (hne : lines ≠ [])
    (h : ∀ line ∈ lines, '\n' ∉ line ∧ '\r' ∉ line) :
  sourceLines (String.ofList (joined ['\n'] lines)).toList = lines
  := by
  rw [String.toList_ofList, sourceLines_joined hne h]

theorem breaks_not_mem_nextLineComment {rule : String} (h : IsIdentifier rule.toList) :
  '\n' ∉ nextLineComment rule ∧ '\r' ∉ nextLineComment rule
  := by
  have hbreak : ∀ d, isRuleChar d = false → d ≠ '/' → d ≠ ' ' → d ∉ nextLineKeyword →
      d ∉ nextLineComment rule := by
    intro d hd hslash hspace hkeyword
    rw [nextLineComment]
    simp only [List.mem_cons, List.mem_append, not_or]
    exact ⟨hslash, hslash, hspace, hkeyword, hspace, h.not_mem hd⟩
  constructor
  · exact hbreak '\n' (by decide) (by decide) (by decide) (by decide)
  · exact hbreak '\r' (by decide) (by decide) (by decide) (by decide)

/-- A directive for one rule is inserted before a line of code, into a source that is not
refused. The new source is not refused either. The same rules are turned off in the whole
file; what was turned off on a line above the code still is, what was turned off on the
line of code or below it has moved down by one line, and on the line of code the rule of
the directive is turned off as well. Nothing else changes. -/
theorem readDirectives_insertIdx {lines : List (List Char)} {file : Option String}
    {s : Suppressions} {n : Nat} {line : List Char} {rule : String}
    (hbreaks : ∀ l ∈ lines, '\n' ∉ l ∧ '\r' ∉ l)
    (hread : readDirectives (String.ofList (joined ['\n'] lines)) file = .ok s)
    (hline : lineAt? lines n = some line) (hcode : IsCode line)
    (hrule : IsIdentifier rule.toList) :
  ∃ s', readDirectives
      (String.ofList (joined ['\n'] (lines.insertIdx (n - 1) (nextLineComment rule)))) file
        = .ok s'
    ∧ (∀ q, q ∈ s'.fileRules ↔ q ∈ s.fileRules)
    ∧ (∀ m q, s'.disablesOn m q = true
      ↔ (m < n ∧ s.disablesOn m q = true)
        ∨ (n < m ∧ s.disablesOn (m - 1) q = true)
        ∨ (m = n + 1 ∧ q = rule))
    ∧ s'.everything = s.everything
  := by
  have hne : lines ≠ [] := List.ne_nil_of_mem (mem_of_lineAt? hline)
  have hmem := mem_insertIdx_iff hline (nextLineComment rule)
  have hne' : lines.insertIdx (n - 1) (nextLineComment rule) ≠ [] :=
    List.ne_nil_of_mem ((hmem _).mpr (Or.inl rfl))
  have hbreaks' : ∀ l ∈ lines.insertIdx (n - 1) (nextLineComment rule),
      '\n' ∉ l ∧ '\r' ∉ l := by
    intro l hl
    rcases (hmem l).mp hl with rfl | hl
    · exact breaks_not_mem_nextLineComment hrule
    · exact hbreaks l hl
  rw [readDirectives_eq_ok_iff, sourceLines_ofList_joined hne hbreaks] at hread
  have hnew := readLine_nextLineComment hrule
  obtain ⟨s', hscan', hfile⟩ := exists_scanLines_insertIdx hline hnew hread
  use s'
  rw [readDirectives_eq_ok_iff, sourceLines_ofList_joined hne' hbreaks']
  refine ⟨hscan', hfile, ?_, ?_⟩
  · intro m q
    have hnat : ∀ k, s.disablesOn k q = true → ∃ j : Nat, k = (j : Int) := by
      intro k hk
      obtain ⟨-, -, -, j, -, -, -, -, hj⟩ := (disablesOn_of_scanLines_iff hread k q).mp hk
      exact ⟨j, hj⟩
    rw [disablesOn_insertIdx_iff hline hcode hnew hread hscan', exists_shiftFrom_iff hnat,
      List.mem_singleton, or_assoc, Int.natCast_succ]
  · rw [everything_of_scanFrom hscan', everything_of_scanFrom hread]

/-- A directive put between another one and the line of code that both then aim at. -/
theorem readDirectives_insertIdx_below_directive :
  let lines := ["// avesta-disable-next-line a".toList, "f();".toList]
  let s : Suppressions := ⟨[], [(2, ["a"])], false⟩
  readDirectives (String.ofList (joined ['\n'] lines)) none = .ok s
  ∧ IsCode "f();".toList
  ∧ ∃ s', readDirectives
      (String.ofList (joined ['\n'] (lines.insertIdx (2 - 1) (nextLineComment "b")))) none
        = .ok s'
    ∧ ∀ m q, s'.disablesOn m q = true
      ↔ (m < (2 : Nat) ∧ s.disablesOn m q = true)
        ∨ ((2 : Nat) < m ∧ s.disablesOn (m - 1) q = true)
        ∨ (m = (2 : Nat) + 1 ∧ q = "b")
  := by
  intro lines s
  have hread : readDirectives (String.ofList (joined ['\n'] lines)) none = .ok s := by
    decide +kernel
  have hcode : IsCode "f();".toList := by
    apply (isCodeLine_iff _).mp
    decide +kernel
  have hrule : IsIdentifier "b".toList := (isIdentifier_singleton_iff 'b').mpr (by decide)
  use hread, hcode
  obtain ⟨s', hread', -, hlines, -⟩ := readDirectives_insertIdx (by decide +kernel) hread
    (n := 2) rfl hcode hrule
  use s', hread'

end SourceAudit
