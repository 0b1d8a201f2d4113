import SourceAudit.Directive.Scan
import SourceAudit.Proofs.Directive.Reading
import Mathlib.Order.Bounds.Basic

/-!
# Runs of a scan

A scan reads every line and comes to an end exactly when no line is refused; otherwise
the first line that is refused ends it. What a scan that comes to an end turns off is
what the directives on its lines turn off, each for the line that it aims at.
-/

namespace SourceAudit

open Text

/-! ### Numbered lines and targets -/

/-- The line with a number, counted from one. -/
def lineAt? (lines : List (List Char)) : Nat → Option (List Char)
  | 0 => none
  | n + 1 => lines[n]?

/-- The line holds code: it is neither blank nor a comment that begins with the keyword. -/
def IsCode (line : List Char) : Prop :=
  isBlankText line = false ∧ ¬ OpensDirective line

/-- The numbers of the lines after line `i` that hold code. -/
def codeAfter (lines : List (List Char)) (i : Nat) : Set Nat :=
  { n | i < n ∧ ∃ line, lineAt? lines n = some line ∧ IsCode line }

/-- A directive on line `i` aims at line `n`: the first line of code after it, and in a
source of one line the second. -/
def IsTarget (lines : List (List Char)) (i n : Nat) : Prop :=
  IsLeast (codeAfter lines i) n ∨ (lines.length = 1 ∧ n = 2)

theorem isCodeLine_iff (line : List Char) :
  isCodeLine line = true ↔ IsCode line
  := by
  rw [isCodeLine, IsCode, ← opensDirective_iff]
  simp

/-- A line that holds a directive for the next line is no line of code. -/
theorem not_isCode_of_readLine_nextLine {line : List Char} {rules : List String}
    (h : readLine line = .ok (some (.nextLine rules))) :
  ¬ IsCode line
  := by
  obtain ⟨-, -, make, payload, rules', hform, -, heq⟩ := (readLine_eq_ok_some_iff _ _).mp h
  cases hform with
  | nextLine _ hform =>
      obtain ⟨⟨ws, hws, hline⟩, -⟩ := hform
      rintro ⟨-, hno⟩
      apply hno
      use "-next-line".toList ++ payload
      left
      use ws, hws
      rw [hline, nextLineKeyword_eq_append]
      simp only [List.append_assoc]
  | wholeFile _ hform => cases heq

theorem lineAt?_append (before rest : List (List Char)) (n : Nat) :
  lineAt? (before ++ rest) (before.length + 1 + n) = rest[n]?
  := by
  rw [Nat.add_right_comm, lineAt?, List.getElem?_append_right (Nat.le_add_right ..),
    Nat.add_sub_cancel_left]

theorem exists_of_lineAt? {lines : List (List Char)} {n : Nat} {line : List Char}
    (h : lineAt? lines n = some line) :
  ∃ before after, lines = before ++ line :: after ∧ n = before.length + 1
  := by
  cases n with
  | zero => cases h
  | succ n =>
      obtain ⟨hn, rfl⟩ := List.getElem?_eq_some_iff.mp h
      use lines.take n, lines.drop (n + 1)
      constructor
      · simp
      · rw [List.length_take, Nat.min_eq_left (Nat.le_of_lt hn)]

theorem lineAt?_append_cons (before after : List (List Char)) (line : List Char) :
  lineAt? (before ++ line :: after) (before.length + 1) = some line
  := lineAt?_append before (line :: after) 0

theorem lineAt?_append_left {before : List (List Char)} {j : Nat} (h : j ≤ before.length)
    (rest : List (List Char)) :
  lineAt? (before ++ rest) j = lineAt? before j
  := by
  cases j with
  | zero => rfl
  | succ j => exact List.getElem?_append_left h

theorem pos_of_lineAt? {lines : List (List Char)} {n : Nat} {line : List Char}
    (hline : lineAt? lines n = some line) :
  0 < n
  := by
  obtain ⟨before, after, -, rfl⟩ := exists_of_lineAt? hline
  apply Nat.succ_pos

theorem exists_lineAt?_of_mem {lines : List (List Char)} {line : List Char}
    (h : line ∈ lines) :
  ∃ i, i ≤ lines.length ∧ lineAt? lines i = some line
  := by
  obtain ⟨i, hi, hline⟩ := List.mem_iff_getElem.mp h
  use i + 1, hi
  rw [lineAt?, List.getElem?_eq_getElem hi, hline]

theorem mem_of_lineAt? {lines : List (List Char)} {i : Nat} {line : List Char}
    (h : lineAt? lines i = some line) :
  line ∈ lines
  := by
  obtain ⟨before, after, rfl, -⟩ := exists_of_lineAt? h
  simp

/-- After the first lines, the line of code that comes first is found by its place among
the rest. -/
theorem isLeast_codeAfter_iff (before rest : List (List Char)) (n : Nat) :
  IsLeast (codeAfter (before ++ rest) before.length) (before.length + 1 + n)
    ↔ rest.findIdx? isCodeLine = some n
  := by
  have hmem : ∀ j, before.length + 1 + j ∈ codeAfter (before ++ rest) before.length
      ↔ ∃ line, rest[j]? = some line ∧ isCodeLine line = true := by
    intro j
    simp only [codeAfter, Set.mem_ofPred_eq, lineAt?_append, isCodeLine_iff]
    constructor
    · exact And.right
    · intro h
      exact ⟨by omega, h⟩
  rw [List.findIdx?_eq_some_iff_getElem]
  constructor
  · rintro ⟨hn, hleast⟩
    obtain ⟨line, hline, hcode⟩ := (hmem n).mp hn
    obtain ⟨hlt, rfl⟩ := List.getElem?_eq_some_iff.mp hline
    use hlt, hcode
    intro j hj hcode'
    have hle := hleast ((hmem j).mpr ⟨_, List.getElem?_eq_getElem (by omega), hcode'⟩)
    omega
  · rintro ⟨hlt, hcode, hfirst⟩
    constructor
    · exact (hmem n).mpr ⟨_, List.getElem?_eq_getElem hlt, hcode⟩
    · intro m hm
      obtain ⟨j, rfl⟩ : ∃ j, m = before.length + 1 + j := ⟨m - (before.length + 1), by
        have := hm.1
        omega⟩
      obtain ⟨line, hline, hcode'⟩ := (hmem j).mp hm
      obtain ⟨hlt', rfl⟩ := List.getElem?_eq_some_iff.mp hline
      by_contra hlt''
      exact hfirst j (by omega) hcode'

theorem not_isLeast_codeAfter_length (lines : List (List Char)) (n : Nat) :
  ¬ IsLeast (codeAfter lines lines.length) n
  := by
  rintro ⟨⟨hlt, line, hline, -⟩, -⟩
  obtain ⟨before, after, rfl, rfl⟩ := exists_of_lineAt? hline
  rw [List.length_append, List.length_cons] at hlt
  omega

/-- The line that a directive aims at is the one that the scan finds. -/
theorem targetLine?_eq_some_iff (before rest : List (List Char)) (line : List Char) (n : Nat) :
  targetLine? (before ++ line :: rest).length (before.length + 1) rest = some n
    ↔ IsTarget (before ++ line :: rest) (before.length + 1) n
  := by
  have hsplit : before ++ line :: rest = (before ++ [line]) ++ rest := by simp
  have hlen : before.length + 1 = (before ++ [line]).length := by simp
  rw [IsTarget]
  cases rest with
  | nil =>
      have hno : ¬ IsLeast (codeAfter (before ++ [line]) (before.length + 1)) n := by
        rw [hlen]
        apply not_isLeast_codeAfter_length
      rw [targetLine?]
      by_cases hone : (before ++ [line]).length = 1
      · simp [hno, hone, eq_comm]
      · rw [if_neg hone]
        constructor
        · intro h
          cases h
        · rintro (h | ⟨hone', -⟩)
          · exact absurd h hno
          · exact absurd hone' hone
  | cons next rest =>
      have hmany : ¬ (before ++ line :: next :: rest).length = 1 := by
        rw [List.length_append, List.length_cons, List.length_cons]
        omega
      rw [targetLine?, Option.map_eq_some_iff]
      · constructor
        · rintro ⟨j, hj, rfl⟩
          left
          have h := (isLeast_codeAfter_iff (before ++ [line]) (next :: rest) j).mpr hj
          rw [← hsplit, ← hlen] at h
          exact h
        · rintro (h | ⟨hone, -⟩)
          · obtain ⟨j, rfl⟩ : ∃ j, n = before.length + 1 + 1 + j :=
              ⟨n - (before.length + 1 + 1), by
                have := h.1.1
                omega⟩
            use j
            constructor
            · apply (isLeast_codeAfter_iff (before ++ [line]) (next :: rest) j).mp
              rw [← hsplit, ← hlen]
              exact h
            · rfl
          · exact absurd hone hmany
      · simp

/-! ### Where a scan ends -/

theorem scanFrom_cons_of_error {line : List Char} {fault : LineFault}
    (h : readLine line = .error fault) (lineCount n : Nat) (rest : List (List Char)) :
  scanFrom lineCount n (line :: rest) = .error ⟨fault, String.ofList line, n⟩
  := by
  rw [scanFrom, h]

theorem scanFrom_cons_of_ok {line : List Char} {directive : Option Directive}
    (h : readLine line = .ok directive) (lineCount n : Nat) (rest : List (List Char)) :
  scanFrom lineCount n (line :: rest)
    = (scanFrom lineCount (n + 1) rest).map (directiveEffect lineCount n rest directive).union
  := by
  rw [scanFrom, h]
  cases scanFrom lineCount (n + 1) rest with
  | error e => rfl
  | ok later => rfl

/-- The first line that is refused ends a scan. -/
theorem scanFrom_eq_error_iff (lineCount n : Nat) (lines : List (List Char)) (e : ScanFault) :
  scanFrom lineCount n lines = .error e
    ↔ ∃ before line after fault, lines = before ++ line :: after
      ∧ (∀ l ∈ before, ∃ directive, readLine l = .ok directive)
      ∧ readLine line = .error fault ∧ e = ⟨fault, String.ofList line, n + before.length⟩
  := by
  induction lines generalizing n with
  | nil => simp [scanFrom]
  | cons first rest ih =>
      cases hfirst : readLine first with
      | error fault =>
          rw [scanFrom_cons_of_error hfirst]
          constructor
          · intro h
            use [], first, rest, fault, rfl, by simp, hfirst
            exact (Except.error.inj h).symm
          · rintro ⟨before, line, after, fault', hsplit, hbefore, hline, rfl⟩
            cases before with
            | nil =>
                obtain ⟨rfl, -⟩ := List.cons.inj hsplit
                rw [hfirst] at hline
                cases hline
                rfl
            | cons b before =>
                obtain ⟨rfl, -⟩ := List.cons.inj hsplit
                obtain ⟨directive, hread⟩ := hbefore first (List.mem_cons_self ..)
                rw [hfirst] at hread
                cases hread
      | ok directive =>
          have hmap : (scanFrom lineCount n (first :: rest) = .error e)
              ↔ scanFrom lineCount (n + 1) rest = .error e := by
            rw [scanFrom_cons_of_ok hfirst]
            cases scanFrom lineCount (n + 1) rest with
            | error e' => simp [Except.map]
            | ok later => simp [Except.map]
          rw [hmap, ih]
          constructor
          · rintro ⟨before, line, after, fault, rfl, hbefore, hline, rfl⟩
            use first :: before, line, after, fault, rfl
            refine ⟨?_, hline, ?_⟩
            · intro l hl
              rcases List.mem_cons.mp hl with rfl | hl
              · use directive
              · exact hbefore l hl
            · rw [List.length_cons, Nat.add_right_comm, Nat.add_assoc]
          · rintro ⟨before, line, after, fault, hsplit, hbefore, hline, rfl⟩
            cases before with
            | nil =>
                obtain ⟨rfl, -⟩ := List.cons.inj hsplit
                rw [hfirst] at hline
                cases hline
            | cons b before =>
                obtain ⟨rfl, rfl⟩ := List.cons.inj hsplit
                use before, line, after, fault, rfl
                refine ⟨fun l hl => hbefore l (List.mem_cons_of_mem _ hl), hline, ?_⟩
                rw [List.length_cons, Nat.add_right_comm, Nat.add_assoc]

/-- A scan comes to an end exactly when no line is refused. -/
theorem exists_scanFrom_eq_ok_iff (lineCount n : Nat) (lines : List (List Char)) :
  (∃ s, scanFrom lineCount n lines = .ok s)
    ↔ ∀ line ∈ lines, ∃ directive, readLine line = .ok directive
  := by
  induction lines generalizing n with
  | nil => simp [scanFrom]
  | cons first rest ih =>
      rw [List.forall_mem_cons, ← ih (n + 1)]
      cases hfirst : readLine first with
      | error fault =>
          rw [scanFrom_cons_of_error hfirst]
          simp
      | ok directive =>
          rw [scanFrom_cons_of_ok hfirst]
          cases scanFrom lineCount (n + 1) rest with
          | error e => simp [Except.map]
          | ok later => simp [Except.map]

/-- Lines without a directive take no part in a scan. -/
theorem scanFrom_append_of_none {before : List (List Char)}
    (h : ∀ line ∈ before, readLine line = .ok none) (lineCount n : Nat)
    (rest : List (List Char)) :
  scanFrom lineCount n (before ++ rest) = scanFrom lineCount (n + before.length) rest
  := by
  induction before generalizing n with
  | nil => rfl
  | cons line before ih =>
      obtain ⟨hline, hbefore⟩ := List.forall_mem_cons.mp h
      rw [List.cons_append, scanFrom_cons_of_ok hline, ih hbefore, List.length_cons,
        Nat.add_right_comm, Nat.add_assoc]
      cases scanFrom lineCount (n + (before.length + 1)) rest with
      | error e => rfl
      | ok s =>
          rw [directiveEffect, Except.map, Suppressions.none_union]

theorem scanFrom_of_none {lines : List (List Char)}
    (h : ∀ line ∈ lines, readLine line = .ok none) (lineCount n : Nat) :
  scanFrom lineCount n lines = .ok .none
  := by
  rw [← List.append_nil lines, scanFrom_append_of_none h, scanFrom]

/-- A blank source need not be treated apart: its lines are all passed over. -/
theorem scanSource_eq_scanLines (source : String) :
  scanSource source = scanLines (sourceLines source.toList)
  := by
  rw [scanSource]
  split
  · rename_i hblank
    rw [scanLines, scanFrom_of_none]
    intro line hline
    apply readLine_of_guarded (Or.inl (isBlankText_of_mem_sourceLines hblank hline))
  · rfl

theorem readDirectives_eq_scanLines (source : String) (file : Option String) :
  readDirectives source file
    = match scanLines (sourceLines source.toList) with
      | .error e => .error (e.toError file)
      | .ok s => .ok s
  := by
  rw [readDirectives, scanSource_eq_scanLines]
  cases scanLines (sourceLines source.toList) with
  | error e => rfl
  | ok s => rfl

theorem readDirectives_eq_ok_iff (source : String) (file : Option String) (s : Suppressions) :
  readDirectives source file = .ok s ↔ scanLines (sourceLines source.toList) = .ok s
  := by
  rw [readDirectives, scanSource_eq_scanLines]
  cases scanLines (sourceLines source.toList) with
  | error e => simp [Except.mapError]
  | ok s' => simp [Except.mapError]

/-! ### What a scan turns off -/

theorem everything_directiveEffect (lineCount n : Nat) (rest : List (List Char))
    (directive : Option Directive) :
  (directiveEffect lineCount n rest directive).everything = false
  := by
  match directive with
  | none => rfl
  | some (.wholeFile rules) => rfl
  | some (.nextLine rules) =>
      rw [directiveEffect]
      split
      · rfl
      · rfl

theorem mem_fileRules_directiveEffect_iff (lineCount n : Nat) (rest : List (List Char))
    (directive : Option Directive) (rule : String) :
  rule ∈ (directiveEffect lineCount n rest directive).fileRules
    ↔ ∃ rules, directive = some (.wholeFile rules) ∧ rule ∈ rules
  := by
  match directive with
  | none => simp [directiveEffect, Suppressions.none]
  | some (.wholeFile rules) => simp [directiveEffect]
  | some (.nextLine rules) =>
      rw [directiveEffect]
      split
      · simp
      · simp [Suppressions.none]

theorem disablesOn_directiveEffect_iff (lineCount n : Nat) (rest : List (List Char))
    (directive : Option Directive) (line : Int) (rule : String) :
  (directiveEffect lineCount n rest directive).disablesOn line rule = true
    ↔ ∃ rules target, directive = some (.nextLine rules) ∧ rule ∈ rules
      ∧ targetLine? lineCount n rest = some target ∧ line = (target : Int)
  := by
  match directive with
  | none => simp [directiveEffect, Suppressions.none, Suppressions.disablesOn]
  | some (.wholeFile rules) => simp [directiveEffect, Suppressions.disablesOn]
  | some (.nextLine rules) =>
      rw [directiveEffect]
      split
      · rename_i target htarget
        have hone : Suppressions.disablesOn { lineRules := [((target : Int), rules)] } line rule = true
            ↔ (target : Int) = line ∧ rule ∈ rules := by
          simp [Suppressions.disablesOn]
        rw [hone, htarget]
        constructor
        · rintro ⟨rfl, hrule⟩
          use rules, target
        · rintro ⟨rules', target', hrules, hrule, htarget', rfl⟩
          cases hrules
          cases htarget'
          use rfl
      · rename_i htarget
        simp [Suppressions.none, Suppressions.disablesOn, htarget]

/-- A scan that comes to an end has read its first line and scanned the others. -/
theorem scanFrom_cons_eq_ok {lineCount n : Nat} {first : List Char} {rest : List (List Char)}
    {s : Suppressions} (h : scanFrom lineCount n (first :: rest) = .ok s) :
  ∃ directive later, readLine first = .ok directive
    ∧ scanFrom lineCount (n + 1) rest = .ok later
    ∧ s = (directiveEffect lineCount n rest directive).union later
  := by
  cases hfirst : readLine first with
  | error fault =>
      rw [scanFrom_cons_of_error hfirst] at h
      cases h
  | ok directive =>
      rw [scanFrom_cons_of_ok hfirst] at h
      cases hlater : scanFrom lineCount (n + 1) rest with
      | error e =>
          rw [hlater] at h
          cases h
      | ok later =>
          rw [hlater] at h
          cases h
          use directive, later

theorem everything_of_scanFrom {lineCount n : Nat} {lines : List (List Char)}
    {s : Suppressions} (h : scanFrom lineCount n lines = .ok s) :
  s.everything = false
  := by
  induction lines generalizing n s with
  | nil =>
      cases h
      rfl
  | cons first rest ih =>
      obtain ⟨directive, later, -, hlater, rfl⟩ := scanFrom_cons_eq_ok h
      rw [Suppressions.everything_union, everything_directiveEffect, ih hlater]
      rfl

/-- A scan turns off in the whole file what some line of it turns off there. -/
theorem mem_fileRules_of_scanFrom_iff {lineCount n : Nat} {lines : List (List Char)}
    {s : Suppressions} (h : scanFrom lineCount n lines = .ok s) (rule : String) :
  rule ∈ s.fileRules
    ↔ ∃ line ∈ lines, ∃ rules, readLine line = .ok (some (.wholeFile rules)) ∧ rule ∈ rules
  := by
  induction lines generalizing n s with
  | nil =>
      cases h
      simp [Suppressions.none]
  | cons first rest ih =>
      obtain ⟨directive, later, hfirst, hlater, rfl⟩ := scanFrom_cons_eq_ok h
      rw [Suppressions.fileRules_union, List.mem_append, ih hlater,
        mem_fileRules_directiveEffect_iff]
      simp [hfirst]

/-- A scan turns off on a line what some directive turns off that aims at the line. -/
theorem disablesOn_of_scanFrom_iff (before : List (List Char)) {lines : List (List Char)}
    {s : Suppressions}
    (h : scanFrom (before ++ lines).length (before.length + 1) lines = .ok s)
    (m : Int) (rule : String) :
  s.disablesOn m rule = true
    ↔ ∃ i line rules n, before.length < i ∧ lineAt? (before ++ lines) i = some line
      ∧ readLine line = .ok (some (.nextLine rules)) ∧ rule ∈ rules
      ∧ IsTarget (before ++ lines) i n ∧ m = (n : Int)
  := by
  -- `before` grows with every line, so that targets are always stated of the whole source
  induction lines generalizing before s with
  | nil =>
      cases h
      constructor
      · intro h
        cases h
      · rintro ⟨i, line, -, -, hi, hline, -⟩
        obtain ⟨b, a, hsplit, rfl⟩ := exists_of_lineAt? hline
        have hlen := congrArg List.length hsplit
        rw [List.append_nil, List.length_append, List.length_cons] at hlen
        omega
  | cons first rest ih =>
      obtain ⟨directive, later, hfirst, hlater, rfl⟩ := scanFrom_cons_eq_ok h
      have hsplit : before ++ first :: rest = (before ++ [first]) ++ rest := by simp
      have hlen : before.length + 1 = (before ++ [first]).length := by simp
      have hlater' : scanFrom ((before ++ [first]) ++ rest).length
          ((before ++ [first]).length + 1) rest = .ok later := by
        rw [← hsplit, ← hlen]
        exact hlater
      rw [Suppressions.disablesOn_union, Bool.or_eq_true, disablesOn_directiveEffect_iff,
        ih _ hlater', ← hsplit, ← hlen]
      constructor
      · rintro (⟨rules, target, rfl, hrule, htarget, rfl⟩ | ⟨i, line, rules, n, hi, h⟩)
        · use before.length + 1, first, rules, target, Nat.lt_succ_self _,
            lineAt?_append_cons .., hfirst, hrule
          exact ⟨(targetLine?_eq_some_iff _ _ _ _).mp htarget, rfl⟩
        · use i, line, rules, n, Nat.lt_of_succ_lt hi
      · rintro ⟨i, line, rules, n, hi, hline, hread, hrule, htarget, rfl⟩
        by_cases hnow : i = before.length + 1
        · subst hnow
          rw [lineAt?_append_cons, Option.some.injEq] at hline
          subst hline
          left
          rw [hfirst, Except.ok.injEq] at hread
          use rules, n, hread, hrule
          exact ⟨(targetLine?_eq_some_iff _ _ _ _).mpr htarget, rfl⟩
        · right
          use i, line, rules, n, by omega

/-- What a scan of all lines turns off on a line. -/
theorem disablesOn_of_scanLines_iff {lines : List (List Char)} {s : Suppressions}
    (h : scanLines lines = .ok s) (m : Int) (rule : String) :
  s.disablesOn m rule = true
    ↔ ∃ i line rules n, lineAt? lines i = some line
      ∧ readLine line = .ok (some (.nextLine rules)) ∧ rule ∈ rules
      ∧ IsTarget lines i n ∧ m = (n : Int)
  := by
  have hscan : scanFrom ([] ++ lines).length (([] : List (List Char)).length + 1) lines = .ok s := h
  rw [disablesOn_of_scanFrom_iff [] hscan, List.nil_append]
  constructor
  · rintro ⟨i, line, rules, n, -, hline, hrest⟩
    use i, line, rules, n
  · rintro ⟨i, line, rules, n, hline, hrest⟩
    use i, line, rules, n, pos_of_lineAt? hline

end SourceAudit
