import SourceAudit.Proofs.Directive.Scan

/-!
# Directives of two sources

Two sources are put together with a line feed between them. When the first one ends with a
line of code and the second has more than one line, no directive of the first aims past
its end, and a scan of the whole is a scan of the first source and then one of the second,
whose lines have moved down.
-/

namespace SourceAudit

open Text

/-! ### Moving down -/

namespace Suppressions

/-- What is turned off on single lines moves down with its lines. -/
def moveDown (k : Nat) (s : Suppressions) : Suppressions :=
  { s with lineRules := s.lineRules.map fun (n, rules) => (n + k, rules) }

theorem union_moveDown (k : Nat) (s t : Suppressions) :
  (s.union t).moveDown k = (s.moveDown k).union (t.moveDown k)
  := by
  simp [moveDown, union]

theorem disablesOn_moveDown (k : Nat) (s : Suppressions) (m : Int) (rule : String) :
  (s.moveDown k).disablesOn m rule = s.disablesOn (m - k) rule
  := by
  rw [disablesOn, moveDown, List.any_map, disablesOn]
  congr 1
  funext entry
  have hkey : (entry.1 + (k : Int) == m) = (entry.1 == m - k) := by
    rw [Bool.eq_iff_iff, beq_iff_eq, beq_iff_eq]
    omega
  simp only [Function.comp_apply, hkey]

theorem union_assoc (s t u : Suppressions) :
  (s.union t).union u = s.union (t.union u)
  := by
  simp [union, Bool.or_assoc]

end Suppressions

/-- The place on a line further down. -/
def Place.moveDown (k : Nat) (place : Place) : Place :=
  { place with line := place.line.map (· + (k : Int)) }

/-- The refusal of the same text on a line further down. -/
def DirectiveError.moveDown (k : Nat) : DirectiveError → DirectiveError
  | .comment message text place => .comment message text (place.moveDown k)
  | .ruleName name place => .ruleName name (place.moveDown k)

def ScanFault.moveDown (k : Nat) (e : ScanFault) : ScanFault :=
  { e with line := e.line + k }

theorem ScanFault.toError_moveDown (k : Nat) (file : Option String) (e : ScanFault) :
  (e.moveDown k).toError file = (e.toError file).moveDown k
  := by
  obtain ⟨fault, text, line⟩ := e
  simp only [toError, moveDown]
  split
  · simp [DirectiveError.moveDown, Place.moveDown]
  · simp [DirectiveError.moveDown, Place.moveDown]

/-! ### The second source -/

/-- In a source of more than one line, how many there are has no say in where a directive
aims. -/
theorem targetLine?_moveDown {c c' : Nat} (hc : c ≠ 1) (hc' : c' ≠ 1) (n k : Nat)
    (rest : List (List Char)) :
  targetLine? c (n + k) rest = (targetLine? c' n rest).map (· + k)
  := by
  cases rest with
  | nil => simp [targetLine?, hc, hc']
  | cons line rest =>
      simp only [targetLine?, Option.map_map]
      congr 1
      funext j
      simp only [Function.comp_apply]
      omega

theorem directiveEffect_moveDown {c c' : Nat} (hc : c ≠ 1) (hc' : c' ≠ 1) (n k : Nat)
    (rest : List (List Char)) (directive : Option Directive) :
  directiveEffect c (n + k) rest directive = (directiveEffect c' n rest directive).moveDown k
  := by
  match directive with
  | none => rfl
  | some (.wholeFile rules) => rfl
  | some (.nextLine rules) =>
      simp only [directiveEffect, targetLine?_moveDown hc hc']
      cases targetLine? c' n rest with
      | none => rfl
      | some target => simp [Suppressions.moveDown]

theorem scanFrom_moveDown {c c' : Nat} (hc : c ≠ 1) (hc' : c' ≠ 1) (n k : Nat)
    (lines : List (List Char)) :
  scanFrom c (n + k) lines
    = match scanFrom c' n lines with
      | .error e => .error (e.moveDown k)
      | .ok s => .ok (s.moveDown k)
  := by
  induction lines generalizing n with
  | nil => rfl
  | cons line rest ih =>
      cases hline : readLine line with
      | error fault =>
          rw [scanFrom_cons_of_error hline, scanFrom_cons_of_error hline]
          rfl
      | ok directive =>
          rw [scanFrom_cons_of_ok hline, scanFrom_cons_of_ok hline, Nat.add_right_comm, ih]
          cases scanFrom c' (n + 1) rest with
          | error e => rfl
          | ok later =>
              simp only [Except.map, Suppressions.union_moveDown,
                directiveEffect_moveDown hc hc']

/-! ### The first source -/

/-- A directive above a line of code aims at a line that is not below it. -/
theorem directiveEffect_append {line last : List Char} {rest : List (List Char)}
    {directive : Option Directive} (hline : readLine line = .ok directive)
    (hlast : (line :: rest).getLast? = some last) (hcode : IsCode last) (c c' n : Nat)
    (after : List (List Char)) :
  directiveEffect c n (rest ++ after) directive = directiveEffect c' n rest directive
  := by
  match directive with
  | none => rfl
  | some (.wholeFile rules) => rfl
  | some (.nextLine rules) =>
      cases rest with
      | nil =>
          rw [List.getLast?_singleton] at hlast
          cases hlast
          exact absurd hcode (not_isCode_of_readLine_nextLine hline)
      | cons next rest =>
          have hmem : last ∈ next :: rest := by
            rw [List.getLast?_cons_cons] at hlast
            exact List.mem_of_getLast? hlast
          have hfind : ((next :: rest) ++ after).findIdx? isCodeLine
              = (next :: rest).findIdx? isCodeLine := by
            rw [List.findIdx?_append]
            cases hfound : (next :: rest).findIdx? isCodeLine with
            | none =>
                have hno := List.findIdx?_eq_none_iff.mp hfound last hmem
                rw [(isCodeLine_iff last).mpr hcode] at hno
                cases hno
            | some j => rfl
          have htarget : targetLine? c n ((next :: rest) ++ after)
              = targetLine? c' n (next :: rest) :=
            congrArg (Option.map (n + 1 + ·)) hfind
          simp only [directiveEffect, htarget]

/-- A scan goes past a line of code as if it began again below it. -/
theorem scanFrom_append {before : List (List Char)} {last : List Char}
    (hlast : before.getLast? = some last) (hcode : IsCode last) (c c' n : Nat)
    (after : List (List Char)) :
  scanFrom c n (before ++ after)
    = match scanFrom c' n before with
      | .error e => .error e
      | .ok s => (scanFrom c (n + before.length) after).map s.union
  := by
  induction before generalizing n with
  | nil => cases hlast
  | cons line rest ih =>
      rw [List.cons_append]
      cases hline : readLine line with
      | error fault => rw [scanFrom_cons_of_error hline, scanFrom_cons_of_error hline]
      | ok directive =>
          rw [scanFrom_cons_of_ok hline, scanFrom_cons_of_ok hline,
            directiveEffect_append hline hlast hcode c c' n after, List.length_cons,
            Nat.add_comm rest.length, ← Nat.add_assoc]
          cases rest with
          | nil => simp [scanFrom, Except.map]
          | cons next rest =>
              rw [List.getLast?_cons_cons] at hlast
              rw [ih hlast]
              cases scanFrom c' (n + 1) (next :: rest) with
              | error e => rfl
              | ok s =>
                  simp only [Except.map]
                  cases scanFrom c (n + 1 + (next :: rest).length) after with
                  | error e => rfl
                  | ok t => simp only [Suppressions.union_assoc]

/-! ### Both sources -/

theorem scanLines_append {before after : List (List Char)} {last : List Char}
    (hlast : before.getLast? = some last) (hcode : IsCode last) (hmany : 2 ≤ after.length) :
  scanLines (before ++ after)
    = match scanLines before, scanLines after with
      | .error e, _ => .error e
      | .ok _, .error e => .error (e.moveDown before.length)
      | .ok s, .ok t => .ok (s.union (t.moveDown before.length))
  := by
  have hc : (before ++ after).length ≠ 1 := by
    rw [List.length_append]
    omega
  have hc' : after.length ≠ 1 := by omega
  rw [scanLines, scanFrom_append hlast hcode _ before.length 1 after,
    scanFrom_moveDown hc hc' 1 before.length after, scanLines, scanLines]
  cases scanFrom before.length 1 before with
  | error e => rfl
  | ok s =>
      cases scanFrom after.length 1 after with
      | error e => rfl
      | ok t => rfl

/-- The lines on which a scan turns something off are lines of the source, unless the source
is a single line with a directive. -/
theorem exists_of_disablesOn {lines : List (List Char)} {s : Suppressions}
    (hscan : scanLines lines = .ok s)
    (hone : lines.length = 1 → ∀ line ∈ lines, IsCode line) {m : Int} {rule : String}
    (h : s.disablesOn m rule = true) :
  ∃ n : Nat, m = n ∧ 0 < n ∧ n ≤ lines.length
  := by
  obtain ⟨i, line, rules, n, hline, hread, -, htarget, rfl⟩ :=
    (disablesOn_of_scanLines_iff hscan m rule).mp h
  use n, rfl
  rcases htarget with ⟨⟨hlt, next, hnext, -⟩, -⟩ | ⟨hlength, -⟩
  · obtain ⟨before, after, rfl, rfl⟩ := exists_of_lineAt? hnext
    simp
  · exact absurd (hone hlength line (mem_of_lineAt? hline))
      (not_isCode_of_readLine_nextLine hread)

/-- The two scans turn rules off on different lines of the whole. -/
theorem disablesOn_union_moveDown_iff {before after : List (List Char)} {last : List Char}
    {s t : Suppressions} (hlast : before.getLast? = some last) (hcode : IsCode last)
    (hmany : 2 ≤ after.length) (hs : scanLines before = .ok s) (ht : scanLines after = .ok t)
    (m : Int) (rule : String) :
  (s.union (t.moveDown before.length)).disablesOn m rule = true
    ↔ (m ≤ before.length ∧ s.disablesOn m rule = true)
      ∨ (before.length < m ∧ t.disablesOn (m - before.length) rule = true)
  := by
  have hone : before.length = 1 → ∀ line ∈ before, IsCode line := by
    intro hlength line hline
    obtain ⟨only, rfl⟩ := List.length_eq_one_iff.mp hlength
    cases hlast
    rw [List.mem_singleton.mp hline]
    exact hcode
  rw [Suppressions.disablesOn_union, Suppressions.disablesOn_moveDown, Bool.or_eq_true]
  constructor
  · rintro (h | h)
    · obtain ⟨n, rfl, -, hle⟩ := exists_of_disablesOn hs hone h
      exact Or.inl ⟨Int.ofNat_le.mpr hle, h⟩
    · obtain ⟨n, hn, hpos, -⟩ := exists_of_disablesOn ht (by omega) h
      exact Or.inr ⟨by omega, h⟩
  · rintro (⟨-, h⟩ | ⟨-, h⟩)
    · exact Or.inl h
    · exact Or.inr h

/-- Two sources are put together, with a line feed between them; the first ends with a line
of code and the second has more than one line. What is refused in the first source is
refused in the whole; what is only refused in the second is refused as many lines further
down as the first has. If neither is refused, then the whole turns off in the file what one
of the two does, on a line of the first source what the first turns off on it, and on a line
below them what the second turns off on that line of its own. -/
theorem readDirectives_append {a b : String} {last : List Char}
    (hlast : (sourceLines a.toList).getLast? = some last) (hcode : IsCode last)
    (hmany : 2 ≤ (sourceLines b.toList).length) (file : Option String) :
  let k := (sourceLines a.toList).length
  (readDirectives (a ++ "\n" ++ b) file
    = match readDirectives a file, readDirectives b file with
      | .error e, _ => .error e
      | .ok _, .error e => .error (e.moveDown k)
      | .ok s, .ok t => .ok (s.union (t.moveDown k)))
  ∧ ∀ s t, readDirectives a file = .ok s → readDirectives b file = .ok t →
      ∀ m rule, (s.union (t.moveDown k)).disablesOn m rule = true
        ↔ (m ≤ k ∧ s.disablesOn m rule = true) ∨ (k < m ∧ t.disablesOn (m - k) rule = true)
  := by
  intro k
  have hne : last ≠ [] := by
    rintro rfl
    cases hcode.1
  have hlines : sourceLines (a ++ "\n" ++ b).toList
      = sourceLines a.toList ++ sourceLines b.toList := by
    rw [String.toList_append, String.toList_append, List.append_assoc]
    exact sourceLines_append_feed hlast hne b.toList
  constructor
  · rw [readDirectives_eq_scanLines, readDirectives_eq_scanLines a,
      readDirectives_eq_scanLines b, hlines, scanLines_append hlast hcode hmany]
    cases scanLines (sourceLines a.toList) with
    | error e => rfl
    | ok s =>
        cases scanLines (sourceLines b.toList) with
        | error e => exact congrArg _ (ScanFault.toError_moveDown k file e)
        | ok t => rfl
  · intro s t hs ht m rule
    rw [readDirectives_eq_ok_iff] at hs ht
    exact disablesOn_union_moveDown_iff hlast hcode hmany hs ht m rule

/-- The first source has a directive for its last line. The second has one for the whole file
and one for its last line, or else an empty one. -/
theorem readDirectives_append_directives :
  IsCode "f();".toList
  ∧ readDirectives ("// avesta-disable-next-line a\nf();" ++ "\n"
        ++ "/* avesta-disable b */\n// avesta-disable-next-line c\ng();") none
      = .ok ⟨["b"], [(2, ["a"]), (5, ["c"])], false⟩
  ∧ readDirectives ("// avesta-disable-next-line a\nf();" ++ "\n"
        ++ "g();\n/* avesta-disable */") (some "f.js")
      = .error (.comment "Invalid file-level disable comment format" "/* avesta-disable */"
        ⟨some "f.js", some 4⟩)
  := by
  have hcode : IsCode "f();".toList := by
    apply (isCodeLine_iff _).mp
    decide +kernel
  have hlast : (sourceLines "// avesta-disable-next-line a\nf();".toList).getLast?
      = some "f();".toList := by
    decide +kernel
  use hcode
  constructor
  · rw [(readDirectives_append hlast hcode (by decide +kernel) none).1]
    decide +kernel
  · rw [(readDirectives_append hlast hcode (by decide +kernel) (some "f.js")).1]
    decide +kernel

end SourceAudit
