import SourceAudit.Proofs.Directive.ListRoundTrip
import SourceAudit.Proofs.Directive.Scan

/-!
# Well-formed suppressions

What the directives of a source turn off is recorded in good order.

* Every rule is an identifier: no blank and no line feed is left at its end.
* A line is only recorded together with a rule that is turned off on it.
* The line is one of the source from the second on, and it holds code; of a source of one
  line it is the second, which the source does not have.

Each directive adds such an entry, so that a scan keeps this form from one line to the next.
Gathering the entries of a line into one keeps it as well.
-/

namespace SourceAudit

open Text

/-! ### The form -/

/-- The number of a line that a directive in a source with these lines may aim at. -/
structure MayBeTarget (lines : List (List Char)) (m : Int) : Prop where
  two_le : 2 ≤ m
  eq_two : lines.length = 1 → m = 2
  isCode : 1 < lines.length → ∃ (n : Nat) (line : List Char),
    m = n ∧ n ≤ lines.length ∧ lineAt? lines n = some line ∧ IsCode line

namespace Suppressions

/-- The suppressions that a source with these lines can have. -/
structure IsWellFormed (lines : List (List Char)) (s : Suppressions) : Prop where
  fileRules : ∀ rule ∈ s.fileRules, IsIdentifier rule.toList
  lineRules : ∀ entry ∈ s.lineRules, AreListed entry.2
  targets : ∀ entry ∈ s.lineRules, MayBeTarget lines entry.1

theorem isWellFormed_none (lines : List (List Char)) :
  IsWellFormed lines .none
  := by
  constructor
  · simp [none]
  · simp [none]
  · simp [none]

theorem IsWellFormed.union {lines : List (List Char)} {s t : Suppressions}
    (hs : s.IsWellFormed lines) (ht : t.IsWellFormed lines) :
  (s.union t).IsWellFormed lines
  := by
  constructor
  · intro rule hrule
    rcases List.mem_append.mp hrule with hrule | hrule
    · exact hs.fileRules rule hrule
    · exact ht.fileRules rule hrule
  · intro entry hentry
    rcases List.mem_append.mp hentry with hentry | hentry
    · exact hs.lineRules entry hentry
    · exact ht.lineRules entry hentry
  · intro entry hentry
    rcases List.mem_append.mp hentry with hentry | hentry
    · exact hs.targets entry hentry
    · exact ht.targets entry hentry

/-! ### One entry for each line -/

/-- The rules of all entries of a line, in ascending order. -/
def rulesOn (s : Suppressions) (n : Int) : List String :=
  sortedSet ((s.lineRules.filter fun entry => entry.1 == n).flatMap (·.2))

/-- The same suppressions with one entry for each line. -/
def gathered (s : Suppressions) : Suppressions :=
  ⟨s.sortedFileRules, s.sortedLineRules, s.everything⟩

theorem disablesOn_iff (s : Suppressions) (n : Int) (rule : String) :
  s.disablesOn n rule = true ↔ ∃ rules, (n, rules) ∈ s.lineRules ∧ rule ∈ rules
  := by
  rw [disablesOn, List.any_eq_true]
  constructor
  · rintro ⟨⟨m, rules⟩, hmem, h⟩
    rw [Bool.and_eq_true, beq_iff_eq, List.contains_iff_mem] at h
    obtain ⟨rfl, hrule⟩ := h
    use rules
  · rintro ⟨rules, hmem, hrule⟩
    use (n, rules), hmem
    simpa using hrule

theorem mem_rulesOn_iff (s : Suppressions) (n : Int) (rule : String) :
  rule ∈ s.rulesOn n ↔ s.disablesOn n rule = true
  := by
  rw [rulesOn, mem_sortedSet, List.mem_flatMap, disablesOn_iff]
  constructor
  · rintro ⟨⟨m, rules⟩, hmem, hrule⟩
    rw [List.mem_filter, beq_iff_eq] at hmem
    obtain ⟨hmem, rfl⟩ := hmem
    use rules
  · rintro ⟨rules, hmem, hrule⟩
    use (n, rules)
    rw [List.mem_filter, beq_iff_eq]
    exact ⟨⟨hmem, rfl⟩, hrule⟩

theorem keys_sortedLineRules (s : Suppressions) :
  s.sortedLineRules.map (·.1)
    = (distinct (s.lineRules.map (·.1))).mergeSort fun a b => decide (a ≤ b)
  := by
  rw [sortedLineRules, List.map_map]
  exact List.map_id' _

theorem nodup_keys_gathered (s : Suppressions) :
  (s.gathered.lineRules.map (·.1)).Nodup
  := by
  rw [gathered, keys_sortedLineRules, (List.mergeSort_perm _ _).nodup_iff]
  apply nodup_distinct

/-- A line has an entry once they are gathered if it had one before, and then with the rules of
all of them. -/
theorem mem_sortedLineRules_iff (s : Suppressions) (n : Int) (rules : List String) :
  (n, rules) ∈ s.sortedLineRules ↔ (∃ rules', (n, rules') ∈ s.lineRules) ∧ rules = s.rulesOn n
  := by
  rw [sortedLineRules, List.mem_map]
  constructor
  · rintro ⟨m, hm, heq⟩
    rw [List.mem_mergeSort, mem_distinct, List.mem_map] at hm
    obtain ⟨⟨m', rules'⟩, hmem, rfl⟩ := hm
    cases heq
    exact ⟨⟨rules', hmem⟩, rfl⟩
  · rintro ⟨⟨rules', hmem⟩, rfl⟩
    use n
    rw [List.mem_mergeSort, mem_distinct, List.mem_map]
    exact ⟨⟨(n, rules'), hmem, rfl⟩, rfl⟩

theorem disablesOn_gathered (s : Suppressions) (n : Int) (rule : String) :
  s.gathered.disablesOn n rule = s.disablesOn n rule
  := by
  rw [Bool.eq_iff_iff, disablesOn_iff]
  constructor
  · rintro ⟨rules, hmem, hrule⟩
    obtain ⟨-, rfl⟩ := (mem_sortedLineRules_iff s n rules).mp hmem
    exact (mem_rulesOn_iff s n rule).mp hrule
  · intro h
    obtain ⟨rules, hmem, -⟩ := (disablesOn_iff s n rule).mp h
    exact ⟨_, (mem_sortedLineRules_iff s n _).mpr ⟨⟨rules, hmem⟩, rfl⟩,
      (mem_rulesOn_iff s n rule).mpr h⟩

/-- Well-formed suppressions stay so when the entries of each line are gathered. -/
theorem IsWellFormed.gathered {lines : List (List Char)} {s : Suppressions}
    (h : s.IsWellFormed lines) :
  s.gathered.IsWellFormed lines
  := by
  constructor
  · intro rule hrule
    exact h.fileRules rule ((mem_sortedSet _ _).mp hrule)
  · rintro ⟨n, rules⟩ hentry
    obtain ⟨⟨rules', hmem⟩, rfl⟩ := (mem_sortedLineRules_iff s n rules).mp hentry
    constructor
    · obtain ⟨rule, hrule⟩ := List.exists_mem_of_ne_nil _ (h.lineRules _ hmem).ne_nil
      apply List.ne_nil_of_mem (a := rule)
      rw [mem_rulesOn_iff, disablesOn_iff]
      exact ⟨rules', hmem, hrule⟩
    · intro rule hrule
      rw [mem_rulesOn_iff, disablesOn_iff] at hrule
      obtain ⟨rules'', hmem', hrule'⟩ := hrule
      exact (h.lineRules _ hmem').isIdentifier rule hrule'
  · rintro ⟨n, rules⟩ hentry
    obtain ⟨⟨rules', hmem⟩, -⟩ := (mem_sortedLineRules_iff s n rules).mp hentry
    exact h.targets (n, rules') hmem

end Suppressions

/-! ### One directive -/

/-- What a directive aims at: the least line of code after it is a line of the source. -/
theorem IsTarget.mayBeTarget {lines : List (List Char)} {i n : Nat} (hi : 0 < i)
    (h : IsTarget lines i n) :
  MayBeTarget lines n
  := by
  rcases h with ⟨⟨hin, line, hline, hcode⟩, -⟩ | ⟨hone, rfl⟩
  · obtain ⟨before, after, rfl, rfl⟩ := exists_of_lineAt? hline
    have hlength : before.length + 1 ≤ (before ++ line :: after).length := by
      rw [List.length_append, List.length_cons]
      omega
    constructor
    · omega
    · intro hone
      omega
    · intro _
      use before.length + 1, line
  · constructor
    · decide
    · intro _
      rfl
    · intro hmany
      omega

/-- What the directive on a line turns off is well formed. -/
theorem isWellFormed_directiveEffect (before rest : List (List Char)) {line : List Char}
    {directive : Option Directive} (h : readLine line = .ok directive) :
  (directiveEffect (before ++ line :: rest).length (before.length + 1) rest
    directive).IsWellFormed (before ++ line :: rest)
  := by
  cases directive with
  | none => apply Suppressions.isWellFormed_none
  | some directive =>
      obtain ⟨-, -, make, payload, rules, hform, hrules, rfl⟩ :=
        (readLine_eq_ok_some_iff _ _).mp h
      have hlisted := areListed_of_readRuleList hrules
      cases hform with
      | wholeFile hnext hform =>
          constructor
          · exact hlisted.isIdentifier
          · simp [directiveEffect]
          · simp [directiveEffect]
      | nextLine hnext hform =>
          rw [directiveEffect]
          split
          · rename_i target htarget
            have htarget := (targetLine?_eq_some_iff _ _ _ _).mp htarget
            constructor
            · simp
            · intro entry hentry
              rw [List.mem_singleton.mp hentry]
              exact hlisted
            · intro entry hentry
              rw [List.mem_singleton.mp hentry]
              exact htarget.mayBeTarget (Nat.succ_pos _)
          · apply Suppressions.isWellFormed_none

/-! ### A scan -/

/-- The lines after `before` add what is well formed for the whole source. -/
theorem isWellFormed_of_scanFrom (before : List (List Char)) {lines : List (List Char)}
    {s : Suppressions}
    (h : scanFrom (before ++ lines).length (before.length + 1) lines = .ok s) :
  s.IsWellFormed (before ++ lines)
  := by
  -- `before` grows with every line, so that targets are always stated of the whole source
  induction lines generalizing before s with
  | nil =>
      cases h
      apply Suppressions.isWellFormed_none
  | cons first rest ih =>
      obtain ⟨directive, later, hfirst, hlater, rfl⟩ := scanFrom_cons_eq_ok h
      have hsplit : before ++ first :: rest = (before ++ [first]) ++ rest := by simp
      have hlength : before.length + 1 = (before ++ [first]).length := by simp
      have hrest : later.IsWellFormed (before ++ first :: rest) := by
        rw [hsplit, hlength] at hlater
        rw [hsplit]
        exact ih _ hlater
      exact (isWellFormed_directiveEffect before rest hfirst).union hrest

/-- What the directives of a source turn off is well formed, as it is recorded line by line and
with one entry for each line, which says the same. -/
theorem readDirectives_isWellFormed {source : String} {file : Option String} {s : Suppressions}
    (h : readDirectives source file = .ok s) :
  s.IsWellFormed (sourceLines source.toList)
    ∧ s.gathered.IsWellFormed (sourceLines source.toList)
    ∧ (s.gathered.lineRules.map (·.1)).Nodup
    ∧ ∀ n rule, s.gathered.disablesOn n rule = s.disablesOn n rule
  := by
  have hscan := (readDirectives_eq_ok_iff source file s).mp h
  have hform : s.IsWellFormed (sourceLines source.toList) := isWellFormed_of_scanFrom [] hscan
  exact ⟨hform, hform.gathered, s.nodup_keys_gathered, s.disablesOn_gathered⟩

/-- Two directives aim at the last line, past a blank line and each other, and their entries
are gathered into one. -/
theorem readDirectives_isWellFormed_shared_target :
  let source := "/* avesta-disable a */\r\n// avesta-disable-next-line b , c\n\n"
    ++ "// avesta-disable-next-line c\nfoo();"
  let s : Suppressions := ⟨["a"], [(5, ["b", "c"]), (5, ["c"])], false⟩
  readDirectives source none = .ok s
    ∧ s.gathered = ⟨["a"], [(5, ["b", "c"])], false⟩
    ∧ s.IsWellFormed (sourceLines source.toList)
    ∧ s.gathered.IsWellFormed (sourceLines source.toList)
  := by
  intro source s
  have hread : readDirectives source none = .ok s := by decide +kernel
  have hsorted : ["b", "c"].mergeSort textLe = ["b", "c"] := List.mergeSort_of_pairwise (by decide)
  have hgathered : s.gathered = ⟨["a"], [(5, ["b", "c"])], false⟩ := by
    simp [s, Suppressions.gathered, Suppressions.sortedFileRules, Suppressions.sortedLineRules,
      sortedSet, sortTexts, distinct, hsorted]
  obtain ⟨hform, hform', -⟩ := readDirectives_isWellFormed hread
  exact ⟨hread, hgathered, hform, hform'⟩

end SourceAudit
