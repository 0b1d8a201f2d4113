import SourceAudit.Proofs.Directive.RuleList

/-!
# Rule lists written and read

* Rule names with blanks around them and commas between them are read as they stand, in their
  order and with those that come twice.
* What is read from a payload is a list of identifiers, at least one. Such a list is read again
  once it is written with a comma and a space between its rules.
* A payload is refused for its commas whatever its items are. It is refused for a name only when
  its commas are well placed, and then for the first item that is no identifier.
-/

namespace SourceAudit

open Text

/-! ### Lists with blanks -/

/-- A rule name with blanks on either side. -/
structure SpacedName where
  before : List Char
  name : String
  after : List Char
  before_blank : isBlankText before = true
  isIdentifier : IsIdentifier name.toList
  after_blank : isBlankText after = true

namespace SpacedName

/-- The name between its blanks. -/
def text (n : SpacedName) : List Char :=
  n.before ++ n.name.toList ++ n.after

theorem trim_text (n : SpacedName) :
  trim n.text = n.name.toList
  := by
  rw [text, trim_append_of_blank_right _ n.after_blank, trim_append_of_blank_left n.before_blank,
    n.isIdentifier.trim_eq]

end SpacedName

/-- Names with blanks around them and commas between them are read in their order. -/
theorem readRuleList_spacedNames {names : List SpacedName} (hne : names ≠ []) :
  readRuleList (joined [','] (names.map SpacedName.text)) = .ok (names.map SpacedName.name)
  := by
  have hitems : ∀ item ∈ names.map SpacedName.text, IsIdentifier (trim item) := by
    intro item hitem
    obtain ⟨n, -, rfl⟩ := List.mem_map.mp hitem
    rw [n.trim_text]
    exact n.isIdentifier
  have hname : ∀ n : SpacedName, String.ofList (trim n.text) = n.name := by
    intro n
    rw [n.trim_text, String.ofList_toList]
  rw [readRuleList_joined (by simpa using hne) hitems, List.map_map]
  exact congrArg _ (List.map_congr_left fun n _ => hname n)

/-! ### Outcomes of any payload -/

theorem commasFine_of_blank {payload : List Char} (h : isBlankText payload = true) :
  CommasFine payload
  := by
  rw [isBlankText_iff_trim_eq_nil] at h
  constructor
  · simp [h]
  · simp [h]
  · simp [h]

theorem listItems_of_blank {payload : List Char} (h : isBlankText payload = true) :
  listItems payload = []
  := by
  rw [← listItems_trim, (isBlankText_iff_trim_eq_nil payload).mp h]
  rfl

/-- A blank payload lists nothing. -/
theorem readRuleList_of_blank {payload : List Char} (h : isBlankText payload = true) :
  readRuleList payload = .error .noRules
  := by
  rw [readRuleList, (isBlankText_iff_trim_eq_nil payload).mp h]
  rfl

theorem not_isFirstBadItem_of_blank {payload : List Char} (h : isBlankText payload = true)
    (name : List Char) :
  ¬ IsFirstBadItem payload name
  := by
  rintro ⟨before, after, hsplit, -⟩
  rw [listItems_of_blank h] at hsplit
  simp at hsplit

/-- Commas are looked at before names. -/
theorem readRuleList_eq_commas_iff (payload : List Char) :
  readRuleList payload = .error .commas ↔ ¬ CommasFine payload
  := by
  cases hblank : isBlankText payload with
  | true =>
      rw [readRuleList_of_blank hblank]
      simp [commasFine_of_blank hblank]
  | false =>
      rw [readRuleList_eq_error_iff hblank]
      simp

/-- The name that a payload is refused for is the first item that is no identifier. -/
theorem readRuleList_eq_ruleName_iff (payload : List Char) (name : String) :
  readRuleList payload = .error (.ruleName name)
    ↔ CommasFine payload ∧ IsFirstBadItem payload name.toList
  := by
  cases hblank : isBlankText payload with
  | true =>
      rw [readRuleList_of_blank hblank]
      simp [not_isFirstBadItem_of_blank hblank]
  | false =>
      rw [readRuleList_eq_error_iff hblank]
      constructor
      · rintro (⟨-, hcommas⟩ | ⟨hfine, item, hitem, heq⟩)
        · cases hcommas
        · cases heq
          rw [String.toList_ofList]
          exact ⟨hfine, hitem⟩
      · rintro ⟨hfine, hitem⟩
        right
        use hfine, name.toList, hitem
        rw [String.ofList_toList]

theorem not_commasFine_iff (payload : List Char) :
  ¬ CommasFine payload
    ↔ [','] <+: trim payload ∨ [','] <:+ trim payload ∨ [',', ','] <:+: trim payload
  := by
  constructor
  · intro h
    by_contra hno
    rw [not_or, not_or] at hno
    exact h ⟨hno.1, hno.2.1, hno.2.2⟩
  · rintro (h | h | h) hfine
    · exact hfine.not_first h
    · exact hfine.not_last h
    · exact hfine.not_paired h

/-! ### Lists that are read -/

/-- Rules that a payload can list: at least one, and identifiers all of them. -/
structure AreListed (rules : List String) : Prop where
  ne_nil : rules ≠ []
  isIdentifier : ∀ rule ∈ rules, IsIdentifier rule.toList

theorem areListed_of_readRuleList {payload : List Char} {rules : List String}
    (h : readRuleList payload = .ok rules) :
  AreListed rules
  := by
  have hblank : isBlankText payload = false := by
    by_contra hblank
    rw [Bool.not_eq_false] at hblank
    rw [readRuleList_of_blank hblank] at h
    cases h
  obtain ⟨hfine, hitems, rfl⟩ := (readRuleList_eq_ok_iff hblank rules).mp h
  constructor
  · rw [ne_eq, List.map_eq_nil_iff]
    exact listItems_ne_nil hfine hblank
  · intro rule hrule
    obtain ⟨item, hitem, rfl⟩ := List.mem_map.mp hrule
    rw [String.toList_ofList]
    exact hitems item hitem

/-- The rules with a comma and a space between every two of them. -/
def ruleListText (rules : List String) : List Char :=
  joined ", ".toList (rules.map String.toList)

/-- A list that can be read is read from what is written of it. -/
theorem AreListed.readRuleList_ruleListText {rules : List String} (h : AreListed rules) :
  readRuleList (ruleListText rules) = .ok rules
  := by
  obtain ⟨rule, rest, rfl⟩ := List.exists_cons_of_ne_nil h.ne_nil
  obtain ⟨hrule, hrest⟩ := List.forall_mem_cons.mp h.isIdentifier
  -- the space after each comma is one in front of the next rule
  have hspace : isBlankText [' '] = true := by decide
  have hspaced : ∀ r : String, trim (' ' :: r.toList) = trim r.toList :=
    fun r => trim_append_of_blank_left hspace r.toList
  have hname : ∀ r ∈ rest, String.ofList (trim (' ' :: r.toList)) = r := by
    intro r hr
    rw [hspaced, (hrest r hr).trim_eq, String.ofList_toList]
  have htext : ruleListText (rule :: rest)
      = joined [','] (rule.toList :: rest.map fun r => ' ' :: r.toList) := by
    have hsep : ", ".toList = [','] ++ [' '] := rfl
    rw [ruleListText, List.map_cons, hsep, joined_append_sep, List.map_map]
    rfl
  rw [htext, readRuleList_joined]
  · have hrest' := (List.map_congr_left hname).trans (List.map_id' rest)
    rw [List.map_cons, hrule.trim_eq, String.ofList_toList, List.map_map]
    exact congrArg (fun rs => Except.ok (rule :: rs)) hrest'
  · simp
  · intro item hitem
    rcases List.mem_cons.mp hitem with rfl | hitem
    · rw [hrule.trim_eq]
      exact hrule
    · obtain ⟨r, hr, rfl⟩ := List.mem_map.mp hitem
      rw [hspaced, (hrest r hr).trim_eq]
      exact hrest r hr

/-- Rule lists go back and forth: names with blanks around them and commas between them are read
as they stand, and what is read from any payload is read again from what is written of it. A
payload is refused for its commas exactly when its trimmed text begins or ends with a comma or
has two of them side by side, and for a name exactly when its commas are well placed and the
name is the first item that is no identifier. -/
theorem readRuleList_roundTrip :
  (∀ names : List SpacedName, names ≠ [] →
      readRuleList (joined [','] (names.map SpacedName.text)) = .ok (names.map SpacedName.name))
    ∧ (∀ payload rules, readRuleList payload = .ok rules →
      readRuleList (ruleListText rules) = .ok rules)
    ∧ (∀ payload, readRuleList payload = .error .commas
      ↔ [','] <+: trim payload ∨ [','] <:+ trim payload ∨ [',', ','] <:+: trim payload)
    ∧ ∀ payload name, readRuleList payload = .error (.ruleName name)
      ↔ CommasFine payload ∧ IsFirstBadItem payload name.toList
  := by
  refine ⟨?_, ?_, ?_, ?_⟩
  · intro names hne
    exact readRuleList_spacedNames hne
  · intro payload rules h
    exact (areListed_of_readRuleList h).readRuleList_ruleListText
  · intro payload
    rw [readRuleList_eq_commas_iff, not_commasFine_iff]
  · exact readRuleList_eq_ruleName_iff

/-- A list in which a rule comes twice, one with two commas side by side and names that are not
allowed, and one with two such names. -/
theorem readRuleList_roundTrip_three_payloads :
  let first : SpacedName := ⟨[' '], "c-d", ['\t'], by decide, by decide, by decide⟩
  let second : SpacedName := ⟨[], "0", ['\u3000', ' '], by decide, by decide, by decide⟩
  let names := [first, second, first]
  let spaced := joined [','] (names.map SpacedName.text)
  names ≠ [] ∧ readRuleList spaced = .ok ["c-d", "0", "c-d"]
    ∧ ruleListText ["c-d", "0", "c-d"] = "c-d, 0, c-d".toList
    ∧ readRuleList "c-d, 0, c-d".toList = .ok ["c-d", "0", "c-d"]
    ∧ readRuleList "Bad,,Names".toList = .error .commas
    ∧ readRuleList "a , Rule1,b_c".toList = .error (.ruleName "Rule1")
  := by
  intro first second names spaced
  obtain ⟨hspaced, hagain, hcommas, hname⟩ := readRuleList_roundTrip
  have hne : names ≠ [] := by simp [names]
  have hread : readRuleList spaced = .ok ["c-d", "0", "c-d"] := hspaced names hne
  refine ⟨hne, hread, by decide, hagain _ _ hread, ?_, ?_⟩
  · apply (hcommas _).mpr
    decide
  · apply (hname _ _).mpr
    constructor
    · constructor
      · decide
      · decide
      · decide
    · use ["a".toList], ["b_c".toList]
      decide

end SourceAudit
