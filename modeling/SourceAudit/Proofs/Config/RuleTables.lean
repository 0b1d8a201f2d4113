import SourceAudit.Proofs.Config.Reading
import Mathlib.Tactic.Use

/-!
# Tables of single rules

The settings of a rule are read from the last of the keys that are its name once trimmed,
and from no other. So a change of one table leaves the settings of all other rules alone.
-/

namespace SourceAudit

open Text

/-! ### Settings that are put in place -/

theorem lookup_putSettings (settings : List (String × RuleSettings)) (rule other : String)
    (new : RuleSettings) :
  (putSettings settings rule new).lookup other
    = if other = rule then some new else settings.lookup other
  := by
  induction settings with
  | nil =>
      rw [putSettings, List.lookup_cons, List.lookup_nil]
      by_cases h : other = rule
      · rw [if_pos h, beq_iff_eq.mpr h]
      · rw [if_neg h, beq_eq_false_iff_ne.mpr h]
  | cons entry rest ih =>
      obtain ⟨r, old⟩ := entry
      rw [putSettings]
      by_cases hr : r = rule
      · subst hr
        rw [if_pos rfl, List.lookup_cons, List.lookup_cons]
        by_cases h : other = r
        · rw [if_pos h, beq_iff_eq.mpr h]
        · rw [if_neg h, beq_eq_false_iff_ne.mpr h]
      · rw [if_neg hr, List.lookup_cons, List.lookup_cons, ih]
        by_cases h : other = r
        · rw [beq_iff_eq.mpr h]
          exact (if_neg (h ▸ hr)).symm
        · rw [beq_eq_false_iff_ne.mpr h]

/-! ### The key of a rule -/

/-- The last key that is a rule once trimmed. -/
def lastKey? (keys : List String) (rule : String) : Option String :=
  (keys.filter fun key => trimmed key = rule).getLast?

theorem lastKey?_cons (key : String) (keys : List String) (rule : String) :
  lastKey? (key :: keys) rule
    = (lastKey? keys rule).or (if trimmed key = rule then some key else none)
  := by
  rw [lastKey?, lastKey?, List.filter_cons]
  by_cases h : trimmed key = rule
  · rw [if_pos (decide_eq_true h), if_pos h, List.getLast?_cons]
    cases (keys.filter fun key => trimmed key = rule).getLast? with
    | none => rfl
    | some last => rfl
  · rw [if_neg (by simpa using h), if_neg h, Option.or_none]

theorem trimmed_of_lastKey? {keys : List String} {rule key : String}
    (h : lastKey? keys rule = some key) :
  key ∈ keys ∧ trimmed key = rule
  := by
  have hmem := List.mem_of_getLast? h
  rw [List.mem_filter, decide_eq_true_iff] at hmem
  exact hmem

/-! ### Reading -/

theorem readRuleTable_congr {entries entries' : Entries} {key : String}
    (h : entries'.get? key = entries.get? key) (name : String) :
  readRuleTable ⟨entries', name⟩ key = readRuleTable ⟨entries, name⟩ key
  := by
  rw [readRuleTable, readRuleTable, child_congr h]

theorem readRuleTables_congr {entries entries' : Entries} {keys : List String}
    (h : ∀ key ∈ keys, entries'.get? key = entries.get? key) (name : String)
    (before : List (String × RuleSettings)) :
  readRuleTables ⟨entries', name⟩ before keys = readRuleTables ⟨entries, name⟩ before keys
  := by
  induction keys generalizing before with
  | nil => rfl
  | cons key keys ih =>
      obtain ⟨hkey, hkeys⟩ := List.forall_mem_cons.mp h
      rw [readRuleTables, readRuleTables, readRuleTable_congr hkey]
      cases readRuleTable ⟨entries, name⟩ key with
      | error fault => rfl
      | ok entry => exact ih hkeys _

/-- Reads the severity in the table of a rule, when there is one. -/
def readGrade (sub : Section) : Except ConfigFault (Option Severity) :=
  match (sub.entries.get? "severity").getD .null with
  | .null => .ok none
  | v => (readSeverity (sub.setting "severity") v).map some

/-- The options in the table of a rule. -/
def tableOptions (entries : Entries) : Entries :=
  keptOptions (entries.filter fun entry => entry.1 ≠ "severity")

theorem readRuleTable_eq (s : Section) (key : String) :
  readRuleTable s key = s.child key >>= fun sub =>
    if isRuleName (trimmed key) = true then
      (readGrade sub).map fun severity => (trimmed key, ⟨severity, tableOptions sub.entries⟩)
    else .error (.ruleTable sub.name)
  := by
  rw [readRuleTable]
  -- `congr` would first try to see that both steps are the same
  apply congrArg (s.child key >>= ·)
  funext sub
  dsimp only
  cases hname : isRuleName (trimmed key) with
  | false => rfl
  | true =>
      rw [readGrade, tableOptions, if_pos rfl]
      generalize (sub.entries.get? "severity").getD .null = v
      cases v with
      | null => rfl
      | _ =>
        dsimp only
        cases readSeverity (sub.setting "severity") _ with
        | error fault => rfl
        | ok severity => rfl

theorem readRuleTable_eq_ok_iff (s : Section) (key : String) (entry : String × RuleSettings) :
  readRuleTable s key = .ok entry
    ↔ ∃ sub severity, s.child key = .ok sub ∧ isRuleName (trimmed key) = true
      ∧ readGrade sub = .ok severity
      ∧ entry = (trimmed key, ⟨severity, tableOptions sub.entries⟩)
  := by
  rw [readRuleTable_eq, bind_eq_ok_iff]
  constructor
  · rintro ⟨sub, hsub, h⟩
    split at h
    · rename_i hname
      cases hgrade : readGrade sub with
      | error fault =>
          rw [hgrade] at h
          cases h
      | ok severity =>
          rw [hgrade] at h
          cases h
          exact ⟨sub, severity, hsub, hname, hgrade, rfl⟩
    · cases h
  · rintro ⟨sub, severity, hsub, hname, hgrade, rfl⟩
    use sub, hsub
    rw [if_pos hname, hgrade]
    rfl

theorem exists_readRuleTables_iff (s : Section) (before : List (String × RuleSettings))
    (keys : List String) :
  (∃ settings, readRuleTables s before keys = .ok settings)
    ↔ ∀ key ∈ keys, ∃ entry, readRuleTable s key = .ok entry
  := by
  induction keys generalizing before with
  | nil => simp [readRuleTables]
  | cons key keys ih =>
      rw [readRuleTables, List.forall_mem_cons]
      cases readRuleTable s key with
      | error fault => simp
      | ok entry =>
          dsimp only
          rw [ih]
          simp

/-- The settings of a rule are read from the last of its keys. -/
theorem lookup_readRuleTables {s : Section} {before settings : List (String × RuleSettings)}
    {keys : List String} (h : readRuleTables s before keys = .ok settings) (rule : String) :
  settings.lookup rule
    = match lastKey? keys rule with
      | some key => (readRuleTable s key).toOption.map (·.2)
      | none => before.lookup rule
  := by
  induction keys generalizing before with
  | nil =>
      cases h
      rfl
  | cons key keys ih =>
      rw [readRuleTables] at h
      cases hread : readRuleTable s key with
      | error fault =>
          rw [hread] at h
          cases h
      | ok entry =>
          rw [hread] at h
          rw [ih h, lastKey?_cons]
          cases hlast : lastKey? keys rule with
          | some last => rfl
          | none =>
              obtain ⟨sub, severity, -, -, -, rfl⟩ := (readRuleTable_eq_ok_iff _ _ _).mp hread
              rw [Option.none_or, lookup_putSettings]
              by_cases hkey : trimmed key = rule
              · rw [if_pos hkey, if_pos hkey.symm]
                dsimp only
                rw [hread]
                rfl
              · rw [if_neg hkey, if_neg (Ne.symm hkey)]

end SourceAudit
