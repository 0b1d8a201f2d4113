import SourceAudit.Proofs.Config.Enabling
import SourceAudit.Proofs.Config.RuleTables

/-!
# Edits of settings

Two edits that concern one rule. The rule is put into the list of those that are dropped, or
a severity is set in the table that the settings of the rule are read from. An edited table
is accepted when the table was, and the settings differ in what was edited and in nothing
else.
-/

namespace SourceAudit

open Text

/-! ### Settings that differ in one place -/

/-- The later settings drop the rule as well, and differ in nothing else. -/
structure Config.DropsAlso (config : Config) (rule : String) (config' : Config) : Prop where
  rest : { config' with disable := config.disable } = config
  disable : ∀ word, word ∈ config'.disable ↔ word = rule ∨ word ∈ config.disable

/-- The later settings give the findings of the rule a severity, and differ in nothing else. -/
structure Config.Regrades (config : Config) (rule : String) (severity : Severity)
    (config' : Config) : Prop where
  rest : { config' with settings := config.settings } = config
  own : config'.ruleSettings rule = ⟨some severity, (config.ruleSettings rule).options⟩
  others : ∀ other, other ≠ rule → config'.ruleSettings other = config.ruleSettings other

theorem enables_of_dropsAlso {config config' : Config} {rule : String}
    (h : config.DropsAlso rule config') (hrule : ¬ IsAll rule) (other : String) :
  config'.enables other = (config.enables other && decide (other ≠ rule))
  := by
  have henable : config'.enable = config.enable := by rw [← h.rest]
  have hdisable : (∃ word ∈ config'.disable, IsAll word ∨ word = other)
      ↔ other = rule ∨ ∃ word ∈ config.disable, IsAll word ∨ word = other := by
    simp only [h.disable, or_and_right, exists_or, exists_eq_left, hrule, false_or]
    rw [eq_comm (a := rule)]
  rw [Bool.eq_iff_iff, Bool.and_eq_true, decide_eq_true_iff, enables_iff, enables_iff, henable,
    hdisable, not_or, and_comm (a := other ≠ rule), and_assoc]

theorem enables_of_regrades {config config' : Config} {rule : String} {severity : Severity}
    (h : config.Regrades rule severity config') (other : String) :
  config'.enables other = config.enables other
  := by
  rw [← h.rest]
  rfl

theorem plugins_of_dropsAlso {config config' : Config} {rule : String}
    (h : config.DropsAlso rule config') :
  config'.plugins = config.plugins
  := by rw [← h.rest]

theorem plugins_of_regrades {config config' : Config} {rule : String} {severity : Severity}
    (h : config.Regrades rule severity config') :
  config'.plugins = config.plugins
  := by rw [← h.rest]

/-! ### Tables with another table of rules -/

/-- The table with another table of rules. -/
def Entries.withRules (table rules : Entries) : Entries :=
  table.put "rules" (.table rules)

theorem rulesTable_withRules (table rules : Entries) :
  rulesTable (table.withRules rules) = rules
  := by
  rw [rulesTable, Entries.withRules, Entries.get?_put_self]
  rfl

/-- Settings of a table with another table of rules: what is said of rules is read from there,
and the rest as before. -/
theorem Config.IsReadFrom.withRules {config : Config} {table rules : Entries}
    (h : config.IsReadFrom table) {enable : Enabling}
    (henable : readEnabling ⟨rules, (rulesSection table).name⟩ = .ok enable)
    {texts disable : List String}
    (htexts : Section.texts ⟨rules, (rulesSection table).name⟩ "disable" [] = .ok texts)
    (hdisable : ruleWords ((rulesSection table).setting "disable") texts = .ok disable)
    {settings : List (String × RuleSettings)}
    (hsettings : readRuleTables ⟨rules, (rulesSection table).name⟩ [] (ruleKeys rules)
      = .ok settings) :
  { config with enable, disable, settings }.IsReadFrom (table.withRules rules)
  := by
  have hsection : rulesSection (table.withRules rules) = ⟨rules, (rulesSection table).name⟩ := by
    rw [rulesSection, rulesTable_withRules]
    rfl
  have hother : ∀ key, key ≠ "rules" → (table.withRules rules).get? key = table.get? key :=
    fun key hkey => Entries.get?_put_of_ne _ _ hkey
  constructor
  · rw [readLanguages, texts_congr (hother "languages" (by decide)), ← readLanguages]
    exact h.languages
  · rw [hsection, Section.child]
    dsimp only
    rw [Entries.withRules, Entries.get?_put_self]
    rfl
  · rw [hsection]
    exact henable
  · rw [hsection]
    exact ⟨texts, htexts, hdisable⟩
  · rw [hsection, rulesTable_withRules]
    exact hsettings
  · rw [child_congr (hother "ignore" (by decide))]
    exact h.ignorePaths
  · rw [child_congr (hother "review" (by decide))]
    exact h.review
  · rw [texts_congr (hother "plugins" (by decide))]
    exact h.plugins

/-! ### Dropping a rule -/

/-- The table with one more rule to be dropped, put before an item of those that are. -/
def Entries.dropping (table : Entries) (rule : String) (i : Nat) : Entries :=
  let items := (((rulesTable table).get? "disable").bind Value.list?).getD []
  table.withRules ((rulesTable table).put "disable"
    (.list (items.take i ++ .text rule :: items.drop i)))

/-- The keys of entries in which a value is put: the same, or the key after them. -/
theorem keys_put (entries : Entries) (key : String) (v : Value) :
  (entries.put key v).map (·.1)
    = if key ∈ entries.map (·.1) then entries.map (·.1) else entries.map (·.1) ++ [key]
  := by
  induction entries with
  | nil => simp [Entries.put]
  | cons entry rest ih =>
      obtain ⟨k, old⟩ := entry
      rw [Entries.put]
      by_cases hk : k = key
      · simp [hk]
      · rw [if_neg hk, List.map_cons, ih]
        simp only [List.map_cons, List.mem_cons, Ne.symm hk, false_or]
        split
        · rfl
        · rfl

theorem ruleKeys_put_disable (rules : Entries) (v : Value) :
  ruleKeys (rules.put "disable" v) = ruleKeys rules
  := by
  rw [ruleKeys, ruleKeys, keys_put]
  split
  · rfl
  · rw [List.filter_append]
    simp

/-- The items of the list of those to be dropped. -/
theorem items_of_writesDropped {table : Entries} {written : List String}
    (h : WritesDropped table written) :
  (((rulesTable table).get? "disable").bind Value.list?).getD [] = written.map .text
  := by
  rcases h with hlist | ⟨rfl, hnull⟩
  · rw [hlist]
    rfl
  · cases hget : (rulesTable table).get? "disable" with
    | none => rfl
    | some v =>
        rw [hnull v hget]
        rfl

theorem mem_commaWords_insert {rule : String} (hrule : IsIdentifier rule.toList)
    (written : List String) (i : Nat) (word : String) :
  word ∈ commaWords (written.take i ++ rule :: written.drop i)
    ↔ word = rule ∨ word ∈ commaWords written
  := by
  have hperm : (written.take i ++ rule :: written.drop i).Perm (rule :: written) := by
    have hmiddle : (written.take i ++ rule :: written.drop i).Perm
        (rule :: (written.take i ++ written.drop i)) := List.perm_middle
    rwa [List.take_append_drop] at hmiddle
  have hown : commaWords [rule] = [rule] := by
    rw [commaWords_of_not_mem (hrule.not_mem (by decide)), if_neg (by simp [hrule.not_blank]),
      hrule.trimmed_eq]
  have hlists : Lists rule.toList word ↔ word = rule := by
    have hmem := mem_commaWords_iff [rule] word
    rw [hown] at hmem
    simpa using hmem.symm
  simp only [mem_commaWords_iff, hperm.mem_iff, List.mem_cons, or_and_right, exists_or,
    exists_eq_left, hlists]

/-- A table of accepted settings that drops one more rule is accepted, and drops this rule as
well. -/
theorem exists_ofTable_dropping {table : Entries} {config : Config}
    (h : Config.ofTable table = .ok config) {rule : String} (hrule : IsIdentifier rule.toList)
    (i : Nat) :
  ∃ config', Config.ofTable (table.dropping rule i) = .ok config'
    ∧ config.DropsAlso rule config'
  := by
  have hread := (ofTable_eq_ok_iff table config).mp h
  obtain ⟨written, hwritten, hdisable, hnames⟩ := exists_writesDropped hread
  let later := written.take i ++ rule :: written.drop i
  have htable : table.dropping rule i
      = table.withRules ((rulesTable table).put "disable" (.list (later.map .text))) := by
    rw [Entries.dropping, items_of_writesDropped hwritten, List.map_append, List.map_cons,
      List.map_take, List.map_drop]
  have hmem : ∀ word, word ∈ commaWords (later.map trimmed)
      ↔ word = rule ∨ word ∈ config.disable := by
    intro word
    rw [hdisable, commaWords_map_trimmed]
    exact mem_commaWords_insert hrule written i word
  have hother : ∀ key, key ≠ "disable" →
      ((rulesTable table).put "disable" (.list (later.map .text))).get? key
        = (rulesTable table).get? key :=
    fun key hkey => Entries.get?_put_of_ne _ _ hkey
  use { config with disable := commaWords (later.map trimmed) }
  constructor
  · rw [ofTable_eq_ok_iff, htable]
    apply hread.withRules
    · rw [readEnabling_congr (hother "enable" (by decide))]
      exact hread.enable
    · rw [texts_eq_ok_iff]
      exact ⟨later, rfl, Or.inl (Entries.get?_put_self _ _ _)⟩
    · rw [ruleWords_eq_ok_iff]
      use rfl
      intro word hword
      rcases (hmem word).mp hword with rfl | hold
      · exact Or.inr hrule.isRuleName
      · exact hnames word hold
    · rw [ruleKeys_put_disable, readRuleTables_congr]
      · exact hread.settings
      · intro key hkey
        apply hother
        rintro rfl
        simp [ruleKeys] at hkey
  · exact ⟨rfl, hmem⟩

/-! ### Setting a severity -/

/-- The key of the table that the settings of a rule are read from: the last one that is the
rule once trimmed. A rule that has none is its own key. -/
def settingsKey (rules : Entries) (rule : String) : String :=
  (lastKey? (ruleKeys rules) rule).getD rule

/-- The table in which the settings of a rule are written. -/
def ownTable (rules : Entries) (rule : String) : Entries :=
  ((rules.get? (settingsKey rules rule)).bind Value.table?).getD []

/-- The table of rules with a severity put in the table of one rule. -/
def gradedRules (rules : Entries) (rule : String) (v : Value) : Entries :=
  rules.put (settingsKey rules rule) (.table ((ownTable rules rule).put "severity" v))

/-- The table with a severity set for a rule. -/
def Entries.grading (table : Entries) (rule : String) (v : Value) : Entries :=
  table.withRules (gradedRules (rulesTable table) rule v)

theorem tableOptions_put_severity (entries : Entries) (v : Value) :
  tableOptions (entries.put "severity" v) = tableOptions entries
  := by
  have hfilter : (entries.put "severity" v).filter (fun entry => entry.1 ≠ "severity")
      = entries.filter fun entry => entry.1 ≠ "severity" := by
    induction entries with
    | nil => rfl
    | cons entry rest ih =>
        obtain ⟨k, old⟩ := entry
        rw [Entries.put]
        split
        · rename_i hk
          simp [hk]
        · rename_i hk
          rw [List.filter_cons, List.filter_cons, ih]
  rw [tableOptions, tableOptions, hfilter]

/-- The name of a setting matters only to the fault of a severity. -/
theorem readSeverity_of_ok {setting : String} {v : Value} {severity : Severity}
    (h : readSeverity setting v = .ok severity) (other : String) :
  (∃ t, v = .text t) ∧ readSeverity other v = .ok severity
  := by
  cases v with
  | text t =>
      use ⟨t, rfl⟩
      rw [readSeverity] at h ⊢
      split at h
      all_goals first | exact h | cases h
  | _ => cases h

theorem readGrade_of_readSeverity {setting : String} {v : Value} {severity : Severity}
    (hv : readSeverity setting v = .ok severity) {entries : Entries}
    (hget : entries.get? "severity" = some v) (name : String) :
  readGrade ⟨entries, name⟩ = .ok (some severity)
  := by
  obtain ⟨⟨t, rfl⟩, hread⟩ := readSeverity_of_ok hv (Section.setting ⟨entries, name⟩ "severity")
  rw [readGrade, hget]
  dsimp only [Option.getD_some]
  rw [hread]
  rfl

section
variable {rules : Entries} {rule : String} (hrule : IsIdentifier rule.toList)

include hrule

theorem trimmed_settingsKey :
  trimmed (settingsKey rules rule) = rule
  := by
  rw [settingsKey]
  cases hlast : lastKey? (ruleKeys rules) rule with
  | none => exact hrule.trimmed_eq
  | some key => exact (trimmed_of_lastKey? hlast).2

theorem not_mem_keys_of_lastKey? (henable : rule ≠ "enable") (hdisable : rule ≠ "disable")
    (hlast : lastKey? (ruleKeys rules) rule = none) :
  rule ∉ rules.map (·.1)
  := by
  intro hmem
  have hin : rule ∈ (ruleKeys rules).filter fun key => trimmed key = rule := by
    rw [ruleKeys, List.mem_filter, List.mem_filter]
    exact ⟨⟨hmem, by simp [henable, hdisable]⟩, decide_eq_true hrule.trimmed_eq⟩
  rw [lastKey?, List.getLast?_eq_none_iff] at hlast
  rw [hlast] at hin
  cases hin

/-- A severity that is put in the table of a rule adds the key of the rule, when there is none. -/
theorem ruleKeys_gradedRules (henable : rule ≠ "enable") (hdisable : rule ≠ "disable")
    (v : Value) :
  ruleKeys (gradedRules rules rule v)
    = if lastKey? (ruleKeys rules) rule = none then ruleKeys rules ++ [rule]
      else ruleKeys rules
  := by
  rw [gradedRules, ruleKeys, keys_put]
  cases hlast : lastKey? (ruleKeys rules) rule with
  | none =>
      have hno := not_mem_keys_of_lastKey? hrule henable hdisable hlast
      rw [settingsKey, hlast, Option.getD_none, if_neg hno, if_pos rfl, List.filter_append]
      simp [ruleKeys, henable, hdisable]
  | some key =>
      have hmem := (trimmed_of_lastKey? hlast).1
      rw [ruleKeys] at hmem
      rw [settingsKey, hlast, Option.getD_some, if_pos (List.mem_of_mem_filter hmem), if_neg nofun,
        ruleKeys]

/-- The keys of a rule are those of before, and the last key of the edited rule is its own. -/
theorem lastKey?_gradedRules (henable : rule ≠ "enable") (hdisable : rule ≠ "disable")
    (v : Value) (other : String) :
  lastKey? (ruleKeys (gradedRules rules rule v)) other
    = if other = rule then some (settingsKey rules rule) else lastKey? (ruleKeys rules) other
  := by
  rw [ruleKeys_gradedRules hrule henable hdisable]
  split
  · rename_i hlast
    rw [settingsKey, hlast, lastKey?, List.filter_append, List.filter_singleton, hrule.trimmed_eq]
    split
    · rename_i hother
      simp [hother]
    · rename_i hother
      simp [Ne.symm hother, lastKey?]
  · rename_i hlast
    obtain ⟨key, hkey⟩ := Option.ne_none_iff_exists'.mp hlast
    split
    · rename_i hother
      rw [settingsKey, hother, hkey, Option.getD_some]
    · rfl

/-- The table of the edited rule is read as its settings with the severity. -/
theorem readRuleTable_gradedRules {setting : String} {v : Value} {severity : Severity}
    (hv : readSeverity setting v = .ok severity) (name : String) :
  readRuleTable ⟨gradedRules rules rule v, name⟩ (settingsKey rules rule)
    = .ok (rule, ⟨some severity, tableOptions (ownTable rules rule)⟩)
  := by
  have hget : (gradedRules rules rule v).get? (settingsKey rules rule)
      = some (.table ((ownTable rules rule).put "severity" v)) := Entries.get?_put_self _ _ _
  let sub : Section := ⟨(ownTable rules rule).put "severity" v,
    Section.setting ⟨gradedRules rules rule v, name⟩ (settingsKey rules rule)⟩
  have hchild : Section.child ⟨gradedRules rules rule v, name⟩ (settingsKey rules rule)
      = .ok sub := by
    rw [Section.child]
    dsimp only
    rw [hget]
    rfl
  rw [readRuleTable_eq_ok_iff]
  use sub, some severity, hchild
  rw [trimmed_settingsKey hrule, tableOptions_put_severity]
  refine ⟨?_, ?_, rfl⟩
  · exact hrule.isRuleName
  · apply readGrade_of_readSeverity hv
    apply Entries.get?_put_self

theorem settingsKey_ne {key : String} (hkey : trimmed key = key) (hne : rule ≠ key) :
  settingsKey rules rule ≠ key
  := by
  intro hsame
  apply hne
  rw [← trimmed_settingsKey hrule, hsame, hkey]

/-- The key of another rule is not that of the edited one. -/
theorem ne_settingsKey_of_lastKey? {keys : List String} {other key : String}
    (hkey : lastKey? keys other = some key) (hne : other ≠ rule) :
  key ≠ settingsKey rules rule
  := by
  rintro rfl
  apply hne
  rw [← (trimmed_of_lastKey? hkey).2, trimmed_settingsKey hrule]

omit hrule in
theorem readRuleTable_gradedRules_of_ne (v : Value) (name : String) {key : String}
    (hkey : key ≠ settingsKey rules rule) :
  readRuleTable ⟨gradedRules rules rule v, name⟩ key = readRuleTable ⟨rules, name⟩ key
  := by
  apply readRuleTable_congr
  exact Entries.get?_put_of_ne _ _ hkey

/-- The options of a rule are those in the table that its settings are read from. -/
theorem options_of_isReadFrom {config : Config} {table : Entries} (h : config.IsReadFrom table)
    (henable : rule ≠ "enable") (hdisable : rule ≠ "disable") :
  (config.ruleSettings rule).options = tableOptions (ownTable (rulesTable table) rule)
  := by
  have hlookup := lookup_readRuleTables h.settings rule
  rw [Config.ruleSettings, hlookup, ownTable, settingsKey]
  cases hlast : lastKey? (ruleKeys (rulesTable table)) rule with
  | none =>
      have hno := not_mem_keys_of_lastKey? hrule henable hdisable hlast
      have hget : (rulesTable table).get? rule = none := by
        apply List.lookup_eq_none_iff.mpr
        intro entry hentry
        have hne : rule ≠ entry.1 := by
          rintro rfl
          exact hno (List.mem_map_of_mem hentry)
        simpa using hne
      rw [Option.getD_none, hget]
      rfl
  | some key =>
      obtain ⟨entry, hentry⟩ := (exists_readRuleTables_iff _ [] _).mp ⟨_, h.settings⟩ key
        (trimmed_of_lastKey? hlast).1
      obtain ⟨sub, severity, hsub, -, -, rfl⟩ := (readRuleTable_eq_ok_iff _ _ _).mp hentry
      obtain ⟨rfl, -⟩ := (child_eq_ok_iff _ _ _).mp hsub
      dsimp only
      rw [hentry]
      rfl

section
variable {settings : List (String × RuleSettings)} {name : String}
  (h : readRuleTables ⟨rules, name⟩ [] (ruleKeys rules) = .ok settings)
  (henable : rule ≠ "enable") (hdisable : rule ≠ "disable") {setting : String} {v : Value}
  {severity : Severity} (hv : readSeverity setting v = .ok severity)

include h henable hdisable hv

/-- With the severity all tables of rules are accepted again. -/
theorem exists_readRuleTables_gradedRules :
  ∃ later, readRuleTables ⟨gradedRules rules rule v, name⟩ []
    (ruleKeys (gradedRules rules rule v)) = .ok later
  := by
  apply (exists_readRuleTables_iff _ [] _).mpr
  intro key hkey
  by_cases hsame : key = settingsKey rules rule
  · rw [hsame]
    exact ⟨_, readRuleTable_gradedRules hrule hv name⟩
  · rw [readRuleTable_gradedRules_of_ne v name hsame]
    apply (exists_readRuleTables_iff _ [] _).mp ⟨_, h⟩
    rw [ruleKeys_gradedRules hrule henable hdisable] at hkey
    split at hkey
    · rename_i hnone
      rw [settingsKey, hnone] at hsame
      rcases List.mem_append.mp hkey with hkey | hkey
      · exact hkey
      · exact absurd (List.mem_singleton.mp hkey) hsame
    · exact hkey

/-- The settings of the edited rule are its options and the severity, and those of every other
rule are as before. -/
theorem lookup_gradedRules {later : List (String × RuleSettings)}
    (hlater : readRuleTables ⟨gradedRules rules rule v, name⟩ []
      (ruleKeys (gradedRules rules rule v)) = .ok later) (other : String) :
  later.lookup other
    = if other = rule then some ⟨some severity, tableOptions (ownTable rules rule)⟩
      else settings.lookup other
  := by
  rw [lookup_readRuleTables hlater, lastKey?_gradedRules hrule henable hdisable]
  by_cases hother : other = rule
  · rw [if_pos hother, if_pos hother]
    dsimp only
    rw [readRuleTable_gradedRules hrule hv]
    rfl
  · rw [if_neg hother, if_neg hother, lookup_readRuleTables h]
    cases hkey : lastKey? (ruleKeys rules) other with
    | none => rfl
    | some key =>
        have hne : key ≠ settingsKey rules rule := ne_settingsKey_of_lastKey? hrule hkey hother
        dsimp only
        rw [readRuleTable_gradedRules_of_ne v name hne]

end

end

/-- A table of accepted settings in which a severity is set for a rule is accepted, and gives
the findings of the rule this severity. -/
theorem exists_ofTable_grading {table : Entries} {config : Config}
    (h : Config.ofTable table = .ok config) {rule : String} (hrule : IsIdentifier rule.toList)
    (henable : rule ≠ "enable") (hdisable : rule ≠ "disable") {setting : String} {v : Value}
    {severity : Severity} (hv : readSeverity setting v = .ok severity) :
  ∃ config', Config.ofTable (table.grading rule v) = .ok config'
    ∧ config.Regrades rule severity config'
  := by
  have hread := (ofTable_eq_ok_iff table config).mp h
  obtain ⟨texts, htexts, hwords⟩ := hread.disable
  obtain ⟨settings, hsettings⟩ :=
    exists_readRuleTables_gradedRules hrule hread.settings henable hdisable hv
  have hlookup := lookup_gradedRules hrule hread.settings henable hdisable hv hsettings
  have hother : ∀ key, trimmed key = key → rule ≠ key →
      (gradedRules (rulesTable table) rule v).get? key = (rulesTable table).get? key :=
    fun key hkey hne => Entries.get?_put_of_ne _ _ (settingsKey_ne hrule hkey hne).symm
  use { config with settings }
  constructor
  · rw [ofTable_eq_ok_iff]
    refine hread.withRules ?_ ?_ hwords hsettings
    · rw [readEnabling_congr (hother "enable" (by decide +kernel) henable)]
      exact hread.enable
    · rw [texts_congr (hother "disable" (by decide +kernel) hdisable)]
      exact htexts
  · refine ⟨rfl, ?_, ?_⟩
    · rw [options_of_isReadFrom hrule hread henable hdisable, Config.ruleSettings, hlookup,
        if_pos rfl]
      rfl
    · intro other hne
      rw [Config.ruleSettings, Config.ruleSettings, hlookup, if_neg hne]

end SourceAudit
