import SourceAudit.Proofs.Config.NormalForm

/-!
# Settings written as tables

Accepted settings can be written as a table again: languages by their names, what is enabled as
it is held, the settings of each rule as its severity and its options, and lists as lists. Only
a severity or a model that is absent is left out. Since the settings are in normal form, they
are what is read from this table.
-/

namespace SourceAudit

open Text

/-! ### Tables of settings -/

/-- A list of texts. -/
def Value.ofTexts (texts : List String) : Value :=
  .list (texts.map .text)

def Enabling.toValue : Enabling → Value
  | .word w => .text w
  | .tokens ws => .ofTexts ws

/-- The table of a rule: the severity, if there is one, and the options. -/
def RuleSettings.toTable (own : RuleSettings) : Entries :=
  match own.severity with
  | none => own.options
  | some severity => ("severity", .text severity.name) :: own.options

/-- The table of reviews; an absent model is left out. -/
def ReviewSettings.toTable (review : ReviewSettings) : Entries :=
  let rest : Entries := [
    ("prompts", .ofTexts review.prompts),
    ("extensions", .ofTexts review.extensions),
    ("timeout", .int review.timeout)]
  match review.model with
  | none => rest
  | some model => ("model", .text model) :: rest

/-- The table of rules. -/
def Config.rulesToTable (config : Config) : Entries :=
  ("enable", config.enable.toValue) :: ("disable", .ofTexts config.disable)
    :: config.settings.map fun (rule, own) => (rule, .table own.toTable)

/-- The table of all settings. -/
def Config.toTable (config : Config) : Entries := [
  ("languages", .ofTexts (config.languages.map (·.name))),
  ("rules", .table config.rulesToTable),
  ("ignore", .table [("paths", .ofTexts config.ignorePaths)]),
  ("review", .table config.review.toTable),
  ("plugins", .ofTexts config.plugins)]

/-! ### Reading single entries -/

section
variable {s : Section} {key : String}

theorem child_of_table {entries : Entries} (h : s.entries.get? key = some (.table entries)) :
  s.child key = .ok ⟨entries, s.setting key⟩
  := by
  rw [child_eq_ok_iff, h]
  use rfl
  rintro v ⟨⟩
  exact Or.inr ⟨entries, rfl⟩

theorem texts_of_ofTexts {texts : List String} (h : s.entries.get? key = some (.ofTexts texts))
    (htrim : ∀ t ∈ texts, trimmed t = t) (default : List String) :
  s.texts key default = .ok texts
  := by
  rw [Section.texts, h]
  dsimp only
  rw [trimmedTexts_eq_ok_iff]
  use texts
  constructor
  · rw [List.map_congr_left htrim, List.map_id']
  · exact Or.inl rfl

end

/-! ### Reading the parts -/

theorem readLanguages_of_ofTexts {s : Section} {languages : List Language}
    (h : s.entries.get? "languages" = some (.ofTexts (languages.map (·.name)))) :
  readLanguages s = .ok languages
  := by
  have hname : ∀ l : Language, trimmed l.name = l.name ∧ small l.name = l.name := by
    intro l
    cases l <;> decide +kernel
  have hown : (languages.map (·.name)).map small = languages.map (·.name) := by
    rw [List.map_map]
    exact List.map_congr_left fun l _ => (hname l).2
  have hknown : ∀ l : Language, Language.ofName? l.name = some l :=
    fun l => (Language.ofName?_eq_some_iff _ _).mpr rfl
  have hunknown : (languages.map (·.name)).filter (fun name => (Language.ofName? name).isNone)
      = [] := by
    rw [List.filter_map, List.filter_eq_nil_iff.mpr]
    · rfl
    · intro l _
      rw [Function.comp_apply, hknown]
      nofun
  have hall : (languages.map (·.name)).filterMap Language.ofName? = languages := by
    have hsome : (Language.ofName? ∘ fun l : Language => l.name) = some := funext hknown
    rw [List.filterMap_map, hsome, List.filterMap_some]
  rw [readLanguages, texts_of_ofTexts h]
  · rw [bind_eq_ok_iff]
    use languages.map (·.name), rfl
    dsimp only
    rw [hown, hunknown, hall]
    rfl
  · intro t ht
    obtain ⟨l, -, rfl⟩ := List.mem_map.mp ht
    exact (hname l).1

theorem readEnabling_toValue {s : Section} {enable : Enabling}
    (h : s.entries.get? "enable" = some enable.toValue)
    (hwords : ∀ word ∈ enable.words, IsRuleWord word) :
  readEnabling s = .ok enable
  := by
  have hread := ruleWords_of_isRuleWord hwords (s.setting "enable")
  rw [readEnabling, h]
  cases enable with
  | word token =>
      have htoken : token.toList.contains ',' = false := by
        simpa using (hwords token (List.mem_singleton_self _)).not_mem_comma
      rw [Option.getD_some, Enabling.toValue]
      dsimp only
      rw [Enabling.words] at hread
      rw [hread, htoken]
      rfl
  | tokens tokens =>
      rw [Option.getD_some, Enabling.toValue, Value.ofTexts]
      dsimp only
      rw [(texts?_eq_some_iff _ tokens).mpr rfl]
      dsimp only
      rw [Enabling.words] at hread
      rw [hread]
      rfl

/-- A severity of the scale is read from its name. -/
theorem readSeverity_name {severity : Severity} (h : severity ∈ Severity.scale)
    (setting : String) :
  readSeverity setting (.text severity.name) = .ok severity
  := by
  have hname : ∀ severity ∈ Severity.scale, small (trimmed severity.name) = severity.name := by
    decide +kernel
  rw [readSeverity, hname severity h]
  simp only [Severity.scale, List.mem_cons, List.not_mem_nil, or_false] at h
  rcases h with rfl | rfl | rfl
  all_goals rfl

theorem get?_eq_none_of_not_mem {entries : Entries} {key : String}
    (h : key ∉ entries.map (·.1)) :
  entries.get? key = none
  := by
  apply List.lookup_eq_none_iff.mpr
  intro entry hentry
  rw [bne_iff_ne]
  rintro rfl
  exact h (List.mem_map_of_mem hentry)

theorem get?_of_mem {entries : Entries} (hnodup : (entries.map (·.1)).Nodup) {key : String}
    {v : Value} (h : (key, v) ∈ entries) :
  entries.get? key = some v
  := by
  obtain ⟨before, after, rfl⟩ := List.append_of_mem h
  apply List.lookup_eq_some_iff.mpr
  use before, after, rfl
  intro entry hentry
  rw [bne_iff_ne]
  intro hkey
  exact not_mem_keys_of_nodup_append hnodup (List.mem_map.mpr ⟨entry, hentry, hkey.symm⟩)

theorem putSettings_of_not_mem {settings : List (String × RuleSettings)} {rule : String}
    (h : rule ∉ settings.map (·.1)) (new : RuleSettings) :
  putSettings settings rule new = settings ++ [(rule, new)]
  := by
  induction settings with
  | nil => rfl
  | cons entry rest ih =>
      obtain ⟨r, old⟩ := entry
      rw [List.map_cons, List.mem_cons, not_or] at h
      rw [putSettings, if_neg (Ne.symm h.1), ih h.2]
      rfl

/-- Options with names of their own are kept one after another. -/
theorem keptFrom_of_nodup {kept options : Entries}
    (h : (kept.map (·.1) ++ options.map fun option => optionName option.1).Nodup) :
  keptFrom kept options = kept ++ options.map fun option => (optionName option.1, option.2)
  := by
  induction options generalizing kept with
  | nil => exact (List.append_nil kept).symm
  | cons option rest ih =>
      have hnew : optionName option.1 ∉ kept.map (·.1) := by
        rw [List.nodup_append] at h
        intro hmem
        exact h.2.2 _ hmem _ List.mem_cons_self rfl
      rw [keptFrom_cons, Entries.put_of_not_mem hnew, ih, List.append_assoc]
      · rfl
      · rw [List.map_append, List.append_assoc]
        exact h

theorem keptOptions_of_nodup {options : Entries}
    (h : (options.map fun option => optionName option.1).Nodup) :
  keptOptions options = options.map fun option => (optionName option.1, option.2)
  := by
  rw [keptOptions_eq_keptFrom, keptFrom_of_nodup, List.nil_append]
  exact h

/-- Options under the names they are kept by are kept as they are. -/
theorem keptOptions_of_optionName_eq {options : Entries} (hnodup : (options.map (·.1)).Nodup)
    (hnames : ∀ name ∈ options.map (·.1), optionName name = name) :
  keptOptions options = options
  := by
  have hsame : ∀ option ∈ options, optionName option.1 = option.1 :=
    fun option hoption => hnames _ (List.mem_map_of_mem hoption)
  have hpairs : ∀ option ∈ options, (optionName option.1, option.2) = option :=
    fun option hoption => Prod.ext (hsame option hoption) rfl
  rw [keptOptions_of_nodup, List.map_congr_left hpairs, List.map_id']
  rw [List.map_congr_left hsame]
  exact hnodup

/-! ### Tables of rules -/

/-- What the table of a rule is named by cannot be mistaken: no rule is called like a list of
rules, and no option like a severity. -/
structure Config.IsWritable (config : Config) : Prop where
  enable : "enable" ∉ config.settings.map (·.1)
  disable : "disable" ∉ config.settings.map (·.1)
  severity : ∀ entry ∈ config.settings, "severity" ∉ entry.2.options.map (·.1)

theorem readGrade_toTable {own : RuleSettings} (h : own.IsNormal)
    (hseverity : "severity" ∉ own.options.map (·.1)) (name : String) :
  readGrade ⟨own.toTable, name⟩ = .ok own.severity
  := by
  obtain ⟨severity?, options⟩ := own
  cases severity? with
  | none =>
      rw [readGrade, RuleSettings.toTable]
      dsimp only
      rw [get?_eq_none_of_not_mem hseverity]
      rfl
  | some severity =>
      have hscale := h.severity severity rfl
      exact readGrade_of_readSeverity (readSeverity_name hscale "severity") rfl name

theorem tableOptions_toTable {own : RuleSettings} (h : own.IsNormal)
    (hseverity : "severity" ∉ own.options.map (·.1)) :
  tableOptions own.toTable = own.options
  := by
  have hoptions : own.options.filter (fun entry => entry.1 ≠ "severity") = own.options := by
    rw [List.filter_eq_self]
    intro entry hentry
    rw [decide_eq_true_iff]
    rintro heq
    exact hseverity (heq ▸ List.mem_map_of_mem hentry)
  have htable : own.toTable.filter (fun entry => entry.1 ≠ "severity") = own.options := by
    rw [RuleSettings.toTable]
    split
    · exact hoptions
    · exact hoptions
  rw [tableOptions, htable, keptOptions_of_optionName_eq h.nodup h.options]

theorem readRuleTable_toTable {s : Section} {rule : String} {own : RuleSettings}
    (hget : s.entries.get? rule = some (.table own.toTable)) (hrule : IsIdentifier rule.toList)
    (h : own.IsNormal) (hseverity : "severity" ∉ own.options.map (·.1)) :
  readRuleTable s rule = .ok (rule, own)
  := by
  rw [readRuleTable_eq_ok_iff]
  use ⟨own.toTable, s.setting rule⟩, own.severity, child_of_table hget
  rw [hrule.trimmed_eq]
  use hrule.isRuleName, readGrade_toTable h hseverity _
  rw [tableOptions_toTable h hseverity]

/-- Tables of rules that all differ are read one after another. -/
theorem readRuleTables_eq_append {s : Section} {settings : List (String × RuleSettings)}
    (h : ∀ entry ∈ settings, readRuleTable s entry.1 = .ok entry)
    (before : List (String × RuleSettings)) (hnodup : ((before ++ settings).map (·.1)).Nodup) :
  readRuleTables s before (settings.map (·.1)) = .ok (before ++ settings)
  := by
  induction settings generalizing before with
  | nil => rw [List.append_nil]; rfl
  | cons entry rest ih =>
      obtain ⟨hentry, hrest⟩ := List.forall_mem_cons.mp h
      have hnew := not_mem_keys_of_nodup_append hnodup
      rw [List.map_cons, readRuleTables, hentry]
      dsimp only
      rw [putSettings_of_not_mem hnew, ih hrest, List.append_assoc]
      · rfl
      · rw [List.append_assoc]
        exact hnodup

/-! ### Reading what is written -/

theorem readReview_toTable {review : ReviewSettings} (h : review.IsNormal) (name : String) :
  readReview ⟨review.toTable, name⟩ = .ok review
  := by
  obtain ⟨model?, prompts, extensions, timeout⟩ := review
  have hextensions : extensions.filterMap readExtension? = extensions := by
    rw [List.filterMap_congr fun e he => readExtension?_of_isExtension (h.extensions e he),
      List.filterMap_some]
  rw [readReview_eq_ok_iff]
  use extensions
  refine ⟨?_, ?_, ?_, ?_, hextensions.symm⟩
  · apply texts_of_ofTexts
    · cases model? <;> rfl
    · exact fun e he => (h.extensions e he).trimmed
  · cases model? with
    | none => rfl
    | some model =>
        obtain ⟨hne, htrim⟩ := h.model model rfl
        have hget : (ReviewSettings.toTable ⟨some model, prompts, extensions, timeout⟩).get? "model"
            = some (.text model) := rfl
        rw [Section.text?, hget]
        dsimp only [Option.getD_some]
        rw [htrim, if_neg hne]
  · apply texts_of_ofTexts
    · cases model? <;> rfl
    · exact h.prompts
  · have hget : (ReviewSettings.toTable ⟨model?, prompts, extensions, timeout⟩).get? "timeout"
        = some (.int timeout) := by cases model? <;> rfl
    rw [Section.seconds, hget]
    exact if_pos h.timeout

theorem keys_rulesToTable (config : Config) :
  config.rulesToTable.map (·.1) = "enable" :: "disable" :: config.settings.map (·.1)
  := by
  rw [Config.rulesToTable, List.map_cons, List.map_cons, List.map_map]
  rfl

theorem nodup_keys_rulesToTable {config : Config} (h : config.IsWritable)
    (hnodup : (config.settings.map (·.1)).Nodup) :
  (config.rulesToTable.map (·.1)).Nodup
  := by
  rw [keys_rulesToTable, List.nodup_cons, List.nodup_cons, List.mem_cons, not_or]
  exact ⟨⟨by decide, h.enable⟩, h.disable, hnodup⟩

theorem ruleKeys_rulesToTable {config : Config} (h : config.IsWritable) :
  ruleKeys config.rulesToTable = config.settings.map (·.1)
  := by
  rw [ruleKeys, keys_rulesToTable, List.filter_cons_of_neg (by decide),
    List.filter_cons_of_neg (by decide), List.filter_eq_self]
  intro rule hmem
  rw [Bool.and_eq_true, decide_eq_true_iff, decide_eq_true_iff]
  constructor
  · rintro rfl
    exact h.enable hmem
  · rintro rfl
    exact h.disable hmem

/-- Settings in normal form are what is read from their table. -/
theorem isReadFrom_toTable {config : Config} (h : config.IsNormal) (hwritable : config.IsWritable) :
  config.IsReadFrom config.toTable
  := by
  have hkeys : ruleKeys (rulesTable config.toTable) = config.settings.map (·.1) :=
    ruleKeys_rulesToTable hwritable
  constructor
  · exact readLanguages_of_ofTexts rfl
  · exact child_of_table rfl
  · exact readEnabling_toValue rfl h.enable
  · use config.disable
    constructor
    · exact texts_of_ofTexts rfl (fun word hword => (h.disable word hword).trimmed_eq) _
    · exact ruleWords_of_isRuleWord h.disable _
  · rw [hkeys, readRuleTables_eq_append _ [] h.nodup, List.nil_append]
    intro entry hentry
    obtain ⟨hrule, hnormal⟩ := h.rules entry hentry
    apply readRuleTable_toTable _ hrule hnormal (hwritable.severity entry hentry)
    apply get?_of_mem (nodup_keys_rulesToTable hwritable h.nodup)
    apply List.mem_cons_of_mem
    apply List.mem_cons_of_mem
    exact List.mem_map.mpr ⟨entry, hentry, rfl⟩
  · exact ⟨_, child_of_table rfl, texts_of_ofTexts rfl h.ignorePaths _⟩
  · exact ⟨_, child_of_table rfl, readReview_toTable h.review _⟩
  · exact texts_of_ofTexts rfl h.plugins _

/-! ### Tables with trimmed keys -/

/-- The keys of the tables of rules, and those in each of these tables, are trimmed. -/
structure HasTrimmedKeys (table : Entries) : Prop where
  rules : ∀ key ∈ (rulesTable table).map (·.1), trimmed key = key
  options : ∀ key entries, (rulesTable table).get? key = some (.table entries) →
    ∀ name ∈ entries.map (·.1), trimmed name = name

/-- An option is not kept as a severity, unless its key has blanks around it. -/
theorem severity_not_mem_tableOptions {entries : Entries}
    (h : ∀ name ∈ entries.map (·.1), trimmed name = name) :
  "severity" ∉ (tableOptions entries).map (·.1)
  := by
  intro hmem
  obtain ⟨name, hname, hkept⟩ := (mem_keys_keptOptions_iff _ _).mp hmem
  obtain ⟨option, hoption, rfl⟩ := List.mem_map.mp hname
  obtain ⟨hin, hne⟩ := List.mem_filter.mp hoption
  have hsame := eq_of_optionName_eq (h _ (List.mem_map_of_mem hin)) (by decide +kernel) hkept
  exact of_decide_eq_true hne hsame

theorem exists_table_of_mem_keys {entries : Entries} {key name : String}
    (h : name ∈ (((entries.get? key).bind Value.table?).getD []).map (·.1)) :
  ∃ own, entries.get? key = some (.table own) ∧ name ∈ own.map (·.1)
  := by
  cases hget : entries.get? key with
  | none =>
      rw [hget] at h
      cases h
  | some v =>
      rw [hget] at h
      cases v with
      | table own => exact ⟨own, rfl, h⟩
      | _ => cases h

theorem isWritable_of_hasTrimmedKeys {table : Entries} {config : Config}
    (h : config.IsReadFrom table) (htrim : HasTrimmedKeys table) :
  config.IsWritable
  := by
  -- the settings of a rule stem from the table that has its very name for its key
  have hentry : ∀ entry ∈ config.settings, entry.1 ∈ ruleKeys (rulesTable table)
      ∧ "severity" ∉ entry.2.options.map (·.1) := by
    intro entry hmem
    rcases exists_readRuleTable_of_mem h.settings hmem with hnone | ⟨key, hkey, hread⟩
    · cases hnone
    · obtain ⟨sub, severity, hsub, -, -, rfl⟩ := (readRuleTable_eq_ok_iff _ _ _).mp hread
      obtain ⟨rfl, -⟩ := (child_eq_ok_iff _ _ _).mp hsub
      constructor
      · dsimp only
        rw [htrim.rules key (List.mem_of_mem_filter hkey)]
        exact hkey
      · apply severity_not_mem_tableOptions
        intro name hname
        obtain ⟨entries, hentries, hmem⟩ := exists_table_of_mem_keys hname
        exact htrim.options key entries hentries name hmem
  have hrule : ∀ rule ∈ config.settings.map (·.1), rule ≠ "enable" ∧ rule ≠ "disable" := by
    intro rule hmem
    obtain ⟨entry, hin, rfl⟩ := List.mem_map.mp hmem
    simpa using List.of_mem_filter (hentry entry hin).1
  constructor
  · exact fun hmem => (hrule _ hmem).1 rfl
  · exact fun hmem => (hrule _ hmem).2 rfl
  · exact fun entry hmem => (hentry entry hmem).2

/-- Settings that are accepted are in normal form. When the keys were trimmed, they can be
written as a table, and from this table the same settings are read. -/
theorem ofTable_toTable_of_ofTable {table : Entries} {config : Config}
    (h : Config.ofTable table = .ok config) :
  config.IsNormal
  ∧ (∀ language ∈ config.languages, ∃ entry ∈ dialects, entry.2.language = language)
  ∧ (∀ e ∈ config.review.extensions, e ≠ "")
  ∧ (HasTrimmedKeys table → Config.ofTable config.toTable = .ok config)
  := by
  have hread := (ofTable_eq_ok_iff table config).mp h
  have hnormal := hread.isNormal
  refine ⟨hnormal, ?_, ?_, ?_⟩
  · intro language _
    cases language <;> decide
  · exact fun e he => (hnormal.review.extensions e he).ne_empty
  · intro htrim
    have hwritable := isWritable_of_hasTrimmedKeys hread htrim
    exact (ofTable_eq_ok_iff _ _).mpr (isReadFrom_toTable hnormal hwritable)

/-- Settings of many kinds are written and read again. -/
theorem ofTable_toTable_of_mixed_settings :
  let table : Entries := [
    ("languages", .list [.text " TypeScript "]),
    ("rules", .table [
      ("enable", .text "no-todo, ALL,"),
      ("disable", .null),
      ("no-todo", .table [
        ("severity", .text " Warning "), ("max-depth", .int 3), ("max_depth", .int 4)]),
      ("one-export", .table [])]),
    ("review", .table [
      ("model", .text "  "), ("extensions", .list [.text " TS", .text "", .text ".Tsx"])]),
    ("plugins", .list [.text " rules "])]
  let config : Config := {
    languages := [.typescript]
    enable := .tokens ["no-todo", "ALL"]
    settings := [("no-todo", ⟨some .warn, [("max_depth", .int 4)]⟩), ("one-export", {})]
    review := { extensions := [".ts", ".tsx"] }
    plugins := ["rules"] }
  Config.ofTable table = .ok config ∧ HasTrimmedKeys table
    ∧ Config.ofTable config.toTable = .ok config
  := by
  intro table config
  have hread : Config.ofTable table = .ok config := by rfl
  have htrim : HasTrimmedKeys table := by
    constructor
    · decide +kernel
    · have hall : ∀ entry ∈ rulesTable table, ∀ own ∈ entry.2.table?,
          ∀ name ∈ own.map (·.1), trimmed name = name := by decide +kernel
      intro key entries hget
      obtain ⟨before, after, hsplit, -⟩ := List.lookup_eq_some_iff.mp hget
      have hmem : (key, Value.table entries) ∈ rulesTable table := by
        rw [hsplit]
        simp
      exact hall _ hmem entries rfl
  exact ⟨hread, htrim, (ofTable_toTable_of_ofTable hread).2.2.2 htrim⟩

end SourceAudit
