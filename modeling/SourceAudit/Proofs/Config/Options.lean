import SourceAudit.Proofs.Config.OptionTables
import SourceAudit.Rule.Registered

/-!
# Options that are written and read again

Options come back from the settings of a project as they were written in the table of their
rule: under any spelling of their names, and with a severity beside them or without. A rule
whose name ends with a line feed is the exception. Its table is kept under the name without the
line feed, so that the rule itself has no table.

* `AreSpelled.map_optionName_eq`: entries are kept under the names that their keys spell.
* `readOptions_of_areOptionValues`: values that options can have are read as they are.
* `ofTable_ruleTable`: the settings that the table of one rule leads to.
* `options_of_line_feed`: a rule whose name has a line feed keeps its defaults.
-/

namespace SourceAudit

open Text

/-! ### Options that were written -/

/-- The value is one that an option with the default given first can have. -/
inductive IsHeld : Value → Value → Prop where
  | bool (default b : Bool) :
      IsHeld (.bool default) (.bool b)
  | int (default : Int) {n : Int} (h : 0 ≤ n) :
      IsHeld (.int default) (.int n)
  | texts (default : List Value) {ts : List String} (h : ∀ t ∈ ts, trimmed t = t) :
      IsHeld (.list default) (.ofTexts ts)

/-- The values are those of the options of a rule, in their order. -/
def AreOptionValues (fields values : Entries) : Prop :=
  List.Forall₂ (fun field value => value.1 = field.1 ∧ IsHeld field.2 value.2) fields values

/-- The name of an option can be kept: it is trimmed and holds no hyphens. -/
structure IsKeptName (name : String) : Prop where
  trimmed : trimmed name = name
  no_hyphen : '-' ∉ name.toList

/-- The key spells a name, with hyphens for any of its underscores. -/
def IsSpelling (name key : String) : Prop :=
  List.Forall₂ (fun c d => d = c ∨ c = '_' ∧ d = '-') name.toList key.toList

/-- The entries write values, each under a spelling of its name. -/
def AreSpelled (values written : Entries) : Prop :=
  List.Forall₂ (fun value entry => IsSpelling value.1 entry.1 ∧ entry.2 = value.2) values written

/-- The table of a rule holds the entries, and beside them no severity or one that is
accepted. -/
inductive IsTableOf (written : Entries) : Entries → Prop where
  | plain :
      IsTableOf written written
  | graded {before after : Entries} {setting : String} {v : Value} {severity : Severity}
      (hwritten : written = before ++ after) (hv : readSeverity setting v = .ok severity) :
      IsTableOf written (before ++ ("severity", v) :: after)

theorem IsHeld.isReadAs {default v : Value} (h : IsHeld default v) :
  IsReadAs default v v
  := by
  cases h with
  | bool default b => exact .bool default b
  | int default hn => exact .int default hn
  | texts default hts =>
      rename_i ts
      have hread := IsReadAs.texts default ts
      rw [List.map_congr_left hts, List.map_id'] at hread
      exact hread

theorem optionName_eq (key : String) :
  optionName key = trimmed (String.ofList (replaceChar '-' '_' key.toList))
  := by
  have hblank : ∀ c, isBlank (if c = '-' then '_' else c) = isBlank c := by
    intro c
    split
    · rename_i h
      rw [h]
      decide
    · rfl
  rw [optionName, trimmed, String.toList_ofList, replaceChar, replaceChar, trim_map hblank]

/-- A spelling of a name is kept under this name. -/
theorem IsSpelling.optionName_eq {name key : String} (h : IsSpelling name key)
    (hname : IsKeptName name) :
  optionName key = name
  := by
  have hback : ∀ {s t : List Char}, List.Forall₂ (fun c d => d = c ∨ c = '_' ∧ d = '-') s t →
      '-' ∉ s → replaceChar '-' '_' t = s := by
    intro s t hst
    induction hst with
    | nil => exact fun _ => rfl
    | cons hcd _ ih =>
        intro hno
        rw [List.mem_cons, not_or] at hno
        rw [replaceChar, List.map_cons, ← replaceChar, ih hno.2]
        rcases hcd with rfl | ⟨rfl, rfl⟩
        · rw [if_neg (Ne.symm hno.1)]
        · rfl
  rw [SourceAudit.optionName_eq, hback h hname.no_hyphen, String.ofList_toList, hname.trimmed]

theorem optionName_severity :
  optionName "severity" = "severity"
  := by decide +kernel

section

variable {fields values written own : Entries}

/-- Entries that spell values are kept as these values. -/
theorem AreSpelled.map_optionName_eq (h : AreSpelled values written)
    (hnames : ∀ value ∈ values, IsKeptName value.1) :
  written.map (fun entry => (optionName entry.1, entry.2)) = values
  := by
  induction h with
  | nil => rfl
  | cons hentry _ ih =>
      obtain ⟨hname, hrest⟩ := List.forall_mem_cons.mp hnames
      rw [List.map_cons, ih hrest, hentry.1.optionName_eq hname, hentry.2]

theorem AreOptionValues.keys_eq (h : AreOptionValues fields values) :
  values.map (·.1) = fields.map (·.1)
  := by
  induction h with
  | nil => rfl
  | cons hvalue _ ih => rw [List.map_cons, List.map_cons, ih, hvalue.1]

/-- What holds of the names of all options holds of the names of values. -/
theorem AreOptionValues.forall_key (h : AreOptionValues fields values) {p : String → Prop}
    (hfields : ∀ field ∈ fields, p field.1) :
  ∀ value ∈ values, p value.1
  := by
  intro value hvalue
  have hkey : value.1 ∈ fields.map (·.1) := by
    rw [← h.keys_eq]
    exact List.mem_map_of_mem hvalue
  obtain ⟨field, hfield, hsame⟩ := List.mem_map.mp hkey
  rw [← hsame]
  exact hfields field hfield

/-- No option is spelled like the severity unless it has its name. -/
theorem AreSpelled.severity_not_mem (h : AreSpelled values written)
    (hnames : ∀ value ∈ values, IsKeptName value.1)
    (hseverity : "severity" ∉ values.map (·.1)) :
  "severity" ∉ written.map (·.1)
  := by
  intro hmem
  obtain ⟨entry, hentry, hkey⟩ := List.mem_map.mp hmem
  apply hseverity
  rw [← h.map_optionName_eq hnames, List.map_map]
  apply List.mem_map.mpr
  use entry, hentry
  rw [Function.comp_apply, hkey, optionName_severity]

theorem IsTableOf.filter_eq (h : IsTableOf written own)
    (hseverity : "severity" ∉ written.map (·.1)) :
  own.filter (fun entry => entry.1 ≠ "severity") = written
  := by
  have hkept : written.filter (fun entry => entry.1 ≠ "severity") = written := by
    rw [List.filter_eq_self]
    intro entry hentry
    rw [decide_eq_true_iff]
    rintro heq
    exact hseverity (heq ▸ List.mem_map_of_mem hentry)
  cases h with
  | plain => exact hkept
  | graded hwritten _ =>
      rw [hwritten, List.filter_append] at hkept
      rw [List.filter_append, List.filter_cons_of_neg (by simp), hkept, hwritten]

/-- The options that the table holds are the values that were written. -/
theorem IsTableOf.tableOptions_eq (h : IsTableOf written own) (hspelled : AreSpelled values written)
    (hnames : ∀ value ∈ values, IsKeptName value.1) (hseverity : "severity" ∉ written.map (·.1))
    (hnodup : (values.map (·.1)).Nodup) :
  tableOptions own = values
  := by
  have hmap := hspelled.map_optionName_eq hnames
  rw [tableOptions, h.filter_eq hseverity, keptOptions_of_nodup, hmap]
  have hkeys : written.map (fun entry => optionName entry.1) = values.map (·.1) := by
    rw [← hmap, List.map_map]
    rfl
  rw [hkeys]
  exact hnodup

/-- The severity beside the options is read. -/
theorem IsTableOf.exists_readGrade (h : IsTableOf written own)
    (hseverity : "severity" ∉ written.map (·.1)) :
  ∃ severity, ∀ name, readGrade ⟨own, name⟩ = .ok severity
  := by
  cases h with
  | plain =>
      use none
      intro name
      rw [readGrade]
      dsimp only
      rw [get?_eq_none_of_not_mem hseverity]
      rfl
  | graded hwritten hv =>
      rename_i before after setting v severity
      use some severity
      apply readGrade_of_readSeverity hv
      apply List.lookup_eq_some_iff.mpr
      use before, after, rfl
      intro entry hentry
      rw [bne_iff_ne]
      intro hkey
      apply hseverity
      rw [hwritten, hkey]
      exact List.mem_map_of_mem (List.mem_append_left _ hentry)

/-! ### Reading them again -/

theorem Entries.put_append_cons {before after : Entries} {key : String}
    (h : key ∉ before.map (·.1)) (old new : Value) :
  Entries.put (before ++ (key, old) :: after) key new = before ++ (key, new) :: after
  := by
  induction before with
  | nil => exact if_pos rfl
  | cons entry before ih =>
      obtain ⟨k, v⟩ := entry
      rw [List.map_cons, List.mem_cons, not_or] at h
      rw [List.cons_append, Entries.put, if_neg (Ne.symm h.1), ih h.2]
      rfl

/-- Values that options can have take the places of the defaults one after another. -/
theorem readOptionsInto_of_areOptionValues {later : Entries} (h : AreOptionValues later values)
    (hnames : ∀ value ∈ values, IsKeptName value.1)
    (hfields : ∀ field ∈ later, fields.get? field.1 = some field.2) (setting : String)
    (before : Entries) (hnodup : ((before ++ later).map (·.1)).Nodup) :
  readOptionsInto fields setting (before ++ later) values = .ok (before ++ values)
  := by
  induction h generalizing before with
  | nil => rfl
  | @cons field value later values hvalue _ ih =>
      obtain ⟨name, v⟩ := value
      obtain ⟨rfl, hheld⟩ := hvalue
      obtain ⟨hname, hrest⟩ := List.forall_mem_cons.mp hnames
      obtain ⟨hget, hlater⟩ := List.forall_mem_cons.mp hfields
      have hown : optionName field.1 = field.1 :=
        IsSpelling.optionName_eq (List.forall₂_same.mpr fun c _ => .inl rfl) hname
      have hnew := not_mem_keys_of_nodup_append hnodup
      rw [readOptionsInto_cons_of_isReadAs (by rw [hown]; exact hget) hheld.isReadAs, hown,
        Entries.put_append_cons hnew, List.append_cons, ih hrest hlater, ← List.append_cons]
      rw [← List.append_cons]
      simpa using hnodup

theorem readOptions_of_areOptionValues (h : AreOptionValues fields values)
    (hnodup : (fields.map (·.1)).Nodup) (hnames : ∀ value ∈ values, IsKeptName value.1)
    (setting : String) :
  readOptions fields setting values = .ok values
  := by
  have hfields : ∀ field ∈ fields, fields.get? field.1 = some field.2 :=
    fun field hfield => get?_of_mem hnodup hfield
  exact readOptionsInto_of_areOptionValues h hnames hfields setting [] hnodup

/-! ### Names of rules -/

/-- The values that the options of a rule have after others were written in its table. The table
of a rule whose name has a line feed is never found. -/
def heldOptions (rule : String) (fields values : Entries) : Entries :=
  if '\n' ∈ rule.toList then fields else values

/-- A rule name that is trimmed is an identifier. -/
theorem isIdentifier_trimmed_of_isRuleName {rule : String} (h : isRuleName rule = true) :
  IsIdentifier (trimmed rule).toList
  := by
  rw [trimmed, String.toList_ofList]
  rcases (isRuleNameChars_iff rule.toList).mp h with hname | ⟨name, hname, heq⟩
  · rw [hname.trim_eq]
    exact hname
  · rw [heq, trim_append_of_blank_right name (by decide), hname.trim_eq]
    exact hname

theorem isIdentifier_iff_of_isRuleName {rule : String} (h : isRuleName rule = true) :
  IsIdentifier rule.toList ↔ '\n' ∉ rule.toList
  := by
  constructor
  · exact fun hname => hname.not_mem (by decide)
  · intro hno
    rcases (isRuleNameChars_iff rule.toList).mp h with hname | ⟨name, -, heq⟩
    · exact hname
    · rw [heq] at hno
      exact absurd (List.mem_append_right name (List.mem_singleton_self _)) hno

/-- Nothing is ever set for a name with a line feed: settings are kept under identifiers. -/
theorem ruleSettings_of_line_feed {table : Entries} {config : Config}
    (h : Config.ofTable table = .ok config) {rule : String} (hfeed : '\n' ∈ rule.toList) :
  config.ruleSettings rule = {}
  := by
  have hnormal := ((ofTable_eq_ok_iff table config).mp h).isNormal
  have hnone : config.settings.lookup rule = none := by
    rw [List.lookup_eq_none_iff]
    intro entry hentry
    rw [bne_iff_ne]
    rintro rfl
    exact (hnormal.rules entry hentry).1.not_mem (by decide) hfeed
  rw [Config.ruleSettings, hnone]
  rfl

theorem options_of_line_feed {r : Rule} (hfeed : '\n' ∈ r.id.toList) {table : Entries}
    {config : Config} (h : Config.ofTable table = .ok config) :
  r.options config = .ok r.fields
  := by
  rw [Rule.options, ruleSettings_of_line_feed h hfeed]
  rfl

/-- The settings that the table of one rule leads to, when nothing else is set. -/
theorem ofTable_ruleTable {rule : String} (hrule : isRuleName rule = true)
    (henable : rule ≠ "enable") (hdisable : rule ≠ "disable") {severity : Option Severity}
    (hgrade : ∀ name, readGrade ⟨own, name⟩ = .ok severity) :
  Config.ofTable [("rules", .table [(rule, .table own)])]
    = .ok { settings := [(trimmed rule, ⟨severity, tableOptions own⟩)] }
  := by
  have hkeys : ruleKeys [(rule, .table own)] = [rule] := by
    rw [ruleKeys, List.map_cons, List.map_nil, List.filter_cons_of_pos, List.filter_nil]
    rw [Bool.and_eq_true, decide_eq_true_iff, decide_eq_true_iff]
    exact ⟨henable, hdisable⟩
  have hread : ∀ name, readRuleTable ⟨[(rule, .table own)], name⟩ rule
      = .ok (trimmed rule, ⟨severity, tableOptions own⟩) := by
    intro name
    rw [readRuleTable_eq_ok_iff]
    use ⟨own, Section.setting ⟨[(rule, .table own)], name⟩ rule⟩, severity
    have hname := (isIdentifier_trimmed_of_isRuleName hrule).isRuleName
    use child_of_table (List.lookup_cons_self), hname, hgrade _
  have hother : ∀ key ≠ rule, Entries.get? [(rule, .table own)] key = none := by
    intro key hne
    apply get?_eq_none_of_not_mem
    simpa using hne
  have hrules : rulesSection [("rules", .table [(rule, .table own)])]
      = ⟨[(rule, .table own)], "tool.avesta.rules"⟩ := rfl
  rw [ofTable_eq_ok_iff]
  constructor
  · rfl
  · rfl
  · have hdefault : readEnabling ⟨[], "tool.avesta.rules"⟩ = .ok (.word "all") := rfl
    rw [hrules, ← hdefault]
    exact readEnabling_congr (hother "enable" (Ne.symm henable)) _
  · use []
    constructor
    · rw [hrules, Section.texts, hother "disable" (Ne.symm hdisable)]
    · rfl
  · have htable : rulesTable [("rules", .table [(rule, .table own)])] = [(rule, .table own)] := rfl
    rw [hrules, htable, hkeys, readRuleTables, hread]
    rfl
  · exact ⟨_, rfl, rfl⟩
  · exact ⟨_, rfl, rfl⟩
  · rfl

end

/-- Options are read exactly from tables whose entries are all options of the rule, under any
spelling of their names, with values of their kinds; else the first entry that is not is at
fault. The last entry of an option counts, and an option without one keeps its default.

So the values of options that are written as the table of a rule, with a severity beside them
or without, are those that the settings of the project give the rule again, whatever else they
hold. Only a rule whose name ends with a line feed keeps its defaults, whatever is written. -/
theorem readOptions_of_isOptionClass {fields : Entries} (h : IsOptionClass fields) :
  (∀ setting raw,
    ((∃ values, readOptions fields setting raw = .ok values)
      ↔ ∀ entry ∈ raw, Fits fields entry)
    ∧ (∀ fault, readOptions fields setting raw = .error fault
      ↔ IsFirstOptionFault fields setting raw fault)
    ∧ ∀ values, readOptions fields setting raw = .ok values →
      AreReadOver fields fields raw values)
  ∧ (∀ (r : Rule) values written own, r.fields = fields →
    (∀ field ∈ fields, IsKeptName field.1 ∧ field.1 ≠ "severity") →
    AreOptionValues fields values → AreSpelled values written → IsTableOf written own →
    isRuleName r.id = true → r.id ≠ "enable" → r.id ≠ "disable" →
    (∃ config, Config.ofTable [("rules", .table [(r.id, .table own)])] = .ok config
      ∧ r.options config = .ok (heldOptions r.id fields values))
    ∧ ∀ table config, Config.ofTable table = .ok config →
      ownTable (rulesTable table) r.id = own →
      r.options config = .ok (heldOptions r.id fields values))
  ∧ ∀ (r : Rule) table config, r.fields = fields → '\n' ∈ r.id.toList →
    Config.ofTable table = .ok config → r.options config = .ok fields
  := by
  refine ⟨?_, ?_, ?_⟩
  · intro setting raw
    use exists_readOptions_iff h raw, readOptions_eq_error_iff h raw
    exact fun values hread => areReadOver_of_readOptions h hread
  · intro r values written own hr hfields hvalues hspelled htable hrule henable hdisable
    have hkept : ∀ value ∈ values, IsKeptName value.1 :=
      hvalues.forall_key fun field hfield => (hfields field hfield).1
    have hseverity : "severity" ∉ values.map (·.1) := by
      rw [hvalues.keys_eq]
      intro hmem
      obtain ⟨field, hfield, hname⟩ := List.mem_map.mp hmem
      exact (hfields field hfield).2 hname
    have hwritten := hspelled.severity_not_mem hkept hseverity
    have hoptions := htable.tableOptions_eq hspelled hkept hwritten (hvalues.keys_eq ▸ h.nodup)
    have hread := readOptions_of_areOptionValues hvalues h.nodup hkept (ruleTableName r.id)
    obtain ⟨severity, hgrade⟩ := htable.exists_readGrade hwritten
    have hown := ofTable_ruleTable hrule henable hdisable hgrade
    by_cases hfeed : '\n' ∈ r.id.toList
    · rw [heldOptions, if_pos hfeed, ← hr]
      exact ⟨⟨_, hown, options_of_line_feed hfeed hown⟩,
        fun table config hconfig _ => options_of_line_feed hfeed hconfig⟩
    · have hname := (isIdentifier_iff_of_isRuleName hrule).mpr hfeed
      rw [heldOptions, if_neg hfeed]
      constructor
      · use { settings := [(trimmed r.id, ⟨severity, tableOptions own⟩)] }, hown
        rw [Rule.options, Config.ruleSettings, hname.trimmed_eq, List.lookup_cons_self, hr,
          Option.getD_some, hoptions]
        exact hread
      · intro table config hconfig howned
        have hfrom := (ofTable_eq_ok_iff table config).mp hconfig
        rw [Rule.options, options_of_isReadFrom hname hfrom henable hdisable, howned, hoptions, hr]
        exact hread
  · intro r table config hr hfeed hconfig
    rw [← hr]
    exact options_of_line_feed hfeed hconfig

/-- Three options, one of each kind, are written with a severity between them and are read
again; of entries with two faults the first is reported. -/
theorem readOptions_of_three_kinds :
  let fields : Entries := [("max_depth", .int 1), ("strict", .bool false), ("names", .list [])]
  let values : Entries :=
    [("max_depth", .int 3), ("strict", .bool true), ("names", .ofTexts ["a", "b c"])]
  let own : Entries :=
    [("max-depth", .int 3), ("severity", .text " Warning "), ("strict", .bool true),
      ("names", .ofTexts ["a", "b c"])]
  let about : RuleMeta := ⟨"no-todo", "", "", .warn, ["typescript"]⟩
  let r : Rule := .plugin about fields fun _ => .found []
  IsOptionClass fields
  ∧ (∃ config, Config.ofTable [("rules", .table [("no-todo", .table own)])] = .ok config
    ∧ r.options config = .ok values)
  ∧ readOptions fields "o" [(" max-depth", .int 0), ("strict", .int 1), ("depth", .null)]
    = .error (.notBoolean "o.strict")
  := by
  intro fields values own about r
  have hclass : IsOptionClass fields := by
    constructor
    · decide
    · simp [fields, Value.IsOptionDefault]
  have hnames : ∀ field ∈ fields, IsKeptName field.1 ∧ field.1 ≠ "severity" := by
    have hkept : ∀ field ∈ fields, (trimmed field.1 = field.1 ∧ '-' ∉ field.1.toList)
        ∧ field.1 ≠ "severity" := by decide +kernel
    exact fun field hfield => ⟨⟨(hkept field hfield).1.1, (hkept field hfield).1.2⟩,
      (hkept field hfield).2⟩
  have hheld : AreOptionValues fields values := by
    refine .cons ⟨rfl, .int 1 (by decide)⟩ (.cons ⟨rfl, .bool false true⟩ (.cons ⟨rfl, ?_⟩ .nil))
    exact .texts [] (by decide +kernel)
  have hspelled : AreSpelled values
      [("max-depth", .int 3), ("strict", .bool true), ("names", .ofTexts ["a", "b c"])] := by
    refine .cons ⟨?_, rfl⟩ (.cons ⟨?_, rfl⟩ (.cons ⟨?_, rfl⟩ .nil))
    all_goals
      rw [IsSpelling]
      decide
  have hgrade : readSeverity "severity" (.text " Warning ") = .ok .warn := by rfl
  have htable : IsTableOf _ ([("max-depth", .int 3)] ++ ("severity", .text " Warning ")
      :: [("strict", .bool true), ("names", .ofTexts ["a", "b c"])]) := .graded rfl hgrade
  obtain ⟨hread, hwritten, -⟩ := readOptions_of_isOptionClass hclass
  refine ⟨hclass, ?_, ?_⟩
  · have hread := (hwritten r values _ own rfl hnames hheld hspelled htable (by decide) (by decide)
      (by decide)).1
    rw [heldOptions, if_neg (by decide)] at hread
    exact hread
  · apply ((hread "o" _).2.1 _).mpr
    use [(" max-depth", .int 0)], ("strict", .int 1), [("depth", .null)], rfl
    constructor
    · intro e he
      rw [List.mem_singleton.mp he]
      exact ⟨.int 1, .int 0, by rfl, .int 1 le_rfl⟩
    · have hfault : IsValueFault "o.strict" (.bool false) (.int 1) (.notBoolean "o.strict") :=
        .notBoolean false nofun
      exact .value (by rfl) hfault

/-- A rule whose name ends with a line feed keeps its default when another value is written in
its table, and takes a table with an option that it does not have. -/
theorem options_not_held_of_line_feed :
  let about : RuleMeta := ⟨"a\n", "", "", .warn, ["typescript"]⟩
  let limited : Rule := .plugin about [("x", .int 1)] fun _ => .found []
  let plain : Rule := .plugin about [] fun _ => .found []
  isRuleName about.id = true
  ∧ AreOptionValues limited.fields [("x", .int 5)]
  ∧ ∃ config, Config.ofTable [("rules", .table [("a\n", .table [("x", .int 5)])])] = .ok config
    ∧ limited.options config = .ok [("x", .int 1)]
    ∧ plain.options config = .ok []
    ∧ ¬ Fits plain.fields ("x", .int 5)
  := by
  intro about limited plain
  use by decide, .cons ⟨rfl, .int 1 (by decide)⟩ .nil
  have hconfig : Config.ofTable [("rules", .table [("a\n", .table [("x", .int 5)])])]
      = .ok { settings := [(trimmed "a\n", ⟨none, tableOptions [("x", .int 5)]⟩)] } :=
    ofTable_ruleTable (by decide) (by decide) (by decide) fun name => rfl
  have hlimited : '\n' ∈ limited.id.toList := by decide
  have hplain : '\n' ∈ plain.id.toList := by decide
  refine ⟨_, hconfig, options_of_line_feed hlimited hconfig, options_of_line_feed hplain hconfig, ?_⟩
  rintro ⟨default, -, hget, -⟩
  cases hget

end SourceAudit
