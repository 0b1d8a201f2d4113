import SourceAudit.Proofs.Config.Reading
import SourceAudit.Proofs.Text.Small

/-!
# Which rules a table of settings enables

The words of a setting that lists rules are the texts between its commas, trimmed. A table
selects all rules when nothing or a blank text is set, or when one of the words is `all` in
any case, and otherwise the rules that are named; an empty list selects none. It drops rules
by the same words. The rules that accepted settings enable are those that the table selects
and does not drop.
-/

namespace SourceAudit

open Text

/-! ### What is written -/

/-- The texts that a setting is written with: one, or those of a list. -/
def Value.writtenTexts : Value → List String
  | .text t => [t]
  | v => v.texts?.getD []

theorem writtenTexts_of_texts? {v : Value} {texts : List String} (h : v.texts? = some texts) :
  v.writtenTexts = texts
  := by
  obtain rfl := (texts?_eq_some_iff v texts).mp h
  rw [Value.writtenTexts, h, Option.getD_some]
  nofun

/-- The value is a blank text. -/
def Value.IsBlank (v : Value) : Prop :=
  ∃ t, v = .text t ∧ isBlankText t.toList = true

/-- The word is `all`, in any case. -/
def IsAll (word : String) : Prop :=
  word.toList.map Char.toLower = "all".toList

/-- One of the words between the commas of the texts is the rule, or stands for all. -/
def NamesRule (texts : List String) (rule : String) : Prop :=
  ∃ t ∈ texts, ∃ word, Lists t.toList word ∧ (IsAll word ∨ word = rule)

/-- The table selects the rule. -/
def Selects (table : Entries) (rule : String) : Prop :=
  ∀ v, (rulesTable table).get? "enable" = some v →
    v.IsBlank ∨ NamesRule v.writtenTexts rule

/-- The table drops the rule. -/
def Drops (table : Entries) (rule : String) : Prop :=
  ∃ v, (rulesTable table).get? "disable" = some v ∧ NamesRule v.writtenTexts rule

/-! ### Words -/

theorem standsForAll_iff (word : String) :
  standsForAll word = true ↔ IsAll word
  := by
  have hletters : ("all".toList.all fun c => decide (IsPlainSmall c)) = true := by decide +kernel
  have hplain : ∀ c ∈ "all".toList, IsPlainSmall c :=
    fun c hc => of_decide_eq_true (List.all_eq_true.mp hletters c hc)
  rw [standsForAll, beq_iff_eq, small, IsAll, ← smallFrom_eq_iff hplain [], ← String.toList_inj,
    String.toList_ofList]

/-- An identifier stands for all rules only when it is `all`. -/
theorem not_isAll_of_isIdentifier {rule : String} (hrule : IsIdentifier rule.toList)
    (hall : rule ≠ "all") :
  ¬ IsAll rule
  := by
  rw [← standsForAll_iff, standsForAll, beq_iff_eq, small, smallFrom_of_isRuleChar hrule.2,
    String.ofList_toList]
  exact hall

theorem commaWords_eq_flatMap (texts : List String) :
  commaWords texts = texts.flatMap fun t => (listItems t.toList).map String.ofList
  := by
  rw [commaWords, List.filter_flatMap, List.map_flatMap]
  rfl

theorem mem_commaWords_iff (texts : List String) (word : String) :
  word ∈ commaWords texts ↔ ∃ t ∈ texts, Lists t.toList word
  := by
  simp only [commaWords_eq_flatMap, List.mem_flatMap, lists_iff]

/-- Blanks around texts do not change their words. -/
theorem commaWords_map_trimmed (texts : List String) :
  commaWords (texts.map trimmed) = commaWords texts
  := by
  simp only [commaWords_eq_flatMap, List.flatMap_map, trimmed, String.toList_ofList,
    listItems_trim]

theorem ruleWords_eq_ok_iff (setting : String) (texts words : List String) :
  ruleWords setting texts = .ok words
    ↔ words = commaWords texts
      ∧ ∀ word ∈ words, IsAll word ∨ isRuleName word = true
  := by
  have hgood : ∀ word, (!(standsForAll word || isRuleName word)) = false
      ↔ IsAll word ∨ isRuleName word = true := by
    intro word
    rw [Bool.not_eq_false', Bool.or_eq_true, standsForAll_iff]
  rw [ruleWords]
  cases hfind : (commaWords texts).find? fun w => !(standsForAll w || isRuleName w) with
  | some word =>
      have hmem := List.mem_of_find?_eq_some hfind
      have hbad := List.find?_some hfind
      constructor
      · intro h
        cases h
      · rintro ⟨rfl, hall⟩
        rw [(hgood word).mpr (hall word hmem)] at hbad
        cases hbad
  | none =>
      have hall := List.find?_eq_none.mp hfind
      constructor
      · intro h
        cases h
        use rfl
        intro word hword
        apply (hgood word).mp
        rw [← Bool.not_eq_true]
        exact hall word hword
      · rintro ⟨rfl, -⟩
        rfl

/-- A text without a comma is one word, unless it is blank. -/
theorem commaWords_of_not_mem {t : String} (h : ',' ∉ t.toList) :
  commaWords [t] = if isBlankText t.toList = true then [] else [trimmed t]
  := by
  have hpieces : pieces ',' t.toList = [t.toList] := pieces_of_not_mem h
  rw [commaWords, List.flatMap_singleton, hpieces, isBlankText_eq_isEmpty_trim, trimmed]
  cases htrim : trim t.toList with
  | nil => simp [htrim]
  | cons c s => simp [htrim]

theorem names_commaWords_iff (texts : List String) (rule : String) :
  (∃ word ∈ commaWords texts, IsAll word ∨ word = rule) ↔ NamesRule texts rule
  := by
  simp only [mem_commaWords_iff, NamesRule]
  constructor
  · rintro ⟨word, ⟨t, ht, hword⟩, h⟩
    exact ⟨t, ht, word, hword, h⟩
  · rintro ⟨t, ht, word, hword, h⟩
    exact ⟨word, ⟨t, ht, hword⟩, h⟩

/-! ### Reading -/

/-- An enabling that is read from one text. -/
theorem words_of_text {setting t : String} {words : List String}
    (h : ruleWords setting [t] = .ok words) :
  (if t.toList.contains ',' then Enabling.tokens words
      else Enabling.word (words.head?.getD "all")).words
    = if isBlankText t.toList = true then ["all"] else commaWords [t]
  := by
  obtain ⟨rfl, -⟩ := (ruleWords_eq_ok_iff _ _ _).mp h
  by_cases hcomma : ',' ∈ t.toList
  · have hblank : ¬ isBlankText t.toList = true :=
      fun hblank => not_mem_of_isBlankText isBlank_comma hblank hcomma
    rw [if_pos (List.contains_iff_mem.mpr hcomma), if_neg hblank]
    rfl
  · rw [if_neg (by simpa using hcomma), commaWords_of_not_mem hcomma]
    split
    · rfl
    · rfl

/-- The words of an enabling are those that are written, and `all` for a blank text. -/
theorem words_of_readEnabling {s : Section} {enable : Enabling}
    (h : readEnabling s = .ok enable) {v : Value}
    (hv : (s.entries.get? "enable").getD (.text "all") = v) :
  (v.IsBlank ∧ enable.words = ["all"])
  ∨ (¬ v.IsBlank ∧ enable.words = commaWords v.writtenTexts)
  := by
  rw [readEnabling, hv] at h
  split at h
  · rename_i t
    obtain ⟨words, hwords, hresult⟩ := (bind_eq_ok_iff _ _ _).mp h
    cases hresult
    rw [words_of_text hwords]
    by_cases hblank : isBlankText t.toList = true
    · left
      rw [if_pos hblank]
      exact ⟨⟨t, rfl, hblank⟩, rfl⟩
    · right
      rw [if_neg hblank]
      refine ⟨?_, rfl⟩
      rintro ⟨t', ht', hblank'⟩
      cases ht'
      exact hblank hblank'
  · rename_i hno
    split at h
    · rename_i texts htexts
      right
      constructor
      · rintro ⟨t, ht, -⟩
        exact hno t ht
      · rw [writtenTexts_of_texts? htexts]
        cases hwords : ruleWords (s.setting "enable") texts with
        | error fault =>
            rw [hwords] at h
            cases h
        | ok words =>
            rw [hwords] at h
            cases h
            exact ((ruleWords_eq_ok_iff _ _ _).mp hwords).1
    · cases h

/-- The enabling of a table names the rules that the table selects. -/
theorem names_words_iff_selects {table : Entries} {enable : Enabling}
    (h : readEnabling (rulesSection table) = .ok enable) (rule : String) :
  (∃ word ∈ enable.words, IsAll word ∨ word = rule) ↔ Selects table rule
  := by
  rw [Selects]
  cases hget : (rulesTable table).get? "enable" with
  | none =>
      have hwords : enable.words = ["all"] := by
        rcases words_of_readEnabling h (by rw [rulesSection, hget, Option.getD_none]) with
          ⟨-, hwords⟩ | ⟨-, hwords⟩
        · exact hwords
        · rw [hwords]
          decide +kernel
      constructor
      · intro _ v hv
        cases hv
      · intro _
        rw [hwords]
        exact ⟨"all", List.mem_singleton_self _, Or.inl rfl⟩
  | some v =>
      have hv : ((rulesSection table).entries.get? "enable").getD (.text "all") = v := by
        rw [rulesSection, hget, Option.getD_some]
      simp only [Option.some.injEq, forall_eq']
      rcases words_of_readEnabling h hv with ⟨hblank, hwords⟩ | ⟨hblank, hwords⟩
      · rw [hwords]
        simp only [hblank, true_or, iff_true]
        exact ⟨"all", List.mem_singleton_self _, Or.inl rfl⟩
      · simp only [hwords, hblank, false_or, names_commaWords_iff]

/-- These texts are written for the rules to be dropped; there are none without a list. -/
def WritesDropped (table : Entries) (written : List String) : Prop :=
  (rulesTable table).get? "disable" = some (.list (written.map .text))
  ∨ written = [] ∧ ∀ v ∈ (rulesTable table).get? "disable", v = .null

/-- Accepted settings drop the words of the texts that are written for it. -/
theorem exists_writesDropped {config : Config} {table : Entries} (h : config.IsReadFrom table) :
  ∃ written, WritesDropped table written ∧ config.disable = commaWords written
    ∧ ∀ word ∈ config.disable, IsAll word ∨ isRuleName word = true
  := by
  obtain ⟨texts, htexts, hwords⟩ := h.disable
  obtain ⟨written, rfl, hwritten⟩ := (texts_eq_ok_iff _ _ _).mp htexts
  obtain ⟨hdisable, hnames⟩ := (ruleWords_eq_ok_iff _ _ _).mp hwords
  rw [commaWords_map_trimmed] at hdisable
  exact ⟨written, hwritten, hdisable, hnames⟩

/-- A table drops the rules that the texts name. -/
theorem drops_iff {table : Entries} {written : List String} (h : WritesDropped table written)
    (rule : String) :
  Drops table rule ↔ NamesRule written rule
  := by
  rw [Drops]
  rcases h with hlist | ⟨rfl, hnull⟩
  · have hwritten : Value.writtenTexts (.list (written.map .text)) = written :=
      writtenTexts_of_texts? ((texts?_eq_some_iff _ _).mpr rfl)
    rw [hlist]
    simp [hwritten]
  · constructor
    · rintro ⟨v, hv, t, ht, -⟩
      rw [hnull v hv] at ht
      cases ht
    · rintro ⟨t, ht, -⟩
      cases ht

/-- The words that drop rules name those that the table drops. -/
theorem names_disable_iff_drops {config : Config} {table : Entries} (h : config.IsReadFrom table)
    (rule : String) :
  (∃ word ∈ config.disable, IsAll word ∨ word = rule) ↔ Drops table rule
  := by
  obtain ⟨written, hwritten, hdisable, -⟩ := exists_writesDropped h
  rw [hdisable, names_commaWords_iff, drops_iff hwritten]

/-! ### Enabled rules -/

theorem enables_iff (config : Config) (rule : String) :
  config.enables rule = true
    ↔ (∃ word ∈ config.enable.words, IsAll word ∨ word = rule)
      ∧ ¬ ∃ word ∈ config.disable, IsAll word ∨ word = rule
  := by
  have hnames : ∀ words : List String,
      (words.any standsForAll || words.contains rule) = true
        ↔ ∃ word ∈ words, IsAll word ∨ word = rule := by
    intro words
    simp only [Bool.or_eq_true, List.any_eq_true, standsForAll_iff, List.contains_iff_mem,
      and_or_left, exists_or, exists_eq_right]
  rw [Config.enables, Bool.and_eq_true, hnames, Bool.not_eq_true', ← Bool.not_eq_true, hnames]

/-- Accepted settings enable the rules that their table selects and does not drop. -/
theorem enables_iff_of_ofTable {table : Entries} {config : Config}
    (h : Config.ofTable table = .ok config) (rule : String) :
  config.enables rule = true ↔ Selects table rule ∧ ¬ Drops table rule
  := by
  have hread := (ofTable_eq_ok_iff table config).mp h
  rw [enables_iff, names_words_iff_selects hread.enable, names_disable_iff_drops hread]

end SourceAudit
