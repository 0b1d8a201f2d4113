import SourceAudit.Proofs.Config.Editing
import Mathlib.Data.List.Nodup

/-!
# Settings in normal form

Whatever table settings are read from, they come out in one form. Texts are trimmed, and those
that list rules hold nothing but `all`, in any case, and names of rules. Severities are those of
the common scale. Extensions are small and begin with a dot. A rule has one entry, and so has an
option of a rule, under the name that it is kept by.
-/

namespace SourceAudit

open Text

/-! ### Words of rule lists -/

/-- The word may stand in a list of rules: it stands for all of them, or is the name of one. -/
def IsRuleWord (word : String) : Prop :=
  IsAll word ∨ IsIdentifier word.toList

theorem isRuleWord_of_mem {setting : String} {texts words : List String}
    (h : ruleWords setting texts = .ok words) :
  ∀ word ∈ words, IsRuleWord word
  := by
  obtain ⟨rfl, hwords⟩ := (ruleWords_eq_ok_iff _ _ _).mp h
  intro word hword
  rcases hwords word hword with hall | hname
  · exact Or.inl hall
  · right
    rw [commaWords_eq_flatMap, List.mem_flatMap] at hword
    obtain ⟨t, -, hword⟩ := hword
    obtain ⟨item, hitem, rfl⟩ := List.mem_map.mp hword
    rw [isRuleName, String.toList_ofList] at hname
    rw [String.toList_ofList]
    exact (isRuleNameChars_iff_of_mem hitem).mp hname

theorem isRuleWord_all :
  IsRuleWord "all"
  := Or.inl rfl

/-- No character of a word that stands for all rules is blank or a comma. -/
theorem not_blank_of_isAll {word : String} (h : IsAll word) {c : Char} (hc : c ∈ word.toList) :
  isBlank c = false ∧ c ≠ ','
  := by
  have hsmall : c.toLower ∈ "all".toList := by
    rw [← h]
    exact List.mem_map_of_mem hc
  by_cases hcapital : c ≥ 'A' ∧ c ≤ 'Z'
  · have hlow : 65 ≤ c.toNat := hcapital.1
    have hhigh : c.toNat ≤ 90 := hcapital.2
    constructor
    · rw [isBlank]
      simp only [Bool.or_eq_false_iff, Bool.and_eq_false_iff, decide_eq_false_iff_not,
        beq_eq_false_iff_ne]
      omega
    · rintro rfl
      exact absurd hlow (by decide)
  · have hletters : ("all".toList.all fun d => !isBlank d && d != ',') = true := by
      decide +kernel
    have hsame : c.toLower = c := dif_neg hcapital
    rw [hsame] at hsmall
    simpa using List.all_eq_true.mp hletters c hsmall

theorem IsRuleWord.not_blank {word : String} (h : IsRuleWord word) {c : Char}
    (hc : c ∈ word.toList) :
  isBlank c = false ∧ c ≠ ','
  := by
  rcases h with hall | hname
  · exact not_blank_of_isAll hall hc
  · exact ⟨isBlank_of_isRuleChar (hname.2 c hc), ne_of_isRuleChar (hname.2 c hc) (by decide)⟩

theorem IsRuleWord.ne_nil {word : String} (h : IsRuleWord word) :
  word.toList ≠ []
  := by
  rcases h with hall | hname
  · intro hnil
    rw [IsAll, hnil] at hall
    cases hall
  · exact hname.1

theorem IsRuleWord.trimmed_eq {word : String} (h : IsRuleWord word) :
  trimmed word = word
  := by
  rw [trimmed, trim_of_not_blank fun c hc => (h.not_blank hc).1, String.ofList_toList]

theorem IsRuleWord.isBlankText_eq {word : String} (h : IsRuleWord word) :
  isBlankText word.toList = false
  := by
  rw [isBlankText_eq_isEmpty_trim, trim_of_not_blank fun c hc => (h.not_blank hc).1,
    List.isEmpty_eq_false_iff]
  exact h.ne_nil

theorem IsRuleWord.not_mem_comma {word : String} (h : IsRuleWord word) :
  ',' ∉ word.toList
  := fun hc => (h.not_blank hc).2 rfl

/-- Words of a list of rules are read as they stand. -/
theorem ruleWords_of_isRuleWord {words : List String} (h : ∀ word ∈ words, IsRuleWord word)
    (setting : String) :
  ruleWords setting words = .ok words
  := by
  rw [ruleWords_eq_ok_iff]
  constructor
  · rw [commaWords_eq_flatMap]
    have hown : ∀ word ∈ words, (listItems word.toList).map String.ofList = [word] := by
      intro word hword
      have hone := commaWords_of_not_mem (h word hword).not_mem_comma
      rw [(h word hword).isBlankText_eq, (h word hword).trimmed_eq, if_neg nofun] at hone
      rw [← hone, commaWords_eq_flatMap, List.flatMap_singleton]
    rw [List.flatMap_congr hown, List.flatMap_singleton']
  · intro word hword
    rcases h word hword with hall | hname
    · exact Or.inl hall
    · exact Or.inr hname.isRuleName

/-! ### Names of options -/

theorem trim_toList_of_trimmed_eq {t : String} (h : trimmed t = t) :
  trim t.toList = t.toList
  := by
  have hlist := congrArg String.toList h
  rw [trimmed, String.toList_ofList] at hlist
  exact hlist

theorem trimmed_trimmed (t : String) :
  trimmed (trimmed t) = trimmed t
  := by
  rw [trimmed, trimmed, String.toList_ofList, trim_trim]

theorem isBlank_underscore :
  isBlank '_' = false
  := by decide +kernel

theorem optionName_optionName (key : String) :
  optionName (optionName key) = optionName key
  := by
  have htrim : trim (replaceChar '-' '_' (trim key.toList))
      = replaceChar '-' '_' (trim key.toList) := by
    apply trim_map_of_trim_eq
    · intro c hc
      split
      · exact isBlank_underscore
      · exact hc
    · exact trim_trim _
  rw [optionName, optionName, String.toList_ofList, htrim]
  apply congrArg String.ofList
  rw [replaceChar, replaceChar, List.map_map]
  apply List.map_congr_left
  intro c _
  rw [Function.comp_apply]
  by_cases hc : c = '-'
  · rw [if_pos hc]
    rfl
  · rw [if_neg hc, if_neg hc]

/-- A trimmed key that is kept under a name without underscores is this name. -/
theorem eq_of_optionName_eq {key name : String} (hkey : trimmed key = key)
    (hname : '_' ∉ name.toList) (h : optionName key = name) :
  key = name
  := by
  subst h
  rw [optionName, String.toList_ofList, trim_toList_of_trimmed_eq hkey] at hname
  rw [optionName, trim_toList_of_trimmed_eq hkey]
  have hsame : replaceChar '-' '_' key.toList = key.toList := by
    conv_rhs => rw [← List.map_id key.toList]
    apply List.map_congr_left
    intro c hc
    rw [if_neg, id]
    rintro rfl
    exact hname (List.mem_map.mpr ⟨'-', hc, rfl⟩)
  rw [hsame, String.ofList_toList]

/-- No key stands twice when one is added that was not there. -/
theorem nodup_with {keys : List String} (h : keys.Nodup) (key : String) :
  (if key ∈ keys then keys else keys ++ [key]).Nodup
  := by
  split
  · exact h
  · rename_i hkey
    rw [← List.concat_eq_append]
    exact List.Nodup.concat hkey h

theorem nodup_keys_put {entries : Entries} (h : (entries.map (·.1)).Nodup) (key : String)
    (v : Value) :
  ((entries.put key v).map (·.1)).Nodup
  := by
  rw [keys_put]
  exact nodup_with h key

theorem mem_keys_put_iff (entries : Entries) (key : String) (v : Value) (name : String) :
  name ∈ (entries.put key v).map (·.1) ↔ name = key ∨ name ∈ entries.map (·.1)
  := by
  rw [keys_put]
  split
  · rename_i hkey
    constructor
    · exact Or.inr
    · rintro (rfl | hname)
      · exact hkey
      · exact hname
  · rw [List.mem_append, List.mem_singleton, or_comm]

/-- Options that are kept already, and those of entries after them. -/
def keptFrom (kept entries : Entries) : Entries :=
  entries.foldl (fun kept entry => kept.put (optionName entry.1) entry.2) kept

theorem keptOptions_eq_keptFrom (entries : Entries) :
  keptOptions entries = keptFrom [] entries
  := rfl

theorem keptFrom_cons (kept : Entries) (entry : String × Value) (rest : Entries) :
  keptFrom kept (entry :: rest) = keptFrom (kept.put (optionName entry.1) entry.2) rest
  := rfl

theorem nodup_keys_keptFrom {kept : Entries} (h : (kept.map (·.1)).Nodup) (entries : Entries) :
  ((keptFrom kept entries).map (·.1)).Nodup
  := by
  induction entries generalizing kept with
  | nil => exact h
  | cons entry rest ih =>
      rw [keptFrom_cons]
      exact ih (nodup_keys_put h _ _)

theorem nodup_keys_keptOptions (entries : Entries) :
  ((keptOptions entries).map (·.1)).Nodup
  := by
  rw [keptOptions_eq_keptFrom]
  apply nodup_keys_keptFrom
  exact List.nodup_nil

theorem mem_keys_keptFrom_iff (kept entries : Entries) (name : String) :
  name ∈ (keptFrom kept entries).map (·.1)
    ↔ name ∈ kept.map (·.1) ∨ ∃ key ∈ entries.map (·.1), optionName key = name
  := by
  induction entries generalizing kept with
  | nil => simp [keptFrom]
  | cons entry rest ih =>
      rw [keptFrom_cons, ih, mem_keys_put_iff]
      simp only [List.map_cons, List.mem_cons, exists_eq_or_imp]
      rw [or_comm (a := name = optionName entry.1), or_assoc, eq_comm (a := name)]

/-- Options are kept under the names of their keys. -/
theorem mem_keys_keptOptions_iff (entries : Entries) (name : String) :
  name ∈ (keptOptions entries).map (·.1) ↔ ∃ key ∈ entries.map (·.1), optionName key = name
  := by
  rw [keptOptions_eq_keptFrom, mem_keys_keptFrom_iff]
  simp

/-! ### Extensions -/

/-- The text is a trimmed extension: it is small, and begins with a dot. -/
structure IsExtension (e : String) : Prop where
  trimmed : trimmed e = e
  small : small e = e
  dotted : ['.'] <+: e.toList

theorem IsExtension.ne_empty {e : String} (h : IsExtension e) :
  e ≠ ""
  := by
  rintro rfl
  have hnil := List.prefix_nil.mp h.dotted
  cases hnil

theorem isExtension_of_readExtension? {t e : String} (ht : trimmed t = t)
    (h : readExtension? t = some e) :
  IsExtension e
  := by
  have htrim := trim_smallFrom (trim_toList_of_trimmed_eq ht) []
  rw [readExtension?] at h
  split at h
  · cases h
  · rename_i hne
    split at h
    · rename_i hdot
      cases h
      constructor
      · rw [trimmed, small, String.toList_ofList, htrim]
      · exact small_small t
      · exact (startsWith_iff _ _).mp hdot
    · cases h
      have htext : ("." ++ small t).toList = '.' :: smallFrom [] t.toList := by
        have hform : (small t).toList = smallFrom [] t.toList := String.toList_ofList
        rw [String.toList_append, hform]
        rfl
      have hdot : isBlank '.' = false ∧ IsSmall '.' := by decide +kernel
      constructor
      · rw [trimmed, htext, trim_cons_of_trim_eq hdot.1 htrim, ← htext, String.ofList_toList]
      · rw [small, htext, smallFrom_of_isSmall, ← htext, String.ofList_toList]
        rw [List.forall_mem_cons]
        exact ⟨hdot.2, fun c hc => isSmall_of_mem_smallFrom hc⟩
      · rw [htext]
        exact ⟨_, rfl⟩

theorem readExtension?_of_isExtension {e : String} (h : IsExtension e) :
  readExtension? e = some e
  := by
  rw [readExtension?, h.small]
  rw [if_neg h.ne_empty, if_pos ((startsWith_iff _ _).mpr h.dotted)]

/-! ### Severities -/

/-- The severities that settings can name, from the least serious. -/
def Severity.scale : List Severity := [.info, .warn, .error]

theorem mem_scale_of_readSeverity {setting : String} {v : Value} {severity : Severity}
    (h : readSeverity setting v = .ok severity) :
  severity ∈ Severity.scale
  := by
  obtain ⟨⟨t, rfl⟩, -⟩ := readSeverity_of_ok h setting
  rw [readSeverity] at h
  split at h
  all_goals first | cases h; decide | cases h

theorem mem_scale_of_readGrade {sub : Section} {severity? : Option Severity}
    (h : readGrade sub = .ok severity?) :
  ∀ severity ∈ severity?, severity ∈ Severity.scale
  := by
  rw [readGrade] at h
  generalize (sub.entries.get? "severity").getD .null = v at h
  split at h
  · cases h
    intro severity hnone
    cases hnone
  · cases hread : readSeverity (sub.setting "severity") v with
    | error fault =>
        rw [hread] at h
        cases h
    | ok severity =>
        rw [hread] at h
        cases h
        intro severity' hsome
        cases hsome
        exact mem_scale_of_readSeverity hread

/-! ### Settings of single rules -/

/-- The settings of a rule are in normal form. -/
structure RuleSettings.IsNormal (own : RuleSettings) : Prop where
  severity : ∀ severity ∈ own.severity, severity ∈ Severity.scale
  nodup : (own.options.map (·.1)).Nodup
  options : ∀ name ∈ own.options.map (·.1), optionName name = name

theorem isNormal_of_readRuleTable {s : Section} {key : String} {entry : String × RuleSettings}
    (h : readRuleTable s key = .ok entry) :
  IsIdentifier entry.1.toList ∧ entry.2.IsNormal
  := by
  obtain ⟨sub, severity, -, hname, hgrade, rfl⟩ := (readRuleTable_eq_ok_iff _ _ _).mp h
  constructor
  · apply (isRuleNameChars_iff_of_trim_eq _).mp hname
    exact trim_toList_of_trimmed_eq (trimmed_trimmed key)
  · constructor
    · exact mem_scale_of_readGrade hgrade
    · apply nodup_keys_keptOptions
    · intro name hmem
      obtain ⟨written, -, rfl⟩ := (mem_keys_keptOptions_iff _ _).mp hmem
      exact optionName_optionName written

/-- The rules with settings in which those of a rule are put: the same, or the rule after them. -/
theorem keys_putSettings (settings : List (String × RuleSettings)) (rule : String)
    (new : RuleSettings) :
  (putSettings settings rule new).map (·.1)
    = if rule ∈ settings.map (·.1) then settings.map (·.1) else settings.map (·.1) ++ [rule]
  := by
  induction settings with
  | nil => simp [putSettings]
  | cons entry rest ih =>
      obtain ⟨r, old⟩ := entry
      rw [putSettings]
      by_cases hr : r = rule
      · simp [hr]
      · rw [if_neg hr, List.map_cons, ih]
        simp only [List.map_cons, List.mem_cons, Ne.symm hr, false_or]
        split
        · rfl
        · rfl

theorem mem_putSettings {settings : List (String × RuleSettings)} {rule : String}
    {new : RuleSettings} {entry : String × RuleSettings}
    (h : entry ∈ putSettings settings rule new) :
  entry = (rule, new) ∨ entry ∈ settings
  := by
  induction settings with
  | nil => exact Or.inl (List.mem_singleton.mp h)
  | cons first rest ih =>
      obtain ⟨r, old⟩ := first
      rw [putSettings] at h
      split at h
      · rename_i hr
        rcases List.mem_cons.mp h with rfl | h
        · exact Or.inl (by rw [hr])
        · exact Or.inr (List.mem_cons_of_mem _ h)
      · rcases List.mem_cons.mp h with rfl | h
        · exact Or.inr (List.mem_cons_self ..)
        · rcases ih h with rfl | h
          · exact Or.inl rfl
          · exact Or.inr (List.mem_cons_of_mem _ h)

/-- Settings of rules that are read come from the table of one of the keys. -/
theorem exists_readRuleTable_of_mem {s : Section} {before settings : List (String × RuleSettings)}
    {keys : List String} (h : readRuleTables s before keys = .ok settings)
    {entry : String × RuleSettings} (hmem : entry ∈ settings) :
  entry ∈ before ∨ ∃ key ∈ keys, readRuleTable s key = .ok entry
  := by
  induction keys generalizing before with
  | nil =>
      cases h
      exact Or.inl hmem
  | cons key keys ih =>
      rw [readRuleTables] at h
      split at h
      · cases h
      · rename_i rule new hread
        rcases ih h with hbefore | ⟨key', hkey', hread'⟩
        · rcases mem_putSettings hbefore with rfl | hbefore
          · exact Or.inr ⟨key, List.mem_cons_self .., hread⟩
          · exact Or.inl hbefore
        · exact Or.inr ⟨key', List.mem_cons_of_mem _ hkey', hread'⟩

theorem nodup_of_readRuleTables {s : Section} {before settings : List (String × RuleSettings)}
    {keys : List String} (h : readRuleTables s before keys = .ok settings)
    (hbefore : (before.map (·.1)).Nodup) :
  (settings.map (·.1)).Nodup
  := by
  induction keys generalizing before with
  | nil =>
      cases h
      exact hbefore
  | cons key keys ih =>
      rw [readRuleTables] at h
      split at h
      · cases h
      · rename_i rule new hread
        apply ih h
        rw [keys_putSettings]
        exact nodup_with hbefore rule

/-! ### Settings of reviews -/

/-- The settings of reviews are in normal form. -/
structure ReviewSettings.IsNormal (review : ReviewSettings) : Prop where
  model : ∀ model ∈ review.model, model ≠ "" ∧ trimmed model = model
  prompts : ∀ prompt ∈ review.prompts, trimmed prompt = prompt
  extensions : ∀ e ∈ review.extensions, IsExtension e
  timeout : 0 < review.timeout

/-- Texts that are read are trimmed, when those that stand for none are. -/
theorem trimmed_of_texts {s : Section} {key : String} {default texts : List String}
    (h : s.texts key default = .ok texts) (hdefault : ∀ t ∈ default, trimmed t = t) :
  ∀ t ∈ texts, trimmed t = t
  := by
  rw [Section.texts] at h
  split at h
  · obtain ⟨written, rfl, -⟩ := (trimmedTexts_eq_ok_iff _ _ _).mp h
    intro t ht
    obtain ⟨t', -, rfl⟩ := List.mem_map.mp ht
    exact trimmed_trimmed t'
  · cases h
    exact hdefault

theorem trimmed_of_text? {s : Section} {key : String} {t? : Option String}
    (h : s.text? key = .ok t?) :
  ∀ t ∈ t?, t ≠ "" ∧ trimmed t = t
  := by
  rw [Section.text?] at h
  generalize (s.entries.get? key).getD .null = v at h
  intro t ht
  split at h
  · cases h
    cases ht
  · rename_i written
    obtain rfl := Except.ok.inj h
    split at ht
    · cases ht
    · rename_i hne
      obtain rfl := Option.mem_some.mp ht
      exact ⟨hne, trimmed_trimmed written⟩
  · cases h

theorem pos_of_seconds {s : Section} {key : String} {default n : Int}
    (h : s.seconds key default = .ok n) (hdefault : 0 < default) :
  0 < n
  := by
  rw [Section.seconds] at h
  split at h
  · cases h
    exact hdefault
  · split at h
    · rename_i hpos
      cases h
      exact hpos
    · cases h
  · cases h

theorem readReview_eq_ok_iff (s : Section) (review : ReviewSettings) :
  readReview s = .ok review
    ↔ ∃ extensions, s.texts "extensions" [".ts", ".tsx"] = .ok extensions
      ∧ s.text? "model" = .ok review.model
      ∧ s.texts "prompts" ["code-review"] = .ok review.prompts
      ∧ s.seconds "timeout" 60 = .ok review.timeout
      ∧ review.extensions = extensions.filterMap readExtension?
  := by
  rw [readReview]
  simp only [bind_eq_ok_iff]
  constructor
  · rintro ⟨extensions, hextensions, model, hmodel, prompts, hprompts, timeout, htimeout, h⟩
    cases h
    exact ⟨extensions, hextensions, hmodel, hprompts, htimeout, rfl⟩
  · rintro ⟨extensions, hextensions, hmodel, hprompts, htimeout, h⟩
    refine ⟨extensions, hextensions, _, hmodel, _, hprompts, _, htimeout, ?_⟩
    rw [← h]
    rfl

theorem isNormal_of_readReview {s : Section} {review : ReviewSettings}
    (h : readReview s = .ok review) :
  review.IsNormal
  := by
  obtain ⟨extensions, hextensions, hmodel, hprompts, htimeout, hkept⟩ :=
    (readReview_eq_ok_iff _ _).mp h
  constructor
  · exact trimmed_of_text? hmodel
  · exact trimmed_of_texts hprompts (by decide +kernel)
  · intro e he
    rw [hkept] at he
    obtain ⟨t, ht, hread⟩ := List.mem_filterMap.mp he
    exact isExtension_of_readExtension?
      (trimmed_of_texts hextensions (by decide +kernel) t ht) hread
  · exact pos_of_seconds htimeout (by decide)

/-! ### Settings -/

/-- The settings of a project are in normal form. -/
structure Config.IsNormal (config : Config) : Prop where
  enable : ∀ word ∈ config.enable.words, IsRuleWord word
  disable : ∀ word ∈ config.disable, IsRuleWord word
  nodup : (config.settings.map (·.1)).Nodup
  rules : ∀ entry ∈ config.settings, IsIdentifier entry.1.toList ∧ entry.2.IsNormal
  ignorePaths : ∀ path ∈ config.ignorePaths, trimmed path = path
  review : config.review.IsNormal
  plugins : ∀ plugin ∈ config.plugins, trimmed plugin = plugin

theorem isRuleWord_of_readEnabling {s : Section} {enable : Enabling}
    (h : readEnabling s = .ok enable) :
  ∀ word ∈ enable.words, IsRuleWord word
  := by
  rw [readEnabling] at h
  split at h
  · obtain ⟨words, hwords, hresult⟩ := (bind_eq_ok_iff _ _ _).mp h
    have hrule := isRuleWord_of_mem hwords
    cases hresult
    split
    · exact hrule
    · intro word hword
      obtain rfl := List.mem_singleton.mp hword
      cases words with
      | nil => exact isRuleWord_all
      | cons first rest => exact hrule first (List.mem_cons_self ..)
  · split at h
    · rename_i texts htexts
      cases hwords : ruleWords (s.setting "enable") texts with
      | error fault =>
          rw [hwords] at h
          cases h
      | ok words =>
          rw [hwords] at h
          cases h
          exact isRuleWord_of_mem hwords
    · cases h

/-- Accepted settings are in normal form. -/
theorem Config.IsReadFrom.isNormal {config : Config} {table : Entries}
    (h : config.IsReadFrom table) :
  config.IsNormal
  := by
  obtain ⟨texts, -, hdisable⟩ := h.disable
  obtain ⟨ignore, -, hpaths⟩ := h.ignorePaths
  obtain ⟨sub, -, hreview⟩ := h.review
  constructor
  · exact isRuleWord_of_readEnabling h.enable
  · exact isRuleWord_of_mem hdisable
  · exact nodup_of_readRuleTables h.settings List.nodup_nil
  · intro entry hentry
    rcases exists_readRuleTable_of_mem h.settings hentry with hnone | ⟨key, -, hread⟩
    · cases hnone
    · exact isNormal_of_readRuleTable hread
  · exact trimmed_of_texts hpaths nofun
  · exact isNormal_of_readReview hreview
  · exact trimmed_of_texts h.plugins nofun

end SourceAudit
