import SourceAudit.Config.Basic

/-!
# Settings that are accepted

A table of settings is accepted exactly when each of its parts is, and each part is read
from keys of its own: the rules from the table `rules`, the rest from the keys beside it.
-/

namespace SourceAudit

open Text

/-- A step after another succeeds exactly when both do. -/
theorem bind_eq_ok_iff {ε α β : Type} (x : Except ε α) (f : α → Except ε β) (b : β) :
  x >>= f = .ok b ↔ ∃ a, x = .ok a ∧ f a = .ok b
  := by
  cases x with
  | error e =>
      constructor
      · intro h
        cases h
      · rintro ⟨a, ha, -⟩
        cases ha
  | ok a =>
      constructor
      · intro h
        exact ⟨a, rfl, h⟩
      · rintro ⟨a', ha, h⟩
        cases ha
        exact h

/-! ### Lists of texts -/

theorem mapM_text?_eq_some_iff (items : List Value) (texts : List String) :
  items.mapM Value.text? = some texts ↔ items = texts.map .text
  := by
  induction items generalizing texts with
  | nil => simp [eq_comm]
  | cons item items ih =>
      rw [List.mapM_cons]
      cases item with
      | text t =>
          cases texts with
          | nil => simp [Value.text?, Option.bind_eq_some_iff]
          | cons t' texts =>
              simp only [Value.text?, Option.bind_eq_bind, Option.bind_some,
                Option.bind_eq_some_iff, ih, List.map_cons, List.cons.injEq, Value.text.injEq,
                pure, Option.some.injEq]
              constructor
              · rintro ⟨later, hlater, rfl, rfl⟩
                exact ⟨rfl, hlater⟩
              · rintro ⟨rfl, hlater⟩
                exact ⟨texts, hlater, rfl, rfl⟩
      | _ =>
          cases texts with
          | nil => simp [Value.text?]
          | cons t' texts => simp [Value.text?]

theorem texts?_eq_some_iff (v : Value) (texts : List String) :
  v.texts? = some texts ↔ v = .list (texts.map .text)
  := by
  cases v with
  | list items =>
      rw [Value.list.injEq, ← mapM_text?_eq_some_iff]
      rfl
  | _ => simp [Value.texts?, Value.list?]

theorem trimmedTexts_eq_ok_iff (setting : String) (v : Value) (texts : List String) :
  Section.trimmedTexts setting v = .ok texts
    ↔ ∃ written, texts = written.map trimmed
      ∧ (v = .list (written.map .text) ∨ written = [] ∧ v = .null)
  := by
  cases v with
  | null => simp [Section.trimmedTexts, eq_comm]
  | list items =>
      rw [Section.trimmedTexts.eq_def]
      dsimp only
      constructor
      · intro h
        split at h
        · rename_i written hitems
          cases h
          exact ⟨written, rfl, Or.inl ((texts?_eq_some_iff _ _).mp hitems)⟩
        · cases h
      · rintro ⟨written, rfl, hlist | ⟨-, hnull⟩⟩
        · rw [(texts?_eq_some_iff _ written).mpr hlist]
        · cases hnull
  | _ => simp [Section.trimmedTexts, Value.texts?, Value.list?]

/-- The texts of a key are those of a list, trimmed, or there are none. -/
theorem texts_eq_ok_iff (s : Section) (key : String) (texts : List String) :
  s.texts key [] = .ok texts
    ↔ ∃ written, texts = written.map trimmed
      ∧ (s.entries.get? key = some (.list (written.map .text))
        ∨ written = [] ∧ ∀ v ∈ s.entries.get? key, v = .null)
  := by
  rw [Section.texts]
  cases s.entries.get? key with
  | none => simp [eq_comm]
  | some v => simp [trimmedTexts_eq_ok_iff]

/-! ### The table of rules -/

/-- What a table of settings holds about rules. -/
def rulesTable (table : Entries) : Entries :=
  ((table.get? "rules").bind Value.table?).getD []

/-- The table of rules, under the name it goes by in messages. -/
def rulesSection (table : Entries) : Section :=
  ⟨rulesTable table, Section.setting ⟨table, "tool.avesta"⟩ "rules"⟩

/-- The keys of the tables of single rules, in order. -/
def ruleKeys (rules : Entries) : List String :=
  (rules.map (·.1)).filter fun key => key ≠ "enable" && key ≠ "disable"

theorem child_eq_ok_iff (s : Section) (key : String) (sub : Section) :
  s.child key = .ok sub
    ↔ sub = ⟨((s.entries.get? key).bind Value.table?).getD [], s.setting key⟩
      ∧ ∀ v, s.entries.get? key = some v → v = .null ∨ ∃ entries, v = .table entries
  := by
  rw [Section.child]
  cases s.entries.get? key with
  | none => simp [eq_comm]
  | some v =>
      cases v with
      | null => simp [Value.table?, eq_comm]
      | table entries => simp [Value.table?, eq_comm]
      | bool _ => simp
      | int _ => simp
      | decimal _ => simp
      | time _ => simp
      | text _ => simp
      | list _ => simp

/-! ### Keys that are read alike -/

theorem child_congr {entries entries' : Entries} {key : String}
    (h : entries'.get? key = entries.get? key) (name : String) :
  Section.child ⟨entries', name⟩ key = Section.child ⟨entries, name⟩ key
  := by
  rw [Section.child, Section.child, h]
  rfl

theorem texts_congr {entries entries' : Entries} {key : String}
    (h : entries'.get? key = entries.get? key) (name : String) (default : List String) :
  Section.texts ⟨entries', name⟩ key default = Section.texts ⟨entries, name⟩ key default
  := by
  rw [Section.texts, Section.texts, h]
  rfl

theorem readEnabling_congr {entries entries' : Entries}
    (h : entries'.get? "enable" = entries.get? "enable") (name : String) :
  readEnabling ⟨entries', name⟩ = readEnabling ⟨entries, name⟩
  := by
  rw [readEnabling, readEnabling, h]
  rfl

/-! ### All parts -/

/-- The settings are those that the parts of a table are read as. -/
structure Config.IsReadFrom (config : Config) (table : Entries) : Prop where
  languages : readLanguages ⟨table, "tool.avesta"⟩ = .ok config.languages
  rules : Section.child ⟨table, "tool.avesta"⟩ "rules" = .ok (rulesSection table)
  enable : readEnabling (rulesSection table) = .ok config.enable
  disable : ∃ texts, (rulesSection table).texts "disable" [] = .ok texts
    ∧ ruleWords ((rulesSection table).setting "disable") texts = .ok config.disable
  settings : readRuleTables (rulesSection table) [] (ruleKeys (rulesTable table))
    = .ok config.settings
  ignorePaths : ∃ sub, Section.child ⟨table, "tool.avesta"⟩ "ignore" = .ok sub
    ∧ sub.texts "paths" [] = .ok config.ignorePaths
  review : ∃ sub, Section.child ⟨table, "tool.avesta"⟩ "review" = .ok sub
    ∧ readReview sub = .ok config.review
  plugins : Section.texts ⟨table, "tool.avesta"⟩ "plugins" [] = .ok config.plugins

theorem ofTable_eq_ok_iff (table : Entries) (config : Config) :
  Config.ofTable table = .ok config ↔ config.IsReadFrom table
  := by
  rw [Config.ofTable]
  constructor
  · intro h
    simp only [bind_eq_ok_iff] at h
    obtain ⟨languages, hlanguages, rules, hrules, enable, henable, texts, htexts, disable,
      hdisable, settings, hsettings, ignore, hignore, paths, hpaths, sub, hsub, review,
      hreview, plugins, hplugins, hconfig⟩ := h
    cases hconfig
    obtain ⟨rfl, -⟩ := (child_eq_ok_iff _ _ _).mp hrules
    exact ⟨hlanguages, hrules, henable, ⟨texts, htexts, hdisable⟩, hsettings,
      ⟨ignore, hignore, hpaths⟩, ⟨sub, hsub, hreview⟩, hplugins⟩
  · intro h
    obtain ⟨texts, htexts, hdisable⟩ := h.disable
    obtain ⟨ignore, hignore, hpaths⟩ := h.ignorePaths
    obtain ⟨sub, hsub, hreview⟩ := h.review
    simp only [bind_eq_ok_iff]
    exact ⟨_, h.languages, _, h.rules, _, h.enable, _, htexts, _, hdisable, _, h.settings,
      _, hignore, _, hpaths, _, hsub, _, hreview, _, h.plugins, rfl⟩

end SourceAudit
