import SourceAudit.Proofs.Directive.RuleList
import SourceAudit.Proofs.Terminal.Table
import SourceAudit.Proofs.Value.Json
import SourceAudit.Report.Rules
import Mathlib.Data.List.Forall2

/-!
# What reports of rules show

As JSON, rules are listed in order, each with all that is said of it. On the screen they are the
rows of a table, whose first column has their names. A rule cannot stand in the table when it is
enabled with a severity that no colour stands for, or when a closing tag in its title or its
languages has nothing to close.
-/

namespace SourceAudit.Report

open Text Terminal

/-! ### As JSON -/

/-- The value tells all of a rule. -/
structure HoldsRule (s : RuleSummary) (v : Value) : Prop where
  id : v.get? "rule_id" = some (.text s.about.id)
  title : v.get? "title" = some (.text s.about.title)
  description : v.get? "description" = some (.text s.about.description)
  standard : v.get? "default_severity" = some (.text s.about.severity.name)
  severity : v.get? "severity" = some (.text s.severity.name)
  enabled : v.get? "enabled" = some (.bool s.enabled)
  languages : v.get? "languages" = some (.list (s.about.languages.map .text))

theorem holdsRule_ruleEntries (s : RuleSummary) :
  HoldsRule s (.table (ruleEntries s))
  where
  id := rfl
  title := rfl
  description := rfl
  standard := rfl
  severity := rfl
  enabled := rfl
  languages := rfl

theorem isPlain_ruleEntries (s : RuleSummary) :
  Json.IsPlain (.table (ruleEntries s))
  := by
  apply Json.IsPlain.table (by simp [ruleEntries])
  simp only [ruleEntries, List.forall_mem_cons]
  refine ⟨.text _, .text _, .text _, .text _, .text _, .bool _, ?_, by simp⟩
  apply Json.IsPlain.list
  rw [List.forall_mem_map]
  exact fun language _ => .text language

/-- JSON lists the rules in order. -/
theorem exists_parse_rulesJson (summaries : List RuleSummary) :
  ∃ items, Json.parse (rulesJson summaries) = .ok (.list items)
    ∧ List.Forall₂ HoldsRule summaries items
  := by
  refine ⟨_, Json.parse_spread (Json.IsPlain.list ?_), ?_⟩
  · rw [List.forall_mem_map]
    exact fun s _ => isPlain_ruleEntries s
  · rw [List.forall₂_map_right_iff, List.forall₂_same]
    exact fun s _ => holdsRule_ruleEntries s

/-! ### Labels -/

/-- The tags of the label close what is open. -/
def IsLabel (label : String) : Prop :=
  ∃ shown, shownLabel label = .ok shown

theorem suffix_of_readTagEnd {s tag rest : List Char} (h : readTagEnd s = some (tag, rest)) :
  rest <:+ s
  := by
  induction s generalizing tag with
  | nil => cases h
  | cons c s ih =>
      rw [readTagEnd] at h
      split at h
      · cases h
        exact List.suffix_cons c _
      · split at h
        · cases h
        · obtain ⟨⟨t, rest'⟩, hread, heq⟩ := Option.map_eq_some_iff.mp h
          cases heq
          exact (ih hread).trans (List.suffix_cons c s)

theorem exists_of_readTag? {s tag rest : List Char} (h : readTag? s = some (tag, rest)) :
  ∃ c t u, s = '[' :: c :: u ∧ tag = c :: t ∧ rest <:+ u
  := by
  rw [readTag?.eq_def] at h
  split at h
  · rename_i c u
    split at h
    · obtain ⟨⟨t, rest'⟩, hread, heq⟩ := Option.map_eq_some_iff.mp h
      cases heq
      exact ⟨c, t, u, rfl, rfl, suffix_of_readTagEnd hread⟩
    · cases h
  · cases h

theorem head?_of_tagName_eq_cons {tag name : List Char} {c : Char} (h : tagName tag = c :: name) :
  tag.head? = some c
  := by
  cases tag with
  | nil => cases h
  | cons d tag =>
      rw [tagName, List.takeWhile_cons] at h
      split at h
      · rw [(List.cons.inj h).1, List.head?_cons]
      · cases h

/-- A closing tag of a label begins with a bracket and a slash. -/
theorem infix_of_mem_labelPieces {budget : Nat} {before s name : List Char}
    (h : .tag ('/' :: name) ∈ labelPieces budget before s) :
  ['[', '/'] <:+: s
  := by
  induction budget generalizing before s with
  | zero => simp [labelPieces] at h
  | succ budget ih =>
      cases s with
      | nil => simp [labelPieces] at h
      | cons c s =>
          rw [labelPieces] at h
          dsimp only at h
          split at h
          · exact (ih h).trans (List.suffix_cons c s).isInfix
          · rename_i tag rest hread
            obtain ⟨d, t, u, hdrop, rfl, hsuffix⟩ := exists_of_readTag? hread
            have hend := List.drop_suffix ((c :: s).takeWhile (· = '\\')).length (c :: s)
            rw [hdrop] at hend
            rcases List.mem_append.mp h with h | h
            · have hname : '/' :: name = tagName (d :: t) := by
                rw [List.mem_cons] at h
                rcases h with h | h
                · cases h
                · split at h
                  · simp at h
                  · simpa using h
              have hslash : d = '/' := Option.some_inj.mp (head?_of_tagName_eq_cons hname.symm)
              rw [hslash] at hend
              exact ((List.prefix_append ['[', '/'] u).isInfix).trans hend.isInfix
            · have hrest := hsuffix.trans ((List.suffix_cons d u).trans (List.suffix_cons '[' _))
              exact (ih h).trans (hrest.trans hend).isInfix

theorem checkTags_of_no_closing {pieces : List Piece} (h : ∀ name, .tag ('/' :: name) ∉ pieces)
    (opened : List String) :
  checkTags opened pieces = .ok ()
  := by
  fun_induction checkTags opened pieces with
  | case1 opened => rfl
  | case2 opened text rest ih => exact ih fun name hname => h name (List.mem_cons_of_mem _ hname)
  | case3 => exact absurd List.mem_cons_self (h _)
  | case4 => exact absurd List.mem_cons_self (h _)
  | case5 => exact absurd List.mem_cons_self (h _)
  | case6 => exact absurd List.mem_cons_self (h _)
  | case7 opened name rest hno ih =>
      exact ih fun name hname => h name (List.mem_cons_of_mem _ hname)

/-- A label without closing tags can be shown. -/
theorem isLabel_of_no_closing {label : String} (h : ¬ ['[', '/'] <:+: label.toList) :
  IsLabel label
  := by
  rw [IsLabel, shownLabel]
  dsimp only
  split
  · rw [checkTags_of_no_closing fun name hname => h (infix_of_mem_labelPieces hname)]
    exact ⟨_, rfl⟩
  · exact ⟨_, rfl⟩

theorem shownLabel_of_not_mem {label : String} (hbracket : '[' ∉ label.toList)
    (hcolon : ':' ∉ label.toList) :
  shownLabel label = .ok label.toList
  := by
  have hpictures := withPictures_append_of_not_mem hcolon []
  rw [List.append_nil] at hpictures
  rw [shownLabel, if_neg (by simpa using hbracket), hpictures]
  exact congrArg Except.ok (List.append_nil _)

/-! ### As a screen -/

/-- The rule can stand in the table: it has a colour if it is enabled, and its labels can be
shown. -/
structure IsShowable (s : RuleSummary) : Prop where
  severity : s.enabled = true → ∀ name, s.severity ≠ .other name
  languages : IsLabel (joinWith ", " s.about.languages)
  title : IsLabel s.about.title

/-- A rule without closing tags can stand in the table when it has one of the three severities. -/
theorem isShowable_of_no_closing {s : RuleSummary}
    (hseverity : ∀ name, s.severity ≠ .other name)
    (hlanguages : ¬ ['[', '/'] <:+: (joinWith ", " s.about.languages).toList)
    (htitle : ¬ ['[', '/'] <:+: s.about.title.toList) :
  IsShowable s
  where
  severity := fun _ => hseverity
  languages := isLabel_of_no_closing hlanguages
  title := isLabel_of_no_closing htitle

theorem colourless?_eq_none_iff (summaries : List RuleSummary) :
  colourless? summaries = none
    ↔ ∀ s ∈ summaries, s.enabled = true → ∀ name, s.severity ≠ .other name
  := by
  rw [colourless?, List.findSome?_eq_none_iff]
  apply forall₂_congr
  intro s _
  cases s.severity <;> simp

/-- The name of a rule in the table: without the line feed it may end with, and cut off when it
takes more cells than the screen has for it. -/
def shownName (id : String) : List Char :=
  cutOff 153 (trim id.toList)

/-- A list of results without a fault holds the result of each entry. -/
theorem mapM_eq_ok_iff {ε α β : Type} {f : α → Except ε β} {as : List α} {bs : List β} :
  as.mapM f = .ok bs ↔ List.Forall₂ (fun a b => f a = .ok b) as bs
  := by
  induction as generalizing bs with
  | nil =>
      rw [List.mapM_nil, List.forall₂_nil_left_iff]
      exact ⟨fun h => (Except.ok.inj h).symm, fun h => congrArg Except.ok h.symm⟩
  | cons a as ih =>
      rw [List.mapM_cons, List.forall₂_cons_left_iff]
      constructor
      · intro h
        cases ha : f a with
        | error e =>
            rw [ha] at h
            cases h
        | ok b =>
            cases has : as.mapM f with
            | error e =>
                rw [ha, has] at h
                cases h
            | ok bs' =>
                rw [ha, has] at h
                exact ⟨b, bs', rfl, ih.mp has, (Except.ok.inj h).symm⟩
      · rintro ⟨b, bs', ha, has, rfl⟩
        rw [ha, ih.mpr has]
        rfl

theorem exists_mapM_eq_ok_iff {ε α β : Type} {f : α → Except ε β} {as : List α} :
  (∃ bs, as.mapM f = .ok bs) ↔ ∀ a ∈ as, ∃ b, f a = .ok b
  := by
  simp only [mapM_eq_ok_iff]
  induction as with
  | nil => simp
  | cons a as ih =>
      rw [List.forall_mem_cons, ← ih]
      constructor
      · rintro ⟨bs, hall⟩
        cases hall with
        | cons hb hbs => exact ⟨⟨_, hb⟩, _, hbs⟩
      · rintro ⟨⟨b, hb⟩, bs, hbs⟩
        exact ⟨b :: bs, .cons hb hbs⟩

theorem isWordCell_of_isRuleName {id : String} (h : isRuleName id = true) :
  IsWordCell (trim id.toList) id.toList
  := by
  have hword {name : List Char} (h : IsIdentifier name) : IsAsciiWord name := by
    refine ⟨h.1, ?_⟩
    intro c hc
    have hrange := toNat_of_isRuleChar (h.2 c hc)
    omega
  rcases (isRuleNameChars_iff id.toList).mp h with hid | ⟨name, hid, hfed⟩
  · rw [hid.trim_eq]
    exact ⟨hword hid, Or.inl rfl⟩
  · rw [hfed, trim_append_of_blank_right name (by decide), hid.trim_eq]
    exact ⟨hword hid, Or.inr rfl⟩

theorem isRuleChar_or_eq_of_isRuleName {id : String} (h : isRuleName id = true) {c : Char}
    (hc : c ∈ id.toList) :
  isRuleChar c = true ∨ c = '\n'
  := by
  rcases (isRuleNameChars_iff id.toList).mp h with hid | ⟨name, hid, hfed⟩
  · exact Or.inl (hid.2 c hc)
  · rw [hfed, List.mem_append, List.mem_singleton] at hc
    exact hc.imp_left (hid.2 c)

theorem withoutControls_of_isRuleName {id : String} (h : isRuleName id = true) :
  withoutControls id.toList = id.toList
  := by
  rw [withoutControls, List.filter_eq_self]
  intro c hc
  rcases isRuleChar_or_eq_of_isRuleName h hc with hrule | rfl
  · have hrange := toNat_of_isRuleChar hrule
    simp
    omega
  · decide

theorem shownLabel_of_isRuleName {id : String} (h : isRuleName id = true) :
  shownLabel id = .ok id.toList
  := by
  have hnot {c : Char} (hrule : isRuleChar c = false) (hfeed : c ≠ '\n') : c ∉ id.toList := by
    intro hc
    rcases isRuleChar_or_eq_of_isRuleName h hc with hc | hc
    · rw [hrule] at hc
      cases hc
    · exact hfeed hc
  apply shownLabel_of_not_mem
  · exact hnot (by decide) (by decide)
  · exact hnot (by decide) (by decide)

/-- A rule has a row when its labels can be shown, and its name is the first cell. -/
theorem ruleRow_eq_ok_iff {s : RuleSummary} (hname : isRuleName s.about.id = true) (row : Row) :
  ruleRow s = .ok row ↔ ∃ languages title,
    shownLabel (joinWith ", " s.about.languages) = .ok languages
    ∧ shownLabel s.about.title = .ok title
    ∧ row = s.about.id.toList
      :: [(shownSeverity s).toList, languages, title].map withoutControls
  := by
  have hid := withoutControls_of_isRuleName hname
  rw [ruleRow, shownLabel_of_isRuleName hname]
  cases shownLabel (joinWith ", " s.about.languages) with
  | error fault =>
      constructor
      · intro h
        cases h
      · rintro ⟨languages, title, hlanguages, -⟩
        cases hlanguages
  | ok languages =>
      cases shownLabel s.about.title with
      | error fault =>
          constructor
          · intro h
            cases h
          · rintro ⟨languages, title, -, htitle, -⟩
            cases htitle
      | ok title =>
          constructor
          · intro h
            refine ⟨languages, title, rfl, rfl, ?_⟩
            rw [← Except.ok.inj h, List.map_cons, hid]
          · rintro ⟨languages, title, hlanguages, htitle, rfl⟩
            cases hlanguages
            cases htitle
            show Except.ok (List.map _ _) = _
            rw [List.map_cons, hid]

section

variable {summaries : List RuleSummary} (hnames : ∀ s ∈ summaries, isRuleName s.about.id = true)

include hnames

/-- Rules can be shown in a table when each of them can stand in it. -/
theorem exists_rulesScreen_iff :
  (∃ lines, rulesScreen summaries = .ok lines) ↔ ∀ s ∈ summaries, IsShowable s
  := by
  have hrows : (∃ rows, summaries.mapM ruleRow = .ok rows) ↔ ∀ s ∈ summaries,
      IsLabel (joinWith ", " s.about.languages) ∧ IsLabel s.about.title := by
    rw [exists_mapM_eq_ok_iff]
    apply forall₂_congr
    intro s hs
    simp only [ruleRow_eq_ok_iff (hnames s hs)]
    constructor
    · rintro ⟨row, languages, title, hlanguages, htitle, -⟩
      exact ⟨⟨languages, hlanguages⟩, title, htitle⟩
    · rintro ⟨⟨languages, hlanguages⟩, title, htitle⟩
      exact ⟨_, languages, title, hlanguages, htitle, rfl⟩
  have hparts : (∃ lines, rulesScreen summaries = .ok lines)
      ↔ colourless? summaries = none ∧ ∃ rows, summaries.mapM ruleRow = .ok rows := by
    rw [rulesScreen]
    cases colourless? summaries with
    | some name => simp
    | none =>
        cases summaries.mapM ruleRow with
        | error fault => simp
        | ok rows => simp
  rw [hparts, hrows, colourless?_eq_none_iff]
  constructor
  · rintro ⟨hseverities, hlabels⟩ s hs
    exact ⟨hseverities s hs, (hlabels s hs).1, (hlabels s hs).2⟩
  · intro hshowable
    exact ⟨fun s hs => (hshowable s hs).severity,
      fun s hs => ⟨(hshowable s hs).languages, (hshowable s hs).title⟩⟩

/-- Under its headings the table lists the names of the rules in order. -/
theorem firstCells_rulesScreen {lines : Screen} (h : rulesScreen summaries = .ok lines) :
  firstCells lines = summaries.map fun s => shownName s.about.id
  := by
  rw [rulesScreen] at h
  split at h
  · cases h
  · split at h
    · cases h
    · rename_i rows hrows
      rw [← Except.ok.inj h]
      have hkeeps : Table.KeepsFirst ⟨"Avesta rules".toList, ruleColumns, rows⟩
          { heading := "Rule", keepWhole := true }
          [{ heading := "Severity" }, { heading := "Languages" }, { heading := "Title" }] := {
        columns := rfl
        whole := rfl
        breakable := by simp
        heading := by decide +kernel
        few := by decide }
      have hwords : List.Forall₂ (fun word row => ∃ cell cells, row = cell :: cells
          ∧ IsWordCell word cell) (summaries.map fun s => trim s.about.id.toList) rows := by
        rw [List.forall₂_map_left_iff]
        apply ((List.forall₂_and_left _ _).mpr ⟨hnames, mapM_eq_ok_iff.mp hrows⟩).imp
        rintro s row ⟨hname, hrow⟩
        obtain ⟨languages, title, -, -, rfl⟩ := (ruleRow_eq_ok_iff hname row).mp hrow
        exact ⟨_, _, rfl, isWordCell_of_isRuleName hname⟩
      have htitle : '│' ∉ "Avesta rules".toList := by decide
      have hcells := hkeeps.firstCells_shown htitle hwords
      rw [List.map_map] at hcells
      exact hcells

end

end SourceAudit.Report
