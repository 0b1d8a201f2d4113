import SourceAudit.Directive.RuleList
import SourceAudit.Proofs.Text.Occurrence
import SourceAudit.Proofs.Text.Pieces

/-!
# Reading rule lists

A rule list is read exactly when its commas are well placed, it has an item, and every
item is an identifier. Otherwise the first of these conditions that fails is the fault,
and for identifiers it is the first item that is none.
-/

namespace SourceAudit

open Text

/-- An identifier: small letters, digits and hyphens, at least one of them. -/
def IsIdentifier (name : List Char) : Prop :=
  name ≠ [] ∧ ∀ c ∈ name, isRuleChar c = true

theorem isIdentifier_iff_all (s : List Char) :
  IsIdentifier s ↔ s ≠ [] ∧ s.all isRuleChar = true
  := by
  rw [IsIdentifier, List.all_eq_true]

instance (s : List Char) : Decidable (IsIdentifier s) :=
  decidable_of_iff _ (isIdentifier_iff_all s).symm

/-- The trimmed list neither begins nor ends with a comma, and no two commas stand side
by side in it. -/
structure CommasFine (payload : List Char) : Prop where
  not_first : ¬ [','] <+: trim payload
  not_last : ¬ [','] <:+ trim payload
  not_paired : ¬ [',', ','] <:+: trim payload

/-! ### Commas -/

theorem isBlank_comma :
  isBlank ',' = false
  := by decide

theorem hasCommaPair_iff (s : List Char) :
  hasCommaPair s = true ↔ [',', ','] <:+: s
  := by
  fun_induction hasCommaPair s with
  | case1 s => simp [List.infix_cons_iff]
  | case2 c s hno ih =>
      rw [ih, List.infix_cons_iff]
      constructor
      · exact Or.inr
      · rintro (⟨t, ht⟩ | h)
        · obtain ⟨rfl, rfl⟩ := List.cons.inj ht
          exact absurd rfl (hno _ rfl)
        · exact h
  | case3 => simp

theorem commasMisplaced_trim_iff (payload : List Char) :
  commasMisplaced (trim payload) = true ↔ ¬ CommasFine payload
  := by
  rw [commasMisplaced, Bool.or_eq_true, Bool.or_eq_true, beq_iff_eq, beq_iff_eq,
    hasCommaPair_iff, ← List.singleton_prefix_iff_head?_eq_some,
    ← List.singleton_suffix_iff_getLast?_eq_some]
  constructor
  · rintro ((h | h) | h) hfine
    · exact hfine.not_first h
    · exact hfine.not_last h
    · exact hfine.not_paired h
  · intro h
    by_contra hno
    rw [not_or, not_or] at hno
    obtain ⟨⟨hfirst, hlast⟩, hpaired⟩ := hno
    exact h ⟨hfirst, hlast, hpaired⟩

/-! ### Items -/

theorem mem_listItems_iff (s item : List Char) :
  item ∈ listItems s ↔ item ≠ [] ∧ item ∈ (pieces ',' s).map trim
  := by
  rw [listItems, List.mem_filter]
  simp [and_comm]

@[simp]
theorem listItems_trim (s : List Char) :
  listItems (trim s) = listItems s
  := by
  rw [listItems, listItems, map_trim_pieces_trim isBlank_comma]

theorem trim_eq_of_mem_listItems {s item : List Char} (h : item ∈ listItems s) :
  trim item = item
  := by
  obtain ⟨-, hmem⟩ := (mem_listItems_iff s item).mp h
  obtain ⟨p, -, rfl⟩ := List.mem_map.mp hmem
  apply trim_trim

theorem isIdentifier_singleton_iff (c : Char) :
  IsIdentifier [c] ↔ isRuleChar c = true
  := by
  simp [IsIdentifier]

theorem isIdentifier_cons_iff (c : Char) {s : List Char} (hs : s ≠ []) :
  IsIdentifier (c :: s) ↔ isRuleChar c = true ∧ IsIdentifier s
  := by
  simp [IsIdentifier, hs]

/-- A rule name is an identifier that one line feed may follow. -/
theorem isRuleNameChars_iff (s : List Char) :
  isRuleNameChars s = true ↔ IsIdentifier s ∨ ∃ t, IsIdentifier t ∧ s = t ++ ['\n']
  := by
  have hfeed : ¬ IsIdentifier ['\n'] := by
    rw [isIdentifier_singleton_iff]
    decide
  fun_induction isRuleNameChars s with
  | case1 => simp [IsIdentifier]
  | case2 c =>
      rw [isIdentifier_singleton_iff, iff_self_or]
      rintro ⟨t, ht, heq⟩
      have hlen := congrArg List.length heq
      have hnil : t = [] := by simpa using hlen
      exact absurd hnil ht.1
  | case3 c =>
      constructor
      · intro h
        exact Or.inr ⟨[c], (isIdentifier_singleton_iff c).mpr h, rfl⟩
      · rintro (h | ⟨t, ht, heq⟩)
        · exact absurd ((isIdentifier_cons_iff c (by simp)).mp h).2 hfeed
        · have hsplit : [c] ++ ['\n'] = t ++ ['\n'] := heq
          rw [← List.append_cancel_right hsplit] at ht
          exact (isIdentifier_singleton_iff c).mp ht
  | case4 c s hnil hlone ih =>
      have hs : s ≠ [] := fun h => hnil h
      rw [Bool.and_eq_true, isIdentifier_cons_iff c hs]
      rw [show isRuleNameChars s = true ↔ _ from ih]
      constructor
      · rintro ⟨hc, h | ⟨t, ht, rfl⟩⟩
        · exact Or.inl ⟨hc, h⟩
        · exact Or.inr ⟨c :: t, (isIdentifier_cons_iff c ht.1).mpr ⟨hc, ht⟩, rfl⟩
      · rintro (⟨hc, h⟩ | ⟨t, ht, heq⟩)
        · exact ⟨hc, Or.inl h⟩
        · cases t with
          | nil => exact absurd rfl ht.1
          | cons a t =>
              obtain ⟨rfl, rfl⟩ := List.cons.inj heq
              have ht' : t ≠ [] := by
                rintro rfl
                exact hlone rfl
              obtain ⟨hc, h⟩ := (isIdentifier_cons_iff c ht').mp ht
              exact ⟨hc, Or.inr ⟨t, h, rfl⟩⟩

/-- Of a trimmed text only an identifier is a rule name: no line feed ends it. -/
theorem isRuleNameChars_iff_of_trim_eq {s : List Char} (h : trim s = s) :
  isRuleNameChars s = true ↔ IsIdentifier s
  := by
  rw [isRuleNameChars_iff]
  constructor
  · rintro (hs | ⟨t, ht, rfl⟩)
    · exact hs
    · have hlen := congrArg List.length h
      rw [trim_append_of_blank_right t (by decide)] at hlen
      have hle := (trim_isInfix t).length_le
      rw [List.length_append] at hlen
      simp at hlen
      omega
  · exact Or.inl

/-- A list that is not blank and has its commas well placed has an item. -/
theorem listItems_ne_nil {payload : List Char} (hfine : CommasFine payload)
    (h : isBlankText payload = false) :
  listItems payload ≠ []
  := by
  rw [isBlankText_eq_isEmpty_trim] at h
  cases hs : trim payload with
  | nil =>
      rw [hs] at h
      cases h
  | cons c s =>
      have hc : c ≠ ',' := by
        rintro rfl
        apply hfine.not_first
        rw [hs]
        use s
        rfl
      obtain ⟨p, ps, -, hps⟩ := pieces_cons_of_ne hc s
      apply List.ne_nil_of_mem (a := trim (c :: p))
      rw [← listItems_trim, mem_listItems_iff, hs, hps]
      constructor
      · intro hnil
        have hblank := (trim_eq_nil_iff _).mp hnil c (List.mem_cons_self ..)
        rw [isBlank_head_trim hs] at hblank
        cases hblank
      · apply List.mem_cons_self ..

/-! ### Outcomes -/

/-- Of the items of a list, the first that is no identifier. -/
def IsFirstBadItem (payload name : List Char) : Prop :=
  ∃ before after, listItems payload = before ++ name :: after
    ∧ (∀ item ∈ before, IsIdentifier item) ∧ ¬ IsIdentifier name

theorem isRuleNameChars_iff_of_mem {payload item : List Char} (h : item ∈ listItems payload) :
  isRuleNameChars item = true ↔ IsIdentifier item
  := isRuleNameChars_iff_of_trim_eq (trim_eq_of_mem_listItems h)

theorem readRuleList_of_not_commasFine {payload : List Char} (h : ¬ CommasFine payload) :
  readRuleList payload = .error .commas
  := by
  rw [readRuleList, if_pos ((commasMisplaced_trim_iff payload).mpr h)]

theorem readRuleList_of_commasFine {payload : List Char} (h : CommasFine payload)
    (hblank : isBlankText payload = false) :
  readRuleList payload
    = match (listItems payload).find? fun item => !isRuleNameChars item with
      | some item => .error (.ruleName (String.ofList item))
      | none => .ok ((listItems payload).map String.ofList)
  := by
  have hcommas : ¬ commasMisplaced (trim payload) = true := by
    rw [commasMisplaced_trim_iff, not_not]
    exact h
  have hitems : ¬ (listItems payload).isEmpty = true := by
    rw [List.isEmpty_iff]
    exact listItems_ne_nil h hblank
  rw [readRuleList, if_neg hcommas, listItems_trim]
  exact if_neg hitems

theorem find?_eq_none_iff_forall_isIdentifier (payload : List Char) :
  ((listItems payload).find? fun item => !isRuleNameChars item) = none
    ↔ ∀ item ∈ listItems payload, IsIdentifier item
  := by
  rw [List.find?_eq_none]
  apply forall₂_congr
  intro item hitem
  rw [← isRuleNameChars_iff_of_mem hitem]
  simp

theorem find?_eq_some_iff_isFirstBadItem (payload name : List Char) :
  ((listItems payload).find? fun item => !isRuleNameChars item) = some name
    ↔ IsFirstBadItem payload name
  := by
  rw [List.find?_eq_some_iff_append, IsFirstBadItem]
  constructor
  · rintro ⟨hname, before, after, hsplit, hbefore⟩
    have hmem : ∀ item ∈ before ++ name :: after, item ∈ listItems payload := by
      intro item hitem
      rw [hsplit]
      exact hitem
    use before, after, hsplit
    constructor
    · intro item hitem
      apply (isRuleNameChars_iff_of_mem (hmem item (by simp [hitem]))).mp
      simpa using hbefore item hitem
    · rw [← isRuleNameChars_iff_of_mem (hmem name (by simp))]
      simpa using hname
  · rintro ⟨before, after, hsplit, hbefore, hname⟩
    have hmem : ∀ item ∈ before ++ name :: after, item ∈ listItems payload := by
      intro item hitem
      rw [hsplit]
      exact hitem
    constructor
    · rw [← isRuleNameChars_iff_of_mem (hmem name (by simp))] at hname
      simpa using hname
    · use before, after, hsplit
      intro item hitem
      have hitem' := (isRuleNameChars_iff_of_mem (hmem item (by simp [hitem]))).mpr
        (hbefore item hitem)
      simpa using hitem'

/-- A payload is read exactly when its commas are well placed and its items are
identifiers, and what is read are the items in order. -/
theorem readRuleList_eq_ok_iff {payload : List Char} (h : isBlankText payload = false)
    (rules : List String) :
  readRuleList payload = .ok rules
    ↔ CommasFine payload ∧ (∀ item ∈ listItems payload, IsIdentifier item)
      ∧ rules = (listItems payload).map String.ofList
  := by
  by_cases hfine : CommasFine payload
  · rw [readRuleList_of_commasFine hfine h, ← find?_eq_none_iff_forall_isIdentifier]
    split
    · rename_i name hname
      simp [hname]
    · rename_i hnone
      simp [hfine, hnone, eq_comm]
  · rw [readRuleList_of_not_commasFine hfine]
    simp [hfine]

/-- Misplaced commas are found before anything else, then the first item that is no
identifier. -/
theorem readRuleList_eq_error_iff {payload : List Char} (h : isBlankText payload = false)
    (fault : RuleListFault) :
  readRuleList payload = .error fault
    ↔ (¬ CommasFine payload ∧ fault = .commas)
      ∨ (CommasFine payload
        ∧ ∃ name, IsFirstBadItem payload name ∧ fault = .ruleName (String.ofList name))
  := by
  by_cases hfine : CommasFine payload
  · rw [readRuleList_of_commasFine hfine h]
    simp only [← find?_eq_some_iff_isFirstBadItem]
    split
    · rename_i name hname
      simp [hfine, hname, eq_comm]
    · rename_i hnone
      simp [hfine, hnone]
  · rw [readRuleList_of_not_commasFine hfine]
    simp [hfine, eq_comm]

/-- A payload lists a rule: the rule is one of its trimmed items. -/
def Lists (payload : List Char) (rule : String) : Prop :=
  rule ≠ "" ∧ rule.toList ∈ (pieces ',' payload).map trim

theorem lists_iff (payload : List Char) (rule : String) :
  Lists payload rule ↔ rule ∈ (listItems payload).map String.ofList
  := by
  have hmem : rule ∈ (listItems payload).map String.ofList ↔ rule.toList ∈ listItems payload := by
    rw [List.mem_map]
    constructor
    · rintro ⟨item, hitem, rfl⟩
      rw [String.toList_ofList]
      exact hitem
    · intro hitem
      use rule.toList, hitem
      exact String.ofList_toList
  rw [hmem, mem_listItems_iff, Lists, ne_eq, ne_eq, String.toList_eq_nil_iff]

/-! ### Characters of identifiers -/

theorem toNat_of_isRuleChar {c : Char} (h : isRuleChar c = true) :
  (97 ≤ c.toNat ∧ c.toNat ≤ 122) ∨ (48 ≤ c.toNat ∧ c.toNat ≤ 57) ∨ c.toNat = 45
  := by
  rw [isRuleChar, Bool.or_eq_true, Bool.or_eq_true, Bool.and_eq_true, Bool.and_eq_true,
    decide_eq_true_iff, decide_eq_true_iff, decide_eq_true_iff, decide_eq_true_iff,
    decide_eq_true_iff] at h
  rcases h with (⟨hlo, hhi⟩ | ⟨hlo, hhi⟩) | rfl
  · exact Or.inl ⟨hlo, hhi⟩
  · exact Or.inr (Or.inl ⟨hlo, hhi⟩)
  · exact Or.inr (Or.inr rfl)

theorem isBlank_of_isRuleChar {c : Char} (h : isRuleChar c = true) :
  isBlank c = false
  := by
  have hrange := toNat_of_isRuleChar h
  simp only [isBlank, Bool.or_eq_false_iff, Bool.and_eq_false_iff, decide_eq_false_iff_not,
    beq_eq_false_iff_ne]
  omega

theorem ne_of_isRuleChar {c d : Char} (h : isRuleChar c = true) (hd : isRuleChar d = false) :
  c ≠ d
  := by
  rintro rfl
  rw [h] at hd
  cases hd

/-- A character that no rule name has does not stand in an identifier. -/
theorem IsIdentifier.not_mem {name : List Char} (h : IsIdentifier name) {d : Char}
    (hd : isRuleChar d = false) :
  d ∉ name
  := by
  intro hmem
  exact ne_of_isRuleChar (h.2 d hmem) hd rfl

theorem IsIdentifier.trim_eq {name : List Char} (h : IsIdentifier name) :
  trim name = name
  := by
  apply trim_of_not_blank
  intro c hc
  exact isBlank_of_isRuleChar (h.2 c hc)

theorem IsIdentifier.trimmed_eq {name : String} (h : IsIdentifier name.toList) :
  trimmed name = name
  := by
  rw [trimmed, h.trim_eq, String.ofList_toList]

theorem IsIdentifier.isRuleName {name : String} (h : IsIdentifier name.toList) :
  isRuleName name = true
  := (isRuleNameChars_iff name.toList).mpr (Or.inl h)

theorem IsIdentifier.not_blank {name : List Char} (h : IsIdentifier name) :
  isBlankText name = false
  := by
  rw [isBlankText_eq_isEmpty_trim, h.trim_eq, List.isEmpty_eq_false_iff]
  exact h.1

/-! ### Lists of identifiers -/

/-- Commas between texts that are not blank are well placed. -/
theorem commasFine_of_forall_pieces {payload : List Char}
    (h : ∀ p ∈ pieces ',' payload, isBlankText p = false) :
  CommasFine payload
  := by
  -- a misplaced comma of the trimmed list stands beside an empty piece
  have hempty : [] ∉ pieces ',' (trim payload) := by
    intro hmem
    have htrimmed : [] ∈ (pieces ',' (trim payload)).map trim := List.mem_map.mpr ⟨[], hmem, rfl⟩
    rw [map_trim_pieces_trim isBlank_comma] at htrimmed
    obtain ⟨p, hp, hnil⟩ := List.mem_map.mp htrimmed
    have hblank := h p hp
    rw [isBlankText_eq_isEmpty_trim, hnil] at hblank
    cases hblank
  constructor
  · rintro ⟨t, ht⟩
    apply hempty
    rw [← ht, List.singleton_append, ← List.nil_append (',' :: t), pieces_append_sep]
    apply List.mem_append_left _ (List.mem_singleton_self [])
  · rintro ⟨t, ht⟩
    apply hempty
    rw [← ht, pieces_append_sep]
    apply List.mem_append_right _ (List.mem_singleton_self [])
  · rintro ⟨t, u, ht⟩
    apply hempty
    have hsplit : t ++ [',', ','] ++ u = t ++ ',' :: ([] ++ ',' :: u) := by simp
    rw [← ht, hsplit, pieces_append_sep, pieces_append_sep]
    apply List.mem_append_right
    apply List.mem_append_left _ (List.mem_singleton_self [])

/-- A character of an item is blank or stands in its trimmed form. -/
theorem isBlank_or_mem_trim {c : Char} {s : List Char} (h : c ∈ s) :
  isBlank c = true ∨ c ∈ trim s
  := by
  obtain ⟨ws, ws', hws, hws', hs⟩ := exists_append_trim_append s
  rw [hs, List.mem_append, List.mem_append] at h
  rcases h with (h | h) | h
  · exact Or.inl ((isBlankText_iff ws).mp hws c h)
  · exact Or.inr h
  · exact Or.inl ((isBlankText_iff ws').mp hws' c h)

/-- Texts that are not blank do not make a blank text. -/
theorem isBlankText_joined (sep : List Char) {items : List (List Char)} (hne : items ≠ [])
    (h : ∀ item ∈ items, isBlankText item = false) :
  isBlankText (joined sep items) = false
  := by
  obtain ⟨item, hitem⟩ := List.exists_mem_of_ne_nil _ hne
  by_contra hall
  rw [Bool.not_eq_false, isBlankText_iff] at hall
  have hitem' : isBlankText item = true := by
    apply (isBlankText_iff item).mpr
    intro c hc
    apply hall c (mem_of_mem_joined hitem hc)
  rw [h item hitem] at hitem'
  cases hitem'

theorem isBlankText_of_trim_ne_nil {s : List Char} (h : trim s ≠ []) :
  isBlankText s = false
  := by
  rw [isBlankText_eq_isEmpty_trim, List.isEmpty_eq_false_iff]
  exact h

/-- Identifiers with blanks around them and commas between them are read in their order. -/
theorem readRuleList_joined {items : List (List Char)} (hne : items ≠ [])
    (h : ∀ item ∈ items, IsIdentifier (trim item)) :
  readRuleList (joined [','] items) = .ok (items.map fun item => String.ofList (trim item))
  := by
  have hcomma : ∀ item ∈ items, ',' ∉ item := by
    intro item hitem hmem
    rcases isBlank_or_mem_trim hmem with hblank | hmem
    · rw [isBlank_comma] at hblank
      cases hblank
    · exact (h item hitem).not_mem (by decide) hmem
  have hblank : ∀ item ∈ items, isBlankText item = false := by
    intro item hitem
    apply isBlankText_of_trim_ne_nil (h item hitem).1
  have hpieces : pieces ',' (joined [','] items) = items := pieces_joined hne hcomma
  have hitems : listItems (joined [','] items) = items.map trim := by
    rw [listItems, hpieces, List.filter_eq_self]
    intro t ht
    obtain ⟨item, hitem, rfl⟩ := List.mem_map.mp ht
    rw [Bool.not_eq_true', List.isEmpty_eq_false_iff]
    exact (h item hitem).1
  have hpayload := isBlankText_joined [','] hne hblank
  apply (readRuleList_eq_ok_iff hpayload _).mpr
  refine ⟨?_, ?_, ?_⟩
  · apply commasFine_of_forall_pieces
    rw [hpieces]
    exact hblank
  · rw [hitems]
    intro t ht
    obtain ⟨item, hitem, rfl⟩ := List.mem_map.mp ht
    exact h item hitem
  · rw [hitems, List.map_map]
    rfl

/-- An identifier with blanks around it is read as a list of itself. -/
theorem readRuleList_of_isIdentifier {payload name : List Char} (hpayload : trim payload = name)
    (h : IsIdentifier name) :
  readRuleList payload = .ok [String.ofList name]
  := by
  subst hpayload
  have hitem : ∀ item ∈ [payload], IsIdentifier (trim item) := by simpa using h
  exact readRuleList_joined (by simp) hitem

end SourceAudit
