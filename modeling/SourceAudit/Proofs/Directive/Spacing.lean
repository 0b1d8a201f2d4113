import SourceAudit.Proofs.Directive.ListRoundTrip
import Mathlib.Data.List.Infix
import Mathlib.Logic.Relation

/-!
# Blanks in rule lists

Blanks next to the commas of a list and at its ends are taken off before the items are looked
at, and so they do not count. There is one exception: two commas side by side are refused,
while an item of blanks between two commas is left out. A list that begins or ends with a comma
is refused in either case.
-/

namespace SourceAudit

open Text

/-! ### Adding blanks -/

/-- The second payload is the first with blanks added at one of its ends or next to one of its
commas. -/
inductive AddsBlanks : List Char → List Char → Prop where
  | atFront (ws s : List Char) :
      isBlankText ws = true → AddsBlanks s (ws ++ s)
  | atEnd (ws s : List Char) :
      isBlankText ws = true → AddsBlanks s (s ++ ws)
  | beforeComma (ws s t : List Char) :
      isBlankText ws = true → AddsBlanks (s ++ ',' :: t) ((s ++ ws) ++ ',' :: t)
  | afterComma (ws s t : List Char) :
      isBlankText ws = true → AddsBlanks (s ++ ',' :: t) (s ++ ',' :: (ws ++ t))

/-- The payloads differ in blanks at the ends and next to commas only. -/
def Respaced : List Char → List Char → Prop :=
  Relation.EqvGen AddsBlanks

theorem AddsBlanks.map_trim_pieces {p q : List Char} (h : AddsBlanks p q) :
  (pieces ',' p).map trim = (pieces ',' q).map trim
  := by
  cases h with
  | atFront ws _ hws => exact (map_trim_pieces_append_of_blank_left isBlank_comma hws p).symm
  | atEnd ws _ hws => exact (map_trim_pieces_append_of_blank_right isBlank_comma p hws).symm
  | beforeComma ws s t hws =>
      rw [pieces_append_sep, pieces_append_sep, List.map_append, List.map_append,
        map_trim_pieces_append_of_blank_right isBlank_comma s hws]
  | afterComma ws s t hws =>
      rw [pieces_append_sep, pieces_append_sep, List.map_append, List.map_append,
        map_trim_pieces_append_of_blank_left isBlank_comma hws t]

/-- Payloads that differ in such blanks have the same trimmed pieces. -/
theorem Respaced.map_trim_pieces {p q : List Char} (h : Respaced p q) :
  (pieces ',' p).map trim = (pieces ',' q).map trim
  := by
  induction h with
  | rel p q h => exact h.map_trim_pieces
  | refl p => rfl
  | symm p q _ ih => exact ih.symm
  | trans p q r _ _ ih ih' => exact ih.trans ih'

theorem Respaced.listItems_eq {p q : List Char} (h : Respaced p q) :
  listItems p = listItems q
  := by
  rw [listItems, listItems, h.map_trim_pieces]

/-! ### Commas at the ends -/

/-- The trimmed payload begins or ends with a comma. -/
def EndsAtComma (payload : List Char) : Prop :=
  [','] <+: trim payload ∨ [','] <:+ trim payload

instance (payload : List Char) : Decidable (EndsAtComma payload) :=
  inferInstanceAs (Decidable (_ ∨ _))

/-- Two commas stand side by side in the payload. -/
def HasCommaPair (payload : List Char) : Prop :=
  [',', ','] <:+: payload

instance (payload : List Char) : Decidable (HasCommaPair payload) :=
  inferInstanceAs (Decidable (_ <:+: _))

theorem hasCommaPair_trim_iff (payload : List Char) :
  [',', ','] <:+: trim payload ↔ HasCommaPair payload
  := infix_trim_iff isBlank_comma isBlank_comma [] payload

theorem not_commasFine_iff_endsAtComma_or (payload : List Char) :
  ¬ CommasFine payload ↔ EndsAtComma payload ∨ HasCommaPair payload
  := by
  rw [not_commasFine_iff, hasCommaPair_trim_iff, EndsAtComma, or_assoc]

/-- A trimmed text begins with a comma when its first piece of several is blank. -/
theorem comma_prefix_iff {s : List Char} (h : trim s = s) :
  [','] <+: s ↔ ∃ ps, ps ≠ [] ∧ (pieces ',' s).map trim = [] :: ps
  := by
  constructor
  · rintro ⟨t, rfl⟩
    use (pieces ',' t).map trim
    constructor
    · simpa using pieces_ne_nil ',' t
    · rfl
  · rintro ⟨ps, hps, hpieces⟩
    obtain ⟨p, rest, hs, hp, rfl⟩ := List.map_eq_cons_iff.mp hpieces
    have hrest : rest ≠ [] := fun hnil => hps (by rw [hnil]; rfl)
    obtain ⟨q, rest, rfl⟩ := List.exists_cons_of_ne_nil hrest
    have hjoined : s = p ++ ([','] ++ joined [','] (q :: rest)) := by
      rw [← joined_pieces ',' s, hs, joined, List.append_assoc]
    rw [hjoined] at h
    have hnil := eq_nil_of_trim_append_left ((isBlankText_iff_trim_eq_nil p).mpr hp) h
    rw [hjoined, hnil]
    apply List.prefix_append

/-- A trimmed text ends with a comma when its last piece of several is blank. -/
theorem comma_suffix_iff {s : List Char} (h : trim s = s) :
  [','] <:+ s ↔ ∃ ps, ps ≠ [] ∧ (pieces ',' s).map trim = ps ++ [[]]
  := by
  constructor
  · rintro ⟨t, rfl⟩
    use (pieces ',' t).map trim
    constructor
    · simpa using pieces_ne_nil ',' t
    · rw [pieces_append_sep, List.map_append]
      rfl
  · rintro ⟨ps, hps, hpieces⟩
    obtain ⟨rest, last, hs, rfl, hlast⟩ := List.map_eq_append_iff.mp hpieces
    obtain ⟨p, rfl, hp⟩ := List.map_eq_singleton_iff.mp hlast
    have hrest : rest ≠ [] := fun hnil => hps (by rw [hnil]; rfl)
    have hjoined : s = (joined [','] rest ++ [',']) ++ p := by
      rw [← joined_pieces ',' s, hs, joined_append [','] hrest (List.cons_ne_nil p [])]
      rfl
    rw [hjoined] at h
    have hnil := eq_nil_of_trim_append_right ((isBlankText_iff_trim_eq_nil p).mpr hp) h
    rw [hjoined, hnil, List.append_nil]
    apply List.suffix_append

/-- Whether a payload begins or ends with a comma shows in its trimmed pieces. -/
theorem endsAtComma_iff (payload : List Char) :
  EndsAtComma payload
    ↔ (∃ ps, ps ≠ [] ∧ (pieces ',' payload).map trim = [] :: ps)
      ∨ ∃ ps, ps ≠ [] ∧ (pieces ',' payload).map trim = ps ++ [[]]
  := by
  rw [EndsAtComma, comma_prefix_iff (trim_trim payload), comma_suffix_iff (trim_trim payload),
    map_trim_pieces_trim isBlank_comma]

theorem Respaced.endsAtComma_iff {p q : List Char} (h : Respaced p q) :
  EndsAtComma p ↔ EndsAtComma q
  := by
  rw [SourceAudit.endsAtComma_iff, SourceAudit.endsAtComma_iff, h.map_trim_pieces]

/-! ### Outcomes -/

theorem readRuleList_of_misplaced {payload : List Char}
    (h : EndsAtComma payload ∨ HasCommaPair payload) :
  readRuleList payload = .error .commas
  := by
  rw [readRuleList_eq_commas_iff, not_commasFine_iff_endsAtComma_or]
  exact h

/-- What becomes of a payload hangs on where its commas are misplaced and on its items. -/
theorem readRuleList_congr {p q : List Char} (hends : EndsAtComma p ↔ EndsAtComma q)
    (hpair : HasCommaPair p ↔ HasCommaPair q) (h : listItems p = listItems q) :
  readRuleList p = readRuleList q
  := by
  by_cases hp : EndsAtComma p ∨ HasCommaPair p
  · have hq : EndsAtComma q ∨ HasCommaPair q := by
      rw [← hends, ← hpair]
      exact hp
    rw [readRuleList_of_misplaced hp, readRuleList_of_misplaced hq]
  · have hfine : ∀ payload, ¬ (EndsAtComma payload ∨ HasCommaPair payload) →
        ¬ commasMisplaced (trim payload) = true := by
      intro payload hno
      rw [commasMisplaced_trim_iff, not_commasFine_iff_endsAtComma_or]
      exact hno
    have hq : ¬ (EndsAtComma q ∨ HasCommaPair q) := by
      rw [← hends, ← hpair]
      exact hp
    rw [readRuleList, readRuleList, if_neg (hfine p hp), if_neg (hfine q hq), listItems_trim,
      listItems_trim, h]

/-- Blanks next to commas and at the ends do not change what becomes of a payload, unless two
commas stand side by side in one of the payloads only; and then they change it, unless the
payload begins or ends with a comma. -/
theorem Respaced.readRuleList_eq_iff {p q : List Char} (h : Respaced p q) :
  readRuleList p = readRuleList q ↔ (HasCommaPair p ↔ HasCommaPair q) ∨ EndsAtComma p
  := by
  have hends := h.endsAtComma_iff
  constructor
  · intro heq
    by_cases hp : EndsAtComma p
    · exact Or.inr hp
    · left
      -- a pair of commas is all that is left to refuse the payload for
      have hpair : ∀ payload, ¬ EndsAtComma payload →
          (readRuleList payload = .error .commas ↔ HasCommaPair payload) := by
        intro payload hno
        rw [readRuleList_eq_commas_iff, not_commasFine_iff_endsAtComma_or, or_iff_right hno]
      rw [← hpair p hp, ← hpair q (mt hends.mpr hp), heq]
  · rintro (hpair | hp)
    · exact readRuleList_congr hends hpair h.listItems_eq
    · rw [readRuleList_of_misplaced (Or.inl hp), readRuleList_of_misplaced (Or.inl (hends.mp hp))]

/-! ### Items of blanks -/

/-- A pair of commas stands before or after one of its two commas. -/
theorem hasCommaPair_append_comma_iff (s t : List Char) :
  HasCommaPair (s ++ ',' :: t) ↔ HasCommaPair (s ++ [',']) ∨ HasCommaPair (',' :: t)
  := by
  induction s with
  | nil =>
      have hone : ¬ HasCommaPair [','] := by decide
      rw [List.nil_append, List.nil_append, or_iff_right hone]
  | cons c s ih =>
      have hbegins : [',', ','] <+: c :: (s ++ ',' :: t) ↔ [',', ','] <+: c :: (s ++ [',']) := by
        rw [List.cons_prefix_cons, List.cons_prefix_cons]
        cases s with
        | nil => simp
        | cons d s => simp
      rw [List.cons_append, List.cons_append, HasCommaPair, HasCommaPair, List.infix_cons_iff,
        List.infix_cons_iff, hbegins, or_assoc]
      exact or_congr_right ih

/-- Blanks between two commas keep them apart. -/
theorem not_hasCommaPair_blank {ws : List Char} (hne : ws ≠ []) (hws : isBlankText ws = true) :
  ¬ HasCommaPair (',' :: (ws ++ [',']))
  := by
  have hcomma := not_mem_of_isBlankText isBlank_comma hws
  rw [HasCommaPair, List.infix_cons_iff]
  rintro (hbegins | hinfix)
  · obtain ⟨c, ws, rfl⟩ := List.exists_cons_of_ne_nil hne
    rw [List.mem_cons, not_or] at hcomma
    exact hcomma.1 (by simpa [List.cons_prefix_cons] using hbegins)
  · have hcount := hinfix.sublist.count_le ','
    rw [List.count_append, List.count_eq_zero_of_not_mem hcomma] at hcount
    simp at hcount

theorem endsAtComma_append_comma_iff (s m t : List Char) :
  EndsAtComma (s ++ ',' :: (m ++ ',' :: t)) ↔ EndsAtComma (s ++ ',' :: t)
  := by
  have hlong := trim_append_cons_append isBlank_comma isBlank_comma s m t
  have hshort : trim (s ++ ',' :: t) = trimLeft s ++ ',' :: trimRight t := by
    rw [trim, trimLeft_append_cons isBlank_comma, trimRight_append_cons isBlank_comma]
  rw [EndsAtComma, EndsAtComma, hlong, hshort, List.singleton_prefix_iff_head?_eq_some,
    List.singleton_prefix_iff_head?_eq_some, List.singleton_suffix_iff_getLast?_eq_some,
    List.singleton_suffix_iff_getLast?_eq_some]
  simp [List.getLast?_append, List.getLast?_cons]

/-- An item between two commas is left out when it consists of blanks; when it holds nothing at
all, the payload is refused for its commas. -/
theorem readRuleList_blankItem {ws : List Char} (hws : isBlankText ws = true) (s t : List Char) :
  readRuleList (s ++ ',' :: (ws ++ ',' :: t))
    = if ws = [] then .error .commas else readRuleList (s ++ ',' :: t)
  := by
  split
  · rename_i hnil
    subst hnil
    apply readRuleList_of_misplaced
    right
    use s, t
    simp
  · rename_i hne
    apply readRuleList_congr
    · apply endsAtComma_append_comma_iff
    · have hsplit : ',' :: (ws ++ ',' :: t) = (',' :: ws) ++ ',' :: t := rfl
      rw [hasCommaPair_append_comma_iff s, hsplit, hasCommaPair_append_comma_iff (',' :: ws),
        List.cons_append, or_iff_right (not_hasCommaPair_blank hne hws),
        hasCommaPair_append_comma_iff s t]
    · have hempty : (trim ws).isEmpty = true := by
        rw [(isBlankText_iff_trim_eq_nil ws).mp hws]
        rfl
      rw [listItems, listItems, pieces_append_sep, pieces_append_sep, pieces_append_sep,
        pieces_of_not_mem (not_mem_of_isBlankText isBlank_comma hws)]
      simp [hempty]

/-- Blanks added or taken away next to commas and at the ends do not change what becomes of a
payload, except that they may keep two commas apart or bring them together in a payload that
neither begins nor ends with a comma. Two commas side by side are refused, and an item of blanks
between two commas is left out. -/
theorem readRuleList_of_respaced :
  (∀ p q, Respaced p q →
      (readRuleList p = readRuleList q ↔ (HasCommaPair p ↔ HasCommaPair q) ∨ EndsAtComma p))
    ∧ ∀ s ws t, isBlankText ws = true → readRuleList (s ++ ',' :: (ws ++ ',' :: t))
      = if ws = [] then .error .commas else readRuleList (s ++ ',' :: t)
  := by
  constructor
  · intro p q h
    exact h.readRuleList_eq_iff
  · intro s ws t hws
    exact readRuleList_blankItem hws s t

/-- Blanks around items and at the ends, and an item of two blanks. -/
theorem readRuleList_of_respaced_two_commas :
  let p := "a ,B".toList
  let q := "  a ,\tB".toList
  Respaced p q ∧ ¬ HasCommaPair p ∧ ¬ HasCommaPair q
    ∧ readRuleList p = readRuleList q ∧ readRuleList p = .error (.ruleName "B")
    ∧ isBlankText "  ".toList = true
    ∧ readRuleList "a,  ,b".toList = readRuleList "a,b".toList
    ∧ readRuleList "a,b".toList = .ok ["a", "b"]
  := by
  intro p q
  have hfirst : Respaced p "a ,\tB".toList :=
    .rel _ _ (.afterComma ['\t'] "a ".toList "B".toList (by decide))
  have hsecond : Respaced "a ,\tB".toList q :=
    .rel _ _ (.atFront "  ".toList _ (by decide))
  have hspaced : Respaced p q := .trans _ _ _ hfirst hsecond
  have hp : ¬ HasCommaPair p := by decide
  have hq : ¬ HasCommaPair q := by decide
  have hblank : isBlankText "  ".toList = true := by decide
  refine ⟨hspaced, hp, hq, ?_, by decide, hblank, ?_, by decide⟩
  · apply (readRuleList_of_respaced.1 p q hspaced).mpr
    exact Or.inl (iff_of_false hp hq)
  · exact readRuleList_of_respaced.2 "a".toList "  ".toList "b".toList hblank

/-- Blanks between two commas side by side change the outcome: the list without them is refused
for its commas, the list with them is read. -/
theorem readRuleList_of_spaced_pair :
  Respaced "a,,b".toList "a, ,b".toList
    ∧ readRuleList "a,,b".toList = .error .commas
    ∧ readRuleList "a, ,b".toList = .ok ["a", "b"]
  := by
  refine ⟨?_, by decide, by decide⟩
  exact .rel _ _ (.afterComma [' '] "a".toList ",b".toList (by decide))

end SourceAudit
