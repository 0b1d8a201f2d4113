import SourceAudit.Proofs.Directive.Form
import SourceAudit.Proofs.Directive.RuleList

/-!
# Reading one line

A line that is guarded is passed over. Any other line that mentions the keyword has to
have the form of a directive, and the rules it turns off are those that its payload
lists. A line is at fault when its form is wrong or its payload is refused; only a
payload whose commas are well placed is refused for a name.
-/

namespace SourceAudit

open Text

/-- The line is passed over: it is blank, or the keyword stands in a quoted text of it. -/
def Guarded (line : List Char) : Prop :=
  isBlankText line = true ∨ quotesDirective line = true

/-- The line mentions the keyword. -/
def Mentions (line : List Char) : Prop :=
  directiveKeyword <:+: line

/-- The line speaks of the next line, so that it has to be a directive for it. -/
def SpeaksOfNextLine (line : List Char) : Prop :=
  "disable-next-line".toList <:+: line

/-- The payload of a line that has the form of a directive, and the kind of directive it
makes. -/
inductive HasForm (line : List Char) : (List String → Directive) → List Char → Prop where
  | nextLine {payload : List Char} :
      SpeaksOfNextLine line → NextLineForm line payload → HasForm line .nextLine payload
  | wholeFile {payload : List Char} :
      ¬ SpeaksOfNextLine line → FileForm line payload → HasForm line .wholeFile payload

/-! ### Trimmed lines -/

theorem guarded_iff (line : List Char) :
  Guarded line ↔ ((trim line).isEmpty || quotesDirective line) = true
  := by
  rw [Guarded, Bool.or_eq_true, isBlankText_eq_isEmpty_trim]

theorem occurs_keyword_trim_iff (line : List Char) :
  occurs directiveKeyword (trim line) = true ↔ Mentions line
  := by
  rw [occurs_iff, Mentions]
  apply infix_trim_iff (c := 'a') (d := 'e') (by decide) (by decide) "vesta-disabl".toList

theorem occurs_nextLine_trim_iff (line : List Char) :
  occurs "disable-next-line".toList (trim line) = true ↔ SpeaksOfNextLine line
  := by
  rw [occurs_iff, SpeaksOfNextLine]
  apply infix_trim_iff (c := 'd') (d := 'e') (by decide) (by decide) "isable-next-lin".toList

/-! ### What the forms imply -/

theorem NextLineForm.speaksOfNextLine {line payload : List Char}
    (h : NextLineForm line payload) :
  SpeaksOfNextLine line
  := by
  obtain ⟨⟨ws, -, hline⟩, -⟩ := h
  apply List.IsInfix.trans _ (trim_isInfix line)
  use '/' :: '/' :: (ws ++ "avesta-".toList), payload
  have hk : nextLineKeyword = "avesta-".toList ++ "disable-next-line".toList := by decide
  rw [hline, hk]
  simp only [List.cons_append, List.append_assoc]

theorem NextLineForm.mentions {line payload : List Char} (h : NextLineForm line payload) :
  Mentions line
  := by
  obtain ⟨⟨ws, -, hline⟩, -⟩ := h
  apply List.IsInfix.trans _ (trim_isInfix line)
  use '/' :: '/' :: ws, "-next-line".toList ++ payload
  rw [hline, nextLineKeyword_eq_append]
  simp only [List.cons_append, List.append_assoc]

theorem FileForm.mentions {line payload : List Char} (h : FileForm line payload) :
  Mentions line
  := by
  obtain ⟨before, rest, after, ⟨⟨ws, -, hline⟩, -⟩, -⟩ := h
  use before ++ '/' :: '*' :: ws, rest
  rw [hline]
  simp only [List.cons_append, List.append_assoc]

theorem FileForm.opensBlock {line payload : List Char} (h : FileForm line payload) :
  occurs "/*".toList (trim line) = true
  := by
  rw [occurs_iff]
  apply (infix_trim_iff (c := '/') (d := '*') (by decide) (by decide) [] line).mpr
  obtain ⟨before, rest, after, ⟨⟨ws, -, hline⟩, -⟩, -⟩ := h
  use before, ws ++ directiveKeyword ++ rest
  rw [hline]
  simp

theorem HasForm.mentions {line payload : List Char} {make : List String → Directive}
    (h : HasForm line make payload) :
  Mentions line
  := by
  cases h with
  | nextLine _ h => exact h.mentions
  | wholeFile _ h => exact h.mentions

theorem HasForm.payload_not_blank {line payload : List Char} {make : List String → Directive}
    (h : HasForm line make payload) :
  isBlankText payload = false
  := by
  cases h with
  | nextLine _ h => exact h.2.2
  | wholeFile _ h =>
      obtain ⟨-, -, -, -, -, -, hblank⟩ := h
      exact hblank

/-- A comment is not malformed when it begins neither with the second half of the keyword nor
with another variant of it, and is more than the keyword. -/
theorem not_isMalformedOpener_of_body {text body : List Char} {toEnd : Bool}
    (hbody : commentBody? text = some (toEnd, body))
    (hword : startsWith "disable".toList body = false)
    (hvariant : startsWith "avesta-disable-".toList body = false)
    (hkeyword : trimRight body ≠ directiveKeyword) :
  isMalformedOpener text = false
  := by
  rw [isMalformedOpener, hbody]
  dsimp only
  rw [hword, hvariant, Bool.false_and, Bool.or_false, Bool.false_or, beq_eq_false_iff_ne]
  exact hkeyword

/-- The line is a comment that begins with the second half of the keyword. -/
def IsDisableComment (line : List Char) : Prop :=
  ∃ rest, IsComment '/' "disable".toList line rest ∨ IsComment '*' "disable".toList line rest

/-- Of the lines that do not mention the keyword, only such comments are malformed. -/
theorem isDisableComment_of_isMalformedOpener {line : List Char} (hk : ¬ Mentions line)
    (h : isMalformedOpener (trim line) = true) :
  IsDisableComment line
  := by
  rw [isMalformedOpener] at h
  split at h
  · cases h
  · rename_i toEnd body hbody
    obtain ⟨s, hline, rfl⟩ := (commentBody?_eq_some_iff _ _ _).mp hbody
    have hs : trimLeft s <:+: line := by
      apply List.IsInfix.trans _ (trim_isInfix line)
      obtain ⟨ws, -, hws⟩ := exists_append_trimLeft s
      rw [hline]
      use '/' :: (if toEnd then '/' else '*') :: ws, []
      simp [← hws]
    rw [Bool.or_eq_true, Bool.or_eq_true, Bool.and_eq_true, startsWith_iff, startsWith_iff,
      beq_iff_eq] at h
    rcases h with (⟨rest, hrest⟩ | ⟨⟨rest, hrest⟩, -⟩) | hkeyword
    · have hcons : "disable".toList ++ rest = 'd' :: ("isable".toList ++ rest) := rfl
      rw [hcons] at hrest
      obtain ⟨ws, hws, rfl⟩ := (trimLeft_eq_cons_iff (by decide) s _).mp hrest.symm
      rw [← hcons, ← List.append_assoc] at hline
      use rest
      cases toEnd with
      | true => exact Or.inl ⟨ws, hws, hline⟩
      | false => exact Or.inr ⟨ws, hws, hline⟩
    · exfalso
      apply hk
      apply List.IsInfix.trans _ hs
      use [], "-".toList ++ rest
      rw [← hrest]
      rfl
    · exfalso
      apply hk
      apply List.IsInfix.trans _ hs
      obtain ⟨ws, -, hws⟩ := exists_trimRight_append (trimLeft s)
      use [], ws
      rw [hws, hkeyword]
      rfl

/-- A directive for the next line is not a malformed comment. -/
theorem NextLineForm.not_isMalformedOpener {line payload : List Char}
    (h : NextLineForm line payload) :
  isMalformedOpener (trim line) = false
  := by
  obtain ⟨⟨ws, hws, hline⟩, -⟩ := h
  have hbody : commentBody? (trim line) = some (true, nextLineKeyword ++ payload) := by
    apply (commentBody?_eq_some_iff _ _ _).mpr
    use ws ++ nextLineKeyword ++ payload, hline
    symm
    apply (trimLeft_eq_nextLineKeyword_append_iff _ _).mpr
    use ws
  have hvariant : startsWith nextLineKeyword (nextLineKeyword ++ payload) = true := by
    apply (startsWith_iff _ _).mpr
    use payload
  have hkeyword : trimRight (nextLineKeyword ++ payload) ≠ directiveKeyword := by
    have hlast : nextLineKeyword = "avesta-disable-next-lin".toList ++ ['e'] := by decide
    rw [hlast, List.append_assoc, List.singleton_append, trimRight_append_cons (by decide)]
    intro heq
    have hlen := congrArg List.length heq
    rw [List.length_append, List.length_cons] at hlen
    have hl : "avesta-disable-next-lin".toList.length = 23 := by decide
    have hl' : directiveKeyword.length = 14 := by decide
    omega
  have hword : startsWith "disable".toList (nextLineKeyword ++ payload) = false := rfl
  rw [isMalformedOpener, hbody]
  dsimp only
  rw [hword, hvariant, Bool.not_true, Bool.and_false, Bool.or_false, Bool.false_or,
    beq_eq_false_iff_ne]
  exact hkeyword

/-! ### Outcomes of reading -/

theorem readLine_of_guarded {line : List Char} (h : Guarded line) :
  readLine line = .ok none
  := by
  rw [readLine]
  exact if_pos ((guarded_iff line).mp h)

theorem readLine_of_not_guarded {line : List Char} (h : ¬ Guarded line) :
  readLine line
    = if isMalformedOpener (trim line) then .error .comment
      else if !occurs directiveKeyword (trim line) then .ok none
      else if occurs "disable-next-line".toList (trim line) then
        match nextLinePayload? (trim line) with
        | some payload => payloadDirective .nextLine payload
        | none => .error .nextLineComment
      else if occurs "/*".toList (trim line) then
        match filePayload? (trim line) with
        | some payload => payloadDirective .wholeFile payload
        | none => .error .fileComment
      else .error .comment
  := by
  rw [readLine]
  exact if_neg (mt (guarded_iff line).mpr h)

theorem readLine_of_malformed {line : List Char} (h : ¬ Guarded line)
    (hm : isMalformedOpener (trim line) = true) :
  readLine line = .error .comment
  := by
  rw [readLine_of_not_guarded h, if_pos hm]

theorem readLine_of_not_mentions {line : List Char} (h : ¬ Guarded line)
    (hm : isMalformedOpener (trim line) = false) (hk : ¬ Mentions line) :
  readLine line = .ok none
  := by
  rw [← occurs_keyword_trim_iff, Bool.not_eq_true] at hk
  rw [readLine_of_not_guarded h, if_neg (by simp [hm]), if_pos (by simp [hk])]

/-- A line that has the form of a directive is read as its payload is. -/
theorem readLine_of_hasForm {line payload : List Char} {make : List String → Directive}
    (h : ¬ Guarded line) (hm : isMalformedOpener (trim line) = false)
    (hform : HasForm line make payload) :
  readLine line = payloadDirective make payload
  := by
  have hk := (occurs_keyword_trim_iff line).mpr hform.mentions
  rw [readLine_of_not_guarded h, if_neg (by simp [hm]), if_neg (by simp [hk])]
  cases hform with
  | nextLine hnext hform =>
      rw [if_pos ((occurs_nextLine_trim_iff line).mpr hnext),
        (nextLinePayload?_eq_some_iff _ _).mpr hform]
  | wholeFile hnext hform =>
      rw [if_neg (mt (occurs_nextLine_trim_iff line).mp hnext), if_pos hform.opensBlock,
        filePayload?_trim, (filePayload?_eq_some_iff _ _).mpr hform]

/-- A line that mentions the keyword and has not the form of a directive is refused for
its form. -/
theorem readLine_of_not_hasForm {line : List Char} (h : ¬ Guarded line)
    (hm : isMalformedOpener (trim line) = false) (hk : Mentions line)
    (hform : ∀ make payload, ¬ HasForm line make payload) :
  ∃ fault, readLine line = .error fault ∧ ∀ f, fault ≠ .rules f
  := by
  have hk' := (occurs_keyword_trim_iff line).mpr hk
  rw [readLine_of_not_guarded h, if_neg (by simp [hm]), if_neg (by simp [hk'])]
  by_cases hnext : SpeaksOfNextLine line
  · rw [if_pos ((occurs_nextLine_trim_iff line).mpr hnext)]
    cases hp : nextLinePayload? (trim line) with
    | some payload =>
        have hf := (nextLinePayload?_eq_some_iff _ _).mp hp
        exact absurd (.nextLine hnext hf) (hform _ _)
    | none => exact ⟨_, rfl, by simp⟩
  · rw [if_neg (mt (occurs_nextLine_trim_iff line).mp hnext)]
    split
    · cases hp : filePayload? (trim line) with
      | some payload =>
          rw [filePayload?_trim] at hp
          have hf := (filePayload?_eq_some_iff _ _).mp hp
          exact absurd (.wholeFile hnext hf) (hform _ _)
      | none => exact ⟨_, rfl, by simp⟩
    · exact ⟨_, rfl, by simp⟩

/-! ### Directives and faults -/

theorem payloadDirective_of_ok {payload : List Char} {rules : List String}
    (h : readRuleList payload = .ok rules) (make : List String → Directive) :
  payloadDirective make payload = .ok (some (make rules))
  := by
  rw [payloadDirective, h]

theorem payloadDirective_of_error {payload : List Char} {fault : RuleListFault}
    (h : readRuleList payload = .error fault) (make : List String → Directive) :
  payloadDirective make payload = .error (.rules fault)
  := by
  rw [payloadDirective, h]

/-- The form of the line is wrong: it is a malformed comment, or it mentions the keyword
and is no directive. -/
def FormFault (line : List Char) : Prop :=
  isMalformedOpener (trim line) = true
    ∨ (Mentions line ∧ SpeaksOfNextLine line ∧ ¬ ∃ payload, NextLineForm line payload)
    ∨ (Mentions line ∧ ¬ SpeaksOfNextLine line ∧ ¬ ∃ payload, FileForm line payload)

/-- The line is at fault: it is not passed over, and either its form is wrong or it is a
directive whose rule list is refused. -/
def Faulty (line : List Char) : Prop :=
  ¬ Guarded line ∧ (FormFault line
    ∨ ∃ make payload fault, HasForm line make payload ∧ readRuleList payload = .error fault)

theorem formFault_iff (line : List Char) :
  FormFault line
    ↔ isMalformedOpener (trim line) = true
      ∨ (Mentions line ∧ ∀ make payload, ¬ HasForm line make payload)
  := by
  rw [FormFault]
  apply or_congr_right
  constructor
  · rintro (⟨hk, hnext, hno⟩ | ⟨hk, hnext, hno⟩)
    · use hk
      rintro make payload (⟨-, h⟩ | ⟨hnext', h⟩)
      · exact hno ⟨_, h⟩
      · exact hnext' hnext
    · use hk
      rintro make payload (⟨hnext', h⟩ | ⟨-, h⟩)
      · exact hnext hnext'
      · exact hno ⟨_, h⟩
  · rintro ⟨hk, hno⟩
    by_cases hnext : SpeaksOfNextLine line
    · left
      use hk, hnext
      rintro ⟨payload, h⟩
      exact hno _ _ (.nextLine hnext h)
    · right
      use hk, hnext
      rintro ⟨payload, h⟩
      exact hno _ _ (.wholeFile hnext h)

/-- A line whose form is wrong is refused for its form. -/
theorem readLine_of_formFault {line : List Char} (hg : ¬ Guarded line)
    (h : FormFault line) :
  ∃ fault, readLine line = .error fault ∧ ∀ f, fault ≠ .rules f
  := by
  cases hm : isMalformedOpener (trim line) with
  | true =>
      use .comment, readLine_of_malformed hg hm
      simp
  | false =>
      rcases (formFault_iff line).mp h with hm' | ⟨hk, hno⟩
      · rw [hm] at hm'
        cases hm'
      · exact readLine_of_not_hasForm hg hm hk hno

theorem not_formFault_of_readLine {line : List Char} {read : Option Directive}
    (hread : readLine line = .ok read) (hg : ¬ Guarded line) :
  ¬ FormFault line
  := by
  intro hf
  obtain ⟨fault, herror, -⟩ := readLine_of_formFault hg hf
  rw [hread] at herror
  cases herror

/-- A line whose form is not wrong is passed over or is a directive. -/
theorem readLine_of_not_formFault {line : List Char} (hg : ¬ Guarded line)
    (h : ¬ FormFault line) :
  readLine line = .ok none ∨ ∃ make payload, HasForm line make payload
    ∧ readLine line = payloadDirective make payload
  := by
  rw [formFault_iff, not_or, Bool.not_eq_true] at h
  obtain ⟨hm, hno⟩ := h
  by_cases hform : ∃ make payload, HasForm line make payload
  · right
    obtain ⟨make, payload, hform⟩ := hform
    exact ⟨make, payload, hform, readLine_of_hasForm hg hm hform⟩
  · left
    apply readLine_of_not_mentions hg hm
    intro hk
    apply hno
    use hk
    intro make payload hform'
    exact hform ⟨make, payload, hform'⟩

/-- The directive on a line: it has the form of one, and its payload is read. -/
theorem readLine_eq_ok_some_iff (line : List Char) (directive : Directive) :
  readLine line = .ok (some directive)
    ↔ ¬ Guarded line ∧ ¬ FormFault line
      ∧ ∃ make payload rules, HasForm line make payload
        ∧ readRuleList payload = .ok rules ∧ directive = make rules
  := by
  constructor
  · intro h
    have hg : ¬ Guarded line := by
      intro hg
      rw [readLine_of_guarded hg] at h
      cases h
    have hf := not_formFault_of_readLine h hg
    use hg, hf
    rcases readLine_of_not_formFault hg hf with hread | ⟨make, payload, hform, hread⟩
    · rw [hread] at h
      cases h
    · use make, payload
      rw [hread] at h
      cases hrules : readRuleList payload with
      | error fault =>
          rw [payloadDirective_of_error hrules] at h
          cases h
      | ok rules =>
          rw [payloadDirective_of_ok hrules] at h
          cases h
          use rules, hform
  · rintro ⟨hg, hf, make, payload, rules, hform, hrules, rfl⟩
    rw [formFault_iff, not_or, Bool.not_eq_true] at hf
    rw [readLine_of_hasForm hg hf.1 hform]
    apply payloadDirective_of_ok hrules

/-- A line is refused exactly when it is at fault. -/
theorem exists_readLine_eq_error_iff (line : List Char) :
  (∃ fault, readLine line = .error fault) ↔ Faulty line
  := by
  constructor
  · rintro ⟨fault, h⟩
    have hg : ¬ Guarded line := by
      intro hg
      rw [readLine_of_guarded hg] at h
      cases h
    use hg
    by_cases hf : FormFault line
    · exact Or.inl hf
    · right
      rcases readLine_of_not_formFault hg hf with hread | ⟨make, payload, hform, hread⟩
      · rw [hread] at h
        cases h
      · use make, payload
        cases hrules : readRuleList payload with
        | error fault' => use fault', hform
        | ok rules =>
            rw [hread, payloadDirective_of_ok hrules] at h
            cases h
  · rintro ⟨hg, hf | ⟨make, payload, fault, hform, hrules⟩⟩
    · obtain ⟨fault, hread, -⟩ := readLine_of_formFault hg hf
      use fault
    · by_cases hf : FormFault line
      · obtain ⟨fault, hread, -⟩ := readLine_of_formFault hg hf
        use fault
      · rw [formFault_iff, not_or, Bool.not_eq_true] at hf
        use .rules fault
        rw [readLine_of_hasForm hg hf.1 hform]
        apply payloadDirective_of_error hrules

/-- A line is refused for a name exactly when its form and its commas are fine, and then
for the first of its items that is no identifier. -/
theorem readLine_eq_ruleName_iff (line name : List Char) :
  readLine line = .error (.rules (.ruleName (String.ofList name)))
    ↔ ¬ Guarded line ∧ ¬ FormFault line
      ∧ ∃ make payload, HasForm line make payload
        ∧ CommasFine payload ∧ IsFirstBadItem payload name
  := by
  constructor
  · intro h
    obtain ⟨hg, -⟩ := (exists_readLine_eq_error_iff line).mp ⟨_, h⟩
    have hf : ¬ FormFault line := by
      intro hf
      obtain ⟨fault, hread, hno⟩ := readLine_of_formFault hg hf
      rw [hread] at h
      exact hno _ (Except.error.inj h)
    use hg, hf
    rcases readLine_of_not_formFault hg hf with hread | ⟨make, payload, hform, hread⟩
    · rw [hread] at h
      cases h
    · use make, payload, hform
      rw [hread] at h
      cases hrules : readRuleList payload with
      | ok rules =>
          rw [payloadDirective_of_ok hrules] at h
          cases h
      | error fault =>
          rw [payloadDirective_of_error hrules] at h
          cases h
          rcases (readRuleList_eq_error_iff hform.payload_not_blank _).mp hrules with
            ⟨-, hcommas⟩ | ⟨hfine, name', hname, heq⟩
          · cases hcommas
          · rw [RuleListFault.ruleName.injEq, String.ofList_inj] at heq
            rw [heq]
            exact ⟨hfine, hname⟩
  · rintro ⟨hg, hf, make, payload, hform, hfine, hname⟩
    rw [formFault_iff, not_or, Bool.not_eq_true] at hf
    rw [readLine_of_hasForm hg hf.1 hform]
    apply payloadDirective_of_error
    apply (readRuleList_eq_error_iff hform.payload_not_blank _).mpr
    right
    use hfine, name

end SourceAudit
