import SourceAudit.Proofs.Directive.Insertion
import Mathlib.Data.List.Infix

/-!
# Lines with block directives

A line of code may hold several block comments that turn rules off in the whole file. The
line is read as a directive for the rules of the first of them alone, unless the words for
the next line stand somewhere on it: then the line is refused. Lines that do not mention the
keyword and are no comments that begin with its second half take no part in a scan.
-/

namespace SourceAudit

open Text

/-! ### Blocks and the code around them -/

/-- A block comment that turns rules off in the whole file. The keyword follows the opening
after a gap, and a blank the keyword; the items are identifiers with blanks around them. -/
structure FileBlock where
  gap : List Char
  items : List (List Char)
  gap_blank : isBlankText gap = true
  items_ne_nil : items ≠ []
  identifiers : ∀ item ∈ items, IsIdentifier (trim item)
  payload_blank : startsBlank (joined [','] items) = true

namespace FileBlock

/-- What stands between the keyword and the end of the comment. -/
def payload (b : FileBlock) : List Char :=
  joined [','] b.items

/-- The rules that the comment lists. -/
def rules (b : FileBlock) : List String :=
  b.items.map fun item => String.ofList (trim item)

/-- What stands between the slash at the beginning and the slash at the end. -/
def inside (b : FileBlock) : List Char :=
  '*' :: (b.gap ++ directiveKeyword ++ b.payload ++ ['*'])

def text (b : FileBlock) : List Char :=
  '/' :: (b.inside ++ ['/'])

theorem trim_spaced {name : List Char} (h : IsIdentifier name) :
  trim (' ' :: (name ++ [' '])) = name
  := by
  rw [trim, trimLeft_cons_of_blank _ (by decide), ← trim,
    trim_append_of_blank_right name (by decide), h.trim_eq]

/-- The block that lists one rule, with a space on every side. -/
def single (name : List Char) (h : IsIdentifier name) : FileBlock where
  gap := [' ']
  items := [' ' :: (name ++ [' '])]
  gap_blank := by decide
  items_ne_nil := by simp
  identifiers := by
    intro item hitem
    rw [List.mem_singleton.mp hitem, trim_spaced h]
    exact h
  payload_blank := by
    change isBlank ' ' = true
    decide

theorem rules_single {name : List Char} (h : IsIdentifier name) :
  (single name h).rules = [String.ofList name]
  := by
  rw [rules, single, List.map_singleton, trim_spaced h]

end FileBlock

/-- A text without quotes that opens no comment. -/
structure CodeText where
  text : List Char
  no_quote : IsUnquoted text
  no_line_comment : ¬ "//".toList <:+: text
  no_block_comment : ¬ "/*".toList <:+: text

/-- No code. -/
def CodeText.empty : CodeText :=
  ⟨[], by decide, by decide, by decide⟩

/-- What stands on a line from its first block on. -/
def blocksText (blocks : List (FileBlock × CodeText)) : List Char :=
  blocks.flatMap fun block => block.1.text ++ block.2.text

/-- A line on which blocks stand between code. -/
def blockLine (first : CodeText) (blocks : List (FileBlock × CodeText)) : List Char :=
  first.text ++ blocksText blocks

theorem blocksText_cons (b : FileBlock) (t : CodeText) (rest : List (FileBlock × CodeText)) :
  blocksText ((b, t) :: rest) = b.text ++ (t.text ++ blocksText rest)
  := by
  rw [blocksText, List.flatMap_cons, List.append_assoc]
  rfl

/-! ### Characters of blocks -/

theorem isUnquoted_of_isBlankText {s : List Char} (h : isBlankText s = true) :
  IsUnquoted s
  := by
  intro c hc
  exact isQuote_of_not_quotes (by decide) ((isBlankText_iff s).mp h c hc)

namespace FileBlock

variable (b : FileBlock)

/-- A payload is written with blanks, commas and the characters of rule names. -/
theorem cases_of_mem_payload {c : Char} (h : c ∈ b.payload) :
  isBlank c = true ∨ isRuleChar c = true ∨ c = ','
  := by
  rcases mem_joined h with hsep | ⟨item, hitem, hc⟩
  · exact Or.inr (Or.inr (List.mem_singleton.mp hsep))
  · rcases isBlank_or_mem_trim hc with hblank | hc
    · exact Or.inl hblank
    · exact Or.inr (Or.inl ((b.identifiers item hitem).2 c hc))

theorem star_not_mem_payload :
  '*' ∉ b.payload
  := by
  intro h
  rcases b.cases_of_mem_payload h with h | h | h
  · exact absurd h (by decide)
  · exact absurd h (by decide)
  · exact absurd h (by decide)

theorem isUnquoted_payload :
  IsUnquoted b.payload
  := by
  intro c hc
  rcases b.cases_of_mem_payload hc with h | h | rfl
  · exact isQuote_of_not_quotes (by decide) h
  · exact isQuote_of_isRuleChar h
  · decide

theorem isUnquoted_text :
  IsUnquoted b.text
  := by
  simp only [text, inside, isUnquoted_cons, isUnquoted_append]
  exact ⟨by decide, ⟨by decide, ⟨⟨isUnquoted_of_isBlankText b.gap_blank, by decide⟩,
    b.isUnquoted_payload⟩, by decide⟩, by decide⟩

theorem isBlankText_payload :
  isBlankText b.payload = false
  := by
  apply isBlankText_joined _ b.items_ne_nil
  intro item hitem
  apply isBlankText_of_trim_ne_nil (b.identifiers item hitem).1

/-- The keyword of the block is not a part of a longer word. -/
theorem not_startsWith_variant (s : List Char) :
  startsWith "avesta-disable-".toList (directiveKeyword ++ (b.payload ++ s)) = false
  := by
  have hblank : startsBlank b.payload = true := b.payload_blank
  by_contra hstarts
  have hsplit : "avesta-disable-".toList = directiveKeyword ++ ['-'] := by decide
  rw [Bool.not_eq_false, startsWith_iff, hsplit, List.prefix_append_right_inj] at hstarts
  cases hpayload : b.payload with
  | nil =>
      rw [hpayload] at hblank
      cases hblank
  | cons c payload =>
      rw [hpayload, List.cons_append, List.cons_prefix_cons] at hstarts
      rw [hpayload, ← hstarts.1] at hblank
      cases hblank

theorem readRuleList_payload :
  readRuleList b.payload = .ok b.rules
  := readRuleList_joined b.items_ne_nil b.identifiers

end FileBlock

theorem isUnquoted_blockLine (first : CodeText) (blocks : List (FileBlock × CodeText)) :
  IsUnquoted (blockLine first blocks)
  := by
  rw [blockLine, isUnquoted_append]
  use first.no_quote
  intro c hc
  obtain ⟨⟨b, t⟩, -, hc⟩ := List.mem_flatMap.mp hc
  rcases List.mem_append.mp hc with hc | hc
  · exact b.isUnquoted_text c hc
  · exact t.no_quote c hc

/-! ### The first block of a line -/

/-- A comment that is opened in a text that begins with a slash, after code that opens none,
is not opened before that slash. -/
theorem length_le_of_opening {t s before rest : List Char} (h : ¬ "/*".toList <:+: t)
    (heq : t ++ '/' :: s = before ++ '/' :: '*' :: rest) :
  t.length ≤ before.length
  := by
  rcases List.append_eq_append_iff.mp heq with ⟨u, rfl, -⟩ | ⟨u, rfl, hu⟩
  · rw [List.length_append]
    apply Nat.le_add_right
  · match u with
    | [] => simp
    | [c] =>
        -- the slash of the opening would end the code, and its star be the slash after it
        have hstar := (List.cons.inj (List.cons.inj hu).2).1
        cases hstar
    | c :: d :: u =>
        obtain ⟨rfl, hu'⟩ := List.cons.inj hu
        obtain ⟨rfl, -⟩ := List.cons.inj hu'
        exfalso
        apply h
        use before, u
        simp

section

variable (t : CodeText) (b : FileBlock) (tail : List Char)

theorem fileForm_append :
  FileForm (t.text ++ (b.text ++ tail)) b.payload
  := by
  have hline : t.text ++ (b.text ++ tail)
      = t.text ++ '/' :: '*' :: (b.gap ++ directiveKeyword
        ++ (b.payload ++ '*' :: (['/'] ++ tail))) := by
    simp [FileBlock.text, FileBlock.inside]
  refine ⟨t.text, b.payload ++ '*' :: (['/'] ++ tail), tail, ⟨⟨b.gap, b.gap_blank, hline⟩, ?_⟩,
    ?_, b.payload_blank, b.isBlankText_payload⟩
  · rintro before rest ⟨ws, -, hblock⟩
    apply length_le_of_opening t.no_block_comment
    rw [← hline, hblock]
  · apply isFirstCut_of_not_mem b.star_not_mem_payload

/-- What trimming leaves of the line. -/
theorem trim_append :
  trim (t.text ++ (b.text ++ tail))
    = trimLeft t.text ++ '/' :: (b.inside ++ '/' :: trimRight tail)
  := by
  have hline : t.text ++ (b.text ++ tail) = t.text ++ '/' :: (b.inside ++ '/' :: tail) := by
    simp [FileBlock.text]
  rw [hline]
  apply trim_append_cons_append (by decide) (by decide)

/-- The comment that the line begins with, if it begins with one, is the block, or a line
comment that begins with the star of the block. -/
theorem commentBody?_trim_append :
  commentBody? (trim (t.text ++ (b.text ++ tail))) = none
    ∨ (∃ s, commentBody? (trim (t.text ++ (b.text ++ tail))) = some (true, '*' :: s))
    ∨ commentBody? (trim (t.text ++ (b.text ++ tail)))
      = some (false, directiveKeyword ++ (b.payload ++ '*' :: '/' :: trimRight tail))
  := by
  obtain ⟨ws, -, hws⟩ := exists_append_trimLeft t.text
  have hinfix : trimLeft t.text <:+: t.text := by
    use ws, []
    rw [List.append_nil, ← hws]
  rw [trim_append]
  cases htext : trimLeft t.text with
  | nil =>
      right
      right
      rw [List.nil_append, FileBlock.inside, List.cons_append, commentBody?]
      congr 2
      rw [trimLeft_eq_keyword_append_iff]
      use b.gap, b.gap_blank
      simp
  | cons c s =>
      rw [htext] at hinfix
      cases s with
      | nil =>
          by_cases hc : c = '/'
          · right
            left
            subst hc
            exact ⟨_, rfl⟩
          · left
            rw [commentBody?.eq_def]
            simp [hc]
      | cons d s =>
          left
          have hslash : ¬ (c = '/' ∧ d = '/') := by
            rintro ⟨rfl, rfl⟩
            apply t.no_line_comment
            apply List.IsInfix.trans _ hinfix
            use [], s
            rfl
          have hstar : ¬ (c = '/' ∧ d = '*') := by
            rintro ⟨rfl, rfl⟩
            apply t.no_block_comment
            apply List.IsInfix.trans _ hinfix
            use [], s
            rfl
          rw [commentBody?.eq_def]
          split
          · rename_i heq
            obtain ⟨hc, heq'⟩ := List.cons.inj heq
            exact absurd ⟨hc, (List.cons.inj heq').1⟩ hslash
          · rename_i heq
            obtain ⟨hc, heq'⟩ := List.cons.inj heq
            exact absurd ⟨hc, (List.cons.inj heq').1⟩ hstar
          · rfl

theorem not_isMalformedOpener_append :
  isMalformedOpener (trim (t.text ++ (b.text ++ tail))) = false
  := by
  rcases commentBody?_trim_append t b tail with hbody | ⟨s, hbody⟩ | hbody
  · rw [isMalformedOpener, hbody]
  · apply not_isMalformedOpener_of_body hbody
    · rfl
    · rfl
    · have htrim : trimRight ('*' :: s) = '*' :: trimRight s :=
        trimRight_append_cons (by decide) [] s
      rw [htrim]
      intro heq
      cases (List.cons.inj heq).1
  · apply not_isMalformedOpener_of_body hbody
    · rfl
    · apply b.not_startsWith_variant
    · have hsplit : directiveKeyword ++ (b.payload ++ '*' :: '/' :: trimRight tail)
          = (directiveKeyword ++ (b.payload ++ ['*'])) ++ '/' :: trimRight tail := by
        simp
      rw [hsplit, trimRight_append_cons (by decide)]
      intro heq
      have hlen := congrArg List.length heq
      simp only [List.length_append, List.length_cons] at hlen
      omega

theorem nextLinePayload?_trim_append :
  nextLinePayload? (trim (t.text ++ (b.text ++ tail))) = none
  := by
  rw [nextLinePayload?]
  rcases commentBody?_trim_append t b tail with hbody | ⟨s, hbody⟩ | hbody
  · rw [hbody]
  · have hafter : after? nextLineKeyword ('*' :: s) = none := rfl
    rw [hbody]
    dsimp only
    rw [hafter]
  · rw [hbody]

theorem mentions_append :
  Mentions (t.text ++ (b.text ++ tail))
  := (fileForm_append t b tail).mentions

theorem not_guarded_append (h : IsUnquoted (t.text ++ (b.text ++ tail))) :
  ¬ Guarded (t.text ++ (b.text ++ tail))
  := by
  apply not_guarded_of_isUnquoted (c := '/') (by decide) _ h
  simp [FileBlock.text]

/-- The line is read as a directive for the rules of the block, unless the words for the next
line stand on it. -/
theorem readLine_append (h : IsUnquoted (t.text ++ (b.text ++ tail)))
    (hnext : ¬ SpeaksOfNextLine (t.text ++ (b.text ++ tail))) :
  readLine (t.text ++ (b.text ++ tail)) = .ok (some (.wholeFile b.rules))
  := by
  rw [readLine_of_hasForm (not_guarded_append t b tail h) (not_isMalformedOpener_append t b tail)
    (.wholeFile hnext (fileForm_append t b tail))]
  apply payloadDirective_of_ok b.readRuleList_payload

theorem readLine_append_of_speaksOfNextLine
    (h : IsUnquoted (t.text ++ (b.text ++ tail)))
    (hnext : SpeaksOfNextLine (t.text ++ (b.text ++ tail))) :
  readLine (t.text ++ (b.text ++ tail)) = .error .nextLineComment
  := by
  have hmentions := (occurs_keyword_trim_iff _).mpr (mentions_append t b tail)
  rw [readLine_of_not_guarded (not_guarded_append t b tail h),
    not_isMalformedOpener_append, if_neg (by simp), if_neg (by simp [hmentions]),
    if_pos ((occurs_nextLine_trim_iff _).mpr hnext), nextLinePayload?_trim_append]

end

/-! ### Words for the next line -/

theorem speaksOfNextLine_trim_iff (s : List Char) :
  SpeaksOfNextLine (trim s) ↔ SpeaksOfNextLine s
  := infix_trim_iff (c := 'd') (d := 'e') (by decide) (by decide) "isable-next-lin".toList s

/-- A character that is not in the words for the next line separates what speaks of it. -/
theorem speaksOfNextLine_append_cons_iff {c : Char} (hc : c ∉ "disable-next-line".toList)
    (s t : List Char) :
  SpeaksOfNextLine (s ++ c :: t) ↔ SpeaksOfNextLine s ∨ SpeaksOfNextLine t
  := infix_append_cons_iff hc s t

theorem not_speaksOfNextLine_nil :
  ¬ SpeaksOfNextLine []
  := by
  rw [SpeaksOfNextLine]
  decide

theorem speaksOfNextLine_joined_iff (items : List (List Char)) :
  SpeaksOfNextLine (joined [','] items) ↔ ∃ item ∈ items, SpeaksOfNextLine item
  := by
  fun_induction joined [','] items with
  | case1 => simp [not_speaksOfNextLine_nil]
  | case2 s => simp
  | case3 s t rest ih =>
      rw [List.append_assoc, List.singleton_append,
        speaksOfNextLine_append_cons_iff (by decide), ih]
      simp only [List.mem_cons, exists_eq_or_imp]

theorem FileBlock.exists_rule_iff (b : FileBlock) :
  (∃ rule ∈ b.rules, SpeaksOfNextLine rule.toList) ↔ ∃ item ∈ b.items, SpeaksOfNextLine item
  := by
  simp only [FileBlock.rules, List.mem_map, exists_exists_and_eq_and, String.toList_ofList,
    speaksOfNextLine_trim_iff]

/-- A block speaks of the next line when the name of one of its rules does. -/
theorem FileBlock.speaksOfNextLine_inside_iff (b : FileBlock) :
  SpeaksOfNextLine b.inside ↔ ∃ rule ∈ b.rules, SpeaksOfNextLine rule.toList
  := by
  have hpayload := b.payload_blank
  rw [b.exists_rule_iff, ← speaksOfNextLine_joined_iff]
  cases hjoined : joined [','] b.items with
  | nil =>
      rw [hjoined] at hpayload
      cases hpayload
  | cons c payload =>
      rw [hjoined] at hpayload
      have hc : c ∉ "disable-next-line".toList := by
        intro hmem
        have hall : ("disable-next-line".toList.all fun c => !isBlank c) = true := by decide
        have hblank := List.all_eq_true.mp hall c hmem
        rw [Bool.not_eq_true'] at hblank
        rw [startsBlank, hblank] at hpayload
        cases hpayload
      -- stars and the first blank of the payload cut the comment apart
      have hinside : b.inside
          = [] ++ '*' :: ((b.gap ++ directiveKeyword) ++ c :: (payload ++ '*' :: [])) := by
        simp [FileBlock.inside, FileBlock.payload, hjoined]
      have hkeyword : ¬ SpeaksOfNextLine (b.gap ++ directiveKeyword) := by
        rw [← speaksOfNextLine_trim_iff, trim_append_of_blank_left b.gap_blank, SpeaksOfNextLine]
        decide
      have hcons : SpeaksOfNextLine (c :: payload) ↔ SpeaksOfNextLine payload := by
        rw [← List.nil_append (c :: payload), speaksOfNextLine_append_cons_iff hc]
        simp only [not_speaksOfNextLine_nil, false_or]
      rw [hinside, speaksOfNextLine_append_cons_iff (by decide),
        speaksOfNextLine_append_cons_iff hc, speaksOfNextLine_append_cons_iff (by decide), hcons]
      simp only [not_speaksOfNextLine_nil, hkeyword, false_or, or_false]

/-- A line speaks of the next line when some of its code or the name of one of its rules
does. -/
theorem speaksOfNextLine_blockLine_iff (first : CodeText)
    (blocks : List (FileBlock × CodeText)) :
  SpeaksOfNextLine (blockLine first blocks)
    ↔ SpeaksOfNextLine first.text ∨ ∃ block ∈ blocks, SpeaksOfNextLine block.2.text
      ∨ ∃ rule ∈ block.1.rules, SpeaksOfNextLine rule.toList
  := by
  induction blocks generalizing first with
  | nil => simp [blockLine, blocksText]
  | cons block rest ih =>
      obtain ⟨b, t⟩ := block
      have hline : blockLine first ((b, t) :: rest)
          = first.text ++ '/' :: (b.inside ++ '/' :: blockLine t rest) := by
        rw [blockLine, blocksText_cons, FileBlock.text]
        simp [blockLine]
      rw [hline, speaksOfNextLine_append_cons_iff (by decide),
        speaksOfNextLine_append_cons_iff (by decide), b.speaksOfNextLine_inside_iff, ih]
      simp only [List.mem_cons, exists_eq_or_imp]
      apply or_congr_right
      rw [or_left_comm, or_assoc]

/-! ### Sources with one such line -/

theorem readLine_of_not_isDisableComment {line : List Char} (hk : ¬ Mentions line)
    (hd : ¬ IsDisableComment line) :
  readLine line = .ok none
  := by
  by_cases hg : Guarded line
  · apply readLine_of_guarded hg
  · apply readLine_of_not_mentions hg _ hk
    by_contra hm
    rw [Bool.not_eq_false] at hm
    apply hd (isDisableComment_of_isMalformedOpener hk hm)

/-- A source in which one line alone mentions the keyword, and no other line is a comment that
begins with the second half of the keyword. On the line blocks stand between code that has
no quotes and opens no comment. When neither the code nor the name of a rule on the line
holds the words for the next line, the source turns off, in the whole file, the rules of the
first block, and nothing else; these are the rules of all blocks just if the later blocks
list no others. When those words stand on the line, the source is refused there. -/
theorem readDirectives_blockLine {source : String} {before after : List (List Char)}
    {first t : CodeText} {b : FileBlock} {rest : List (FileBlock × CodeText)}
    (hsource : sourceLines source.toList
      = before ++ blockLine first ((b, t) :: rest) :: after)
    (hother : ∀ l ∈ before ++ after, ¬ Mentions l ∧ ¬ IsDisableComment l)
    (file : Option String) :
  let speaks := SpeaksOfNextLine first.text ∨ ∃ block ∈ (b, t) :: rest,
    SpeaksOfNextLine block.2.text ∨ ∃ rule ∈ block.1.rules, SpeaksOfNextLine rule.toList
  (¬ speaks → readDirectives source file = .ok ⟨b.rules, [], false⟩
    ∧ ((∀ rule, rule ∈ b.rules ↔ ∃ block ∈ (b, t) :: rest, rule ∈ block.1.rules)
      ↔ ∀ block ∈ rest, block.1.rules ⊆ b.rules))
  ∧ (speaks → readDirectives source file
    = .error (.comment "Invalid disable-next-line comment format"
      (String.ofList (blockLine first ((b, t) :: rest)))
      ⟨file, some ((before.length + 1 : Nat) : Int)⟩))
  := by
  intro speaks
  have hspeaks := speaksOfNextLine_blockLine_iff first ((b, t) :: rest)
  have hquote := isUnquoted_blockLine first ((b, t) :: rest)
  have hline : blockLine first ((b, t) :: rest)
      = first.text ++ (b.text ++ (t.text ++ blocksText rest)) := by
    rw [blockLine, blocksText_cons]
  have hnone : ∀ l ∈ before ++ after, readLine l = .ok none := by
    intro l hl
    apply readLine_of_not_isDisableComment (hother l hl).1 (hother l hl).2
  obtain ⟨hbefore, hafter⟩ := List.forall_mem_append.mp hnone
  rw [hline] at hspeaks hquote
  rw [readDirectives_eq_scanLines, hsource, scanLines, scanFrom_append_of_none hbefore, hline]
  constructor
  · intro hno
    have hread := readLine_append first b (t.text ++ blocksText rest) hquote
      (mt hspeaks.mp hno)
    rw [scanFrom_cons_of_ok hread, scanFrom_of_none hafter]
    constructor
    · simp [Except.map, directiveEffect]
    · constructor
      · intro h block hblock rule hrule
        exact (h rule).mpr ⟨block, List.mem_cons_of_mem _ hblock, hrule⟩
      · intro h rule
        constructor
        · intro hrule
          use (b, t), List.mem_cons_self
        · rintro ⟨block, hblock, hrule⟩
          rcases List.mem_cons.mp hblock with rfl | hblock
          · exact hrule
          · exact h block hblock hrule
  · intro hyes
    have hread := readLine_append_of_speaksOfNextLine first b (t.text ++ blocksText rest) hquote
      (hspeaks.mpr hyes)
    rw [scanFrom_cons_of_error hread, Nat.add_comm 1]
    rfl

/-- A line whose second block lists a rule of the first again. -/
theorem readDirectives_blockLine_twice :
  let source := "f();\nx(); /*avesta-disable   a ,b*/ y(); /* avesta-disable b */\ng();"
  readDirectives source none = .ok ⟨["a", "b"], [], false⟩
  ∧ ∃ first t b c, sourceLines source.toList
      = ["f();".toList, blockLine first [(b, t), (c, .empty)], "g();".toList]
    ∧ ∀ rule, rule ∈ ["a", "b"] ↔ ∃ block ∈ [(b, t), (c, .empty)], rule ∈ block.1.rules
  := by
  intro source
  let first : CodeText := ⟨"x(); ".toList, by decide, by decide, by decide⟩
  let t : CodeText := ⟨" y(); ".toList, by decide, by decide, by decide⟩
  let b : FileBlock := {
    gap := []
    items := ["   a ".toList, "b".toList]
    gap_blank := by decide
    items_ne_nil := by decide
    identifiers := by decide
    payload_blank := by decide }
  let c : FileBlock := .single "b".toList (by decide)
  have hsource : sourceLines source.toList
      = ["f();".toList] ++ blockLine first [(b, t), (c, .empty)] :: ["g();".toList] := by
    decide +kernel
  have hother : ∀ l ∈ ["f();".toList] ++ ["g();".toList], ¬ Mentions l ∧ ¬ IsDisableComment l := by
    have hclosed : ∀ l ∈ ["f();".toList] ++ ["g();".toList],
        occurs directiveKeyword l = false ∧ (trim l).head? ≠ some '/' := by
      decide +kernel
    intro l hl
    obtain ⟨hk, hhead⟩ := hclosed l hl
    constructor
    · intro hmentions
      rw [Mentions, ← occurs_iff, hk] at hmentions
      cases hmentions
    · rintro ⟨rest, ⟨ws, -, htrim⟩ | ⟨ws, -, htrim⟩⟩
      · rw [htrim] at hhead
        exact hhead rfl
      · rw [htrim] at hhead
        exact hhead rfl
  obtain ⟨hread, -⟩ := readDirectives_blockLine hsource hother none
  obtain ⟨hread, hrules⟩ := hread (by
    simp only [SpeaksOfNextLine]
    decide)
  use hread, first, t, b, c, hsource
  exact hrules.mpr (by decide)

/-- Two blocks on a line of which the second is passed over, and a block that is refused
because the name of its rule holds the words for the next line. -/
theorem readDirectives_blocks_not_honoured :
  ∃ (t : CodeText) (a b c : FileBlock),
    a.rules = ["a"] ∧ b.rules = ["b"] ∧ c.rules = ["no-disable-next-line"]
    ∧ readDirectives (String.ofList (blockLine t [(a, t), (b, t)])) none
      = .ok ⟨["a"], [], false⟩
    ∧ readDirectives (String.ofList (blockLine t [(c, t)])) none
      = .error (.comment "Invalid disable-next-line comment format"
        "/* avesta-disable no-disable-next-line */" ⟨none, some 1⟩)
  := by
  use .empty, .single "a".toList (by decide), .single "b".toList (by decide),
    .single "no-disable-next-line".toList (by decide)
  refine ⟨?_, ?_, ?_, ?_, ?_⟩
  · decide +kernel
  · decide +kernel
  · decide +kernel
  · decide +kernel
  · decide +kernel

end SourceAudit
