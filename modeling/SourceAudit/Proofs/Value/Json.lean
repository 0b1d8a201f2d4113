import SourceAudit.Proofs.Value.JsonLiterals

/-!
# JSON over several lines is read back

A value without decimals and points in time, written as JSON over several lines, is what its
text denotes: the blanks between its parts are passed over, lists are read item by item and
tables entry by entry. The reader's budget and room are spent more slowly than the text gets
shorter.
-/

namespace SourceAudit.Json

open Text

/-! ### Blanks between parts -/

/-- The blanks that may stand between two parts of a value. -/
def partBlanks : List Char := [' ', '\t', '\n', '\r']

theorem skipBlanks_of_not_mem {c : Char} (h : c ∉ partBlanks) (s : List Char) :
  skipBlanks (c :: s) = c :: s
  := by
  simp only [partBlanks, List.mem_cons, List.not_mem_nil, or_false, not_or] at h
  simp [skipBlanks, h]

theorem toList_newLineAt (level : Nat) :
  (newLineAt level).toList = '\n' :: List.replicate (2 * level) ' '
  := by
  rw [newLineAt, String.toList_ofList]

theorem skipBlanks_newLineAt (level : Nat) (s : List Char) :
  skipBlanks ((newLineAt level).toList ++ s) = skipBlanks s
  := by
  have hblanks : ∀ n, skipBlanks (List.replicate n ' ' ++ s) = skipBlanks s := by
    intro n
    induction n with
    | zero => rfl
    | succ n ih => simp [List.replicate_succ, skipBlanks, ih]
  rw [toList_newLineAt, List.cons_append, ← hblanks (2 * level)]
  simp [skipBlanks]

/-! ### Where a value begins -/

/-- The character is no blank between parts of a value and no closing bracket. -/
def OpensValue (c : Char) : Prop :=
  c ∉ partBlanks ∧ c ≠ ']'

instance (c : Char) : Decidable (OpensValue c) :=
  inferInstanceAs (Decidable (_ ∧ _))

theorem opensValue_of_isAsciiDigit {c : Char} (h : isAsciiDigit c = true) :
  OpensValue c
  := by
  constructor
  · intro hmem
    have hblank : ∀ d ∈ partBlanks, isAsciiDigit d = false := by
      simp only [partBlanks, List.forall_mem_cons]
      exact ⟨rfl, rfl, rfl, rfl, by simp⟩
    exact ne_of_isAsciiDigit h (hblank c hmem) rfl
  · exact ne_of_isAsciiDigit h (by decide)

theorem exists_jsonBracketed_eq_cons (level : Nat) {opening : String} {c : Char}
    (h : opening.toList = [c]) (closing : String) (parts : List String) :
  ∃ s, (jsonBracketed level opening closing parts).toList = c :: s
  := by
  rw [jsonBracketed]
  split
  · exact ⟨closing.toList, by rw [String.toList_append, h, List.singleton_append]⟩
  · simp only [String.toList_append, h, List.cons_append, List.nil_append]
    exact ⟨_, rfl⟩

theorem spreadAt_null (level : Nat) :
  spreadAt level .null = "null"
  := by
  simp [spreadAt, scalarLiteral]

theorem spreadAt_bool (level : Nat) (b : Bool) :
  spreadAt level (.bool b) = if b then "true" else "false"
  := by
  simp [spreadAt, scalarLiteral]

theorem spreadAt_int (level : Nat) (n : Int) :
  spreadAt level (.int n) = intText n
  := by
  simp [spreadAt, scalarLiteral]

theorem spreadAt_text (level : Nat) (s : String) :
  spreadAt level (.text s) = textLiteral s
  := by
  simp [spreadAt, scalarLiteral]

/-- The values that are read back: there is no decimal and no point in time in them, whole
numbers have no more digits than a text may have, and no table has a key twice. -/
inductive IsPlain : Value → Prop
  | null : IsPlain .null
  | bool (b : Bool) : IsPlain (.bool b)
  | int {n : Int} (h : n.natAbs < 10 ^ maxDigits) : IsPlain (.int n)
  | text (s : String) : IsPlain (.text s)
  | list {items : List Value} (h : ∀ v ∈ items, IsPlain v) : IsPlain (.list items)
  | table {entries : Entries} (hkeys : (entries.map Prod.fst).Nodup)
      (h : ∀ e ∈ entries, IsPlain e.2) : IsPlain (.table entries)

/-- A value over several lines begins with a character that opens a value. -/
theorem exists_spreadAt_eq_cons {v : Value} (h : IsPlain v) (level : Nat) :
  ∃ c s, (spreadAt level v).toList = c :: s ∧ OpensValue c
  := by
  cases h with
  | null =>
      rw [spreadAt_null]
      exact ⟨'n', "ull".toList, rfl, by decide⟩
  | bool b =>
      rw [spreadAt_bool]
      cases b with
      | false => exact ⟨'f', "alse".toList, rfl, by decide⟩
      | true => exact ⟨'t', "rue".toList, rfl, by decide⟩
  | @int n h =>
      rw [spreadAt_int]
      obtain ⟨c, s, hc, hopens⟩ := exists_intText_eq_cons n
      refine ⟨c, s, hc, ?_⟩
      rcases hopens with rfl | hdigit
      · decide
      · exact opensValue_of_isAsciiDigit hdigit
  | text s =>
      rw [spreadAt_text, textLiteral, String.toList_ofList]
      exact ⟨'"', _, rfl, by decide⟩
  | @list items h =>
      rw [spreadAt]
      obtain ⟨s, hs⟩ := exists_jsonBracketed_eq_cons level (rfl : "[".toList = ['[']) "]"
        (spreadItems (level + 1) items)
      exact ⟨_, s, hs, by decide⟩
  | @table entries hkeys h =>
      rw [spreadAt]
      obtain ⟨s, hs⟩ := exists_jsonBracketed_eq_cons level (rfl : "\x7b".toList = ['\x7b']) "\x7d"
        (spreadEntries (level + 1) entries)
      exact ⟨_, s, hs, by decide⟩

theorem skipBlanks_spreadAt_append {v : Value} (h : IsPlain v) (level : Nat) (s : List Char) :
  skipBlanks ((spreadAt level v).toList ++ s) = (spreadAt level v).toList ++ s
  := by
  obtain ⟨c, t, hc, hopens⟩ := exists_spreadAt_eq_cons h level
  rw [hc, List.cons_append, skipBlanks_of_not_mem hopens.1]

/-! ### Values without items -/

/-- The value is read back from its text over several lines, whatever stands after it that does
not go on with a number, when there is budget and room enough. -/
def ReadsBack (v : Value) : Prop :=
  ∀ {level budget room : Nat} {s : List Char}, 2 * (spreadAt level v).toList.length ≤ budget →
    (spreadAt level v).toList.length ≤ room → EndsNumber s →
    readValue budget room ((spreadAt level v).toList ++ s) = .ok (v, s)

theorem readValue_of_ne {c : Char} (hlist : c ≠ '[') (htable : c ≠ '\x7b') (budget room : Nat)
    (s : List Char) :
  readValue (budget + 1) room (c :: s) = readScalar (c :: s)
  := by
  rw [readValue]
  · rintro t h -
    exact hlist (List.cons.inj h).1
  · rintro t h -
    exact htable (List.cons.inj h).1
  · rintro t room' h -
    exact hlist (List.cons.inj h).1
  · rintro t room' h -
    exact htable (List.cons.inj h).1

/-- A value that is read by itself, and is no list and no table, is read back. -/
theorem readsBack_of_readScalar {v : Value} {text : String} {c : Char} {t : List Char}
    (htext : ∀ level, spreadAt level v = text) (hc : text.toList = c :: t) (hlist : c ≠ '[')
    (htable : c ≠ '\x7b')
    (hread : ∀ {s}, EndsNumber s → readScalar (text.toList ++ s) = .ok (v, s)) :
  ReadsBack v
  := by
  rintro level budget room s hbudget - hs
  rw [htext] at hbudget ⊢
  have hscalar := hread hs
  rw [hc, List.length_cons] at hbudget
  rw [hc, List.cons_append] at hscalar ⊢
  obtain ⟨budget, rfl⟩ : ∃ b, budget = b + 1 := ⟨budget - 1, by omega⟩
  rw [readValue_of_ne hlist htable, hscalar]

theorem readsBack_null :
  ReadsBack .null
  := by
  apply readsBack_of_readScalar spreadAt_null (rfl : "null".toList = 'n' :: "ull".toList)
    (by decide) (by decide)
  intro s hs
  exact jsonWord_append "null" .null s

theorem readsBack_bool (b : Bool) :
  ReadsBack (.bool b)
  := by
  cases b with
  | false =>
      apply readsBack_of_readScalar (fun level => spreadAt_bool level false)
        (rfl : "false".toList = 'f' :: "alse".toList) (by decide) (by decide)
      intro s hs
      exact jsonWord_append "false" (.bool false) s
  | true =>
      apply readsBack_of_readScalar (fun level => spreadAt_bool level true)
        (rfl : "true".toList = 't' :: "rue".toList) (by decide) (by decide)
      intro s hs
      exact jsonWord_append "true" (.bool true) s

theorem readsBack_int {n : Int} (h : n.natAbs < 10 ^ maxDigits) :
  ReadsBack (.int n)
  := by
  obtain ⟨c, t, hc, hopens⟩ := exists_intText_eq_cons n
  have hne : ∀ d, d ≠ '-' → isAsciiDigit d = false → c ≠ d := by
    rintro d hminus hd rfl
    rcases hopens with rfl | hdigit
    · exact hminus rfl
    · exact ne_of_isAsciiDigit hdigit hd rfl
  apply readsBack_of_readScalar (fun level => spreadAt_int level n) hc
    (hne _ (by decide) (by decide)) (hne _ (by decide) (by decide))
  intro s hs
  exact readScalar_intText h hs

theorem readsBack_text (s : String) :
  ReadsBack (.text s)
  := by
  apply readsBack_of_readScalar (fun level => spreadAt_text level s) (toList_textLiteral s)
    (by decide) (by decide)
  intro t ht
  rw [toList_textLiteral, List.append_assoc, List.singleton_append, List.cons_append, readScalar,
    readText_escapedChars]
  rfl

/-! ### Lists and tables -/

/-- What follows a part within brackets: further parts on lines of their own, then the closing
bracket. -/
def followingParts (level : Nat) (closing : Char) : List String → List Char
  | [] => (newLineAt level).toList ++ [closing]
  | part :: parts =>
    ',' :: (newLineAt (level + 1)).toList ++ part.toList ++ followingParts level closing parts

theorem endsNumber_followingParts (level : Nat) (closing : Char) (parts : List String)
    (s : List Char) :
  EndsNumber (followingParts level closing parts ++ s)
  := by
  intro c hc
  cases parts with
  | nil =>
      rw [followingParts, toList_newLineAt] at hc
      obtain rfl := Option.some_inj.mp hc
      decide
  | cons part parts =>
      rw [followingParts] at hc
      obtain rfl := Option.some_inj.mp hc
      decide

theorem toList_jsonBracketed_cons (level : Nat) {opening closing : String} {c d : Char}
    (hc : opening.toList = [c]) (hd : closing.toList = [d]) (part : String)
    (parts : List String) :
  (jsonBracketed level opening closing (part :: parts)).toList
    = c :: (newLineAt (level + 1)).toList ++ part.toList ++ followingParts level d parts
  := by
  have hjoined : ∀ part : String,
      joined ("," ++ newLineAt (level + 1)).toList ((part :: parts).map String.toList)
          ++ (newLineAt level).toList ++ [d]
        = part.toList ++ followingParts level d parts := by
    induction parts with
    | nil =>
        intro part
        rw [List.map_singleton, joined, followingParts, List.append_assoc]
    | cons next parts ih =>
        intro part
        have hsep : ("," ++ newLineAt (level + 1)).toList
            = ',' :: (newLineAt (level + 1)).toList := by
          rw [String.toList_append]
          rfl
        have hnext := ih next
        rw [List.map_cons] at hnext
        rw [List.map_cons, List.map_cons, joined, List.append_assoc, List.append_assoc,
          List.append_assoc, ← List.append_assoc _ (newLineAt level).toList, hnext, hsep,
          followingParts, List.append_assoc]
  rw [jsonBracketed, if_neg (by simp), String.toList_append, String.toList_append,
    String.toList_append, String.toList_append, toList_joinWith, hc, hd, List.append_assoc,
    List.append_assoc, ← List.append_assoc (joined _ _), hjoined]
  simp only [List.cons_append, List.nil_append, List.append_assoc]

/-- Items are read back one by one. -/
theorem readItems_followingParts (level : Nat) {v : Value} {items : List Value}
    (h : ∀ w ∈ v :: items, IsPlain w ∧ ReadsBack w) {budget room : Nat} {s : List Char}
    (hbudget : 2 * ((spreadAt (level + 1) v).toList
      ++ followingParts level ']' (spreadItems (level + 1) items)).length ≤ budget)
    (hroom : ((spreadAt (level + 1) v).toList
      ++ followingParts level ']' (spreadItems (level + 1) items)).length ≤ room) :
  readItems budget room ((spreadAt (level + 1) v).toList
      ++ followingParts level ']' (spreadItems (level + 1) items) ++ s)
    = .ok (v :: items, s)
  := by
  induction items generalizing v budget with
  | nil =>
      obtain ⟨-, hback⟩ := h v List.mem_cons_self
      rw [spreadItems, followingParts] at hbudget hroom ⊢
      simp only [List.length_append, List.length_singleton] at hbudget hroom
      obtain ⟨budget, rfl⟩ : ∃ b, budget = b + 1 := ⟨budget - 1, by omega⟩
      have hs : EndsNumber ((newLineAt level).toList ++ [']'] ++ s) :=
        endsNumber_followingParts level ']' [] s
      rw [List.append_assoc, readItems, hback (by omega) (by omega) hs]
      dsimp only
      rw [List.append_assoc, skipBlanks_newLineAt]
      rfl
  | cons w items ih =>
      obtain ⟨-, hback⟩ := h v List.mem_cons_self
      have hrest := fun u hu => h u (List.mem_cons_of_mem v hu)
      have hs := endsNumber_followingParts level ']' (spreadItems (level + 1) (w :: items)) s
      rw [spreadItems] at hbudget hroom hs ⊢
      rw [followingParts] at hbudget hroom hs ⊢
      simp only [List.length_append, List.length_cons] at hbudget hroom ih
      obtain ⟨budget, rfl⟩ : ∃ b, budget = b + 1 := ⟨budget - 1, by omega⟩
      rw [List.append_assoc, readItems, hback (by omega) (by omega) hs]
      simp only [List.cons_append, List.append_assoc] at ih ⊢
      rw [skipBlanks_of_not_mem (by decide)]
      change (readItems budget room (skipBlanks _)).map _ = _
      rw [skipBlanks_newLineAt, skipBlanks_spreadAt_append (hrest w List.mem_cons_self).1,
        ih hrest (by omega) (by omega)]
      rfl

/-- The text of an entry: its key, a colon and its value. -/
def entryPart (level : Nat) (e : String × Value) : String :=
  textLiteral e.1 ++ ": " ++ spreadAt level e.2

theorem spreadEntries_cons (level : Nat) (e : String × Value) (entries : Entries) :
  spreadEntries level (e :: entries) = entryPart level e :: spreadEntries level entries
  := by
  rw [spreadEntries, entryPart]

theorem toList_entryPart (level : Nat) (e : String × Value) :
  (entryPart level e).toList
    = '"' :: (e.1.toList.flatMap escapedChar ++ '"' :: ':' :: ' ' :: (spreadAt level e.2).toList)
  := by
  have hcolon : ": ".toList = [':', ' '] := rfl
  rw [entryPart, String.toList_append, String.toList_append, toList_textLiteral, hcolon]
  simp

theorem skipBlanks_entryPart_append (level : Nat) (e : String × Value) (s : List Char) :
  skipBlanks ((entryPart level e).toList ++ s) = (entryPart level e).toList ++ s
  := by
  rw [toList_entryPart, List.cons_append, skipBlanks_of_not_mem (by decide)]

theorem length_spreadAt_lt_entryPart (level : Nat) (e : String × Value) :
  (spreadAt level e.2).toList.length < (entryPart level e).toList.length
  := by
  rw [toList_entryPart]
  simp only [List.length_cons, List.length_append]
  omega

/-- One entry is read back, and what follows it decides how it goes on. -/
theorem readEntries_entryPart {level : Nat} {e : String × Value} (hplain : IsPlain e.2)
    (hback : ReadsBack e.2) {before : Entries} (hkey : e.1 ∉ before.map Prod.fst)
    {budget room : Nat} (hbudget : 2 * (spreadAt level e.2).toList.length ≤ budget)
    (hroom : (spreadAt level e.2).toList.length ≤ room) {s : List Char} (hs : EndsNumber s)
    (rest : List Char) :
  (skipBlanks s = '\x7d' :: rest →
    readEntries (budget + 1) room before ((entryPart level e).toList ++ s)
      = .ok (before ++ [e], rest))
  ∧ (skipBlanks s = ',' :: rest →
    readEntries (budget + 1) room before ((entryPart level e).toList ++ s)
      = readEntries budget room (before ++ [e]) (skipBlanks rest))
  := by
  rw [toList_entryPart, List.cons_append, List.append_assoc, readEntries, List.cons_append,
    readText_escapedChars]
  dsimp only
  rw [List.cons_append, skipBlanks_of_not_mem (by decide)]
  have hblank : skipBlanks (' ' :: ((spreadAt level e.2).toList ++ s))
      = (spreadAt level e.2).toList ++ s := by
    rw [skipBlanks, if_pos (by decide), skipBlanks_spreadAt_append hplain]
  simp only [List.cons_append]
  rw [hblank, hback hbudget hroom hs, ← Entries.put_of_not_mem hkey]
  constructor
  · intro hclose
    simp only [hclose]
  · intro hcomma
    simp only [hcomma]

/-- Entries are read back one by one. -/
theorem readEntries_followingParts (level : Nat) {e : String × Value} {entries : Entries}
    (h : ∀ f ∈ e :: entries, IsPlain f.2 ∧ ReadsBack f.2) {before : Entries}
    (hkeys : ((before ++ e :: entries).map Prod.fst).Nodup) {budget room : Nat} {s : List Char}
    (hbudget : 2 * ((entryPart (level + 1) e).toList
      ++ followingParts level '\x7d' (spreadEntries (level + 1) entries)).length ≤ budget)
    (hroom : ((entryPart (level + 1) e).toList
      ++ followingParts level '\x7d' (spreadEntries (level + 1) entries)).length ≤ room) :
  readEntries budget room before ((entryPart (level + 1) e).toList
      ++ followingParts level '\x7d' (spreadEntries (level + 1) entries) ++ s)
    = .ok (before ++ e :: entries, s)
  := by
  induction entries generalizing e before budget with
  | nil =>
      obtain ⟨hplain, hback⟩ := h e List.mem_cons_self
      have he := length_spreadAt_lt_entryPart (level + 1) e
      have hkey := not_mem_keys_of_nodup_append hkeys
      rw [spreadEntries] at hbudget hroom ⊢
      have hs := endsNumber_followingParts level '\x7d' [] s
      rw [List.length_append] at hbudget hroom
      obtain ⟨budget, rfl⟩ : ∃ b, budget = b + 1 := ⟨budget - 1, by omega⟩
      rw [List.append_assoc]
      refine (readEntries_entryPart hplain hback hkey (by omega) (by omega) hs s).1 ?_
      rw [followingParts, List.append_assoc, skipBlanks_newLineAt, List.singleton_append]
      exact skipBlanks_of_not_mem (by decide) s
  | cons f entries ih =>
      obtain ⟨hplain, hback⟩ := h e List.mem_cons_self
      have hrest := fun u hu => h u (List.mem_cons_of_mem e hu)
      have he := length_spreadAt_lt_entryPart (level + 1) e
      have hkey := not_mem_keys_of_nodup_append hkeys
      rw [spreadEntries_cons] at hbudget hroom ⊢
      have hs := endsNumber_followingParts level '\x7d'
        (entryPart (level + 1) f :: spreadEntries (level + 1) entries) s
      rw [followingParts] at hbudget hroom
      simp only [List.length_append, List.length_cons] at hbudget hroom ih
      obtain ⟨budget, rfl⟩ : ∃ b, budget = b + 1 := ⟨budget - 1, by omega⟩
      rw [followingParts] at hs ⊢
      simp only [List.cons_append, List.append_assoc] at ih hs ⊢
      refine ((readEntries_entryPart hplain hback hkey (by omega) (by omega) hs _).2
        (skipBlanks_of_not_mem (by decide) _)).trans ?_
      have hlater : ((before ++ [e] ++ f :: entries).map Prod.fst).Nodup := by
        rw [List.append_assoc]
        exact hkeys
      rw [skipBlanks_newLineAt, skipBlanks_entryPart_append,
        ih hrest hlater (by omega) (by omega), List.append_assoc, List.singleton_append]

theorem readsBack_list {items : List Value} (h : ∀ v ∈ items, IsPlain v ∧ ReadsBack v) :
  ReadsBack (.list items)
  := by
  intro level budget room s hbudget hroom hs
  cases items with
  | nil =>
      have htext : (spreadAt level (.list [])).toList = ['[', ']'] := by
        rw [spreadAt, spreadItems, jsonBracketed, if_pos (by rfl)]
        rfl
      rw [htext] at hbudget hroom ⊢
      obtain ⟨budget, rfl⟩ : ∃ b, budget = b + 1 := ⟨budget - 1, by simp at hbudget; omega⟩
      obtain ⟨room, rfl⟩ : ∃ r, room = r + 1 := ⟨room - 1, by simp at hroom; omega⟩
      simp [readValue, skipBlanks]
  | cons v items =>
      obtain ⟨c, t, hc, hopens⟩ := exists_spreadAt_eq_cons (h v List.mem_cons_self).1 (level + 1)
      have htext : (spreadAt level (.list (v :: items))).toList
          = '[' :: ((newLineAt (level + 1)).toList ++ ((spreadAt (level + 1) v).toList
            ++ followingParts level ']' (spreadItems (level + 1) items))) := by
        have hopening : "[".toList = ['['] := rfl
        have hclosing : "]".toList = [']'] := rfl
        rw [spreadAt, spreadItems, toList_jsonBracketed_cons level hopening hclosing]
        simp only [List.cons_append, List.append_assoc]
      rw [htext] at hbudget hroom ⊢
      rw [List.length_cons, List.length_append] at hbudget hroom
      obtain ⟨budget, rfl⟩ : ∃ b, budget = b + 1 := ⟨budget - 1, by omega⟩
      obtain ⟨room, rfl⟩ : ∃ r, room = r + 1 := ⟨room - 1, by omega⟩
      rw [List.cons_append, List.append_assoc, readValue, skipBlanks_newLineAt, List.append_assoc,
        skipBlanks_spreadAt_append (h v List.mem_cons_self).1]
      split
      · rename_i hclose
        rw [hc, List.cons_append] at hclose
        exact absurd (List.cons.inj hclose).1 hopens.2
      · rw [← List.append_assoc, readItems_followingParts level h (by omega) (by omega)]
        rfl

theorem readsBack_table {entries : Entries} (hkeys : (entries.map Prod.fst).Nodup)
    (h : ∀ e ∈ entries, IsPlain e.2 ∧ ReadsBack e.2) :
  ReadsBack (.table entries)
  := by
  intro level budget room s hbudget hroom hs
  cases entries with
  | nil =>
      have htext : (spreadAt level (.table [])).toList = ['\x7b', '\x7d'] := by
        rw [spreadAt, spreadEntries, jsonBracketed, if_pos (by rfl)]
        rfl
      rw [htext] at hbudget hroom ⊢
      obtain ⟨budget, rfl⟩ : ∃ b, budget = b + 1 := ⟨budget - 1, by simp at hbudget; omega⟩
      obtain ⟨room, rfl⟩ : ∃ r, room = r + 1 := ⟨room - 1, by simp at hroom; omega⟩
      simp [readValue, skipBlanks]
  | cons e entries =>
      have htext : (spreadAt level (.table (e :: entries))).toList
          = '\x7b' :: ((newLineAt (level + 1)).toList ++ ((entryPart (level + 1) e).toList
            ++ followingParts level '\x7d' (spreadEntries (level + 1) entries))) := by
        have hopening : "\x7b".toList = ['\x7b'] := rfl
        have hclosing : "\x7d".toList = ['\x7d'] := rfl
        rw [spreadAt, spreadEntries_cons, toList_jsonBracketed_cons level hopening hclosing]
        simp only [List.cons_append, List.append_assoc]
      rw [htext] at hbudget hroom ⊢
      rw [List.length_cons, List.length_append] at hbudget hroom
      obtain ⟨budget, rfl⟩ : ∃ b, budget = b + 1 := ⟨budget - 1, by omega⟩
      obtain ⟨room, rfl⟩ : ∃ r, room = r + 1 := ⟨room - 1, by omega⟩
      rw [List.cons_append, List.append_assoc, readValue, skipBlanks_newLineAt, List.append_assoc,
        skipBlanks_entryPart_append]
      split
      · rename_i hclose
        rw [toList_entryPart, List.cons_append] at hclose
        exact absurd (List.cons.inj hclose).1 (by decide)
      · rw [← List.append_assoc, readEntries_followingParts level h hkeys (by omega) (by omega)]
        rfl

/-- A value that is plain is read back from its text, whatever follows it. -/
theorem readsBack_of_isPlain {v : Value} (h : IsPlain v) :
  ReadsBack v
  := by
  induction h with
  | null => exact readsBack_null
  | bool b => exact readsBack_bool b
  | int h => exact readsBack_int h
  | text s => exact readsBack_text s
  | list h ih => exact readsBack_list fun v hv => ⟨h v hv, ih v hv⟩
  | table hkeys h ih => exact readsBack_table hkeys fun e he => ⟨h e he, ih e he⟩

/-- A value that is plain is what its text denotes. -/
theorem parse_spread {v : Value} (h : IsPlain v) :
  parse (spread v) = .ok v
  := by
  have hends : EndsNumber [] := by
    rintro c ⟨⟩
  have hskip := skipBlanks_spreadAt_append h 0 []
  have hread : readValue (2 * (spreadAt 0 v).toList.length + 2) (spreadAt 0 v).toList.length
      ((spreadAt 0 v).toList ++ []) = .ok (v, []) :=
    readsBack_of_isPlain h (Nat.le_add_right _ 2) (Nat.le_refl _) hends
  rw [List.append_nil] at hskip hread
  rw [spread, parse, readWithin, hskip, ← String.length_toList, hread]
  rfl

/-! ### Values that can be written out -/

theorem areWritable_iff (items : List Value) :
  areWritable items = true ↔ ∀ v ∈ items, isWritable v = true
  := by
  induction items with
  | nil => simp [areWritable]
  | cons v items ih => simp [areWritable, ih]

theorem areWritableEntries_iff (entries : Entries) :
  areWritableEntries entries = true ↔ ∀ e ∈ entries, isWritable e.2 = true
  := by
  induction entries with
  | nil => simp [areWritableEntries]
  | cons e entries ih => simp [areWritableEntries, ih]

theorem isSome_spread?_iff (v : Value) :
  (spread? v).isSome = true ↔ isWritable v = true
  := by
  rw [spread?]
  split <;> simp [*]

theorem spread?_eq_some_iff {v : Value} {text : String} :
  spread? v = some text ↔ isWritable v = true ∧ spread v = text
  := by
  rw [spread?]
  split <;> simp [*]

end SourceAudit.Json
