import SourceAudit.Proofs.Value.Json
import Mathlib.Data.List.Infix
import Mathlib.Tactic.Use

/-!
# What stops the reading of JSON

Beside texts that are no JSON, two things stop a reader: a whole number with too many digits and
values nested too deep. Both can be seen in the text: then more digits stand in a row than a
number may have, or more lists and tables open than there is room for.

* `IsReading`: what a reading step may come to.
* `isReading_readValue`, `isReading_readItems`, `isReading_readEntries`: the steps of the reader,
  each from those with a smaller budget.
* `isFaultOf_of_readWithin`: a fault of a text is one of these.
* `read_toDigits_of_le`: a number with too many digits is a fault.
-/

namespace SourceAudit.Json

open Text

/-! ### Faults of a text -/

/-- Whether a list or a table opens with the character. -/
def isOpening (c : Char) : Bool :=
  c = '[' || c = '\x7b'

/-- More digits stand in a row than a number may have. -/
def HasLongNumber (s : List Char) : Prop :=
  ∃ digits, digits <:+: s ∧ maxDigits < digits.length ∧ ∀ c ∈ digits, isAsciiDigit c = true

/-- The text shows the fault, when lists and tables may be nested so deep. -/
def Fault.IsFaultOf (room : Nat) (s : List Char) : Fault → Prop
  | .malformed => True
  | .tooManyDigits => HasLongNumber s
  | .tooDeep => room < s.countP isOpening

/-- A step that reads from the text leaves an end of it, or stops at a fault that it shows. -/
inductive IsReading {α : Type} (room : Nat) (s : List Char) : Step α → Prop where
  | left {a : α} {rest : List Char} (h : rest <:+ s) : IsReading room s (.ok (a, rest))
  | fault {fault : Fault} (h : fault.IsFaultOf room s) : IsReading room s (.error fault)

section

variable {α β : Type} {room : Nat} {s t : List Char}

theorem HasLongNumber.of_suffix (h : HasLongNumber t) (hsuffix : t <:+ s) :
  HasLongNumber s
  := by
  obtain ⟨digits, hinfix, hdigits⟩ := h
  exact ⟨digits, hinfix.trans hsuffix.isInfix, hdigits⟩

theorem Fault.IsFaultOf.of_suffix {fault : Fault} (h : fault.IsFaultOf room t)
    (hsuffix : t <:+ s) :
  fault.IsFaultOf room s
  := by
  cases fault with
  | malformed => trivial
  | tooManyDigits => exact HasLongNumber.of_suffix h hsuffix
  | tooDeep => exact Nat.lt_of_lt_of_le h hsuffix.sublist.countP_le

/-- What opens takes one unit of the room. -/
theorem Fault.IsFaultOf.opened {fault : Fault} (h : fault.IsFaultOf room s) {c : Char}
    (hc : isOpening c = true) :
  fault.IsFaultOf (room + 1) (c :: s)
  := by
  cases fault with
  | malformed => trivial
  | tooManyDigits => exact HasLongNumber.of_suffix h (List.suffix_cons c s)
  | tooDeep =>
      rw [IsFaultOf, List.countP_cons_of_pos hc]
      exact Nat.succ_lt_succ h

theorem isFaultOf_tooDeep {c : Char} (hc : isOpening c = true) (s : List Char) :
  Fault.tooDeep.IsFaultOf 0 (c :: s)
  := by
  rw [Fault.IsFaultOf, List.countP_cons_of_pos hc]
  exact Nat.zero_lt_succ _

namespace IsReading

theorem malformed :
  IsReading room s (.error .malformed : Step α)
  := .fault trivial

theorem of_suffix {r : Step α} (h : IsReading room t r) (hsuffix : t <:+ s) :
  IsReading room s r
  := by
  cases h with
  | left hrest => exact .left (hrest.trans hsuffix)
  | fault hfault => exact .fault (hfault.of_suffix hsuffix)

theorem opened {r : Step α} (h : IsReading room s r) {c : Char} (hc : isOpening c = true) :
  IsReading (room + 1) (c :: s) r
  := by
  cases h with
  | left hrest => exact .left (hrest.trans (List.suffix_cons c s))
  | fault hfault => exact .fault (hfault.opened hc)

theorem map {r : Step α} (h : IsReading room s r) (f : α → β) :
  IsReading room s (r.map fun (a, rest) => (f a, rest))
  := by
  cases h with
  | left hrest => exact .left hrest
  | fault hfault => exact .fault hfault

theorem exists_eq {r : Step α} (h : IsReading room s r) :
  (∃ a rest, r = .ok (a, rest) ∧ rest <:+ s)
    ∨ ∃ e : Fault, r = .error e ∧ e.IsFaultOf room s
  := by
  cases h with
  | left hrest => exact Or.inl ⟨_, _, rfl, hrest⟩
  | fault hfault => exact Or.inr ⟨_, rfl, hfault⟩

end IsReading

/-! ### Values that hold no others -/

theorem skipBlanks_suffix (s : List Char) :
  skipBlanks s <:+ s
  := by
  induction s with
  | nil => exact List.suffix_rfl
  | cons c s ih =>
      rw [skipBlanks]
      split
      · exact ih.trans (List.suffix_cons c s)
      · exact List.suffix_rfl

/-- What follows the first character after the blanks is an end of the text. -/
theorem suffix_of_skipBlanks_eq {c : Char} {rest after : List Char}
    (h : skipBlanks rest = c :: after) (hrest : rest <:+ s) :
  after <:+ s
  := by
  have hblanks := (skipBlanks_suffix rest).trans hrest
  rw [h] at hblanks
  exact (List.suffix_cons c after).trans hblanks

theorem isReading_readUnits (s : List Char) :
  IsReading room s (readUnits s)
  := by
  fun_induction readUnits s with
  | case1 => exact .malformed
  | case2 s => exact .left (List.suffix_cons _ s)
  | case3 a b c d s n _ ih =>
      exact (ih.of_suffix (List.suffix_append ['\\', 'u', a, b, c, d] s)).map _
  | case4 => exact .malformed
  | case5 e s _ c _ ih => exact (ih.of_suffix (List.suffix_append ['\\', e] s)).map _
  | case6 => exact .malformed
  | case7 => exact .malformed
  | case8 c s _ _ _ _ ih => exact (ih.of_suffix (List.suffix_cons c s)).map _

theorem isReading_readText (s : List Char) :
  IsReading room s (readText s)
  := (isReading_readUnits s).map fun units => String.ofList (pairUnits units)

theorem readExponent?_suffix {e : Int} {rest : List Char}
    (h : readExponent? s = some (e, rest)) :
  rest <:+ s
  := by
  unfold readExponent? at h
  split at h
  · rename_i c s
    split at h
    · split at h
      rename_i sign t hsign
      obtain ⟨n, -, heq⟩ := Option.map_eq_some_iff.mp h
      cases heq
      have ht : t <:+ s := by
        split at hsign
        · cases hsign
          exact List.suffix_cons _ _
        · cases hsign
          exact List.suffix_cons _ _
        · cases hsign
          exact List.suffix_rfl
      exact (List.dropWhile_suffix _).trans (ht.trans (List.suffix_cons c s))
    · cases h
  · cases h

theorem isReading_readNumber (negative : Bool) (s : List Char) :
  IsReading room s (readNumber negative s)
  := by
  unfold readNumber
  extract_lets whole rest
  have hwhole : whole <+: s ∧ ∀ c ∈ whole, isAsciiDigit c = true := by
    unfold whole
    split
    · exact ⟨List.prefix_append ['0'] _, List.forall_mem_singleton.mpr rfl⟩
    · exact ⟨List.takeWhile_prefix _, List.all_eq_true.mp List.all_takeWhile⟩
  have hrest : rest <:+ s := List.drop_suffix _ s
  clear_value rest
  split
  · exact .malformed
  · split
    rename_i places after hplaces
    have hafter : after <:+ s := by
      split at hplaces
      · rename_i t
        have ht : t <:+ s := (List.suffix_cons '.' t).trans hrest
        dsimp only at hplaces
        split at hplaces
        · cases hplaces
          exact hrest
        · cases hplaces
          exact (List.drop_suffix _ t).trans ht
      · cases hplaces
        exact hrest
    extract_lets exponent coefficient
    split
    · split
      · rename_i hlong
        exact .fault ⟨whole, hwhole.1.isInfix, hlong, hwhole.2⟩
      · exact .left hafter
    · split
      rename_i e last hlast
      apply IsReading.left
      cases hexponent : exponent with
      | none =>
          rw [hexponent] at hlast
          cases hlast
          exact hafter
      | some found =>
          rw [hexponent] at hlast
          cases hlast
          exact (readExponent?_suffix hexponent).trans hafter

theorem isReading_jsonWord (word : String) (v : Value) (s : List Char) :
  IsReading room s (jsonWord word v s)
  := by
  rw [jsonWord]
  split
  · exact .left (List.drop_suffix _ s)
  · exact .malformed

theorem isReading_readScalar (s : List Char) :
  IsReading room s (readScalar s)
  := by
  unfold readScalar
  split
  · exact ((isReading_readText _).of_suffix (List.suffix_cons _ _)).map _
  · apply isReading_jsonWord
  · apply isReading_jsonWord
  · apply isReading_jsonWord
  · apply isReading_jsonWord
  · apply isReading_jsonWord
  · apply isReading_jsonWord
  · exact (isReading_readNumber true _).of_suffix (List.suffix_cons _ _)
  · exact isReading_readNumber false _

/-! ### Lists and tables -/

section

variable {budget : Nat}

/-- A value is read when the items and entries in it are. -/
theorem isReading_readValue
    (hitems : ∀ room s, IsReading room s (readItems budget room s))
    (hentries : ∀ room before s, IsReading room s (readEntries budget room before s))
    (room : Nat) (s : List Char) :
  IsReading room s (readValue (budget + 1) room s)
  := by
  unfold readValue
  split
  · exact .fault (isFaultOf_tooDeep rfl _)
  · exact .fault (isFaultOf_tooDeep rfl _)
  · rename_i s room
    split
    · rename_i rest hclosed
      exact .left (suffix_of_skipBlanks_eq hclosed (List.suffix_cons _ s))
    · exact (((hitems room _).of_suffix (skipBlanks_suffix s)).opened rfl).map _
  · rename_i s room
    split
    · rename_i rest hclosed
      exact .left (suffix_of_skipBlanks_eq hclosed (List.suffix_cons _ s))
    · exact (((hentries room [] _).of_suffix (skipBlanks_suffix s)).opened rfl).map _
  · apply isReading_readScalar

/-- Items are read when each value and the items after it are. -/
theorem isReading_readItems
    (hvalue : ∀ room s, IsReading room s (readValue budget room s))
    (hitems : ∀ room s, IsReading room s (readItems budget room s))
    (room : Nat) (s : List Char) :
  IsReading room s (readItems (budget + 1) room s)
  := by
  unfold readItems
  rcases (hvalue room s).exists_eq with ⟨v, rest, heq, hrest⟩ | ⟨e, heq, he⟩
  · rw [heq]
    dsimp only
    split
    · rename_i after hclosed
      exact .left (suffix_of_skipBlanks_eq hclosed hrest)
    · rename_i after hcomma
      apply IsReading.map
      apply (hitems room _).of_suffix
      exact (skipBlanks_suffix after).trans (suffix_of_skipBlanks_eq hcomma hrest)
    · exact .malformed
  · rw [heq]
    exact .fault he

/-- Entries are read when each value and the entries after it are. -/
theorem isReading_readEntries
    (hvalue : ∀ room s, IsReading room s (readValue budget room s))
    (hentries : ∀ room before s, IsReading room s (readEntries budget room before s))
    (room : Nat) (before : Entries) (s : List Char) :
  IsReading room s (readEntries (budget + 1) room before s)
  := by
  unfold readEntries
  split
  · rename_i s
    apply IsReading.of_suffix _ (List.suffix_cons _ s)
    rcases (isReading_readText s).exists_eq with ⟨key, rest, hkey, hrest⟩ | ⟨e, hkey, he⟩
    · rw [hkey]
      dsimp only
      split
      · rename_i after hcolon
        have hafter := (skipBlanks_suffix after).trans (suffix_of_skipBlanks_eq hcolon hrest)
        rcases ((hvalue room _).of_suffix hafter).exists_eq with
          ⟨v, rest', hv, hrest'⟩ | ⟨e, hv, he⟩
        · rw [hv]
          dsimp only
          split
          · rename_i last hclosed
            exact .left (suffix_of_skipBlanks_eq hclosed hrest')
          · rename_i last hcomma
            apply (hentries room _ _).of_suffix
            exact (skipBlanks_suffix last).trans (suffix_of_skipBlanks_eq hcomma hrest')
          · exact .malformed
        · rw [hv]
          exact .fault he
      · exact .malformed
    · rw [hkey]
      exact .fault he
  · exact .malformed

/-- With any budget values, items and entries are read. -/
theorem isReading_all (budget : Nat) :
  (∀ room s, IsReading room s (readValue budget room s))
  ∧ (∀ room s, IsReading room s (readItems budget room s))
  ∧ ∀ room before s, IsReading room s (readEntries budget room before s)
  := by
  induction budget with
  | zero =>
      refine ⟨?_, ?_, ?_⟩
      · intro room s
        rw [readValue]
        exact .malformed
      · intro room s
        rw [readItems]
        exact .malformed
      · intro room before s
        rw [readEntries]
        exact .malformed
  | succ budget ih =>
      obtain ⟨hvalue, hitems, hentries⟩ := ih
      exact ⟨isReading_readValue hitems hentries, isReading_readItems hvalue hitems,
        isReading_readEntries hvalue hentries⟩

end

/-- What stops the reading of a text is a fault that the text shows. -/
theorem isFaultOf_of_readWithin {fault : Fault} (h : readWithin room s = .error fault) :
  fault.IsFaultOf room s
  := by
  have hvalue := (isReading_all (2 * s.length + 2)).1 room (skipBlanks s)
  rw [readWithin] at h
  generalize readValue (2 * s.length + 2) room (skipBlanks s) = r at hvalue h
  cases hvalue with
  | fault hfault =>
      cases h
      exact hfault.of_suffix (skipBlanks_suffix s)
  | left _ =>
      dsimp only at h
      split at h
      · cases h
      · cases h
        trivial

end

/-- A number with too many digits is refused where nothing else stands in the text. -/
theorem read_toDigits_of_le {n : Nat} (h : 10 ^ maxDigits ≤ n) :
  read (Nat.toDigits 10 n) = .error .tooManyDigits
  := by
  obtain ⟨c, t, hdigits, hc⟩ := exists_toDigits_eq_cons n
  have hpos : 0 < n := Nat.lt_of_lt_of_le (Nat.pow_pos (by decide)) h
  have hend : EndsNumber [] := nofun
  have hnumber := readNumber_toDigits_of_pos false hpos hend
  rw [List.append_nil, if_pos h, hdigits] at hnumber
  rw [read, readWithin, hdigits, skipBlanks_of_not_mem (opensValue_of_isAsciiDigit hc).1,
    readValue_of_ne (ne_of_isAsciiDigit hc (by decide)) (ne_of_isAsciiDigit hc (by decide)),
    readScalar_of_isAsciiDigit hc, hnumber]

end SourceAudit.Json
