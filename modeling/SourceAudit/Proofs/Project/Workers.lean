import SourceAudit.Project.Workers
import SourceAudit.Proofs.Text.Trimming
import Mathlib.Data.Nat.Digits.Defs
import Mathlib.Tactic.Ring

/-!
# Numbers of workers

A number of workers is refused for two reasons only: a digit of it is no decimal digit, or
there are too many of them. Every other text leads to a number, and so does none at all: to
the one that the text denotes in decimal digits, unless that is zero, and else to the default,
at least to one and at most to the bound.
-/

namespace SourceAudit

open Text

/-! ### Digits -/

/-- A text denotes a number, read on from any number, when its characters are decimal
digits. -/
theorem exists_decimalFrom_iff (acc : Nat) (s : List Char) :
  (∃ n, decimalFrom acc s = some n) ↔ ∀ c ∈ s, isDecimal c = true
  := by
  induction s generalizing acc with
  | nil => simp [decimalFrom]
  | cons c s ih =>
      rw [decimalFrom, List.forall_mem_cons, isDecimal]
      cases decimalValue? c with
      | none => simp
      | some d =>
          dsimp only
          rw [ih]
          simp

theorem decimalFrom_eq_none_iff (acc : Nat) (s : List Char) :
  decimalFrom acc s = none ↔ ∃ c ∈ s, isDecimal c = false
  := by
  have hsome := not_congr (exists_decimalFrom_iff acc s)
  rw [← Option.isSome_iff_exists, Option.not_isSome_iff_eq_none] at hsome
  rw [hsome]
  simp

/-- The text is a number in decimal digits, of whatever runs they are, the highest first. -/
def IsDecimalNumber (s : List Char) (v : Nat) : Prop :=
  ∃ digits : List Nat, digits ≠ [] ∧ s.map decimalValue? = digits.map some
    ∧ v = Nat.ofDigits 10 digits.reverse

theorem decimalFrom_eq_some_iff (acc : Nat) (s : List Char) (v : Nat) :
  decimalFrom acc s = some v
    ↔ ∃ digits : List Nat, s.map decimalValue? = digits.map some
      ∧ v = acc * 10 ^ digits.length + Nat.ofDigits 10 digits.reverse
  := by
  induction s generalizing acc with
  | nil =>
      rw [decimalFrom, Option.some_inj]
      constructor
      · rintro rfl
        exact ⟨[], rfl, by simp⟩
      · rintro ⟨digits, hdigits, rfl⟩
        obtain rfl : digits = [] := List.map_eq_nil_iff.mp hdigits.symm
        simp
  | cons c s ih =>
      rw [decimalFrom, List.map_cons]
      cases decimalValue? c with
      | none =>
          constructor
          · exact nofun
          · rintro ⟨_ | ⟨d, digits⟩, hdigits, -⟩
            · cases hdigits
            · cases hdigits
      | some d =>
          have hvalue (digits : List Nat) :
              acc * 10 ^ (d :: digits).length + Nat.ofDigits 10 (d :: digits).reverse
                = (acc * 10 + d) * 10 ^ digits.length + Nat.ofDigits 10 digits.reverse := by
            rw [List.reverse_cons, Nat.ofDigits_append, Nat.ofDigits_singleton,
              List.length_reverse, List.length_cons]
            ring
          dsimp only
          rw [ih]
          constructor
          · rintro ⟨digits, hdigits, hv⟩
            use d :: digits
            rw [List.map_cons, hdigits, hvalue]
            exact ⟨rfl, hv⟩
          · rintro ⟨_ | ⟨d', digits⟩, hdigits, hv⟩
            · cases hdigits
            · rw [List.map_cons, List.cons.injEq, Option.some_inj] at hdigits
              obtain ⟨rfl, hdigits⟩ := hdigits
              rw [hvalue] at hv
              use digits

theorem isDigit_of_isDecimal {c : Char} (h : isDecimal c = true) :
  isDigit c = true
  := by
  rw [isDigit, h]
  rfl

theorem isDecimal_of_isAsciiDigit {c : Char} (h : isAsciiDigit c = true) :
  isDecimal c = true
  := by
  rw [isAsciiDigit, Bool.and_eq_true, decide_eq_true_iff, decide_eq_true_iff] at h
  have hlow : 0x30 ≤ c.toNat := h.1
  have hhigh : c.toNat ≤ 0x39 := h.2
  rw [isDecimal, decimalValue?, Option.isSome_map, List.find?_isSome]
  use 0x30, by decide
  rw [Bool.and_eq_true, decide_eq_true_iff, decide_eq_true_iff]
  omega

/-- The text is a number in ASCII digits. -/
def IsAsciiNumber (s : List Char) : Prop :=
  s ≠ [] ∧ ∀ c ∈ s, isAsciiDigit c = true

/-- A number in decimal digits is a text of digits. -/
theorem IsDecimalNumber.digits {s : List Char} {v : Nat} (h : IsDecimalNumber s v) :
  s ≠ [] ∧ ∀ c ∈ s, isDigit c = true
  := by
  obtain ⟨digits, hne, hdigits, rfl⟩ := h
  constructor
  · rintro rfl
    exact hne (List.map_eq_nil_iff.mp hdigits.symm)
  · have hread : ∃ n, decimalFrom 0 s = some n :=
      ⟨_, (decimalFrom_eq_some_iff 0 s _).mpr ⟨digits, hdigits, rfl⟩⟩
    intro c hc
    exact isDigit_of_isDecimal ((exists_decimalFrom_iff 0 s).mp hread c hc)

/-! ### Refusals -/

/-- A text is at fault: its characters are digits, and one of them is no decimal digit, or all
of them are and there are too many. -/
def WorkerFault.IsFaultOf (text : List Char) : WorkerFault → Prop
  | .notNumber => (∀ c ∈ text, isDigit c = true) ∧ ∃ c ∈ text, isDecimal c = false
  | .tooManyDigits => (∀ c ∈ text, isDecimal c = true) ∧ maxDigits < text.length

/-- What is at fault is a text of digits. -/
theorem WorkerFault.IsFaultOf.digits {text : List Char} {fault : WorkerFault}
    (h : fault.IsFaultOf text) :
  text ≠ [] ∧ ∀ c ∈ text, isDigit c = true
  := by
  cases fault with
  | notNumber =>
      obtain ⟨hdigits, c, hc, -⟩ := h
      exact ⟨List.ne_nil_of_mem hc, hdigits⟩
  | tooManyDigits =>
      obtain ⟨hdecimals, hlength⟩ := h
      exact ⟨List.ne_nil_of_length_pos (by omega),
        fun c hc => isDigit_of_isDecimal (hdecimals c hc)⟩

theorem decimalNumber?_of_ne_nil {s : List Char} (h : s ≠ []) :
  decimalNumber? s = decimalFrom 0 s
  := by
  rw [decimalNumber?, if_neg]
  rw [List.isEmpty_iff]
  exact h

theorem decimalNumber?_eq_some_iff {s : List Char} {v : Nat} :
  decimalNumber? s = some v ↔ IsDecimalNumber s v
  := by
  by_cases hs : s = []
  · subst hs
    constructor
    · exact nofun
    · rintro ⟨digits, hne, hdigits, -⟩
      exact absurd (List.map_eq_nil_iff.mp hdigits.symm) hne
  · rw [decimalNumber?_of_ne_nil hs, decimalFrom_eq_some_iff]
    apply exists_congr
    intro digits
    rw [Nat.zero_mul, Nat.zero_add, iff_and_self]
    rintro ⟨hdigits, -⟩ rfl
    exact hs (List.map_eq_nil_iff.mp hdigits)

theorem IsDecimalNumber.unique {s : List Char} {v v' : Nat} (h : IsDecimalNumber s v)
    (h' : IsDecimalNumber s v') :
  v = v'
  := by
  rw [← decimalNumber?_eq_some_iff] at h h'
  rw [← Option.some_inj, ← h, h']

theorem takenForNumber_iff (text : List Char) :
  ¬ (text.isEmpty || !text.all isDigit) = true
    ↔ text ≠ [] ∧ ∀ c ∈ text, isDigit c = true
  := by
  rw [Bool.not_eq_true, Bool.or_eq_false_iff, List.isEmpty_eq_false_iff,
    Bool.not_eq_false', List.all_eq_true]

theorem isFaultOf_of_requestedWorkers {raw : Option String} {fault : WorkerFault}
    (h : requestedWorkers raw = .error fault) :
  fault.IsFaultOf (trim (raw.getD "").toList)
  := by
  rw [requestedWorkers] at h
  split at h
  · cases h
  · rename_i hno
    obtain ⟨hne, hdigits⟩ := (takenForNumber_iff _).mp hno
    rw [decimalNumber?_of_ne_nil hne] at h
    split at h
    · rename_i hnone
      cases h
      exact ⟨hdigits, (decimalFrom_eq_none_iff 0 _).mp hnone⟩
    · rename_i n hn
      split at h
      · rename_i hlength
        cases h
        exact ⟨(exists_decimalFrom_iff 0 _).mp ⟨n, hn⟩, hlength⟩
      · cases h

theorem requestedWorkers_of_isFaultOf {raw : Option String} {fault : WorkerFault}
    (h : fault.IsFaultOf (trim (raw.getD "").toList)) :
  requestedWorkers raw = .error fault
  := by
  obtain ⟨hne, hdigits⟩ := h.digits
  rw [requestedWorkers]
  rw [if_neg ((takenForNumber_iff _).mpr ⟨hne, hdigits⟩), decimalNumber?_of_ne_nil hne]
  cases fault with
  | notNumber => rw [(decimalFrom_eq_none_iff 0 _).mpr h.2]
  | tooManyDigits =>
      obtain ⟨n, hn⟩ := (exists_decimalFrom_iff 0 _).mpr h.1
      rw [hn]
      dsimp only
      rw [if_pos h.2]

/-- The number of workers is refused exactly when the text that asks for it is at fault. -/
theorem workerCount_eq_error_iff (raw : Option String) (default bound : Int)
    (fault : WorkerFault) :
  workerCount raw default bound = .error fault
    ↔ fault.IsFaultOf (trim (raw.getD "").toList)
  := by
  rw [workerCount]
  constructor
  · intro h
    apply isFaultOf_of_requestedWorkers
    cases hrequest : requestedWorkers raw with
    | error fault' =>
        rw [hrequest] at h
        cases h
        rfl
    | ok n =>
        rw [hrequest] at h
        cases h
  · intro h
    rw [requestedWorkers_of_isFaultOf h]
    rfl

/-- The number of workers is accepted when the text that asks for it is not at fault. -/
theorem exists_workerCount_iff (raw : Option String) (default bound : Int) :
  (∃ n, workerCount raw default bound = .ok n)
    ↔ ∀ fault : WorkerFault, ¬ fault.IsFaultOf (trim (raw.getD "").toList)
  := by
  simp only [← workerCount_eq_error_iff raw default bound]
  cases workerCount raw default bound with
  | ok n => simp
  | error fault => simp

/-- None asked for, or a number in ASCII digits that are not too many, is accepted. -/
theorem exists_workerCount_eq_ok {raw : Option String}
    (h : ∀ s, raw = some s → IsAsciiNumber (trim s.toList)
      ∧ (trim s.toList).length ≤ maxDigits) (default bound : Int) :
  ∃ n, workerCount raw default bound = .ok n
  := by
  apply (exists_workerCount_iff raw default bound).mpr
  intro fault hfault
  cases raw with
  | none =>
      apply hfault.digits.1
      rfl
  | some s =>
      obtain ⟨⟨-, hascii⟩, hlength⟩ := h s rfl
      cases fault with
      | notNumber =>
          obtain ⟨-, c, hc, hother⟩ := hfault
          rw [isDecimal_of_isAsciiDigit (hascii c hc)] at hother
          cases hother
      | tooManyDigits => exact absurd hfault.2 (Nat.not_lt.mpr hlength)

/-- A number in ASCII digits that are too many is refused. -/
theorem workerCount_of_too_many_digits {s : String} (h : IsAsciiNumber (trim s.toList))
    (hlength : maxDigits < (trim s.toList).length) (default bound : Int) :
  workerCount (some s) default bound = .error .tooManyDigits
  := by
  apply (workerCount_eq_error_iff _ _ _ _).mpr
  exact ⟨fun c hc => isDecimal_of_isAsciiDigit (h.2 c hc), hlength⟩

/-! ### Numbers that are accepted -/

/-- What is asked for is the number that the text denotes, and nothing when it denotes none. -/
theorem requestedWorkers_of_not_isFaultOf {raw : Option String}
    (h : ∀ fault : WorkerFault, ¬ fault.IsFaultOf (trim (raw.getD "").toList)) :
  ∃ n, requestedWorkers raw = .ok n
    ∧ (n = 0 ∨ IsDecimalNumber (trim (raw.getD "").toList) n)
    ∧ ∀ v, IsDecimalNumber (trim (raw.getD "").toList) v → v = n
  := by
  cases hrequest : requestedWorkers raw with
  | error fault => exact absurd (isFaultOf_of_requestedWorkers hrequest) (h fault)
  | ok n =>
      use n, rfl
      rw [requestedWorkers] at hrequest
      split at hrequest
      · rename_i hother
        cases hrequest
        use Or.inl rfl
        intro v hv
        -- a text of decimal digits is one of digits
        apply absurd hother
        rw [takenForNumber_iff]
        exact hv.digits
      · split at hrequest
        · cases hrequest
        · rename_i v hv
          split at hrequest
          · cases hrequest
          · cases hrequest
            have hnumber := decimalNumber?_eq_some_iff.mp hv
            exact ⟨Or.inr hnumber, fun v' hv' => hv'.unique hnumber⟩

/-- Whatever text asks for a number of workers, with whatever default, the number is at least
one and at most the bound: it is the one that the text denotes when it denotes a positive one,
and else the default, as far as the bound lets it. Only a text of digits that denotes no number
and one with too many digits are refused. -/
theorem workerCount_usable (raw : Option String) (default : Option Int)
    (processors : Option Nat) {bound : Int} (hbound : 1 ≤ bound) :
  let text := trim (raw.getD "").toList
  let usual := fallbackWorkers default processors
  (∀ fault, workerCount raw usual bound = .error fault ↔ fault.IsFaultOf text)
  ∧ ((∀ fault : WorkerFault, ¬ fault.IsFaultOf text) →
    ∃ n, workerCount raw usual bound = .ok n ∧ 1 ≤ n ∧ n ≤ bound
      ∧ (∀ v : Nat, IsDecimalNumber text v → 0 < v → n = min (v : Int) bound)
      ∧ ((∀ v : Nat, IsDecimalNumber text v → v = 0) → n = min (max 1 usual) bound))
  := by
  intro text usual
  use workerCount_eq_error_iff raw usual bound
  intro hfault
  obtain ⟨n, hn, hnumber, hunique⟩ := requestedWorkers_of_not_isFaultOf hfault
  have hcount : workerCount raw usual bound
      = .ok (min (if (n : Int) = 0 then max 1 usual else (n : Int)) bound) := by
    rw [workerCount, hn]
    rfl
  refine ⟨_, hcount, ?_, min_le_right _ _, ?_, ?_⟩
  · apply le_min _ hbound
    split
    · exact le_max_left _ _
    · omega
  · rintro v hv hpos
    obtain rfl := hunique v hv
    rw [if_neg (by omega)]
  · intro hzero
    obtain rfl : n = 0 := by
      rcases hnumber with hnone | hnumber
      · exact hnone
      · exact hzero n hnumber
    rw [if_pos Nat.cast_zero]

/-- Digits of two scripts denote one number. -/
theorem workerCount_usable_two_scripts :
  (1 : Int) ≤ 50 ∧ workerCount (some " ٣4\n") (fallbackWorkers none (some 4)) 50 = .ok 34
  := by
  have hbound : (1 : Int) ≤ 50 := by decide
  use hbound
  have htext : trim " ٣4\n".toList = ['٣', '4'] := by decide +kernel
  have hnumber : IsDecimalNumber (trim " ٣4\n".toList) 34 := by
    rw [htext]
    exact ⟨[3, 4], by decide, by decide +kernel, by decide⟩
  have hfault : ∀ fault : WorkerFault, ¬ fault.IsFaultOf (trim " ٣4\n".toList) := by
    rw [htext]
    have hall : List.all ['٣', '4'] isDecimal = true := by decide +kernel
    rintro (_ | _) ⟨-, hwrong⟩
    · obtain ⟨c, hc, hnot⟩ := hwrong
      rw [List.all_eq_true.mp hall c hc] at hnot
      cases hnot
    · simp [maxDigits] at hwrong
  obtain ⟨-, haccepted⟩ := workerCount_usable (some " ٣4\n") none (some 4) hbound
  obtain ⟨n, hn, -, -, hvalue, -⟩ := haccepted hfault
  rw [hn, hvalue 34 hnumber (by decide)]
  rfl

/-- A digit that is no decimal digit does not lead to the default, and a number with too many
digits does not lead to the bound: both are refused. -/
theorem workerCount_of_other_digits :
  let long := List.replicate (maxDigits + 1) '1'
  let usual := fallbackWorkers (some 2) none
  (∀ v, ¬ IsDecimalNumber (trim "²".toList) v)
  ∧ workerCount (some "²") usual defaultMaxWorkers = .error .notNumber
  ∧ IsAsciiNumber long
  ∧ workerCount (some (String.ofList long)) usual defaultMaxWorkers = .error .tooManyDigits
  := by
  intro long usual
  have hones : ∀ c ∈ long, c = '1' := fun c hc => List.eq_of_mem_replicate hc
  have htrim : trim long = long := by
    apply trim_of_not_blank
    intro c hc
    rw [hones c hc]
    decide
  have hnumber : IsAsciiNumber long := by
    use List.cons_ne_nil _ _
    intro c hc
    rw [hones c hc]
    decide
  have hnone : decimalNumber? (trim "²".toList) = none := by decide +kernel
  refine ⟨?_, by decide +kernel, hnumber, ?_⟩
  · intro v hv
    rw [← decimalNumber?_eq_some_iff, hnone] at hv
    cases hv
  · apply workerCount_of_too_many_digits
    · rwa [String.toList_ofList, htrim]
    · rw [String.toList_ofList, htrim, List.length_replicate]
      exact Nat.lt_add_one maxDigits

end SourceAudit
