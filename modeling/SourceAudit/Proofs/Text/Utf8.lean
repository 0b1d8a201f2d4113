import SourceAudit.Text.Utf8
import Mathlib.Tactic.Common
import Mathlib.Tactic.IntervalCases

/-!
# Octets that are a text

Octets can be read strictly exactly when they are the octets of a text, and then this text is
what is read of them.

* `lead_eq`: the first octet of a character, by the number of octets the character has.
* `ends_two_iff`, `ends_three_iff`, `ends_four_iff`: the octets that take a character begun to
  its end, as the numbers they make.
* `exists_begun_iff`, `lead_eq_whole_iff`: together with a first octet they are the octets of a
  character, and a first octet that needs no more is a character of its own.
* `decodeStrictFrom_some_eq_ok_iff`: reading goes on to the end of the character at hand and
  starts again behind it.
* `decodeStrict_eq_ok_iff`: octets are read as a text exactly when they are its octets.
-/

namespace SourceAudit.Text

/-! ### Characters that are begun -/

/-- The octets take a character that is begun to its end, and make its number. -/
inductive Ends : Begun → Octets → Nat → Prop where
  | last {g : Begun} {b : Nat} :
      g.owed ≤ 1 → g.low ≤ b → b ≤ g.high → Ends g [b] (g.number * 0x40 + (b - 0x80))
  | more {g : Begun} {b n : Nat} {bs : Octets} :
      ¬ g.owed ≤ 1 → g.low ≤ b → b ≤ g.high →
      Ends ⟨g.owed - 1, 0x80, 0xBF, g.number * 0x40 + (b - 0x80)⟩ bs n → Ends g (b :: bs) n

section

variable {low high k n : Nat} {bs : Octets}

theorem ends_one_iff :
  Ends ⟨1, low, high, k⟩ bs n
    ↔ ∃ x, bs = [x] ∧ low ≤ x ∧ x ≤ high ∧ n = k * 0x40 + (x - 0x80)
  := by
  constructor
  · intro h
    cases h with
    | last _ hlow hhigh => exact ⟨_, rfl, hlow, hhigh, rfl⟩
    | more howed => exact absurd (Nat.le_refl 1) howed
  · rintro ⟨x, rfl, hlow, hhigh, hn⟩
    rw [hn]
    exact .last (Nat.le_refl 1) hlow hhigh

theorem ends_succ_iff {owed : Nat} (howed : owed ≠ 0) :
  Ends ⟨owed + 1, low, high, k⟩ bs n
    ↔ ∃ x rest, bs = x :: rest ∧ low ≤ x ∧ x ≤ high
      ∧ Ends ⟨owed, 0x80, 0xBF, k * 0x40 + (x - 0x80)⟩ rest n
  := by
  have hmore : ¬ owed + 1 ≤ 1 := by omega
  constructor
  · intro h
    cases h with
    | last hlast => exact absurd hlast hmore
    | more _ hlow hhigh hrest => exact ⟨_, _, rfl, hlow, hhigh, hrest⟩
  · rintro ⟨x, rest, rfl, hlow, hhigh, hrest⟩
    exact .more hmore hlow hhigh hrest

end

/-! ### First octets -/

/-- The least second octet after a first one. -/
def leastSecond (b : Nat) : Nat :=
  if b = 0xE0 then 0xA0 else if b = 0xF0 then 0x90 else 0x80

/-- The greatest second octet after a first one. -/
def greatestSecond (b : Nat) : Nat :=
  if b = 0xED then 0x9F else if b = 0xF4 then 0x8F else 0xBF

/-- What the first octet of a character tells, by the number of octets the character has. -/
theorem lead_eq (b : Nat) :
  lead b = if b < 0x80 then .whole (Char.ofNat b)
    else if b < 0xC2 then .invalid
    else if b < 0xE0 then .begun ⟨1, leastSecond b, greatestSecond b, b - 0xC0⟩
    else if b < 0xF0 then .begun ⟨2, leastSecond b, greatestSecond b, b - 0xE0⟩
    else if b < 0xF5 then .begun ⟨3, leastSecond b, greatestSecond b, b - 0xF0⟩
    else .invalid
  := by
  -- the first octets that count are few, and each is looked up
  by_cases hfirst : b < 0xF5
  · interval_cases b <;> rfl
  · rw [lead]
    repeat rw [if_neg (by omega)]

theorem leastSecond_le_iff {b x : Nat} :
  leastSecond b ≤ x ↔ 0x80 ≤ x ∧ (b = 0xE0 → 0xA0 ≤ x) ∧ (b = 0xF0 → 0x90 ≤ x)
  := by
  rw [leastSecond]
  split_ifs <;> omega

theorem le_greatestSecond_iff {b x : Nat} :
  x ≤ greatestSecond b ↔ x ≤ 0xBF ∧ (b = 0xED → x ≤ 0x9F) ∧ (b = 0xF4 → x ≤ 0x8F)
  := by
  rw [greatestSecond]
  split_ifs <;> omega

/-! ### The octets of a character -/

section

variable {b n : Nat} {bs : Octets}

theorem ends_two_iff :
  0xC2 ≤ b ∧ b < 0xE0 ∧ Ends ⟨1, leastSecond b, greatestSecond b, b - 0xC0⟩ bs n
    ↔ 0x80 ≤ n ∧ n < 0x800 ∧ [0xC0 + n / 0x40, 0x80 + n % 0x40] = b :: bs
  := by
  rw [ends_one_iff, List.cons.injEq]
  constructor
  · rintro ⟨hlead, hlead', x, rfl, hx, hx', hn⟩
    rw [leastSecond_le_iff] at hx
    rw [le_greatestSecond_iff] at hx'
    rw [List.cons.injEq]
    exact ⟨by omega, by omega, by omega, by omega, rfl⟩
  · rintro ⟨hlow, hhigh, hlead, rfl⟩
    use by omega, by omega, 0x80 + n % 0x40, rfl
    rw [leastSecond_le_iff, le_greatestSecond_iff]
    exact ⟨by omega, by omega, by omega⟩

theorem ends_three_iff :
  0xE0 ≤ b ∧ b < 0xF0 ∧ Ends ⟨2, leastSecond b, greatestSecond b, b - 0xE0⟩ bs n
    ↔ 0x800 ≤ n ∧ n < 0x10000 ∧ n.isValidChar
      ∧ [0xE0 + n / 0x1000, 0x80 + n / 0x40 % 0x40, 0x80 + n % 0x40] = b :: bs
  := by
  simp only [ends_succ_iff (Nat.one_ne_zero), ends_one_iff, List.cons.injEq, Nat.isValidChar]
  constructor
  · rintro ⟨hlead, hlead', x, rest, rfl, hx, hx', y, rfl, hy, hy', hn⟩
    rw [leastSecond_le_iff] at hx
    rw [le_greatestSecond_iff] at hx'
    simp only [List.cons.injEq, and_true]
    omega
  · rintro ⟨hlow, hhigh, hvalid, hlead, rfl⟩
    use by omega, by omega, 0x80 + n / 0x40 % 0x40, [0x80 + n % 0x40], rfl
    rw [leastSecond_le_iff, le_greatestSecond_iff]
    exact ⟨by omega, by omega, 0x80 + n % 0x40, rfl, by omega, by omega, by omega⟩

theorem ends_four_iff :
  0xF0 ≤ b ∧ b < 0xF5 ∧ Ends ⟨3, leastSecond b, greatestSecond b, b - 0xF0⟩ bs n
    ↔ 0x10000 ≤ n ∧ n < 0x110000
      ∧ [0xF0 + n / 0x40000, 0x80 + n / 0x1000 % 0x40, 0x80 + n / 0x40 % 0x40, 0x80 + n % 0x40]
        = b :: bs
  := by
  simp only [ends_succ_iff (Nat.succ_ne_zero _), ends_one_iff, List.cons.injEq]
  constructor
  · rintro ⟨hlead, hlead', x, rest, rfl, hx, hx', y, rest, rfl, hy, hy', z, rfl, hz, hz', hn⟩
    rw [leastSecond_le_iff] at hx
    rw [le_greatestSecond_iff] at hx'
    simp only [List.cons.injEq, and_true]
    omega
  · rintro ⟨hlow, hhigh, hlead, rfl⟩
    use by omega, by omega, 0x80 + n / 0x1000 % 0x40,
      [0x80 + n / 0x40 % 0x40, 0x80 + n % 0x40], rfl
    rw [leastSecond_le_iff, le_greatestSecond_iff]
    refine ⟨by omega, by omega, 0x80 + n / 0x40 % 0x40, [0x80 + n % 0x40], rfl, by omega,
      by omega, 0x80 + n % 0x40, rfl, by omega, by omega, by omega⟩

end

theorem exists_char_of_isValidChar {n : Nat} (h : n.isValidChar) :
  ∃ c : Char, c.toNat = n
  := by
  use Char.ofNat n
  rw [Char.ofNat, dif_pos h]
  rfl

/-- A first octet and octets that end the character it begins are those of a character of more
than one octet. -/
theorem exists_begun_iff {b n : Nat} {bs : Octets} :
  (∃ g, lead b = .begun g ∧ Ends g bs n)
    ↔ 0x80 ≤ n ∧ ∃ c : Char, c.toNat = n ∧ charOctets c = b :: bs
  := by
  constructor
  · rintro ⟨g, hlead, hends⟩
    rw [lead_eq] at hlead
    split at hlead
    · cases hlead
    split at hlead
    · cases hlead
    split at hlead
    · cases hlead
      obtain ⟨hlow, hhigh, hoctets⟩ := ends_two_iff.mp ⟨by omega, by assumption, hends⟩
      obtain ⟨c, rfl⟩ := exists_char_of_isValidChar (n := n) (Or.inl (by omega))
      use hlow, c, rfl
      rw [charOctets, if_neg (by omega), if_pos hhigh, hoctets]
    split at hlead
    · cases hlead
      obtain ⟨hlow, hhigh, hvalid, hoctets⟩ :=
        ends_three_iff.mp ⟨by omega, by assumption, hends⟩
      obtain ⟨c, rfl⟩ := exists_char_of_isValidChar hvalid
      use by omega, c, rfl
      rw [charOctets, if_neg (by omega), if_neg (by omega), if_pos hhigh, hoctets]
    split at hlead
    · cases hlead
      obtain ⟨hlow, hhigh, hoctets⟩ := ends_four_iff.mp ⟨by omega, by assumption, hends⟩
      obtain ⟨c, rfl⟩ := exists_char_of_isValidChar (n := n) (Or.inr ⟨by omega, hhigh⟩)
      use by omega, c, rfl
      rw [charOctets, if_neg (by omega), if_neg (by omega), if_neg (by omega), hoctets]
    · cases hlead
  · rintro ⟨hlow, c, rfl, hoctets⟩
    have hvalid : c.toNat.isValidChar := c.valid
    have hhigh : c.toNat < 0x110000 := hvalid.elim (fun h => by omega) (fun h => h.2)
    rw [charOctets, if_neg (by omega)] at hoctets
    split at hoctets
    · obtain ⟨hb, hb', hends⟩ := ends_two_iff.mpr ⟨hlow, by assumption, hoctets⟩
      refine ⟨_, ?_, hends⟩
      rw [lead_eq, if_neg (by omega), if_neg (by omega), if_pos hb']
    split at hoctets
    · obtain ⟨hb, hb', hends⟩ :=
        ends_three_iff.mpr ⟨by omega, by assumption, hvalid, hoctets⟩
      refine ⟨_, ?_, hends⟩
      rw [lead_eq, if_neg (by omega), if_neg (by omega), if_neg (by omega), if_pos hb']
    · obtain ⟨hb, hb', hends⟩ := ends_four_iff.mpr ⟨by omega, hhigh, hoctets⟩
      refine ⟨_, ?_, hends⟩
      rw [lead_eq, if_neg (by omega), if_neg (by omega), if_neg (by omega), if_neg (by omega),
        if_pos hb']

/-- A first octet that is a whole character is the only octet of a character of one octet. -/
theorem lead_eq_whole_iff {b : Nat} {c : Char} :
  lead b = .whole c ↔ c.toNat < 0x80 ∧ charOctets c = [b]
  := by
  rw [lead_eq]
  constructor
  · intro h
    split at h
    · rename_i hb
      cases h
      obtain ⟨c, rfl⟩ := exists_char_of_isValidChar (n := b) (Or.inl (by omega))
      rw [Char.ofNat_toNat]
      use hb
      rw [charOctets, if_pos hb]
    split at h
    · cases h
    split at h
    · cases h
    split at h
    · cases h
    split at h
    · cases h
    · cases h
  · rintro ⟨hlow, hoctets⟩
    rw [charOctets, if_pos hlow, List.singleton_inj] at hoctets
    rw [← hoctets, if_pos hlow, Char.ofNat_toNat]

/-! ### Reading octets -/

theorem map_eq_ok_iff {ε α β : Type} {x : Except ε α} {f : α → β} {b : β} :
  x.map f = .ok b ↔ ∃ a, x = .ok a ∧ f a = b
  := by
  cases x with
  | error e => simp [Except.map]
  | ok a => simp [Except.map]

/-- Reading goes on to the end of the character at hand and starts again behind it. -/
theorem decodeStrictFrom_some_eq_ok_iff {position : Nat} {p : Partial} {bs : Octets}
    {text : List Char} :
  decodeStrictFrom position (some p) bs = .ok text
    ↔ ∃ ended rest n later, bs = ended ++ rest ∧ Ends p.begun ended n
      ∧ text = Char.ofNat n :: later
      ∧ decodeStrictFrom (position + ended.length) none rest = .ok later
  := by
  induction bs generalizing position p with
  | nil =>
      rw [decodeStrictFrom]
      constructor
      · intro h
        cases h
      · rintro ⟨ended, rest, n, later, hbs, hends, -⟩
        rw [(List.append_eq_nil_iff.mp hbs.symm).1] at hends
        cases hends
  | cons b bs ih =>
      rw [decodeStrictFrom]
      dsimp only
      split
      · rename_i hbounds
        rw [Bool.and_eq_true, decide_eq_true_iff, decide_eq_true_iff] at hbounds
        split
        · rename_i howed
          rw [map_eq_ok_iff]
          constructor
          · rintro ⟨later, hlater, rfl⟩
            exact ⟨[b], bs, _, later, rfl, .last howed hbounds.1 hbounds.2, rfl, hlater⟩
          · rintro ⟨ended, rest, n, later, hbs, hends, rfl, hlater⟩
            cases hends with
            | last =>
                cases hbs
                exact ⟨later, hlater, rfl⟩
            | more hmore => exact absurd howed hmore
        · rename_i howed
          rw [ih]
          constructor
          · rintro ⟨ended, rest, n, later, rfl, hends, rfl, hlater⟩
            refine ⟨b :: ended, rest, n, later, rfl, .more howed hbounds.1 hbounds.2 hends, rfl, ?_⟩
            rw [List.length_cons, Nat.add_comm ended.length, ← Nat.add_assoc]
            exact hlater
          · rintro ⟨ended, rest, n, later, hbs, hends, rfl, hlater⟩
            cases hends with
            | last hlast => exact absurd hlast howed
            | more _ _ _ hends =>
                cases hbs
                refine ⟨_, rest, n, later, rfl, hends, rfl, ?_⟩
                rw [List.length_cons, Nat.add_comm _ 1, ← Nat.add_assoc] at hlater
                exact hlater
      · rename_i hbounds
        rw [Bool.and_eq_true, decide_eq_true_iff, decide_eq_true_iff] at hbounds
        constructor
        · intro h
          cases h
        · rintro ⟨ended, rest, n, later, hbs, hends, -⟩
          cases hends with
          | last _ hlow hhigh =>
              cases hbs
              exact absurd ⟨hlow, hhigh⟩ hbounds
          | more _ hlow hhigh =>
              cases hbs
              exact absurd ⟨hlow, hhigh⟩ hbounds

/-- What is read of octets is a text with these octets. -/
theorem encode_of_decodeStrictFrom {position : Nat} {bs : Octets} {text : List Char}
    (h : decodeStrictFrom position none bs = .ok text) :
  encode text = bs
  := by
  -- by length, since a character may take several octets at once
  induction hlength : bs.length using Nat.strongRecOn generalizing position bs text with
  | ind length ih =>
    cases bs with
    | nil =>
        rw [decodeStrictFrom] at h
        cases h
        rfl
    | cons b bs =>
        rw [List.length_cons] at hlength
        rw [decodeStrictFrom] at h
        split at h
        · rename_i c hlead
          obtain ⟨later, hlater, rfl⟩ := map_eq_ok_iff.mp h
          have hrest := ih bs.length (by omega) hlater rfl
          rw [encode, List.flatMap_cons, (lead_eq_whole_iff.mp hlead).2, ← encode, hrest]
          rfl
        · rename_i g hlead
          obtain ⟨ended, rest, n, later, rfl, hends, rfl, hlater⟩ :=
            decodeStrictFrom_some_eq_ok_iff.mp h
          rw [List.length_append] at hlength
          have hrest := ih rest.length (by omega) hlater rfl
          obtain ⟨-, c, rfl, hoctets⟩ := exists_begun_iff.mp ⟨g, hlead, hends⟩
          rw [Char.ofNat_toNat, encode, List.flatMap_cons, hoctets, ← encode, hrest]
          rfl
        · cases h

/-- The octets of a text are read as the text. -/
theorem decodeStrictFrom_encode (position : Nat) (text : List Char) :
  decodeStrictFrom position none (encode text) = .ok text
  := by
  induction text generalizing position with
  | nil => rfl
  | cons c text ih =>
      rw [encode, List.flatMap_cons, ← encode]
      by_cases hlow : c.toNat < 0x80
      · have hoctets : charOctets c = [c.toNat] := by rw [charOctets, if_pos hlow]
        rw [hoctets, List.singleton_append, decodeStrictFrom,
          lead_eq_whole_iff.mpr ⟨hlow, hoctets⟩]
        dsimp only
        rw [ih]
        rfl
      · obtain ⟨b, bs, hoctets⟩ : ∃ b bs, charOctets c = b :: bs := by
          apply List.exists_cons_of_ne_nil
          rw [charOctets]
          split_ifs <;> exact List.cons_ne_nil _ _
        obtain ⟨g, hlead, hends⟩ := exists_begun_iff.mpr ⟨Nat.le_of_not_lt hlow, c, rfl, hoctets⟩
        rw [hoctets, List.cons_append, decodeStrictFrom, hlead]
        dsimp only
        apply decodeStrictFrom_some_eq_ok_iff.mpr
        use bs, encode text, c.toNat, text, rfl, hends
        rw [Char.ofNat_toNat]
        exact ⟨rfl, ih _⟩

/-- Reading octets strictly undoes making them, and nothing else is read. -/
theorem decodeStrict_eq_ok_iff {bs : Octets} {text : List Char} :
  decodeStrict bs = .ok text ↔ bs = encode text
  := by
  constructor
  · intro h
    exact (encode_of_decodeStrictFrom h).symm
  · rintro rfl
    exact decodeStrictFrom_encode 0 text

end SourceAudit.Text
