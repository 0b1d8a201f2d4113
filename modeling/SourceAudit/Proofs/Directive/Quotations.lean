import SourceAudit.Proofs.Directive.Scan

/-!
# Quoted texts of a line

A line is read from left to right. A quoted text goes from a quote to the next quote of its
kind, and the reading goes on behind it; a quote that does not come again on the line is passed
over.

* A line is guarded exactly when the keyword stands in a quoted text of it.
* The keyword need not stand in quoted texts alone: a directive outside of them is passed over
  as well when the line quotes the keyword somewhere else. On every other line the keyword
  stands in quoted texts wherever it stands, or in none of them.
-/

namespace SourceAudit

open Text

/-! ### Places -/

/-- The pattern stands in the text at place `p`. -/
def OccursAt (pat s : List Char) (p : Nat) : Prop :=
  pat <+: s.drop p

/-- A quote stands at place `i` and comes next at place `j`. -/
def IsQuotePair (line : List Char) (i j : Nat) : Prop :=
  ∃ quote inner rest, isQuote quote = true
    ∧ line.drop i = quote :: (inner ++ quote :: rest) ∧ quote ∉ inner ∧ j = i + inner.length + 1

/-- Of the quotes from place `k` on that come again, the one at `i` is the first, and it comes
next at `j`. -/
structure IsFirstPair (line : List Char) (k i j : Nat) : Prop where
  le : k ≤ i
  pair : IsQuotePair line i j
  first : ∀ i' j', k ≤ i' → IsQuotePair line i' j' → i ≤ i'

/-- From place `k` on, a quoted text of the line begins with the quote at `i` and ends with the
quote at `j`. -/
inductive IsSpan (line : List Char) : Nat → Nat → Nat → Prop where
  | first {k i j : Nat} : IsFirstPair line k i j → IsSpan line k i j
  | later {k i j i' j' : Nat} :
      IsFirstPair line k i j → IsSpan line (j + 1) i' j' → IsSpan line k i' j'

/-- The keyword that stands at place `p` stands in a quoted text. -/
def IsQuotedAt (line : List Char) (p : Nat) : Prop :=
  ∃ i j, IsSpan line 0 i j ∧ i < p ∧ p + directiveKeyword.length ≤ j

/-! ### Occurrences at places -/

theorem infix_iff_exists_occursAt (pat s : List Char) :
  pat <:+: s ↔ ∃ p, OccursAt pat s p
  := by
  constructor
  · rintro ⟨before, after, rfl⟩
    use before.length, after
    rw [List.append_assoc, List.drop_left]
  · rintro ⟨p, hp⟩
    exact hp.isInfix.trans (List.drop_suffix p s).isInfix

/-- What stands in a part of a text stands at a place of the text. -/
theorem infix_drop_take_iff {pat : List Char} (hpat : pat ≠ []) (s : List Char) (i j : Nat) :
  pat <:+: (s.take j).drop i ↔ ∃ p, OccursAt pat s p ∧ i ≤ p ∧ p + pat.length ≤ j
  := by
  have hpos := List.length_pos_iff.mpr hpat
  rw [infix_iff_exists_occursAt]
  constructor
  · rintro ⟨p, hp⟩
    rw [OccursAt, List.drop_drop, List.drop_take, List.prefix_take_iff] at hp
    use i + p, hp.1, Nat.le_add_right i p
    have hle := hp.2
    omega
  · rintro ⟨p, hp, hip, hpj⟩
    use p - i
    rw [OccursAt, List.drop_drop, List.drop_take, List.prefix_take_iff, Nat.add_sub_of_le hip]
    exact ⟨hp, by omega⟩

/-! ### Pairs of quotes -/

/-- A quote is closed where it comes next, on a line without line feeds. -/
theorem closeQuote?_eq_some_iff (quote : Char) {s : List Char} (h : '\n' ∉ s)
    (inner rest : List Char) :
  closeQuote? quote s = some (inner, rest) ↔ s = inner ++ quote :: rest ∧ quote ∉ inner
  := by
  induction s generalizing inner with
  | nil => simp [closeQuote?]
  | cons c s ih =>
      rw [List.mem_cons, not_or] at h
      rw [closeQuote?]
      split
      · rename_i hc
        subst hc
        constructor
        · intro heq
          cases heq
          exact ⟨rfl, List.not_mem_nil⟩
        · rintro ⟨heq, hno⟩
          cases inner with
          | nil =>
              cases heq
              rfl
          | cons d inner =>
              cases heq
              exact absurd List.mem_cons_self hno
      · rename_i hc
        rw [if_neg (Ne.symm h.1), Option.map_eq_some_iff]
        constructor
        · rintro ⟨⟨t, r⟩, ht, heq⟩
          cases heq
          obtain ⟨rfl, hno⟩ := (ih h.2 t).mp ht
          use rfl
          rw [List.mem_cons, not_or]
          exact ⟨Ne.symm hc, hno⟩
        · rintro ⟨heq, hno⟩
          cases inner with
          | nil =>
              cases heq
              exact absurd rfl hc
          | cons d inner =>
              cases heq
              rw [List.mem_cons, not_or] at hno
              use (inner, rest), (ih h.2 inner).mpr ⟨rfl, hno.2⟩

theorem drop_succ_of_drop_eq_cons {line s : List Char} {k : Nat} {c : Char}
    (h : line.drop k = c :: s) :
  line.drop (k + 1) = s
  := by
  rw [← List.drop_drop, h]
  rfl

/-- A pair begins at a place where a quote is read that is closed. -/
theorem isQuotePair_iff {line s : List Char} {k : Nat} {c : Char} (hline : line.drop k = c :: s)
    (hs : '\n' ∉ s) (j : Nat) :
  IsQuotePair line k j
    ↔ isQuote c = true
      ∧ ∃ inner rest, closeQuote? c s = some (inner, rest) ∧ j = k + inner.length + 1
  := by
  rw [IsQuotePair, hline]
  constructor
  · rintro ⟨quote, inner, rest, hquote, heq, hno, rfl⟩
    obtain ⟨rfl, heq⟩ := List.cons.inj heq
    use hquote, inner, rest, (closeQuote?_eq_some_iff c hs inner rest).mpr ⟨heq, hno⟩
  · rintro ⟨hquote, inner, rest, hclose, rfl⟩
    obtain ⟨rfl, hno⟩ := (closeQuote?_eq_some_iff c hs inner rest).mp hclose
    use c, inner, rest, hquote, rfl, hno

/-- What stands between the quotes of a pair, and what is read behind them. -/
theorem between_and_behind {line inner rest : List Char} {k : Nat} {c : Char}
    (h : line.drop k = c :: (inner ++ c :: rest)) :
  (line.take (k + inner.length + 1)).drop (k + 1) = inner
    ∧ line.drop (k + inner.length + 1 + 1) = rest
  := by
  have htail := drop_succ_of_drop_eq_cons h
  have hlength : k + inner.length + 1 - (k + 1) = inner.length := by omega
  have hclosing : line.drop (k + inner.length + 1) = c :: rest := by
    rw [Nat.add_right_comm, ← List.drop_drop, htail, List.drop_left]
  constructor
  · rw [List.drop_take, htail, hlength, List.take_left]
  · exact drop_succ_of_drop_eq_cons hclosing

theorem IsQuotePair.unique {line : List Char} {i j j' : Nat} (h : IsQuotePair line i j)
    (h' : IsQuotePair line i j') :
  j = j'
  := by
  obtain ⟨quote, inner, rest, -, hline, hno, rfl⟩ := h
  obtain ⟨quote', inner', rest', -, hline', hno', rfl⟩ := h'
  rw [hline] at hline'
  obtain ⟨rfl, htail⟩ := List.cons.inj hline'
  have hpieces := congrArg (pieces quote) htail
  rw [pieces_append_cons _ hno, pieces_append_cons _ hno'] at hpieces
  rw [(List.cons.inj hpieces).1]

theorem IsFirstPair.unique {line : List Char} {k i j i' j' : Nat} (h : IsFirstPair line k i j)
    (h' : IsFirstPair line k i' j') :
  i = i' ∧ j = j'
  := by
  have hi := le_antisymm (h.first _ _ h'.le h'.pair) (h'.first _ _ h.le h.pair)
  subst hi
  use rfl
  exact h.pair.unique h'.pair

/-- A pair that begins at the place where the reading goes on is the first. -/
theorem IsQuotePair.isFirstPair {line : List Char} {k j : Nat} (h : IsQuotePair line k j) :
  IsFirstPair line k k j
  := ⟨le_refl k, h, fun _ _ hle _ => hle⟩

/-- A place where no pair begins may be passed over. -/
theorem isFirstPair_succ_iff {line : List Char} {k : Nat} (h : ∀ j, ¬ IsQuotePair line k j)
    (i j : Nat) :
  IsFirstPair line (k + 1) i j ↔ IsFirstPair line k i j
  := by
  have hlt : ∀ i' j', IsQuotePair line i' j' → (k ≤ i' ↔ k + 1 ≤ i') := by
    intro i' j' hpair
    constructor
    · intro hle
      rcases Nat.eq_or_lt_of_le hle with rfl | hlt
      · exact absurd hpair (h j')
      · exact hlt
    · exact Nat.le_of_succ_le
  constructor
  · rintro ⟨hle, hpair, hfirst⟩
    refine ⟨Nat.le_of_succ_le hle, hpair, ?_⟩
    intro i' j' hle' hpair'
    exact hfirst i' j' ((hlt i' j' hpair').mp hle') hpair'
  · rintro ⟨hle, hpair, hfirst⟩
    refine ⟨(hlt i j hpair).mp hle, hpair, ?_⟩
    intro i' j' hle'
    exact hfirst i' j' (Nat.le_of_succ_le hle')

/-! ### Quoted texts -/

theorem IsSpan.exists_isFirstPair {line : List Char} {k i j : Nat} (h : IsSpan line k i j) :
  ∃ i' j', IsFirstPair line k i' j'
  := by
  cases h with
  | first h => exact ⟨_, _, h⟩
  | later h _ => exact ⟨_, _, h⟩

/-- A quoted text begins and ends with a pair of quotes. -/
theorem IsSpan.isQuotePair {line : List Char} {k i j : Nat} (h : IsSpan line k i j) :
  IsQuotePair line i j
  := by
  induction h with
  | first h => exact h.pair
  | later _ _ ih => exact ih

/-- The quoted texts are the first pair and those that follow its end. -/
theorem IsFirstPair.isSpan_iff {line : List Char} {k i j : Nat} (h : IsFirstPair line k i j)
    (i' j' : Nat) :
  IsSpan line k i' j' ↔ (i' = i ∧ j' = j) ∨ IsSpan line (j + 1) i' j'
  := by
  constructor
  · intro hspan
    cases hspan with
    | first h' => exact Or.inl (h'.unique h)
    | later h' hlater =>
        obtain ⟨-, rfl⟩ := h'.unique h
        exact Or.inr hlater
  · rintro (⟨rfl, rfl⟩ | hlater)
    · exact .first h
    · exact .later h hlater

theorem isSpan_succ_iff {line : List Char} {k : Nat} (h : ∀ j, ¬ IsQuotePair line k j)
    (i j : Nat) :
  IsSpan line (k + 1) i j ↔ IsSpan line k i j
  := by
  constructor
  · intro hspan
    cases hspan with
    | first hfirst => exact .first ((isFirstPair_succ_iff h _ _).mp hfirst)
    | later hfirst hlater => exact .later ((isFirstPair_succ_iff h _ _).mp hfirst) hlater
  · intro hspan
    cases hspan with
    | first hfirst => exact .first ((isFirstPair_succ_iff h _ _).mpr hfirst)
    | later hfirst hlater => exact .later ((isFirstPair_succ_iff h _ _).mpr hfirst) hlater

/-- The quoted texts that are read from a place on are what stands between their quotes. -/
theorem mem_quotedSpans_iff {line : List Char} (hline : '\n' ∉ line) (k : Nat)
    (inner : List Char) :
  inner ∈ quotedSpans (line.drop k)
    ↔ ∃ i j, IsSpan line k i j ∧ inner = (line.take j).drop (i + 1)
  := by
  -- the place `k` goes along with the rest of the line that is still to be read
  generalize hs : line.drop k = s
  have hfeed : '\n' ∉ s := by
    rw [← hs]
    exact fun hmem => hline (List.mem_of_mem_drop hmem)
  fun_induction quotedSpans s generalizing k with
  | case1 =>
      simp only [List.not_mem_nil, false_iff]
      rintro ⟨i, j, hspan, -⟩
      obtain ⟨i', j', hle, ⟨quote, inner', rest, -, hdrop, -⟩, -⟩ := hspan.exists_isFirstPair
      have hlength := congrArg List.length hdrop
      have hlength' := congrArg List.length hs
      simp only [List.length_drop, List.length_cons, List.length_nil] at hlength hlength'
      omega
  | case2 c s hc inner' rest hclose ih =>
      rw [List.mem_cons, not_or] at hfeed
      have hpair := (isQuotePair_iff hs hfeed.2 _).mpr ⟨hc, inner', rest, hclose, rfl⟩
      obtain ⟨rfl, -⟩ := (closeQuote?_eq_some_iff c hfeed.2 _ _).mp hclose
      obtain ⟨hinner, hrest⟩ := between_and_behind hs
      have hfeed' : '\n' ∉ rest := fun hmem => hfeed.2 (by simp [hmem])
      rw [List.mem_cons, show inner ∈ quotedSpans rest ↔ _ from ih _ hrest hfeed']
      simp only [hpair.isFirstPair.isSpan_iff]
      constructor
      · rintro (rfl | ⟨i, j, hspan, rfl⟩)
        · exact ⟨k, _, Or.inl ⟨rfl, rfl⟩, hinner.symm⟩
        · exact ⟨i, j, Or.inr hspan, rfl⟩
      · rintro ⟨i, j, ⟨rfl, rfl⟩ | hspan, rfl⟩
        · exact Or.inl hinner
        · exact Or.inr ⟨i, j, hspan, rfl⟩
  | case3 c s hc hclose ih =>
      rw [List.mem_cons, not_or] at hfeed
      have hno : ∀ j, ¬ IsQuotePair line k j := by
        intro j
        rw [isQuotePair_iff hs hfeed.2, hclose]
        simp
      simp only [← isSpan_succ_iff hno]
      exact ih (k + 1) (drop_succ_of_drop_eq_cons hs) hfeed.2
  | case4 c s hc ih =>
      rw [List.mem_cons, not_or] at hfeed
      have hno : ∀ j, ¬ IsQuotePair line k j := by
        intro j
        rw [isQuotePair_iff hs hfeed.2]
        exact fun hpair => hc hpair.1
      simp only [← isSpan_succ_iff hno]
      exact ih (k + 1) (drop_succ_of_drop_eq_cons hs) hfeed.2

/-! ### The guard -/

theorem directiveKeyword_ne_nil :
  directiveKeyword ≠ []
  := by decide

theorem mentions_iff_exists_occursAt (line : List Char) :
  Mentions line ↔ ∃ p, OccursAt directiveKeyword line p
  := infix_iff_exists_occursAt directiveKeyword line

/-- The guard holds when the keyword stands in a quoted text. -/
theorem quotesDirective_iff {line : List Char} (hline : '\n' ∉ line) :
  quotesDirective line = true ↔ ∃ p, OccursAt directiveKeyword line p ∧ IsQuotedAt line p
  := by
  rw [quotesDirective, List.any_eq_true]
  constructor
  · rintro ⟨inner, hinner, hoccurs⟩
    obtain ⟨i, j, hspan, rfl⟩ := (mem_quotedSpans_iff hline 0 inner).mp hinner
    rw [occurs_iff, infix_drop_take_iff directiveKeyword_ne_nil] at hoccurs
    obtain ⟨p, hp, hip, hpj⟩ := hoccurs
    exact ⟨p, hp, i, j, hspan, hip, hpj⟩
  · rintro ⟨p, hp, i, j, hspan, hip, hpj⟩
    use (line.take j).drop (i + 1), (mem_quotedSpans_iff hline 0 _).mpr ⟨i, j, hspan, rfl⟩
    rw [occurs_iff, infix_drop_take_iff directiveKeyword_ne_nil]
    exact ⟨p, hp, hip, hpj⟩

/-- What is quoted stands after a quote. -/
theorem IsQuotedAt.exists_isQuote {line : List Char} {p : Nat} (h : IsQuotedAt line p) :
  ∃ c ∈ line.take p, isQuote c = true
  := by
  obtain ⟨i, j, hspan, hip, -⟩ := h
  obtain ⟨quote, inner, rest, hquote, hdrop, -⟩ := hspan.isQuotePair
  use quote
  refine ⟨?_, hquote⟩
  have hbehind : quote ∈ (line.take p).drop i := by
    rw [List.drop_take, hdrop, List.take_cons (by omega)]
    exact List.mem_cons_self
  exact List.mem_of_mem_drop hbehind

/-- A line without line feeds is guarded exactly when the keyword stands in a quoted text of it.
This is the same as to stand there wherever it stands on the line, if and only if the keyword
does not stand both inside and outside of quoted texts. -/
theorem quotesDirective_places {line : List Char} (hline : '\n' ∉ line) :
  (quotesDirective line = true ↔ ∃ p, OccursAt directiveKeyword line p ∧ IsQuotedAt line p)
    ∧ ((quotesDirective line = true
        ↔ Mentions line ∧ ∀ p, OccursAt directiveKeyword line p → IsQuotedAt line p)
      ↔ ∀ p q, OccursAt directiveKeyword line p → OccursAt directiveKeyword line q →
        IsQuotedAt line p → IsQuotedAt line q)
  := by
  have hguard := quotesDirective_iff hline
  use hguard
  rw [hguard, mentions_iff_exists_occursAt]
  constructor
  · intro h p q hp hq hquoted
    exact (h.mp ⟨p, hp, hquoted⟩).2 q hq
  · intro h
    constructor
    · rintro ⟨p, hp, hquoted⟩
      use ⟨p, hp⟩
      intro q hq
      exact h p q hp hq hquoted
    · rintro ⟨⟨p, hp⟩, hall⟩
      exact ⟨p, hp, hall p hp⟩

/-- An apostrophe that does not come again, and a directive in a quoted text. -/
theorem quotesDirective_places_after_apostrophe :
  let line := "it's \"// avesta-disable-next-line a\"".toList
  '\n' ∉ line ∧ quotesDirective line = true
    ∧ ∃ p, OccursAt directiveKeyword line p ∧ IsQuotedAt line p
  := by
  intro line
  have hline : '\n' ∉ line := by decide
  have hquotes : quotesDirective line = true := by decide +kernel
  exact ⟨hline, hquotes, (quotesDirective_places hline).1.mp hquotes⟩

/-- A directive for the whole file is passed over since the code after it quotes the keyword. -/
theorem readDirectives_quoted_after_directive :
  let line := "/* avesta-disable a */ f('avesta-disable');".toList
  '\n' ∉ line ∧ quotesDirective line = true
    ∧ OccursAt directiveKeyword line 3 ∧ ¬ IsQuotedAt line 3 ∧ FileForm line " a ".toList
    ∧ readDirectives (String.ofList line) none = .ok .none
  := by
  intro line
  have hquotes : quotesDirective line = true := by decide +kernel
  have hread : readDirectives (String.ofList line) none = .ok .none := by decide +kernel
  have hno : ¬ IsQuotedAt line 3 := by
    intro h
    have hany := List.any_eq_true.mpr h.exists_isQuote
    revert hany
    decide
  have hform : FileForm line " a ".toList := by
    apply (filePayload?_eq_some_iff _ _).mp
    decide
  refine ⟨by decide, hquotes, ?_, hno, hform, hread⟩
  rw [OccursAt]
  decide

end SourceAudit
