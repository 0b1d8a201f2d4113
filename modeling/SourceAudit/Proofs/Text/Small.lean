import SourceAudit.Text.Letter
import SourceAudit.Proofs.Directive.RuleList

/-!
# Small letters of names

An identifier is its own small form, and so is the small form of any text, which has blanks at
its ends only where the text has some. A text of small ASCII letters other than `k` is the
small form of those texts only that differ from it in the case of ASCII letters: of the
capitals beyond ASCII just the Kelvin sign has an ASCII letter for its small form.
-/

namespace SourceAudit

open Text

/-! ### Plain small letters -/

theorem smallForm_of_lt {c : Char} (h : c.toNat < 128) :
  smallForm c = c.toLower
  := by
  rw [smallForm]
  exact if_pos h

/-- A capital beyond ASCII has a small letter beyond ASCII, unless it is the Kelvin sign. -/
theorem capitals_beyond_ascii :
  ∀ run ∈ capitals, run.2.1 < 128 ∨ 128 ≤ run.2.2.2
    ∨ run.1 = run.2.1 ∧ run.2.2.2 = 0x6B
  := by decide +kernel

theorem toNat_ofNat_eq_or (n : Nat) :
  (Char.ofNat n).toNat = n ∨ (Char.ofNat n).toNat = 0
  := by
  rw [Char.ofNat]
  by_cases h : n.isValidChar
  · left
    rw [dif_pos h]
    rfl
  · right
    rw [dif_neg h]
    rfl

/-- The character is a small ASCII letter other than `k`, or one of the few signs after them. -/
def IsPlainSmall (c : Char) : Prop :=
  97 ≤ c.toNat ∧ c.toNat < 128 ∧ c.toNat ≠ 0x6B

instance : DecidablePred IsPlainSmall :=
  fun c => inferInstanceAs (Decidable (97 ≤ c.toNat ∧ c.toNat < 128 ∧ c.toNat ≠ 0x6B))

/-- Only an ASCII character has a plain small letter for its small form. -/
theorem lt_of_isPlainSmall_smallForm {c : Char} (h : IsPlainSmall (smallForm c)) :
  c.toNat < 128
  := by
  obtain ⟨hlow, hhigh, hk⟩ := h
  by_contra hc
  rw [smallForm] at hlow hhigh hk
  dsimp only at hlow hhigh hk
  rw [if_neg hc] at hlow hhigh hk
  split at hlow
  · rename_i low high step small hfind
    rw [hfind] at hhigh hk
    have hin := List.find?_some hfind
    rw [Bool.and_eq_true, Bool.and_eq_true, decide_eq_true_iff, decide_eq_true_iff] at hin
    have hrun := capitals_beyond_ascii _ (List.mem_of_find?_eq_some hfind)
    dsimp only at hhigh hk hin hrun
    rcases toNat_ofNat_eq_or (c.toNat - low + small) with hvalue | hvalue
    · omega
    · omega
  · rename_i hfind
    rw [hfind] at hhigh
    exact hc hhigh

/-- The small form of a text with a character beyond ASCII in front is not all plain. -/
theorem exists_not_isPlainSmall {c : Char} (hc : ¬ c.toNat < 128) (before s : List Char) :
  ∃ d ∈ smallFrom before (c :: s), ¬ IsPlainSmall d
  := by
  rw [smallFrom]
  by_cases hdotted : c.toNat = 0x130
  · rw [if_pos hdotted]
    use Char.ofNat 0x307, by simp
    decide
  · rw [if_neg hdotted]
    by_cases hsigma : c.toNat = 0x3A3
    · rw [if_pos hsigma]
      refine ⟨_, List.mem_append_left _ (List.mem_singleton_self _), ?_⟩
      split
      · decide
      · decide
    · rw [if_neg hsigma]
      use smallForm c, List.mem_append_left _ (List.mem_singleton_self _)
      exact fun hplain => hc (lt_of_isPlainSmall_smallForm hplain)

theorem toLower_of_not_lt {c : Char} (hc : ¬ c.toNat < 128) :
  c.toLower = c
  := by
  apply dif_neg
  intro hcapital
  have hhigh : c.toNat ≤ 90 := hcapital.2
  omega

/-- A text of plain small letters is the small form of just the texts that turn into it when
ASCII capitals are made small. -/
theorem smallFrom_eq_iff {t : List Char} (ht : ∀ c ∈ t, IsPlainSmall c)
    (before s : List Char) :
  smallFrom before s = t ↔ s.map Char.toLower = t
  := by
  induction s generalizing t before with
  | nil => rfl
  | cons c s ih =>
      by_cases hascii : c.toNat < 128
      · rw [smallFrom, List.map_cons, if_neg (by omega), if_neg (by omega),
          smallForm_of_lt hascii, List.singleton_append]
        cases t with
        | nil => simp
        | cons d t => rw [List.cons.injEq, List.cons.injEq, ih (List.forall_mem_cons.mp ht).2]
      · constructor
        · rintro rfl
          obtain ⟨d, hd, hno⟩ := exists_not_isPlainSmall hascii before s
          exact absurd (ht d hd) hno
        · rintro rfl
          obtain ⟨-, hhigh, -⟩ := ht c.toLower List.mem_cons_self
          rw [toLower_of_not_lt hascii] at hhigh
          exact absurd hhigh hascii

/-! ### Texts without capitals -/

/-- No small form of a capital is a capital: the runs of both lie apart, or they alternate. -/
theorem small_forms_apart :
  ∀ run ∈ capitals, ∀ other ∈ capitals,
    run.2.2.2 + (run.2.1 - run.1) < other.1 ∨ other.2.1 < run.2.2.2
      ∨ other.2.2.1 = 2 ∧ (run.2.2.2 + other.1) % 2 = 1 ∧ (run.1 = run.2.1 ∨ run.2.2.1 = 2)
  := by decide +kernel

/-- No small form of a capital is blank, the dotted capital I or a capital sigma. -/
theorem small_forms_ordinary :
  ∀ run ∈ capitals, ∀ range ∈ [(0x9, 0xD), (0x1C, 0x20), (0x85, 0x85), (0xA0, 0xA0),
      (0x130, 0x130), (0x3A3, 0x3A3), (0x1680, 0x1680), (0x2000, 0x200A), (0x2028, 0x2029),
      (0x202F, 0x202F), (0x205F, 0x205F), (0x3000, 0x3000)],
    run.2.2.2 + (run.2.1 - run.1) < range.1 ∨ range.2 < run.2.2.2
  := by decide +kernel

/-- The character is its own small form, wherever it stands in a text. -/
def IsSmall (c : Char) : Prop :=
  smallForm c = c ∧ c.toNat ≠ 0x130 ∧ c.toNat ≠ 0x3A3

instance : DecidablePred IsSmall :=
  fun c => inferInstanceAs (Decidable (smallForm c = c ∧ c.toNat ≠ 0x130 ∧ c.toNat ≠ 0x3A3))

theorem isSmall_of_ascii :
  ∀ n < 128, IsSmall (smallForm (Char.ofNat n))
    ∧ (isBlank (Char.ofNat n) = false → isBlank (smallForm (Char.ofNat n)) = false)
  := by decide +kernel

/-- A capital beyond ASCII has its small form from a run of capitals. -/
theorem exists_run_of_smallForm_ne {c : Char} (hc : ¬ c.toNat < 128) (h : smallForm c ≠ c) :
  ∃ run ∈ capitals, run.1 ≤ c.toNat ∧ c.toNat ≤ run.2.1 ∧ (c.toNat - run.1) % run.2.2.1 = 0
    ∧ smallForm c = Char.ofNat (c.toNat - run.1 + run.2.2.2)
  := by
  rw [smallForm] at h ⊢
  dsimp only at h ⊢
  rw [if_neg hc] at h ⊢
  split at h
  · rename_i low high step small hfind
    have hin := List.find?_some hfind
    simp only [Bool.and_eq_true, decide_eq_true_iff, beq_iff_eq] at hin
    use (low, high, step, small), List.mem_of_find?_eq_some hfind, hin.1.1, hin.1.2, hin.2
  · exact absurd rfl h

section
variable {run : Nat × Nat × Nat × Nat} (hrun : run ∈ capitals) {n : Nat} (hlow : run.1 ≤ n)
  (hhigh : n ≤ run.2.1)

include hrun hlow hhigh

theorem isBlank_ofNat_of_run :
  isBlank (Char.ofNat (n - run.1 + run.2.2.2)) = false
  := by
  have hordinary := small_forms_ordinary run hrun
  simp only [List.forall_mem_cons] at hordinary
  rcases toNat_ofNat_eq_or (n - run.1 + run.2.2.2) with hvalue | hvalue
  · rw [isBlank, hvalue]
    simp only [Bool.or_eq_false_iff, Bool.and_eq_false_iff, decide_eq_false_iff_not,
      beq_eq_false_iff_ne]
    omega
  · rw [isBlank, hvalue]
    rfl

theorem isSmall_ofNat_of_run (hstep : (n - run.1) % run.2.2.1 = 0) (hn : 128 ≤ n) :
  IsSmall (Char.ofNat (n - run.1 + run.2.2.2))
  := by
  have hordinary := small_forms_ordinary run hrun
  have hdotted := hordinary (0x130, 0x130) (by decide)
  have hsigma := hordinary (0x3A3, 0x3A3) (by decide)
  dsimp only at hdotted hsigma
  rcases toNat_ofNat_eq_or (n - run.1 + run.2.2.2) with hvalue | hvalue
  · refine ⟨?_, by omega, by omega⟩
    by_contra hne
    rcases capitals_beyond_ascii run hrun with hascii | hbeyond | ⟨hone, hkelvin⟩
    · omega
    · obtain ⟨other, hother, hlow', hhigh', hstep', -⟩ :=
        exists_run_of_smallForm_ne (by omega) hne
      rw [hvalue] at hlow' hhigh' hstep'
      rcases small_forms_apart run hrun other hother with h | h | ⟨htwo, hodd, heven⟩
      · omega
      · omega
      · rw [htwo] at hstep'
        rcases heven with heven | heven
        · omega
        · rw [heven] at hstep
          omega
    · have hk : n - run.1 + run.2.2.2 = 0x6B := by omega
      rw [hk] at hne
      exact hne (by decide)
  · have hzero : Char.ofNat (n - run.1 + run.2.2.2) = Char.ofNat 0 := by
      rw [← hvalue, Char.ofNat_toNat]
    rw [hzero]
    decide

end

/-- The small form of a character is no capital, and is blank only if the character is. -/
theorem isSmall_smallForm {c : Char} (hdotted : c.toNat ≠ 0x130) (hsigma : c.toNat ≠ 0x3A3) :
  IsSmall (smallForm c) ∧ (isBlank c = false → isBlank (smallForm c) = false)
  := by
  by_cases hascii : c.toNat < 128
  · have h := isSmall_of_ascii c.toNat hascii
    rw [Char.ofNat_toNat] at h
    exact h
  · by_cases hsame : smallForm c = c
    · rw [hsame]
      exact ⟨⟨hsame, hdotted, hsigma⟩, id⟩
    · obtain ⟨run, hrun, hlow, hhigh, hstep, heq⟩ := exists_run_of_smallForm_ne hascii hsame
      rw [heq]
      constructor
      · apply isSmall_ofNat_of_run hrun hlow hhigh hstep
        omega
      · intro _
        exact isBlank_ofNat_of_run hrun hlow hhigh

/-- What stands for the first character in the small form of a text. -/
theorem exists_smallFrom_cons (before : List Char) (c : Char) (s : List Char) :
  ∃ here, smallFrom before (c :: s) = here ++ smallFrom (c :: before) s ∧ here ≠ []
    ∧ ∀ d ∈ here, IsSmall d ∧ (isBlank c = false → isBlank d = false)
  := by
  have hspecial : ∀ n ∈ [0x69, 0x307, 0x3C2, 0x3C3],
      IsSmall (Char.ofNat n) ∧ isBlank (Char.ofNat n) = false := by decide +kernel
  simp only [List.forall_mem_cons] at hspecial
  obtain ⟨hi, hdot, hfinal, hsigma, -⟩ := hspecial
  rw [smallFrom]
  refine ⟨_, rfl, ?_⟩
  split
  · use List.cons_ne_nil _ _
    rw [List.forall_mem_cons, List.forall_mem_singleton]
    exact ⟨⟨hi.1, fun _ => hi.2⟩, ⟨hdot.1, fun _ => hdot.2⟩⟩
  · rename_i hdotted
    split
    · use List.cons_ne_nil _ _
      rw [List.forall_mem_singleton]
      split
      · exact ⟨hfinal.1, fun _ => hfinal.2⟩
      · exact ⟨hsigma.1, fun _ => hsigma.2⟩
    · rename_i hcapital
      use List.cons_ne_nil _ _
      rw [List.forall_mem_singleton]
      exact isSmall_smallForm hdotted hcapital

theorem isSmall_of_mem_smallFrom {before s : List Char} {d : Char}
    (h : d ∈ smallFrom before s) :
  IsSmall d
  := by
  induction s generalizing before with
  | nil => cases h
  | cons c s ih =>
      obtain ⟨here, heq, -, hhere⟩ := exists_smallFrom_cons before c s
      rw [heq, List.mem_append] at h
      rcases h with h | h
      · exact (hhere d h).1
      · exact ih h

theorem smallFrom_of_isSmall {s : List Char} (h : ∀ c ∈ s, IsSmall c) (before : List Char) :
  smallFrom before s = s
  := by
  induction s generalizing before with
  | nil => rfl
  | cons c s ih =>
      obtain ⟨⟨hform, hdotted, hsigma⟩, hs⟩ := List.forall_mem_cons.mp h
      rw [smallFrom, if_neg hdotted, if_neg hsigma, hform, ih hs]
      rfl

/-- A text that is made small once is small. -/
theorem small_small (t : String) :
  small (small t) = small t
  := by
  have hsmall : ∀ c ∈ smallFrom [] t.toList, IsSmall c := fun c hc => isSmall_of_mem_smallFrom hc
  rw [small, small, String.toList_ofList, smallFrom_of_isSmall hsmall]

/-- The small form of a trimmed text is trimmed. -/
theorem trim_smallFrom {s : List Char} (h : trim s = s) (before : List Char) :
  trim (smallFrom before s) = smallFrom before s
  := by
  obtain ⟨hfirst, hlast⟩ := (trim_eq_self_iff s).mp h
  rw [trim_eq_self_iff]
  constructor
  · cases s with
    | nil => exact nofun
    | cons c s =>
        obtain ⟨here, heq, hne, hhere⟩ := exists_smallFrom_cons before c s
        intro d hd
        rw [heq, List.head?_append_of_ne_nil _ hne] at hd
        exact (hhere d (List.mem_of_mem_head? hd)).2 (hfirst c rfl)
  · clear h hfirst
    induction s generalizing before with
    | nil => exact nofun
    | cons c s ih =>
        obtain ⟨here, heq, hne, hhere⟩ := exists_smallFrom_cons before c s
        intro d hd
        cases s with
        | nil =>
            rw [heq, smallFrom, List.append_nil] at hd
            exact (hhere d (List.mem_of_mem_getLast? hd)).2 (hlast c rfl)
        | cons c' s =>
            obtain ⟨here', heq', hne', -⟩ := exists_smallFrom_cons (c :: before) c' s
            have hrest : smallFrom (c :: before) (c' :: s) ≠ [] := by
              rw [heq']
              exact List.append_ne_nil_of_left_ne_nil hne' _
            rw [heq, List.getLast?_append_of_ne_nil _ hrest] at hd
            rw [List.getLast?_cons_cons] at hlast
            exact ih (c :: before) hlast d hd

/-! ### Identifiers -/

theorem smallForm_of_isRuleChar {c : Char} (h : isRuleChar c = true) :
  smallForm c = c
  := by
  have hrange := toNat_of_isRuleChar h
  rw [smallForm_of_lt (by omega)]
  apply dif_neg
  intro hcapital
  have hlow : 65 ≤ c.toNat := hcapital.1
  have hhigh : c.toNat ≤ 90 := hcapital.2
  omega

theorem smallFrom_of_isRuleChar {s : List Char} (h : ∀ c ∈ s, isRuleChar c = true)
    (before : List Char) :
  smallFrom before s = s
  := by
  apply smallFrom_of_isSmall
  intro c hc
  have hrange := toNat_of_isRuleChar (h c hc)
  exact ⟨smallForm_of_isRuleChar (h c hc), by omega, by omega⟩

end SourceAudit
