import SourceAudit.Audit
import Mathlib.Data.Prod.Lex
import Mathlib.Data.String.Basic

/-!
# The order of a report

Putting diagnostics in the order of a report loses none and adds none, and leaves them
ordered by path, line, column, severity and rule, each compared only where those before
it are equal. Diagnostics without a path come first.
-/

namespace SourceAudit

open Text

theorem textLe_iff (a b : String) :
  textLe a b = true ↔ a ≤ b
  := decide_eq_true_iff

/-! ### Keys -/

/-- A key as a tuple; tuples are compared entry by entry from the left. -/
def ReportKey.toTuple (k : ReportKey) : String ×ₗ Int ×ₗ Int ×ₗ Int ×ₗ String :=
  toLex (k.path, toLex (k.line, toLex (k.column, toLex (k.severity, k.rule))))

/-- Two entries are compared first, and the rest only where they are equal. -/
theorem ite_ne_eq_true_iff {α β : Type} [LinearOrder α] [LinearOrder β] {a b : α} {x y : β}
    [Decidable (a ≠ b)] {first rest : Bool} (hfirst : a ≠ b → (first = true ↔ a < b))
    (hrest : rest = true ↔ x ≤ y) :
  (if a ≠ b then first else rest) = true ↔ toLex (a, x) ≤ toLex (b, y)
  := by
  rw [Prod.Lex.toLex_le_toLex]
  by_cases h : a = b
  · rw [if_neg (not_not.mpr h), hrest]
    simp [h]
  · rw [if_pos h, hfirst h]
    simp [h]

/-- Keys are compared as tuples are. -/
theorem ReportKey.le_iff (a b : ReportKey) :
  a.le b = true ↔ a.toTuple ≤ b.toTuple
  := by
  rw [ReportKey.le]
  apply ite_ne_eq_true_iff
  · intro hne
    rw [textLe_iff]
    exact ⟨fun hle => lt_of_le_of_ne hle hne, le_of_lt⟩
  · apply ite_ne_eq_true_iff
    · intro _
      exact decide_eq_true_iff
    · apply ite_ne_eq_true_iff
      · intro _
        exact decide_eq_true_iff
      · apply ite_ne_eq_true_iff
        · intro _
          exact decide_eq_true_iff
        · apply textLe_iff

/-! ### Reports -/

theorem reportOrder_perm (ds : List Diagnostic) :
  (reportOrder ds).Perm ds
  := List.mergeSort_perm _ _

theorem reportKey_le_trans {a b c : ReportKey} (hab : a.le b = true) (hbc : b.le c = true) :
  a.le c = true
  := by
  rw [ReportKey.le_iff] at hab hbc ⊢
  exact le_trans hab hbc

theorem reportKey_le_total (a b : ReportKey) :
  (a.le b || b.le a) = true
  := by
  rw [Bool.or_eq_true, ReportKey.le_iff, ReportKey.le_iff]
  apply le_total

theorem pairwise_reportOrder (ds : List Diagnostic) :
  (reportOrder ds).Pairwise fun a b => a.reportKey.toTuple ≤ b.reportKey.toTuple
  := by
  simp only [← ReportKey.le_iff]
  apply List.pairwise_mergeSort
  · intro a b c
    apply reportKey_le_trans
  · intro a b
    apply reportKey_le_total

/-! ### Parts of a report -/

/-- A list is cut in one way only into entries that pass a test and entries that fail it. -/
theorem eq_and_eq_of_append_eq_append {α : Type} {q : α → Bool} {l₁ l₂ m₁ m₂ : List α}
    (h : l₁ ++ l₂ = m₁ ++ m₂) (hl₁ : ∀ a ∈ l₁, q a = true) (hl₂ : ∀ a ∈ l₂, q a = false)
    (hm₁ : ∀ a ∈ m₁, q a = true) (hm₂ : ∀ a ∈ m₂, q a = false) :
  l₁ = m₁ ∧ l₂ = m₂
  := by
  have hfirst := congrArg (List.filter q) h
  rw [List.filter_append, List.filter_append, List.filter_eq_self.mpr hl₁,
    List.filter_eq_self.mpr hm₁, List.filter_eq_nil_iff.mpr (by simpa using hl₂),
    List.filter_eq_nil_iff.mpr (by simpa using hm₂), List.append_nil, List.append_nil] at hfirst
  subst hfirst
  exact ⟨rfl, List.append_cancel_left h⟩

/-- A stable sort puts the entries that pass a test in the order in which it puts them alone. -/
theorem filter_mergeSort {α : Type} {le : α → α → Bool}
    (htrans : ∀ a b c, le a b = true → le b c = true → le a c = true)
    (htotal : ∀ a b, (le a b || le b a) = true) (p : α → Bool) (l : List α) :
  (l.mergeSort le).filter p = (l.filter p).mergeSort le
  := by
  induction l with
  | nil => simp
  | cons a l ih =>
      have hafter : ∀ {l l₁ l₂ : List α}, (a :: l).mergeSort le = l₁ ++ a :: l₂ →
          ∀ b ∈ l₂, (!le a b) = false := by
        intro l l₁ l₂ hsort b hb
        have hsorted := List.pairwise_mergeSort htrans htotal (a :: l)
        rw [hsort] at hsorted
        have hab := (List.pairwise_cons.mp (List.pairwise_append.mp hsorted).2.1).1 b hb
        rw [hab]
        rfl
      obtain ⟨l₁, l₂, hal, hl, hl₁⟩ := List.mergeSort_cons htrans htotal a l
      rw [hl, List.filter_append] at ih
      rw [hal, List.filter_append, List.filter_cons, List.filter_cons]
      cases p a with
      | false => exact ih
      | true =>
          obtain ⟨m₁, m₂, ham, hm, hm₁⟩ := List.mergeSort_cons htrans htotal a (l.filter p)
          rw [hm] at ih
          obtain ⟨h₁, h₂⟩ := eq_and_eq_of_append_eq_append ih
            (fun b hb => hl₁ b (List.mem_of_mem_filter hb))
            (fun b hb => hafter hal b (List.mem_of_mem_filter hb)) hm₁ (hafter ham)
          rw [if_pos rfl, if_pos rfl, ham, h₁, h₂]

theorem filter_reportOrder (p : Diagnostic → Bool) (ds : List Diagnostic) :
  (reportOrder ds).filter p = reportOrder (ds.filter p)
  := by
  apply filter_mergeSort
  · intro a b c
    apply reportKey_le_trans
  · intro a b
    apply reportKey_le_total

/-! ### Diagnostics without a path -/

theorem joinWith_ne_empty {sep name : String} (hname : name ≠ "") (names : List String) :
  joinWith sep (name :: names) ≠ ""
  := by
  rw [joinWith]
  cases names with
  | nil =>
      rw [String.intercalate_singleton]
      exact hname
  | cons next names =>
      rw [String.intercalate_cons_cons]
      simp [hname]

/-- The text of a path is not empty. -/
theorem Path.toText_ne_empty {p : Path} (h : "" ∉ p.names) :
  p.toText ≠ ""
  := by
  obtain ⟨anchor, names⟩ := p
  cases anchor with
  | here =>
      cases names with
      | nil => simp [Path.toText]
      | cons name names =>
          have hname : name ≠ "" := by
            rintro rfl
            exact h (List.mem_cons_self ..)
          apply joinWith_ne_empty hname
  | root => simp [Path.toText]
  | doubleRoot => simp [Path.toText]

/-- A diagnostic that comes before one without a path has no path either. -/
theorem path_eq_none_of_reportKey_le {a b : Diagnostic}
    (h : a.reportKey.toTuple ≤ b.reportKey.toTuple) (hb : b.path = none)
    (ha : ∀ p, a.path = some p → "" ∉ p.names) :
  a.path = none
  := by
  have hle : a.reportKey.path ≤ b.reportKey.path := Prod.Lex.monotone_fst _ _ h
  have hbkey : b.reportKey.path = "" := by
    rw [Diagnostic.reportKey, hb]
    rfl
  cases hpath : a.path with
  | none => rfl
  | some p =>
      have hakey : a.reportKey.path = p.toText := by
        rw [Diagnostic.reportKey, hpath]
        rfl
      rw [hbkey, hakey] at hle
      have hempty : p.toText = "" := by
        apply le_antisymm hle
        exact List.nil_le p.toText.toList
      exact absurd hempty (Path.toText_ne_empty (ha p hpath))

end SourceAudit
