/-!
# Order of texts

Texts are ordered by code points, character by character. Reports list names in this
order, and a set of names is shown as its members in ascending order.
-/

namespace SourceAudit.Text

/-- Whether one text comes before another or equals it. -/
def textLe (a b : String) : Bool :=
  decide (a ≤ b)

/-- Whether one list of texts comes before another or equals it, compared member by
member. -/
def textsLe : List String → List String → Bool
  | [], _ => true
  | _ :: _, [] => false
  | a :: as, b :: bs => if a = b then textsLe as bs else textLe a b

/-- The texts in ascending order. -/
def sortTexts (ts : List String) : List String :=
  ts.mergeSort textLe

/-- The list without the members that occurred earlier in it. -/
def distinct {α : Type} [BEq α] : List α → List α
  | [] => []
  | a :: as => a :: (distinct as).filter fun b => !(b == a)

/-- The different texts of a list in ascending order. -/
def sortedSet (ts : List String) : List String :=
  sortTexts (distinct ts)

/-- The texts in order with `sep` between every two of them. -/
def joinWith (sep : String) (ts : List String) : String :=
  sep.intercalate ts

theorem mem_distinct {α : Type} [BEq α] [LawfulBEq α] (a : α) (as : List α) :
  a ∈ distinct as ↔ a ∈ as
  := by
  induction as with
  | nil => simp [distinct]
  | cons b bs ih =>
      by_cases h : a = b
      · simp [distinct, h]
      · simp [distinct, h, ih]

theorem nodup_distinct {α : Type} [BEq α] [LawfulBEq α] (as : List α) :
  (distinct as).Nodup
  := by
  induction as with
  | nil => exact List.nodup_nil
  | cons a as ih =>
      rw [distinct, List.nodup_cons]
      constructor
      · simp
      · exact ih.filter _

theorem mem_sortedSet (t : String) (ts : List String) :
  t ∈ sortedSet ts ↔ t ∈ ts
  := by
  simp [sortedSet, sortTexts, mem_distinct]

end SourceAudit.Text
