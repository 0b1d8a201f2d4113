/-!
# Tables of character ranges

A property of characters is tabulated by the ranges of code points that have it.
-/

namespace SourceAudit.Text

/-- Whether a code point lies in one of the ranges, both ends included. -/
def inRanges (table : List (Nat × Nat)) (n : Nat) : Bool :=
  table.any fun (low, high) => low ≤ n && n ≤ high

end SourceAudit.Text
