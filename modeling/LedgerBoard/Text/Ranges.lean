/-!
# Character ranges

Unicode properties are tables of ranges of code points, both ends included.
-/

namespace LedgerBoard.Text

/-- Whether a character lies in one of the ranges of a table. -/
def inRanges (table : List (Nat × Nat)) (c : Char) : Bool :=
  table.any fun (low, high) => low ≤ c.toNat && c.toNat ≤ high

end LedgerBoard.Text
