/-!
Classes of characters given as data: a table lists the closed ranges of code points that are in the
class, in ascending order.
-/

namespace MessageTemplate.Text

/-- Closed ranges of code points, ascending and disjoint. -/
abbrev CharTable := List (Nat × Nat)

/-- Whether one of the ranges holds the character. -/
def CharTable.contains (table : CharTable) (c : Char) : Bool :=
  table.any fun range => decide (range.1 ≤ c.toNat) && decide (c.toNat ≤ range.2)

end MessageTemplate.Text
