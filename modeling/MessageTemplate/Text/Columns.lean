import MessageTemplate.Text.Property.Columns

/-!
How many columns of a terminal a character takes: none for marks that are drawn over the character
before, two for wide ones, and one for most others, controls included. Two signs of the Khmer script
stand for several letters and are as wide as these.
-/

namespace MessageTemplate.Text

/-- The columns that a character takes. -/
def columns (c : Char) : Nat :=
  if c.toNat < 0x7F then 1
  else if zeroWidthTable.contains c then 0
  else if c = '\u17D8' then 3
  else if c = '\u17A4' || wideTable.contains c then 2
  else 1

end MessageTemplate.Text
