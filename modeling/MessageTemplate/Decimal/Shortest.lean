import MessageTemplate.Decimal

/-!
The shortest decimal that reads back as a given number.

The reals that round to a number form an interval around it, which reaches halfway to its two
neighbours; the ends belong to it when the significand is even. Of the decimal grids `10 ^ k` the
coarsest one with a point in that interval gives the fewest digits. On it only the two points next
to the number can be the nearest ones, so only these are looked at.
-/

namespace MessageTemplate

/-- The decimal `digits * 10 ^ exponent`. -/
structure Decimal where
  digits : Nat
  exponent : Int
  deriving DecidableEq, Repr

namespace Magnitude

/-- Factors `a` and `b` for which `d * 10 ^ k` and `x * 2 ^ e` compare as `d * a` and `x * b`. -/
def commonScale (k e : Int) : Nat × Nat :=
  (Nat.pow 10 k.toNat * Nat.pow 2 (-e).toNat, Nat.pow 10 (-k).toNat * Nat.pow 2 e.toNat)

/-- The nearest point of the grid `10 ^ k` that reads back as the number, the greater one of two
equally near, and none when the grid has no such point. -/
def onGrid? (x : Magnitude) (k : Int) : Option Nat :=
  let (a, b) := commonScale k (x.exponent - 2)
  let middle := 4 * x.significand * b
  let low := (4 * x.significand - if x.nearerBelow then 1 else 2) * b
  let high := (4 * x.significand + 2) * b
  let below := middle / a
  let above := below + 1
  let readsBack (d : Nat) : Bool :=
    if x.significand % 2 = 0 then low ≤ d * a && d * a ≤ high else low < d * a && d * a < high
  if readsBack above && (above * a - middle ≤ middle - below * a || !readsBack below) then
    some above
  else if readsBack below then some below
  else none

/-- Goes from the grid `10 ^ k` to finer ones until one has a point that reads back. -/
def searchGrids (x : Magnitude) : Nat → Int → Decimal
  | 0, k => ⟨0, k⟩
  | grids + 1, k =>
    match x.onGrid? k with
    | some digits => ⟨digits, k⟩
    | none => searchGrids x grids (k - 1)

/-- The shortest decimal that reads back as the number, and the nearest one of these. The search
starts above the number; seventeen digits are always enough. -/
def shortest (x : Magnitude) : Decimal :=
  let top : Int := ((x.significand.log2 : Int) + x.exponent + 1) * 30103 / 100000 + 1
  x.searchGrids 25 top

end Magnitude

end MessageTemplate
