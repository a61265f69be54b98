import MessageTemplate.Decimal.Shortest

/-!
Numbers as text: positional notation whatever the size, as many digits as it takes to read the
number back, no point after a whole number, and a sign on negative zero.
-/

namespace MessageTemplate

/-- The decimal without an exponent: zeros fill the places up to the point. -/
def Decimal.positional (x : Decimal) : String :=
  let ds := Nat.toDigits 10 x.digits
  match x.exponent with
  | .ofNat zeros => String.ofList (ds ++ List.replicate zeros '0')
  | .negSucc n =>
    let places := n + 1
    if places < ds.length then
      String.ofList (ds.take (ds.length - places) ++ '.' :: ds.drop (ds.length - places))
    else String.ofList ('0' :: '.' :: List.replicate (places - ds.length) '0' ++ ds)

/-- A minus sign where there is one. -/
def signText (negative : Bool) : String :=
  if negative then "-" else ""

/-- The text of a number. -/
def Numeral.text : Numeral → String
  | .notANumber => "NaN"
  | .infinite negative => signText negative ++ "inf"
  | .zero negative => signText negative ++ "0"
  | .finite negative x => signText negative ++ x.shortest.positional

/-- Writes a number with the fewest digits that read back. -/
def formatNumber (value : Float) : String :=
  (Numeral.ofBits value.toBits).text

/-- The power `base ^ n` by repeated squaring, rounded after every product. -/
def powerFrom (acc base : Float) (n : Nat) : Float :=
  if h : n = 0 then acc
  else
    let acc := if n % 2 = 1 then acc * base else acc
    if n = 1 then acc else powerFrom acc (base * base) (n / 2)
termination_by n
decreasing_by omega

/-- Ten to a power; a negative power is the inverse of the positive one. -/
def powerOfTen : Int → Float
  | .ofNat n => powerFrom 1 10 n
  | .negSucc n => 1 / powerFrom 1 10 (n + 1)

/-- Rounds to a number of places, halves away from zero, and writes the result. -/
def formatRounded (value : Float) (places : Int) : String :=
  let factor := powerOfTen places
  formatNumber ((value * factor).round / factor)

end MessageTemplate
