import MessageTemplate.Decimal.Shortest

/-!
The floating-point number nearest to a decimal.

The decimal is a fraction of whole numbers. Its binary exponent is chosen so that the significand has
53 bits, or fewer where the exponent would fall below the least one; the quotient is then rounded to
a whole significand, halves to the even one. A significand that rounds up to 54 bits moves on to the
next exponent by itself, since the bits of neighbouring numbers are neighbouring whole numbers.
-/

namespace MessageTemplate

/-- The quotient rounded to the nearest whole number, halves to the even one. -/
def divNearest (num den : Nat) : Nat :=
  let q := num / den
  let r := num % den
  if den < 2 * r || (2 * r = den && q % 2 = 1) then q + 1 else q

/-- The exponent of the greatest power of two that is not above the fraction. -/
def binaryExponent (num den : Nat) : Int :=
  let guess : Int := (num.log2 : Int) - den.log2
  if num * Nat.pow 2 (-guess).toNat < den * Nat.pow 2 guess.toNat then guess - 1 else guess

/-- The bits of infinity, which follow those of the greatest number. -/
def infinityBits : Nat := 2047 * exponentWeight

/-- The bits of the positive number nearest to a positive fraction; infinity when it is too great. -/
def nearestBits (num den : Nat) : Nat :=
  let exponent := max (binaryExponent num den - 52) (-1074)
  let significand := divNearest (num * Nat.pow 2 (-exponent).toNat) (den * Nat.pow 2 exponent.toNat)
  min ((exponent + 1074).toNat * exponentWeight + significand) infinityBits

/-- The bits of the number nearest to a decimal. Decimals that are certainly too great or too small
are not computed out. -/
def Decimal.bits (x : Decimal) : Nat :=
  let places : Int := (Nat.toDigits 10 x.digits).length + x.exponent
  if x.digits = 0 || places < -330 then 0
  else if 330 < places then infinityBits
  else nearestBits (x.digits * Nat.pow 10 x.exponent.toNat) (Nat.pow 10 (-x.exponent).toNat)

/-- The floating-point number nearest to a decimal with a sign. -/
def Decimal.toFloat (x : Decimal) (negative : Bool) : Float :=
  Float.ofBits (UInt64.ofNat (x.bits + if negative then signWeight else 0))

/-- The floating-point number nearest to a whole number. -/
def floatOfInt (n : Int) : Float :=
  Decimal.toFloat ⟨n.natAbs, 0⟩ (decide (n < 0))

end MessageTemplate
