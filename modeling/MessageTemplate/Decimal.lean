/-!
Floating-point numbers as exact values. The bits of a number are read as `significand * 2 ^ exponent`,
so that the rules for writing it can be stated and carried out with whole numbers.
-/

namespace MessageTemplate

/-- A positive number `significand * 2 ^ exponent`. `nearerBelow` says that the number below it is nearer
than the one above it, which is so at a power of two. -/
structure Magnitude where
  significand : Nat
  exponent : Int
  nearerBelow : Bool

/-- What the bits of a floating-point number stand for. -/
inductive Numeral where
  | notANumber
  | infinite (negative : Bool)
  | zero (negative : Bool)
  | finite (negative : Bool) (magnitude : Magnitude)

/-- The weight of the sign among the bits of a number: bit 63. -/
def signWeight : Nat := 0x8000000000000000

/-- The weight of the lowest bit of the exponent: bit 52. Below it are the bits of the fraction. -/
def exponentWeight : Nat := 0x10000000000000

/-- Reads 64 bits: a sign, eleven bits of exponent and 52 of fraction. -/
def Numeral.ofBits (bits : UInt64) : Numeral :=
  let n := bits.toNat
  let negative := decide (signWeight ≤ n)
  let biased : Nat := n / exponentWeight % 2048
  let fraction : Nat := n % exponentWeight
  if biased = 2047 then
    if fraction = 0 then .infinite negative else .notANumber
  else if biased = 0 then
    if fraction = 0 then .zero negative else .finite negative ⟨fraction, -1074, false⟩
  else .finite negative ⟨exponentWeight + fraction, (biased : Int) - 1075, decide (fraction = 0 ∧ 1 < biased)⟩

end MessageTemplate
