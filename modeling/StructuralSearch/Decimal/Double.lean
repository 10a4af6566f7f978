/-!
This module contains floating point numbers of double precision as exact numbers, and the rounding of quotients to
them. Signs are kept elsewhere: all numbers here are at least zero.
-/

namespace StructuralSearch
namespace Decimal

/-- The number `significand * 2 ^ exponent`. -/
structure Double where
  significand : Nat
  exponent : Int
  deriving DecidableEq, Repr

/-- The quotient of two numbers, rounded to the nearest integer. Halves go to the even neighbour. -/
def roundQuotient (n d : Nat) : Nat :=
  let q := n / d
  let twice := 2 * (n % d)
  if twice < d || (twice == d && q % 2 == 0) then q else q + 1

/-- The quotient `n / d` with the denominator multiplied by a power of two. -/
def scaleByPower (n d : Nat) (e : Int) : Nat × Nat :=
  if e < 0 then (n * Nat.pow 2 (-e).toNat, d) else (n, d * Nat.pow 2 e.toNat)

namespace Double

def zero : Double :=
  { significand := 0, exponent := -1074 }

/--
The double that is nearest to `n / d`, if that does not exceed all of them. The significand has 53 bits, or less if the
exponent is the least.
-/
def ofQuotient? (n d : Nat) : Option Double :=
  if n = 0 then
    some zero
  else
    let estimate : Int := (Nat.log2 n : Int) - (Nat.log2 d : Int) - 53
    let low : Int := max (-1074) estimate
    let (n₀, d₀) := scaleByPower n d low
    let exponent := if n₀ / d₀ < Nat.pow 2 53 then low else low + 1
    let (n₁, d₁) := scaleByPower n d exponent
    let significand := roundQuotient n₁ d₁
    let result : Double :=
      if significand < Nat.pow 2 53 then
        { significand, exponent }
      else
        { significand := Nat.pow 2 52, exponent := exponent + 1 }
    if 971 < result.exponent then none else some result

/-- Numerator and denominator. -/
def toQuotient (x : Double) : Nat × Nat :=
  if x.exponent < 0 then
    (x.significand, Nat.pow 2 (-x.exponent).toNat)
  else
    (x.significand * Nat.pow 2 x.exponent.toNat, 1)

def mul? (x y : Double) : Option Double :=
  let (a, b) := x.toQuotient
  let (c, d) := y.toQuotient
  ofQuotient? (a * c) (b * d)

def div? (x y : Double) : Option Double :=
  let (a, b) := x.toQuotient
  let (c, d) := y.toQuotient
  ofQuotient? (a * d) (b * c)

/-- The double nearest to a power of ten. -/
def powerOfTen? (e : Nat) : Option Double :=
  ofQuotient? (Nat.pow 10 e) 1

/--
The number `significand * 10 ^ exponent` in steps: the significand is rounded, then multiplied or divided by a rounded
power of ten. Powers beyond the greatest double are divided by in parts. The result is none if it is too large.
-/
def ofParts? (significand : Nat) (exponent : Int) : Option Double := do
  go 3 (← ofQuotient? significand 1) exponent
where
  go : Nat → Double → Int → Option Double
    | 0, f, _ => some f
    | fuel + 1, f, e =>
      if e.natAbs ≤ 308 then do
        let power ← powerOfTen? e.natAbs
        if 0 ≤ e then f.mul? power else f.div? power
      else if f.significand = 0 then
        some f
      else if 0 ≤ e then
        none
      else do
        go fuel (← f.div? (← powerOfTen? 308)) (e + 308)

end Double
end Decimal
end StructuralSearch
