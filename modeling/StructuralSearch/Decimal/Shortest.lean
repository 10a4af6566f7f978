import StructuralSearch.Decimal.Double

/-!
This module contains the decimal form of doubles: the fewest digits that read back as the same double, and of those the
nearest.
-/

namespace StructuralSearch
namespace Decimal

/-- The number `digits * 10 ^ exponent`. -/
structure Scientific where
  digits : Nat
  exponent : Int
  deriving DecidableEq, Repr

namespace Scientific

def toQuotient (x : Scientific) : Nat × Nat :=
  if x.exponent < 0 then
    (x.digits, Nat.pow 10 (-x.exponent).toNat)
  else
    (x.digits * Nat.pow 10 x.exponent.toNat, 1)

/-- The same number without zeros at the end of the digits. -/
def trim (s : Scientific) : Nat → Scientific
  | 0 => s
  | fuel + 1 =>
    if s.digits ≠ 0 ∧ s.digits % 10 = 0 then
      trim { digits := s.digits / 10, exponent := s.exponent + 1 } fuel
    else
      s

/-- Whether a double is the one nearest to the number. -/
def readsAs (s : Scientific) (x : Double) : Bool :=
  let (n, d) := s.toQuotient
  Double.ofQuotient? n d == some x

end Scientific

def digitCount (n : Nat) : Nat :=
  (Nat.toDigits 10 n).length

/-- How many zeros follow the point before the first digit of `n / d`, which is less than one. -/
def leadingZeros (n d : Nat) : Nat → Nat
  | 0 => 0
  | fuel + 1 => if d ≤ n * 10 then 0 else leadingZeros (n * 10) d fuel + 1

/-- The number of digits before the point of `n / d`, negative if zeros follow the point. -/
def magnitude (n d : Nat) : Int :=
  if d ≤ n then (digitCount (n / d) : Int) else -(leadingZeros n d 400 : Int)

namespace Double

/-- The best number with the given number of digits: the nearest of the two neighbours that read back. -/
def withDigits? (x : Double) (count : Nat) : Option Scientific :=
  let (n, d) := x.toQuotient
  let exponent : Int := magnitude n d - (count : Int)
  let (a, b) := if exponent < 0 then (n * Nat.pow 10 (-exponent).toNat, d) else (n, d * Nat.pow 10 exponent.toNat)
  let below : Scientific := { digits := a / b, exponent }
  let above : Scientific := { digits := a / b + 1, exponent }
  let order := if 2 * (a % b) ≤ b then [below, above] else [above, below]
  order.find? (·.readsAs x)

/-- The fewest digits that read back. Seventeen are always enough. -/
def shortest (x : Double) : Scientific :=
  let (n, _) := x.toQuotient
  let best := (((List.range 17).map (· + 1)).findSome? x.withDigits?).getD { digits := n, exponent := 0 }
  best.trim 17

end Double

/--
Positional notation with at least one digit after the point for numbers of no more than sixteen digits before it and no
more than four zeros after it; otherwise one digit before the point and an exponent.
-/
def Scientific.render (s : Scientific) : String :=
  let digits := Nat.toDigits 10 s.digits
  let point : Int := (digits.length : Int) + s.exponent
  if 0 ≤ s.exponent ∧ point ≤ 16 then
    String.ofList (digits ++ List.replicate s.exponent.toNat '0') ++ ".0"
  else if 0 < point ∧ point ≤ 16 then
    String.ofList (digits.take point.toNat ++ '.' :: digits.drop point.toNat)
  else if -5 < point ∧ point ≤ 0 then
    "0." ++ String.ofList (List.replicate (-point).toNat '0' ++ digits)
  else
    let fraction := if digits.length = 1 then [] else '.' :: digits.drop 1
    String.ofList (digits.take 1 ++ fraction) ++ "e" ++ toString (point - 1)

def Double.render (x : Double) : String :=
  if x.significand = 0 then "0.0" else x.shortest.render

end Decimal
end StructuralSearch
