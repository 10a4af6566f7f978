/-!
This module contains the decimal notation of the natural numbers below a bound: digits with an optional plus sign.
-/

namespace StructuralSearch
namespace Text

/-- Why a text is no number. -/
inductive NumberFault where
  | empty
  | invalidDigit
  | tooLarge
  deriving DecidableEq, Repr

def NumberFault.message : NumberFault → String
  | .empty => "cannot parse integer from empty string"
  | .invalidDigit => "invalid digit found in string"
  | .tooLarge => "number too large to fit in target type"

/-- Positions, counts and sizes are below this bound. -/
def wordSize : Nat := 0x10000000000000000

def digitValue? (c : Char) : Option Nat :=
  if c.isDigit then some (c.toNat - '0'.toNat) else none

/-- The value of a row of decimal digits; other characters count as zero. -/
def decimalValue (cs : List Char) : Nat :=
  cs.foldl (fun n c => n * 10 + (digitValue? c).getD 0) 0

/-- Reads decimal digits after those that gave `value`. The first fault from the left is the one reported. -/
def readDigits (value : Nat) : List Char → Except NumberFault Nat
  | [] => .ok value
  | c :: cs =>
    match digitValue? c with
    | none => .error .invalidDigit
    | some d =>
      if value * 10 + d < wordSize then
        readDigits (value * 10 + d) cs
      else
        .error .tooLarge

/-- Reads a number below `wordSize`. -/
def readNatural (cs : List Char) : Except NumberFault Nat :=
  match cs with
  | [] => .error .empty
  | ['+'] => .error .invalidDigit
  | '+' :: ds => readDigits 0 ds
  | ds => readDigits 0 ds

end Text
end StructuralSearch
