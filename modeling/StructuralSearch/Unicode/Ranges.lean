/-!
This module contains lists of ranges of code points and their hexadecimal notation.
-/

namespace StructuralSearch
namespace Unicode

/-- First and last code points, in ascending order and without overlap. -/
abbrev Ranges := List (Nat × Nat)

def hexDigit? (c : Char) : Option Nat :=
  if c.isDigit then
    some (c.toNat - '0'.toNat)
  else if 'A' ≤ c ∧ c ≤ 'F' then
    some (c.toNat - 'A'.toNat + 10)
  else if 'a' ≤ c ∧ c ≤ 'f' then
    some (c.toNat - 'a'.toNat + 10)
  else
    none

/-- The value of a row of hexadecimal digits; other characters count as zero. -/
def hexValue (cs : List Char) : Nat :=
  cs.foldl (fun n c => n * 16 + (hexDigit? c).getD 0) 0

namespace Ranges

/-- A range is written as its ends with a dash between them, or as its only code point. -/
def readRange (word : String) : Nat × Nat :=
  match word.splitOn "-" with
  | [first, last] => (hexValue first.toList, hexValue last.toList)
  | _ => (hexValue word.toList, hexValue word.toList)

/-- Ranges on several lines, with blanks between them. -/
def ofHex (lines : List String) : Ranges :=
  lines.flatMap fun line => (line.splitOn " ").map readRange

/-- The search ends at the first range that starts after `n`. -/
def contains : Ranges → Nat → Bool
  | [], _ => false
  | (first, last) :: rest, n => first ≤ n && (n ≤ last || contains rest n)

end Ranges
end Unicode
end StructuralSearch
