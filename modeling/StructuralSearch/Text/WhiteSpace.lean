/-!
This module contains white space as the Unicode property `White_Space` defines it, and trimming by it.
-/

namespace StructuralSearch
namespace Text

/-- The characters with the property `White_Space`. -/
def isWhiteSpace (c : Char) : Bool :=
  let n := c.toNat
  (0x9 ≤ n && n ≤ 0xD) || n = 0x20 || n = 0x85 || n = 0xA0 || n = 0x1680
    || (0x2000 ≤ n && n ≤ 0x200A) || n = 0x2028 || n = 0x2029 || n = 0x202F || n = 0x205F
    || n = 0x3000

/-- Drops the white space at the end. -/
def trimEnd (cs : List Char) : List Char :=
  (cs.reverse.dropWhile isWhiteSpace).reverse

/-- Drops the white space at both ends. -/
def trim (cs : List Char) : List Char :=
  trimEnd (cs.dropWhile isWhiteSpace)

/-- A text is blank if it is empty or holds nothing but white space. -/
def isBlank (s : String) : Bool :=
  (trim s.toList).isEmpty

end Text
end StructuralSearch
