/-!
This module contains the byte offsets of characters in the UTF-8 encoding of a text, and cuts of a text at byte
offsets. A cut exists only where a character starts or the text ends.
-/

namespace StructuralSearch
namespace Text

/-- Length of the UTF-8 encoding. -/
def byteLength : List Char → Nat
  | [] => 0
  | c :: cs => c.utf8Size + byteLength cs

/-- The characters with the bytes at which they start. The first one starts at the given byte. -/
def charOffsets (start : Nat) : List Char → List (Nat × Char)
  | [] => []
  | c :: cs => (start, c) :: charOffsets (start + c.utf8Size) cs

/-- What is left after the first `n` bytes, if a character starts or the text ends there. -/
def dropBytes? (n : Nat) : List Char → Option (List Char)
  | [] => if n = 0 then some [] else none
  | c :: cs =>
    if n = 0 then
      some (c :: cs)
    else if c.utf8Size ≤ n then
      dropBytes? (n - c.utf8Size) cs
    else
      none

/-- The first `n` bytes, if a character starts or the text ends after them. -/
def takeBytes? (n : Nat) : List Char → Option (List Char)
  | [] => if n = 0 then some [] else none
  | c :: cs =>
    if n = 0 then
      some []
    else if c.utf8Size ≤ n then
      (takeBytes? (n - c.utf8Size) cs).map (c :: ·)
    else
      none

/-- The bytes from `start` up to `stop`, if both are places where a character starts or the text ends. -/
def sliceBytes? (start stop : Nat) (cs : List Char) : Option (List Char) :=
  (dropBytes? start cs).bind (takeBytes? (stop - start))

end Text
end StructuralSearch
