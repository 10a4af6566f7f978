import StructuralSearch.Unicode.Property

/-!
This module contains the quoting of texts for messages. What cannot be seen is written as its code point.
-/

namespace StructuralSearch
namespace Text

/-- Hexadecimal digits without leading zeros. -/
def lowerHex (n : Nat) : List Char :=
  Nat.toDigits 16 n

def quoteChar (c : Char) : List Char :=
  if c = '\x00' then ['\\', '0']
  else if c = '\t' then ['\\', 't']
  else if c = '\r' then ['\\', 'r']
  else if c = '\n' then ['\\', 'n']
  else if c = '"' ∨ c = '\\' then ['\\', c]
  else if Unicode.Property.graphemeExtend c || !Unicode.isPrintable c then
    ['\\', 'u', '{'] ++ lowerHex c.toNat ++ ['}']
  else [c]

/-- The text between quotation marks. -/
def quote (s : String) : String :=
  String.ofList ('"' :: s.toList.flatMap quoteChar ++ ['"'])

end Text
end StructuralSearch
