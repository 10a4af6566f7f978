/-!
This module contains the notation of texts in JSON.
-/

namespace StructuralSearch
namespace Json

/-- Four hexadecimal digits. -/
def fourHex (n : Nat) : List Char :=
  let digits := Nat.toDigits 16 n
  List.replicate (4 - digits.length) '0' ++ digits

/-- Quotation marks, backslashes and control characters are escaped, by short forms where there are any. -/
def escapeChar (c : Char) : List Char :=
  if c = '"' then ['\\', '"']
  else if c = '\\' then ['\\', '\\']
  else if c = '\x08' then ['\\', 'b']
  else if c = '\x0c' then ['\\', 'f']
  else if c = '\n' then ['\\', 'n']
  else if c = '\r' then ['\\', 'r']
  else if c = '\t' then ['\\', 't']
  else if c.toNat < 0x20 then ['\\', 'u'] ++ fourHex c.toNat
  else [c]

def renderString (s : String) : String :=
  String.ofList ('"' :: s.toList.flatMap escapeChar ++ ['"'])

/-- A text, or `null`. -/
def renderOption : Option String → String
  | none => "null"
  | some s => renderString s

/-- An object on one line without blanks, its members in the given order. -/
def renderObject (members : List (String × String)) : String :=
  "\x7b" ++ String.intercalate "," (members.map fun (k, v) => renderString k ++ ":" ++ v) ++ "\x7d"

end Json
end StructuralSearch
