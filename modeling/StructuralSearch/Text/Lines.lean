/-!
This module contains the division of a text into lines. A line ends with a line feed, which may have a carriage
return before it; the last line may have no end.
-/

namespace StructuralSearch
namespace Text

/-- The lines with their line feeds. -/
def rawLines : List Char → List (List Char)
  | [] => []
  | c :: cs =>
    if c = '\n' then
      [c] :: rawLines cs
    else
      match rawLines cs with
      | [] => [[c]]
      | l :: ls => (c :: l) :: ls

/-- A line without its end. A carriage return counts as part of the end only before a line feed. -/
def lineContent (l : List Char) : List Char :=
  match l.reverse with
  | '\n' :: '\r' :: r => r.reverse
  | '\n' :: r => r.reverse
  | _ => l

/-- The lines without their ends. -/
def lines (cs : List Char) : List (List Char) :=
  (rawLines cs).map lineContent

end Text
end StructuralSearch
