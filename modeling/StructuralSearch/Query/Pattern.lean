import StructuralSearch.Error
import StructuralSearch.Regex.Compile
import StructuralSearch.Text.WhiteSpace

/-!
This module contains the patterns that names and paths are searched for.
-/

namespace StructuralSearch

namespace Text

/-- Whether the fragment stands somewhere in the text. -/
def containsFragment (fragment : List Char) : List Char → Bool
  | [] => fragment.isEmpty
  | c :: cs => fragment.isPrefixOf (c :: cs) || containsFragment fragment cs

end Text

/-- A fragment of text, or a regular expression. -/
inductive Pattern where
  | literal (fragment : String)
  | regex (e : Regex.Expr)

namespace Pattern

def isMatch : Pattern → String → Bool
  | .literal fragment, s => Text.containsFragment fragment.toList s.toList
  | .regex e, s => e.isMatch s

/-- Makes a pattern for one of the lists of a query. Blank texts and malformed regular expressions are refused. -/
def make (list : PatternList) (regex : Bool) (text : String) : Except Error Pattern :=
  if Text.isBlank text then
    .error (.invalidArgument (.blankPattern list))
  else if regex then
    match Regex.compile? text with
    | some e => .ok (.regex e)
    | none => .error (.invalidRegex text)
  else
    .ok (.literal text)

def isRegex : Pattern → Bool
  | .literal _ => false
  | .regex _ => true

end Pattern
end StructuralSearch
