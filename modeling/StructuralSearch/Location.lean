import StructuralSearch.Position
import StructuralSearch.Text.Bytes
import StructuralSearch.Text.Lines
import StructuralSearch.Text.Natural

/-!
This module contains locations as users write them: a file, a line and a column, both counted from one, the column in
characters.
-/

namespace StructuralSearch

/-- A file and a position in it, counted from zero. -/
structure Location where
  file : String
  row : Nat
  column : Nat
  deriving DecidableEq, Repr

namespace Location

inductive Fault where
  | shape (text : String)
  | line (part text : String) (fault : Text.NumberFault)
  | column (part text : String) (fault : Text.NumberFault)
  | zero (text : String)
  deriving DecidableEq, Repr

def Fault.message : Fault → String
  | .shape text => "expected FILE:LINE:COL, got `" ++ text ++ "`"
  | .line part text fault => "invalid line `" ++ part ++ "` in `" ++ text ++ "`: " ++ fault.message
  | .column part text fault => "invalid column `" ++ part ++ "` in `" ++ text ++ "`: " ++ fault.message
  | .zero text => "lines and columns are 1-based in `" ++ text ++ "`"

/-- What stands before and after the last colon. -/
def splitLast? (cs : List Char) : Option (List Char × List Char) :=
  let after := cs.reverse.takeWhile (· != ':')
  match cs.reverse.dropWhile (· != ':') with
  | _ :: before => some (before.reverse, after.reverse)
  | [] => none

/-- The file and the texts of line and column. The file may have colons in it. -/
def split? (cs : List Char) : Option (List Char × List Char × List Char) := do
  let (front, column) ← splitLast? cs
  let (file, line) ← splitLast? front
  return (file, line, column)

def parse (text : String) : Except Fault Location :=
  match split? text.toList with
  | none => .error (.shape text)
  | some (file, line, column) => do
    let row ← (Text.readNatural line).mapError (.line (String.ofList line) text)
    let col ← (Text.readNatural column).mapError (.column (String.ofList column) text)
    if row = 0 ∨ col = 0 ∨ file = [] then
      throw (.zero text)
    else
      return { file := String.ofList file, row := row - 1, column := col - 1 }

/--
The column in bytes of a column in characters: the byte at which the character in that column starts. A column beyond
the end of its line stays as far beyond it, and one in a row that does not exist stays what it is.
-/
def byteColumn (source : String) (row column : Nat) : Nat :=
  match (Text.lines source.toList)[row]? with
  | some line =>
    match (Text.charOffsets 0 line)[column]? with
    | some (offset, _) => offset
    | none => Text.byteLength line + (column - line.length)
  | none => column

end Location
end StructuralSearch
