import StructuralSearch.CommandLine.Run
import StructuralSearch.Workspace.Listing

/-!
This module contains the program. The arguments state the query; the listing of a workspace is read from standard input.
The exit code is 0 if there was a match, 1 if there was none, and 2 after a failure.
-/

namespace StructuralSearch
namespace CommandLine

/-- The lines up to the end of the input, without their line feeds. -/
partial def readLines (input : IO.FS.Stream) (lines : List String) : IO (List String) := do
  let line ← input.getLine
  if line.isEmpty then
    return lines.reverse
  else
    readLines input ((line.dropEndWhile (· == '\n')).toString :: lines)

/-- Prints a message and gives the exit code for a failure. -/
def giveUp (message : String) : IO UInt32 := do
  IO.eprintln ("sharpgrep: " ++ message)
  return 2

/-- Prints the result of a run and gives the exit code for it. -/
def conclude (result : Except Failure Output) : IO UInt32 := do
  match result with
  | .error failure => giveUp failure.message
  | .ok output =>
    output.stderr.forM IO.eprintln
    output.stdout.forM IO.println
    return if output.found then 0 else 1

end CommandLine
end StructuralSearch

open StructuralSearch CommandLine in
def main (args : List String) : IO UInt32 := do
  match Options.parse args with
  | .error .displayHelp | .error .displayVersion =>
    IO.println "sharpgrep 0.1.0"
    return 0
  | .error usage => giveUp usage.name
  | .ok options =>
    match Workspace.ofListing (← readLines (← IO.getStdin) []) with
    | .error number => giveUp ("line " ++ toString number ++ " of the listing cannot be read")
    | .ok w => conclude (run options w.files w.parse)
