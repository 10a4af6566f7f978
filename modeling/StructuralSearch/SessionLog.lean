import StructuralSearch.Files.Snapshot
import StructuralSearch.Query.Pattern

/-!
This module contains the keeping of session logs: each session may write one, and old ones are removed.
-/

namespace StructuralSearch
namespace SessionLog

/-- Session logs are kept for seven days. -/
def retention : Int := 7 * 24 * 60 * 60

def isSessionName (name : String) : Bool :=
  "session-".toList.isPrefixOf name.toList && ".log".toList.isSuffixOf name.toList

/-- Regular files with the name of a session log that are older than the retention. -/
def isExpired (name : String) : Item → Bool
  | .file _ age => isSessionName name && retention < age
  | _ => false

/-- Removes the expired logs of a directory. -/
def withoutExpired : Item → Item
  | .directory entries => .directory (entries.filter fun entry => !isExpired entry.1 entry.2)
  | item => item

/-- Removes the expired logs of the directory that a path leads to. Without a directory nothing is removed. -/
def cleanup (fs : Snapshot) (path : String) : Snapshot :=
  match fs.locate path with
  | .ok trail => fs.modify trail withoutExpired
  | .error _ => fs

/-- The directory for session logs below the directory for caches. -/
def directory : String := "sharpgrep"

/-- The name of the log of a session that started at the given time in a process of the given number. -/
def fileName (timestamp : String) (process : Nat) : String :=
  "session-" ++ timestamp ++ "-" ++ toString process ++ ".log"

/-- Makes the directory for session logs, unless there is one. -/
def makeDirectory (fs : Snapshot) : Except FileFault (Snapshot × Trail) :=
  match fs.locate directory with
  | .ok trail => .ok (fs, trail)
  | .error fault =>
    if (fs.item? (fs.working ++ [directory])).isSome then
      .error fault
    else
      .ok (fs.put fs.working directory (.directory []), fs.working ++ [directory])

/-- Opens the log of a session in the working directory of a snapshot, which holds the caches. -/
def openLog (fs : Snapshot) (name : String) : Except FileFault Snapshot := do
  let (fs, trail) ← makeDirectory fs
  if (fs.item? trail).any Item.isDirectory then
    let fs := fs.modify trail withoutExpired
    if (fs.item? (trail ++ [name])).isSome then
      return fs
    else
      return fs.put trail name (.file (.text "") 0)
  else
    throw .notDirectory

/-- Whether a message says that logging has been set up before, which is no failure. -/
def isAlreadySetUp (message : String) : Bool :=
  Text.containsFragment "already been set".toList message.toList
    || Text.containsFragment "SetLoggerError".toList message.toList

end SessionLog
end StructuralSearch
