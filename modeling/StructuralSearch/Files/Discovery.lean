import StructuralSearch.Files.Snapshot

/-!
This module contains the discovery of source files: files that are named are taken as they are, directories are
searched.
-/

namespace StructuralSearch

/-- A root of a search that is not there. -/
structure AccessFault where
  path : String
  fault : FileFault
  deriving DecidableEq, Repr

def AccessFault.message (f : AccessFault) : String :=
  "cannot access " ++ f.path ++ ": " ++ f.fault.message

/-- Directories with these names hold nothing that was written by hand. -/
def skippedDirectories : List String :=
  ["bin", "obj", ".git", ".vs", "node_modules"]

/-- The ending of source files, before which there has to be something. -/
def isSourceName (name : String) : Bool :=
  ".cs".toList.isSuffixOf name.toList && name != ".cs"

namespace Item

mutual

/--
Walks a directory: comes to each thing in it and then to what is in that, but turns away from what is to be skipped.
Links are not followed. The result is all that the walk comes to, with the names that lead there.
-/
def walk (skips : String → Item → Bool) : Item → List (Trail × Item)
  | .directory entries => walkEntries skips entries
  | .file .. | .link _ => []

def walkEntries (skips : String → Item → Bool) : List (String × Item) → List (Trail × Item)
  | [] => []
  | (name, item) :: entries =>
    if skips name item then
      walkEntries skips entries
    else
      ([name], item) :: (item.walk skips).map (fun visit => (name :: visit.1, visit.2)) ++ walkEntries skips entries

end

/-- Whether a walk turns away. The directory that it starts from is never asked about. -/
def isSkipped (name : String) (item : Item) : Bool :=
  item.isDirectory && skippedDirectories.contains name

/-- The trails to the source files in a directory. -/
def sourceTrails (item : Item) : List Trail :=
  ((item.walk isSkipped).filter fun visit => visit.2.isFile && visit.1.getLast?.any isSourceName).map (·.1)

/-- The source files in a directory, given the path that leads to it, in the order of their paths. -/
def sourceFiles (item : Item) (path : String) : List String :=
  (item.sourceTrails.map fun below => below.foldl Path.join path).mergeSort fun a b => !Path.lt b a

end Item

namespace Snapshot

/-- The source files that a root stands for. -/
def discoverRoot (fs : Snapshot) (root : String) : Except AccessFault (List String) :=
  match fs.resolve root with
  | .error fault => .error { path := root, fault }
  | .ok (.file ..) => .ok [root]
  | .ok item => .ok (item.sourceFiles root)

/-- The source files that the roots stand for, in order. The first root that is not there is reported. -/
def discover (fs : Snapshot) (roots : List String) : Except AccessFault (List String) :=
  (roots.mapM fs.discoverRoot).map List.flatten

end Snapshot
end StructuralSearch
