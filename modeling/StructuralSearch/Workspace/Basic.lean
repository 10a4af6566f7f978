import StructuralSearch.Concrete.Basic
import StructuralSearch.Files.Snapshot

/-!
This module contains workspaces: a working directory together with what its source texts were parsed to.
-/

namespace StructuralSearch

/-- The tree of a text in which nothing was recognized. -/
def Concrete.bare (source : String) : Concrete :=
  .node
    { kind := "compilation_unit"
      span := { start := default, stop := .ofByte (lineFeedOffsets source.toList) source.utf8ByteSize } }
    []

structure Workspace where
  files : Snapshot := .empty
  /-- Source texts and their trees. -/
  trees : List (String × Concrete) := []
  deriving Repr

namespace Workspace

/-- The tree of a source text, as far as one is known. -/
def parse (w : Workspace) (source : String) : Concrete :=
  ((w.trees.find? (·.1 == source)).map (·.2)).getD (.bare source)

/-- Adds something that has no tree. -/
def add (w : Workspace) (path : String) (item : Item) : Workspace :=
  { w with files := w.files.add path item }

/-- Adds a file that has been parsed. Without rows its tree is bare. -/
def addSource (w : Workspace) (path source : String) (age : Int) (rows : List Concrete.Row) : Workspace :=
  { files := w.files.add path (.file (.text source) age)
    trees := (source, (Concrete.ofRows? rows).getD (.bare source)) :: w.trees }

end Workspace
end StructuralSearch
