import StructuralSearch.Text.Natural
import StructuralSearch.Workspace.Basic

/-!
This module contains listings, the text by which a parser hands a workspace over. A listing consists of lines:

- `directory PATH` and `link PATH TARGET` name what is no file,
- `file PATH` starts a file,
- `|TEXT` is a line of its source; there are line feeds between the lines, but none after the last,
- `>DEPTH KIND FIELD START STOP FLAGS` is a node of its tree, in pre-order. The field is `-` if there is none, start and
  stop are byte offsets, and the flags add up 1 for named, 2 for extra and 4 for missing nodes.
-/

namespace StructuralSearch
namespace Workspace

/-- A node of a tree before its place in the source is known. -/
structure ListedNode where
  depth : Nat
  kind : String
  field : Option String
  start : Nat
  stop : Nat
  flags : Nat
  deriving DecidableEq, Repr

/-- A line of a listing. -/
inductive ListingLine where
  | directory (path : String)
  | link (path target : String)
  | file (path : String)
  | source (text : String)
  | node (n : ListedNode)
  deriving DecidableEq, Repr

namespace ListedNode

/-- The node in a source with the given line feeds. -/
def row (lineFeeds : List Nat) (n : ListedNode) : Concrete.Row where
  depth := n.depth
  info := {
    kind := n.kind
    field := n.field
    span := { start := .ofByte lineFeeds n.start, stop := .ofByte lineFeeds n.stop }
    isNamed := n.flags % 2 = 1
    isExtra := n.flags / 2 % 2 = 1
    isMissing := n.flags / 4 % 2 = 1 }

end ListedNode

namespace ListingLine

/-- The words between blanks. -/
def words : List Char → List (List Char)
  | [] => [[]]
  | c :: cs =>
    if c = ' ' then
      [] :: words cs
    else
      match words cs with
      | [] => [[c]]
      | w :: ws => (c :: w) :: ws

def natural? (cs : List Char) : Option Nat :=
  (Text.readNatural cs).toOption

def node? (cs : List Char) : Option ListedNode :=
  match words cs with
  | [depth, kind, field, start, stop, flags] => do
    return {
      depth := ← natural? depth
      kind := String.ofList kind
      field := if field = ['-'] then none else some (String.ofList field)
      start := ← natural? start
      stop := ← natural? stop
      flags := ← natural? flags }
  | _ => none

def parse? (cs : List Char) : Option ListingLine :=
  match cs with
  | '|' :: text => some (.source (String.ofList text))
  | '>' :: text => (node? text).map .node
  | _ =>
    match (words cs).map String.ofList with
    | ["directory", path] => some (.directory path)
    | ["link", path, target] => some (.link path target)
    | ["file", path] => some (.file path)
    | _ => none

end ListingLine

/-- A file whose lines and nodes are being read, the latest first. -/
structure OpenFile where
  path : String
  lines : List String := []
  nodes : List ListedNode := []
  deriving DecidableEq, Repr

/-- Adds a file once it has been read. -/
def OpenFile.close (f : OpenFile) (w : Workspace) : Workspace :=
  let source := String.intercalate "\n" f.lines.reverse
  w.addSource f.path source 0 (f.nodes.reverse.map (·.row (lineFeedOffsets source.toList)))

/-- The reading of a listing. -/
structure Listing where
  workspace : Workspace := {}
  current : Option OpenFile := none

namespace Listing

/-- The workspace with the file that is being read. -/
def settled (l : Listing) : Workspace :=
  l.current.elim l.workspace (·.close l.workspace)

/-- Takes account of a line. Sources and nodes belong to the file before them. -/
def step (l : Listing) : ListingLine → Option Listing
  | .directory path => some { workspace := l.settled.add path (.directory []) }
  | .link path target => some { workspace := l.settled.add path (.link target) }
  | .file path => some { workspace := l.settled, current := some { path } }
  | .source text => l.current.map fun f => { l with current := some { f with lines := text :: f.lines } }
  | .node n => l.current.map fun f => { l with current := some { f with nodes := n :: f.nodes } }

end Listing

/-- The workspace that the lines of a listing show. The number of the first line that cannot be read is the fault. -/
def ofListing (lines : List String) : Except Nat Workspace :=
  go {} 1 lines
where
  go (l : Listing) (number : Nat) : List String → Except Nat Workspace
    | [] => .ok l.settled
    | line :: rest =>
      match (ListingLine.parse? line.toList).bind l.step with
      | some l => go l (number + 1) rest
      | none => .error number

end Workspace
end StructuralSearch
