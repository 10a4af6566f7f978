import StructuralSearch.Error
import StructuralSearch.Outline.Modifier
import StructuralSearch.Outline.Role
import StructuralSearch.Position
import StructuralSearch.Text.Bytes

/-!
This module contains outlines: the trees that queries run on. The nodes of an outline are numbered from the root `0`
on in the order in which they were opened, and are linked by their numbers.
-/

namespace StructuralSearch

/-- A keyword or punctuation mark that stands directly under a node. -/
structure Token where
  text : String
  span : Span
  deriving DecidableEq, Repr

/-- What is known of a node apart from its place in the tree. -/
structure Label where
  kind : NodeKind
  /-- The kind that the grammar gives the node. -/
  grammarKind : String := kind.name
  role : Option Role := none
  name : Option String := none
  modifiers : Modifiers := []
  span : Span := default
  tokens : List Token := []
  deriving DecidableEq, Repr, Inhabited

structure Node extends Label where
  parent : Option Nat
  children : List Nat
  deriving DecidableEq, Repr, Inhabited

/-- The text of a byte range: empty if the range does not lie in the source. -/
def sliceText (source : String) (start stop : Nat) : Except Error String :=
  if Text.byteLength source.toList < stop || stop < start then
    .ok ""
  else
    match Text.sliceBytes? start stop source.toList with
    | some cs => .ok (String.ofList cs)
    | none => .error (.cutCharacter start stop)

/-- The tree of one source file. -/
structure Outline where
  nodes : Array Node
  path : Option String
  source : String
  deriving Repr

namespace Outline

def size (t : Outline) : Nat :=
  t.nodes.size

/-- The node with the given number; a number without a node gives a node of no interest. -/
def node (t : Outline) (i : Nat) : Node :=
  t.nodes[i]?.getD default

def kind (t : Outline) (i : Nat) : NodeKind :=
  (t.node i).kind

def span (t : Outline) (i : Nat) : Span :=
  (t.node i).span

def parent? (t : Outline) (i : Nat) : Option Nat :=
  (t.node i).parent

def parentKind? (t : Outline) (i : Nat) : Option NodeKind :=
  (t.parent? i).map t.kind

def children (t : Outline) (i : Nat) : List Nat :=
  (t.node i).children

def firstChildOfKind? (t : Outline) (i : Nat) (kind : NodeKind) : Option Nat :=
  (t.children i).find? fun c => t.kind c == kind

def hasChildOfKind (t : Outline) (i : Nat) (kind : NodeKind) : Bool :=
  (t.children i).any fun c => t.kind c == kind

/-- The first token of a node with the given text. -/
def token? (t : Outline) (i : Nat) (text : String) : Option Token :=
  (t.node i).tokens.find? (·.text == text)

def hasModifier (t : Outline) (i : Nat) (m : Modifier) : Bool :=
  (t.node i).modifiers.contains m

/-- The source text of a node. -/
def text (t : Outline) (i : Nat) : Except Error String :=
  sliceText t.source (t.span i).start.byte (t.span i).stop.byte

/--
The nodes above `i`, the parent first and the root last. A parent has a smaller number than its children, so the
climb ends.
-/
def ancestors (t : Outline) (i : Nat) : List Nat :=
  match t.parent? i with
  | none => []
  | some p => if p < i then p :: t.ancestors p else []
termination_by i

/-- Strictly below `j`. -/
def isDescendantOf (t : Outline) (i j : Nat) : Bool :=
  (t.ancestors i).contains j

/-- A node and all below it, each before its children and siblings in order. -/
def subtree (t : Outline) (i : Nat) : List Nat :=
  i :: (t.children i).flatMap fun c => if _ : i < c ∧ c < t.size then t.subtree c else []
termination_by t.size - i
decreasing_by omega

/-- All nodes, each before its children and siblings in order. -/
def preorder (t : Outline) : List Nat :=
  t.subtree 0

/-- A node as messages show it: kind, number, rows and columns, and the name if there is one. -/
def describe (t : Outline) (i : Nat) : String :=
  let s := t.span i
  let name :=
    match (t.node i).name with
    | some name => "(" ++ name ++ ")"
    | none => ""
  (t.kind i).name ++ "#" ++ toString i
    ++ "@" ++ toString s.start.row ++ ":" ++ toString s.start.column
    ++ "-" ++ toString s.stop.row ++ ":" ++ toString s.stop.column
    ++ name

end Outline
end StructuralSearch
