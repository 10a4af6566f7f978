import StructuralSearch.Position

/-!
This module contains concrete trees: what a parser makes of a source text, with every token, comment and error in it.
-/

namespace StructuralSearch
namespace Concrete

/-- What a parser says of a node apart from its children. -/
structure Info where
  /-- The kind that the grammar gives the node. The kind of a token is its text. -/
  kind : String
  /-- The field of its parent that the node fills. -/
  field : Option String := none
  span : Span
  /-- Nodes without a name are tokens. -/
  isNamed : Bool := true
  /-- Comments and the like may stand anywhere. -/
  isExtra : Bool := false
  /-- The parser has added the node to get on after an error. -/
  isMissing : Bool := false
  deriving DecidableEq, Repr, Inhabited

/-- A node and the depth at which it stands in a listing of a tree in pre-order. -/
structure Row where
  depth : Nat
  info : Info
  deriving DecidableEq, Repr

end Concrete

/-- A concrete tree. -/
inductive Concrete where
  | node (info : Concrete.Info) (children : List Concrete)
  deriving Repr, Inhabited

namespace Concrete

def info : Concrete → Info
  | .node info _ => info

def children : Concrete → List Concrete
  | .node _ children => children

/-- Puts a row before the trees that follow it. Those that stand deeper become its children. -/
def Row.adopt (row : Row) (trees : List (Nat × Concrete)) : List (Nat × Concrete) :=
  let isBelow := fun (t : Nat × Concrete) => decide (row.depth < t.1)
  (row.depth, .node row.info ((trees.takeWhile isBelow).map (·.2))) :: trees.dropWhile isBelow

/-- The first tree that a listing in pre-order shows. -/
def ofRows? (rows : List Row) : Option Concrete :=
  (rows.foldr Row.adopt []).head?.map (·.2)

end Concrete
end StructuralSearch
