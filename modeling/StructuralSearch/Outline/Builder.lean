import StructuralSearch.Outline.Basic

/-!
This module contains the building of outlines. Nodes are opened and closed like brackets, and a node belongs under the
node that is open when it is opened.
-/

namespace StructuralSearch

/-- An outline in the making. -/
structure Builder where
  nodes : Array Node := #[]
  /-- The open nodes, the innermost first. -/
  opened : List Nat := []
  path : Option String
  source : String
  deriving Repr

/-- A step of building. It comes to a value or fails, and leaves a builder in either case. -/
abbrev Building := ExceptT Error (StateM Builder)

/-- What a step comes to, and the builder that it leaves. -/
def Building.perform {α : Type} (x : Building α) (b : Builder) : Except Error α × Builder :=
  x.run.run b

namespace Builder

/-- Nothing has been opened yet. -/
def new (source : String) (path : Option String) : Builder :=
  { source, path }

/-- Changes the node with the given number, if there is one. -/
def modify (b : Builder) (i : Nat) (f : Node → Node) : Builder :=
  { b with nodes := b.nodes.modify i f }

/-- Opens a node with the given label as the last child of the innermost open node. The result is its number. -/
def openLabel (label : Label) : Building Nat := do
  let b ← get
  let id := b.nodes.size
  match b.opened with
  | [] =>
    if id = 0 then
      set { b with
        nodes := b.nodes.push { label with parent := none, children := [] }
        opened := [id] }
      return id
    else
      throw (.invalidArgument (.secondRoot label.kind))
  | parent :: rest =>
    set { b with
      nodes := (b.nodes.modify parent fun n => { n with children := n.children ++ [id] }).push
        { label with parent := some parent, children := [] }
      opened := id :: parent :: rest }
    return id

/-- Opens a node of which no more than kind and span are known. -/
def openNode (kind : NodeKind) (span : Span) : Building Nat :=
  openLabel { kind, span }

/-- Closes the innermost open node. The result is its number. -/
def closeNode : Building Nat := do
  let b ← get
  match b.opened with
  | [] => throw (.invalidArgument .noOpenNode)
  | id :: rest =>
    set { b with opened := rest }
    return id

def setGrammarKind (i : Nat) (grammarKind : String) : Building Unit :=
  modifyThe Builder (·.modify i fun n => { n with grammarKind })

def setRole (i : Nat) (role : Role) : Building Unit :=
  modifyThe Builder (·.modify i fun n => { n with role := some role })

def setName (i : Nat) (name : String) : Building Unit :=
  modifyThe Builder (·.modify i fun n => { n with name := some name })

def addModifier (i : Nat) (m : Modifier) : Building Unit :=
  modifyThe Builder (·.modify i fun n => { n with modifiers := n.modifiers.insert m })

def pushToken (i : Nat) (token : Token) : Building Unit :=
  modifyThe Builder (·.modify i fun n => { n with tokens := n.tokens ++ [token] })

/-- The outline, once there is a root and it is closed. -/
def finish (b : Builder) : Except Error Outline :=
  if b.nodes.isEmpty then
    .error (.invalidArgument .noRoot)
  else if b.opened.isEmpty then
    .ok { nodes := b.nodes, path := b.path, source := b.source }
  else
    .error (.invalidArgument (.openNodes b.opened.length))

/-- Closes the innermost `n` open nodes. -/
def closeNodes : Nat → Building Unit
  | 0 => return
  | n + 1 => do
    let _ ← closeNode
    closeNodes n

/-- The outline that is built from the beginning. -/
def build {α : Type} (source : String) (path : Option String) (x : Building α) : Except Error Outline :=
  match x.perform (new source path) with
  | (.ok _, b) => b.finish
  | (.error e, _) => .error e

end Builder

namespace Outline

/-- A label and the depth at which it stands in a listing of a tree in pre-order. -/
structure Row where
  depth : Nat
  label : Label
  deriving Repr

/-- Why a listing is no outline. -/
inductive RowFault where
  /-- The depth is greater than the number of open nodes. -/
  | depth
  | refused (error : Error)
  deriving DecidableEq, Repr

/-- Before a row is opened, the open nodes are closed down to its depth. -/
def Row.place (row : Row) (b : Builder) : Except RowFault Builder :=
  if b.opened.length < row.depth then
    .error .depth
  else
    let step : Building Nat := do
      Builder.closeNodes (b.opened.length - row.depth)
      Builder.openLabel row.label
    match step.perform b with
    | (.ok _, b) => .ok b
    | (.error e, _) => .error (.refused e)

/-- The outline that a listing in pre-order shows. -/
def ofRows (source : String) (path : Option String) (rows : List Row) : Except RowFault Outline := do
  let b ← rows.foldlM (fun b row => row.place b) (Builder.new source path)
  match (Builder.closeNodes b.opened.length).perform b with
  | (.ok _, b) => b.finish.mapError .refused
  | (.error e, _) => .error (.refused e)

end Outline
end StructuralSearch
