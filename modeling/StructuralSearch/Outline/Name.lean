import StructuralSearch.Outline.Basic
import StructuralSearch.Text.WhiteSpace

/-!
This module contains the identifiers of nodes and the dotted names that they have by the declarations around them.
-/

namespace StructuralSearch

/-- Where a node of some kind has its identifier. -/
inductive NameSource where
  /-- The name recorded on the node. -/
  | declared
  /-- The first of the declarators below the node: one statement may declare several variables. -/
  | declarators
  /-- The name recorded on the node, which is a dotted path and may hold white space. -/
  | path
  /-- The whole source text of the node. -/
  | text
  | nowhere
  deriving DecidableEq, Repr

namespace NodeKind

def nameSource : NodeKind → NameSource
  | .classDeclaration | .structDeclaration | .interfaceDeclaration | .enumDeclaration
  | .recordDeclaration | .enumMemberDeclaration | .propertyDeclaration | .eventDeclaration
  | .methodDeclaration | .constructorDeclaration | .parameter | .variableDeclarator => .declared
  | .fieldDeclaration | .eventFieldDeclaration | .localDeclarationStatement => .declarators
  | .namespaceDeclaration | .fileScopedNamespaceDeclaration => .path
  | .argument => .text
  | _ => .nowhere

/-- Nodes of these kinds add a segment to the full names of the nodes below them. -/
def addsSegment (k : NodeKind) : Bool :=
  k.isNamespace || k.isTypeDeclaration || k == .methodDeclaration || k == .constructorDeclaration
    || k == .propertyDeclaration || k == .eventDeclaration

end NodeKind

namespace Outline

/-- The declarators of a field, event or local declaration. -/
def declarators (t : Outline) (i : Nat) : List Nat :=
  match t.firstChildOfKind? i .variableDeclaration with
  | none => []
  | some d => (t.children d).filter fun c => t.kind c == .variableDeclarator

/-- The identifier of a node that is recorded in the outline. -/
def recordedName? (t : Outline) (i : Nat) : Option String :=
  match (t.kind i).nameSource with
  | .declared => (t.node i).name
  | .declarators => (t.declarators i).head?.bind fun d => (t.node d).name
  | .path => (t.node i).name.map fun s => String.ofList (s.toList.filter (!Text.isWhiteSpace ·))
  | .text | .nowhere => none

/-- The identifier of a node, if nodes of its kind have one. -/
def identifier (t : Outline) (i : Nat) : Except Error (Option String) :=
  if (t.kind i).nameSource = .text then
    (t.text i).map some
  else
    .ok (t.recordedName? i)

/-- The identifier of a node that has to have one. -/
def requiredIdentifier (t : Outline) (i : Nat) : Except Error String := do
  match ← t.identifier i with
  | some name => return name
  | none => throw (.missingIdentifier (t.kind i))

/-- All names that a node declares, in source order. -/
def declaredIdentifiers (t : Outline) (i : Nat) : Except Error (List String) :=
  if (t.kind i).nameSource = .declarators then
    .ok ((t.declarators i).filterMap fun d => (t.node d).name)
  else
    (t.identifier i).map Option.toList

/-- The segments that the nodes around `i` add to its full name, the innermost first. -/
def enclosingNames (t : Outline) (skipNamespaces : Bool) (i : Nat) : List String :=
  (t.ancestors i).filterMap fun a =>
    if (t.kind a).addsSegment && !(skipNamespaces && (t.kind a).isNamespace) then
      t.recordedName? a
    else
      none

/-- A name after those of the declarations around node `i`, with dots between them. -/
def qualify (t : Outline) (skipNamespaces : Bool) (i : Nat) (name : String) : String :=
  String.intercalate "." ((name :: t.enclosingNames skipNamespaces i).reverse)

/-- The identifier of a node after those of the declarations around it. -/
def fullName (t : Outline) (skipNamespaces : Bool) (i : Nat) : Except Error String :=
  (t.requiredIdentifier i).map (t.qualify skipNamespaces i)

end Outline
end StructuralSearch
