import StructuralSearch.Outline.Name

/-!
This module contains virtual nodes, which give a node of its own to a part of the program that has none in the outline,
and candidates: the real and virtual nodes that a walk offers to a query.
-/

namespace StructuralSearch

/-- A virtual node with the real nodes that it was made from. -/
inductive VirtualNode where
  /-- The block or arrow clause of a method. -/
  | methodBody (method body : Nat)
  | nestedBlock (container : Nat)
  | autoProperty (property accessors : Nat)
  | readOnlyProperty (property arrow : Nat)
  | tryBody (tryStatement block : Nat)
  | ifCondition (ifStatement condition : Nat)
  | ifBody (ifStatement statement : Nat)
  | elseBody (elseClause statement : Nat)
  deriving DecidableEq, Repr

namespace VirtualNode

def kind : VirtualNode → VirtualKind
  | .methodBody .. => .methodBody
  | .nestedBlock _ => .nestedBlock
  | .autoProperty .. => .autoProperty
  | .readOnlyProperty .. => .readOnlyProperty
  | .tryBody .. => .tryBody
  | .ifCondition .. => .ifCondition
  | .ifBody .. => .ifBody
  | .elseBody .. => .elseBody

/-- The real nodes that it was made from. -/
def parts : VirtualNode → List Nat
  | .nestedBlock container => [container]
  | .methodBody a b | .autoProperty a b | .readOnlyProperty a b | .tryBody a b | .ifCondition a b
  | .ifBody a b | .elseBody a b => [a, b]

/-- The real node that it wraps. -/
def base : VirtualNode → Nat
  | .methodBody _ body => body
  | .nestedBlock container => container
  | .autoProperty property _ => property
  | .readOnlyProperty _ arrow => arrow
  | .tryBody _ block => block
  | .ifCondition _ condition => condition
  | .ifBody _ statement => statement
  | .elseBody _ statement => statement

/-- The visited node that the rule was applied to. -/
def origin : VirtualNode → Nat
  | .methodBody method _ => method
  | .nestedBlock container => container
  | .autoProperty property _ => property
  | .readOnlyProperty property _ => property
  | .tryBody _ block => block
  | .ifCondition _ condition => condition
  | .ifBody _ statement => statement
  | .elseBody _ statement => statement

/--
The node by which kind, name, modifiers and scope are judged. A virtual node stands in for its origin, but a method
body stands beside its method and is judged as the body.
-/
def anchor : VirtualNode → Nat
  | .methodBody _ body => body
  | v => v.origin

/-- The span of the base, but of an `if` condition the span from the opening to the closing parenthesis. -/
def span (t : Outline) : VirtualNode → Span
  | .ifCondition ifStatement condition =>
    match t.token? ifStatement "(", t.token? ifStatement ")" with
    | some l, some r => { start := l.span.start, stop := r.span.stop }
    | _, _ => t.span condition
  | v => t.span v.base

/-- The virtual node of the given kind with one real node in all its parts. `empty` gives a nested block. -/
def around (i : Nat) : VirtualKind → VirtualNode
  | .empty | .nestedBlock => .nestedBlock i
  | .methodBody => .methodBody i i
  | .autoProperty => .autoProperty i i
  | .readOnlyProperty => .readOnlyProperty i i
  | .tryBody => .tryBody i i
  | .ifCondition => .ifCondition i i
  | .ifBody => .ifBody i i
  | .elseBody => .elseBody i i

end VirtualNode

/-- What a query is asked about. -/
inductive Candidate where
  | real (id : Nat)
  | synthetic (node : VirtualNode)
  deriving DecidableEq, Repr

namespace Candidate

def anchor : Candidate → Nat
  | .real id => id
  | .synthetic v => v.anchor

def virtualKind : Candidate → VirtualKind
  | .real _ => .empty
  | .synthetic v => v.kind

def isVirtual : Candidate → Bool
  | .real _ => false
  | .synthetic _ => true

def asReal? : Candidate → Option Nat
  | .real id => some id
  | .synthetic _ => none

def asVirtual? : Candidate → Option VirtualNode
  | .real _ => none
  | .synthetic v => some v

def kind (t : Outline) (c : Candidate) : NodeKind :=
  t.kind c.anchor

def span (t : Outline) : Candidate → Span
  | .real id => t.span id
  | .synthetic v => v.span t

def identifier (t : Outline) (c : Candidate) : Except Error (Option String) :=
  t.identifier c.anchor

end Candidate
end StructuralSearch
