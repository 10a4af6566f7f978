/-!
This module contains the kinds of virtual nodes.
-/

namespace StructuralSearch

/--
What a virtual node stands for. `empty` is the kind that real nodes report: they have no virtual interpretation.
-/
inductive VirtualKind where
  | empty
  | methodBody
  | nestedBlock
  | autoProperty
  | readOnlyProperty
  | tryBody
  | ifCondition
  | ifBody
  | elseBody
  deriving DecidableEq, Repr, Inhabited

namespace VirtualKind

/-- The name by which reports and messages show a kind. -/
def name : VirtualKind → String
  | .empty => "Empty"
  | .methodBody => "MethodBody"
  | .nestedBlock => "NestedBlock"
  | .autoProperty => "AutoProperty"
  | .readOnlyProperty => "ReadOnlyProperty"
  | .tryBody => "TryBody"
  | .ifCondition => "IfCondition"
  | .ifBody => "IfBody"
  | .elseBody => "ElseBody"

/-- Every kind, in declaration order. -/
def all : List VirtualKind := [
  .empty, .methodBody, .nestedBlock, .autoProperty, .readOnlyProperty, .tryBody, .ifCondition, .ifBody,
  .elseBody]

/-- The kind with the given name. -/
def ofName? (s : String) : Option VirtualKind :=
  all.find? (·.name == s)

end VirtualKind
end StructuralSearch
