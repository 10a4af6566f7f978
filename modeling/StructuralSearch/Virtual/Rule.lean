import StructuralSearch.Virtual.Basic

/-!
This module contains the rules that make virtual nodes. A rule says to which nodes it applies, which virtual node it
makes there, and how it competes with other rules for the same node.
-/

namespace StructuralSearch

/-- Where a virtual node goes relative to the real node that it was made at. -/
inductive Placement where
  | replacing
  | before
  | after
  deriving DecidableEq, Repr

namespace Placement

def name : Placement → String
  | .replacing => "None"
  | .before => "Before"
  | .after => "After"

def ofName? : String → Option Placement
  | "None" => some .replacing
  | "Before" => some .before
  | "After" => some .after
  | _ => none

end Placement

/-- How a rule competes with the other rules that apply to a node. -/
inductive Competition where
  /-- The virtual node replaces the real one, unless another rule that applies overrides this one. -/
  | overridable (overrides : List VirtualKind)
  /-- The virtual node is always there, at a fixed place. -/
  | fixed (placement : Placement)
  deriving DecidableEq, Repr

namespace Competition

def overrides : Competition → List VirtualKind
  | .overridable ks => ks
  | .fixed _ => []

def isOverridable : Competition → Bool
  | .overridable _ => true
  | .fixed _ => false

end Competition

structure Rule where
  kind : VirtualKind
  competition : Competition
  applies : Outline → Nat → Bool
  synthesize : Outline → Nat → Except Error VirtualNode

namespace Rule

/--
A rule that checks its input when it makes a virtual node: a node of a kind that the rule can never apply to is misuse,
any other node that the rule does not apply to is an invalid argument.
-/
def checked (kind : VirtualKind) (competition : Competition) (expected : String)
    (compatible : NodeKind → Bool) (applies : Outline → Nat → Bool)
    (assemble : Outline → Nat → Except InvalidArgument VirtualNode) : Rule where
  kind
  competition
  applies
  synthesize t i :=
    if !compatible (t.kind i) then
      .error (.synthesisMisuse kind expected (t.kind i))
    else if !applies t i then
      .error (.invalidArgument (.inapplicable kind (t.describe i)))
    else
      (assemble t i).mapError .invalidArgument

/-- A part of the virtual node that has to be there. -/
def part (found : Option Nat) (missing : String) : Except InvalidArgument Nat :=
  match found with
  | some i => .ok i
  | none => .error (.missingPart missing)

/-- A rule for every node of the given kinds, which puts the node in all parts. -/
def onKinds (kind : VirtualKind) (competition : Competition) (kinds : List NodeKind) : Rule where
  kind
  competition
  applies t i := kinds.contains (t.kind i)
  synthesize _ i := .ok (.around i kind)

/-- What rules for control flow override. -/
def controlFlow : Competition :=
  .overridable [.methodBody, .nestedBlock]

/-- The block or arrow clause of a method. -/
def bodyOf? (t : Outline) (i : Nat) : Option Nat :=
  (t.children i).find? fun c => t.kind c == .block || t.kind c == .arrowExpressionClause

/-- A method with a body. The body is inserted after the method. -/
def methodBody : Rule :=
  checked .methodBody (.fixed .after) "a method declaration" (· == .methodDeclaration)
    (fun t i => t.kind i == .methodDeclaration && (bodyOf? t i).isSome)
    (fun t i => (part (bodyOf? t i) "method has no body").map (.methodBody i))

/-- The list of accessors is not empty and none of them has a body. -/
def hasBareAccessors (t : Outline) (list : Nat) : Bool :=
  let accessors := (t.children list).filter fun c => t.kind c == .accessorDeclaration
  !accessors.isEmpty && accessors.all fun a =>
    !t.hasChildOfKind a .block && !t.hasChildOfKind a .arrowExpressionClause

/-- A property of which no accessor has a body. -/
def autoProperty : Rule :=
  checked .autoProperty (.overridable []) "a property declaration" (· == .propertyDeclaration)
    (fun t i => t.kind i == .propertyDeclaration
      && (t.firstChildOfKind? i .accessorList).any (hasBareAccessors t))
    (fun t i => (part (t.firstChildOfKind? i .accessorList) "property has no accessor list").map
      (.autoProperty i))

/-- A property with an arrow clause and no accessors. -/
def readOnlyProperty : Rule :=
  checked .readOnlyProperty (.overridable []) "a property declaration" (· == .propertyDeclaration)
    (fun t i => t.kind i == .propertyDeclaration && t.hasChildOfKind i .arrowExpressionClause
      && !t.hasChildOfKind i .accessorList)
    (fun t i => (part (t.firstChildOfKind? i .arrowExpressionClause) "property has no arrow body").map
      (.readOnlyProperty i))

/-- The block that a `try` protects. -/
def tryBody : Rule :=
  checked .tryBody controlFlow "a block" (· == .block)
    (fun t i => t.kind i == .block && t.parentKind? i == some .tryStatement)
    (fun t i => (part (t.parent? i) "block has no parent").map (.tryBody · i))

/-- The condition of an `if`. -/
def ifCondition : Rule :=
  checked .ifCondition controlFlow "an expression" NodeKind.isExpression
    (fun t i => (t.kind i).isExpression && t.parentKind? i == some .ifStatement)
    (fun t i => (part (t.parent? i) "condition has no parent").map (.ifCondition · i))

/-- What runs when the condition of an `if` holds. -/
def ifBody : Rule :=
  checked .ifBody controlFlow "a statement" NodeKind.isStatement
    (fun t i => (t.kind i).isStatement && (t.node i).role != some .alternative
      && t.parentKind? i == some .ifStatement)
    (fun t i => (part (t.parent? i) "statement has no parent").map (.ifBody · i))

/-- The statement of an `else`, which may be another `if`. -/
def elseBody : Rule :=
  checked .elseBody controlFlow "a statement" NodeKind.isStatement
    (fun t i => (t.kind i).isStatement && t.parentKind? i == some .elseClause)
    (fun t i => (part (t.parent? i) "statement has no parent").map (.elseBody · i))

def isControlFlow : NodeKind → Bool
  | .tryStatement | .catchClause | .finallyClause | .elseClause | .ifStatement | .forStatement
  | .forEachStatement | .whileStatement | .doStatement => true
  | _ => false

def isContainer (k : NodeKind) : Bool :=
  k == .block || k == .arrowExpressionClause || k.isExpression

/-- Control flow, or a block or arrow clause below it with nothing but blocks and arrow clauses in between. -/
def isNestedBlockParent (t : Outline) (i : Nat) : Bool :=
  if isControlFlow (t.kind i) then
    true
  else if t.kind i == .block || t.kind i == .arrowExpressionClause then
    match t.parent? i with
    | some p => if p < i ∧ t.kind p ≠ .methodDeclaration then isNestedBlockParent t p else false
    | none => false
  else
    false
termination_by i

/-- A block, arrow clause or expression nested directly in control flow. All other rules for it override this one. -/
def nestedBlock : Rule :=
  checked .nestedBlock (.overridable []) "a block, arrow clause or expression" isContainer
    (fun t i => isContainer (t.kind i) && (t.parent? i).any (isNestedBlockParent t))
    (fun _ i => .ok (.nestedBlock i))

/-- The rules that a search uses. -/
def standard : List Rule := [
  methodBody, autoProperty, readOnlyProperty, tryBody, ifCondition, ifBody, elseBody, nestedBlock]

/-- The standard rule of a kind. -/
def standard? (kind : VirtualKind) : Option Rule :=
  standard.find? (·.kind == kind)

end Rule
end StructuralSearch
