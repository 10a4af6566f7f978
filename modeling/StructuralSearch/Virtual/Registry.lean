import StructuralSearch.Virtual.Rule

/-!
This module contains registries of rules and the routing of a node: which virtual node replaces it and which ones are
inserted beside it.
-/

namespace StructuralSearch

/-- A virtual node and its place relative to the visited node. -/
structure Routed where
  placement : Placement
  node : VirtualNode
  deriving DecidableEq, Repr

/-- How the nodes of an outline are routed. -/
abbrev Router := Outline → Nat → Except Error (List Routed)

/-- Rules that have been checked against each other. -/
structure Registry where
  rules : List Rule

namespace Registry

/-- The first rule of the empty kind, or of a kind that is already taken, is refused. -/
def checkKinds (taken : List VirtualKind) : List Rule → Except Error Unit
  | [] => .ok ()
  | r :: rs =>
    if r.kind = .empty then
      .error (.invalidArgument .emptyKindRule)
    else if taken.contains r.kind then
      .error (.invalidArgument (.repeatedRule r.kind))
    else
      checkKinds (r.kind :: taken) rs

/-- The first rule that overrides an unknown kind is refused, for its first such kind. -/
def checkOverrides (kinds : List VirtualKind) : List Rule → Except Error Unit
  | [] => .ok ()
  | r :: rs =>
    match r.competition.overrides.find? (!kinds.contains ·) with
    | some target => .error (.isolatedOverride r.kind target)
    | none => checkOverrides kinds rs

/-- Registers rules that have distinct kinds and override none but each other. -/
def ofRules (rules : List Rule) : Except Error Registry := do
  checkKinds [] rules
  checkOverrides (rules.map Rule.kind) rules
  return { rules }

/-- The registry that a search uses. -/
def standard : Registry :=
  { rules := Rule.standard }

def kinds (g : Registry) : List VirtualKind :=
  g.rules.map Rule.kind

/-- No other applicant overrides the rule. -/
def isUndominated (applicants : List Rule) (r : Rule) : Bool :=
  !applicants.any fun other => other.kind != r.kind && other.competition.overrides.contains r.kind

/-- The overridable applicant that no other one overrides, if there are applicants. -/
def winner? (node : NodeKind) (applicants : List Rule) : Except Error (Option Rule) :=
  match applicants with
  | [] => .ok none
  | [single] => .ok (some single)
  | _ =>
    match applicants.filter (isUndominated applicants) with
    | [winner] => .ok (some winner)
    | [] => .error (.overrideConflict node (applicants.map Rule.kind))
    | several => .error (.overrideConflict node (several.map Rule.kind))

/-- The virtual nodes of the fixed rules among the applicants, in order. -/
def fixedNodes (t : Outline) (i : Nat) : List Rule → Except Error (List Routed)
  | [] => .ok []
  | r :: rs =>
    match r.competition with
    | .overridable _ => fixedNodes t i rs
    | .fixed placement => do
      let node ← r.synthesize t i
      let rest ← fixedNodes t i rs
      return { placement, node } :: rest

/-- All fixed rules that apply add their nodes; of the overridable ones the winner adds a replacement. -/
def resolve (g : Registry) : Router := fun t i => do
  let applicants := g.rules.filter fun r => r.applies t i
  let fixed ← fixedNodes t i applicants
  match ← winner? (t.kind i) (applicants.filter (·.competition.isOverridable)) with
  | none => return fixed
  | some r =>
    let node ← r.synthesize t i
    return fixed ++ [{ placement := .replacing, node }]

end Registry
end StructuralSearch
