import StructuralSearch.Query.Basic
import StructuralSearch.Virtual.Registry

/-!
This module contains the walk over an outline that collects the matches of a query. Every node is visited, each before
those below it. The walk keeps the scopes that it is in: a scope that has been left is dropped when the next node is
entered.
-/

namespace StructuralSearch

/-- The matches so far, the latest first. -/
structure Accumulator where
  items : List Candidate := []
  deriving DecidableEq, Repr, Inhabited

namespace Accumulator

def size (a : Accumulator) : Nat :=
  a.items.length

def isEmpty (a : Accumulator) : Bool :=
  a.items.isEmpty

def push (a : Accumulator) (c : Candidate) : Accumulator :=
  { items := c :: a.items }

def append (a : Accumulator) (cs : List Candidate) : Accumulator :=
  cs.foldl push a

/-- The latest match. -/
def peek (a : Accumulator) : Except Error Candidate :=
  match a.items with
  | c :: _ => .ok c
  | [] => .error .emptyAccumulator

/-- Takes the latest match away. -/
def pop (a : Accumulator) : Except Error (Candidate × Accumulator) :=
  match a.items with
  | c :: cs => .ok (c, { items := cs })
  | [] => .error .emptyAccumulator

/-- The matches in the order in which they were found. -/
def toList (a : Accumulator) : List Candidate :=
  a.items.reverse

@[simp]
theorem toList_push (a : Accumulator) (c : Candidate) : (a.push c).toList = a.toList ++ [c] := by
  simp [push, toList]

@[simp]
theorem toList_append (a : Accumulator) (cs : List Candidate) : (a.append cs).toList = a.toList ++ cs := by
  unfold append
  induction cs generalizing a with
  | nil => simp
  | cons c cs ih => simp [ih]

end Accumulator

/-- The result of a walk. -/
structure Walk where
  /-- How many nodes there were. -/
  visited : Nat
  found : List Candidate
  deriving DecidableEq, Repr

namespace Walk

/-- The place of a walk: the scopes around the node that it is at, the innermost first, and the matches so far. -/
structure State where
  scopes : List Nat := []
  found : Accumulator := {}
  deriving DecidableEq, Repr

/-- Leaves the scopes that are not around the node, and enters the node if it is a scope. -/
def enter (q : Query) (t : Outline) (scopes : List Nat) (i : Nat) : Except Error (List Nat) := do
  let around := scopes.dropWhile fun s => !t.isDescendantOf i s
  if ← q.isScope t i then return i :: around else return around

/-- Whether a candidate lies in one of the scopes, if the query asks for scopes, and satisfies the query. -/
def accepts (q : Query) (t : Outline) (scopes : List Nat) (c : Candidate) : Except Error Bool :=
  if q.hasScope && !scopes.any (t.isDescendantOf c.anchor ·) then .ok false else q.accepts t c

/-- The virtual nodes at one side of the visited node that satisfy the query. -/
def insertions (q : Query) (t : Outline) (scopes : List Nat) (placement : Placement) (routed : List Routed) :
    Except Error (List Candidate) :=
  ((routed.filter (·.placement == placement)).map fun r => Candidate.synthetic r.node).filterM
    (accepts q t scopes)

/-- The virtual nodes that take the place of the visited node. -/
def replacements (routed : List Routed) : List Routed :=
  routed.filter (·.placement == .replacing)

/-- What is asked about at a node: the virtual node that takes its place, or the node itself. -/
def candidate (i : Nat) (routed : List Routed) : Candidate :=
  match replacements routed with
  | [] => .real i
  | r :: _ => .synthetic r.node

/-- The matches at a node: if the candidate is one, also the virtual nodes before and after it. -/
def emit (q : Query) (t : Outline) (scopes : List Nat) (i : Nat) (routed : List Routed) :
    Except Error (List Candidate) := do
  let c := candidate i routed
  if ← accepts q t scopes c then
    let before ← insertions q t scopes .before routed
    let after ← insertions q t scopes .after routed
    return before ++ c :: after
  else
    return []

def visit (q : Query) (route : Router) (t : Outline) (s : State) (i : Nat) : Except Error State := do
  let routed ← route t i
  let count := (replacements routed).length
  if 1 < count then
    throw (.doubleReplacement (t.kind i) count)
  else
    let scopes ← enter q t s.scopes i
    let found ← emit q t scopes i routed
    return { scopes, found := s.found.append found }

/-- Visits all nodes in order. The first failure ends the walk. -/
def traverse (q : Query) (route : Router) (t : Outline) : Except Error Accumulator := do
  let s ← t.preorder.foldlM (visit q route t) {}
  return s.found

/-- All matches, in the order of the nodes that they were found at. -/
def run (q : Query) (route : Router) (t : Outline) : Except Error Walk := do
  let found ← traverse q route t
  return { visited := t.preorder.length, found := found.toList }

/-- The last match. For a query about a place that is the innermost node there. -/
def innermost (q : Query) (route : Router) (t : Outline) : Except Error Candidate := do
  let found ← traverse q route t
  let (c, _) ← found.pop
  return c

end Walk
end StructuralSearch
