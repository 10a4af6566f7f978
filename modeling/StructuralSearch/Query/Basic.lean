import StructuralSearch.Query.Matcher

/-!
This module contains queries. A query is asked about the candidates of a walk; which of its scopes are around a
candidate is known to the walk alone.
-/

namespace StructuralSearch

/-- Conditions on a match and on the scope around it. A list without conditions is no restriction. -/
structure Query where
  target : List Matcher := []
  scope : List Matcher := []
  access : List Matcher := []
  path : List Matcher := []

namespace Query

def hasTarget (q : Query) : Bool :=
  !q.target.isEmpty

def hasScope (q : Query) : Bool :=
  !q.scope.isEmpty

def hasAccess (q : Query) : Bool :=
  !q.access.isEmpty

def hasPath (q : Query) : Bool :=
  !q.path.isEmpty

/-- Whether a candidate satisfies all but the conditions on the scope. -/
def accepts (q : Query) (t : Outline) (c : Candidate) : Except Error Bool :=
  Matcher.acceptsAll t c (q.target ++ q.access ++ q.path)

/-- Whether a node is a scope in which matches may lie. -/
def isScope (q : Query) (t : Outline) (i : Nat) : Except Error Bool :=
  if q.hasScope then Matcher.acceptsAll t (.real i) q.scope else .ok false

/-- The query for what is at a place. -/
def atSpan (s : TextSpan) : Query :=
  { target := [.and .knownTarget (.position s)] }

end Query
end StructuralSearch
