import StructuralSearch.Path
import StructuralSearch.Query.Pattern
import StructuralSearch.Virtual.Basic

/-!
This module contains matchers: conditions on candidates. All but the position are judged by the anchor of a candidate.
-/

namespace StructuralSearch

/-- A place in a file, or in any file if there is no path: a point or a range. -/
structure TextSpan where
  path : Option String
  start : Position
  stop : Position
  deriving DecidableEq, Repr

namespace TextSpan

def point (path : Option String) (position : Position) : TextSpan :=
  { path, start := position, stop := position }

/-- A range does not end before it starts. -/
def range (path : Option String) (start stop : Position) : Except Error TextSpan :=
  if stop.lt start then
    .error (.invalidArgument .invertedSpan)
  else
    .ok { path, start, stop }

def isPoint (s : TextSpan) : Bool :=
  s.start.samePlace s.stop

/-- Whether the place lies in a span. -/
def isWithin (s : TextSpan) (span : Span) : Bool :=
  if s.isPoint then span.containsPoint s.start else span.containsRange s.start s.stop

end TextSpan

/-- A condition on identifiers. A candidate without an identifier never satisfies it. -/
structure NameFilter where
  /-- The kinds of nodes that are considered at all. -/
  kinds : Option (List NodeKind) := none
  /-- At least one of these matches, if there are any. -/
  contains : List Pattern
  /-- None of these matches. -/
  excludes : List Pattern
  regex : Bool

namespace NameFilter

def make (regex : Bool) (contains excludes : List String) : Except Error NameFilter := do
  let contains ← contains.mapM (Pattern.make .contains regex)
  let excludes ← excludes.mapM (Pattern.make .excludes regex)
  return { contains, excludes, regex }

def accepts (f : NameFilter) (name : String) : Bool :=
  (f.contains.isEmpty || f.contains.any (·.isMatch name)) && !f.excludes.any (·.isMatch name)

def considers (f : NameFilter) (kind : NodeKind) : Bool :=
  f.kinds.all (·.contains kind)

end NameFilter

/-- A condition on candidates. -/
inductive Matcher where
  /-- The kind is one of these. -/
  | kinds (ks : List NodeKind)
  /-- Anything that "what is here" can be answered with: declarations of some kinds, and every virtual node. -/
  | knownTarget
  /-- All of these modifiers are present. -/
  | modifiers (required : Modifiers)
  | name (f : NameFilter)
  | path (p : Pattern)
  | position (s : TextSpan)
  | and (a b : Matcher)
  | not (m : Matcher)

namespace Matcher

def knownTargets : List NodeKind := [
  .namespaceDeclaration, .fileScopedNamespaceDeclaration, .classDeclaration, .structDeclaration,
  .enumDeclaration, .interfaceDeclaration, .fieldDeclaration, .propertyDeclaration, .methodDeclaration,
  .localDeclarationStatement, .parameter, .argument]

def ofKinds (ks : List NodeKind) : Except Error Matcher :=
  if ks.isEmpty then .error (.invalidArgument .noKinds) else .ok (.kinds ks)

def ofModifiers (ms : List Modifier) : Except Error Matcher :=
  if ms.isEmpty then
    .error (.invalidArgument .noModifiers)
  else
    .ok (.modifiers (Modifiers.ofList ms))

def ofPath (regex : Bool) (text : String) : Except Error Matcher :=
  (Pattern.make .path regex text).map .path

/-- The name by which a matcher is listed. -/
def title : Matcher → String
  | .kinds _ => "type"
  | .knownTarget => "known_target"
  | .modifiers _ => "access_modifier"
  | .name f => if f.regex then "regex_name" else "name"
  | .path p => if p.isRegex then "regex_path" else "path"
  | .position _ => "position"
  | .and .. => "and"
  | .not _ => "not"

/-- Whether a candidate satisfies the condition. Looking up its name may fail. -/
def accepts (t : Outline) (c : Candidate) : Matcher → Except Error Bool
  | .kinds ks => .ok (ks.contains (c.kind t))
  | .knownTarget => .ok (c.isVirtual || knownTargets.contains (c.kind t))
  | .modifiers required => .ok (Modifiers.includes (t.node c.anchor).modifiers required)
  | .name f =>
    if f.considers (c.kind t) then
      (c.identifier t).map fun name => name.any f.accepts
    else
      .ok false
  | .path p => .ok (p.isMatch (t.path.getD ""))
  | .position s =>
    .ok ((s.path.all fun path => t.path.any (Path.same path)) && s.isWithin (c.span t))
  | .and a b => do
    if ← a.accepts t c then b.accepts t c else return false
  | .not m => (m.accepts t c).map (!·)

/-- Whether a candidate satisfies every one of the conditions. -/
def acceptsAll (t : Outline) (c : Candidate) : List Matcher → Except Error Bool
  | [] => .ok true
  | m :: ms => do
    if ← m.accepts t c then acceptsAll t c ms else return false

end Matcher
end StructuralSearch
