import StructuralSearch.Json.Text
import StructuralSearch.Text.WhiteSpace
import StructuralSearch.Virtual.Basic

/-!
This module contains reports: what users are told of a match. Lines and columns are counted from one, columns in bytes.
-/

namespace StructuralSearch

structure Report where
  path : String
  kind : NodeKind
  virtualKind : VirtualKind
  identifier : Option String
  fullName : Option String
  startLine : Nat
  startColumn : Nat
  endLine : Nat
  endColumn : Nat
  deriving DecidableEq, Repr

namespace Report

def ofCandidate (t : Outline) (c : Candidate) : Except Error Report := do
  let identifier ← c.identifier t
  let span := c.span t
  return {
    path := t.path.getD ""
    kind := c.kind t
    virtualKind := c.virtualKind
    identifier
    fullName := identifier.map (t.qualify false c.anchor)
    startLine := span.start.row + 1
    startColumn := span.start.column + 1
    endLine := span.stop.row + 1
    endColumn := span.stop.column + 1 }

/-- What the match is called: by its virtual kind, if it has one. -/
def label (r : Report) : String :=
  if r.virtualKind = .empty then r.kind.name else r.virtualKind.name

/-- The line of text for a match. Without a name nothing follows the label. -/
def render (r : Report) : String :=
  let name := (r.fullName.orElse fun _ => r.identifier).getD ""
  let line := r.path ++ ":" ++ toString r.startLine ++ ":" ++ toString r.startColumn ++ ": " ++ r.label ++ " " ++ name
  String.ofList (Text.trimEnd line.toList)

/-- The line of JSON for a match. -/
def renderJson (r : Report) : String :=
  Json.renderObject [
    ("path", Json.renderString r.path),
    ("kind", Json.renderString r.kind.name),
    ("virtual_kind", Json.renderString r.virtualKind.name),
    ("identifier", Json.renderOption r.identifier),
    ("full_name", Json.renderOption r.fullName),
    ("start_line", toString r.startLine),
    ("start_column", toString r.startColumn),
    ("end_line", toString r.endLine),
    ("end_column", toString r.endColumn)]

end Report
end StructuralSearch
