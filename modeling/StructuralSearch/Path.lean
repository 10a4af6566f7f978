/-!
This module contains paths and the components that they are compared by. Repeated and trailing slashes do not count,
nor does a component `.` anywhere but at the start.
-/

namespace StructuralSearch
namespace Path

/-- A part of a path between slashes, or the slash that an absolute path starts with. -/
inductive Component where
  | root
  | current
  | parent
  | normal (name : String)
  deriving DecidableEq, Repr

namespace Component

def ofName (name : String) : Component :=
  if name = ".." then .parent else .normal name

def rank : Component → Nat
  | .root => 0
  | .current => 1
  | .parent => 2
  | .normal _ => 3

/-- The order of components: the root, `.`, `..`, and then names by their code points. -/
def lt : Component → Component → Bool
  | .normal a, .normal b => a < b
  | a, b => a.rank < b.rank

end Component

/-- The pieces between slashes. -/
def pieces (path : String) : List String :=
  go path.toList
where
  go : List Char → List String
    | [] => [""]
    | c :: cs =>
      if c = '/' then
        "" :: go cs
      else
        match go cs with
        | [] => [String.singleton c]
        | p :: ps => String.ofList (c :: p.toList) :: ps

def significant (names : List String) : List Component :=
  (names.filter fun n => n != "" && n != ".").map Component.ofName

def components (path : String) : List Component :=
  match pieces path with
  | [] => []
  | first :: rest =>
    if rest ≠ [] ∧ first = "" then
      .root :: significant rest
    else if first = "." then
      .current :: significant rest
    else
      significant (first :: rest)

/-- Two paths are the same if their components are. -/
def same (a b : String) : Bool :=
  components a == components b

/-- The order of paths by their components. -/
def lt (a b : String) : Bool :=
  go (components a) (components b)
where
  go : List Component → List Component → Bool
    | _, [] => false
    | [], _ :: _ => true
    | a :: as, b :: bs => a.lt b || (a == b && go as bs)

/-- Whether a path starts at the root. -/
def isAbsolute (path : String) : Bool :=
  path.toList.head? == some '/'

/-- A path below a directory. -/
def join (directory name : String) : String :=
  if directory = "" ∨ directory.toList.getLast? = some '/' then
    directory ++ name
  else
    directory ++ "/" ++ name

end Path
end StructuralSearch
