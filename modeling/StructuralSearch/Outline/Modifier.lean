/-!
This module contains the modifier keywords of declarations and sets of them.
-/

namespace StructuralSearch

/-- A modifier of a declaration. The first four say who may access it. -/
inductive Modifier where
  | publicAccess
  | privateAccess
  | protectedAccess
  | internalAccess
  | isStatic
  | abstracted
  | overridable
  | overriding
  | isSealed
  | readonly
  | constant
  | asynchronous
  | partialDefinition
  | external
  | hiding
  | unchecked
  | isVolatile
  | isRequired
  | fileLocal
  | byReference
  | fixedSize
  deriving DecidableEq, Repr, Inhabited

namespace Modifier

/-- The word by which a source writes the modifier. -/
def keyword : Modifier → String
  | .publicAccess => "public"
  | .privateAccess => "private"
  | .protectedAccess => "protected"
  | .internalAccess => "internal"
  | .isStatic => "static"
  | .abstracted => "abstract"
  | .overridable => "virtual"
  | .overriding => "override"
  | .isSealed => "sealed"
  | .readonly => "readonly"
  | .constant => "const"
  | .asynchronous => "async"
  | .partialDefinition => "partial"
  | .external => "extern"
  | .hiding => "new"
  | .unchecked => "unsafe"
  | .isVolatile => "volatile"
  | .isRequired => "required"
  | .fileLocal => "file"
  | .byReference => "ref"
  | .fixedSize => "fixed"

/-- Every modifier, in declaration order. -/
def all : List Modifier := [
    .publicAccess, .privateAccess, .protectedAccess, .internalAccess, .isStatic, .abstracted, .overridable,
    .overriding, .isSealed, .readonly, .constant, .asynchronous, .partialDefinition, .external, .hiding,
    .unchecked, .isVolatile, .isRequired, .fileLocal, .byReference, .fixedSize]

def ofKeyword? (s : String) : Option Modifier :=
  all.find? (·.keyword == s)

def isAccess : Modifier → Bool
  | .publicAccess | .privateAccess | .protectedAccess | .internalAccess => true
  | _ => false

theorem mem_all (m : Modifier) : m ∈ all := by
  cases m <;> decide

end Modifier

/-- A set of modifiers, listed in declaration order without repetition. -/
abbrev Modifiers := List Modifier

namespace Modifiers

def insert (m : Modifier) (s : Modifiers) : Modifiers :=
  Modifier.all.filter fun x => x == m || s.contains x

/-- The set of the members of a list. -/
def ofList (ms : List Modifier) : Modifiers :=
  Modifier.all.filter fun x => ms.contains x

/-- Every required modifier is among the present ones: as many are in both sets as are required. -/
def includes (present required : Modifiers) : Bool :=
  (required.filter fun m => present.contains m).length == required.length

@[simp]
theorem mem_insert (x m : Modifier) (s : Modifiers) : x ∈ insert m s ↔ x = m ∨ x ∈ s := by
  simp [insert, Modifier.mem_all]

@[simp]
theorem mem_ofList (x : Modifier) (ms : List Modifier) : x ∈ ofList ms ↔ x ∈ ms := by
  simp [ofList, Modifier.mem_all]

@[simp]
theorem includes_iff (present required : Modifiers) : includes present required = true ↔ required ⊆ present := by
  unfold includes
  rw [beq_iff_eq, List.length_filter_eq_length_iff]
  simp [List.subset_def]

end Modifiers
end StructuralSearch
