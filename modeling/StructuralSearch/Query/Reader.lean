import StructuralSearch.Json.Reader
import StructuralSearch.Query.Descriptor

/-!
This module contains the reading of descriptors from JSON: an object with the fields of a descriptor, or an array of
their values in order. Fields that are left out have their default values.
-/

namespace StructuralSearch
namespace Descriptor

/-- A field of a descriptor. -/
inductive Field where
  | target
  | access
  | scope
  | nameContains
  | nameExcludes
  | scopeName
  | pathContains
  | regex
  deriving DecidableEq, Repr

namespace Field

def all : List Field := [
  .target, .access, .scope, .nameContains, .nameExcludes, .scopeName, .pathContains, .regex]

def name : Field → String
  | .target => "target"
  | .access => "access"
  | .scope => "scope"
  | .nameContains => "name_contains"
  | .nameExcludes => "name_excludes"
  | .scopeName => "scope_name"
  | .pathContains => "path_contains"
  | .regex => "regex"

def ofName? (s : String) : Option Field :=
  all.find? (·.name == s)

end Field

/-- Why well-formed JSON is no descriptor. -/
inductive Refusal where
  | unknownField (name : String)
  | duplicateField (f : Field)
  | invalidValue (e : Error)
  deriving DecidableEq, Repr

def Refusal.message : Refusal → String
  | .unknownField name =>
    "unknown field `" ++ name ++ "`, expected one of "
      ++ String.intercalate ", " (Field.all.map fun f => "`" ++ f.name ++ "`")
  | .duplicateField f => "duplicate field `" ++ f.name ++ "`"
  | .invalidValue e => e.message

abbrev Fault := Json.Fault Refusal

/-- The message for well-formed JSON of the wrong shape. -/
def faultMessage? : Fault → Option String
  | .malformed | .truncated => none
  | .invalidType found expected => some ("invalid type: " ++ found.describe ++ ", expected " ++ expected)
  | .refused cause => some cause.message

open Json.Reader

abbrev Reader := Json.Reader Refusal

/-- Reads a choice by one of its names. -/
def readChoice (α : Type) [Choice α] : Reader α := do
  match Choice.parse α (← string) with
  | .ok a => return a
  | .error e => throw (.refused (.invalidValue e))

/-- Reads the value of a field. -/
def readField (d : Descriptor) : Field → Reader Descriptor
  | .target => return { d with target := ← readChoice TargetKind }
  | .access => return { d with access := ← readChoice AccessLevel }
  | .scope => return { d with scope := ← readChoice ScopeKind }
  | .nameContains => return { d with nameContains := ← strings }
  | .nameExcludes => return { d with nameExcludes := ← strings }
  | .scopeName => return { d with scopeName := ← optionalString }
  | .pathContains => return { d with pathContains := ← strings }
  | .regex => return { d with regex := ← boolean }

/-- Reads the members of an object. A key that is unknown or met before is refused before its value is read. -/
def readMembers (d : Descriptor) (met : List Field) : Nat → Reader Descriptor
  | 0 => throw .truncated
  | fuel + 1 => do
    if ← hasMember met.isEmpty then
      let key ← string
      match Field.ofName? key with
      | none => throw (.refused (.unknownField key))
      | some f =>
        if met.contains f then
          throw (.refused (.duplicateField f))
        else
          colon
          let d ← readField d f
          readMembers d (f :: met) fuel
    else
      modify (List.drop 1)
      return d

/-- Reads the elements of an array as the values of the given fields. -/
def readElements (d : Descriptor) (first : Bool) : List Field → Reader Descriptor
  | [] => return d
  | f :: fs => do
    if ← hasElement first then
      let d ← readField d f
      readElements d false fs
    else
      return d

def read : Reader Descriptor := do
  match ← next with
  | [] => throw .truncated
  | '{' :: cs =>
    set cs
    readMembers {} [] (Field.all.length + 1)
  | '[' :: cs =>
    set cs
    let d ← readElements {} true Field.all
    closeArray
    return d
  | _ => mismatch "struct QueryDescriptor"

/-- Reads a whole text as a descriptor. -/
def ofJson (s : String) : Except Fault Descriptor :=
  (do
    let d ← read
    finish
    return d).run' s.toList

end Descriptor
end StructuralSearch
