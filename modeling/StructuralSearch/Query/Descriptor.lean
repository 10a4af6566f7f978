import StructuralSearch.Query.Basic

/-!
This module contains descriptors, the form in which users state queries, and their compilation.
-/

namespace StructuralSearch

/-- A closed choice that users make by name. -/
class Choice (α : Type) where
  /-- What is chosen, for messages. -/
  subject : String
  all : List α
  title : α → String
  /-- The names in their normal form. -/
  aliases : α → List String

namespace Choice

/--
Blanks around a name, its case, dashes and underscores do not count. No alias has a letter to which anything but an
ASCII letter is lowered, so that lowering those is enough.
-/
def normalize (s : String) : String :=
  String.ofList (((Text.trim s.toList).filter fun c => c != '-' && c != '_').map Char.toLower)

/-- The choice with the given name. -/
def parse (α : Type) [Choice α] (s : String) : Except Error α :=
  match (all : List α).find? fun a => (aliases a).contains (normalize s) with
  | some a => .ok a
  | none => .error (.notImplemented (subject α) s)

end Choice

/-- What a query looks for. -/
inductive TargetKind where
  | any
  | namespaceTarget
  | classTarget
  | structTarget
  | enumTarget
  | interfaceTarget
  | field
  | property
  | method
  | localVariable
  | parameter
  | argument
  deriving DecidableEq, Repr, Inhabited

instance : Choice TargetKind where
  subject := "target kind"
  all := [.any, .namespaceTarget, .classTarget, .structTarget, .enumTarget, .interfaceTarget, .field, .property,
    .method, .localVariable, .parameter, .argument]
  title
    | .any => "Any"
    | .namespaceTarget => "Namespace"
    | .classTarget => "Class"
    | .structTarget => "Struct"
    | .enumTarget => "Enum"
    | .interfaceTarget => "Interface"
    | .field => "Field"
    | .property => "Property"
    | .method => "Method"
    | .localVariable => "LocalVariable"
    | .parameter => "Parameter"
    | .argument => "Argument"
  aliases
    | .any => ["any", "all", "*"]
    | .namespaceTarget => ["namespace", "ns"]
    | .classTarget => ["class"]
    | .structTarget => ["struct"]
    | .enumTarget => ["enum"]
    | .interfaceTarget => ["interface"]
    | .field => ["field"]
    | .property => ["property", "prop"]
    | .method => ["method"]
    | .localVariable => ["localvariable", "local", "variable", "var"]
    | .parameter => ["parameter", "param"]
    | .argument => ["argument", "arg"]

def namespaceKinds : List NodeKind :=
  [.namespaceDeclaration, .fileScopedNamespaceDeclaration]

/-- The kinds of nodes that are looked for; `any` looks for all. -/
def TargetKind.kinds? : TargetKind → Option (List NodeKind)
  | .any => none
  | .namespaceTarget => some namespaceKinds
  | .classTarget => some [.classDeclaration]
  | .structTarget => some [.structDeclaration]
  | .enumTarget => some [.enumDeclaration]
  | .interfaceTarget => some [.interfaceDeclaration]
  | .field => some [.fieldDeclaration]
  | .property => some [.propertyDeclaration]
  | .method => some [.methodDeclaration]
  | .localVariable => some [.localDeclarationStatement]
  | .parameter => some [.parameter]
  | .argument => some [.argument]

/-- The access that a match has to declare. -/
inductive AccessLevel where
  | any
  | publicLevel
  | privateLevel
  | protectedLevel
  | internalLevel
  | protectedInternal
  | privateProtected
  deriving DecidableEq, Repr, Inhabited

instance : Choice AccessLevel where
  subject := "access modifier"
  all := [.any, .publicLevel, .privateLevel, .protectedLevel, .internalLevel, .protectedInternal, .privateProtected]
  title
    | .any => "Any"
    | .publicLevel => "Public"
    | .privateLevel => "Private"
    | .protectedLevel => "Protected"
    | .internalLevel => "Internal"
    | .protectedInternal => "ProtectedInternal"
    | .privateProtected => "PrivateProtected"
  aliases
    | .any => ["any", "all", "*"]
    | .publicLevel => ["public"]
    | .privateLevel => ["private"]
    | .protectedLevel => ["protected"]
    | .internalLevel => ["internal"]
    | .protectedInternal => ["protectedinternal"]
    | .privateProtected => ["privateprotected"]

/-- The modifiers that have to be present; `any` asks for none. -/
def AccessLevel.modifiers? : AccessLevel → Option (List Modifier)
  | .any => none
  | .publicLevel => some [.publicAccess]
  | .privateLevel => some [.privateAccess]
  | .protectedLevel => some [.protectedAccess]
  | .internalLevel => some [.internalAccess]
  | .protectedInternal => some [.protectedAccess, .internalAccess]
  | .privateProtected => some [.privateAccess, .protectedAccess]

/-- The kind of declaration that a match has to lie in. -/
inductive ScopeKind where
  | any
  | namespaceScope
  | classScope
  | structScope
  | interfaceScope
  deriving DecidableEq, Repr, Inhabited

instance : Choice ScopeKind where
  subject := "scope kind"
  all := [.any, .namespaceScope, .classScope, .structScope, .interfaceScope]
  title
    | .any => "Any"
    | .namespaceScope => "Namespace"
    | .classScope => "Class"
    | .structScope => "Struct"
    | .interfaceScope => "Interface"
  aliases
    | .any => ["any", "all", "*"]
    | .namespaceScope => ["namespace", "ns"]
    | .classScope => ["class"]
    | .structScope => ["struct"]
    | .interfaceScope => ["interface"]

def ScopeKind.kinds? : ScopeKind → Option (List NodeKind)
  | .any => none
  | .namespaceScope => some namespaceKinds
  | .classScope => some [.classDeclaration]
  | .structScope => some [.structDeclaration]
  | .interfaceScope => some [.interfaceDeclaration]

/-- The kinds of nodes that a scope of a given name may have if no kind is asked for. -/
def scopeKinds : List NodeKind :=
  [.namespaceDeclaration, .fileScopedNamespaceDeclaration, .classDeclaration, .structDeclaration,
    .interfaceDeclaration]

/-- A query as users state it. -/
structure Descriptor where
  target : TargetKind := .any
  access : AccessLevel := .any
  scope : ScopeKind := .any
  /-- The identifier matches one of these. -/
  nameContains : List String := []
  /-- The identifier matches none of these. -/
  nameExcludes : List String := []
  /-- The identifier of the scope matches this. -/
  scopeName : Option String := none
  /-- The path of the file matches all of these. -/
  pathContains : List String := []
  /-- Patterns are regular expressions. -/
  regex : Bool := false
  deriving DecidableEq, Repr, Inhabited

namespace Descriptor

def targetMatchers (d : Descriptor) : Except Error (List Matcher) := do
  let kinds ← d.target.kinds?.toList.mapM Matcher.ofKinds
  if d.nameContains.isEmpty && d.nameExcludes.isEmpty then
    return kinds
  else
    let f ← NameFilter.make d.regex d.nameContains d.nameExcludes
    return kinds ++ [.name f]

def accessMatchers (d : Descriptor) : Except Error (List Matcher) :=
  d.access.modifiers?.toList.mapM Matcher.ofModifiers

def scopeMatchers (d : Descriptor) : Except Error (List Matcher) := do
  let kinds ← d.scope.kinds?.toList.mapM Matcher.ofKinds
  match d.scopeName with
  | none => return kinds
  | some name =>
    let f ← NameFilter.make d.regex [name] []
    return kinds ++ [.name { f with kinds := some (d.scope.kinds?.getD scopeKinds) }]

def pathMatchers (d : Descriptor) : Except Error (List Matcher) :=
  d.pathContains.mapM (Matcher.ofPath d.regex)

/-- The query that a descriptor states. The first fault is reported, in the order in which the parts are compiled. -/
def compile (d : Descriptor) : Except Error Query := do
  let target ← d.targetMatchers
  let access ← d.accessMatchers
  let scope ← d.scopeMatchers
  let path ← d.pathMatchers
  return { target, scope, access, path }

end Descriptor
end StructuralSearch
