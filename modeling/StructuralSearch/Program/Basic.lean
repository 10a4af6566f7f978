/-!
This module contains small programs in the language that is searched: namespaces, types, members, statements and
expressions, as far as the search tells them apart.
-/

namespace StructuralSearch
namespace Program

/-- The access that a declaration states. -/
inductive Access where
  | unstated
  | publicAccess
  | privateAccess
  | protectedAccess
  | internalAccess
  | protectedInternal
  | privateProtected
  deriving DecidableEq, Repr

inductive Operator where
  | add
  | sub
  | mul
  | lt
  | eq
  | and
  deriving DecidableEq, Repr

inductive Expr where
  | int (n : Int)
  | bool (b : Bool)
  | string (s : String)
  | variable (name : String)
  | binary (op : Operator) (left right : Expr)
  | call (target : String) (args : List Expr)
  | paren (inner : Expr)
  deriving Repr, Inhabited

inductive Stmt where
  | declare (name : String) (value : Expr)
  | expr (e : Expr)
  | return (value : Option Expr)
  | block (body : List Stmt)
  | ifElse (condition : Expr) (consequence : Stmt) (alternative : Option Stmt)
  | tryCatch (body : List Stmt) (handler : Option (List Stmt)) (cleanup : Option (List Stmt))
  | while (condition : Expr) (body : Stmt)
  /-- Counts a variable up to a bound. -/
  | for (counter : String) (bound : Expr) (body : Stmt)
  | forEach (item : String) (collection : Expr) (body : Stmt)
  deriving Repr, Inhabited

inductive PropertyForm where
  | auto
  | getOnly
  | arrow (value : Expr)
  | accessors (getter setter : List Stmt)
  deriving Repr

inductive MethodBody where
  | block (body : List Stmt)
  | arrow (value : Expr)
  deriving Repr

inductive TypeKeyword where
  | classType
  | structType
  deriving DecidableEq, Repr

mutual

/-- A class or struct. -/
inductive TypeDecl where
  | mk (access : Access) (keyword : TypeKeyword) (name : String) (members : List Member)

inductive Member where
  | field (access : Access) (isStatic : Bool) (names : List String)
  | property (access : Access) (name : String) (form : PropertyForm)
  | method (access : Access) (isStatic : Bool) (name : String) (parameters : List String) (body : MethodBody)
  | type (decl : TypeDecl)

end

inductive Namespace where
  | mk (name : String) (types : List TypeDecl) (namespaces : List Namespace)

end Program

/-- All declarations of a source file. -/
structure Program where
  types : List Program.TypeDecl
  namespaces : List Program.Namespace

namespace Program

mutual

/-- The number of methods in a type and the types in it. -/
def TypeDecl.methodCount : TypeDecl → Nat
  | .mk _ _ _ members => Member.countMethods members

def Member.countMethods : List Member → Nat
  | [] => 0
  | .method .. :: ms => Member.countMethods ms + 1
  | .type decl :: ms => decl.methodCount + Member.countMethods ms
  | .field .. :: ms | .property .. :: ms => Member.countMethods ms

end

def TypeDecl.countMethods : List TypeDecl → Nat
  | [] => 0
  | t :: ts => t.methodCount + TypeDecl.countMethods ts

mutual

def Namespace.methodCount : Namespace → Nat
  | .mk _ types namespaces => TypeDecl.countMethods types + Namespace.countMethods namespaces

def Namespace.countMethods : List Namespace → Nat
  | [] => 0
  | n :: ns => n.methodCount + Namespace.countMethods ns

end

/-- The number of methods anywhere in the program. -/
def methodCount (p : Program) : Nat :=
  TypeDecl.countMethods p.types + Namespace.countMethods p.namespaces

end Program
end StructuralSearch
