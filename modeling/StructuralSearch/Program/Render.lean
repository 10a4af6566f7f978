import StructuralSearch.Program.Basic

/-!
This module contains the source text of programs. What is inside of something is indented by four blanks.
-/

namespace StructuralSearch
namespace Program

def Access.render : Access → String
  | .unstated => ""
  | .publicAccess => "public "
  | .privateAccess => "private "
  | .protectedAccess => "protected "
  | .internalAccess => "internal "
  | .protectedInternal => "protected internal "
  | .privateProtected => "private protected "

def Operator.render : Operator → String
  | .add => "+"
  | .sub => "-"
  | .mul => "*"
  | .lt => "<"
  | .eq => "=="
  | .and => "&&"

def TypeKeyword.render : TypeKeyword → String
  | .classType => "class"
  | .structType => "struct"

def openBrace : String := "\x7b"

def closeBrace : String := "\x7d"

/-- The blanks at the start of a line. -/
def indent : Nat → String
  | 0 => ""
  | level + 1 => "    " ++ indent level

/-- Texts with commas between them. -/
def commaSeparated : List String → String
  | [] => ""
  | [s] => s
  | s :: ss => s ++ ", " ++ commaSeparated ss

/-- A line for each of the texts, one level further in than what is around them. -/
def indentedLines (level : Nat) : List String → String
  | [] => ""
  | s :: ss => indent (level + 1) ++ s ++ "\n" ++ indentedLines level ss

/-- Texts in braces, on lines of their own. -/
def braced (level : Nat) (body : List String) : String :=
  openBrace ++ "\n" ++ indentedLines level body ++ indent level ++ closeBrace

mutual

def Expr.render : Expr → String
  | .int n => toString n
  | .bool b => if b then "true" else "false"
  | .string s => "\"" ++ s ++ "\""
  | .variable name => name
  | .binary op left right => left.render ++ " " ++ op.render ++ " " ++ right.render
  | .call target args => target ++ "(" ++ commaSeparated (Expr.renderAll args) ++ ")"
  | .paren inner => "(" ++ inner.render ++ ")"

def Expr.renderAll : List Expr → List String
  | [] => []
  | e :: es => e.render :: Expr.renderAll es

end

mutual

/-- The text of a statement whose first line starts at the given level. -/
def Stmt.render (level : Nat) : Stmt → String
  | .declare name value => "var " ++ name ++ " = " ++ value.render ++ ";"
  | .expr e => e.render ++ ";"
  | .return none => "return;"
  | .return (some e) => "return " ++ e.render ++ ";"
  | .block body => braced level (Stmt.renderAll (level + 1) body)
  | .ifElse condition consequence alternative =>
    "if (" ++ condition.render ++ ") " ++ consequence.render level
      ++ Stmt.renderElse level alternative
  | .tryCatch body handler cleanup =>
    "try " ++ braced level (Stmt.renderAll (level + 1) body)
      ++ Stmt.renderClause level "catch " handler
      ++ Stmt.renderClause level "finally " cleanup
  | .while condition body => "while (" ++ condition.render ++ ") " ++ body.render level
  | .for counter bound body =>
    "for (int " ++ counter ++ " = 0; " ++ counter ++ " < " ++ bound.render ++ "; " ++ counter ++ "++) "
      ++ body.render level
  | .forEach item collection body =>
    "foreach (var " ++ item ++ " in " ++ collection.render ++ ") " ++ body.render level

def Stmt.renderAll (level : Nat) : List Stmt → List String
  | [] => []
  | s :: ss => s.render level :: Stmt.renderAll level ss

def Stmt.renderElse (level : Nat) : Option Stmt → String
  | none => ""
  | some s => "\n" ++ indent level ++ "else " ++ s.render level

def Stmt.renderClause (level : Nat) (keyword : String) : Option (List Stmt) → String
  | none => ""
  | some body => "\n" ++ indent level ++ keyword ++ braced level (Stmt.renderAll (level + 1) body)

end

def renderStatic (isStatic : Bool) : String :=
  if isStatic then "static " else ""

def PropertyForm.render (level : Nat) : PropertyForm → String
  | .auto => " " ++ openBrace ++ " get; set; " ++ closeBrace
  | .getOnly => " " ++ openBrace ++ " get; " ++ closeBrace
  | .arrow value => " => " ++ value.render ++ ";"
  | .accessors getter setter =>
    " " ++ braced level [
      "get " ++ braced (level + 1) (Stmt.renderAll (level + 2) getter),
      "set " ++ braced (level + 1) (Stmt.renderAll (level + 2) setter)]

/-- The text of a method after its modifiers. Only methods with an arrow give a value. -/
def renderMethod (level : Nat) (signature : String) : MethodBody → String
  | .block body => "void " ++ signature ++ " " ++ braced level (Stmt.renderAll (level + 1) body)
  | .arrow value => "object " ++ signature ++ " => " ++ value.render ++ ";"

mutual

def TypeDecl.render (level : Nat) : TypeDecl → String
  | .mk access keyword name members =>
    access.render ++ keyword.render ++ " " ++ name ++ "\n" ++ indent level
      ++ braced level (Member.renderAll (level + 1) members)

def Member.render (level : Nat) : Member → String
  | .field access isStatic names => access.render ++ renderStatic isStatic ++ "int " ++ commaSeparated names ++ ";"
  | .property access name form => access.render ++ "int " ++ name ++ form.render level
  | .method access isStatic name parameters body =>
    access.render ++ renderStatic isStatic
      ++ renderMethod level (name ++ "(" ++ commaSeparated (parameters.map ("int " ++ ·)) ++ ")") body
  | .type decl => decl.render level

def Member.renderAll (level : Nat) : List Member → List String
  | [] => []
  | m :: ms => m.render level :: Member.renderAll level ms

end

mutual

def Namespace.render (level : Nat) : Namespace → String
  | .mk name types namespaces =>
    "namespace " ++ name ++ "\n" ++ indent level
      ++ braced level (types.map (TypeDecl.render (level + 1)) ++ Namespace.renderAll (level + 1) namespaces)

def Namespace.renderAll (level : Nat) : List Namespace → List String
  | [] => []
  | n :: ns => n.render level :: Namespace.renderAll level ns

end

/-- The text of a program. Every declaration ends with a line feed. -/
def render (p : Program) : String :=
  String.join ((p.types.map (TypeDecl.render 0) ++ Namespace.renderAll 0 p.namespaces).map (· ++ "\n"))

end Program
end StructuralSearch
