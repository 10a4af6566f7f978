/-!
This module contains the kinds of outline nodes and the classes of kinds that rules and names go by.
-/

namespace StructuralSearch

/--
What an outline node stands for. `statement` and `expression` are those without a kind of their own, `typeName` is
anything in type position, and `other` is all the rest, errors included.
-/
inductive NodeKind where
  | compilationUnit
  | namespaceDeclaration
  | fileScopedNamespaceDeclaration
  | classDeclaration
  | structDeclaration
  | interfaceDeclaration
  | enumDeclaration
  | recordDeclaration
  | enumMemberDeclaration
  | declarationList
  | fieldDeclaration
  | eventFieldDeclaration
  | propertyDeclaration
  | eventDeclaration
  | methodDeclaration
  | constructorDeclaration
  | accessorList
  | accessorDeclaration
  | parameterList
  | parameter
  | variableDeclaration
  | variableDeclarator
  | localDeclarationStatement
  | block
  | arrowExpressionClause
  | ifStatement
  | elseClause
  | tryStatement
  | catchClause
  | finallyClause
  | forStatement
  | forEachStatement
  | whileStatement
  | doStatement
  | expressionStatement
  | returnStatement
  | statement
  | argumentList
  | argument
  | invocationExpression
  | identifierName
  | literal
  | expression
  | typeName
  | other
  deriving DecidableEq, Repr, Inhabited

namespace NodeKind

/-- The name by which reports and messages show a kind. -/
def name : NodeKind → String
  | .compilationUnit => "CompilationUnit"
  | .namespaceDeclaration => "NamespaceDeclaration"
  | .fileScopedNamespaceDeclaration => "FileScopedNamespaceDeclaration"
  | .classDeclaration => "ClassDeclaration"
  | .structDeclaration => "StructDeclaration"
  | .interfaceDeclaration => "InterfaceDeclaration"
  | .enumDeclaration => "EnumDeclaration"
  | .recordDeclaration => "RecordDeclaration"
  | .enumMemberDeclaration => "EnumMemberDeclaration"
  | .declarationList => "DeclarationList"
  | .fieldDeclaration => "FieldDeclaration"
  | .eventFieldDeclaration => "EventFieldDeclaration"
  | .propertyDeclaration => "PropertyDeclaration"
  | .eventDeclaration => "EventDeclaration"
  | .methodDeclaration => "MethodDeclaration"
  | .constructorDeclaration => "ConstructorDeclaration"
  | .accessorList => "AccessorList"
  | .accessorDeclaration => "AccessorDeclaration"
  | .parameterList => "ParameterList"
  | .parameter => "Parameter"
  | .variableDeclaration => "VariableDeclaration"
  | .variableDeclarator => "VariableDeclarator"
  | .localDeclarationStatement => "LocalDeclarationStatement"
  | .block => "Block"
  | .arrowExpressionClause => "ArrowExpressionClause"
  | .ifStatement => "IfStatement"
  | .elseClause => "ElseClause"
  | .tryStatement => "TryStatement"
  | .catchClause => "CatchClause"
  | .finallyClause => "FinallyClause"
  | .forStatement => "ForStatement"
  | .forEachStatement => "ForEachStatement"
  | .whileStatement => "WhileStatement"
  | .doStatement => "DoStatement"
  | .expressionStatement => "ExpressionStatement"
  | .returnStatement => "ReturnStatement"
  | .statement => "Statement"
  | .argumentList => "ArgumentList"
  | .argument => "Argument"
  | .invocationExpression => "InvocationExpression"
  | .identifierName => "IdentifierName"
  | .literal => "Literal"
  | .expression => "Expression"
  | .typeName => "TypeSyntax"
  | .other => "Other"

/-- Every kind, in declaration order. -/
def all : List NodeKind := [
    .compilationUnit, .namespaceDeclaration, .fileScopedNamespaceDeclaration, .classDeclaration,
    .structDeclaration, .interfaceDeclaration, .enumDeclaration, .recordDeclaration, .enumMemberDeclaration,
    .declarationList, .fieldDeclaration, .eventFieldDeclaration, .propertyDeclaration, .eventDeclaration,
    .methodDeclaration, .constructorDeclaration, .accessorList, .accessorDeclaration, .parameterList,
    .parameter, .variableDeclaration, .variableDeclarator, .localDeclarationStatement, .block,
    .arrowExpressionClause, .ifStatement, .elseClause, .tryStatement, .catchClause, .finallyClause,
    .forStatement, .forEachStatement, .whileStatement, .doStatement, .expressionStatement, .returnStatement,
    .statement, .argumentList, .argument, .invocationExpression, .identifierName, .literal, .expression,
    .typeName, .other]

/-- The kind with the given name. -/
def ofName? (s : String) : Option NodeKind :=
  all.find? (·.name == s)

def isNamespace : NodeKind → Bool
  | .namespaceDeclaration | .fileScopedNamespaceDeclaration => true
  | _ => false

def isTypeDeclaration : NodeKind → Bool
  | .classDeclaration | .structDeclaration | .interfaceDeclaration | .enumDeclaration
  | .recordDeclaration => true
  | _ => false

def isStatement : NodeKind → Bool
  | .block | .localDeclarationStatement | .ifStatement | .tryStatement | .forStatement
  | .forEachStatement | .whileStatement | .doStatement | .expressionStatement | .returnStatement
  | .statement => true
  | _ => false

/-- What stands in type position is no expression. -/
def isExpression : NodeKind → Bool
  | .invocationExpression | .identifierName | .literal | .expression => true
  | _ => false

end NodeKind
end StructuralSearch
