import StructuralSearch.Concrete.Basic
import StructuralSearch.Outline.Basic

/-!
This module contains what becomes of the nodes of a concrete tree in an outline: their kinds, and whether they stay
nodes or become part of the node above them.
-/

namespace StructuralSearch

/-- The kind of outline node for a kind of the grammar. Everything in the place of a type is a type. -/
def NodeKind.ofGrammar (grammarKind : String) (inType : Bool) : NodeKind :=
  if inType then
    .typeName
  else
    match grammarKind with
    | "compilation_unit" => .compilationUnit
    | "namespace_declaration" => .namespaceDeclaration
    | "file_scoped_namespace_declaration" => .fileScopedNamespaceDeclaration
    | "class_declaration" => .classDeclaration
    | "struct_declaration" => .structDeclaration
    | "interface_declaration" => .interfaceDeclaration
    | "enum_declaration" => .enumDeclaration
    | "record_declaration" | "record_struct_declaration" => .recordDeclaration
    | "enum_member_declaration" => .enumMemberDeclaration
    | "declaration_list" | "enum_member_declaration_list" => .declarationList
    | "field_declaration" => .fieldDeclaration
    | "event_field_declaration" => .eventFieldDeclaration
    | "property_declaration" => .propertyDeclaration
    | "event_declaration" => .eventDeclaration
    | "method_declaration" => .methodDeclaration
    | "constructor_declaration" => .constructorDeclaration
    | "accessor_list" => .accessorList
    | "accessor_declaration" => .accessorDeclaration
    | "parameter_list" | "bracketed_parameter_list" => .parameterList
    | "parameter" => .parameter
    | "variable_declaration" => .variableDeclaration
    | "variable_declarator" => .variableDeclarator
    | "local_declaration_statement" => .localDeclarationStatement
    | "block" => .block
    | "arrow_expression_clause" => .arrowExpressionClause
    | "if_statement" => .ifStatement
    | "try_statement" => .tryStatement
    | "catch_clause" => .catchClause
    | "finally_clause" => .finallyClause
    | "for_statement" => .forStatement
    | "foreach_statement" => .forEachStatement
    | "while_statement" => .whileStatement
    | "do_statement" => .doStatement
    | "expression_statement" => .expressionStatement
    | "return_statement" => .returnStatement
    | "argument_list" => .argumentList
    | "argument" => .argument
    | "invocation_expression" => .invocationExpression
    | "identifier" => .identifierName
    | "predefined_type" | "implicit_type" | "array_type" | "nullable_type" | "pointer_type" | "tuple_type"
    | "function_pointer_type" | "ref_type" | "scoped_type" => .typeName
    | "generic_name" | "this" | "base" => .expression
    | word =>
      if endsWith "_literal" word then .literal
      else if endsWith "_statement" word then .statement
      else if endsWith "_expression" word then .expression
      else .other
where
  endsWith (ending word : String) : Bool :=
    ending.toList.isSuffixOf word.toList

namespace NodeKind

/-- Nodes of these kinds record their name. -/
def takesName (k : NodeKind) : Bool :=
  k.isNamespace || k.isTypeDeclaration || k == .enumMemberDeclaration || k == .propertyDeclaration
    || k == .eventDeclaration || k == .methodDeclaration || k == .constructorDeclaration || k == .parameter
    || k == .variableDeclarator

/-- Nodes of these kinds record their modifiers. -/
def carriesModifiers (k : NodeKind) : Bool :=
  k.takesName || k == .fieldDeclaration || k == .eventFieldDeclaration || k == .localDeclarationStatement
    || k == .accessorDeclaration

end NodeKind

namespace Concrete

/-- What becomes of a child under a node of some kind. -/
inductive Fate where
  /-- Comments, and what is not in the text. -/
  | dropped
  | token
  | modifier
  | name
  /-- It stays a node. -/
  | kept
  deriving DecidableEq, Repr

/-- A loop over a sequence has its variable on the left. -/
def Info.fate (c : Info) (parent : NodeKind) : Fate :=
  if c.isExtra || c.isMissing then .dropped
  else if !c.isNamed then .token
  else if c.kind == "modifier" && parent.carriesModifiers then .modifier
  else if c.field == some "name" && parent.takesName then .name
  else if c.field == some "left" && parent == .forEachStatement then .name
  else .kept

/-- Fields that hold types. -/
def isTypeField (field : Option String) : Bool :=
  field == some "type" || field == some "returns"

/-- A namespace declaration that holds for the rest of the file. -/
def Info.isFileNamespace (c : Info) : Bool :=
  c.kind == "file_scoped_namespace_declaration"

end Concrete
end StructuralSearch
