/-!
This module contains the roles that a node can have in its parent.
-/

namespace StructuralSearch

/-- The field of its parent that a node fills. -/
inductive Role where
  | name
  | type
  | condition
  | consequence
  | alternative
  | body
  | value
  | accessors
  | parameters
  | arguments
  deriving DecidableEq, Repr, Inhabited

namespace Role

/-- The name by which a dump shows a role. -/
def title : Role → String
  | .name => "Name"
  | .type => "Type"
  | .condition => "Condition"
  | .consequence => "Consequence"
  | .alternative => "Alternative"
  | .body => "Body"
  | .value => "Value"
  | .accessors => "Accessors"
  | .parameters => "Parameters"
  | .arguments => "Arguments"

/-- The role of a grammar field. Other fields carry no role. -/
def ofField? : String → Option Role
  | "name" => some .name
  | "type" | "returns" => some .type
  | "condition" => some .condition
  | "consequence" => some .consequence
  | "alternative" => some .alternative
  | "body" => some .body
  | "value" => some .value
  | "accessors" => some .accessors
  | "parameters" => some .parameters
  | "arguments" => some .arguments
  | _ => none

end Role
end StructuralSearch
