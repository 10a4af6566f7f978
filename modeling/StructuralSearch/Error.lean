import StructuralSearch.Outline.Kind
import StructuralSearch.Virtual.Kind

/-!
This module contains the failures of building outlines, compiling queries, applying rules and walking, each with
the text that users see.
-/

namespace StructuralSearch

/-- The list of a query that a pattern was given for. -/
inductive PatternList where
  | contains
  | excludes
  | path
  deriving DecidableEq, Repr

def PatternList.name : PatternList → String
  | .contains => "contains"
  | .excludes => "excludes"
  | .path => "path"

/-- Why an argument was refused. -/
inductive InvalidArgument where
  | secondRoot (kind : NodeKind)
  | noOpenNode
  | noRoot
  | openNodes (count : Nat)
  | noKinds
  | noModifiers
  | blankPattern (list : PatternList)
  | invertedSpan
  | emptyKindRule
  | repeatedRule (kind : VirtualKind)
  | inapplicable (rule : VirtualKind) (node : String)
  | missingPart (description : String)
  deriving DecidableEq, Repr

namespace InvalidArgument

/-- The argument at fault. -/
def argument : InvalidArgument → String
  | .secondRoot _ => "kind"
  | .noOpenNode => "finish_node"
  | .noRoot | .openNodes _ => "builder"
  | .noKinds => "kinds"
  | .noModifiers => "modifiers"
  | .blankPattern list => list.name
  | .invertedSpan => "span"
  | .emptyKindRule | .repeatedRule _ => "rules"
  | .inapplicable .. | .missingPart _ => "node"

def reason : InvalidArgument → String
  | .secondRoot kind => "cannot open a second root (" ++ kind.name ++ ")"
  | .noOpenNode => "no node is open"
  | .noRoot => "tree has no root"
  | .openNodes count => toString count ++ " node(s) still open"
  | .noKinds => "at least one kind is required"
  | .noModifiers => "an empty modifier set means any access and must be omitted"
  | .blankPattern _ => "pattern must not be blank"
  | .invertedSpan => "end precedes start"
  | .emptyKindRule => "the Empty kind cannot have a synthesis rule"
  | .repeatedRule kind => kind.name ++ " is registered more than once"
  | .inapplicable rule node => rule.name ++ " does not apply to " ++ node
  | .missingPart description => description

end InvalidArgument

/-- A failure. All but the last are faults of what was asked; the last is a byte range that cuts a character. -/
inductive Error where
  | invalidArgument (cause : InvalidArgument)
  | invalidRegex (pattern : String)
  | notImplemented (what : String) (value : String)
  | synthesisMisuse (rule : VirtualKind) (expected : String) (actual : NodeKind)
  | overrideConflict (node : NodeKind) (rules : List VirtualKind)
  | isolatedOverride (rule : VirtualKind) (target : VirtualKind)
  | doubleReplacement (node : NodeKind) (count : Nat)
  | emptyAccumulator
  | missingIdentifier (kind : NodeKind)
  | cutCharacter (start stop : Nat)
  deriving DecidableEq, Repr

def Error.message : Error → String
  | .invalidArgument cause => "invalid argument `" ++ cause.argument ++ "`: " ++ cause.reason
  | .invalidRegex pattern => "invalid regex `" ++ pattern ++ "`"
  | .notImplemented what value => "not implemented: " ++ what ++ " `" ++ value ++ "`"
  | .synthesisMisuse rule expected actual =>
    rule.name ++ " cannot be synthesized from a " ++ actual.name ++ " node (expected " ++ expected ++ ")"
  | .overrideConflict node rules =>
    "override conflict on a " ++ node.name ++ " node between "
      ++ String.intercalate ", " (rules.map VirtualKind.name)
  | .isolatedOverride rule target =>
    rule.name ++ " declares an override of " ++ target.name ++ ", which is not registered"
  | .doubleReplacement node count =>
    toString count ++ " virtual nodes claim to replace the same " ++ node.name ++ " node"
  | .emptyAccumulator => "the match accumulator is empty"
  | .missingIdentifier kind => "a " ++ kind.name ++ " node has no identifier"
  | .cutCharacter start stop =>
    "bytes " ++ toString start ++ " to " ++ toString stop ++ " do not hold whole characters"

end StructuralSearch
