import StructuralSearch.Concrete.Classify
import StructuralSearch.Outline.Builder
import StructuralSearch.Text.WhiteSpace

/-!
This module contains the lowering of concrete trees to outlines. Names, modifiers and tokens are recorded on the node
above them, the `else` part of an `if` gets a clause of its own, and a namespace that holds for the rest of the file
becomes the parent of what follows it: it is left open until the file ends.
-/

namespace StructuralSearch
namespace Concrete

/-- The source text of a node. -/
def Info.text (source : String) (c : Info) : Except Error String :=
  sliceText source c.span.start.byte c.span.stop.byte

def Info.token (c : Info) : Token :=
  { text := c.kind, span := c.span }

namespace Lowering

open Builder

/-- Records a token on the node with the given number. Some grammars have modifiers as tokens. -/
def recordToken (id : Nat) (kind : NodeKind) (c : Info) : Building Unit := do
  let modifier? := if kind.carriesModifiers then Modifier.ofKeyword? c.kind else none
  modifier?.forM (addModifier id)
  pushToken id c.token

/-- Records a modifier. Unknown ones are ignored. -/
def recordModifier (id : Nat) (keyword : String) : Building Unit :=
  (Modifier.ofKeyword? (String.ofList (Text.trim keyword.toList))).forM (addModifier id)

/-- Closes the namespace that has been left open, if there is one. -/
def closeNamespace (inFile : Bool) : Building Unit :=
  if inFile then discard closeNode else return

/-- Closes the node that is left open by the given step. -/
def lowerNode (node : Building Nat) : Building Nat := do
  let _ ← node
  closeNode

/-- The clause around the `else` part of an `if`, from the keyword on. -/
def lowerElseClause (keyword : Token) (stop : Position) (alternative : Building Nat) : Building Unit := do
  let clause ← Builder.openNode .elseClause { start := keyword.span.start, stop }
  setGrammarKind clause "else_clause"
  setRole clause .alternative
  pushToken clause keyword
  let _ ← lowerNode alternative
  discard closeNode

mutual

/-- Lowers a node that fills the given field and gets the given span, but leaves it open. -/
def openNode (source : String) (field : Option String) (inType : Bool) (span : Span) : Concrete → Building Nat
  | .node c children => do
    let inType := inType || isTypeField field
    let kind := NodeKind.ofGrammar c.kind inType
    let id ← Builder.openNode kind span
    setGrammarKind id c.kind
    (field.bind Role.ofField?).forM (setRole id)
    lowerChildren source c.span.stop id kind (inType || kind == .typeName) none false children
    return id

/--
Lowers the children of the node with the given number and kind, which ends at `stop`. `keyword` is an `else` that has no
alternative yet; if there is none in the end, it is a token like any other. `inFile` says that a namespace for the rest
of the file has been met. It is the innermost open node then.
-/
def lowerChildren (source : String) (stop : Position) (id : Nat) (kind : NodeKind) (inType : Bool)
    (keyword : Option Token) (inFile : Bool) : List Concrete → Building Unit
  | [] => do
    closeNamespace inFile
    keyword.forM (pushToken id)
  | .node c below :: cs => do
    match c.fate kind with
    | .dropped => lowerChildren source stop id kind inType keyword inFile cs
    | .token =>
      if kind == .ifStatement && c.kind == "else" then
        lowerChildren source stop id kind inType (some c.token) inFile cs
      else
        recordToken id kind c
        lowerChildren source stop id kind inType keyword inFile cs
    | .modifier =>
      recordModifier id (← c.text source)
      lowerChildren source stop id kind inType keyword inFile cs
    | .name =>
      setName id (← c.text source)
      lowerChildren source stop id kind inType keyword inFile cs
    | .kept =>
      if kind == .compilationUnit && c.isFileNamespace && !inFile then
        let _ ← openNode source c.field inType { start := c.span.start, stop } (.node c below)
        lowerChildren source stop id kind inType keyword true cs
      else
        match keyword with
        | some token =>
          lowerElseClause token c.span.stop (openNode source none inType c.span (.node c below))
          lowerChildren source stop id kind inType none inFile cs
        | none =>
          let _ ← lowerNode (openNode source c.field inType c.span (.node c below))
          lowerChildren source stop id kind inType none inFile cs

end

end Lowering

/-- The outline of a source text that has been parsed. -/
def toOutline (t : Concrete) (source : String) (path : Option String) : Except Error Outline :=
  Builder.build source path (Lowering.lowerNode (Lowering.openNode source none false t.info.span t))

end Concrete
end StructuralSearch
