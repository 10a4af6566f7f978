import StructuralSearch.Concrete.Classify

/-!
This module contains which kinds of the grammar the kinds of nodes come from, and which children become tokens. The
names of the grammar are gone through once for all.
-/

namespace StructuralSearch
namespace NodeKind

theorem ofGrammar_inversion (grammarKind : String) :
    ofGrammar grammarKind false ≠ .elseClause ∧
      (ofGrammar grammarKind false = .ifStatement → grammarKind = "if_statement") := by
  unfold ofGrammar
  rw [if_neg Bool.false_ne_true]
  split
  -- One kind comes from the name in question, and what is not in the list is known by its ending.
  all_goals
    first
    | exact ⟨NodeKind.noConfusion, NodeKind.noConfusion⟩
    | exact ⟨NodeKind.noConfusion, fun _ => rfl⟩
    | repeat' split
      all_goals exact ⟨NodeKind.noConfusion, NodeKind.noConfusion⟩

theorem ofGrammar_ne_elseClause (grammarKind : String) (inType : Bool) :
    ofGrammar grammarKind inType ≠ .elseClause := by
  cases inType with
  | false => exact (ofGrammar_inversion grammarKind).1
  | true => exact NodeKind.noConfusion

theorem ofGrammar_eq_ifStatement {grammarKind : String} {inType : Bool}
    (h : ofGrammar grammarKind inType = .ifStatement) : grammarKind = "if_statement" ∧ inType = false := by
  cases inType with
  | false => exact ⟨(ofGrammar_inversion grammarKind).2 h, rfl⟩
  | true => cases h

theorem ofGrammar_eq_typeName {grammarKind : String} {inType : Bool} :
    ofGrammar grammarKind inType = .typeName ↔ inType = true ∨ ofGrammar grammarKind false = .typeName := by
  cases inType with
  | false => exact ⟨.inr, fun h => h.resolve_left Bool.false_ne_true⟩
  | true => exact ⟨fun _ => .inl rfl, fun _ => rfl⟩

end NodeKind

namespace Concrete

theorem Info.fate_eq_token {c : Info} {kind : NodeKind} :
    c.fate kind = .token ↔ (!c.isNamed && !c.isExtra && !c.isMissing) = true := by
  unfold fate
  generalize c.isNamed = named, c.isExtra = extra, c.isMissing = missing
  generalize (c.kind == "modifier" && kind.carriesModifiers) = isModifier
  generalize (c.field == some "name" && kind.takesName) = isName
  generalize (c.field == some "left" && kind == .forEachStatement) = isVariable
  revert named extra missing isModifier isName isVariable
  decide

end Concrete
end StructuralSearch
