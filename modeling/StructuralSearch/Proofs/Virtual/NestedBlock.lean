import StructuralSearch.Proofs.Outline.Runs
import StructuralSearch.Proofs.Virtual.Standard

/-!
This module contains which nodes the rule for nested blocks applies to. The climb to the nodes above ends in every
outline that can be built, and it ends well if it comes to control flow through nothing but blocks and arrow clauses.
-/

namespace StructuralSearch
namespace Rule

variable {t : Outline} {i : Nat} {ids : List Nat}

/-- The statements and clauses that decide what runs. -/
def controlFlowKinds : List NodeKind := [
  .tryStatement, .catchClause, .finallyClause, .elseClause, .ifStatement, .forStatement, .forEachStatement,
  .whileStatement, .doStatement]

/-- What may lie between a nested block and its control flow. -/
def passageKinds : List NodeKind := [.block, .arrowExpressionClause]

theorem isControlFlow_iff {k : NodeKind} : isControlFlow k = true ↔ k ∈ controlFlowKinds := by
  cases k <;> decide

theorem isContainer_iff {k : NodeKind} :
    isContainer k = true ↔ k ∈ passageKinds ∨ k.isExpression = true := by
  cases k <;> decide

theorem not_mem_passageKinds {k : NodeKind} (h : k ∈ controlFlowKinds) : k ∉ passageKinds := by
  revert h
  cases k <;> decide

/-- One round of the climb at a node: the answer, or the node to go on with. -/
def climb (t : Outline) (i : Nat) : Bool ⊕ Nat :=
  if t.kind i ∈ controlFlowKinds then
    .inl true
  else if t.kind i ∈ passageKinds then
    match t.parent? i with
    | some p => if t.kind p = .methodDeclaration then .inl false else .inr p
    | none => .inl false
  else
    .inl false

/-- The climb from a node ends with the answer, after however many rounds. -/
inductive Climbs (t : Outline) : Nat → Bool → Prop
  | stop {i : Nat} {answer : Bool} : climb t i = .inl answer → Climbs t i answer
  | next {i p : Nat} {answer : Bool} : climb t i = .inr p → Climbs t p answer → Climbs t i answer

theorem Climbs.unique {answer answer' : Bool} (h : Climbs t i answer) (h' : Climbs t i answer') :
    answer = answer' := by
  induction h with
  | stop hstop =>
    cases h' with
    | stop hstop' =>
      rw [hstop, Sum.inl.injEq] at hstop'
      exact hstop'
    | next hnext' _ =>
      rw [hstop] at hnext'
      cases hnext'
  | next hnext _ ih =>
    cases h' with
    | stop hstop' =>
      rw [hnext] at hstop'
      cases hstop'
    | next hnext' hrest' =>
      rw [hnext, Sum.inr.injEq] at hnext'
      subst hnext'
      exact ih hrest'

/-- What a round can do, with what makes it do so. -/
theorem climb_cases (t : Outline) (i : Nat) :
    (climb t i = .inl true ∧ t.kind i ∈ controlFlowKinds) ∨
    (∃ p, climb t i = .inr p ∧ t.kind i ∈ passageKinds ∧ t.parent? i = some p ∧ t.kind p ≠ .methodDeclaration) ∨
    (climb t i = .inl false ∧ t.kind i ∉ controlFlowKinds ∧
      (t.kind i ∈ passageKinds → ∀ p, t.parent? i = some p → t.kind p = .methodDeclaration)) := by
  unfold climb
  split
  . next hflow => exact .inl ⟨rfl, hflow⟩
  . next hflow =>
    split
    . next hpassage =>
      split
      . next p hp =>
        split
        . next hmethod => simp [hp, hmethod, hflow]
        . next hmethod => exact .inr (.inl ⟨p, rfl, hpassage, hp, hmethod⟩)
      . next hp => simp [hp, hflow]
    . next hpassage => simp [hpassage, hflow]

/-- The climb goes by the parents alone. That their numbers get smaller holds in every outline with good links. -/
theorem isNestedBlockParent_eq (ht : t.Linked) (i : Nat) :
    isNestedBlockParent t i = (climb t i).elim id (isNestedBlockParent t) := by
  have hpassage : (t.kind i == .block || t.kind i == .arrowExpressionClause) = true ↔ t.kind i ∈ passageKinds := by
    simp [passageKinds]
  rw [isNestedBlockParent, climb]
  simp only [isControlFlow_iff, hpassage]
  split
  . rfl
  . split
    . cases hp : t.parent? i with
      | none => rfl
      | some p =>
        have hlt := ht.parent_lt hp
        by_cases hmethod : t.kind p = .methodDeclaration
        . simp [hmethod]
        . simp [hmethod, hlt]
    . rfl

theorem climbs_isNestedBlockParent {i : Nat} (ht : t.Linked) : Climbs t i (isNestedBlockParent t i) := by
  rw [isNestedBlockParent_eq ht]
  obtain ⟨hclimb, _⟩ | ⟨p, hclimb, _, hp, _⟩ | ⟨hclimb, _⟩ := climb_cases t i
  . rw [hclimb]
    exact .stop hclimb
  . have hlt := ht.parent_lt hp
    rw [hclimb]
    exact .next hclimb (climbs_isNestedBlockParent ht)
  . rw [hclimb]
    exact .stop hclimb
termination_by i

/--
Control flow, and the blocks and arrow clauses that are no bodies of methods and have a parent that is one of these
nodes itself.
-/
inductive NestedBlockParent (t : Outline) : Nat → Prop
  | controlFlow {i : Nat} : t.kind i ∈ controlFlowKinds → NestedBlockParent t i
  | passage {i p : Nat} : t.kind i ∈ passageKinds → t.parent? i = some p → t.kind p ≠ .methodDeclaration →
      NestedBlockParent t p → NestedBlockParent t i

theorem isNestedBlockParent_iff {i : Nat} (ht : t.Linked) :
    isNestedBlockParent t i = true ↔ NestedBlockParent t i := by
  rw [isNestedBlockParent_eq ht]
  obtain ⟨hclimb, hflow⟩ | ⟨p, hclimb, hpassage, hp, hmethod⟩ | ⟨hclimb, hflow, hbody⟩ := climb_cases t i
  . rw [hclimb]
    exact ⟨fun _ => .controlFlow hflow, fun _ => rfl⟩
  . have hlt := ht.parent_lt hp
    rw [hclimb, Sum.elim_inr, isNestedBlockParent_iff ht]
    constructor
    . exact .passage hpassage hp hmethod
    . intro h
      cases h with
      | controlFlow hflow => exact absurd hpassage (not_mem_passageKinds hflow)
      | passage _ hp' _ hparent =>
        rw [hp, Option.some.injEq] at hp'
        subst hp'
        exact hparent
  . rw [hclimb]
    refine ⟨fun h => absurd h Bool.false_ne_true, ?_⟩
    intro h
    cases h with
    | controlFlow hflow' => exact absurd hflow' hflow
    | passage hpassage hp hmethod _ => exact absurd (hbody hpassage _ hp) hmethod
termination_by i

/-- One of the nodes is control flow, and those before it are blocks and arrow clauses. -/
def Reaches (t : Outline) (ids : List Nat) : Prop :=
  ∃ between a above, ids = between ++ a :: above ∧ t.kind a ∈ controlFlowKinds ∧
    ∀ b ∈ between, t.kind b ∈ passageKinds

theorem not_reaches_nil : ¬ Reaches t [] := by
  intro h
  obtain ⟨between, a, above, heq, _⟩ := h
  simp at heq

theorem reaches_cons :
    Reaches t (i :: ids) ↔ t.kind i ∈ controlFlowKinds ∨ t.kind i ∈ passageKinds ∧ Reaches t ids := by
  constructor
  . intro h
    obtain ⟨between, a, above, heq, hflow, hbetween⟩ := h
    cases between with
    | nil =>
      cases heq
      exact .inl hflow
    | cons b between =>
      cases heq
      rw [List.forall_mem_cons] at hbetween
      exact .inr ⟨hbetween.1, between, a, above, rfl, hflow, hbetween.2⟩
  . intro h
    obtain hflow | ⟨hpassage, between, a, above, heq, hflow, hbetween⟩ := h
    . exact ⟨[], i, ids, rfl, hflow, by simp⟩
    . subst heq
      exact ⟨i :: between, a, above, rfl, hflow, List.forall_mem_cons.mpr ⟨hpassage, hbetween⟩⟩

/-- Anything else on the way to the nearest control flow is in the way. -/
theorem not_reaches_append {between : List Nat} (hflow : ∀ b ∈ between, t.kind b ∉ controlFlowKinds)
    (hother : ∃ m ∈ between, t.kind m ∉ passageKinds) : ¬ Reaches t (between ++ ids) := by
  induction between with
  | nil =>
    obtain ⟨m, hm, _⟩ := hother
    cases hm
  | cons b between ih =>
    rw [List.forall_mem_cons] at hflow
    rw [List.cons_append, reaches_cons]
    intro h
    obtain ⟨hpassage, hrest⟩ := h.resolve_left hflow.1
    obtain ⟨m, hm, hother⟩ := hother
    rw [List.mem_cons] at hm
    cases hm with
    | inl heq =>
      subst heq
      exact hother hpassage
    | inr hm => exact ih hflow.2 ⟨m, hm, hother⟩ hrest

theorem nestedBlockParent_iff_reaches {i : Nat} (ht : t.Linked) :
    NestedBlockParent t i ↔ Reaches t (t.lineage i) := by
  constructor
  . intro h
    induction h with
    | controlFlow hflow => exact reaches_cons.mpr (.inl hflow)
    | passage hpassage hp _ _ ih =>
      rw [ht.lineage_eq hp]
      exact reaches_cons.mpr (.inr ⟨hpassage, ih⟩)
  . intro h
    obtain hflow | ⟨hpassage, hrest⟩ := reaches_cons.mp h
    . exact .controlFlow hflow
    . cases hp : t.parent? i with
      | none =>
        rw [Outline.ancestors_of_parent?_eq_none hp] at hrest
        exact absurd hrest not_reaches_nil
      | some p =>
        have hlt := ht.parent_lt hp
        rw [ht.ancestors_eq hp] at hrest
        have hmethod : t.kind p ≠ .methodDeclaration := by
          intro heq
          have hcases := reaches_cons.mp hrest
          rw [heq] at hcases
          revert hcases
          simp [controlFlowKinds, passageKinds]
        exact .passage hpassage hp hmethod ((nestedBlockParent_iff_reaches ht).mpr hrest)
termination_by i

theorem nestedBlock_applies_iff (ht : t.Linked) :
    nestedBlock.applies t i = true ↔ isContainer (t.kind i) = true ∧ Reaches t (t.ancestors i) := by
  rw [nestedBlock_applies]
  cases hp : t.parent? i with
  | none => simp [Outline.ancestors_of_parent?_eq_none hp, not_reaches_nil]
  | some p => rw [Option.any_some, isNestedBlockParent_iff ht, nestedBlockParent_iff_reaches ht, ht.ancestors_eq hp]

/--
The climb ends at every node, with the one answer that the recursive definition has. The rule applies to a block, an
arrow clause or an expression that has control flow above it and nothing but blocks and arrow clauses in between, so a
method in between keeps it from applying.
-/
theorem nestedBlock_means {t : Outline} (ht : t.Built) (i : Nat) :
    (∀ answer, Climbs t i answer ↔ isNestedBlockParent t i = answer) ∧
    (isNestedBlockParent t i = true ↔ NestedBlockParent t i) ∧
    (nestedBlock.applies t i = true ↔ (t.kind i ∈ passageKinds ∨ (t.kind i).isExpression = true) ∧
      ∃ between a above, t.ancestors i = between ++ a :: above ∧ t.kind a ∈ controlFlowKinds ∧
        ∀ b ∈ between, t.kind b ∈ passageKinds) ∧
    ∀ between a above, t.ancestors i = between ++ a :: above → t.kind a ∈ controlFlowKinds →
      (∀ b ∈ between, t.kind b ∉ controlFlowKinds) → (∃ m ∈ between, t.kind m = .methodDeclaration) →
      nestedBlock.applies t i = false := by
  have hlinked := ht.wellFormed.toLinked
  have happlies := nestedBlock_applies_iff (i := i) hlinked
  refine ⟨?_, isNestedBlockParent_iff hlinked, ?_, ?_⟩
  . intro answer
    constructor
    . exact (climbs_isNestedBlockParent hlinked).unique
    . intro heq
      rw [← heq]
      exact climbs_isNestedBlockParent hlinked
  . rw [happlies, isContainer_iff]
    rfl
  . intro between a above hancestors _ hflow hmethod
    obtain ⟨m, hm, hkind⟩ := hmethod
    rw [Bool.eq_false_iff, ne_eq, happlies, hancestors]
    intro h
    refine not_reaches_append hflow ⟨m, hm, ?_⟩ h.2
    rw [hkind]
    decide

/-- Makes an `if` whose block has an arrow clause in it, and a method with a block of its own. -/
def openBlocks : List Builder.Call := [
  .openLabel { kind := .ifStatement },
  .openLabel { kind := .block },
  .openLabel { kind := .arrowExpressionClause },
  .openLabel { kind := .identifierName }, .closeNode, .closeNode,
  .openLabel { kind := .methodDeclaration },
  .openLabel { kind := .block }, .closeNode, .closeNode, .closeNode, .closeNode]

def blocksInIf : Outline :=
  ((Builder.new "" none).calls openBlocks).outline

theorem nestedBlock_blocksInIf :
    Climbs blocksInIf 2 true ∧ Climbs blocksInIf 4 false ∧ nestedBlock.applies blocksInIf 3 = true ∧
      nestedBlock.applies blocksInIf 5 = false := by
  have ht : blocksInIf.Built := ⟨"", none, openBlocks, rfl⟩
  have hthree : blocksInIf.ancestors 3 = [2, 1] ++ 0 :: [] := by decide +kernel
  have hfive : blocksInIf.ancestors 5 = [4, 1] ++ 0 :: [] := by decide +kernel
  refine ⟨?_, ?_, ?_, ?_⟩
  . exact ((nestedBlock_means ht 2).1 true).mpr (by decide +kernel)
  . exact ((nestedBlock_means ht 4).1 false).mpr (by decide +kernel)
  . exact (nestedBlock_means ht 3).2.2.1.mpr
      ⟨by decide +kernel, [2, 1], 0, [], hthree, by decide +kernel, by decide +kernel⟩
  . exact (nestedBlock_means ht 5).2.2.2 [4, 1] 0 [] hfive (by decide +kernel) (by decide +kernel) (by decide +kernel)

end Rule
end StructuralSearch
