import StructuralSearch.Proofs.Virtual.NestedBlock

/-!
This module contains what the standard rules make of single nodes. A rule makes a virtual node exactly where it
applies. Elsewhere it says whether the kind of the node was wrong from the start, and nothing else can go wrong.
-/

namespace StructuralSearch

/-- The parts of a virtual node beside its origin: a child of the origin that has a certain kind, or its parent. -/
def VirtualNode.Holds (t : Outline) : VirtualNode → Prop
  | .methodBody method body => body ∈ t.children method ∧ t.kind body ∈ Rule.passageKinds
  | .nestedBlock _ => True
  | .autoProperty property accessors => accessors ∈ t.children property ∧ t.kind accessors = .accessorList
  | .readOnlyProperty property arrow => arrow ∈ t.children property ∧ t.kind arrow = .arrowExpressionClause
  | .tryBody tryStatement block => t.parent? block = some tryStatement ∧ t.kind tryStatement = .tryStatement
  | .ifCondition ifStatement condition => t.parent? condition = some ifStatement ∧ t.kind ifStatement = .ifStatement
  | .ifBody ifStatement statement => t.parent? statement = some ifStatement ∧ t.kind ifStatement = .ifStatement
  | .elseBody elseClause statement => t.parent? statement = some elseClause ∧ t.kind elseClause = .elseClause

theorem VirtualNode.Holds.base {t : Outline} {v : VirtualNode} (h : v.Holds t) :
    v.base = v.origin ∨ v.base ∈ t.children v.origin := by
  cases v with
  | methodBody | readOnlyProperty => exact .inr h.1
  | nestedBlock | autoProperty | tryBody | ifCondition | ifBody | elseBody => exact .inl rfl

namespace Rule

variable {t : Outline} {i : Nat} {r : Rule}

/-- The kinds of nodes that the standard rule of a kind can be for at all. -/
def suits : VirtualKind → NodeKind → Bool
  | .methodBody => fun k => k == .methodDeclaration
  | .autoProperty | .readOnlyProperty => fun k => k == .propertyDeclaration
  | .tryBody => fun k => k == .block
  | .ifCondition => fun k => k.isExpression
  | .ifBody | .elseBody => fun k => k.isStatement
  | .nestedBlock => fun k => k == .block || k == .arrowExpressionClause || k.isExpression
  | .empty => fun _ => false

/-- The same in the words of messages. -/
def expectation : VirtualKind → String
  | .methodBody => "a method declaration"
  | .autoProperty | .readOnlyProperty => "a property declaration"
  | .tryBody => "a block"
  | .ifCondition => "an expression"
  | .ifBody | .elseBody => "a statement"
  | .nestedBlock => "a block, arrow clause or expression"
  | .empty => ""

/-- What a rule answers for a node that it does not apply to. -/
def refusal (kind : VirtualKind) (t : Outline) (i : Nat) : Error :=
  if suits kind (t.kind i) then
    .invalidArgument (.inapplicable kind (t.describe i))
  else
    .synthesisMisuse kind (expectation kind) (t.kind i)

theorem checked_refuses {kind : VirtualKind} {competition : Competition} {applies : Outline → Nat → Bool}
    {assemble : Outline → Nat → Except InvalidArgument VirtualNode} (h : applies t i = false) :
    (checked kind competition (expectation kind) (suits kind) applies assemble).synthesize t i
      = .error (refusal kind t i) := by
  unfold checked refusal
  dsimp only
  cases hsuits : suits kind (t.kind i) with
  | true => simp [h]
  | false => simp

theorem synthesize_of_not_applies (hr : r ∈ standard) (h : r.applies t i = false) :
    r.synthesize t i = .error (refusal r.kind t i) := by
  simp only [standard, List.mem_cons, List.not_mem_nil, or_false] at hr
  rcases hr with rfl | rfl | rfl | rfl | rfl | rfl | rfl | rfl <;> exact checked_refuses h

theorem suits_of_applies (hr : r ∈ standard) (h : r.applies t i = true) : suits r.kind (t.kind i) = true := by
  simp only [standard, List.mem_cons, List.not_mem_nil, or_false] at hr
  rcases hr with rfl | rfl | rfl | rfl | rfl | rfl | rfl | rfl
  . exact beq_iff_eq.mpr (methodBody_applies.mp h).1
  . exact beq_iff_eq.mpr (autoProperty_applies.mp h).1
  . exact beq_iff_eq.mpr (readOnlyProperty_applies.mp h).1
  . exact beq_iff_eq.mpr (tryBody_applies.mp h).1
  . exact (ifCondition_applies.mp h).1
  . exact (ifBody_applies.mp h).1
  . exact (elseBody_applies.mp h).1
  . exact (nestedBlock_applies.mp h).1

theorem firstChildOfKind?_eq_some {kind : NodeKind} {c : Nat} (h : t.firstChildOfKind? i kind = some c) :
    c ∈ t.children i ∧ t.kind c = kind := by
  unfold Outline.firstChildOfKind? at h
  have hkind := List.find?_some h
  exact ⟨List.mem_of_find?_eq_some h, beq_iff_eq.mp hkind⟩

theorem bodyOf?_eq_some {b : Nat} (h : bodyOf? t i = some b) : b ∈ t.children i ∧ t.kind b ∈ passageKinds := by
  unfold bodyOf? at h
  have hkind := List.find?_some h
  exact ⟨List.mem_of_find?_eq_some h, by simpa [passageKinds] using hkind⟩

/-- The search for a part of the virtual node finds one wherever the rule applies. -/
theorem synthesize_of_applies (hr : r ∈ standard) (h : r.applies t i = true) :
    ∃ v, r.synthesize t i = .ok v ∧ v.kind = r.kind ∧ v.origin = i ∧ v.Holds t := by
  have hparent : ∀ {p k}, t.parent? i = some p → t.parentKind? i = some k → t.kind p = k := by
    intro p k hp hk
    obtain ⟨q, hq, hkind⟩ := exists_parent_of_parentKind? hk
    rw [hp, Option.some.injEq] at hq
    rw [hq, hkind]
  simp only [standard, List.mem_cons, List.not_mem_nil, or_false] at hr
  rcases hr with rfl | rfl | rfl | rfl | rfl | rfl | rfl | rfl
  . obtain ⟨b, hb, hv⟩ := methodBody_synthesize h
    exact ⟨_, hv, rfl, rfl, bodyOf?_eq_some hb⟩
  . obtain ⟨l, hl, hv⟩ := autoProperty_synthesize h
    exact ⟨_, hv, rfl, rfl, firstChildOfKind?_eq_some hl⟩
  . obtain ⟨a, ha, hv⟩ := readOnlyProperty_synthesize h
    exact ⟨_, hv, rfl, rfl, firstChildOfKind?_eq_some ha⟩
  . obtain ⟨p, hp, hv⟩ := tryBody_synthesize h
    exact ⟨_, hv, rfl, rfl, hp, hparent hp (tryBody_applies.mp h).2⟩
  . obtain ⟨p, hp, hv⟩ := ifCondition_synthesize h
    exact ⟨_, hv, rfl, rfl, hp, hparent hp (ifCondition_applies.mp h).2⟩
  . obtain ⟨p, hp, hv⟩ := ifBody_synthesize h
    exact ⟨_, hv, rfl, rfl, hp, hparent hp (ifBody_applies.mp h).2.2⟩
  . obtain ⟨p, hp, hv⟩ := elseBody_synthesize h
    exact ⟨_, hv, rfl, rfl, hp, hparent hp (elseBody_applies.mp h).2⟩
  . exact ⟨_, nestedBlock_synthesize h, rfl, rfl, trivial⟩

/--
A standard rule makes a virtual node exactly where it applies. It reports misuse exactly for nodes of a kind that it
cannot be for, and refuses as inapplicable all others that it does not apply to: a part of the virtual node is never
missing. The virtual node has the kind of the rule and the node for its origin, and its parts are where they should be.
-/
theorem synthesize_standard (t : Outline) (i : Nat) {r : Rule} (hr : r ∈ standard) :
    ((∃ v, r.synthesize t i = .ok v) ↔ r.applies t i = true) ∧
    (∀ rule expected actual, r.synthesize t i = .error (.synthesisMisuse rule expected actual) ↔
      suits r.kind (t.kind i) = false ∧ rule = r.kind ∧ expected = expectation r.kind ∧ actual = t.kind i) ∧
    (∀ cause, r.synthesize t i = .error (.invalidArgument cause) ↔
      suits r.kind (t.kind i) = true ∧ r.applies t i = false ∧ cause = .inapplicable r.kind (t.describe i)) ∧
    ∀ v, r.synthesize t i = .ok v →
      v.kind = r.kind ∧ v.origin = i ∧ (v.base = i ∨ v.base ∈ t.children i) ∧ v.Holds t := by
  cases happlies : r.applies t i with
  | true =>
    obtain ⟨v, hv, hkind, horigin, hholds⟩ := synthesize_of_applies hr happlies
    have hbase := hholds.base
    rw [horigin] at hbase
    simp [hv, suits_of_applies hr happlies, hkind, horigin, hbase, hholds]
  | false =>
    rw [synthesize_of_not_applies hr happlies]
    unfold refusal
    cases hsuits : suits r.kind (t.kind i) with
    | true => simp [eq_comm]
    | false => simp [eq_comm]

/-- Makes a class of two methods, the second of which has no body. -/
def openMethods : List Builder.Call := [
  .openLabel { kind := .classDeclaration },
  .openLabel { kind := .methodDeclaration },
  .openLabel { kind := .block }, .closeNode, .closeNode,
  .openLabel { kind := .methodDeclaration }, .closeNode, .closeNode]

def twoMethods : Outline :=
  ((Builder.new "" none).calls openMethods).outline

theorem synthesize_twoMethods :
    (∃ v, methodBody.synthesize twoMethods 1 = .ok v) ∧
      methodBody.synthesize twoMethods 3
        = .error (.invalidArgument (.inapplicable .methodBody "MethodDeclaration#3@0:0-0:0")) ∧
      methodBody.synthesize twoMethods 0
        = .error (.synthesisMisuse .methodBody "a method declaration" .classDeclaration) := by
  have hr : methodBody ∈ standard := List.mem_cons_self
  refine ⟨?_, ?_, ?_⟩
  . exact (synthesize_standard twoMethods 1 hr).1.mpr (by decide +kernel)
  . exact ((synthesize_standard twoMethods 3 hr).2.2.1 _).mpr (by decide +kernel)
  . exact ((synthesize_standard twoMethods 0 hr).2.1 _ _ _).mpr (by decide +kernel)

end Rule
end StructuralSearch
