import StructuralSearch.Virtual.Registry

/-!
This module contains the routing by the standard rules. At most one of the rules that compete for a node applies to it,
apart from the rule for nested blocks, which gives way to all others. So a node is never in dispute.
-/

namespace StructuralSearch
namespace Rule

variable {t : Outline} {i : Nat}

/-- The standard rules that replace a node and need not give way. -/
def specific : List Rule := [
  autoProperty, readOnlyProperty, tryBody, ifCondition, ifBody, elseBody]

theorem standard_eq : standard = methodBody :: (specific ++ [nestedBlock]) :=
  rfl

section Applies

theorem methodBody_applies :
    methodBody.applies t i = true ↔ t.kind i = .methodDeclaration ∧ (bodyOf? t i).isSome = true := by
  simp [methodBody, checked]

theorem autoProperty_applies :
    autoProperty.applies t i = true ↔
      t.kind i = .propertyDeclaration ∧ (t.firstChildOfKind? i .accessorList).any (hasBareAccessors t) = true := by
  simp [autoProperty, checked]

theorem readOnlyProperty_applies :
    readOnlyProperty.applies t i = true ↔
      t.kind i = .propertyDeclaration ∧ t.hasChildOfKind i .arrowExpressionClause = true
        ∧ t.hasChildOfKind i .accessorList = false := by
  simp [readOnlyProperty, checked, and_assoc]

theorem tryBody_applies :
    tryBody.applies t i = true ↔ t.kind i = .block ∧ t.parentKind? i = some .tryStatement := by
  simp [tryBody, checked]

theorem ifCondition_applies :
    ifCondition.applies t i = true ↔ (t.kind i).isExpression = true ∧ t.parentKind? i = some .ifStatement := by
  simp [ifCondition, checked]

theorem ifBody_applies :
    ifBody.applies t i = true ↔
      (t.kind i).isStatement = true ∧ (t.node i).role ≠ some .alternative
        ∧ t.parentKind? i = some .ifStatement := by
  simp [ifBody, checked, and_assoc]

theorem elseBody_applies :
    elseBody.applies t i = true ↔ (t.kind i).isStatement = true ∧ t.parentKind? i = some .elseClause := by
  simp [elseBody, checked]

theorem nestedBlock_applies :
    nestedBlock.applies t i = true ↔
      isContainer (t.kind i) = true ∧ (t.parent? i).any (isNestedBlockParent t) = true := by
  simp [nestedBlock, checked]

end Applies

theorem firstChildOfKind?_isSome {kind : NodeKind} :
    (t.firstChildOfKind? i kind).isSome = t.hasChildOfKind i kind := by
  unfold Outline.firstChildOfKind? Outline.hasChildOfKind
  rw [List.isSome_find?]

theorem isStatement_of_isExpression {k : NodeKind} (h : k.isExpression = true) : k.isStatement = false := by
  cases k <;> first | rfl | cases h

/-- Which of these rules a node can be for. That shows in its kind, in the kind of its parent and in its accessors. -/
def siteKind (t : Outline) (i : Nat) : VirtualKind :=
  if t.kind i = .propertyDeclaration then
    if t.hasChildOfKind i .accessorList then .autoProperty else .readOnlyProperty
  else
    match t.parentKind? i with
    | some .tryStatement => .tryBody
    | some .ifStatement => if (t.kind i).isExpression then .ifCondition else .ifBody
    | some .elseClause => .elseBody
    | _ => .empty

theorem ne_property_of_isStatement {k : NodeKind} (h : k.isStatement = true) : k ≠ .propertyDeclaration := by
  intro heq
  subst heq
  cases h

theorem ne_property_of_isExpression {k : NodeKind} (h : k.isExpression = true) : k ≠ .propertyDeclaration := by
  intro heq
  subst heq
  cases h

theorem siteKind_of_applies {r : Rule} (hr : r ∈ specific) (h : r.applies t i = true) : siteKind t i = r.kind := by
  unfold siteKind
  simp only [specific, List.mem_cons, List.not_mem_nil, or_false] at hr
  rcases hr with rfl | rfl | rfl | rfl | rfl | rfl
  . rw [autoProperty_applies] at h
    rw [if_pos h.1, ← firstChildOfKind?_isSome]
    cases hfirst : t.firstChildOfKind? i .accessorList with
    | none => simp [hfirst] at h
    | some l => rfl
  . rw [readOnlyProperty_applies] at h
    rw [if_pos h.1, h.2.2]
    rfl
  . rw [tryBody_applies] at h
    rw [if_neg (by simp [h.1]), h.2]
    rfl
  . rw [ifCondition_applies] at h
    rw [if_neg (ne_property_of_isExpression h.1), h.2]
    simp only [h.1]
    rfl
  . rw [ifBody_applies] at h
    rw [if_neg (ne_property_of_isStatement h.1), h.2.2]
    have hexpr : (t.kind i).isExpression = false := by
      rw [Bool.eq_false_iff]
      intro hexpr
      rw [isStatement_of_isExpression hexpr] at h
      cases h.1
    simp only [hexpr]
    rfl
  . rw [elseBody_applies] at h
    rw [if_neg (ne_property_of_isStatement h.1), h.2]
    rfl

theorem specific_pairwise (t : Outline) (i : Nat) :
    specific.Pairwise fun r s => r.applies t i = true → s.applies t i = false := by
  -- Each rule is for a site of its own.
  have hkinds : specific.Pairwise fun r s => r.kind ≠ s.kind := by
    rw [← List.pairwise_map]
    decide
  refine hkinds.imp_of_mem ?_
  intro r s hr hs hne happlies
  rw [Bool.eq_false_iff]
  intro happlies'
  apply hne
  rw [← siteKind_of_applies hr happlies, siteKind_of_applies hs happlies']

section Synthesize

theorem checked_synthesize {kind : VirtualKind} {competition : Competition} {expected : String}
    {compatible : NodeKind → Bool} {applies : Outline → Nat → Bool}
    {assemble : Outline → Nat → Except InvalidArgument VirtualNode} {v : VirtualNode}
    (hcompatible : compatible (t.kind i) = true) (happlies : applies t i = true) (hv : assemble t i = .ok v) :
    (checked kind competition expected compatible applies assemble).synthesize t i = .ok v := by
  unfold checked
  dsimp only
  rw [hcompatible, happlies, hv]
  rfl

theorem exists_parent_of_parentKind? {k : NodeKind} (h : t.parentKind? i = some k) :
    ∃ p, t.parent? i = some p ∧ t.kind p = k := by
  unfold Outline.parentKind? at h
  rw [Option.map_eq_some_iff] at h
  exact h

theorem methodBody_synthesize (h : methodBody.applies t i = true) :
    ∃ b, bodyOf? t i = some b ∧ methodBody.synthesize t i = .ok (.methodBody i b) := by
  have happlies := methodBody_applies.mp h
  obtain ⟨b, hb⟩ := Option.isSome_iff_exists.mp happlies.2
  refine ⟨b, hb, checked_synthesize ?_ h ?_⟩
  . simp [happlies.1]
  . simp [hb, part, Except.map]

theorem autoProperty_synthesize (h : autoProperty.applies t i = true) :
    ∃ l, t.firstChildOfKind? i .accessorList = some l ∧ autoProperty.synthesize t i = .ok (.autoProperty i l) := by
  have happlies := autoProperty_applies.mp h
  cases hl : t.firstChildOfKind? i .accessorList with
  | none => simp [hl] at happlies
  | some l =>
    refine ⟨l, rfl, checked_synthesize ?_ h ?_⟩
    . simp [happlies.1]
    . simp [hl, part, Except.map]

theorem readOnlyProperty_synthesize (h : readOnlyProperty.applies t i = true) :
    ∃ a, t.firstChildOfKind? i .arrowExpressionClause = some a
      ∧ readOnlyProperty.synthesize t i = .ok (.readOnlyProperty i a) := by
  have happlies := readOnlyProperty_applies.mp h
  rw [← firstChildOfKind?_isSome, Option.isSome_iff_exists] at happlies
  obtain ⟨hkind, ⟨a, ha⟩, _⟩ := happlies
  refine ⟨a, ha, checked_synthesize ?_ h ?_⟩
  . simp [hkind]
  . simp [ha, part, Except.map]

theorem tryBody_synthesize (h : tryBody.applies t i = true) :
    ∃ p, t.parent? i = some p ∧ tryBody.synthesize t i = .ok (.tryBody p i) := by
  have happlies := tryBody_applies.mp h
  obtain ⟨p, hp, _⟩ := exists_parent_of_parentKind? happlies.2
  refine ⟨p, hp, checked_synthesize ?_ h ?_⟩
  . simp [happlies.1]
  . simp [hp, part, Except.map]

theorem ifCondition_synthesize (h : ifCondition.applies t i = true) :
    ∃ p, t.parent? i = some p ∧ ifCondition.synthesize t i = .ok (.ifCondition p i) := by
  have happlies := ifCondition_applies.mp h
  obtain ⟨p, hp, _⟩ := exists_parent_of_parentKind? happlies.2
  refine ⟨p, hp, checked_synthesize happlies.1 h ?_⟩
  simp [hp, part, Except.map]

theorem ifBody_synthesize (h : ifBody.applies t i = true) :
    ∃ p, t.parent? i = some p ∧ ifBody.synthesize t i = .ok (.ifBody p i) := by
  have happlies := ifBody_applies.mp h
  obtain ⟨p, hp, _⟩ := exists_parent_of_parentKind? happlies.2.2
  refine ⟨p, hp, checked_synthesize happlies.1 h ?_⟩
  simp [hp, part, Except.map]

theorem elseBody_synthesize (h : elseBody.applies t i = true) :
    ∃ p, t.parent? i = some p ∧ elseBody.synthesize t i = .ok (.elseBody p i) := by
  have happlies := elseBody_applies.mp h
  obtain ⟨p, hp, _⟩ := exists_parent_of_parentKind? happlies.2
  refine ⟨p, hp, checked_synthesize happlies.1 h ?_⟩
  simp [hp, part, Except.map]

theorem nestedBlock_synthesize (h : nestedBlock.applies t i = true) :
    nestedBlock.synthesize t i = .ok (.nestedBlock i) :=
  checked_synthesize (nestedBlock_applies.mp h).1 h rfl

theorem exists_synthesize {r : Rule} (hr : r ∈ specific ++ [nestedBlock]) (h : r.applies t i = true) :
    ∃ v, r.synthesize t i = .ok v ∧ v.kind = r.kind ∧ v.origin = i ∧ v.anchor = i := by
  simp only [specific, List.cons_append, List.nil_append, List.mem_cons, List.not_mem_nil, or_false] at hr
  rcases hr with rfl | rfl | rfl | rfl | rfl | rfl | rfl
  . obtain ⟨l, _, hv⟩ := autoProperty_synthesize h
    exact ⟨_, hv, rfl, rfl, rfl⟩
  . obtain ⟨a, _, hv⟩ := readOnlyProperty_synthesize h
    exact ⟨_, hv, rfl, rfl, rfl⟩
  . obtain ⟨p, _, hv⟩ := tryBody_synthesize h
    exact ⟨_, hv, rfl, rfl, rfl⟩
  . obtain ⟨p, _, hv⟩ := ifCondition_synthesize h
    exact ⟨_, hv, rfl, rfl, rfl⟩
  . obtain ⟨p, _, hv⟩ := ifBody_synthesize h
    exact ⟨_, hv, rfl, rfl, rfl⟩
  . obtain ⟨p, _, hv⟩ := elseBody_synthesize h
    exact ⟨_, hv, rfl, rfl, rfl⟩
  . exact ⟨_, nestedBlock_synthesize h, rfl, rfl, rfl⟩

end Synthesize

section Winner

theorem filter_eq_toList_find? {α : Type} {p : α → Bool} {xs : List α}
    (h : xs.Pairwise fun x y => p x = true → p y = false) : xs.filter p = (xs.find? p).toList := by
  induction xs with
  | nil => rfl
  | cons x xs ih =>
    rw [List.pairwise_cons] at h
    rw [List.filter_cons, List.find?_cons]
    cases hx : p x with
    | true =>
      have hnil : xs.filter p = [] := by
        rw [List.filter_eq_nil_iff]
        intro y hy
        simp [h.1 y hy hx]
      simp [hnil]
    | false => simpa using ih h.2

theorem competition_of_nestedBlock {r : Rule} (hr : r ∈ specific) (h : r.applies t i = true)
    (hnested : nestedBlock.applies t i = true) : r.competition = controlFlow := by
  -- A property is no place for a nested block, and all other rules override that one.
  have hcontainer := (nestedBlock_applies.mp hnested).1
  simp only [specific, List.mem_cons, List.not_mem_nil, or_false] at hr
  rcases hr with rfl | rfl | rfl | rfl | rfl | rfl
  . rw [(autoProperty_applies.mp h).1] at hcontainer
    cases hcontainer
  . rw [(readOnlyProperty_applies.mp h).1] at hcontainer
    cases hcontainer
  . rfl
  . rfl
  . rfl
  . rfl

theorem kind_of_mem_specific {r : Rule} (hr : r ∈ specific) : r.kind ∉ [.empty, .methodBody, .nestedBlock] := by
  simp only [specific, List.mem_cons, List.not_mem_nil, or_false] at hr
  rcases hr with rfl | rfl | rfl | rfl | rfl | rfl <;> decide

theorem kind_ne_methodBody {r : Rule} (hr : r ∈ specific ++ [nestedBlock]) : r.kind ≠ .methodBody := by
  simp only [specific, List.cons_append, List.nil_append, List.mem_cons, List.not_mem_nil, or_false] at hr
  rcases hr with rfl | rfl | rfl | rfl | rfl | rfl | rfl <;> decide

theorem isOverridable_of_mem {r : Rule} (hr : r ∈ specific ++ [nestedBlock]) :
    r.competition.isOverridable = true := by
  simp only [specific, List.cons_append, List.nil_append, List.mem_cons, List.not_mem_nil, or_false] at hr
  rcases hr with rfl | rfl | rfl | rfl | rfl | rfl | rfl <;> rfl

/-- Nodes of these kinds may be replaced. -/
def isReplaceable (k : NodeKind) : Bool :=
  k == .propertyDeclaration || k.isStatement || isContainer k

theorem isReplaceable_of_applies {r : Rule} (hr : r ∈ specific ++ [nestedBlock]) (h : r.applies t i = true) :
    isReplaceable (t.kind i) = true := by
  unfold isReplaceable
  simp only [specific, List.cons_append, List.nil_append, List.mem_cons, List.not_mem_nil, or_false] at hr
  rcases hr with rfl | rfl | rfl | rfl | rfl | rfl | rfl
  . simp [(autoProperty_applies.mp h).1]
  . simp [(readOnlyProperty_applies.mp h).1]
  . simp [(tryBody_applies.mp h).1, isContainer]
  . simp [(ifCondition_applies.mp h).1, isContainer]
  . simp [(ifBody_applies.mp h).1]
  . simp [(elseBody_applies.mp h).1]
  . simp [(nestedBlock_applies.mp h).1]

theorem not_applies_of_method {r : Rule} (hr : r ∈ specific ++ [nestedBlock]) (h : t.kind i = .methodDeclaration) :
    r.applies t i = false := by
  rw [Bool.eq_false_iff]
  intro happlies
  have hkind := isReplaceable_of_applies hr happlies
  rw [h] at hkind
  cases hkind

end Winner

end Rule

namespace Registry

open Rule

variable {t : Outline} {i : Nat}

theorem filter_applies (t : Outline) (i : Nat) :
    (specific ++ [nestedBlock]).filter (·.applies t i) =
      (specific.find? (·.applies t i)).toList ++ [nestedBlock].filter (·.applies t i) := by
  rw [List.filter_append, filter_eq_toList_find? (specific_pairwise t i)]

theorem winner?_pair {node : NodeKind} {r : Rule} (hr : r ∈ specific) (h : r.competition = controlFlow) :
    winner? node [r, nestedBlock] = .ok (some r) := by
  have hkind := kind_of_mem_specific hr
  simp only [List.mem_cons, List.not_mem_nil, or_false, not_or] at hkind
  obtain ⟨_, _, hnested⟩ := hkind
  have hself : isUndominated [r, nestedBlock] r = true := by
    simp [isUndominated, nestedBlock, checked, Competition.overrides]
  have hother : isUndominated [r, nestedBlock] nestedBlock = false := by
    simp [isUndominated, h, controlFlow, nestedBlock, checked, Competition.overrides, hnested]
  unfold winner?
  simp [hself, hother]

theorem winner?_standard (node : NodeKind) (t : Outline) (i : Nat) :
    winner? node ((specific ++ [nestedBlock]).filter (·.applies t i))
      = .ok ((specific ++ [nestedBlock]).find? (·.applies t i)) := by
  -- The rules are listed by precedence, and only the last one ever has a rival.
  rw [filter_applies, List.find?_append]
  cases hfind : specific.find? (·.applies t i) with
  | none =>
    rw [List.filter_cons, List.find?_cons]
    cases nestedBlock.applies t i with
    | true => rfl
    | false => rfl
  | some r =>
    have hmem : r ∈ specific := List.mem_of_find?_eq_some hfind
    have happlies : r.applies t i = true := by simpa using List.find?_some hfind
    rw [List.filter_cons]
    cases hnested : nestedBlock.applies t i with
    | true => exact winner?_pair hmem (competition_of_nestedBlock hmem happlies hnested)
    | false => rfl

theorem fixedNodes_of_isOverridable {rs : List Rule} (h : ∀ r ∈ rs, r.competition.isOverridable = true) :
    fixedNodes t i rs = .ok [] := by
  induction rs with
  | nil => rfl
  | cons r rs ih =>
    have hr := h r List.mem_cons_self
    unfold fixedNodes
    split
    . apply ih
      intro s hs
      exact h s (List.mem_cons_of_mem r hs)
    . next heq =>
      rw [heq] at hr
      cases hr

theorem resolve_of_method (h : methodBody.applies t i = true) :
    ∃ b, bodyOf? t i = some b ∧ standard.resolve t i = .ok [⟨.after, .methodBody i b⟩] := by
  obtain ⟨b, hb, hv⟩ := methodBody_synthesize h
  have hnil : (specific ++ [nestedBlock]).filter (·.applies t i) = [] := by
    rw [List.filter_eq_nil_iff]
    intro r hr
    simp [not_applies_of_method hr (methodBody_applies.mp h).1]
  refine ⟨b, hb, ?_⟩
  unfold resolve standard
  simp only
  rw [standard_eq, List.filter_cons, hnil, if_pos h]
  simp only [fixedNodes, methodBody, checked]
  simp only [methodBody, checked] at hv
  rw [hv]
  rfl

theorem resolve_of_not_method (h : methodBody.applies t i = false) :
    (specific ++ [nestedBlock]).find? (·.applies t i) = none ∧ standard.resolve t i = .ok [] ∨
    ∃ r v, (specific ++ [nestedBlock]).find? (·.applies t i) = some r ∧ r.synthesize t i = .ok v ∧
      standard.resolve t i = .ok [⟨.replacing, v⟩] := by
  have happlicants : (Rule.standard.filter fun r => r.applies t i) =
      (specific ++ [nestedBlock]).filter (·.applies t i) := by
    rw [standard_eq, List.filter_cons, h]
    rfl
  have hoverridable : ∀ r ∈ (specific ++ [nestedBlock]).filter (·.applies t i),
      r.competition.isOverridable = true := by
    intro r hr
    exact isOverridable_of_mem (List.mem_filter.mp hr).1
  have hwinner := winner?_standard (t.kind i) t i
  unfold resolve standard
  dsimp only
  rw [happlicants, fixedNodes_of_isOverridable hoverridable, List.filter_eq_self.mpr hoverridable, hwinner]
  cases hfind : (specific ++ [nestedBlock]).find? (·.applies t i) with
  | none => exact .inl ⟨rfl, rfl⟩
  | some r =>
    have happlies : r.applies t i = true := by simpa using List.find?_some hfind
    obtain ⟨v, hv, _⟩ := exists_synthesize (List.mem_of_find?_eq_some hfind) happlies
    refine .inr ⟨r, v, rfl, hv, ?_⟩
    dsimp only [bind, Except.bind]
    rw [hv]
    rfl

theorem resolve_of_not_isReplaceable (hmethod : t.kind i ≠ .methodDeclaration)
    (h : isReplaceable (t.kind i) = false) : standard.resolve t i = .ok [] := by
  have hno : methodBody.applies t i = false := by
    rw [Bool.eq_false_iff]
    intro happlies
    exact hmethod (methodBody_applies.mp happlies).1
  obtain ⟨_, hresolve⟩ | ⟨r, _, hfind, _⟩ := resolve_of_not_method hno
  . exact hresolve
  . have happlies : r.applies t i = true := by simpa using List.find?_some hfind
    rw [isReplaceable_of_applies (List.mem_of_find?_eq_some hfind) happlies] at h
    cases h

/-- A method with a block or an arrow clause. -/
def hasBody (t : Outline) (i : Nat) : Bool :=
  t.kind i == .methodDeclaration && (t.hasChildOfKind i .block || t.hasChildOfKind i .arrowExpressionClause)

theorem methodBody_applies_eq (t : Outline) (i : Nat) : methodBody.applies t i = hasBody t i := by
  rw [Bool.eq_iff_iff, methodBody_applies]
  unfold hasBody bodyOf? Outline.hasChildOfKind
  simp only [List.find?_isSome, Bool.and_eq_true, beq_iff_eq, Bool.or_eq_true, List.any_eq_true]
  constructor
  . intro h
    obtain ⟨hkind, c, hc, hblock | harrow⟩ := h
    . exact ⟨hkind, .inl ⟨c, hc, hblock⟩⟩
    . exact ⟨hkind, .inr ⟨c, hc, harrow⟩⟩
  . intro h
    obtain ⟨hkind, ⟨c, hc, hblock⟩ | ⟨c, hc, harrow⟩⟩ := h
    . exact ⟨hkind, c, hc, .inl hblock⟩
    . exact ⟨hkind, c, hc, .inr harrow⟩

/-- What the standard rules make of a node. -/
structure StandardRouting (t : Outline) (i : Nat) (routed : List Routed) : Prop where
  length_le : routed.length ≤ 1
  origin_eq : ∀ r ∈ routed, r.node.origin = i
  inserted_iff : (∃ r ∈ routed, r.placement = .after ∧ r.node.kind = .methodBody) ↔ hasBody t i = true
  replacing : hasBody t i = false → ∀ r ∈ routed,
    r.placement = .replacing ∧ r.node.anchor = i ∧ r.node.kind ∈ (specific ++ [nestedBlock]).map Rule.kind
  specific_iff : ∀ rule ∈ specific, (∃ r ∈ routed, r.node.kind = rule.kind) ↔ rule.applies t i = true
  nestedBlock_iff : (∃ r ∈ routed, r.node.kind = .nestedBlock) ↔
    nestedBlock.applies t i = true ∧ ∀ rule ∈ specific, rule.applies t i = false

theorem standardRouting_of_method {b : Nat} (h : methodBody.applies t i = true) :
    StandardRouting t i [⟨.after, .methodBody i b⟩] where
  length_le := by simp
  origin_eq := by simp [VirtualNode.origin]
  inserted_iff := by
    rw [← methodBody_applies_eq, h]
    simp [VirtualNode.kind]
  replacing := by
    intro hno
    rw [← methodBody_applies_eq, h] at hno
    cases hno
  specific_iff := by
    intro rule hrule
    have hkind := kind_of_mem_specific hrule
    simp only [List.mem_cons, List.not_mem_nil, or_false, not_or] at hkind
    rw [not_applies_of_method (List.mem_append_left _ hrule) (methodBody_applies.mp h).1]
    simp [VirtualNode.kind, Ne.symm hkind.2.1]
  nestedBlock_iff := by
    rw [not_applies_of_method (by simp) (methodBody_applies.mp h).1]
    simp [VirtualNode.kind]

theorem standardRouting_of_none (h : methodBody.applies t i = false)
    (hfind : (specific ++ [nestedBlock]).find? (·.applies t i) = none) : StandardRouting t i [] := by
  have hnone : ∀ rule ∈ specific ++ [nestedBlock], rule.applies t i = false := by
    intro rule hrule
    simpa using List.find?_eq_none.mp hfind rule hrule
  rw [methodBody_applies_eq] at h
  refine ⟨by simp, by simp, by simp [h], by simp, ?_, ?_⟩
  . intro rule hrule
    simp [hnone rule (List.mem_append_left _ hrule)]
  . simp [hnone nestedBlock (by simp)]

theorem standard?_kind {r : Rule} (hr : r ∈ specific ++ [nestedBlock]) : Rule.standard? r.kind = some r := by
  simp only [specific, List.cons_append, List.nil_append, List.mem_cons, List.not_mem_nil, or_false] at hr
  rcases hr with rfl | rfl | rfl | rfl | rfl | rfl | rfl <;> rfl

theorem eq_of_kind_eq {r s : Rule} (hr : r ∈ specific ++ [nestedBlock]) (hs : s ∈ specific ++ [nestedBlock])
    (h : r.kind = s.kind) : r = s := by
  have heq := standard?_kind hr
  rw [h, standard?_kind hs] at heq
  exact (Option.some.inj heq).symm

/-- The node is a site of this rule only, so the first rule that applies is this one. -/
theorem find?_of_applies {r : Rule} (hr : r ∈ specific) (h : r.applies t i = true) :
    (specific ++ [nestedBlock]).find? (·.applies t i) = some r := by
  rw [List.find?_append]
  cases hspecific : specific.find? (·.applies t i) with
  | none => exact absurd h (List.find?_eq_none.mp hspecific r hr)
  | some s =>
    have hs : s ∈ specific := List.mem_of_find?_eq_some hspecific
    have happlies : s.applies t i = true := by simpa using List.find?_some hspecific
    have hkind : s.kind = r.kind := by rw [← siteKind_of_applies hs happlies, siteKind_of_applies hr h]
    rw [eq_of_kind_eq (List.mem_append_left _ hs) (List.mem_append_left _ hr) hkind]
    rfl

theorem standardRouting_of_some {r : Rule} {v : VirtualNode} (h : methodBody.applies t i = false)
    (hfind : (specific ++ [nestedBlock]).find? (·.applies t i) = some r) (hv : r.synthesize t i = .ok v) :
    StandardRouting t i [⟨.replacing, v⟩] := by
  have hmem : r ∈ specific ++ [nestedBlock] := List.mem_of_find?_eq_some hfind
  have happlies : r.applies t i = true := by simpa using List.find?_some hfind
  obtain ⟨hkind, horigin, hanchor⟩ : v.kind = r.kind ∧ v.origin = i ∧ v.anchor = i := by
    obtain ⟨w, hw, hfacts⟩ := exists_synthesize hmem happlies
    rw [hv] at hw
    cases hw
    exact hfacts
  rw [methodBody_applies_eq] at h
  have hkinds : v.kind ∈ (specific ++ [nestedBlock]).map Rule.kind := by
    rw [hkind]
    exact List.mem_map_of_mem hmem
  refine ⟨by simp, by simp [horigin], by simp [h], ?_, ?_, ?_⟩
  . intro _ r' hr'
    rw [List.mem_singleton] at hr'
    subst hr'
    exact ⟨rfl, hanchor, hkinds⟩
  . intro rule hrule
    simp only [List.mem_singleton, exists_eq_left, hkind]
    constructor
    . intro heq
      rw [← eq_of_kind_eq hmem (List.mem_append_left _ hrule) heq]
      exact happlies
    . intro hrapplies
      rw [find?_of_applies hrule hrapplies, Option.some.injEq] at hfind
      rw [hfind]
  . simp only [List.mem_singleton, exists_eq_left, hkind]
    rw [List.find?_append] at hfind
    cases hspecific : specific.find? (·.applies t i) with
    | none =>
      rw [hspecific] at hfind
      have hr : r = nestedBlock := by
        have := List.mem_of_find?_eq_some hfind
        simpa using this
      subst hr
      have hnone : ∀ rule ∈ specific, rule.applies t i = false := by
        intro rule hrule
        simpa using List.find?_eq_none.mp hspecific rule hrule
      exact ⟨fun _ => ⟨happlies, hnone⟩, fun _ => rfl⟩
    | some s =>
      rw [hspecific] at hfind
      cases hfind
      have hs : r ∈ specific := List.mem_of_find?_eq_some hspecific
      have hkinds := kind_of_mem_specific hs
      simp only [List.mem_cons, List.not_mem_nil, or_false, not_or] at hkinds
      constructor
      . intro heq
        exact absurd heq hkinds.2.2
      . intro hno
        rw [hno.2 r hs] at happlies
        cases happlies

theorem resolve_of_specific {r : Rule} {v : VirtualNode} (hr : r ∈ specific) (h : r.applies t i = true)
    (hv : r.synthesize t i = .ok v) : standard.resolve t i = .ok [⟨.replacing, v⟩] := by
  have hno : methodBody.applies t i = false := by
    rw [Bool.eq_false_iff]
    intro hmethod
    rw [not_applies_of_method (List.mem_append_left _ hr) (methodBody_applies.mp hmethod).1] at h
    cases h
  have hfind := find?_of_applies hr h
  cases resolve_of_not_method hno with
  | inl hnone =>
    rw [hfind] at hnone
    cases hnone.1
  | inr hsome =>
    obtain ⟨s, w, hfind', hw, hresolve⟩ := hsome
    rw [hfind, Option.some.injEq] at hfind'
    subst hfind'
    rw [hv] at hw
    cases hw
    exact hresolve

theorem exists_standardRouting (t : Outline) (i : Nat) :
    ∃ routed, standard.resolve t i = .ok routed ∧ StandardRouting t i routed := by
  cases h : methodBody.applies t i with
  | true =>
    obtain ⟨b, _, hresolve⟩ := resolve_of_method h
    exact ⟨_, hresolve, standardRouting_of_method h⟩
  | false =>
    cases resolve_of_not_method h with
    | inl hnone => exact ⟨_, hnone.2, standardRouting_of_none h hnone.1⟩
    | inr hsome =>
      obtain ⟨r, v, hfind, hv, hresolve⟩ := hsome
      exact ⟨_, hresolve, standardRouting_of_some h hfind hv⟩

end Registry
end StructuralSearch
