import StructuralSearch.Proofs.Walk.Innermost

/-!
This module contains which declarations a query about a point can pass over. What takes the place of a declaration
covers as much of the text as the declaration does, except that of a property with an arrow clause only the clause is
left.
-/

namespace StructuralSearch

namespace Outline

variable {t : Outline} {i : Nat}

/--
The part of a declaration that it answers for. A property with an arrow clause in place of accessors answers for the
clause, any other declaration for all of its text.
-/
def answeredSpan (t : Outline) (i : Nat) : Span :=
  if t.kind i = .propertyDeclaration ∧ t.hasChildOfKind i .accessorList = false then
    ((t.firstChildOfKind? i .arrowExpressionClause).map t.span).getD (t.span i)
  else
    t.span i

theorem answeredSpan_of_ne (h : t.kind i ≠ .propertyDeclaration) : t.answeredSpan i = t.span i := by
  unfold answeredSpan
  rw [if_neg (fun hproperty => h hproperty.1)]

theorem answeredSpan_within (hn : t.Nested) (i : Nat) : (t.answeredSpan i).Within (t.span i) := by
  unfold answeredSpan
  split
  . cases harrow : t.firstChildOfKind? i .arrowExpressionClause with
    | none => exact Span.Within.refl _
    | some a => exact hn.within i a (List.mem_of_find?_eq_some harrow)
  . exact Span.Within.refl _

end Outline

theorem TextSpan.isWithin_point {path : Option String} {p : Position} {e : Span} :
    (TextSpan.point path p).isWithin e = e.containsPoint p := by
  simp [isWithin, isPoint, point, Position.samePlace]

namespace Rule

variable {t : Outline} {i : Nat}

theorem answeredSpan_of_not_applies (h : readOnlyProperty.applies t i = false) : t.answeredSpan i = t.span i := by
  unfold Outline.answeredSpan
  split
  . next hproperty =>
    rw [Bool.eq_false_iff, ne_eq, readOnlyProperty_applies, ← firstChildOfKind?_isSome] at h
    cases harrow : t.firstChildOfKind? i .arrowExpressionClause with
    | none => rfl
    | some a => exact absurd ⟨hproperty.1, by rw [harrow]; rfl, hproperty.2⟩ h
  . rfl

theorem not_isExpression_of_knownTarget {k : NodeKind} (h : k ∈ Matcher.knownTargets) : k.isExpression = false := by
  revert k
  decide

theorem not_isContainer_of_knownTarget {k : NodeKind} (h : k ∈ Matcher.knownTargets) : isContainer k = false := by
  revert k
  decide

/-- Of what replaces a declaration, only an arrow property covers less than the declaration does. -/
theorem span_of_synthesize {r : Rule} {v : VirtualNode} (hr : r ∈ specific ++ [nestedBlock])
    (hkind : t.kind i ∈ Matcher.knownTargets) (h : r.applies t i = true) (hv : r.synthesize t i = .ok v) :
    v.span t = t.answeredSpan i := by
  simp only [specific, List.cons_append, List.nil_append, List.mem_cons, List.not_mem_nil, or_false] at hr
  rcases hr with rfl | rfl | rfl | rfl | rfl | rfl | rfl
  . obtain ⟨l, hl, hv'⟩ := autoProperty_synthesize h
    rw [hv] at hv'
    cases hv'
    have haccessors : t.hasChildOfKind i .accessorList = true := by
      rw [← firstChildOfKind?_isSome, hl]
      rfl
    unfold Outline.answeredSpan
    rw [if_neg (by simp [haccessors])]
    rfl
  . obtain ⟨a, ha, hv'⟩ := readOnlyProperty_synthesize h
    rw [hv] at hv'
    cases hv'
    have happlies := readOnlyProperty_applies.mp h
    unfold Outline.answeredSpan
    rw [if_pos ⟨happlies.1, happlies.2.2⟩, ha]
    rfl
  . rw [(tryBody_applies.mp h).1] at hkind
    cases not_isContainer_of_knownTarget hkind
  . rw [ifCondition_applies, not_isExpression_of_knownTarget hkind] at h
    cases h.1
  . obtain ⟨p, _, hv'⟩ := ifBody_synthesize h
    rw [hv] at hv'
    cases hv'
    exact (Outline.answeredSpan_of_ne (ne_property_of_isStatement (ifBody_applies.mp h).1)).symm
  . obtain ⟨p, _, hv'⟩ := elseBody_synthesize h
    rw [hv] at hv'
    cases hv'
    exact (Outline.answeredSpan_of_ne (ne_property_of_isStatement (elseBody_applies.mp h).1)).symm
  . rw [nestedBlock_applies, not_isContainer_of_knownTarget hkind] at h
    cases h.1

end Rule

namespace Walk

variable {q : Query} {t : Outline} {i n : Nat} {k : Candidate} {p : Position}

theorem span_candidate (hkind : t.kind i ∈ Matcher.knownTargets) :
    (candidate i (routedAt Registry.standard.resolve t i)).span t = t.answeredSpan i := by
  unfold routedAt
  cases hmethod : Rule.methodBody.applies t i with
  | true =>
    obtain ⟨b, _, hresolve⟩ := Registry.resolve_of_method hmethod
    rw [hresolve]
    have hne : t.kind i ≠ .propertyDeclaration := by
      rw [(Rule.methodBody_applies.mp hmethod).1]
      exact NodeKind.noConfusion
    exact (Outline.answeredSpan_of_ne hne).symm
  | false =>
    cases Registry.resolve_of_not_method hmethod with
    | inl hnone =>
      have hno := List.find?_eq_none.mp hnone.1 Rule.readOnlyProperty (by simp [Rule.specific])
      rw [hnone.2, Rule.answeredSpan_of_not_applies (Bool.eq_false_iff.mpr hno)]
      rfl
    | inr hsome =>
      obtain ⟨r, v, hfind, hv, hresolve⟩ := hsome
      have happlies : r.applies t i = true := by simpa using List.find?_some hfind
      rw [hresolve]
      exact Rule.span_of_synthesize (List.mem_of_find?_eq_some hfind) hkind happlies hv

/-- What is found at a node is its candidate, which is judged by the node, or the body of a method. -/
theorem cases_of_mem_findingsAt (h : k ∈ findingsAt q Registry.standard.resolve t i) :
    k = candidate i (routedAt Registry.standard.resolve t i) ∧ k.anchor = i ∨
      ∃ b, Rule.bodyOf? t i = some b ∧ k = .synthetic (.methodBody i b) := by
  have hoffered := (findings_sublist q t i _).subset h
  unfold routedAt at *
  cases hmethod : Rule.methodBody.applies t i with
  | true =>
    obtain ⟨b, hb, hresolve⟩ := Registry.resolve_of_method hmethod
    rw [hresolve] at hoffered ⊢
    have hpair : k ∈ [.real i, .synthetic (.methodBody i b)] := hoffered
    rw [List.mem_cons, List.mem_singleton] at hpair
    cases hpair with
    | inl hreal =>
      rw [hreal]
      exact .inl ⟨rfl, rfl⟩
    | inr hbody => exact .inr ⟨b, hb, hbody⟩
  | false =>
    left
    cases Registry.resolve_of_not_method hmethod with
    | inl hnone =>
      rw [hnone.2] at hoffered ⊢
      rw [List.mem_singleton.mp hoffered]
      exact ⟨rfl, rfl⟩
    | inr hsome =>
      obtain ⟨r, v, hfind, hv, hresolve⟩ := hsome
      have happlies : r.applies t i = true := by simpa using List.find?_some hfind
      obtain ⟨w, hw, _, _, hanchor⟩ := Rule.exists_synthesize (List.mem_of_find?_eq_some hfind) happlies
      rw [hv] at hw
      cases hw
      rw [hresolve] at hoffered ⊢
      rw [List.mem_singleton.mp hoffered]
      exact ⟨rfl, hanchor⟩

theorem mem_lineage_anchor (ht : t.Linked) (h : k ∈ findingsAt q Registry.standard.resolve t i) :
    i ∈ t.lineage k.anchor := by
  cases cases_of_mem_findingsAt h with
  | inl hown =>
    rw [hown.2]
    exact Outline.mem_lineage_self
  | inr hbody =>
    obtain ⟨b, hb, heq⟩ := hbody
    rw [heq, Outline.mem_lineage]
    exact .inr (ht.parent_mem_ancestors (ht.mem_children.mp (List.mem_of_find?_eq_some hb)))

theorem isAccepted_atPoint :
    (Query.atSpan (.point none p)).isAccepted t k = true ↔
      (k.isVirtual = true ∨ k.kind t ∈ Matcher.knownTargets) ∧ (k.span t).containsPoint p = true := by
  have hplace : (Query.atSpan (.point none p)).isInPlace t k = true := rfl
  unfold Query.isAccepted
  rw [hplace, accepts_atSpan, TextSpan.isWithin_point]
  simp [TextSpan.point]

theorem mem_findingsAt_candidate (hkind : t.kind n ∈ Matcher.knownTargets)
    (hp : (t.answeredSpan n).containsPoint p = true) :
    ∃ k, k ∈ findingsAt (Query.atSpan (.point none p)) Registry.standard.resolve t n := by
  have hspan := span_candidate hkind
  have haccepted : (Query.atSpan (.point none p)).isAccepted t
      (candidate n (routedAt Registry.standard.resolve t n)) = true := by
    rw [isAccepted_atPoint, hspan]
    refine ⟨?_, hp⟩
    unfold candidate
    split
    . exact .inr hkind
    . exact .inl rfl
  refine ⟨candidate n (routedAt Registry.standard.resolve t n), ?_⟩
  unfold findingsAt findings
  dsimp only
  rw [if_pos haccepted]
  simp

/-- If something is found at a node, the last match is found there or at a later node. -/
theorem exists_last {route : Router} (hn : n < t.size) (h : k ∈ findingsAt q route t n) :
    ∃ last i, ((List.range t.size).flatMap (findingsAt q route t)).getLast? = some last ∧
      n ≤ i ∧ i < t.size ∧ last ∈ findingsAt q route t i := by
  have hrange : List.range t.size = List.range n ++ (List.range (t.size - n)).map (n + ·) := by
    rw [← List.range_add, Nat.add_sub_cancel' (by omega)]
  have hk : k ∈ ((List.range (t.size - n)).map (n + ·)).flatMap (findingsAt q route t) := by
    rw [List.mem_flatMap]
    refine ⟨n, ?_, h⟩
    rw [List.mem_map]
    exact ⟨0, List.mem_range.mpr (by omega), rfl⟩
  have hne := List.ne_nil_of_mem hk
  have hlast := List.getLast?_eq_some_getLast hne
  obtain ⟨i, hi, hmem⟩ := List.mem_flatMap.mp (List.getLast_mem hne)
  rw [List.mem_map] at hi
  obtain ⟨d, hd, heq⟩ := hi
  rw [List.mem_range] at hd
  refine ⟨_, i, ?_, by omega, by omega, hmem⟩
  rw [hrange, List.flatMap_append, List.getLast?_append, hlast]
  rfl

theorem exists_innermost (ht : t.WellFormed) (hnest : t.Nested) (hn : n < t.size)
    (hkind : t.kind n ∈ Matcher.knownTargets) (hp : (t.answeredSpan n).containsPoint p = true) :
    ∃ k, innermost (Query.atSpan (.point none p)) Registry.standard.resolve t = .ok k ∧ n ∈ t.lineage k.anchor := by
  obtain ⟨k, hk⟩ := mem_findingsAt_candidate hkind hp
  obtain ⟨last, i, hlast, hle, hi, hmem⟩ := exists_last hn hk
  refine ⟨last, ?_, ?_⟩
  . rw [innermost_eq (run_atSpan ht _)]
    dsimp only
    rw [hlast]
    rfl
  . have hlineage : n ∈ t.lineage i := by
      rw [Outline.mem_lineage]
      by_cases heq : n = i
      . exact .inl heq
      . -- What is found at a node that is not below comes after all of the declaration.
        right
        apply Classical.byContradiction
        intro hnot
        obtain ⟨cs, hsublist, hsits, _⟩ := exists_offered hnest ht.toLinked (Query.atSpan (.point none p)) i
        have hprecedes :=
          (hsits last (hsublist.subset hmem)).precedes_of_lt hnest ht.toLinked hi (by omega) hnot
        have hanswered := hprecedes.of_within (Outline.answeredSpan_within hnest n) (Span.Within.refl _)
        have hfound := isWithin_of_isAccepted (isAccepted_of_mem_findings hmem)
        refine TextSpan.not_precedes (Position.le_refl p) ?_ hfound hanswered
        rw [TextSpan.isWithin_point]
        exact hp
    exact Outline.mem_lineage_trans hlineage (mem_lineage_anchor ht.toLinked hmem)

theorem anchor_ne_of_innermost (ht : t.WellFormed) (hkind : t.kind n ∈ Matcher.knownTargets)
    (hp : (t.answeredSpan n).containsPoint p = false)
    (h : innermost (Query.atSpan (.point none p)) Registry.standard.resolve t = .ok k) : k.anchor ≠ n := by
  rw [innermost_eq (run_atSpan ht _)] at h
  dsimp only at h
  cases hlast : ((List.range t.size).flatMap
      (findingsAt (Query.atSpan (.point none p)) Registry.standard.resolve t)).getLast? with
  | none =>
    rw [hlast] at h
    cases h
  | some last =>
    rw [hlast] at h
    cases h
    obtain ⟨i, _, hmem⟩ := List.mem_flatMap.mp (List.mem_of_getLast? hlast)
    have haccepted := isAccepted_atPoint.mp (isAccepted_of_mem_findings hmem)
    intro heq
    cases cases_of_mem_findingsAt hmem with
    | inl hown =>
      obtain ⟨hcandidate, hanchor⟩ := hown
      rw [heq] at hanchor
      subst hanchor
      rw [hcandidate, span_candidate hkind, hp] at haccepted
      cases haccepted.2
    | inr hbody =>
      obtain ⟨b, hb, hk⟩ := hbody
      rw [hk] at heq
      have hanchor : b = n := heq
      subst hanchor
      have hcontainer := Rule.not_isContainer_of_knownTarget hkind
      rw [Rule.isContainer, List.find?_some hb] at hcontainer
      cases hcontainer

/--
In an outline from a parser a query about a point finds a declaration that answers for the point, or something in it.
A declaration that does not answer for the point is not what is found.
-/
theorem innermost_covers {c : Concrete} {source : String} {path : Option String} {t : Outline} {n : Nat}
    {p : Position} (hc : c.Orderly) (ht : c.toOutline source path = .ok t) (hn : n < t.size)
    (hkind : t.kind n ∈ Matcher.knownTargets) :
    ((t.answeredSpan n).containsPoint p = true →
      ∃ k, innermost (Query.atSpan (.point none p)) Registry.standard.resolve t = .ok k ∧ n ∈ t.lineage k.anchor) ∧
    ((t.answeredSpan n).containsPoint p = false →
      ∀ k, innermost (Query.atSpan (.point none p)) Registry.standard.resolve t = .ok k → k.anchor ≠ n) := by
  obtain ⟨hwell, hnest⟩ := Concrete.nested_of_toOutline hc ht
  constructor
  . intro hp
    exact exists_innermost hwell hnest hn hkind hp
  . intro hp k hk
    exact anchor_ne_of_innermost hwell hkind hp hk

/-- The tree of `class S{int X=>5;}`. -/
def arrowProperty : Concrete :=
  .onLine "compilation_unit" 0 18 [
    .onLine "class_declaration" 0 18 [
      .onLine "class" 0 5 [] none false,
      .onLine "identifier" 6 7 [] (some "name") true,
      .onLine "declaration_list" 7 18 [
        .onLine "\x7b" 7 8 [] none false,
        .onLine "property_declaration" 8 17 [
          .onLine "predefined_type" 8 11 [] (some "type") true,
          .onLine "identifier" 12 13 [] (some "name") true,
          .onLine "arrow_expression_clause" 13 16 [
            .onLine "=>" 13 15 [] none false,
            .onLine "integer_literal" 15 16 [] none true] (some "value") true,
          .onLine ";" 16 17 [] none false] none true,
        .onLine "\x7d" 17 18 [] none false] (some "body") true] none true] none true

theorem orderly_arrowProperty : arrowProperty.Orderly :=
  ⟨by decide +kernel, by decide +kernel, by decide +kernel, by decide +kernel, by decide +kernel⟩

theorem toOutline_arrowProperty :
    ∃ t, arrowProperty.toOutline "class S\x7bint X=>5;\x7d" none = .ok t ∧ 3 < t.size ∧
      t.kind 3 ∈ Matcher.knownTargets ∧ (t.span 3).containsPoint (.ofRowColumn 0 12) = true ∧
      (t.answeredSpan 3).containsPoint (.ofRowColumn 0 12) = false ∧
      (t.answeredSpan 3).containsPoint (.ofRowColumn 0 15) = true ∧
      (innermost (Query.atSpan (.point none (.ofRowColumn 0 12))) Registry.standard.resolve t).toOption
        = some (.real 1) := by
  have hfacts : (arrowProperty.toOutline "class S\x7bint X=>5;\x7d" none).toOption.any (fun t => decide (3 < t.size ∧
      t.kind 3 ∈ Matcher.knownTargets ∧ (t.span 3).containsPoint (.ofRowColumn 0 12) = true ∧
      (t.answeredSpan 3).containsPoint (.ofRowColumn 0 12) = false ∧
      (t.answeredSpan 3).containsPoint (.ofRowColumn 0 15) = true ∧
      (innermost (Query.atSpan (.point none (.ofRowColumn 0 12))) Registry.standard.resolve t).toOption
        = some (.real 1))) = true := by
    decide +kernel
  cases ht : arrowProperty.toOutline "class S\x7bint X=>5;\x7d" none with
  | error e =>
    rw [ht] at hfacts
    cases hfacts
  | ok t =>
    rw [ht] at hfacts
    exact ⟨t, rfl, of_decide_eq_true hfacts⟩

/-- In the clause the property is found, at its name it is not. -/
theorem innermost_arrowProperty :
    ∃ t, arrowProperty.toOutline "class S\x7bint X=>5;\x7d" none = .ok t ∧ t.kind 3 ∈ Matcher.knownTargets ∧
      (t.answeredSpan 3).containsPoint (.ofRowColumn 0 15) = true ∧
      (∃ k, innermost (Query.atSpan (.point none (.ofRowColumn 0 15))) Registry.standard.resolve t = .ok k ∧
        3 ∈ t.lineage k.anchor) ∧
      ∀ k, innermost (Query.atSpan (.point none (.ofRowColumn 0 12))) Registry.standard.resolve t = .ok k →
        k.anchor ≠ 3 := by
  obtain ⟨t, ht, hsize, hkind, _, hname, hclause, _⟩ := toOutline_arrowProperty
  exact ⟨t, ht, hkind, hclause, (innermost_covers orderly_arrowProperty ht hsize hkind).1 hclause,
    (innermost_covers orderly_arrowProperty ht hsize hkind).2 hname⟩

/-- A point in a declaration need not lead to it: at the name of an arrow property the class around it is found. -/
theorem innermost_passes_over_property :
    ¬ ∀ (c : Concrete) (source : String) (path : Option String) (t : Outline) (n : Nat) (p : Position), c.Orderly →
      c.toOutline source path = .ok t → n < t.size → t.kind n ∈ Matcher.knownTargets →
      (t.span n).containsPoint p = true →
      ∃ k, innermost (Query.atSpan (.point none p)) Registry.standard.resolve t = .ok k ∧ n ∈ t.lineage k.anchor := by
  intro hall
  obtain ⟨t, ht, hsize, hkind, hspan, _, _, hinner⟩ := toOutline_arrowProperty
  obtain ⟨k, hk, hmem⟩ := hall _ _ _ t 3 _ orderly_arrowProperty ht hsize hkind hspan
  rw [hk] at hinner
  cases hinner
  have hle : 3 ≤ 1 := Outline.le_of_mem_lineage hmem
  omega

end Walk
end StructuralSearch
