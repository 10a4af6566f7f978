import StructuralSearch.Proofs.Concrete.Nesting
import StructuralSearch.Proofs.Concrete.Retained
import StructuralSearch.Proofs.Walk.Standard

/-!
This module contains why the last match of a query about a place is the innermost one. A virtual node may have another
span than the node that it is found at, but not so that the matches are no longer nested.
-/

namespace StructuralSearch

namespace Outline

variable {t : Outline} {i j m : Nat} {e f : Span}

/-- The spans of what can be found at a node: its own, that of a part of it, or the parentheses around a condition. -/
inductive Sits (t : Outline) (i : Nat) : Span → Prop where
  | own : Sits t i (t.span i)
  | part {b : Nat} (hb : b ∈ t.children i) (hkind : t.kind i ≠ .ifStatement) : Sits t i (t.span b)
  | parens {p : Nat} {l r : Token} (hi : i ∈ t.children p) (hkind : t.kind p = .ifStatement)
    (hl : t.token? p "(" = some l) (hr : t.token? p ")" = some r) (henclosed : t.EnclosedBy p i l r) :
    Sits t i (l.through r)

namespace Sits

theorem within_ancestor (h : t.Sits j f) (hn : t.Nested) (ht : t.Linked) (hm : m ∈ t.ancestors j) :
    f.Within (t.span m) := by
  have hj : (t.span j).Within (t.span m) := by
    apply hn.within_lineage ht
    rw [mem_lineage]
    exact .inr hm
  cases h with
  | own => exact hj
  | part hb _ => exact (hn.within j _ hb).trans hj
  | parens hi _ _ _ henclosed =>
    rw [ht.ancestors_eq (ht.mem_children.mp hi)] at hm
    exact henclosed.inside.trans (hn.within_lineage ht hm)

theorem precedes_of_lt (h : t.Sits j f) (hn : t.Nested) (ht : t.Linked) (hj : j < t.size) (hlt : m < j)
    (hm : m ∉ t.ancestors j) : (t.span m).Precedes f := by
  have hown := hn.precedes ht hj hlt hm
  cases h with
  | own => exact hown
  | part hb _ => exact hown.of_within (Span.Within.refl _) (hn.within j _ hb)
  | @parens p l r hi _ _ _ henclosed =>
    have hparent := ht.mem_children.mp hi
    have hpj := ht.parent_lt hparent
    rw [ht.ancestors_eq hparent, mem_lineage, not_or] at hm
    by_cases hmp : m < p
    . have hprecedes := hn.precedes ht (by omega) hmp hm.2
      exact hprecedes.of_within (Span.Within.refl _) henclosed.inside
    . -- It is in a child of the `if` before the condition.
      have hmem : p ∈ t.lineage m := by
        apply ht.mem_lineage_between _ (by omega) (by omega) hj
        rw [mem_lineage]
        exact .inr (ht.parent_mem_ancestors hparent)
      rw [mem_lineage] at hmem
      obtain ⟨c, hc, hcm⟩ := ht.exists_child (hmem.resolve_left (Ne.symm hm.1))
      have hle := le_of_mem_lineage hcm
      have hbefore := henclosed.before c hc (by omega)
      exact hbefore.of_within (hn.within_lineage ht hcm) (Span.Within.refl _)

theorem precedes_of_gt (h : t.Sits i e) (hn : t.Nested) (ht : t.Linked) (hj : j < t.size) (hlt : i < j)
    (hi : i ∉ t.ancestors j) : e.Precedes (t.span j) := by
  have hown := hn.precedes ht hj hlt hi
  cases h with
  | own => exact hown
  | part hb _ => exact hown.of_within (hn.within i _ hb) (Span.Within.refl _)
  | @parens p l r hip _ _ _ henclosed =>
    have hparent := ht.mem_children.mp hip
    have hpi := ht.parent_lt hparent
    by_cases hp : p ∈ t.ancestors j
    . -- It is in a child of the `if` after the condition.
      obtain ⟨c, hc, hcj⟩ := ht.exists_child hp
      have hne : c ≠ i := by
        intro heq
        subst heq
        rw [mem_lineage] at hcj
        cases hcj with
        | inl heq => omega
        | inr hcj => exact hi hcj
      have hnlt : ¬ c < i := by
        intro hci
        have := lt_of_mem_siblings ht hc hip hci hcj mem_lineage_self hj
        omega
      have hic : i < c := by omega
      have hafter := henclosed.after c hc hic
      exact hafter.of_within (Span.Within.refl _) (hn.within_lineage ht hcj)
    . have hprecedes := hn.precedes ht hj (by omega) hp
      exact hprecedes.of_within henclosed.inside (Span.Within.refl _)

theorem eq_or_precedes_of_parens {p : Nat} {l r : Token} (hi : t.Sits i e) (hn : t.Nested) (ht : t.Linked)
    (hj : j ∈ t.children p) (hkind : t.kind p = .ifStatement) (hl : t.token? p "(" = some l)
    (hr : t.token? p ")" = some r) (henclosed : t.EnclosedBy p j l r) (hlt : i < j) (hp : p ∈ t.ancestors i)
    (hnot : i ∉ t.ancestors j) : e = l.through r ∨ e.Precedes (l.through r) := by
  have hparent := ht.mem_children.mp hj
  have hsize := lt_size_of_parent? hparent
  have hsits : t.Sits j (l.through r) := .parens hj hkind hl hr henclosed
  have hspan := hsits.precedes_of_lt hn ht hsize hlt hnot
  cases hi with
  | own => exact .inr hspan
  | part hb _ => exact .inr (hspan.of_within (hn.within i _ hb) (Span.Within.refl _))
  | @parens q l' r' hiq _ hl' hr' henclosed' =>
    have hparent' := ht.mem_children.mp hiq
    have hqi := ht.parent_lt hparent'
    rw [ht.ancestors_eq hparent', mem_lineage] at hp
    cases hp with
    | inl heq =>
      -- Both are in the same parentheses.
      subst heq
      rw [hl] at hl'
      rw [hr] at hr'
      cases hl'
      cases hr'
      exact .inl rfl
    | inr hp =>
      have hpq := lt_of_mem_ancestors hp
      have hq : q ∉ t.ancestors j := by
        rw [ht.ancestors_eq hparent]
        intro hmem
        have := le_of_mem_lineage hmem
        omega
      have hprecedes := hsits.precedes_of_lt hn ht hsize (by omega) hq
      exact .inr (hprecedes.of_within henclosed'.inside (Span.Within.refl _))

theorem eq_or_precedes (hi : t.Sits i e) (hj : t.Sits j f) (hn : t.Nested) (ht : t.Linked) (hsize : j < t.size)
    (hlt : i < j) (hnot : i ∉ t.ancestors j) : e = f ∨ e.Precedes f := by
  have hspan := hi.precedes_of_gt hn ht hsize hlt hnot
  cases hj with
  | own => exact .inr hspan
  | part hb _ => exact .inr (hspan.of_within (Span.Within.refl _) (hn.within j _ hb))
  | @parens p l r hjp hkind hl hr henclosed =>
    have hparent := ht.mem_children.mp hjp
    have hpj := ht.parent_lt hparent
    have hmem := ht.parent_mem_ancestors hparent
    by_cases hip : i < p
    . have hp : i ∉ t.ancestors p := by
        rw [ht.ancestors_eq hparent, mem_lineage, not_or] at hnot
        exact hnot.2
      have hprecedes := hi.precedes_of_gt hn ht (by omega) hip hp
      exact .inr (hprecedes.of_within (Span.Within.refl _) henclosed.inside)
    . have hne : p ≠ i := by
        intro heq
        subst heq
        exact hnot hmem
      have hp : p ∈ t.lineage i := by
        apply ht.mem_lineage_between _ (by omega) (by omega) hsize
        rw [mem_lineage]
        exact .inr hmem
      rw [mem_lineage] at hp
      exact hi.eq_or_precedes_of_parens hn ht hjp hkind hl hr henclosed hlt (hp.resolve_left hne) hnot

theorem within_or_precedes_of_part {b : Nat} (hb : b ∈ t.children i) (hkind : t.kind i ≠ .ifStatement)
    (hj : t.Sits j f) (hn : t.Nested) (ht : t.Linked) (hsize : j < t.size) (hlt : i < j) :
    f.Within (t.span b) ∨ (t.span b).Precedes f ∨ f.Precedes (t.span b) := by
  have hparent := ht.mem_children.mp hb
  by_cases hmem : b ∈ t.ancestors j
  . exact .inl (hj.within_ancestor hn ht hmem)
  . by_cases heq : b = j
    . subst heq
      cases hj with
      | own => exact .inl (Span.Within.refl _)
      | part hb' _ => exact .inl (hn.within b _ hb')
      | parens hbp hif _ _ _ =>
        have hparent' := ht.mem_children.mp hbp
        rw [hparent] at hparent'
        cases hparent'
        exact absurd hif hkind
    . by_cases hbj : b < j
      . exact .inr (.inl (hj.precedes_of_lt hn ht hsize hbj hmem))
      . have hnot : j ∉ t.ancestors b := by
          rw [ht.ancestors_eq hparent]
          intro hmem
          have := le_of_mem_lineage hmem
          omega
        exact .inr (.inr (hj.precedes_of_gt hn ht (lt_size_of_parent? hparent) (by omega) hnot))

/-- Of two spans at different nodes, the later lies in the earlier, or they follow one another. -/
theorem within_or_precedes (hi : t.Sits i e) (hj : t.Sits j f) (hn : t.Nested) (ht : t.Linked) (hsize : j < t.size)
    (hlt : i < j) : f.Within e ∨ e.Precedes f ∨ f.Precedes e := by
  by_cases hmem : i ∈ t.ancestors j
  . cases hi with
    | own => exact .inl (hj.within_ancestor hn ht hmem)
    | parens _ _ _ _ henclosed => exact .inl ((hj.within_ancestor hn ht hmem).trans henclosed.condition)
    | part hb hkind => exact within_or_precedes_of_part hb hkind hj hn ht hsize hlt
  . cases eq_or_precedes hi hj hn ht hsize hlt hmem with
    | inl heq =>
      subst heq
      exact .inl (Span.Within.refl _)
    | inr hprecedes => exact .inr (.inl hprecedes)

end Sits

end Outline

namespace TextSpan

/-- A point, or a range that does not end before it starts. -/
def Made (s : TextSpan) : Prop :=
  (∃ path position, s = point path position) ∨ ∃ path start stop, range path start stop = .ok s

theorem Made.start_le {s : TextSpan} (h : s.Made) : s.start.le s.stop = true := by
  cases h with
  | inl h =>
    obtain ⟨path, position, heq⟩ := h
    subst heq
    exact Position.le_refl position
  | inr h =>
    obtain ⟨path, start, stop, h⟩ := h
    unfold range at h
    split at h
    . cases h
    . next hlt =>
      cases h
      rw [Position.lt_iff, Decidable.not_not] at hlt
      exact hlt

theorem not_precedes {s : TextSpan} {e f : Span} (hs : s.start.le s.stop = true) (he : s.isWithin e = true)
    (hf : s.isWithin f = true) : ¬ e.Precedes f := by
  -- A point belongs to the span that it starts, and a range that is no point has room.
  intro hprecedes
  unfold isWithin at he hf
  split at he
  . next hpoint =>
    rw [if_pos hpoint] at hf
    simp only [Span.containsPoint, Bool.and_eq_true, Position.lt_iff] at he hf
    exact he.2 (Position.le_trans hprecedes hf.1)
  . next hpoint =>
    rw [if_neg hpoint] at hf
    simp only [Span.containsRange, Bool.and_eq_true] at he hf
    have hle := Position.le_trans he.2 (Position.le_trans hprecedes hf.1)
    apply hpoint
    rw [Position.le_iff] at hs hle
    simp only [isPoint, Position.samePlace, Bool.and_eq_true, decide_eq_true_eq]
    omega

end TextSpan

namespace Rule

variable {t : Outline} {i : Nat}

theorem sits_ifCondition {p : Nat} (hn : t.Nested) (ht : t.Linked) (h : ifCondition.applies t i = true)
    (hp : t.parent? i = some p) : t.Sits i ((VirtualNode.ifCondition p i).span t) := by
  have happlies := ifCondition_applies.mp h
  obtain ⟨p', hp', hkind⟩ := exists_parent_of_parentKind? happlies.2
  rw [hp] at hp'
  cases hp'
  rw [VirtualNode.span]
  split
  . next l r hl hr =>
    have hi := ht.mem_children.mpr hp
    exact .parens hi hkind hl hr (hn.parens p hkind i hi happlies.1 l r hl hr)
  . exact .own

theorem sits_of_synthesize {r : Rule} {v : VirtualNode} (hn : t.Nested) (ht : t.Linked)
    (hr : r ∈ specific ++ [nestedBlock]) (h : r.applies t i = true) (hv : r.synthesize t i = .ok v) :
    t.Sits i (v.span t) := by
  simp only [specific, List.cons_append, List.nil_append, List.mem_cons, List.not_mem_nil, or_false] at hr
  rcases hr with rfl | rfl | rfl | rfl | rfl | rfl | rfl
  . obtain ⟨l, _, hv'⟩ := autoProperty_synthesize h
    rw [hv] at hv'
    cases hv'
    exact .own
  . obtain ⟨a, ha, hv'⟩ := readOnlyProperty_synthesize h
    rw [hv] at hv'
    cases hv'
    refine .part (List.mem_of_find?_eq_some ha) ?_
    rw [(readOnlyProperty_applies.mp h).1]
    exact NodeKind.noConfusion
  . obtain ⟨p, _, hv'⟩ := tryBody_synthesize h
    rw [hv] at hv'
    cases hv'
    exact .own
  . obtain ⟨p, hp, hv'⟩ := ifCondition_synthesize h
    rw [hv] at hv'
    cases hv'
    exact sits_ifCondition hn ht h hp
  . obtain ⟨p, _, hv'⟩ := ifBody_synthesize h
    rw [hv] at hv'
    cases hv'
    exact .own
  . obtain ⟨p, _, hv'⟩ := elseBody_synthesize h
    rw [hv] at hv'
    cases hv'
    exact .own
  . rw [nestedBlock_synthesize h] at hv
    cases hv
    exact .own

end Rule

namespace Walk

variable {q : Query} {t : Outline} {i : Nat} {routed : List Routed}

theorem findings_sublist (q : Query) (t : Outline) (i : Nat) (routed : List Routed) :
    (findings q t i routed).Sublist (beside .before routed ++ candidate i routed :: beside .after routed) := by
  unfold findings
  dsimp only
  split
  . exact List.filter_sublist.append (List.filter_sublist.cons_cons _)
  . exact List.nil_sublist _

theorem isAccepted_of_mem_findings {c : Candidate} (h : c ∈ findings q t i routed) : q.isAccepted t c = true := by
  unfold findings at h
  dsimp only at h
  split at h
  . next haccepted =>
    rw [List.mem_append, List.mem_cons] at h
    obtain h | h | h := h
    . exact (List.mem_filter.mp h).2
    . rw [h]
      exact haccepted
    . exact (List.mem_filter.mp h).2
  . cases h

/-- The later candidate lies in the earlier one. -/
def Inward (t : Outline) (x y : Candidate) : Prop :=
  (y.span t).Within (x.span t)

theorem exists_offered (hn : t.Nested) (ht : t.Linked) (q : Query) (i : Nat) :
    ∃ cs, (findingsAt q Registry.standard.resolve t i).Sublist cs ∧ (∀ c ∈ cs, t.Sits i (c.span t)) ∧
      cs.Pairwise (Inward t) := by
  -- A method has its body beside it, at any other node there is one candidate.
  unfold findingsAt routedAt
  cases hmethod : Rule.methodBody.applies t i with
  | true =>
    obtain ⟨b, hb, hresolve⟩ := Registry.resolve_of_method hmethod
    rw [hresolve]
    have hchild : b ∈ t.children i := List.mem_of_find?_eq_some hb
    have hkind : t.kind i ≠ .ifStatement := by
      rw [(Rule.methodBody_applies.mp hmethod).1]
      exact NodeKind.noConfusion
    refine ⟨[.real i, .synthetic (.methodBody i b)], findings_sublist q t i _, ?_, ?_⟩
    . simp only [List.forall_mem_cons, List.not_mem_nil, false_implies, implies_true, and_true]
      exact ⟨.own, .part hchild hkind⟩
    . rw [List.pairwise_pair]
      exact hn.within i b hchild
  | false =>
    cases Registry.resolve_of_not_method hmethod with
    | inl hnone =>
      rw [hnone.2]
      refine ⟨[.real i], findings_sublist q t i _, ?_, List.pairwise_singleton _ _⟩
      rw [List.forall_mem_singleton]
      exact .own
    | inr hsome =>
      obtain ⟨r, v, hfind, hv, hresolve⟩ := hsome
      have happlies : r.applies t i = true := by simpa using List.find?_some hfind
      rw [hresolve]
      refine ⟨[.synthetic v], findings_sublist q t i _, ?_, List.pairwise_singleton _ _⟩
      rw [List.forall_mem_singleton]
      exact Rule.sits_of_synthesize hn ht (List.mem_of_find?_eq_some hfind) happlies hv

theorem accepts_atSpan (s : TextSpan) (t : Outline) (c : Candidate) :
    (Query.atSpan s).accepts t c = .ok ((c.isVirtual || Matcher.knownTargets.contains (c.kind t))
      && ((s.path.all fun path => t.path.any (Path.same path)) && s.isWithin (c.span t))) := by
  unfold Query.accepts Query.atSpan
  simp only [List.append_nil, Matcher.acceptsAll, Matcher.accepts, bind, Except.bind, pure, Except.pure]
  cases c.isVirtual || Matcher.knownTargets.contains (c.kind t) with
  | false => rfl
  | true =>
    simp only [if_true, Bool.true_and]
    cases (s.path.all fun path => t.path.any (Path.same path)) && s.isWithin (c.span t) with
    | false => rfl
    | true => rfl

theorem isWithin_of_isAccepted {s : TextSpan} {c : Candidate} (h : (Query.atSpan s).isAccepted t c = true) :
    s.isWithin (c.span t) = true := by
  unfold Query.isAccepted at h
  rw [accepts_atSpan, Bool.and_eq_true, isYes_ok] at h
  simp only [Bool.and_eq_true] at h
  exact h.2.2.2

theorem run_atSpan (ht : t.WellFormed) (s : TextSpan) :
    run (Query.atSpan s) Registry.standard.resolve t = .ok {
      visited := t.size
      found := (List.range t.size).flatMap (findingsAt (Query.atSpan s) Registry.standard.resolve t) } := by
  have hnone : (List.range t.size).findSome? (fault? (Query.atSpan s) Registry.standard.resolve t) = none := by
    rw [List.findSome?_eq_none_iff]
    intro i _
    unfold fault? lookupFault?
    rw [routingFault?_standard, Option.none_or, List.findSome?_eq_none_iff]
    intro c _
    rw [accepts_atSpan]
    rfl
  rw [run_eq_failOr ht (.inr ⟨s, rfl⟩) (anchored_standard t), hnone]
  rfl

theorem found_pairwise {s : TextSpan} (hn : t.Nested) (ht : t.Linked) (hs : s.start.le s.stop = true) :
    ((List.range t.size).flatMap (findingsAt (Query.atSpan s) Registry.standard.resolve t)).Pairwise (Inward t) := by
  -- At one node a method body lies in its method; for two nodes it is a matter of their spans.
  rw [List.pairwise_flatMap]
  constructor
  . intro i _
    obtain ⟨cs, hsublist, _, hpairwise⟩ := exists_offered hn ht (Query.atSpan s) i
    exact hpairwise.sublist hsublist
  . refine List.Pairwise.imp_of_mem ?_ List.pairwise_lt_range
    intro i j _ hj hlt x hx y hy
    rw [List.mem_range] at hj
    obtain ⟨cs, hsublist, hsits, _⟩ := exists_offered hn ht (Query.atSpan s) i
    obtain ⟨ds, hsublist', hsits', _⟩ := exists_offered hn ht (Query.atSpan s) j
    have hx' := isWithin_of_isAccepted (isAccepted_of_mem_findings hx)
    have hy' := isWithin_of_isAccepted (isAccepted_of_mem_findings hy)
    -- Spans that follow one another do not share a place.
    obtain hwithin | hprecedes | hprecedes :=
      (hsits x (hsublist.subset hx)).within_or_precedes (hsits' y (hsublist'.subset hy)) hn ht hj hlt
    . exact hwithin
    . exact absurd hprecedes (TextSpan.not_precedes hs hx' hy')
    . exact absurd hprecedes (TextSpan.not_precedes hs hy' hx')

theorem innermost_eq {route : Router} {w : Walk} (h : run q route t = .ok w) :
    innermost q route t = w.found.getLast?.elim (.error .emptyAccumulator) .ok := by
  unfold run at h
  rw [bind_eq_ok] at h
  obtain ⟨found, htraverse, h⟩ := h
  cases h
  obtain ⟨items⟩ := found
  unfold innermost
  rw [htraverse, Accumulator.toList, List.getLast?_reverse]
  cases items with
  | nil => rfl
  | cons c cs => rfl

/--
In an outline from a parser the last match of a query about a place is the innermost one: it lies in all other matches,
and so does each match in those before it.
-/
theorem innermost_atSpan {c : Concrete} {source : String} {path : Option String} {t : Outline} {s : TextSpan}
    (hc : c.Orderly) (ht : c.toOutline source path = .ok t) (hs : s.Made) :
    ∃ found, run (Query.atSpan s) Registry.standard.resolve t = .ok { visited := t.size, found } ∧
      innermost (Query.atSpan s) Registry.standard.resolve t
        = found.getLast?.elim (.error .emptyAccumulator) .ok ∧
      (∀ last, found.getLast? = some last → ∀ x ∈ found, (last.span t).Within (x.span t)) ∧
      found.Pairwise fun x y => (y.span t).Within (x.span t) := by
  obtain ⟨hwell, hn⟩ := Concrete.nested_of_toOutline hc ht
  have hrun := run_atSpan hwell s
  have hpairwise := found_pairwise hn hwell.toLinked hs.start_le
  refine ⟨_, hrun, innermost_eq hrun, ?_, hpairwise⟩
  intro last hlast x hx
  rw [List.getLast?_eq_some_iff] at hlast
  obtain ⟨before, heq⟩ := hlast
  rw [heq] at hpairwise hx
  rw [List.pairwise_append] at hpairwise
  rw [List.mem_append, List.mem_singleton] at hx
  cases hx with
  | inl hx => exact hpairwise.2.2 x hx last List.mem_cons_self
  | inr heq =>
    subst heq
    exact Span.Within.refl _

theorem innermost_fileWithElse :
    ∃ t found, Concrete.fileWithElse.toOutline "namespace N;if(a)b;else c;" none = .ok t ∧
      run (Query.atSpan (.point none (.ofRowColumn 0 15))) Registry.standard.resolve t
        = .ok { visited := t.size, found } ∧
      found.getLast? = some (.synthetic (.ifCondition 2 3)) ∧
      found.Pairwise fun x y => (y.span t).Within (x.span t) := by
  have horderly : Concrete.fileWithElse.Orderly :=
    ⟨by decide +kernel, by decide +kernel, by decide +kernel, by decide +kernel, by decide +kernel⟩
  have hinner : (Concrete.fileWithElse.toOutline "namespace N;if(a)b;else c;" none).toOption.bind (fun t =>
      (innermost (Query.atSpan (.point none (.ofRowColumn 0 15))) Registry.standard.resolve t).toOption)
        = some (.synthetic (.ifCondition 2 3)) := by
    decide +kernel
  cases ht : Concrete.fileWithElse.toOutline "namespace N;if(a)b;else c;" none with
  | error e =>
    rw [ht] at hinner
    cases hinner
  | ok t =>
    obtain ⟨found, hrun, hlast, _, hpairwise⟩ := innermost_atSpan horderly ht (.inl ⟨none, .ofRowColumn 0 15, rfl⟩)
    refine ⟨t, found, rfl, hrun, ?_, hpairwise⟩
    rw [ht, Except.toOption, Option.bind_some, hlast] at hinner
    cases hfound : found.getLast? with
    | none =>
      rw [hfound] at hinner
      cases hinner
    | some c =>
      rw [hfound] at hinner
      exact hinner

end Walk

end StructuralSearch
