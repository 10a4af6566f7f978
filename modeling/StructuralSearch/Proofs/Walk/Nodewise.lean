import StructuralSearch.Proofs.Outline.Preorder
import StructuralSearch.Proofs.Query.Lookup
import StructuralSearch.Proofs.Virtual.Standard
import StructuralSearch.Walk

/-!
This module contains what a walk finds, said of each node by itself. A walk keeps the scopes that it is in and drops
those that it has left; without that, a candidate is in a scope if one of the nodes above it is a scope.
-/

namespace StructuralSearch

namespace Query

/-- Whether one of the nodes above `i` is a scope. -/
def isEnclosed (q : Query) (t : Outline) (i : Nat) : Bool :=
  (t.ancestors i).any fun a => isYes (q.isScope t a)

/-- Whether a candidate lies in a scope, if the query asks for scopes. -/
def isInPlace (q : Query) (t : Outline) (c : Candidate) : Bool :=
  !q.hasScope || q.isEnclosed t c.anchor

/-- Whether a candidate lies in a scope, if the query asks for scopes, and satisfies the query. -/
def isAccepted (q : Query) (t : Outline) (c : Candidate) : Bool :=
  q.isInPlace t c && isYes (q.accepts t c)

end Query

namespace Walk

/-- The routing of a node, if it does not fail. -/
def routedAt (route : Router) (t : Outline) (i : Nat) : List Routed :=
  (route t i).toOption.getD []

/-- Why a node cannot be routed: the router fails, or more than one virtual node would take its place. -/
def routingFault? (route : Router) (t : Outline) (i : Nat) : Option Error :=
  match route t i with
  | .error e => some e
  | .ok routed =>
    let count := (replacements routed).length
    if 1 < count then some (.doubleReplacement (t.kind i) count) else none

/-- The virtual nodes at one side. -/
def beside (placement : Placement) (routed : List Routed) : List Candidate :=
  (routed.filter (·.placement == placement)).map fun r => .synthetic r.node

/-- What is found at a node: if its candidate is accepted, the accepted ones before it, itself, and those after it. -/
def findings (q : Query) (t : Outline) (i : Nat) (routed : List Routed) : List Candidate :=
  let c := candidate i routed
  if q.isAccepted t c then
    (beside .before routed).filter (q.isAccepted t) ++ c :: (beside .after routed).filter (q.isAccepted t)
  else
    []

def findingsAt (q : Query) (route : Router) (t : Outline) (i : Nat) : List Candidate :=
  findings q t i (routedAt route t i)

/-- The candidates that a node puts to the query, in order. -/
def asked (q : Query) (t : Outline) (i : Nat) (routed : List Routed) : List Candidate :=
  let c := candidate i routed
  (c :: if q.isAccepted t c then beside .before routed ++ beside .after routed else []).filter (q.isInPlace t)

/-- The first question at a node that has no answer, because a text would have to be cut inside a character. -/
def lookupFault? (q : Query) (t : Outline) (i : Nat) (routed : List Routed) : Option Error :=
  (asked q t i routed).findSome? fun c => Error.of? (q.accepts t c)

/-- Why a walk ends at a node, if it does. -/
def fault? (q : Query) (route : Router) (t : Outline) (i : Nat) : Option Error :=
  (routingFault? route t i).or (lookupFault? q t i (routedAt route t i))

/-- The virtual nodes that the visit of a node can see are judged by the node itself or by a child of it. -/
def Anchored (route : Router) (t : Outline) : Prop :=
  ∀ i, i < t.size → ∀ routed, route t i = .ok routed →
    ∀ r ∈ routed, r.node.anchor = i ∨ r.node.anchor ∈ t.children i

/-- The scopes around a node and the node itself if it is one, the innermost first. -/
def scopesAt (q : Query) (t : Outline) (i : Nat) : List Nat :=
  (t.lineage i).filter fun a => isYes (q.isScope t a)

section Enter

variable {q : Query} {t : Outline}

theorem lineage_eq_append {i p : Nat} (ht : t.Linked) (hp : p ∈ t.lineage i) :
    ∃ below, t.lineage i = below ++ t.lineage p ∧ ∀ a ∈ below, p < a := by
  rw [Outline.mem_lineage] at hp
  cases hp with
  | inl heq =>
    subst heq
    exact ⟨[], rfl, by simp⟩
  | inr hp =>
    have hlt := Outline.lt_of_mem_ancestors hp
    rw [Outline.mem_ancestors_iff] at hp
    obtain ⟨parent, hparent, hltp, hp⟩ := hp
    obtain ⟨below, heq, hbelow⟩ := lineage_eq_append ht hp
    refine ⟨i :: below, ?_, ?_⟩
    . rw [ht.lineage_eq hparent, heq]
      rfl
    . intro a ha
      rw [List.mem_cons] at ha
      cases ha with
      | inl heq => omega
      | inr ha => exact hbelow a ha
termination_by i

theorem enter_eq {i p : Nat} (ht : t.Linked) (hq : q.Stated) (hparent : t.parent? (i + 1) = some p)
    (hp : p ∈ t.lineage i) : enter q t (scopesAt q t i) (i + 1) = .ok (scopesAt q t (i + 1)) := by
  -- Leaving the scopes that have ended leaves those that are around the next node.
  have hancestors := ht.ancestors_eq hparent
  obtain ⟨below, heq, hbelow⟩ := lineage_eq_append ht hp
  have haround : (scopesAt q t i).dropWhile (fun s => !t.isDescendantOf (i + 1) s)
      = (t.lineage p).filter fun a => isYes (q.isScope t a) := by
    unfold scopesAt
    rw [heq, List.filter_append, List.dropWhile_append_of_pos]
    . -- The innermost of the scopes above is the first that stays.
      cases hscopes : (t.lineage p).filter fun a => isYes (q.isScope t a) with
      | nil => rfl
      | cons a as =>
        have ha : a ∈ (t.lineage p).filter fun a => isYes (q.isScope t a) := by
          rw [hscopes]
          exact List.mem_cons_self
        rw [List.dropWhile_cons_of_neg]
        unfold Outline.isDescendantOf
        rw [hancestors]
        simpa using (List.mem_filter.mp ha).1
    . intro a ha
      have hlt := hbelow a (List.mem_filter.mp ha).1
      unfold Outline.isDescendantOf
      rw [hancestors]
      simp only [Bool.not_eq_eq_eq_not, Bool.not_true, List.contains_eq_mem, decide_eq_false_iff_not]
      intro hmem
      have := Outline.le_of_mem_lineage hmem
      omega
  unfold enter
  rw [haround, hq.isScope_eq]
  unfold scopesAt
  rw [ht.lineage_eq hparent, List.filter_cons]
  cases isYes (q.isScope t (i + 1)) with
  | true => rfl
  | false => rfl

theorem enter_zero (ht : t.Linked) (hq : q.Stated) : enter q t [] 0 = .ok (scopesAt q t 0) := by
  unfold enter scopesAt
  rw [hq.isScope_eq, Outline.lineage, Outline.ancestors_of_parent?_eq_none ht.parent_zero, List.filter_cons]
  cases isYes (q.isScope t 0) with
  | true => rfl
  | false => rfl

theorem any_scopesAt {i a : Nat} (ht : t.Linked) (ha : a = i ∨ a ∈ t.children i) :
    (scopesAt q t i).any (t.isDescendantOf a ·) = q.isEnclosed t a := by
  -- The scopes around a child of the node are the node, if it is one, and those around it.
  unfold scopesAt Query.isEnclosed Outline.isDescendantOf
  rw [List.any_filter, Bool.eq_iff_iff]
  simp only [List.any_eq_true, Bool.and_eq_true, List.contains_eq_mem, decide_eq_true_eq]
  constructor
  . intro h
    obtain ⟨s, _, hscope, hs⟩ := h
    exact ⟨s, hs, hscope⟩
  . intro h
    obtain ⟨s, hs, hscope⟩ := h
    refine ⟨s, ?_, hscope, hs⟩
    cases ha with
    | inl heq =>
      subst heq
      rw [Outline.mem_lineage]
      exact .inr hs
    | inr ha =>
      rw [ht.mem_children] at ha
      rw [ht.ancestors_eq ha] at hs
      exact hs

theorem accepts_eq {i : Nat} {c : Candidate} (ht : t.Linked) (hc : c.anchor = i ∨ c.anchor ∈ t.children i) :
    accepts q t (scopesAt q t i) c = if q.isInPlace t c then q.accepts t c else .ok false := by
  unfold accepts Query.isInPlace
  rw [any_scopesAt ht hc]
  cases q.hasScope with
  | true =>
    cases q.isEnclosed t c.anchor with
    | true => rfl
    | false => rfl
  | false => rfl

end Enter

section Emit

variable {q : Query} {t : Outline} {i : Nat} {routed : List Routed}

/-- The candidates are judged by the node itself or by a child of it. -/
def AnchoredAt (t : Outline) (i : Nat) (cs : List Candidate) : Prop :=
  ∀ c ∈ cs, c.anchor = i ∨ c.anchor ∈ t.children i

theorem anchoredAt_beside (h : ∀ r ∈ routed, r.node.anchor = i ∨ r.node.anchor ∈ t.children i)
    (placement : Placement) : AnchoredAt t i (beside placement routed) := by
  intro c hc
  unfold beside at hc
  rw [List.mem_map] at hc
  obtain ⟨r, hr, heq⟩ := hc
  subst heq
  exact h r (List.mem_filter.mp hr).1

theorem anchored_candidate (h : ∀ r ∈ routed, r.node.anchor = i ∨ r.node.anchor ∈ t.children i) :
    (candidate i routed).anchor = i ∨ (candidate i routed).anchor ∈ t.children i := by
  unfold candidate
  split
  . exact .inl rfl
  . next r rs heq =>
    apply h
    have hr : r ∈ replacements routed := by
      rw [heq]
      exact List.mem_cons_self
    exact (List.mem_filter.mp hr).1

theorem filterM_accepts {cs : List Candidate} (ht : t.Linked) (h : AnchoredAt t i cs) :
    cs.filterM (accepts q t (scopesAt q t i)) =
      failOr ((cs.filter (q.isInPlace t)).findSome? fun c => Error.of? (q.accepts t c))
        (cs.filter (q.isAccepted t)) := by
  have hfault : cs.findSome? (fun c => Error.of? (accepts q t (scopesAt q t i) c))
      = (cs.filter (q.isInPlace t)).findSome? fun c => Error.of? (q.accepts t c) := by
    induction cs with
    | nil => rfl
    | cons c cs ih =>
      rw [List.findSome?_cons, accepts_eq ht (h c List.mem_cons_self), List.filter_cons,
        ih fun d hd => h d (List.mem_cons_of_mem c hd)]
      cases q.isInPlace t c with
      | true => rfl
      | false => rfl
  have hfound : cs.filter (fun c => isYes (accepts q t (scopesAt q t i) c)) = cs.filter (q.isAccepted t) := by
    apply List.filter_congr
    intro c hc
    rw [accepts_eq ht (h c hc)]
    unfold Query.isAccepted
    cases q.isInPlace t c with
    | true => rfl
    | false => rfl
  rw [filterM_eq, hfault, hfound]

theorem insertions_eq (ht : t.Linked) (h : ∀ r ∈ routed, r.node.anchor = i ∨ r.node.anchor ∈ t.children i)
    (placement : Placement) :
    insertions q t (scopesAt q t i) placement routed =
      failOr (((beside placement routed).filter (q.isInPlace t)).findSome? fun c => Error.of? (q.accepts t c))
        ((beside placement routed).filter (q.isAccepted t)) :=
  filterM_accepts ht (anchoredAt_beside h placement)

theorem emit_eq (ht : t.Linked) (h : ∀ r ∈ routed, r.node.anchor = i ∨ r.node.anchor ∈ t.children i) :
    emit q t (scopesAt q t i) i routed = failOr (lookupFault? q t i routed) (findings q t i routed) := by
  unfold emit lookupFault? asked findings
  dsimp only
  rw [accepts_eq ht (anchored_candidate h), insertions_eq ht h, insertions_eq ht h, List.filter_cons]
  generalize candidate i routed = c
  have haccepted : q.isAccepted t c = (q.isInPlace t c && isYes (q.accepts t c)) := rfl
  cases hplace : q.isInPlace t c with
  | false => simp [haccepted, hplace, bind, Except.bind, pure, Except.pure]
  | true =>
    cases hc : q.accepts t c with
    | error e => simp [hc, bind, Except.bind]
    | ok b =>
      cases b with
      | false => simp [haccepted, hc, bind, Except.bind, pure, Except.pure]
      | true =>
        -- The two sides are asked one after the other.
        simp only [haccepted, hplace, hc, if_true, List.findSome?_cons, List.filter_append, List.findSome?_append,
          Error.of?_ok, isYes_ok, Bool.and_self, bind, Except.bind, pure, Except.pure]
        cases ((beside .before routed).filter (q.isInPlace t)).findSome? fun c => Error.of? (q.accepts t c) with
        | some e => rfl
        | none =>
          cases ((beside .after routed).filter (q.isInPlace t)).findSome? fun c => Error.of? (q.accepts t c) with
          | some e => rfl
          | none => rfl

end Emit

section Run

variable {q : Query} {route : Router} {t : Outline}

theorem visit_eq {s : State} {i : Nat} (ht : t.Linked) (hr : Anchored route t) (hi : i < t.size)
    (henter : enter q t s.scopes i = .ok (scopesAt q t i)) :
    visit q route t s i = failOr (fault? q route t i)
      { scopes := scopesAt q t i, found := s.found.append (findingsAt q route t i) } := by
  unfold visit fault? routingFault? findingsAt routedAt
  cases hroute : route t i with
  | error e => rfl
  | ok routed =>
    have hroute' := hr i hi routed hroute
    simp only [bind, Except.bind]
    split
    . rfl
    . rw [henter]
      simp only
      rw [emit_eq ht hroute']
      simp only [Except.toOption, Option.getD, Option.none_or]
      cases lookupFault? q t i routed with
      | some e => rfl
      | none => rfl

theorem enter_scopesAt {i : Nat} (ht : t.Linked) (hq : q.Stated) (hi : i + 1 < t.size) :
    enter q t (scopesAt q t i) (i + 1) = .ok (scopesAt q t (i + 1)) := by
  obtain ⟨p, hparent, hp⟩ := ht.parent_succ i hi
  exact enter_eq ht hq hparent hp

theorem foldlM_visit {n i : Nat} {s : State} (ht : t.Linked) (hq : q.Stated) (hr : Anchored route t)
    (hsize : i + n ≤ t.size) (henter : 0 < n → enter q t s.scopes i = .ok (scopesAt q t i)) :
    ((List.range' i n).foldlM (visit q route t) s).map (·.found.toList) =
      failOr ((List.range' i n).findSome? (fault? q route t))
        (s.found.toList ++ (List.range' i n).flatMap (findingsAt q route t)) := by
  -- Induction on how many nodes are left: the scopes kept so far are always those at the node before.
  induction n generalizing i s with
  | zero => simp [Except.map, pure, Except.pure]
  | succ n ih =>
    rw [List.range'_succ, List.foldlM_cons, visit_eq ht hr (by omega) (henter (by omega)), List.findSome?_cons,
      List.flatMap_cons]
    cases fault? q route t i with
    | some e => rfl
    | none =>
      simp only [failOr_none, bind, Except.bind]
      rw [ih (by omega)]
      . simp only [Accumulator.toList_append, List.append_assoc]
      . intro hn
        exact enter_scopesAt ht hq (by omega)

theorem run_eq_map (q : Query) (route : Router) (t : Outline) :
    run q route t = ((t.preorder.foldlM (visit q route t) {}).map (·.found.toList)).map
      fun found => { visited := t.preorder.length, found } := by
  unfold run traverse
  cases t.preorder.foldlM (visit q route t) {} with
  | error e => rfl
  | ok s => rfl

theorem run_eq_failOr (ht : t.WellFormed) (hq : q.Stated) (hr : Anchored route t) :
    run q route t = failOr ((List.range t.size).findSome? (fault? q route t))
      { visited := t.size, found := (List.range t.size).flatMap (findingsAt q route t) } := by
  rw [run_eq_map, Outline.preorder_eq_range ht, List.length_range, List.range_eq_range',
    foldlM_visit ht.toLinked hq hr (by omega)]
  . cases (List.range' 0 t.size).findSome? (fault? q route t) with
    | some e => rfl
    | none => rfl
  . intro _
    exact enter_zero ht.toLinked hq

theorem isCut_of_lookupFault? {i : Nat} {routed : List Routed} {e : Error}
    (h : lookupFault? q t i routed = some e) : ∃ a, t.IsCut a e := by
  obtain ⟨c, _, h⟩ := List.exists_of_findSome?_eq_some h
  exact ⟨c.anchor, Query.isCut_of_accepts (Error.of?_eq_some.mp h)⟩

theorem fault?_eq (h : ∀ a e, ¬ t.IsCut a e) : fault? q route t = routingFault? route t := by
  funext i
  unfold fault?
  cases hlookup : lookupFault? q t i (routedAt route t i) with
  | none => simp
  | some e =>
    obtain ⟨a, ha⟩ := isCut_of_lookupFault? hlookup
    exact absurd ha (h a e)

theorem anchored_standard (t : Outline) : Anchored Registry.standard.resolve t := by
  intro i _ routed hroute r hr
  cases hmethod : Rule.methodBody.applies t i with
  | true =>
    obtain ⟨b, hb, hresolve⟩ := Registry.resolve_of_method hmethod
    rw [hresolve] at hroute
    cases hroute
    rw [List.mem_singleton] at hr
    subst hr
    exact .inr (List.mem_of_find?_eq_some hb)
  | false =>
    obtain ⟨routed', hresolve, hstandard⟩ := Registry.exists_standardRouting t i
    rw [hresolve] at hroute
    cases hroute
    rw [Registry.methodBody_applies_eq] at hmethod
    exact .inl (hstandard.replacing hmethod r hr).2.1

end Run

/--
The walk said node by node: the first node at which something is wrong ends it, otherwise it finds what is found at
each node in turn. Nothing can be wrong but the routing, unless the text of an argument is cut inside a character.
-/
theorem run_eq_nodewise {q : Query} {route : Router} {t : Outline} (ht : t.Built) (hq : q.Stated)
    (hr : Anchored route t) :
    run q route t = failOr ((List.range t.size).findSome? (fault? q route t))
      { visited := t.size, found := (List.range t.size).flatMap (findingsAt q route t) } ∧
    ((∀ a e, ¬ t.IsCut a e) →
      run q route t = failOr ((List.range t.size).findSome? (routingFault? route t))
        { visited := t.size, found := (List.range t.size).flatMap (findingsAt q route t) }) ∧
    Anchored Registry.standard.resolve t := by
  have hrun := run_eq_failOr ht.wellFormed hq hr
  refine ⟨hrun, ?_, anchored_standard t⟩
  intro hcut
  rw [hrun, fault?_eq hcut]

/-- Class `A` holds class `B` with method `m`, and method `n`; method `o` is in neither. -/
def nestedScopes : List Builder.Call := [
  .openLabel { kind := .compilationUnit },
  .openLabel { kind := .classDeclaration, name := some "A" },
  .openLabel { kind := .classDeclaration, name := some "B" },
  .openLabel { kind := .methodDeclaration, name := some "m" },
  .openLabel { kind := .block }, .closeNode, .closeNode, .closeNode,
  .openLabel { kind := .methodDeclaration, name := some "n" }, .closeNode, .closeNode,
  .openLabel { kind := .methodDeclaration, name := some "o" }, .closeNode, .closeNode]

def methodsInA : Descriptor :=
  { target := .method, scope := .classScope, scopeName := some "A" }

theorem run_nestedScopes :
    ∃ q, methodsInA.compile = .ok q ∧
      (run q Registry.standard.resolve ((Builder.new "" none).calls nestedScopes).outline).toOption
        = some { visited := 7, found := [.real 3, .real 5] } := by
  have ht : ((Builder.new "" none).calls nestedScopes).outline.Built := ⟨"", none, nestedScopes, rfl⟩
  refine ⟨_, rfl, ?_⟩
  rw [(run_eq_nodewise ht (.inl ⟨methodsInA, rfl⟩) (anchored_standard _)).1]
  decide +kernel

end Walk
end StructuralSearch
