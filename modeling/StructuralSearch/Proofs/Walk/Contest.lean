import StructuralSearch.Proofs.Virtual.Contest
import StructuralSearch.Proofs.Walk.Standard

/-!
This module contains what any registry does with a node: who wins it, which rules are in conflict about it, and when a
walk stops there because the node is replaced twice.
-/

namespace StructuralSearch

namespace Walk

variable {q : Query} {route : Router} {t : Outline} {s : State} {i count : Nat} {routed : List Routed}

theorem visit_eq_doubleReplacement (hroute : route t i = .ok routed) :
    visit q route t s i = .error (.doubleReplacement (t.kind i) count) ↔
      count = (replacements routed).length ∧ 1 < count := by
  by_cases hmany : 1 < (replacements routed).length
  . have hvisit : visit q route t s i = .error (.doubleReplacement (t.kind i) (replacements routed).length) := by
      unfold visit
      rw [hroute]
      exact if_pos hmany
    rw [hvisit]
    simp only [Except.error.injEq, Error.doubleReplacement.injEq, true_and]
    constructor
    . intro heq
      exact ⟨heq.symm, heq ▸ hmany⟩
    . intro heq
      exact heq.1.symm
  . constructor
    . intro h
      obtain ⟨a, hcut⟩ := isCut_of_visit_of_le hroute (Nat.le_of_not_lt hmany) h
      cases Outline.eq_cutCharacter_of_text hcut.2
    . intro h
      exact absurd (h.1 ▸ h.2) hmany

end Walk

namespace Registry

open Relation (TransGen)

variable {g : Registry} {t : Outline} {i : Nat}

theorem length_replacements_filterMap {rs : List Rule} (h : ∀ r ∈ rs, ∃ v, r.synthesize t i = .ok v) :
    (Walk.replacements (rs.filterMap (fixedNode? t i))).length
      = rs.countP (·.competition == .fixed .replacing) := by
  induction rs with
  | nil => rfl
  | cons r rs ih =>
    rw [List.forall_mem_cons] at h
    obtain ⟨⟨v, hv⟩, hrest⟩ := h
    rw [List.filterMap_cons, List.countP_cons, ← ih hrest, fixedNode?, hv]
    cases r.competition with
    | overridable ks => rfl
    | fixed placement =>
      cases placement with
      | replacing => rfl
      | before => rfl
      | after => rfl

theorem length_replacements_fixedRouting (hs : g.Synthesizes t i) :
    (Walk.replacements (g.fixedRouting t i)).length
      = (g.applicants t i).countP (·.competition == .fixed .replacing) := by
  apply length_replacements_filterMap
  intro r hr
  have hr := List.mem_filter.mp hr
  exact hs r hr.1 hr.2

theorem length_replacements_of_resolve {routed : List Routed} (hg : Accepted g.rules) (hs : g.Synthesizes t i)
    (h : g.resolve t i = .ok routed) : (Walk.replacements routed).length = g.replacers t i := by
  unfold replacers
  rw [← length_replacements_fixedRouting hs]
  cases (resolve_ok_iff hg hs).mp ⟨routed, h⟩ with
  | inl hnone =>
    rw [resolve_of_uncontested hs hnone] at h
    cases h
    rw [hnone]
    rfl
  | inr hwinner =>
    obtain ⟨r, hr⟩ := hwinner
    obtain ⟨node, _, hresolve⟩ := resolve_of_isWinner hg hs hr
    rw [hresolve] at h
    cases h
    have hsome : (g.contenders t i).isEmpty = false := by
      rw [List.isEmpty_eq_false_iff]
      exact List.ne_nil_of_mem hr.1.1
    rw [hsome, Walk.replacements, List.filter_append, List.length_append]
    rfl

/-- What a registry does with a node. -/
structure Settles (g : Registry) (t : Outline) (i : Nat) : Prop where
  ok_iff : (∃ routed, g.resolve t i = .ok routed) ↔
    g.contenders t i = [] ∨ ∃ r, IsWinner (g.contenders t i) r
  /-- If no rule competes for the node, the others add what they make. -/
  uncontested : g.contenders t i = [] → g.resolve t i = .ok (g.fixedRouting t i)
  /-- The winner comes after all that, in place of the node. -/
  won : ∀ r, IsWinner (g.contenders t i) r → ∃ node, r.synthesize t i = .ok node ∧
    g.resolve t i = .ok (g.fixedRouting t i ++ [{ placement := .replacing, node }])
  /-- Without a winner the rules in conflict are named in the order of registration. -/
  disputed : g.contenders t i ≠ [] → (¬ ∃ r, IsWinner (g.contenders t i) r) →
    ∃ named : List Rule, named.Sublist (g.contenders t i) ∧ (∀ r, r ∈ named ↔ InConflict (g.contenders t i) r) ∧
      g.resolve t i = .error (.overrideConflict (t.kind i) (named.map Rule.kind))
  /-- A walk that comes to the node fails there if it has more than one replacement. -/
  doubled : ∀ routed, g.resolve t i = .ok routed → ∀ q s count,
    Walk.visit q g.resolve t s i = .error (.doubleReplacement (t.kind i) count) ↔
      count = g.replacers t i ∧ 1 < count
  chained : (∀ r, ¬ TransGen (Dominates (g.contenders t i)) r r) → ∀ r, IsWinner (g.contenders t i) r →
    ∀ s ∈ g.contenders t i, s ≠ r → TransGen (Dominates (g.contenders t i)) r s

theorem settles_of_accepted (hg : Accepted g.rules) (hs : g.Synthesizes t i) : g.Settles t i where
  ok_iff := resolve_ok_iff hg hs
  uncontested := resolve_of_uncontested hs
  won := fun _ hr => resolve_of_isWinner hg hs hr
  disputed := resolve_of_not_isWinner hg hs
  doubled := by
    intro routed h q s count
    rw [Walk.visit_eq_doubleReplacement h, length_replacements_of_resolve hg hs h]
  chained := fun hacyclic _ hr => transGen_of_isWinner hacyclic hr

/--
Whatever rules are registered, a node that none or one of them wins is routed and any other one is disputed. The same
rules in another order have the same winner and route the same virtual nodes, or have the same rules in conflict.
-/
theorem ofRules_settles {rules : List Rule} (h : ofRules rules = .ok g) (hs : g.Synthesizes t i) :
    g.Settles t i ∧ ∀ rules', rules.Perm rules' → ∃ g', ofRules rules' = .ok g' ∧ g'.Settles t i ∧
      (∀ r, IsWinner (g'.contenders t i) r ↔ IsWinner (g.contenders t i) r) ∧
      Alike (g.resolve t i) (g'.resolve t i) := by
  obtain ⟨hg, heq⟩ := ofRules_eq_ok.mp h
  subst heq
  refine ⟨settles_of_accepted hg hs, ?_⟩
  intro rules' hperm
  have hg' := hg.of_perm hperm
  have hs' : Synthesizes { rules := rules' } t i := fun r hr => hs r (hperm.mem_iff.mpr hr)
  have hcontenders : (contenders { rules } t i).Perm (contenders { rules := rules' } t i) :=
    (hperm.filter _).filter _
  refine ⟨{ rules := rules' }, ofRules_eq_ok.mpr ⟨hg', rfl⟩, settles_of_accepted hg' hs', ?_, ?_⟩
  . intro r
    exact (isWinner_of_perm hcontenders).symm
  . exact resolve_alike hg hs hperm

/-- Each of the first three rules but the last of them overrides the next one, and the fourth one does not compete. -/
def overridingChain : List Rule := [
  .onKinds .nestedBlock (.overridable []) [.block],
  .onKinds .ifBody (.overridable [.nestedBlock]) [.block],
  .onKinds .tryBody (.overridable [.ifBody]) [.block],
  .onKinds .methodBody (.fixed .after) [.block]]

/-- An outline of nothing but a block. -/
def loneBlock : Outline :=
  ((Builder.new "" none).calls [.openLabel { kind := .block }, .closeNode]).outline

theorem settles_overridingChain :
    ∃ g g', ofRules overridingChain = .ok g ∧ ofRules overridingChain.reverse = .ok g' ∧ g.Synthesizes loneBlock 0 ∧
      g.Settles loneBlock 0 ∧ Alike (g.resolve loneBlock 0) (g'.resolve loneBlock 0) ∧
      g.resolve loneBlock 0 = .ok [
        { placement := .after, node := .around 0 .methodBody }, { placement := .replacing, node := .around 0 .tryBody }]
    := by
  have hchain : ofRules overridingChain = .ok { rules := overridingChain } := rfl
  have hs : Synthesizes { rules := overridingChain } loneBlock 0 := by
    intro r hr _
    simp only [overridingChain, List.mem_cons, List.not_mem_nil, or_false] at hr
    obtain heq | heq | heq | heq := hr <;> exact ⟨_, by rw [heq]; rfl⟩
  obtain ⟨hsettles, hperms⟩ := ofRules_settles hchain hs
  obtain ⟨g', hreverse, _, _, halike⟩ := hperms _ (List.reverse_perm overridingChain).symm
  exact ⟨_, g', hchain, hreverse, hs, hsettles, halike, rfl⟩

end Registry
end StructuralSearch
