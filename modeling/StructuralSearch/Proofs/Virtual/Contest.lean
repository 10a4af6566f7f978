import Mathlib.Data.Fintype.Card
import Mathlib.Data.Set.Finite.List
import StructuralSearch.Proofs.Failure
import StructuralSearch.Virtual.Registry

/-!
This module contains how rules that compete for a node are told apart, whatever rules are registered. The one that no
other one overrides wins, and the order of registration has no say in it.
-/

namespace StructuralSearch

open Relation (TransGen)

/-- The one rule overrides the other. That a rule names its own kind does not count. -/
def Rule.Overrides (r s : Rule) : Prop :=
  r ≠ s ∧ s.kind ∈ r.competition.overrides

namespace Registry

/-- No other one of the rules overrides this one. -/
def Unbeaten (rs : List Rule) (r : Rule) : Prop :=
  r ∈ rs ∧ ∀ s ∈ rs, ¬ s.Overrides r

/-- This rule and none but this one is not overridden. -/
def IsWinner (rs : List Rule) (r : Rule) : Prop :=
  Unbeaten rs r ∧ ∀ s, Unbeaten rs s → s = r

/-- One of the rules overrides another one of them. -/
def Dominates (rs : List Rule) (r s : Rule) : Prop :=
  r ∈ rs ∧ s ∈ rs ∧ r.Overrides s

/-- The rules that are named in a conflict: those that are not overridden, or all if there is none. -/
def InConflict (rs : List Rule) (r : Rule) : Prop :=
  r ∈ rs ∧ ((∃ s, Unbeaten rs s) → Unbeaten rs r)

section Winner

variable {rs rs' : List Rule} {r : Rule} {node : NodeKind}

theorem isUndominated_iff (hnodup : (rs.map Rule.kind).Nodup) (hr : r ∈ rs) :
    isUndominated rs r = true ↔ ∀ s ∈ rs, ¬ s.Overrides r := by
  -- The rules have different kinds, so they can be told apart by them.
  have hkind : ∀ s ∈ rs, s.kind = r.kind ↔ s = r := by
    intro s hs
    exact ⟨fun heq => List.inj_on_of_nodup_map hnodup hs hr heq, fun heq => by rw [heq]⟩
  unfold isUndominated Rule.Overrides
  simp only [Bool.not_eq_true', List.any_eq_false, Bool.and_eq_true, bne_iff_ne, ne_eq, List.contains_iff_mem]
  constructor
  . intro h s hs hover
    rw [← hkind s hs] at hover
    exact h s hs hover
  . intro h s hs hover
    rw [hkind s hs] at hover
    exact h s hs hover

theorem mem_filter_isUndominated (hnodup : (rs.map Rule.kind).Nodup) :
    r ∈ rs.filter (isUndominated rs) ↔ Unbeaten rs r := by
  rw [List.mem_filter]
  constructor
  . intro h
    exact ⟨h.1, (isUndominated_iff hnodup h.1).mp h.2⟩
  . intro h
    exact ⟨h.1, (isUndominated_iff hnodup h.1).mpr h.2⟩

theorem filter_isUndominated_eq (hnodup : (rs.map Rule.kind).Nodup) :
    rs.filter (isUndominated rs) = [r] ↔ IsWinner rs r := by
  constructor
  . intro h
    have hmem : ∀ s, Unbeaten rs s ↔ s = r := by
      intro s
      rw [← mem_filter_isUndominated hnodup, h, List.mem_singleton]
    exact ⟨(hmem r).mpr rfl, fun s hs => (hmem s).mp hs⟩
  . intro h
    have hunbeaten : (rs.filter (isUndominated rs)).Nodup := (List.Nodup.of_map _ hnodup).filter _
    rw [← List.perm_singleton, List.perm_ext_iff_of_nodup hunbeaten (List.nodup_singleton r)]
    intro s
    rw [mem_filter_isUndominated hnodup, List.mem_singleton]
    exact ⟨h.2 s, fun heq => heq ▸ h.1⟩

theorem isWinner_singleton (r : Rule) : IsWinner [r] r := by
  have hno : ∀ s ∈ [r], ¬ s.Overrides r := by
    intro s hs hover
    exact hover.1 (List.mem_singleton.mp hs)
  exact ⟨⟨List.mem_singleton_self r, hno⟩, fun s hs => List.mem_singleton.mp hs.1⟩

theorem winner?_of_isWinner (hnodup : (rs.map Rule.kind).Nodup) (h : IsWinner rs r) :
    winner? node rs = .ok (some r) := by
  unfold winner?
  split
  . cases h.1.1
  . next single =>
    rw [(isWinner_singleton single).2 r h.1]
  . rw [(filter_isUndominated_eq hnodup).mpr h]

theorem winner?_of_not_isWinner (hnodup : (rs.map Rule.kind).Nodup) (hne : rs ≠ []) (hno : ¬ ∃ r, IsWinner rs r) :
    ∃ named : List Rule, named.Sublist rs ∧ (∀ r, r ∈ named ↔ InConflict rs r) ∧
      winner? node rs = .error (.overrideConflict node (named.map Rule.kind)) := by
  unfold winner?
  split
  . exact absurd rfl hne
  . next single => exact absurd ⟨single, isWinner_singleton single⟩ hno
  . split
    . next r hfilter => exact absurd ⟨r, (filter_isUndominated_eq hnodup).mp hfilter⟩ hno
    . next hfilter =>
      refine ⟨rs, List.Sublist.refl rs, ?_, rfl⟩
      have hnone : ¬ ∃ s, Unbeaten rs s := by
        intro ⟨s, hs⟩
        rw [← mem_filter_isUndominated hnodup, hfilter] at hs
        cases hs
      intro r
      exact ⟨fun hr => ⟨hr, fun hex => absurd hex hnone⟩, fun hr => hr.1⟩
    . next hnone =>
      refine ⟨rs.filter (isUndominated rs), List.filter_sublist, ?_, rfl⟩
      obtain ⟨s, hs⟩ := List.exists_mem_of_ne_nil _ hnone
      rw [mem_filter_isUndominated hnodup] at hs
      intro r
      rw [mem_filter_isUndominated hnodup]
      exact ⟨fun hr => ⟨hr.1, fun _ => hr⟩, fun hr => hr.2 ⟨s, hs⟩⟩

/--
If no rule overrides itself by way of others, the winner overrides all others: whatever is overridden at all is
overridden by something that is not.
-/
theorem transGen_of_isWinner (hacyclic : ∀ a, ¬ TransGen (Dominates rs) a a) (h : IsWinner rs r) :
    ∀ s ∈ rs, s ≠ r → TransGen (Dominates rs) r s := by
  have hfinite : Finite { s // s ∈ rs } := List.finite_toSet rs
  let above : { s // s ∈ rs } → { s // s ∈ rs } → Prop := fun a b => TransGen (Dominates rs) a.1 b.1
  have htrans : IsTrans _ above := ⟨fun _ _ _ => TransGen.trans⟩
  have hirrefl : Std.Irrefl above := ⟨fun a => hacyclic a.1⟩
  have hwf : WellFounded above := Finite.wellFounded_of_trans_of_irrefl above
  intro s hs
  induction hmem : (⟨s, hs⟩ : { s // s ∈ rs }) using hwf.induction generalizing s with
  | _ x ih =>
    subst hmem
    intro hne
    have hbeaten : ∃ a ∈ rs, a.Overrides s := by
      apply Classical.byContradiction
      intro hno
      exact hne (h.2 s ⟨hs, fun a ha hover => hno ⟨a, ha, hover⟩⟩)
    obtain ⟨a, ha, hover⟩ := hbeaten
    have hstep : TransGen (Dominates rs) a s := .single ⟨ha, hs, hover⟩
    by_cases heq : a = r
    . rw [heq] at hstep
      exact hstep
    . exact (ih ⟨a, ha⟩ hstep a ha rfl heq).trans hstep

theorem unbeaten_of_perm (h : rs.Perm rs') : Unbeaten rs r ↔ Unbeaten rs' r := by
  unfold Unbeaten
  simp only [h.mem_iff]

theorem isWinner_of_perm (h : rs.Perm rs') : IsWinner rs r ↔ IsWinner rs' r := by
  unfold IsWinner
  simp only [unbeaten_of_perm h]

theorem inConflict_of_perm (h : rs.Perm rs') : InConflict rs r ↔ InConflict rs' r := by
  unfold InConflict
  simp only [unbeaten_of_perm h, h.mem_iff]

end Winner

section Accepted

variable {rules rules' : List Rule} {g : Registry}

/-- What registered rules are checked for. -/
structure Accepted (rules : List Rule) : Prop where
  ne_empty : ∀ r ∈ rules, r.kind ≠ .empty
  nodup : (rules.map Rule.kind).Nodup
  known : ∀ r ∈ rules, ∀ k ∈ r.competition.overrides, k ∈ rules.map Rule.kind

theorem checkKinds_eq_ok {taken : List VirtualKind} :
    checkKinds taken rules = .ok () ↔
      (∀ r ∈ rules, r.kind ≠ .empty ∧ r.kind ∉ taken) ∧ (rules.map Rule.kind).Nodup := by
  induction rules generalizing taken with
  | nil => simp [checkKinds]
  | cons r rules ih =>
    unfold checkKinds
    split
    . next hempty => simp [hempty]
    . next hempty =>
      split
      . next htaken => simp [List.contains_iff_mem.mp htaken]
      . next htaken =>
        rw [List.contains_iff_mem] at htaken
        rw [ih, List.map_cons, List.nodup_cons, List.forall_mem_cons]
        simp only [List.mem_cons, not_or, List.mem_map]
        grind

theorem checkOverrides_eq_ok {kinds : List VirtualKind} :
    checkOverrides kinds rules = .ok () ↔ ∀ r ∈ rules, ∀ k ∈ r.competition.overrides, k ∈ kinds := by
  induction rules with
  | nil => simp [checkOverrides]
  | cons r rules ih =>
    unfold checkOverrides
    rw [List.forall_mem_cons]
    split
    . next target hfind =>
      have hmem := List.mem_of_find?_eq_some hfind
      have hunknown := List.find?_some hfind
      simp only [Bool.not_eq_true', ← Bool.not_eq_true, List.contains_iff_mem] at hunknown
      simp only [reduceCtorEq, false_iff, not_and]
      intro hknown
      exact absurd (hknown target hmem) hunknown
    . next hfind =>
      have hknown : ∀ k ∈ r.competition.overrides, k ∈ kinds := by simpa using hfind
      rw [ih]
      exact ⟨fun h => ⟨hknown, h⟩, fun h => h.2⟩

theorem ofRules_eq_ok : ofRules rules = .ok g ↔ Accepted rules ∧ g = { rules } := by
  unfold ofRules
  simp only [bind_eq_ok]
  constructor
  . intro h
    obtain ⟨⟨⟩, hkinds, ⟨⟩, hoverrides, h⟩ := h
    cases h
    obtain ⟨hfresh, hnodup⟩ := checkKinds_eq_ok.mp hkinds
    exact ⟨⟨fun r hr => (hfresh r hr).1, hnodup, checkOverrides_eq_ok.mp hoverrides⟩, rfl⟩
  . intro h
    obtain ⟨h, heq⟩ := h
    subst heq
    have hfresh : ∀ r ∈ rules, r.kind ≠ .empty ∧ r.kind ∉ [] :=
      fun r hr => ⟨h.ne_empty r hr, List.not_mem_nil⟩
    exact ⟨(), checkKinds_eq_ok.mpr ⟨hfresh, h.nodup⟩, (), checkOverrides_eq_ok.mpr h.known, rfl⟩

theorem Accepted.of_perm (h : Accepted rules) (hperm : rules.Perm rules') : Accepted rules' := by
  have hkinds := hperm.map Rule.kind
  constructor
  . intro r hr
    exact h.ne_empty r (hperm.mem_iff.mpr hr)
  . exact hkinds.nodup_iff.mp h.nodup
  . intro r hr k hk
    rw [← hkinds.mem_iff]
    exact h.known r (hperm.mem_iff.mpr hr) k hk

end Accepted

/-- The rules that apply to a node, in the order of registration. -/
def applicants (g : Registry) (t : Outline) (i : Nat) : List Rule :=
  g.rules.filter fun r => r.applies t i

/-- Those of them that compete for the node. -/
def contenders (g : Registry) (t : Outline) (i : Nat) : List Rule :=
  (g.applicants t i).filter (·.competition.isOverridable)

/-- What a rule adds at a node if it does not compete. -/
def fixedNode? (t : Outline) (i : Nat) (r : Rule) : Option Routed :=
  match r.competition with
  | .fixed placement => (r.synthesize t i).toOption.map fun node => { placement, node }
  | .overridable _ => none

/-- What the rules that do not compete add at a node, in the order of registration. -/
def fixedRouting (g : Registry) (t : Outline) (i : Nat) : List Routed :=
  (g.applicants t i).filterMap (fixedNode? t i)

/-- How many virtual nodes are to replace a node: one for each fixed rule that says so, and one for a winner. -/
def replacers (g : Registry) (t : Outline) (i : Nat) : Nat :=
  (g.applicants t i).countP (·.competition == .fixed .replacing) + if (g.contenders t i).isEmpty then 0 else 1

/-- The rules that apply to a node make their virtual nodes there. -/
def Synthesizes (g : Registry) (t : Outline) (i : Nat) : Prop :=
  ∀ r ∈ g.rules, r.applies t i = true → ∃ v, r.synthesize t i = .ok v

/--
The same virtual nodes are routed, the winner last and the others in whatever order, or the same rules are in conflict.
-/
inductive Alike : Except Error (List Routed) → Except Error (List Routed) → Prop
  | routed {fixed fixed' won : List Routed} (h : fixed.Perm fixed') : Alike (.ok (fixed ++ won)) (.ok (fixed' ++ won))
  | conflict {node : NodeKind} {ks ks' : List VirtualKind} (h : ks.Perm ks') :
    Alike (.error (.overrideConflict node ks)) (.error (.overrideConflict node ks'))

section Resolve

variable {g g' : Registry} {t : Outline} {i : Nat} {r : Rule}

theorem fixedNodes_eq {rs : List Rule} (h : ∀ r ∈ rs, ∃ v, r.synthesize t i = .ok v) :
    fixedNodes t i rs = .ok (rs.filterMap (fixedNode? t i)) := by
  induction rs with
  | nil => rfl
  | cons r rs ih =>
    rw [List.forall_mem_cons] at h
    obtain ⟨⟨v, hv⟩, hrest⟩ := h
    rw [List.filterMap_cons, fixedNodes, fixedNode?]
    cases r.competition with
    | overridable ks => exact ih hrest
    | fixed placement =>
      rw [hv, ih hrest]
      rfl

theorem resolve_eq (hs : g.Synthesizes t i) :
    g.resolve t i = (winner? (t.kind i) (g.contenders t i)).bind fun w =>
      match w with
      | none => .ok (g.fixedRouting t i)
      | some r => (r.synthesize t i).map fun node => g.fixedRouting t i ++ [{ placement := .replacing, node }] := by
  have hfixed : fixedNodes t i (g.applicants t i) = .ok (g.fixedRouting t i) := by
    apply fixedNodes_eq
    intro r hr
    have hr := List.mem_filter.mp hr
    exact hs r hr.1 hr.2
  change (fixedNodes t i (g.applicants t i) >>= _) = _
  rw [hfixed]
  rfl

theorem nodup_contenders (hg : Accepted g.rules) : ((g.contenders t i).map Rule.kind).Nodup := by
  have hsub : (g.contenders t i).Sublist g.rules := List.filter_sublist.trans List.filter_sublist
  exact List.Nodup.sublist (hsub.map Rule.kind) hg.nodup

theorem mem_rules_of_mem_contenders (h : r ∈ g.contenders t i) : r ∈ g.rules ∧ r.applies t i = true :=
  List.mem_filter.mp (List.mem_filter.mp h).1

theorem resolve_of_uncontested (hs : g.Synthesizes t i) (h : g.contenders t i = []) :
    g.resolve t i = .ok (g.fixedRouting t i) := by
  rw [resolve_eq hs, h]
  rfl

theorem resolve_of_isWinner (hg : Accepted g.rules) (hs : g.Synthesizes t i) (h : IsWinner (g.contenders t i) r) :
    ∃ node, r.synthesize t i = .ok node ∧
      g.resolve t i = .ok (g.fixedRouting t i ++ [{ placement := .replacing, node }]) := by
  obtain ⟨hmem, happlies⟩ := mem_rules_of_mem_contenders h.1.1
  obtain ⟨node, hnode⟩ := hs r hmem happlies
  refine ⟨node, hnode, ?_⟩
  rw [resolve_eq hs, winner?_of_isWinner (nodup_contenders hg) h]
  simp only [Except.bind, hnode]
  rfl

theorem resolve_of_not_isWinner (hg : Accepted g.rules) (hs : g.Synthesizes t i) (hne : g.contenders t i ≠ [])
    (hno : ¬ ∃ r, IsWinner (g.contenders t i) r) :
    ∃ named : List Rule, named.Sublist (g.contenders t i) ∧ (∀ r, r ∈ named ↔ InConflict (g.contenders t i) r) ∧
      g.resolve t i = .error (.overrideConflict (t.kind i) (named.map Rule.kind)) := by
  obtain ⟨named, hsub, hmem, hwinner⟩ := winner?_of_not_isWinner (nodup_contenders hg) hne hno
  refine ⟨named, hsub, hmem, ?_⟩
  rw [resolve_eq hs, hwinner]
  rfl

theorem resolve_ok_iff (hg : Accepted g.rules) (hs : g.Synthesizes t i) :
    (∃ routed, g.resolve t i = .ok routed) ↔ g.contenders t i = [] ∨ ∃ r, IsWinner (g.contenders t i) r := by
  constructor
  . intro h
    obtain ⟨routed, hrouted⟩ := h
    apply Classical.byContradiction
    intro hno
    rw [not_or] at hno
    obtain ⟨named, _, _, hconflict⟩ := resolve_of_not_isWinner hg hs hno.1 hno.2
    rw [hrouted] at hconflict
    cases hconflict
  . intro h
    cases h with
    | inl hnone => exact ⟨_, resolve_of_uncontested hs hnone⟩
    | inr hwinner =>
      obtain ⟨r, hr⟩ := hwinner
      obtain ⟨node, _, hresolve⟩ := resolve_of_isWinner hg hs hr
      exact ⟨_, hresolve⟩

theorem resolve_alike (hg : Accepted g.rules) (hs : g.Synthesizes t i) (hperm : g.rules.Perm g'.rules) :
    Alike (g.resolve t i) (g'.resolve t i) := by
  have hg' := hg.of_perm hperm
  have hs' : g'.Synthesizes t i := by
    intro r hr
    exact hs r (hperm.mem_iff.mpr hr)
  have happlicants : (g.applicants t i).Perm (g'.applicants t i) := hperm.filter _
  have hcontenders : (g.contenders t i).Perm (g'.contenders t i) := happlicants.filter _
  have hfixed : (g.fixedRouting t i).Perm (g'.fixedRouting t i) := happlicants.filterMap _
  by_cases hnone : g.contenders t i = []
  . have hnone' : g'.contenders t i = [] := by
      rw [hnone] at hcontenders
      exact hcontenders.nil_eq.symm
    rw [resolve_of_uncontested hs hnone, resolve_of_uncontested hs' hnone', ← List.append_nil (g.fixedRouting t i),
      ← List.append_nil (g'.fixedRouting t i)]
    exact .routed hfixed
  . by_cases hwinner : ∃ r, IsWinner (g.contenders t i) r
    . obtain ⟨r, hr⟩ := hwinner
      obtain ⟨node, hnode, hresolve⟩ := resolve_of_isWinner hg hs hr
      obtain ⟨node', hnode', hresolve'⟩ := resolve_of_isWinner hg' hs' ((isWinner_of_perm hcontenders).mp hr)
      rw [hnode] at hnode'
      cases hnode'
      rw [hresolve, hresolve']
      exact .routed hfixed
    . have hnone' : g'.contenders t i ≠ [] := by
        intro hnil
        rw [hnil] at hcontenders
        exact hnone hcontenders.eq_nil
      have hwinner' : ¬ ∃ r, IsWinner (g'.contenders t i) r := by
        simp only [← isWinner_of_perm hcontenders]
        exact hwinner
      obtain ⟨named, hsub, hmem, hresolve⟩ := resolve_of_not_isWinner hg hs hnone hwinner
      obtain ⟨named', hsub', hmem', hresolve'⟩ := resolve_of_not_isWinner hg' hs' hnone' hwinner'
      have hnodup := (List.Nodup.of_map _ (nodup_contenders hg)).sublist hsub
      have hnodup' := (List.Nodup.of_map _ (nodup_contenders hg')).sublist hsub'
      have hnamed : named.Perm named' := by
        rw [List.perm_ext_iff_of_nodup hnodup hnodup']
        intro r
        rw [hmem, hmem', inConflict_of_perm hcontenders]
      rw [hresolve, hresolve']
      exact .conflict (hnamed.map _)

end Resolve

end Registry
end StructuralSearch
