import StructuralSearch.Proofs.Virtual.Contest

/-!
This module contains which lists of rules can be registered and what is wrong with the others. Whether a list is
accepted does not depend on its order; for which rule it is refused does.
-/

namespace StructuralSearch
namespace Registry

/-- No rule has the empty kind, and no two have the same. -/
structure DistinctKinds (rules : List Rule) : Prop where
  ne_empty : ∀ r ∈ rules, r.kind ≠ .empty
  nodup : (rules.map Rule.kind).Nodup

/-- What is wrong with the kind of a rule that is registered after others. -/
inductive KindFault (earlier : List VirtualKind) (r : Rule) : InvalidArgument → Prop where
  | empty (h : r.kind = .empty) : KindFault earlier r .emptyKindRule
  | repeated (hne : r.kind ≠ .empty) (h : r.kind ∈ earlier) : KindFault earlier r (.repeatedRule r.kind)

/-- All kinds that a rule overrides are among the given ones. -/
def Knows (kinds : List VirtualKind) (r : Rule) : Prop :=
  ∀ ks, r.competition = .overridable ks → ∀ k ∈ ks, k ∈ kinds

/-- The first kind in the list of a rule which is not among the given ones. -/
inductive FirstUnknown (kinds : List VirtualKind) (r : Rule) : VirtualKind → Prop where
  | listed {known others : List VirtualKind} {target : VirtualKind}
    (h : r.competition = .overridable (known ++ target :: others)) (hknown : ∀ k ∈ known, k ∈ kinds)
    (htarget : target ∉ kinds) : FirstUnknown kinds r target

/--
Why rules are refused: for the first one whose kind is at fault, or, if there is none, for the first one that overrides
what no rule makes.
-/
inductive Refused (rules : List Rule) : Error → Prop where
  | kind {before after : List Rule} {r : Rule} {cause : InvalidArgument} (hrules : rules = before ++ r :: after)
    (hbefore : DistinctKinds before) (h : KindFault (before.map Rule.kind) r cause) :
    Refused rules (.invalidArgument cause)
  | override {before after : List Rule} {r : Rule} {target : VirtualKind} (hkinds : DistinctKinds rules)
    (hrules : rules = before ++ r :: after) (hbefore : ∀ s ∈ before, Knows (rules.map Rule.kind) s)
    (h : FirstUnknown (rules.map Rule.kind) r target) : Refused rules (.isolatedOverride r.kind target)

variable {rules before after : List Rule} {r : Rule} {kinds taken : List VirtualKind} {e : Error}

section Kinds

theorem KindFault.of_subset {later : List VirtualKind} {cause : InvalidArgument} (h : KindFault taken r cause)
    (hsub : taken ⊆ later) : KindFault later r cause := by
  cases h with
  | empty hempty => exact .empty hempty
  | repeated hne htaken => exact .repeated hne (hsub htaken)

theorem checkKinds_nil_eq_ok : checkKinds [] rules = .ok () ↔ DistinctKinds rules := by
  rw [checkKinds_eq_ok]
  constructor
  . intro h
    exact ⟨fun r hr => (h.1 r hr).1, h.2⟩
  . intro h
    exact ⟨fun r hr => ⟨h.ne_empty r hr, List.not_mem_nil⟩, h.nodup⟩

/-- After some rules have been checked, their kinds are taken. -/
theorem checkKinds_append (h : checkKinds taken before = .ok ()) :
    checkKinds taken (before ++ after) = checkKinds ((before.map Rule.kind).reverse ++ taken) after := by
  induction before generalizing taken with
  | nil => rfl
  | cons r before ih =>
    unfold checkKinds at h
    split at h
    . cases h
    . next hne =>
      split at h
      . cases h
      . next hfresh =>
        rw [List.cons_append, checkKinds, if_neg hne, if_neg hfresh, ih h]
        simp

theorem checkKinds_cons_of_fault {cause : InvalidArgument} (h : KindFault taken r cause) (after : List Rule) :
    checkKinds taken (r :: after) = .error (.invalidArgument cause) := by
  unfold checkKinds
  cases h with
  | empty hempty => rw [if_pos hempty]
  | repeated hne htaken => rw [if_neg hne, if_pos (List.contains_iff_mem.mpr htaken)]

theorem exists_kindFault (h : checkKinds taken rules = .error e) :
    ∃ before r after cause, rules = before ++ r :: after ∧ checkKinds taken before = .ok () ∧
      KindFault ((before.map Rule.kind).reverse ++ taken) r cause ∧ e = .invalidArgument cause := by
  induction rules generalizing taken with
  | nil => cases h
  | cons r rules ih =>
    unfold checkKinds at h
    split at h
    . next hempty =>
      cases h
      exact ⟨[], r, rules, _, rfl, rfl, .empty hempty, rfl⟩
    . next hne =>
      split at h
      . next htaken =>
        cases h
        exact ⟨[], r, rules, _, rfl, rfl, .repeated hne (List.contains_iff_mem.mp htaken), rfl⟩
      . next hfresh =>
        obtain ⟨before, s, after, cause, hrules, hbefore, hfault, he⟩ := ih h
        refine ⟨r :: before, s, after, cause, by rw [hrules, List.cons_append], ?_, ?_, he⟩
        . rw [checkKinds, if_neg hne, if_neg hfresh]
          exact hbefore
        . simpa using hfault

end Kinds

section Overrides

theorem knows_iff : Knows kinds r ↔ ∀ k ∈ r.competition.overrides, k ∈ kinds := by
  unfold Knows
  cases r.competition with
  | overridable ks => simp [Competition.overrides]
  | fixed placement => simp [Competition.overrides]

theorem checkOverrides_eq_ok_iff_knows : checkOverrides kinds rules = .ok () ↔ ∀ r ∈ rules, Knows kinds r := by
  rw [checkOverrides_eq_ok]
  simp only [knows_iff]

theorem find?_overrides {target : VirtualKind} :
    r.competition.overrides.find? (!kinds.contains ·) = some target ↔ FirstUnknown kinds r target := by
  simp only [List.find?_eq_some_iff_append, Bool.not_not, Bool.not_eq_true', ← Bool.not_eq_true,
    List.contains_iff_mem]
  constructor
  . intro h
    obtain ⟨htarget, known, others, hlist, hknown⟩ := h
    cases hcompetition : r.competition with
    | overridable ks =>
      rw [hcompetition, Competition.overrides] at hlist
      rw [hlist] at hcompetition
      exact .listed hcompetition hknown htarget
    | fixed placement =>
      rw [hcompetition, Competition.overrides] at hlist
      exact absurd hlist.symm (by simp)
  . intro h
    cases h with
    | @listed known others _ hcompetition hknown htarget =>
      refine ⟨htarget, known, others, ?_, hknown⟩
      rw [hcompetition, Competition.overrides]

theorem checkOverrides_append (h : checkOverrides kinds before = .ok ()) :
    checkOverrides kinds (before ++ after) = checkOverrides kinds after := by
  induction before with
  | nil => rfl
  | cons r before ih =>
    unfold checkOverrides at h
    split at h
    . cases h
    . next hfind =>
      rw [List.cons_append, checkOverrides, hfind]
      exact ih h

theorem checkOverrides_cons_of_unknown {target : VirtualKind} (h : FirstUnknown kinds r target) (after : List Rule) :
    checkOverrides kinds (r :: after) = .error (.isolatedOverride r.kind target) := by
  rw [checkOverrides, find?_overrides.mpr h]

theorem exists_firstUnknown (h : checkOverrides kinds rules = .error e) :
    ∃ before r after target, rules = before ++ r :: after ∧ checkOverrides kinds before = .ok () ∧
      FirstUnknown kinds r target ∧ e = .isolatedOverride r.kind target := by
  induction rules with
  | nil => cases h
  | cons r rules ih =>
    unfold checkOverrides at h
    split at h
    . next target hfind =>
      cases h
      exact ⟨[], r, rules, target, rfl, rfl, find?_overrides.mp hfind, rfl⟩
    . next hfind =>
      obtain ⟨before, s, after, target, hrules, hbefore, hunknown, he⟩ := ih h
      refine ⟨r :: before, s, after, target, by rw [hrules, List.cons_append], ?_, hunknown, he⟩
      rw [checkOverrides, hfind]
      exact hbefore

end Overrides

section Register

theorem ofRules_eq_bind :
    ofRules rules = (checkKinds [] rules >>= fun _ => checkOverrides (rules.map Rule.kind) rules >>= fun _ =>
      .ok { rules }) :=
  rfl

theorem accepted_iff : Accepted rules ↔ DistinctKinds rules ∧ ∀ r ∈ rules, Knows (rules.map Rule.kind) r := by
  simp only [knows_iff]
  constructor
  . intro h
    exact ⟨⟨h.ne_empty, h.nodup⟩, h.known⟩
  . intro h
    exact ⟨h.1.ne_empty, h.1.nodup, h.2⟩

theorem ofRules_ok_iff : (∃ g, ofRules rules = .ok g) ↔ Accepted rules := by
  simp only [ofRules_eq_ok]
  exact ⟨fun ⟨_, h⟩ => h.1, fun h => ⟨_, h, rfl⟩⟩

theorem refused_of_ofRules (h : ofRules rules = .error e) : Refused rules e := by
  rw [ofRules_eq_bind, bind_eq_error] at h
  obtain hkinds | ⟨_, hkinds, h⟩ := h
  . obtain ⟨before, r, after, cause, hrules, hbefore, hfault, he⟩ := exists_kindFault hkinds
    rw [he]
    exact .kind hrules (checkKinds_nil_eq_ok.mp hbefore) (hfault.of_subset (by simp))
  . rw [bind_eq_error] at h
    obtain hoverrides | ⟨_, _, h⟩ := h
    . obtain ⟨before, r, after, target, hrules, hbefore, hunknown, he⟩ := exists_firstUnknown hoverrides
      rw [he]
      exact .override (checkKinds_nil_eq_ok.mp hkinds) hrules (checkOverrides_eq_ok_iff_knows.mp hbefore) hunknown
    . cases h

theorem ofRules_of_refused (h : Refused rules e) : ofRules rules = .error e := by
  rw [ofRules_eq_bind, bind_eq_error]
  cases h with
  | @kind before after r cause hrules hbefore hfault =>
    left
    rw [hrules, checkKinds_append (checkKinds_nil_eq_ok.mpr hbefore)]
    exact checkKinds_cons_of_fault (hfault.of_subset (by simp)) after
  | @override before after r target hkinds hrules hbefore hunknown =>
    refine .inr ⟨(), checkKinds_nil_eq_ok.mpr hkinds, ?_⟩
    rw [bind_eq_error]
    left
    -- The kinds are those of all rules, so they must not be split along with the rules.
    generalize hall : rules.map Rule.kind = all at hbefore hunknown ⊢
    rw [hrules, checkOverrides_append (checkOverrides_eq_ok_iff_knows.mpr hbefore)]
    exact checkOverrides_cons_of_unknown hunknown after

/-- A rule that does not compete lists no kinds, and no other rule has its kind. -/
theorem ofRules_ne_isolatedOverride {placement : Placement} (hr : r ∈ rules) (hfixed : r.competition = .fixed placement)
    (target : VirtualKind) : ofRules rules ≠ .error (.isolatedOverride r.kind target) := by
  intro h
  have hrefused := refused_of_ofRules h
  generalize he : Error.isolatedOverride r.kind target = e at hrefused
  cases hrefused with
  | kind => cases he
  | @override before after s _ hkinds hrules _ hunknown =>
    rw [Error.isolatedOverride.injEq] at he
    have hs : s ∈ rules := by simp [hrules]
    have heq : r = s := List.inj_on_of_nodup_map hkinds.nodup hr hs he.1
    cases hunknown with
    | listed hcompetition =>
      rw [← heq, hfixed] at hcompetition
      cases hcompetition

end Register

/--
Rules can be registered exactly if each has a kind of its own and overrides none but kinds of other rules or its own, in
whatever order they come. If they cannot, the failure is the one of the first rule at fault, where faults of kinds come
before those of overriding, which only rules that compete can have.
-/
theorem ofRules_validates (rules : List Rule) :
    ((∃ g, ofRules rules = .ok g) ↔
      DistinctKinds rules ∧ ∀ r ∈ rules, ∀ ks, r.competition = .overridable ks → ∀ k ∈ ks, ∃ s ∈ rules, s.kind = k) ∧
    (∀ g, ofRules rules = .ok g → g.rules = rules) ∧
    (∀ rules', rules.Perm rules' → ((∃ g, ofRules rules = .ok g) ↔ ∃ g, ofRules rules' = .ok g)) ∧
    (∀ e, ofRules rules = .error e ↔ Refused rules e) ∧
    ∀ r ∈ rules, ∀ placement, r.competition = .fixed placement →
      ∀ target, ofRules rules ≠ .error (.isolatedOverride r.kind target) := by
  refine ⟨?_, ?_, ?_, fun e => ⟨refused_of_ofRules, ofRules_of_refused⟩, ?_⟩
  . rw [ofRules_ok_iff, accepted_iff]
    unfold Knows
    simp only [List.mem_map]
  . intro g hg
    rw [(ofRules_eq_ok.mp hg).2]
  . intro rules' hperm
    rw [ofRules_ok_iff, ofRules_ok_iff]
    exact ⟨fun h => h.of_perm hperm, fun h => h.of_perm hperm.symm⟩
  . intro r hr placement hfixed target
    exact ofRules_ne_isolatedOverride hr hfixed target

/-- A rule that overrides one after it, itself and one that is not there. -/
def overridingForward : List Rule := [
  .onKinds .methodBody (.fixed .after) [],
  .onKinds .ifBody (.overridable [.elseBody, .ifBody, .tryBody]) [],
  .onKinds .elseBody (.overridable []) []]

theorem ofRules_overridingForward :
    Refused overridingForward (.isolatedOverride .ifBody .tryBody) ∧
      ¬ (∃ g, ofRules overridingForward.reverse = .ok g) ∧
      ∃ g, ofRules (.onKinds .tryBody (.fixed .after) [] :: overridingForward) = .ok g := by
  obtain ⟨_, _, hperm, hrefused, _⟩ := ofRules_validates overridingForward
  have hfails : ofRules overridingForward = .error (.isolatedOverride .ifBody .tryBody) := rfl
  refine ⟨(hrefused _).mp hfails, ?_, _, rfl⟩
  rw [← hperm _ (List.reverse_perm _).symm, hfails]
  simp

end Registry
end StructuralSearch
