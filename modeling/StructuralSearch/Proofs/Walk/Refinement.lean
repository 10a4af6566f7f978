import Mathlib.Data.List.Basic
import Mathlib.Data.List.Flatten
import StructuralSearch.Proofs.Query.Meaning
import StructuralSearch.Proofs.Walk.Standard

/-!
This module contains what becomes of the matches when a descriptor asks for more: some of them go, none are added, and
those that stay are in the same order.
-/

namespace StructuralSearch

/-- To ask for fewer of the patterns that a name may have, and to exclude more of them, makes a filter stricter. -/
theorem NameFilter.Admits.of_stricter {regex : Bool} {contains contains' excludes excludes' : List String}
    {name : String} (hcontains : contains = [] ∨ contains' ≠ [] ∧ ∀ p ∈ contains', p ∈ contains)
    (hexcludes : ∀ p ∈ excludes, p ∈ excludes') (h : Admits regex contains' excludes' name) :
    Admits regex contains excludes name := by
  refine ⟨?_, fun p hp => h.2 p (hexcludes p hp)⟩
  cases hcontains with
  | inl hnil => exact .inl hnil
  | inr hsub =>
    obtain ⟨p, hp, hfinds⟩ := h.1.resolve_left hsub.1
    exact .inr ⟨p, hsub.2 p hp, hfinds⟩

namespace Descriptor

/-- The descriptor `e` keeps all that `d` asks for, and may ask for more. -/
structure Refines (e d : Descriptor) : Prop where
  regex : e.regex = d.regex
  target : d.target = .any ∨ d.target = e.target
  access : ∀ m ∈ d.access.modifiers?.getD [], m ∈ e.access.modifiers?.getD []
  path : ∀ p ∈ d.pathContains, p ∈ e.pathContains
  excludes : ∀ p ∈ d.nameExcludes, p ∈ e.nameExcludes
  /-- One of the patterns has to be found, so that fewer of them ask for more. -/
  contains : d.nameContains = [] ∨ e.nameContains ≠ [] ∧ ∀ p ∈ e.nameContains, p ∈ d.nameContains
  scope : d.scope = .any ∨ d.scope = e.scope
  scopeName : d.scopeName = none ∨ d.scopeName = e.scopeName

variable {d e : Descriptor} {p q : Query} {t : Outline}

theorem Meets.of_refines {c : Candidate} (h : e.Refines d) (hmeets : e.Meets t c) : d.Meets t c where
  target := by
    cases h.target with
    | inl hany =>
      rw [hany]
      exact .any _
    | inr heq =>
      rw [heq]
      exact hmeets.target
  name := by
    by_cases hnone : d.nameContains = [] ∧ d.nameExcludes = []
    . exact .inl hnone
    . -- A list of `d` that is not empty makes a list of `e` not empty, and then the candidate has a name.
      have hsome : ¬ (e.nameContains = [] ∧ e.nameExcludes = []) := by
        intro hempty
        apply hnone
        refine ⟨h.contains.resolve_right fun hsub => hsub.1 hempty.1, ?_⟩
        have hexcludes := h.excludes
        rw [hempty.2] at hexcludes
        exact List.eq_nil_iff_forall_not_mem.mpr fun x hx => List.not_mem_nil (hexcludes x hx)
      obtain ⟨name, hname, hadmits⟩ := hmeets.name.resolve_left hsome
      rw [h.regex] at hadmits
      exact .inr ⟨name, hname, hadmits.of_stricter h.contains h.excludes⟩
  access := by
    intro m hm
    apply hmeets.access
    rw [AccessLevel.demands_iff] at hm ⊢
    exact h.access m hm
  path := by
    intro x hx
    rw [← h.regex]
    exact hmeets.path x (h.path x hx)

theorem IsScope.of_refines {i : Nat} (h : e.Refines d) (hasked : d.scope ≠ .any ∨ d.scopeName ≠ none)
    (hscope : e.IsScope t i) : d.IsScope t i where
  asked := hasked
  kind := by
    cases h.scope with
    | inl hany =>
      rw [hany]
      exact .any hscope.kind
    | inr heq =>
      rw [heq]
      exact hscope.kind
  name := by
    intro x hx
    have heq := h.scopeName.resolve_left (by rw [hx]; exact Option.some_ne_none x)
    rw [hx] at heq
    rw [← h.regex]
    exact hscope.name x heq.symm

theorem isYes_accepts_of_refines {c : Candidate} (hd : d.compile = .ok p) (he : e.compile = .ok q) (h : e.Refines d)
    (hyes : isYes (q.accepts t c) = true) : isYes (p.accepts t c) = true := by
  rw [isYes_eq_true] at hyes ⊢
  rw [accepts_iff hd]
  rw [accepts_iff he] at hyes
  exact hyes.of_refines h

theorem isInPlace_of_refines {c : Candidate} (hd : d.compile = .ok p) (he : e.compile = .ok q) (h : e.Refines d)
    (hplace : q.isInPlace t c = true) : p.isInPlace t c = true := by
  unfold Query.isInPlace at hplace ⊢
  cases hscope : p.hasScope with
  | false => rfl
  | true =>
    -- If `d` asks for a scope then so does `e`, and each scope that `e` asks for is one that `d` asks for.
    have hasked := (hasScope_iff hd).mp hscope
    have hasked' : q.hasScope = true := by
      rw [hasScope_iff he]
      cases hasked with
      | inl hne => exact .inl (h.scope.resolve_left hne ▸ hne)
      | inr hne => exact .inr (h.scopeName.resolve_left hne ▸ hne)
    rw [hasked', Bool.not_true, Bool.false_or] at hplace
    rw [Bool.not_true, Bool.false_or]
    unfold Query.isEnclosed at hplace ⊢
    rw [List.any_eq_true] at hplace ⊢
    obtain ⟨a, ha, hyes⟩ := hplace
    refine ⟨a, ha, ?_⟩
    rw [isYes_eq_true, isScope_iff he] at hyes
    rw [isYes_eq_true, isScope_iff hd]
    exact hyes.of_refines h hasked

theorem isAccepted_of_refines {c : Candidate} (hd : d.compile = .ok p) (he : e.compile = .ok q) (h : e.Refines d)
    (haccepted : q.isAccepted t c = true) : p.isAccepted t c = true := by
  unfold Query.isAccepted at haccepted ⊢
  rw [Bool.and_eq_true] at haccepted ⊢
  exact ⟨isInPlace_of_refines hd he h haccepted.1, isYes_accepts_of_refines hd he h haccepted.2⟩

end Descriptor

namespace Walk

variable {p q : Query} {route : Router} {t : Outline}

theorem findings_sublist_findings {i : Nat} {routed : List Routed}
    (h : ∀ c, q.isAccepted t c = true → p.isAccepted t c = true) :
    (findings q t i routed).Sublist (findings p t i routed) := by
  unfold findings
  dsimp only
  -- What is found beside a candidate depends on the candidate, but where `q` accepts it so does `p`.
  cases hq : q.isAccepted t (candidate i routed) with
  | false => exact List.nil_sublist _
  | true =>
    rw [h _ hq, if_pos rfl, if_pos rfl]
    exact (List.monotone_filter_right _ h).append ((List.monotone_filter_right _ h).cons_cons _)

theorem exists_run_iff (ht : t.WellFormed) (hq : q.Stated) :
    (∃ w, run q Registry.standard.resolve t = .ok w) ↔
      ∀ i < t.size, lookupFault? q t i (routedAt Registry.standard.resolve t i) = none := by
  have hfault : fault? q Registry.standard.resolve t =
      fun i => lookupFault? q t i (routedAt Registry.standard.resolve t i) := by
    funext i
    unfold fault?
    rw [routingFault?_standard, Option.none_or]
  rw [run_eq_failOr ht hq (anchored_standard t), hfault]
  simp only [← List.mem_range, ← List.findSome?_eq_none_iff]
  cases (List.range t.size).findSome? fun i => lookupFault? q t i (routedAt Registry.standard.resolve t i) with
  | none => simp
  | some e => simp

theorem found_eq_of_run {w : Walk} (ht : t.WellFormed) (hq : q.Stated)
    (h : run q Registry.standard.resolve t = .ok w) :
    w.found = (List.range t.size).flatMap (findingsAt q Registry.standard.resolve t) := by
  rw [run_eq_failOr ht hq (anchored_standard t)] at h
  cases hfault : (List.range t.size).findSome? (fault? q Registry.standard.resolve t) with
  | some e =>
    rw [hfault] at h
    cases h
  | none =>
    rw [hfault] at h
    cases h
    rfl

/--
A descriptor that keeps all that another one asks for finds no more: what it finds is found by the other one as well, in
the same order. Both walks return unless they ask for the text of an argument that is cut inside a character.
-/
theorem run_refined {d e : Descriptor} (ht : t.Built) (hd : d.compile = .ok p) (he : e.compile = .ok q)
    (h : e.Refines d) :
    (∀ w v, run p Registry.standard.resolve t = .ok w → run q Registry.standard.resolve t = .ok v →
      v.found.Sublist w.found) ∧
    (∀ x ∈ [p, q], (∃ w, run x Registry.standard.resolve t = .ok w) ↔
      ∀ i < t.size, lookupFault? x t i (routedAt Registry.standard.resolve t i) = none) ∧
    ((∀ a err, ¬ t.IsCut a err) → ∃ w v, run p Registry.standard.resolve t = .ok w ∧
      run q Registry.standard.resolve t = .ok v ∧ v.found.Sublist w.found) := by
  have hwell := ht.wellFormed
  have hp : p.Stated := .inl ⟨d, hd⟩
  have hq : q.Stated := .inl ⟨e, he⟩
  have hsublist : ∀ w v, run p Registry.standard.resolve t = .ok w → run q Registry.standard.resolve t = .ok v →
      v.found.Sublist w.found := by
    intro w v hw hv
    rw [found_eq_of_run hwell hp hw, found_eq_of_run hwell hq hv]
    apply List.Sublist.flatMap_right
    intro i _
    exact findings_sublist_findings fun _ => Descriptor.isAccepted_of_refines hd he h
  have hruns : ∀ x ∈ [p, q], (∃ w, run x Registry.standard.resolve t = .ok w) ↔
      ∀ i < t.size, lookupFault? x t i (routedAt Registry.standard.resolve t i) = none := by
    intro x hx
    simp only [List.mem_cons, List.not_mem_nil, or_false] at hx
    cases hx with
    | inl heq => exact exists_run_iff hwell (heq ▸ hp)
    | inr heq => exact exists_run_iff hwell (heq ▸ hq)
  refine ⟨hsublist, hruns, ?_⟩
  intro hcut
  have hanswered : ∀ (x : Query), ∀ i < t.size,
      lookupFault? x t i (routedAt Registry.standard.resolve t i) = none := by
    intro x i _
    rw [Option.eq_none_iff_forall_ne_some]
    intro err herr
    obtain ⟨a, ha⟩ := isCut_of_lookupFault? herr
    exact hcut a err ha
  obtain ⟨w, hw⟩ := (hruns p (by simp)).mpr (hanswered p)
  obtain ⟨v, hv⟩ := (hruns q (by simp)).mpr (hanswered q)
  exact ⟨w, v, hw, hv, hsublist w v hw hv⟩

/-- All that is in `A`. -/
def insideA : Descriptor :=
  { scopeName := some "A" }

theorem refines_insideA : methodsInA.Refines insideA where
  regex := rfl
  target := .inl rfl
  access := by decide
  path := by decide
  excludes := by decide
  contains := .inl rfl
  scope := .inl rfl
  scopeName := .inr rfl

theorem run_insideA :
    ∃ p q w v, insideA.compile = .ok p ∧ methodsInA.compile = .ok q ∧
      run p Registry.standard.resolve ((Builder.new "" none).calls nestedScopes).outline = .ok w ∧
      run q Registry.standard.resolve ((Builder.new "" none).calls nestedScopes).outline = .ok v ∧
      v.found = [.real 3, .real 5] ∧ v.found.Sublist w.found := by
  have ht : ((Builder.new "" none).calls nestedScopes).outline.Built := ⟨"", none, nestedScopes, rfl⟩
  obtain ⟨hsublist, hruns, _⟩ := run_refined ht rfl rfl refines_insideA
  obtain ⟨w, hw⟩ := (hruns _ List.mem_cons_self).mpr (by decide +kernel)
  obtain ⟨v, hv⟩ := (hruns _ (List.mem_cons_of_mem _ List.mem_cons_self)).mpr (by decide +kernel)
  refine ⟨_, _, w, v, rfl, rfl, hw, hv, ?_, hsublist w v hw hv⟩
  rw [found_eq_of_run ht.wellFormed (.inl ⟨methodsInA, rfl⟩) hv]
  decide +kernel

end Walk
end StructuralSearch
