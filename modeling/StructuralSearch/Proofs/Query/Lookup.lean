import StructuralSearch.Proofs.Failure
import StructuralSearch.Query.Descriptor

/-!
This module contains when the question of a query about a candidate has an answer. Only the text of an argument can be
missing, and no scope is an argument.
-/

namespace StructuralSearch

/-- The node is an argument, and its byte range does not hold whole characters. -/
def Outline.IsCut (t : Outline) (i : Nat) (e : Error) : Prop :=
  t.kind i = .argument ∧ t.text i = .error e

theorem Outline.eq_cutCharacter_of_text {t : Outline} {i : Nat} {e : Error} (h : t.text i = .error e) :
    e = .cutCharacter (t.span i).start.byte (t.span i).stop.byte := by
  unfold text sliceText at h
  split at h
  . cases h
  . split at h
    . cases h
    . cases h
      rfl

theorem NodeKind.nameSource_eq_text {k : NodeKind} : k.nameSource = .text ↔ k = .argument := by
  cases k <;> simp [nameSource]

theorem Outline.identifier_eq_error {t : Outline} {i : Nat} {e : Error} :
    t.identifier i = .error e ↔ t.IsCut i e := by
  unfold identifier IsCut
  simp only [NodeKind.nameSource_eq_text]
  split
  . next h => simp [h, map_eq_error]
  . next h => simp [h]

namespace Matcher

variable {t : Outline} {c : Candidate} {e : Error}

theorem isCut_of_accepts {m : Matcher} (h : m.accepts t c = .error e) : t.IsCut c.anchor e := by
  induction m generalizing e with
  | kinds ks => cases h
  | knownTarget => cases h
  | modifiers required => cases h
  | name f =>
    unfold accepts at h
    split at h
    . rw [map_eq_error] at h
      exact Outline.identifier_eq_error.mp h
    . cases h
  | path p => cases h
  | position s => cases h
  | and a b iha ihb =>
    rw [accepts, bind_eq_error] at h
    cases h with
    | inl h => exact iha h
    | inr h =>
      obtain ⟨x, _, h⟩ := h
      split at h
      . exact ihb h
      . cases h
  | not m ih =>
    rw [accepts, map_eq_error] at h
    exact ih h

theorem isCut_of_acceptsAll {ms : List Matcher} (h : acceptsAll t c ms = .error e) : t.IsCut c.anchor e := by
  induction ms with
  | nil => cases h
  | cons m ms ih =>
    rw [acceptsAll, bind_eq_error] at h
    cases h with
    | inl h => exact isCut_of_accepts h
    | inr h =>
      obtain ⟨x, _, h⟩ := h
      split at h
      . exact ih h
      . cases h

/-- Whatever the outline, there is an answer about each node. -/
def Answers (m : Matcher) : Prop :=
  ∀ t i, ∃ b, m.accepts t (.real i) = .ok b

theorem exists_acceptsAll {ms : List Matcher} (h : ∀ m ∈ ms, m.Answers) (t : Outline) (i : Nat) :
    ∃ b, acceptsAll t (.real i) ms = .ok b := by
  induction ms with
  | nil => exact ⟨true, rfl⟩
  | cons m ms ih =>
    obtain ⟨x, hx⟩ := h m List.mem_cons_self t i
    rw [acceptsAll, hx]
    cases x with
    | true =>
      apply ih
      intro m' hm'
      exact h m' (List.mem_cons_of_mem m hm')
    | false => exact ⟨false, rfl⟩

theorem answers_of_ofKinds {m : Matcher} {ks : List NodeKind} (h : ofKinds ks = .ok m) : m.Answers := by
  unfold ofKinds at h
  split at h
  . cases h
  . cases h
    intro t i
    exact ⟨_, rfl⟩

theorem answers_name {f : NameFilter} {ks : List NodeKind} (hkinds : f.kinds = some ks) (h : .argument ∉ ks) :
    (Matcher.name f).Answers := by
  intro t i
  cases ha : (Matcher.name f).accepts t (.real i) with
  | ok b => exact ⟨b, rfl⟩
  | error e =>
    have hcut := isCut_of_accepts ha
    rw [accepts] at ha
    split at ha
    . next hconsiders =>
      unfold NameFilter.considers at hconsiders
      rw [hkinds] at hconsiders
      have hkind : Candidate.kind t (.real i) = .argument := hcut.1
      rw [hkind] at hconsiders
      simp [h] at hconsiders
    . cases ha

end Matcher

namespace Descriptor

theorem answers_of_mapM_ofKinds {ks? : Option (List NodeKind)} {ms : List Matcher}
    (h : ks?.toList.mapM Matcher.ofKinds = .ok ms) : ∀ m ∈ ms, m.Answers := by
  cases ks? with
  | none =>
    cases h
    intro m hm
    cases hm
  | some ks =>
    simp only [Option.toList, List.mapM_cons, List.mapM_nil, bind_eq_ok] at h
    obtain ⟨m, hm, _, hnil, h⟩ := h
    cases hnil
    cases h
    intro m' hm'
    rw [List.mem_singleton] at hm'
    subst hm'
    exact Matcher.answers_of_ofKinds hm

theorem argument_notMem_kinds (s : ScopeKind) : .argument ∉ s.kinds?.getD scopeKinds := by
  cases s <;> decide

theorem answers_of_scopeMatchers {d : Descriptor} {ms : List Matcher} (h : d.scopeMatchers = .ok ms) :
    ∀ m ∈ ms, m.Answers := by
  rw [scopeMatchers, bind_eq_ok] at h
  obtain ⟨kinds, hkinds, h⟩ := h
  have hanswers := answers_of_mapM_ofKinds hkinds
  split at h
  . cases h
    exact hanswers
  . rw [bind_eq_ok] at h
    obtain ⟨f, _, h⟩ := h
    cases h
    intro m hm
    rw [List.mem_append, List.mem_singleton] at hm
    cases hm with
    | inl hm => exact hanswers m hm
    | inr hm =>
      subst hm
      exact Matcher.answers_name rfl (argument_notMem_kinds d.scope)

end Descriptor

namespace Query

variable {q : Query} {t : Outline}

/-- A descriptor states the query, or it is the one for a place. -/
def Stated (q : Query) : Prop :=
  (∃ d : Descriptor, d.compile = .ok q) ∨ ∃ s, q = atSpan s

theorem isCut_of_accepts {c : Candidate} {e : Error} (h : q.accepts t c = .error e) : t.IsCut c.anchor e :=
  Matcher.isCut_of_acceptsAll h

theorem isCut_of_isScope {i : Nat} {e : Error} (h : q.isScope t i = .error e) : t.IsCut i e := by
  unfold isScope at h
  split at h
  . exact Matcher.isCut_of_acceptsAll h
  . cases h

theorem Stated.answers (h : q.Stated) : ∀ m ∈ q.scope, m.Answers := by
  cases h with
  | inl h =>
    obtain ⟨d, h⟩ := h
    simp only [Descriptor.compile, bind_eq_ok] at h
    obtain ⟨_, _, _, _, scope, hscope, _, _, h⟩ := h
    cases h
    exact Descriptor.answers_of_scopeMatchers hscope
  | inr h =>
    obtain ⟨s, h⟩ := h
    subst h
    intro m hm
    cases hm

theorem Stated.isScope_eq (h : q.Stated) (t : Outline) (i : Nat) : q.isScope t i = .ok (isYes (q.isScope t i)) := by
  cases hs : q.isScope t i with
  | ok b => rfl
  | error e =>
    unfold isScope at hs
    split at hs
    . obtain ⟨b, hb⟩ := Matcher.exists_acceptsAll h.answers t i
      rw [hb] at hs
      cases hs
    . cases hs

end Query
end StructuralSearch
