import StructuralSearch.Proofs.Outline.Nesting

/-!
This module contains outlines in document order, by rows and columns or by any order of positions that tells the same.
-/

namespace StructuralSearch

/-- The span of a node, and those of its tokens, start and end at the given positions. -/
structure Label.Among (ps : List Position) (label : Label) : Prop where
  start : label.span.start ∈ ps
  stop : label.span.stop ∈ ps
  tokens : ∀ token ∈ label.tokens, token.span.start ∈ ps ∧ token.span.stop ∈ ps

namespace Outline

/--
By the given order of positions, spans lie in the spans of the parents and include those of the tokens, siblings follow
one another, and the nodes in pre-order start one after the other.
-/
structure Spaced (le : Position → Position → Bool) (t : Outline) : Prop where
  upright : ∀ i, i < t.size → le (t.span i).start (t.span i).stop = true
  within : ∀ p, ∀ c ∈ t.children p,
    le (t.span p).start (t.span c).start = true ∧ le (t.span c).stop (t.span p).stop = true
  ordered : ∀ p, ∀ x ∈ (t.children p).zip (t.children p).tail, le (t.span x.1).stop (t.span x.2).start = true
  tokens : ∀ i, i < t.size → ∀ token ∈ (t.node i).tokens,
    le (t.span i).start token.span.start = true ∧ le token.span.stop (t.span i).stop = true
  starts : (t.preorder.map fun i => (t.span i).start).Pairwise fun p q => le p q = true

variable {t : Outline}

theorem mem_of_mem_zip_tail {xs : List Nat} {x : Nat × Nat} (hx : x ∈ xs.zip xs.tail) : x.1 ∈ xs ∧ x.2 ∈ xs := by
  obtain ⟨h₁, h₂⟩ := List.of_mem_zip hx
  exact ⟨h₁, List.mem_of_mem_tail h₂⟩

theorem lt_of_mem_zip_tail {xs : List Nat} {x : Nat × Nat} (h : xs.Pairwise (· < ·)) (hx : x ∈ xs.zip xs.tail) :
    x.1 < x.2 := by
  induction xs with
  | nil => cases hx
  | cons i xs ih =>
    cases xs with
    | nil => cases hx
    | cons j xs =>
      rw [List.pairwise_cons] at h
      rw [List.tail_cons, List.zip_cons_cons, List.mem_cons] at hx
      cases hx with
      | inl heq =>
        subst heq
        exact h.1 j List.mem_cons_self
      | inr hx => exact ih h.2 hx

namespace Packed

theorem start_le {i j : Nat} (h : t.Packed) (ht : t.Linked) (hj : j < t.size) (hij : i < j) :
    (t.span i).start.le (t.span j).start = true := by
  by_cases hi : i ∈ t.ancestors j
  . exact (h.within_lineage ht (mem_lineage.mpr (.inr hi))).1
  . exact Position.le_trans (h.upright i (by omega)) (h.precedes ht hj hij hi)

theorem spaced (h : t.Packed) (ht : t.WellFormed) : t.Spaced Position.le where
  upright := h.upright
  within := h.within
  ordered := by
    intro p x hx
    obtain ⟨h₁, h₂⟩ := mem_of_mem_zip_tail hx
    exact h.ordered p _ h₁ _ h₂ (lt_of_mem_zip_tail (ht.children_pairwise p) hx)
  tokens := h.tokens
  starts := by
    rw [preorder_eq_range ht, List.pairwise_map]
    apply List.pairwise_lt_range.imp_of_mem
    intro i j _ hj hij
    exact h.start_le ht.toLinked (List.mem_range.mp hj) hij

end Packed

theorem Spaced.of_agrees {le le' : Position → Position → Bool} {ps : List Position} (h : t.Spaced le)
    (ht : t.WellFormed) (hps : ∀ i, i < t.size → (t.node i).toLabel.Among ps)
    (hle : ∀ {p q}, p ∈ ps → q ∈ ps → le p q = true → le' p q = true) : t.Spaced le' where
  upright := by
    intro i hi
    exact hle (hps i hi).start (hps i hi).stop (h.upright i hi)
  within := by
    intro p c hc
    have hp := hps p (lt_size_of_mem_children ht.toLinked hc)
    have hc' := hps c (lt_size_of_parent? (ht.mem_children.mp hc))
    obtain ⟨hstart, hstop⟩ := h.within p c hc
    exact ⟨hle hp.start hc'.start hstart, hle hc'.stop hp.stop hstop⟩
  ordered := by
    intro p x hx
    obtain ⟨h₁, h₂⟩ := mem_of_mem_zip_tail hx
    have hps₁ := hps x.1 (lt_size_of_parent? (ht.mem_children.mp h₁))
    have hps₂ := hps x.2 (lt_size_of_parent? (ht.mem_children.mp h₂))
    exact hle hps₁.stop hps₂.start (h.ordered p x hx)
  tokens := by
    intro i hi token htoken
    obtain ⟨hstart, hstop⟩ := (hps i hi).tokens token htoken
    obtain ⟨hstart', hstop'⟩ := h.tokens i hi token htoken
    exact ⟨hle (hps i hi).start hstart hstart', hle hstop (hps i hi).stop hstop'⟩
  starts := by
    have hstarts := h.starts
    rw [preorder_eq_range ht, List.pairwise_map] at hstarts ⊢
    apply hstarts.imp_of_mem
    intro i j hi hj
    exact hle (hps i (List.mem_range.mp hi)).start (hps j (List.mem_range.mp hj)).start

end Outline
end StructuralSearch
