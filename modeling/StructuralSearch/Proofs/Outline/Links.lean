import StructuralSearch.Outline.Builder

/-!
This module contains the links of outlines: what holds of parents and children in every outline that a builder makes,
whatever calls it gets, and what follows for the nodes above a node.
-/

namespace StructuralSearch
namespace Outline

variable {t t' : Outline} {i j k p : Nat}

/-- A node and all above it, the root last. -/
def lineage (t : Outline) (i : Nat) : List Nat :=
  i :: t.ancestors i

/--
The links of an outline in creation order: each node but the first has a parent on the path from the node before it to
the root, and the children of a node are those that name it as their parent, in order.
-/
structure Linked (t : Outline) : Prop where
  parent_zero : t.parent? 0 = none
  parent_succ : ∀ i, i + 1 < t.size → ∃ p, t.parent? (i + 1) = some p ∧ p ∈ t.lineage i
  children_eq : ∀ i, t.children i = (List.range t.size).filter fun c => t.parent? c == some i

theorem node_of_size_le (h : t.size ≤ i) : t.node i = default := by
  unfold node
  rw [Array.getElem?_eq_none h]
  rfl

theorem parent?_of_size_le (h : t.size ≤ i) : t.parent? i = none := by
  unfold parent?
  rw [node_of_size_le h]
  rfl

theorem lt_size_of_parent? (h : t.parent? i = some p) : i < t.size := by
  apply Nat.lt_of_not_le
  intro hle
  rw [parent?_of_size_le hle] at h
  cases h

theorem ancestors_of_parent?_eq_none (h : t.parent? i = none) : t.ancestors i = [] := by
  unfold ancestors
  rw [h]

theorem ancestors_of_parent?_eq_some (h : t.parent? i = some p) (hp : p < i) : t.ancestors i = t.lineage p := by
  rw [ancestors, h]
  simp [hp, lineage]

theorem mem_lineage : j ∈ t.lineage i ↔ j = i ∨ j ∈ t.ancestors i := by
  simp [lineage]

@[simp]
theorem mem_lineage_self : i ∈ t.lineage i := by
  simp [lineage]

theorem mem_ancestors_iff : j ∈ t.ancestors i ↔ ∃ p, t.parent? i = some p ∧ p < i ∧ j ∈ t.lineage p := by
  cases h : t.parent? i with
  | none => simp [ancestors_of_parent?_eq_none h]
  | some p =>
    by_cases hp : p < i
    . simp [ancestors_of_parent?_eq_some h hp, hp]
    . rw [ancestors, h]
      simp [hp]

theorem lt_of_mem_ancestors {i j : Nat} (h : j ∈ t.ancestors i) : j < i := by
  rw [mem_ancestors_iff] at h
  obtain ⟨p, _, hp, hj⟩ := h
  rw [mem_lineage] at hj
  cases hj with
  | inl heq => omega
  | inr hj =>
    have := lt_of_mem_ancestors hj
    omega
termination_by i

theorem le_of_mem_lineage (h : j ∈ t.lineage i) : j ≤ i := by
  rw [mem_lineage] at h
  cases h with
  | inl heq => omega
  | inr h => exact Nat.le_of_lt (lt_of_mem_ancestors h)

theorem mem_lineage_trans {i j k : Nat} (hk : k ∈ t.lineage j) (hj : j ∈ t.lineage i) : k ∈ t.lineage i := by
  rw [mem_lineage] at hj
  cases hj with
  | inl heq =>
    subst heq
    exact hk
  | inr hj =>
    rw [mem_ancestors_iff] at hj
    obtain ⟨p, hparent, hp, hj⟩ := hj
    rw [mem_lineage, mem_ancestors_iff]
    exact .inr ⟨p, hparent, hp, mem_lineage_trans hk hj⟩
termination_by i

theorem ancestors_congr {i : Nat} (h : ∀ j, j ≤ i → t'.parent? j = t.parent? j) :
    t'.ancestors i = t.ancestors i := by
  rw [ancestors, ancestors, h i (Nat.le_refl i)]
  cases t.parent? i with
  | none => rfl
  | some p =>
    dsimp
    split
    . next hp =>
      rw [ancestors_congr]
      intro j hj
      apply h
      omega
    . rfl
termination_by i

theorem lineage_congr (h : ∀ j, j ≤ i → t'.parent? j = t.parent? j) : t'.lineage i = t.lineage i := by
  unfold lineage
  rw [ancestors_congr h]

namespace Linked

theorem parent_lt (h : t.Linked) (hp : t.parent? i = some p) : p < i := by
  have hi := lt_size_of_parent? hp
  cases i with
  | zero =>
    rw [h.parent_zero] at hp
    cases hp
  | succ i =>
    obtain ⟨q, hq, hmem⟩ := h.parent_succ i hi
    rw [hp] at hq
    cases hq
    have := le_of_mem_lineage hmem
    omega

theorem ancestors_eq (h : t.Linked) (hp : t.parent? i = some p) : t.ancestors i = t.lineage p :=
  ancestors_of_parent?_eq_some hp (h.parent_lt hp)

theorem lineage_eq (h : t.Linked) (hp : t.parent? i = some p) : t.lineage i = i :: t.lineage p := by
  rw [← h.ancestors_eq hp]
  rfl

theorem parent_mem_ancestors (h : t.Linked) (hp : t.parent? i = some p) : p ∈ t.ancestors i := by
  rw [h.ancestors_eq hp]
  apply mem_lineage_self

theorem mem_children (h : t.Linked) : j ∈ t.children i ↔ t.parent? j = some i := by
  rw [h.children_eq]
  simp only [List.mem_filter, List.mem_range, beq_iff_eq, and_iff_right_iff_imp]
  apply lt_size_of_parent?

theorem lt_of_mem_children (h : t.Linked) (hj : j ∈ t.children i) : i < j := by
  rw [h.mem_children] at hj
  exact h.parent_lt hj

theorem children_pairwise (h : t.Linked) (i : Nat) : (t.children i).Pairwise (· < ·) := by
  rw [h.children_eq]
  apply List.Pairwise.filter
  apply List.pairwise_lt_range

theorem exists_parent (h : t.Linked) (hi : 0 < i) (hsize : i < t.size) : ∃ p, t.parent? i = some p := by
  cases i with
  | zero => omega
  | succ i =>
    obtain ⟨p, hp, _⟩ := h.parent_succ i hsize
    exact ⟨p, hp⟩

theorem zero_mem_lineage {i : Nat} (h : t.Linked) (hi : i < t.size) : 0 ∈ t.lineage i := by
  by_cases hzero : i = 0
  . subst hzero
    apply mem_lineage_self
  . obtain ⟨p, hp⟩ := h.exists_parent (by omega) hi
    have hlt := h.parent_lt hp
    rw [mem_lineage, h.ancestors_eq hp]
    exact .inr (h.zero_mem_lineage (by omega))
termination_by i

theorem exists_child {i j : Nat} (h : t.Linked) (hi : i ∈ t.ancestors j) :
    ∃ c, c ∈ t.children i ∧ c ∈ t.lineage j := by
  rw [mem_ancestors_iff] at hi
  obtain ⟨p, hp, hlt, hmem⟩ := hi
  rw [mem_lineage] at hmem
  cases hmem with
  | inl heq =>
    subst heq
    exact ⟨j, h.mem_children.mpr hp, mem_lineage_self⟩
  | inr hmem =>
    obtain ⟨c, hc, hcp⟩ := h.exists_child hmem
    refine ⟨c, hc, mem_lineage_trans hcp ?_⟩
    rw [mem_lineage]
    exact .inr (h.parent_mem_ancestors hp)
termination_by j

/--
What lies between a node and something below it lies below the node as well: the nodes below a node follow it without
a gap.
-/
theorem mem_lineage_between {i j k : Nat} (h : t.Linked) (hj : i ∈ t.lineage j) (hik : i ≤ k) (hkj : k ≤ j)
    (hsize : j < t.size) : i ∈ t.lineage k := by
  by_cases heq : k = j
  . subst heq
    exact hj
  . cases j with
    | zero => omega
    | succ j =>
      obtain ⟨p, hp, hmem⟩ := h.parent_succ j hsize
      rw [mem_lineage, h.ancestors_eq hp] at hj
      cases hj with
      | inl heq => omega
      | inr hj =>
        have hprev : i ∈ t.lineage j := mem_lineage_trans hj hmem
        exact h.mem_lineage_between hprev hik (by omega) (by omega)
termination_by j

end Linked
end Outline
end StructuralSearch
