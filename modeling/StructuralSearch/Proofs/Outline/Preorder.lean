import StructuralSearch.Proofs.Outline.Runs

/-!
This module contains the order of the nodes of an outline: going through a tree in pre-order is going through its nodes
as they are numbered, by recursion on the tree or with a stack.
-/

namespace StructuralSearch
namespace Outline

variable {t : Outline}

theorem subtree_eq (h : t.Linked) (i : Nat) : t.subtree i = i :: (t.children i).flatMap t.subtree := by
  rw [subtree, List.flatMap_def, List.flatMap_def, List.map_congr_left]
  intro c hc
  rw [dif_pos]
  refine ⟨h.lt_of_mem_children hc, ?_⟩
  rw [h.mem_children] at hc
  exact lt_size_of_parent? hc

theorem mem_subtree {i j : Nat} (h : t.Linked) (hi : i < t.size) :
    j ∈ t.subtree i ↔ j < t.size ∧ i ∈ t.lineage j := by
  rw [subtree_eq h, List.mem_cons, List.mem_flatMap]
  constructor
  . intro hj
    cases hj with
    | inl heq =>
      subst heq
      exact ⟨hi, mem_lineage_self⟩
    | inr hex =>
      obtain ⟨c, hc, hj⟩ := hex
      have hlt := h.lt_of_mem_children hc
      rw [h.mem_children] at hc
      have hsize := lt_size_of_parent? hc
      rw [mem_subtree h hsize] at hj
      refine ⟨hj.1, mem_lineage_trans ?_ hj.2⟩
      rw [mem_lineage]
      exact .inr (h.parent_mem_ancestors hc)
  . intro hj
    obtain ⟨hsize, hmem⟩ := hj
    rw [mem_lineage] at hmem
    cases hmem with
    | inl heq => exact .inl heq.symm
    | inr hmem =>
      obtain ⟨c, hc, hcj⟩ := h.exists_child hmem
      have hlt := h.lt_of_mem_children hc
      have hle := le_of_mem_lineage hcj
      refine .inr ⟨c, hc, ?_⟩
      rw [mem_subtree h (by omega)]
      exact ⟨hsize, hcj⟩
termination_by t.size - i

theorem lt_of_mem_siblings {i c d j k : Nat} (h : t.Linked) (hc : c ∈ t.children i) (hd : d ∈ t.children i)
    (hcd : c < d) (hj : c ∈ t.lineage j) (hk : d ∈ t.lineage k) (hsize : j < t.size) : j < k := by
  -- Otherwise the second sibling would be below the first.
  have hdk := le_of_mem_lineage hk
  apply Nat.lt_of_not_le
  intro hkj
  have hcd' : c ∈ t.lineage d := h.mem_lineage_between hj (by omega) (by omega) hsize
  rw [h.mem_children] at hc hd
  rw [mem_lineage, h.ancestors_eq hd] at hcd'
  have := h.parent_lt hc
  cases hcd' with
  | inl heq => omega
  | inr hmem =>
    have := le_of_mem_lineage hmem
    omega

theorem subtree_pairwise (h : t.Linked) (i : Nat) : (t.subtree i).Pairwise (· < ·) := by
  rw [subtree_eq h, List.pairwise_cons]
  have hchild : ∀ c ∈ t.children i, i < c ∧ c < t.size := by
    intro c hc
    refine ⟨h.lt_of_mem_children hc, ?_⟩
    rw [h.mem_children] at hc
    exact lt_size_of_parent? hc
  constructor
  . intro j hj
    rw [List.mem_flatMap] at hj
    obtain ⟨c, hc, hj⟩ := hj
    have hlt := hchild c hc
    rw [mem_subtree h hlt.2] at hj
    have := le_of_mem_lineage hj.2
    omega
  . rw [List.pairwise_flatMap]
    constructor
    . intro c hc
      have hlt := hchild c hc
      exact subtree_pairwise h c
    . refine List.Pairwise.imp_of_mem ?_ (h.children_pairwise i)
      intro c d hc hd hcd j hj k hk
      rw [mem_subtree h (hchild c hc).2] at hj
      rw [mem_subtree h (hchild d hd).2] at hk
      exact lt_of_mem_siblings h hc hd hcd hj.2 hk.2 hj.1
termination_by t.size - i

theorem eq_of_pairwise_lt {xs ys : List Nat} (hx : xs.Pairwise (· < ·)) (hy : ys.Pairwise (· < ·))
    (h : ∀ i, i ∈ xs ↔ i ∈ ys) : xs = ys := by
  apply List.Perm.eq_of_pairwise _ hx hy
  . rw [List.perm_ext_iff_of_nodup]
    . exact h
    . exact hx.imp Nat.ne_of_lt
    . exact hy.imp Nat.ne_of_lt
  . intro a b _ _ hab hba
    omega

theorem preorder_eq_range (h : t.WellFormed) : t.preorder = List.range t.size := by
  unfold preorder
  apply eq_of_pairwise_lt
  . exact subtree_pairwise h.toLinked 0
  . exact List.pairwise_lt_range
  . intro i
    rw [mem_subtree h.toLinked h.size_pos, List.mem_range]
    constructor
    . intro hi
      exact hi.1
    . intro hi
      exact ⟨hi, h.zero_mem_lineage hi⟩

/-- Going through an outline with a stack: the node on top comes next, and its children take its place on the stack. -/
inductive Visits (t : Outline) : List Nat → List Nat → Prop where
  | done : Visits t [] []
  | next {i : Nat} {stack visited : List Nat} : i < t.size → Visits t (t.children i ++ stack) visited →
    Visits t (i :: stack) (i :: visited)

theorem visits_append {is stack visited : List Nat}
    (h : ∀ i ∈ is, ∀ stack visited, t.Visits stack visited → t.Visits (i :: stack) (t.subtree i ++ visited))
    (hrest : t.Visits stack visited) : t.Visits (is ++ stack) (is.flatMap t.subtree ++ visited) := by
  induction is with
  | nil => exact hrest
  | cons i is ih =>
    rw [List.forall_mem_cons] at h
    rw [List.flatMap_cons, List.append_assoc]
    exact h.1 _ _ (ih h.2)

theorem visits_subtree {i : Nat} {stack visited : List Nat} (h : t.Linked) (hi : i < t.size)
    (hrest : t.Visits stack visited) : t.Visits (i :: stack) (t.subtree i ++ visited) := by
  rw [subtree_eq h]
  refine .next hi (visits_append ?_ hrest)
  intro c hc stack visited hrest
  have hlt := h.lt_of_mem_children hc
  have hsize := lt_size_of_parent? (h.mem_children.mp hc)
  exact visits_subtree h hsize hrest
termination_by t.size - i

theorem visits_preorder (h : t.WellFormed) : t.Visits [0] t.preorder := by
  have hvisits := visits_subtree h.toLinked h.size_pos .done
  rw [List.append_nil] at hvisits
  exact hvisits

end Outline
end StructuralSearch
