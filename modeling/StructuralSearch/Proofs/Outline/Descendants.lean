import Mathlib.Data.Set.Card
import Mathlib.Logic.Relation
import Mathlib.Order.Interval.Finset.Nat
import StructuralSearch.Proofs.Outline.Runs

/-!
This module contains where the nodes below a node are: they are numbered without a gap from the node on. What is found
by climbing from parent to parent is what is reached by going down the lists of children.
-/

namespace StructuralSearch
namespace Outline

open Relation (ReflTransGen TransGen)

variable {t : Outline} {a b c x : Nat}

/-- The nodes other than `i` that can be reached from it through lists of children. -/
def reachable (t : Outline) (i : Nat) : Set Nat :=
  { x | x ≠ i ∧ ReflTransGen (fun p c => c ∈ t.children p) i x }

/-- As many numbers from that of a node on as there are nodes that can be reached from it, and its own. -/
def block (t : Outline) (i : Nat) : Set Nat :=
  Set.Icc i (i + (t.reachable i).ncard)

theorem isDescendantOf_iff : t.isDescendantOf x b = true ↔ b ∈ t.ancestors x := by
  unfold isDescendantOf
  rw [List.contains_iff_mem]

theorem not_isDescendantOf_self (t : Outline) (a : Nat) : ¬ t.isDescendantOf a a = true := by
  intro h
  exact Nat.lt_irrefl a (lt_of_mem_ancestors (isDescendantOf_iff.mp h))

theorem mem_ancestors_trans (hab : b ∈ t.ancestors a) (hbc : c ∈ t.ancestors b) : c ∈ t.ancestors a := by
  rw [mem_ancestors_iff] at hab ⊢
  obtain ⟨p, hp, hlt, hb⟩ := hab
  exact ⟨p, hp, hlt, mem_lineage_trans (mem_lineage.mpr (.inr hbc)) hb⟩

theorem isDescendantOf_trans (hab : t.isDescendantOf a b = true) (hbc : t.isDescendantOf b c = true) :
    t.isDescendantOf a c = true := by
  rw [isDescendantOf_iff] at hab hbc ⊢
  exact mem_ancestors_trans hab hbc

namespace Linked

/-- Climbing up from a node and going down to it are the same path. -/
theorem transGen_of_mem_ancestors {x : Nat} (h : t.Linked) (hb : b ∈ t.ancestors x) :
    TransGen (fun p c => c ∈ t.children p) b x := by
  rw [mem_ancestors_iff] at hb
  obtain ⟨p, hp, hlt, hb⟩ := hb
  have hchild : x ∈ t.children p := h.mem_children.mpr hp
  rw [mem_lineage] at hb
  cases hb with
  | inl heq =>
    rw [heq]
    exact .single hchild
  | inr hb => exact .tail (h.transGen_of_mem_ancestors hb) hchild
termination_by x

theorem mem_ancestors_of_transGen (h : t.Linked) (hx : TransGen (fun p c => c ∈ t.children p) b x) :
    b ∈ t.ancestors x := by
  induction hx with
  | single hchild => exact h.parent_mem_ancestors (h.mem_children.mp hchild)
  | tail _ hchild ih => exact mem_ancestors_trans (h.parent_mem_ancestors (h.mem_children.mp hchild)) ih

theorem isDescendantOf_iff_reachable (h : t.Linked) : t.isDescendantOf x b = true ↔ x ∈ t.reachable b := by
  rw [isDescendantOf_iff, reachable, Set.mem_ofPred_eq, Relation.reflTransGen_iff_eq_or_transGen]
  constructor
  . intro hmem
    have hlt := lt_of_mem_ancestors hmem
    exact ⟨Nat.ne_of_gt hlt, .inr (h.transGen_of_mem_ancestors hmem)⟩
  . intro hx
    exact h.mem_ancestors_of_transGen (hx.2.resolve_left hx.1)

/-- The first number after that of a node which is not below it ends the nodes below it. -/
theorem exists_stop (h : t.Linked) (b : Nat) :
    ∃ stop, b < stop ∧ ∀ x, t.isDescendantOf x b = true ↔ b < x ∧ x < stop := by
  -- Numbers past the end of the outline have no ancestors, so there is such a number.
  have hend : ∃ stop, b < stop ∧ b ∉ t.ancestors stop := by
    refine ⟨b + t.size + 1, by omega, ?_⟩
    rw [ancestors_of_parent?_eq_none (parent?_of_size_le (by omega))]
    exact List.not_mem_nil
  refine ⟨Nat.find hend, (Nat.find_spec hend).1, ?_⟩
  intro x
  rw [isDescendantOf_iff]
  constructor
  . intro hx
    have hlt := lt_of_mem_ancestors hx
    refine ⟨hlt, Nat.lt_of_not_le ?_⟩
    intro hle
    have hsize : x < t.size := by
      obtain ⟨p, hp, _⟩ := mem_ancestors_iff.mp hx
      exact lt_size_of_parent? hp
    -- All that is between a node and one below it is below it too, but `stop` is not.
    obtain ⟨hstop, hno⟩ := Nat.find_spec hend
    have hbetween := h.mem_lineage_between (mem_lineage.mpr (.inr hx)) (Nat.le_of_lt hstop) hle hsize
    rw [mem_lineage] at hbetween
    exact hno (hbetween.resolve_left (by omega))
  . intro hx
    have hmin := Nat.find_min hend hx.2
    rw [not_and, Classical.not_not] at hmin
    exact hmin hx.1

theorem reachable_eq_Ioo {stop : Nat} (h : t.Linked)
    (hstop : ∀ x, t.isDescendantOf x b = true ↔ b < x ∧ x < stop) : t.reachable b = Set.Ioo b stop := by
  ext x
  rw [← h.isDescendantOf_iff_reachable, hstop, Set.mem_Ioo]

theorem isDescendantOf_iff_block (h : t.Linked) :
    t.isDescendantOf x b = true ↔ b < x ∧ x ≤ b + (t.reachable b).ncard := by
  obtain ⟨stop, hlt, hstop⟩ := h.exists_stop b
  have hcard : (t.reachable b).ncard = stop - b - 1 := by
    rw [h.reachable_eq_Ioo hstop, ← Finset.coe_Ioo, Set.ncard_coe_finset, Nat.card_Ioo]
  rw [hstop, hcard]
  omega

/-- Blocks that have a number in common start one in the other. -/
theorem block_inter_eq_empty (h : t.Linked) (hne : a ≠ b) :
    t.block a ∩ t.block b = ∅ ↔ ¬ t.isDescendantOf a b = true ∧ ¬ t.isDescendantOf b a = true := by
  unfold block
  rw [Set.eq_empty_iff_forall_notMem, h.isDescendantOf_iff_block, h.isDescendantOf_iff_block]
  simp only [Set.mem_inter_iff, Set.mem_Icc]
  constructor
  . intro hempty
    have ha := hempty a
    have hb := hempty b
    omega
  . intro hapart x hx
    omega

end Linked

/--
In every outline that can be built, the nodes below a node are those that can be reached from it through children, and
as many numbers as there are of them follow its own. To be below is a strict order, and the blocks of two nodes are
disjoint unless one of the nodes is below the other.
-/
theorem isDescendantOf_contiguous (h : t.Built) :
    (∀ b x, t.isDescendantOf x b = true ↔ b < x ∧ x ≤ b + (t.reachable b).ncard) ∧
    (∀ b x, t.isDescendantOf x b = true ↔ x ∈ t.reachable b) ∧
    (∀ a, ¬ t.isDescendantOf a a = true) ∧
    (∀ a b c, t.isDescendantOf a b = true → t.isDescendantOf b c = true → t.isDescendantOf a c = true) ∧
    ∀ a b, a ≠ b →
      (t.block a ∩ t.block b = ∅ ↔ ¬ t.isDescendantOf a b = true ∧ ¬ t.isDescendantOf b a = true) := by
  have hlinked := h.wellFormed.toLinked
  exact ⟨fun b x => hlinked.isDescendantOf_iff_block, fun b x => hlinked.isDescendantOf_iff_reachable,
    not_isDescendantOf_self t, fun a b c => isDescendantOf_trans, fun a b => hlinked.block_inter_eq_empty⟩

/-- Makes a root with two children, the first of which has a child of its own. -/
def openBranches : List Builder.Call := [
  .openLabel { kind := .classDeclaration },
  .openLabel { kind := .methodDeclaration },
  .openLabel { kind := .block }, .closeNode, .closeNode,
  .openLabel { kind := .fieldDeclaration }, .closeNode, .closeNode]

def twoBranches : Outline :=
  ((Builder.new "" none).calls openBranches).outline

theorem isDescendantOf_twoBranches :
    twoBranches.Built ∧ twoBranches.isDescendantOf 2 0 = true ∧ (twoBranches.reachable 1).ncard = 1 ∧
      twoBranches.block 1 ∩ twoBranches.block 3 = ∅ := by
  have ht : twoBranches.Built := ⟨"", none, openBranches, rfl⟩
  obtain ⟨hblock, _, _, htrans, hapart⟩ := isDescendantOf_contiguous ht
  have hgrandchild : twoBranches.isDescendantOf 2 1 = true := by decide +kernel
  have hchild : twoBranches.isDescendantOf 1 0 = true := by decide +kernel
  have hsibling : ¬ twoBranches.isDescendantOf 3 1 = true := by decide +kernel
  have hsibling' : ¬ twoBranches.isDescendantOf 1 3 = true := by decide +kernel
  refine ⟨ht, htrans 2 1 0 hgrandchild hchild, ?_, (hapart 1 3 (by decide)).mpr ⟨hsibling', hsibling⟩⟩
  rw [hblock] at hgrandchild hsibling
  omega

end Outline
end StructuralSearch
