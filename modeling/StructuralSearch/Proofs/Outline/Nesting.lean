import StructuralSearch.Proofs.Outline.Layout
import StructuralSearch.Proofs.Position

/-!
This module contains outlines whose spans lie in one another as the nodes do. Of two nodes neither of which is above the
other, the one with the smaller number ends before the other starts.
-/

namespace StructuralSearch

open StructuralSearch.Span (InOrder)

/-- The first token with the given text. -/
def Label.token? (label : Label) (text : String) : Option Token :=
  label.tokens.find? (·.text == text)

/-- From the one token to the other. -/
def Token.through (l r : Token) : Span :=
  { start := l.span.start, stop := r.span.stop }

/-- The condition of an `if` lies in its parentheses, and the other children lie before and after them. -/
structure Encloses (l r : Token) (before : List Label) (condition : Label) (after : List Label) : Prop where
  condition : condition.span.Within (l.through r)
  before : ∀ d ∈ before, d.span.Precedes (l.through r)
  after : ∀ d ∈ after, (l.through r).Precedes d.span

/-- The spans of the children follow one another in the span of a node, and its tokens lie in it as well. -/
structure Nests (label : Label) (children : List Label) : Prop where
  upright : label.span.start.le label.span.stop = true
  inOrder : InOrder label.span.stop label.span.start (children.map (·.span))
  tokens : ∀ t ∈ label.tokens, t.span.Within label.span

/-- The parentheses of an `if` are around its condition. -/
def Parenthesizes (label : Label) (children : List Label) : Prop :=
  label.kind = .ifStatement → ∀ before condition after, children = before ++ condition :: after →
    condition.kind.isExpression = true → ∀ l r, label.token? "(" = some l → label.token? ")" = some r →
    Encloses l r before condition after

namespace Outline

variable {t : Outline} {i j p : Nat}

/-- The relation holds between the label of each node and those of its children. -/
def Everywhere (P : Label → List Label → Prop) (t : Outline) : Prop :=
  ∀ i, i < t.size → P (t.node i).toLabel ((t.children i).map fun c => (t.node c).toLabel)

/-- The parentheses of an `if` around a child of it. -/
structure EnclosedBy (t : Outline) (p i : Nat) (l r : Token) : Prop where
  inside : (l.through r).Within (t.span p)
  condition : (t.span i).Within (l.through r)
  before : ∀ c ∈ t.children p, c < i → (t.span c).Precedes (l.through r)
  after : ∀ c ∈ t.children p, i < c → (l.through r).Precedes (t.span c)

/-- The spans of an outline lie in one another as its nodes do. -/
structure Packed (t : Outline) : Prop where
  upright : ∀ i, i < t.size → (t.span i).start.le (t.span i).stop = true
  within : ∀ p, ∀ c ∈ t.children p, (t.span c).Within (t.span p)
  ordered : ∀ p, ∀ c ∈ t.children p, ∀ d ∈ t.children p, c < d → (t.span c).Precedes (t.span d)
  tokens : ∀ i, i < t.size → ∀ token ∈ (t.node i).tokens, token.span.Within (t.span i)

/-- The same, with parentheses around the condition of an `if`. -/
structure Nested (t : Outline) : Prop extends Packed t where
  parens : ∀ p, t.kind p = .ifStatement → ∀ i ∈ t.children p, (t.kind i).isExpression = true →
    ∀ l r, t.token? p "(" = some l → t.token? p ")" = some r → t.EnclosedBy p i l r

section Transfer

variable {before after : List Nat}

theorem mem_before (h : (before ++ i :: after).Pairwise (· < ·)) (hj : j ∈ before ++ i :: after) (hlt : j < i) :
    j ∈ before := by
  rw [List.pairwise_append, List.pairwise_cons] at h
  rw [List.mem_append, List.mem_cons] at hj
  obtain hj | hj | hj := hj
  . exact hj
  . omega
  . have := h.2.1.1 j hj
    omega

theorem mem_after (h : (before ++ i :: after).Pairwise (· < ·)) (hj : j ∈ before ++ i :: after) (hlt : i < j) :
    j ∈ after := by
  rw [List.pairwise_append] at h
  rw [List.mem_append, List.mem_cons] at hj
  obtain hj | hj | hj := hj
  . have := h.2.2 j hj i List.mem_cons_self
    omega
  . omega
  . exact hj

theorem lt_size_of_mem_children (ht : t.Linked) {c : Nat} (hc : c ∈ t.children p) : p < t.size := by
  have hlt := ht.lt_of_mem_children hc
  have hsize := lt_size_of_parent? (ht.mem_children.mp hc)
  omega

theorem packed_of_nests (h : t.Everywhere Nests) (ht : t.Linked) : t.Packed := by
  constructor
  . intro i hi
    exact (h i hi).upright
  . intro p c hc
    have hnests := h p (lt_size_of_mem_children ht hc)
    have hbounds := hnests.inOrder.bounds (t.span c)
    rw [List.map_map] at hbounds
    exact hbounds (List.mem_map_of_mem hc)
  . intro p c hc d hd hcd
    have hnests := h p (lt_size_of_mem_children ht hc)
    have hpairwise := ht.children_pairwise p
    obtain ⟨before, after, heq⟩ := List.append_of_mem hd
    rw [heq] at hpairwise hc
    have hbefore := mem_before hpairwise hc hcd
    have hordered := hnests.inOrder.pairwise
    rw [heq, List.map_map, List.map_append, List.pairwise_append] at hordered
    exact hordered.2.2 (t.span c) (List.mem_map_of_mem hbefore) (t.span d) List.mem_cons_self
  . intro i hi
    exact (h i hi).tokens

theorem nested_of_parenthesizes (h : t.Everywhere Nests) (hparens : t.Everywhere Parenthesizes) (ht : t.Linked) :
    t.Nested := by
  refine ⟨packed_of_nests h ht, ?_⟩
  intro p hkind i hi hexpression l r hl hr
  have hp := lt_size_of_mem_children ht hi
  have hnests := h p hp
  have hpairwise := ht.children_pairwise p
  obtain ⟨before, after, heq⟩ := List.append_of_mem hi
  have hencloses := hparens p hp hkind (before.map fun c => (t.node c).toLabel)
    (t.node i).toLabel (after.map fun c => (t.node c).toLabel) (by rw [heq, List.map_append, List.map_cons])
    hexpression l r hl hr
  have hl' := hnests.tokens l (List.mem_of_find?_eq_some hl)
  have hr' := hnests.tokens r (List.mem_of_find?_eq_some hr)
  rw [heq] at hpairwise
  refine ⟨⟨hl'.1, hr'.2⟩, hencloses.condition, ?_, ?_⟩
  . intro c hc hlt
    rw [heq] at hc
    exact hencloses.before _ (List.mem_map_of_mem (mem_before hpairwise hc hlt))
  . intro c hc hlt
    rw [heq] at hc
    exact hencloses.after _ (List.mem_map_of_mem (mem_after hpairwise hc hlt))

end Transfer

namespace Packed

theorem within_lineage {i p : Nat} (h : t.Packed) (ht : t.Linked) (hp : p ∈ t.lineage i) :
    (t.span i).Within (t.span p) := by
  rw [mem_lineage] at hp
  cases hp with
  | inl heq =>
    subst heq
    exact Span.Within.refl _
  | inr hp =>
    rw [mem_ancestors_iff] at hp
    obtain ⟨parent, hparent, hlt, hp⟩ := hp
    exact Span.Within.trans (h.within parent i (ht.mem_children.mpr hparent)) (h.within_lineage ht hp)
termination_by i

theorem precedes {i j : Nat} (h : t.Packed) (ht : t.Linked) (hj : j < t.size) (hij : i < j)
    (hi : i ∉ t.ancestors j) : (t.span i).Precedes (t.span j) := by
  -- Climb from the second node until the first one is below the parent as well.
  obtain ⟨p, hp⟩ := ht.exists_parent (by omega) hj
  have hlt := ht.parent_lt hp
  have hchild := ht.mem_children.mpr hp
  rw [ht.ancestors_eq hp, mem_lineage, not_or] at hi
  by_cases hip : i < p
  . have hprecedes := h.precedes ht (by omega) hip hi.2
    exact hprecedes.of_within (Span.Within.refl _) (h.within p j hchild)
  . -- Both are below the parent of the second.
    have hmem : p ∈ t.lineage i := by
      apply ht.mem_lineage_between _ (by omega) (by omega) hj
      rw [mem_lineage]
      exact .inr (ht.parent_mem_ancestors hp)
    rw [mem_lineage] at hmem
    obtain ⟨c, hc, hci⟩ := ht.exists_child (hmem.resolve_left (Ne.symm hi.1))
    have hle := le_of_mem_lineage hci
    have hordered := h.ordered p c hc j hchild (by omega)
    exact hordered.of_within (h.within_lineage ht hci) (Span.Within.refl _)
termination_by j

end Packed

end Outline
end StructuralSearch
