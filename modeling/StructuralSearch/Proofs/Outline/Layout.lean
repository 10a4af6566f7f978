import StructuralSearch.Proofs.Failure
import StructuralSearch.Proofs.Outline.Preorder

/-!
This module contains trees of labels and how they are laid out in the outlines that are built from them: each node comes
right before its children, and the branches below it follow one another without a gap.
-/

namespace StructuralSearch

/-- A tree of labels. -/
inductive Branch where
  | node (label : Label) (children : List Branch)
  deriving Repr, Inhabited

namespace Branch

def label : Branch → Label
  | .node label _ => label

def children : Branch → List Branch
  | .node _ children => children

mutual

/-- Opens the root, builds the children, and closes the root. -/
def build : Branch → Builder → Except Error Builder
  | .node label children, b => do
    let (_, b) ← (Builder.openLabel label).result b
    let b ← buildAll children b
    let (_, b) ← Builder.closeNode.result b
    return b

def buildAll : List Branch → Builder → Except Error Builder
  | [], b => .ok b
  | t :: ts, b => do
    let b ← t.build b
    buildAll ts b

end

/-- The outline of a tree of labels. -/
def toOutline (t : Branch) (source : String) (path : Option String) : Except Error Outline := do
  let b ← t.build (Builder.new source path)
  b.finish

mutual

/-- Facts about trees of labels go from the children to the parent. -/
theorem induct {motive : Branch → Prop}
    (node : ∀ label children, (∀ b ∈ children, motive b) → motive (.node label children)) : (b : Branch) → motive b
  | .node label children => node label children (inductAll node children)

theorem inductAll {motive : Branch → Prop}
    (node : ∀ label children, (∀ b ∈ children, motive b) → motive (.node label children)) :
    (bs : List Branch) → ∀ b ∈ bs, motive b
  | [] => by simp
  | b :: bs => List.forall_mem_cons.mpr ⟨induct node b, inductAll node bs⟩

end

mutual

/-- All branches of a tree, each before those below it. -/
def subtrees : Branch → List Branch
  | .node label children => .node label children :: subtreesAll children

def subtreesAll : List Branch → List Branch
  | [] => []
  | b :: bs => b.subtrees ++ subtreesAll bs

end

/-- How many nodes there are. -/
def size (b : Branch) : Nat :=
  b.subtrees.length

/-- The numbers of the roots of branches that are laid out from `i` on. -/
def roots (i : Nat) : List Branch → List Nat
  | [] => []
  | b :: bs => i :: roots (i + b.size) bs

mutual

/-- The nodes of a branch that is laid out from `i` on under the given parent. -/
def layout (parent : Option Nat) (i : Nat) : Branch → List Node
  | .node label children => { label with parent, children := roots (i + 1) children } :: layoutAll i (i + 1) children

def layoutAll (parent i : Nat) : List Branch → List Node
  | [] => []
  | b :: bs => b.layout (some parent) i ++ layoutAll parent (i + b.size) bs

end

theorem subtreesAll_eq (bs : List Branch) : subtreesAll bs = bs.flatMap subtrees := by
  induction bs with
  | nil => rfl
  | cons b bs ih => rw [subtreesAll, ih, List.flatMap_cons]

theorem subtrees_eq (b : Branch) : b.subtrees = b :: b.children.flatMap subtrees := by
  cases b with
  | node label children => rw [subtrees, subtreesAll_eq, Branch.children]

theorem mem_subtrees_self (b : Branch) : b ∈ b.subtrees := by
  rw [subtrees_eq]
  exact List.mem_cons_self

theorem size_pos (b : Branch) : 0 < b.size := by
  unfold size
  rw [subtrees_eq]
  exact Nat.succ_pos _

mutual

theorem length_layout (parent : Option Nat) (i : Nat) : (b : Branch) → (b.layout parent i).length = b.size
  | .node label children => by
    unfold size
    rw [layout, subtrees, List.length_cons, List.length_cons, length_layoutAll]

theorem length_layoutAll (parent i : Nat) : (bs : List Branch) →
    (layoutAll parent i bs).length = (subtreesAll bs).length
  | [] => rfl
  | b :: bs => by
    rw [layoutAll, subtreesAll, List.length_append, List.length_append, length_layout, length_layoutAll]
    rfl

end

section Build

variable {b : Builder} {p : Nat} {rest : List Nat}

theorem modify_append {α : Type} {xs ys : Array α} {f : α → α} (h : p < xs.size) :
    (xs ++ ys).modify p f = xs.modify p f ++ ys := by
  apply Array.ext_getElem?
  intro i
  rw [Array.getElem?_modify, Array.getElem?_append, Array.getElem?_append, Array.size_modify, Array.getElem?_modify]
  by_cases hi : i < xs.size
  . simp [hi]
  . have hne : p ≠ i := by omega
    simp [hi, hne]

theorem modify_push {α : Type} (xs : Array α) (a : α) (f : α → α) :
    (xs.push a).modify xs.size f = xs.push (f a) := by
  apply Array.ext_getElem?
  intro i
  rw [Array.getElem?_modify, Array.getElem?_push, Array.getElem?_push]
  by_cases hi : i = xs.size
  . simp [hi]
  . simp [hi, Ne.symm hi]

theorem modify_modify {α : Type} (xs : Array α) (f g : α → α) :
    (xs.modify p f).modify p g = xs.modify p (g ∘ f) := by
  apply Array.ext_getElem?
  intro i
  rw [Array.getElem?_modify, Array.getElem?_modify, Array.getElem?_modify]
  split
  . rw [Option.map_map]
  . rfl

/-- The node with more children after those that it has. -/
def addChildren (is : List Nat) (n : Node) : Node :=
  { n with children := n.children ++ is }

theorem modify_addChildren_nil (nodes : Array Node) : nodes.modify p (addChildren []) = nodes := by
  apply Array.ext_getElem?
  intro i
  rw [Array.getElem?_modify]
  split
  . cases nodes[i]? with
    | none => rfl
    | some n => simp [addChildren]
  . rfl

theorem addChildren_comp (is js : List Nat) : addChildren js ∘ addChildren is = addChildren (is ++ js) := by
  funext n
  simp [addChildren]

theorem roots_append (i : Nat) (ts us : List Branch) :
    roots i (ts ++ us) = roots i ts ++ roots (i + (subtreesAll ts).length) us := by
  induction ts generalizing i with
  | nil => rfl
  | cons t ts ih =>
    rw [List.cons_append, roots, roots, ih, subtreesAll, List.length_append, List.cons_append, Nat.add_assoc, size]

theorem layoutAll_append (parent i : Nat) (ts us : List Branch) :
    layoutAll parent i (ts ++ us) = layoutAll parent i ts ++ layoutAll parent (i + (subtreesAll ts).length) us := by
  induction ts generalizing i with
  | nil => rfl
  | cons t ts ih =>
    rw [List.cons_append, layoutAll, layoutAll, ih, subtreesAll, List.length_append, List.append_assoc, Nat.add_assoc,
      size]

/-- The builder after branches have been built under the open node `p`. -/
def grow (b : Builder) (p : Nat) (ts : List Branch) : Builder :=
  { b with nodes := b.nodes.modify p (addChildren (roots b.nodes.size ts)) ++ (layoutAll p b.nodes.size ts).toArray }

@[simp]
theorem grow_size (b : Builder) (p : Nat) (ts : List Branch) :
    (grow b p ts).nodes.size = b.nodes.size + (subtreesAll ts).length := by
  simp [grow, length_layoutAll]

theorem grow_nil (b : Builder) (p : Nat) : grow b p [] = b := by
  unfold grow
  rw [roots, layoutAll, modify_addChildren_nil]
  simp

theorem grow_append (hp : p < b.nodes.size) (ts us : List Branch) : grow (grow b p ts) p us = grow b p (ts ++ us) := by
  have hsize := grow_size b p ts
  unfold grow at hsize ⊢
  rw [hsize, modify_append (by simpa using hp), modify_modify, addChildren_comp, roots_append, layoutAll_append,
    Array.append_assoc]
  simp

/-- A node that has been opened and given its branches is a branch once it is closed. -/
theorem grow_openChild (b : Builder) (p : Nat) (label : Label) (ts : List Branch) :
    { grow (b.openChild p label) b.nodes.size ts with opened := b.opened } = grow b p [.node label ts] := by
  have hmodify := modify_push (b.nodes.modify p (addChildren [b.nodes.size]))
    { label with parent := some p, children := [] } (addChildren (roots (b.nodes.size + 1) ts))
  rw [Array.size_modify] at hmodify
  unfold grow
  rw [Builder.openChild_size, roots, roots, layoutAll, layoutAll, layout, List.append_nil]
  unfold Builder.openChild
  dsimp only
  unfold addChildren at hmodify ⊢
  rw [hmodify, Array.push_eq_append, Array.append_assoc]
  simp

theorem openLabel_eq (label : Label) (hopened : b.opened = p :: rest) :
    (Builder.openLabel label).result b = .ok (b.nodes.size, b.openChild p label) := by
  unfold Building.result
  rw [Builder.perform_openLabel, hopened]
  rfl

theorem closeNode_eq (hopened : b.opened = p :: rest) :
    Builder.closeNode.result b = .ok (p, { b with opened := rest }) := by
  unfold Building.result
  rw [Builder.perform_closeNode, hopened]
  rfl

mutual

theorem build_eq {b : Builder} {p : Nat} {rest : List Nat} : (t : Branch) → b.opened = p :: rest → p < b.nodes.size →
    t.build b = .ok (grow b p [t])
  | .node label children => by
    intro hopened hp
    have hopened' : (b.openChild p label).opened = b.nodes.size :: b.opened := rfl
    rw [build, openLabel_eq label hopened]
    simp only [bind, Except.bind]
    rw [buildAll_eq children hopened' (by simp)]
    dsimp only
    rw [closeNode_eq (b := grow (b.openChild p label) b.nodes.size children) hopened', ← grow_openChild]
    rfl

theorem buildAll_eq {b : Builder} {p : Nat} {rest : List Nat} : (ts : List Branch) → b.opened = p :: rest →
    p < b.nodes.size → buildAll ts b = .ok (grow b p ts)
  | [] => by
    intro _ _
    rw [buildAll, grow_nil]
  | t :: ts => by
    intro hopened hp
    have hopened' : (grow b p [t]).opened = p :: rest := hopened
    have hp' : p < (grow b p [t]).nodes.size := by
      rw [grow_size]
      omega
    rw [buildAll, build_eq t hopened hp]
    simp only [bind, Except.bind]
    rw [buildAll_eq ts hopened' hp', grow_append hp, List.singleton_append]

end

theorem openLabel_new (label : Label) (source : String) (path : Option String) :
    (Builder.openLabel label).result (Builder.new source path) = .ok (0, (Builder.new source path).openRoot label) :=
  rfl

theorem build_new (label : Label) (children : List Branch) (source : String) (path : Option String) :
    (node label children).build (Builder.new source path) =
      .ok { grow ((Builder.new source path).openRoot label) 0 children with opened := [] } := by
  have hopened : ((Builder.new source path).openRoot label).opened = [0] := rfl
  rw [build, openLabel_new]
  simp only [bind, Except.bind]
  rw [buildAll_eq children hopened (by simp [Builder.openRoot])]
  dsimp only
  rw [closeNode_eq (b := grow ((Builder.new source path).openRoot label) 0 children) hopened]
  rfl

/-- The outline of a tree of labels is its layout. -/
theorem toOutline_eq (t : Branch) (source : String) (path : Option String) :
    t.toOutline source path = .ok { nodes := (t.layout none 0).toArray, path, source } := by
  cases t with
  | node label children =>
    rw [toOutline, build_new, ok_bind]
    simp [grow, Builder.openRoot, Builder.finish, addChildren, layout, Builder.new]

mutual

theorem build_wellFormed {b b' : Builder} : (t : Branch) → b.WellFormed → t.build b = .ok b' → b'.WellFormed
  | .node label children => by
    intro hb h
    rw [build] at h
    simp only [bind_eq_ok] at h
    obtain ⟨opened, hopen, built, hall, closed, hclose, h⟩ := h
    cases h
    exact (buildAll_wellFormed children (hb.openLabel hopen) hall).closeNode hclose

theorem buildAll_wellFormed {b b' : Builder} : (ts : List Branch) → b.WellFormed → buildAll ts b = .ok b' →
    b'.WellFormed
  | [] => by
    intro hb h
    cases h
    exact hb
  | t :: ts => by
    intro hb h
    rw [buildAll, bind_eq_ok] at h
    obtain ⟨built, hbuild, h⟩ := h
    exact buildAll_wellFormed ts (build_wellFormed t hb hbuild) h

end

theorem wellFormed_of_toOutline {t : Branch} {source : String} {path : Option String} {o : Outline}
    (h : t.toOutline source path = .ok o) : o.WellFormed := by
  unfold toOutline at h
  rw [bind_eq_ok] at h
  obtain ⟨b, hbuild, hfinish⟩ := h
  exact (build_wellFormed t (Builder.new_wellFormed source path) hbuild).finish hfinish

end Build

mutual

theorem map_layout (parent : Option Nat) (i : Nat) : (b : Branch) →
    (b.layout parent i).map Node.toLabel = b.subtrees.map label
  | .node label children => by
    rw [layout, subtrees, List.map_cons, List.map_cons, map_layoutAll]
    rfl

theorem map_layoutAll (parent i : Nat) : (bs : List Branch) →
    (layoutAll parent i bs).map Node.toLabel = (subtreesAll bs).map label
  | [] => rfl
  | b :: bs => by
    rw [layoutAll, subtreesAll, List.map_append, List.map_append, map_layout, map_layoutAll]

end

end Branch

namespace Outline

open Branch (roots layout layoutAll)

mutual

/-- The branch is laid out in the outline from `i` on. -/
def Shows (t : Outline) (i : Nat) : Branch → Prop
  | .node label children =>
    (t.node i).toLabel = label ∧ t.children i = roots (i + 1) children ∧ t.ShowsAll (i + 1) children

def ShowsAll (t : Outline) (i : Nat) : List Branch → Prop
  | [] => True
  | b :: bs => t.Shows i b ∧ t.ShowsAll (i + b.size) bs

end

variable {t : Outline}

mutual

theorem shows_of_layout {i : Nat} (parent : Option Nat) : (b : Branch) →
    (∀ k, k < b.size → t.nodes[i + k]? = (b.layout parent i)[k]?) → t.Shows i b
  | .node label children => by
    intro h
    rw [layout] at h
    have hroot : t.node i = { label with parent, children := roots (i + 1) children } := by
      unfold node
      rw [← Nat.add_zero i, h 0 (Branch.size_pos _)]
      rfl
    rw [Shows, Outline.children, hroot]
    refine ⟨rfl, rfl, showsAll_of_layoutAll i children ?_⟩
    intro k hk
    have hbelow := h (k + 1) (by unfold Branch.size; rw [Branch.subtrees, List.length_cons]; omega)
    rw [List.getElem?_cons_succ] at hbelow
    rw [← hbelow, Nat.add_assoc, Nat.add_comm 1 k]

theorem showsAll_of_layoutAll {i : Nat} (parent : Nat) : (bs : List Branch) →
    (∀ k, k < (Branch.subtreesAll bs).length → t.nodes[i + k]? = (layoutAll parent i bs)[k]?) → t.ShowsAll i bs
  | [] => by
    intro _
    rw [ShowsAll]
    trivial
  | b :: bs => by
    intro h
    rw [layoutAll, Branch.subtreesAll, List.length_append] at h
    have hb : b.size = b.subtrees.length := rfl
    rw [ShowsAll]
    constructor
    . apply shows_of_layout (some parent) b
      intro k hk
      rw [h k (by omega), List.getElem?_append_left]
      rw [Branch.length_layout]
      exact hk
    . apply showsAll_of_layoutAll parent bs
      intro k hk
      rw [Nat.add_assoc, h (b.size + k) (by omega), List.getElem?_append_right]
      . rw [Branch.length_layout, Nat.add_sub_cancel_left]
      . rw [Branch.length_layout]
        omega

end

theorem shows_of_toOutline {b : Branch} {source : String} {path : Option String}
    (h : b.toOutline source path = .ok t) : t.size = b.size ∧ t.Shows 0 b := by
  rw [Branch.toOutline_eq] at h
  cases h
  constructor
  . unfold size
    rw [List.size_toArray, Branch.length_layout]
  . apply shows_of_layout none
    intro k _
    simp

mutual

theorem exists_shows {i k : Nat} : (b : Branch) → t.Shows i b → i ≤ k → k < i + b.size →
    ∃ s ∈ b.subtrees, t.Shows k s
  | .node label children => by
    intro h hle hlt
    by_cases heq : k = i
    . subst heq
      exact ⟨_, Branch.mem_subtrees_self _, h⟩
    . rw [Shows] at h
      unfold Branch.size at hlt
      rw [Branch.subtrees, List.length_cons] at hlt
      obtain ⟨s, hs, hshows⟩ := exists_showsAll (k := k) children h.2.2 (by omega) (by omega)
      exact ⟨s, List.mem_cons_of_mem _ hs, hshows⟩

theorem exists_showsAll {i k : Nat} : (bs : List Branch) → t.ShowsAll i bs → i ≤ k →
    k < i + (Branch.subtreesAll bs).length → ∃ s ∈ Branch.subtreesAll bs, t.Shows k s
  | [] => by
    intro _ hle hlt
    rw [Branch.subtreesAll, List.length_nil] at hlt
    omega
  | b :: bs => by
    intro h hle hlt
    rw [ShowsAll] at h
    rw [Branch.subtreesAll, List.length_append] at hlt
    have hb : b.size = b.subtrees.length := rfl
    rw [Branch.subtreesAll]
    by_cases hk : k < i + b.size
    . obtain ⟨s, hs, hshows⟩ := exists_shows b h.1 hle hk
      exact ⟨s, List.mem_append_left _ hs, hshows⟩
    . obtain ⟨s, hs, hshows⟩ := exists_showsAll (k := k) bs h.2 (by omega) (by omega)
      exact ⟨s, List.mem_append_right _ hs, hshows⟩

end

theorem map_roots {i : Nat} {bs : List Branch} (h : t.ShowsAll i bs) :
    (roots i bs).map (fun c => (t.node c).toLabel) = bs.map Branch.label := by
  induction bs generalizing i with
  | nil => rfl
  | cons b bs ih =>
    rw [ShowsAll] at h
    rw [roots, List.map_cons, List.map_cons, ih h.2]
    cases b with
    | node label children =>
      have hb := h.1
      rw [Shows] at hb
      rw [hb.1, Branch.label]

theorem Shows.label_eq {i : Nat} {b : Branch} (h : t.Shows i b) : (t.node i).toLabel = b.label := by
  cases b with
  | node label children =>
    rw [Shows] at h
    exact h.1

theorem Shows.map_children {i : Nat} {b : Branch} (h : t.Shows i b) :
    (t.children i).map (fun c => (t.node c).toLabel) = b.children.map Branch.label := by
  cases b with
  | node label children =>
    rw [Shows] at h
    rw [h.2.1, map_roots h.2.2]
    rfl

theorem exists_subtree {b : Branch} {source : String} {path : Option String} {i : Nat}
    (h : b.toOutline source path = .ok t) (hi : i < t.size) :
    ∃ s ∈ b.subtrees, (t.node i).toLabel = s.label ∧
      (t.children i).map (fun c => (t.node c).toLabel) = s.children.map Branch.label := by
  obtain ⟨hsize, hshows⟩ := shows_of_toOutline h
  obtain ⟨s, hs, hshows⟩ := exists_shows b hshows (Nat.zero_le i) (by omega)
  exact ⟨s, hs, hshows.label_eq, hshows.map_children⟩

theorem map_nodes {b : Branch} {source : String} {path : Option String} (h : b.toOutline source path = .ok t) :
    t.nodes.toList.map Node.toLabel = b.subtrees.map Branch.label := by
  rw [Branch.toOutline_eq] at h
  cases h
  exact Branch.map_layout none 0 b

end Outline
end StructuralSearch
