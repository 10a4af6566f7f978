import StructuralSearch.Proofs.Concrete.Retained

/-!
This module contains where the retained nodes of a concrete tree are, and under which of them each one belongs in the
outline: under its parent, or under a namespace that owns the rest of the file.
-/

namespace StructuralSearch
namespace Concrete

/-- The last `else` after the last retained one of the siblings before, which are given from the nearest on. -/
def elseBefore? (parent : NodeKind) (before : List Info) : Option Token :=
  if parent == .ifStatement then
    ((before.takeWhile fun c => !c.isRetained parent).find? Info.isElseToken).map Info.token
  else
    none

/-- A retained namespace for the rest of the file, under a node of the given kind. -/
def Info.ownsRest (parent : NodeKind) (c : Info) : Bool :=
  parent == .compilationUnit && c.isRetained parent && c.isFileNamespace

/-- Which of the siblings before is the first namespace for the rest of the file. They are given from the nearest on. -/
def fileBefore? (parent : NodeKind) (before : List Info) : Option Nat :=
  before.reverse.findIdx? (Info.ownsRest parent)

/-- A retained node below the root. -/
structure Site where
  /-- The way to it from the root: which child to go to at each node. -/
  path : List Nat
  info : Info
  /-- The kind that it has in the outline. -/
  kind : NodeKind
  /-- The way to the node that it belongs under: its parent, or the namespace that owns the rest of the file. -/
  host : List Nat
  /-- The `else` before it, if it is the alternative of an `if`. -/
  keyword : Option Token

/-- The node `i` that stands for a retained one, after the clause around it if there is a keyword. -/
def nodesAt (keyword : Option Token) (i : Nat) : List Nat :=
  match keyword with
  | none => [i]
  | some _ => [i - 1, i]

/-- The nodes for a retained one, if the images of retained nodes are as given. -/
def Site.nodes (image : List Nat → Nat) (x : Site) : List Nat :=
  nodesAt x.keyword (image x.path)

/-- The first of them. -/
def Site.top (image : List Nat → Nat) (x : Site) : Nat :=
  match x.keyword with
  | none => image x.path
  | some _ => image x.path - 1

/-- A site below the `j`-th child of a node, seen from the node. -/
def Site.under (j : Nat) (x : Site) : Site :=
  { x with path := j :: x.path, host := j :: x.host }

mutual

/-- The retained nodes below a tree that fills the given field, in pre-order. -/
def sitesBelow (field : Option String) (inType : Bool) : Concrete → List Site
  | .node c children =>
    let t := Concrete.node c children
    sitesAmong (t.kindAt field inType) (t.typeBelow field inType) [] children

/-- The retained ones among the children of a node of the given kind, each with those below it. -/
def sitesAmong (parent : NodeKind) (inType : Bool) (before : List Info) : List Concrete → List Site
  | [] => []
  | .node c below :: cs =>
    let t := Concrete.node c below
    let keyword := elseBefore? parent before
    let field := if keyword.isSome then none else c.field
    let own :=
      if c.isRetained parent then
        { path := [before.length], info := c, kind := t.kindAt field inType
          host := (fileBefore? parent before).toList, keyword }
          :: (sitesBelow field inType t).map (Site.under before.length)
      else
        []
    own ++ sitesAmong parent inType (c :: before) cs

end

/-- The retained nodes of a tree below its root, in pre-order. -/
def sites (t : Concrete) : List Site :=
  t.sitesBelow none false

section Before

variable {kind : NodeKind} {c : Info} {before : List Info}

theorem elseBefore?_of_ne (h : kind ≠ .ifStatement) (before : List Info) : elseBefore? kind before = none := by
  simp [elseBefore?, h]

theorem fileBefore?_of_ne (h : kind ≠ .compilationUnit) (before : List Info) : fileBefore? kind before = none := by
  simp [fileBefore?, Info.ownsRest, h]

theorem isSome_elseBefore? (kind : NodeKind) (before : List Info) :
    (elseBefore? kind before).isSome = followsElse kind before := by
  unfold elseBefore? followsElse
  cases kind == .ifStatement with
  | false => rfl
  | true => simp only [if_true, Option.isSome_map, List.isSome_find?, Bool.true_and]

theorem elseBefore?_of_kept (before : List Info) (h : c.fate kind = .kept) :
    elseBefore? kind (c :: before) = none := by
  have hretained := Info.isRetained_iff.mpr h
  simp [elseBefore?, hretained]

theorem elseBefore?_of_not_kept (before : List Info) (h : c.fate kind ≠ .kept) :
    elseBefore? kind (c :: before) =
      if kind == .ifStatement && c.isElseToken then some c.token else elseBefore? kind before := by
  have hretained := Info.isRetained_eq_false h
  unfold elseBefore?
  rw [List.takeWhile_cons]
  cases hif : kind == .ifStatement with
  | false => simp
  | true =>
    cases helse : c.isElseToken with
    | false => simp [hretained, helse]
    | true => simp [hretained, helse]

theorem fileBefore?_cons (kind : NodeKind) (c : Info) (before : List Info) : fileBefore? kind (c :: before) =
    (fileBefore? kind before).or (if c.ownsRest kind then some before.length else none) := by
  unfold fileBefore?
  rw [List.reverse_cons, List.findIdx?_append]
  cases howns : c.ownsRest kind with
  | false => simp [List.findIdx?_cons, howns]
  | true => simp only [List.findIdx?_cons, howns, if_true, Option.map_some, Nat.zero_add, List.length_reverse]

theorem fileBefore?_of_not_kept (before : List Info) (h : c.fate kind ≠ .kept) :
    fileBefore? kind (c :: before) = fileBefore? kind before := by
  rw [ne_eq, ← Info.isRetained_iff] at h
  rw [fileBefore?_cons, Info.ownsRest]
  simp [h]

theorem lt_of_fileBefore? {f : Nat} (h : fileBefore? kind before = some f) :
    f < before.length := by
  unfold fileBefore? at h
  rw [List.findIdx?_eq_some_iff_getElem] at h
  obtain ⟨hlt, _⟩ := h
  rw [List.length_reverse] at hlt
  exact hlt

theorem fileBefore?_of_settled (hsettled : kind = .compilationUnit → (fileBefore? kind before).isSome = true)
    (c : Info) : fileBefore? kind (c :: before) = fileBefore? kind before := by
  rw [fileBefore?_cons]
  cases hfile : fileBefore? kind before with
  | some f => rfl
  | none =>
    have hkind : kind ≠ .compilationUnit := by
      intro h
      rw [hfile] at hsettled
      cases hsettled h
    simp [Info.ownsRest, hkind]

theorem head_lt_of_fileBefore? : ∀ k ∈ (fileBefore? kind before).toList.head?, k < before.length := by
  intro k hk
  cases hfile : fileBefore? kind before with
  | none =>
    rw [hfile] at hk
    cases hk
  | some f =>
    rw [hfile] at hk
    cases hk
    exact lt_of_fileBefore? hfile

end Before

/-- A child that stays a node, together with those below it. -/
def sitesOf (j : Nat) (host : List Nat) (keyword : Option Token) (inType : Bool) (t : Concrete) : List Site :=
  let field := if keyword.isSome then none else t.info.field
  { path := [j], info := t.info, kind := t.kindAt field inType, host, keyword }
    :: (t.sitesBelow field inType).map (Site.under j)

theorem sitesAmong_of_kept {kind : NodeKind} {inType : Bool} {before : List Info} {c : Info}
    {below cs : List Concrete} (h : c.fate kind = .kept) : sitesAmong kind inType before (.node c below :: cs) =
      sitesOf before.length (fileBefore? kind before).toList (elseBefore? kind before) inType (.node c below)
        ++ sitesAmong kind inType (c :: before) cs := by
  have hretained := Info.isRetained_iff.mpr h
  rw [sitesAmong]
  simp only [hretained, if_true]
  rfl

theorem sitesAmong_of_not_kept {kind : NodeKind} {inType : Bool} {before : List Info} {c : Info}
    {below cs : List Concrete} (h : c.fate kind ≠ .kept) :
    sitesAmong kind inType before (.node c below :: cs) = sitesAmong kind inType (c :: before) cs := by
  rw [ne_eq, ← Info.isRetained_iff] at h
  rw [sitesAmong]
  simp only [h, Bool.false_eq_true, if_false, List.nil_append]

theorem head_lt_of_mem_sitesOf {j : Nat} {host : List Nat} {keyword : Option Token} {inType : Bool} {t : Concrete}
    (hhost : ∀ k ∈ host.head?, k < j) : ∀ x ∈ sitesOf j host keyword inType t,
      (∀ k ∈ x.path.head?, k < j + 1) ∧ ∀ k ∈ x.host.head?, k < j + 1 := by
  unfold sitesOf
  rw [List.forall_mem_cons]
  constructor
  . refine ⟨by simp, ?_⟩
    intro k hk
    have := hhost k hk
    omega
  . intro x hx
    rw [List.mem_map] at hx
    obtain ⟨x', _, heq⟩ := hx
    subst heq
    simp [Site.under]

section Hosts

variable {kind : NodeKind} {inType : Bool} {before : List Info} {cs : List Concrete}

/-- The nodes below a tree belong under the tree itself or under another one below it. -/
def HostsBelow (t : Concrete) : Prop :=
  ∀ field inType, ∀ x ∈ t.sitesBelow field inType, x.host ∈ [] :: (t.sitesBelow field inType).map (·.path)

theorem host_of_mem_sitesOf {t : Concrete} {j : Nat} {host : List Nat} {keyword : Option Token} {x : Site}
    (ht : t.HostsBelow) (h : x ∈ sitesOf j host keyword inType t) :
    x.host = host ∨ x.host ∈ (sitesOf j host keyword inType t).map (·.path) := by
  unfold sitesOf at h ⊢
  rw [List.mem_cons] at h
  cases h with
  | inl heq =>
    subst heq
    exact .inl rfl
  | inr h =>
    rw [List.mem_map] at h
    obtain ⟨x', hx', heq⟩ := h
    subst heq
    right
    have hhost := ht _ _ x' hx'
    rw [List.mem_cons] at hhost
    rw [List.map_cons, List.mem_cons, List.map_map]
    cases hhost with
    | inl hnil =>
      left
      rw [Site.under, hnil]
    | inr hhost =>
      right
      rw [List.mem_map] at hhost ⊢
      obtain ⟨y, hy, hpath⟩ := hhost
      refine ⟨y, hy, ?_⟩
      simp [Site.under, hpath]

theorem host_of_mem_sitesAmong (hcs : ∀ t ∈ cs, t.HostsBelow) : ∀ x ∈ sitesAmong kind inType before cs,
    x.host = (fileBefore? kind before).toList ∨
      x.host ∈ [] :: (sitesAmong kind inType before cs).map (·.path) := by
  induction cs generalizing before with
  | nil => simp [sitesAmong]
  | cons t cs ih =>
    rw [List.forall_mem_cons] at hcs
    obtain ⟨c, below⟩ := t
    by_cases hfate : c.fate kind = .kept
    . rw [sitesAmong_of_kept hfate]
      intro x hx
      rw [List.mem_append] at hx
      rw [List.map_append, List.mem_cons, List.mem_append]
      cases hx with
      | inl hx =>
        cases host_of_mem_sitesOf hcs.1 hx with
        | inl hhost => exact .inl hhost
        | inr hhost => exact .inr (.inr (.inl hhost))
      | inr hx =>
        cases ih hcs.2 x hx with
        | inl hhost =>
          -- The namespace for the rest of the file is one of those before, or it is this child.
          rw [fileBefore?_cons] at hhost
          cases hfile : fileBefore? kind before with
          | some f =>
            rw [hfile] at hhost
            exact .inl hhost
          | none =>
            rw [hfile, Option.none_or] at hhost
            right
            split at hhost
            . rw [hhost]
              exact .inr (.inl List.mem_cons_self)
            . exact .inl hhost
        | inr hhost =>
          rw [List.mem_cons] at hhost
          cases hhost with
          | inl hnil => exact .inr (.inl hnil)
          | inr hhost => exact .inr (.inr (.inr hhost))
    . rw [sitesAmong_of_not_kept hfate]
      intro x hx
      have hhost := ih hcs.2 x hx
      rw [fileBefore?_of_not_kept before hfate] at hhost
      exact hhost

theorem hostsBelow (t : Concrete) : t.HostsBelow := by
  induction t using induct with
  | node c children ih =>
    intro field inType x hx
    rw [sitesBelow] at hx ⊢
    cases host_of_mem_sitesAmong ih x hx with
    | inl hnil =>
      rw [hnil]
      exact List.mem_cons_self
    | inr hhost => exact hhost

end Hosts

end Concrete
end StructuralSearch
