import StructuralSearch.Proofs.Concrete.Children
import StructuralSearch.Proofs.Outline.Layout

/-!
This module contains what the branches of a lowered tree are made from. That is one node with the span that it has, but
for the clause around an alternative, and for the namespace that takes in the rest of the file.
-/

namespace StructuralSearch
namespace Concrete

theorem mem_subtrees_of_mem_children {s c t : Concrete} (hs : s ∈ t.subtrees) (hc : c ∈ s.children) :
    c ∈ t.subtrees := by
  induction t using induct with
  | node info children ih =>
    rw [mem_subtrees] at hs ⊢
    cases hs with
    | inl heq =>
      subst heq
      exact .inr ⟨c, hc, mem_subtrees_self c⟩
    | inr hs =>
      obtain ⟨d, hd, hs⟩ := hs
      exact .inr ⟨d, hd, ih d hd hs⟩

/-- What a branch is made from, in a tree that is lowered. -/
inductive Origin (source : String) (t : Concrete) : Branch → Prop
  | node {s : Concrete} {field : Option String} {inType : Bool} {own : Label} {first : List Branch}
    (hs : s ∈ t.subtrees) (hparts : lowerParts source field inType s.info.span s = .ok (own, first)) :
    Origin source t (.node own first)
  /-- An `else` and the alternative after it. -/
  | clause {s keyword c : Concrete} {inType : Bool} {own : Label} {first : List Branch} (hs : s ∈ t.subtrees)
    (helse : keyword.info.kind = "else") (hsub : [keyword, c].Sublist s.children)
    (hparts : lowerParts source none inType c.info.span c = .ok (own, first)) :
    Origin source t (elseClause keyword.info.token (.node own first) c.info.span.stop)
  /-- A namespace and what follows it under the same node. -/
  | file {s c : Concrete} {cs : List Concrete} {inType : Bool} {own : Label} {first rest : List Branch}
    (hs : s ∈ t.subtrees) (hsuffix : c :: cs <:+ s.children)
    (hkind : c.info.kind = "file_scoped_namespace_declaration")
    (hparts : lowerParts source c.info.field inType { start := c.info.span.start, stop := s.info.span.stop } c
      = .ok (own, first))
    (hrest : (kids s.info.span.stop .compilationUnit none true cs).mapM (Kid.lower source inType) = .ok rest) :
    Origin source t (.node own (first ++ rest))

section Kids

variable {source : String} {t s : Concrete} {inType inFile : Bool} {kind : NodeKind} {keyword : Option Token}
  {stop : Position} {cs : List Concrete} {lowered : List Branch}

/-- The keyword that waits for an alternative, if there is one, comes from the children in the list. -/
def IsFrom (keyword : Option Token) (es : List Concrete) : Prop :=
  keyword.toList = es.map (·.info.token) ∧ ∀ e ∈ es, e.info.kind = "else"

theorem isFrom_none : IsFrom none [] :=
  ⟨rfl, by simp⟩

theorem isFrom_of_isElse {c : Info} {below : List Concrete} (h : isElse kind c = true) :
    IsFrom (some c.token) [.node c below] := by
  unfold isElse at h
  rw [Bool.and_eq_true, beq_iff_eq, beq_iff_eq] at h
  refine ⟨rfl, ?_⟩
  simp [Concrete.info, h.2]

/-- All branches below a lowered tree have an origin. -/
def IsMade (source : String) (t s : Concrete) : Prop :=
  ∀ field inType span own first, lowerParts source field inType span s = .ok (own, first) →
    ∀ b ∈ Branch.subtreesAll first, Origin source t b

theorem origin_of_kid {c : Concrete} {b : Branch} {es : List Concrete} (hs : s ∈ t.subtrees)
    (hc : IsMade source t c) (hkeyword : IsFrom keyword es) (hsub : (es ++ [c]).Sublist s.children)
    (h : Kid.lower source inType ⟨keyword, c.info.span, c⟩ = .ok b) : ∀ x ∈ b.subtrees, Origin source t x := by
  obtain ⟨own, first, hparts, hb⟩ := Kid.lower_ok h
  have hmem : c ∈ t.subtrees := mem_subtrees_of_mem_children hs (hsub.subset (by simp))
  have hnode : ∀ x ∈ (Branch.node own first).subtrees, Origin source t x := by
    rw [Branch.subtrees, List.forall_mem_cons]
    exact ⟨.node hmem hparts, hc _ _ _ _ _ hparts⟩
  subst hb
  cases keyword with
  | none => exact hnode
  | some token =>
    obtain ⟨e, heq, htoken⟩ := List.map_eq_singleton_iff.mp hkeyword.1.symm
    subst heq htoken
    have helse := hkeyword.2 e List.mem_cons_self
    rw [Option.elim, elseClause, Branch.subtrees, Branch.subtreesAll, Branch.subtreesAll, List.append_nil,
      List.forall_mem_cons]
    exact ⟨.clause hs helse hsub hparts, hnode⟩

theorem origin_of_kids {es : List Concrete} (hopens : ∀ c, opensFile kind inFile c = false) (hs : s ∈ t.subtrees)
    (hcs : ∀ c ∈ cs, IsMade source t c) (hkeyword : IsFrom keyword es) (hsub : (es ++ cs).Sublist s.children)
    (h : (kids stop kind keyword inFile cs).mapM (Kid.lower source inType) = .ok lowered) :
    ∀ b ∈ Branch.subtreesAll lowered, Origin source t b := by
  -- What is left of the children follows the child that the keyword comes from.
  induction cs generalizing keyword es lowered with
  | nil =>
    cases h
    simp [Branch.subtreesAll]
  | cons d cs ih =>
    rw [List.forall_mem_cons] at hcs
    obtain ⟨c, below⟩ := d
    have hskip : (es ++ cs).Sublist s.children := List.Sublist.trans (by simp) hsub
    unfold kids at h
    cases hfate : c.fate kind with
    | dropped | modifier | name =>
      simp only [hfate] at h
      exact ih hcs.2 hkeyword hskip h
    | token =>
      simp only [hfate] at h
      cases helse : isElse kind c with
      | true =>
        rw [helse, if_pos rfl] at h
        have hlast : ([Concrete.node c below] ++ cs).Sublist s.children := (List.sublist_append_right es _).trans hsub
        exact ih hcs.2 (isFrom_of_isElse helse) hlast h
      | false =>
        rw [helse, if_neg Bool.false_ne_true] at h
        exact ih hcs.2 hkeyword hskip h
    | kept =>
      simp only [hfate, hopens c, Bool.false_eq_true, if_false, List.mapM_cons, bind_eq_ok] at h
      obtain ⟨b, hb, rest, hrest, h⟩ := h
      cases h
      have hfirst : (es ++ [Concrete.node c below]).Sublist s.children := List.Sublist.trans (by simp) hsub
      rw [Branch.subtreesAll, List.forall_mem_append]
      exact ⟨origin_of_kid hs hcs.1 hkeyword hfirst hb,
        ih hcs.2 isFrom_none ((List.sublist_append_right es cs).trans hskip) hrest⟩

theorem origin_of_adopt (hs : s ∈ t.subtrees) (hcs : ∀ c ∈ cs, IsMade source t c) (hsuffix : cs <:+ s.children)
    (h : (kids s.info.span.stop .compilationUnit none false cs).mapM (Kid.lower source inType) = .ok lowered) :
    ∀ b ∈ Branch.subtreesAll (adopt lowered), Origin source t b := by
  induction cs generalizing lowered with
  | nil =>
    cases h
    simp [adopt, Branch.subtreesAll]
  | cons d cs ih =>
    rw [List.forall_mem_cons] at hcs
    obtain ⟨c, below⟩ := d
    have htail : cs <:+ s.children := (List.suffix_cons _ cs).trans hsuffix
    unfold kids at h
    cases hfate : c.fate .compilationUnit with
    | dropped | modifier | name | token =>
      simp only [hfate] at h
      exact ih hcs.2 htail h
    | kept =>
      simp only [hfate] at h
      cases hopens : opensFile .compilationUnit false c with
      | true =>
        simp only [hopens, if_true, List.mapM_cons, bind_eq_ok] at h
        obtain ⟨b, hb, rest, hrest, h⟩ := h
        cases h
        have hfile := (isFile_of_opensFile hopens).2.1
        rw [adopt_of_file (by rw [grammarKind_of_lower hb]; exact hfile)]
        obtain ⟨own, first, hparts, hb⟩ := Kid.lower_ok hb
        subst hb
        rw [Branch.subtreesAll, Branch.subtreesAll, List.append_nil, Branch.subtrees, List.forall_mem_cons,
          Branch.subtreesAll_eq, List.flatMap_append, List.forall_mem_append, ← Branch.subtreesAll_eq,
          ← Branch.subtreesAll_eq]
        exact ⟨.file hs hsuffix hfile hparts hrest, hcs.1 _ _ _ _ _ hparts,
          origin_of_kids (opensFile_of_inFile _) hs hcs.2 isFrom_none htail.sublist hrest⟩
      | false =>
        simp only [hopens, Bool.false_eq_true, if_false, List.mapM_cons, bind_eq_ok] at h
        obtain ⟨b, hb, rest, hrest, h⟩ := h
        cases h
        rw [adopt_of_not_file (by rw [grammarKind_of_lower hb]; exact not_isFile_of_not_opensFile hopens),
          Branch.subtreesAll, List.forall_mem_append]
        have hfirst : ([] ++ [Concrete.node c below]).Sublist s.children := List.Sublist.trans (by simp) hsuffix.sublist
        exact ⟨origin_of_kid hs hcs.1 isFrom_none hfirst hb, ih hcs.2 htail hrest⟩

end Kids

variable {source : String} {t : Concrete}

theorem isMade (source : String) {s : Concrete} (hs : s ∈ t.subtrees) : IsMade source t s := by
  induction s using induct with
  | node c children ih =>
    intro field inType span own first hparts
    have hchildren : ∀ d ∈ children, IsMade source t d := fun d hd => ih d hd (mem_subtrees_of_mem_children hs hd)
    obtain ⟨_, lowered, hlowered, hfirst⟩ := lowerParts_ok hparts
    rw [hfirst]
    by_cases hunit : (Concrete.node c children).kindAt field inType = .compilationUnit
    . rw [hunit] at hlowered ⊢
      exact origin_of_adopt hs hchildren (List.suffix_refl children) hlowered
    . rw [if_neg (by simpa using hunit)]
      exact origin_of_kids (opensFile_of_ne hunit) hs hchildren isFrom_none (List.Sublist.refl children) hlowered

theorem origin_of_lower {b : Branch} (h : t.lower source = .ok b) : ∀ s ∈ b.subtrees, Origin source t s := by
  unfold lower at h
  simp only [bind_eq_ok] at h
  obtain ⟨⟨own, first⟩, hparts, h⟩ := h
  cases h
  rw [Branch.subtrees, List.forall_mem_cons]
  exact ⟨.node (mem_subtrees_self t) hparts, isMade source (mem_subtrees_self t) _ _ _ _ _ hparts⟩

end Concrete
end StructuralSearch
