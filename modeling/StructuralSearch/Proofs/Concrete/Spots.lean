import Mathlib.Data.List.Forall2
import StructuralSearch.Proofs.Concrete.Placement

/-!
This module contains the retained nodes of a concrete tree by their paths, and what the outline says of them: their
labels, and which nodes are under them.
-/

namespace StructuralSearch
namespace Concrete

/-- A site below the node at the end of a path, seen from where the path starts. -/
def Site.below (p : List Nat) (x : Site) : Site :=
  { x with path := p ++ x.path, host := p ++ x.host }

/-- A tree where it stands: with the field that it counts as filling, and whether it is in the place of a type. -/
structure Spot where
  field : Option String
  inType : Bool
  tree : Concrete

namespace Spot

/-- The kind that it has in the outline. -/
def kind (x : Spot) : NodeKind :=
  x.tree.kindAt x.field x.inType

/-- Whether what is below it is in the place of a type. -/
def typeBelow (x : Spot) : Bool :=
  x.tree.typeBelow x.field x.inType

def sites (x : Spot) : List Site :=
  x.tree.sitesBelow x.field x.inType

/-- A child. The field of an alternative does not count. -/
def ofChild (keyword : Option Token) (inType : Bool) (t : Concrete) : Spot :=
  { field := if keyword.isSome then none else t.info.field, inType, tree := t }

/-- The child with the given number, if it is retained. -/
def child? (x : Spot) (j : Nat) : Option Spot :=
  match x.tree.children[j]? with
  | none => none
  | some t =>
    if t.info.isRetained x.kind then
      some (ofChild (elseBefore? x.kind ((x.tree.children.take j).map info).reverse) x.typeBelow t)
    else
      none

/-- The retained node at the end of a path. -/
def at? (x : Spot) : List Nat → Option Spot
  | [] => some x
  | j :: path => (x.child? j).bind fun y => y.at? path

theorem at?_append (x : Spot) (p q : List Nat) : x.at? (p ++ q) = (x.at? p).bind fun y => y.at? q := by
  induction p generalizing x with
  | nil => rfl
  | cons j p ih =>
    rw [List.cons_append, at?, at?]
    cases x.child? j with
    | none => rfl
    | some y => exact ih y

theorem at?_singleton (x : Spot) (j : Nat) : x.at? [j] = x.child? j := by
  rw [at?]
  cases x.child? j with
  | none => rfl
  | some y => rfl

theorem child?_of_append {x : Spot} {before cs : List Concrete} {t : Concrete}
    (hchildren : x.tree.children = before ++ t :: cs) (hfate : t.info.fate x.kind = .kept) :
    x.child? before.length = some (ofChild (elseBefore? x.kind (before.map info).reverse) x.typeBelow t) := by
  unfold child?
  rw [hchildren, List.getElem?_append_right (Nat.le_refl _), Nat.sub_self, List.take_left]
  simp [Info.isRetained_iff.mpr hfate]

theorem sites_eq (x : Spot) : x.sites = sitesAmong x.kind x.typeBelow [] x.tree.children := by
  obtain ⟨field, inType, ⟨c, children⟩⟩ := x
  rw [sites, sitesBelow]
  rfl

section Labels

variable {source : String} {x : Spot}

/-- The label is made from what is at the end of the path to the site. -/
def IsLabel (source : String) (x : Spot) (site : Site) (label : Label) : Prop :=
  ∃ y span first, x.at? site.path = some y ∧ site.kind = y.kind ∧
    lowerParts source y.field y.inType span y.tree = .ok (label, first)

/-- The labels below are those of the sites in order, apart from the clauses around alternatives. -/
def IsLabelled (source : String) (x : Spot) : Prop :=
  ∀ span own first, lowerParts source x.field x.inType span x.tree = .ok (own, first) →
    List.Forall₂ (x.IsLabel source) x.sites ((labelsAll first).filter (!isClause ·))

theorem not_isClause_of_lowerParts {span : Span} {own : Label} {first : List Branch}
    (h : lowerParts source x.field x.inType span x.tree = .ok (own, first)) : isClause own = false := by
  unfold isClause
  rw [kind_of_lowerParts h]
  exact beq_eq_false_iff_ne.mpr (NodeKind.ofGrammar_ne_elseClause _ _)

theorem labels_of_kid {j : Nat} {host : List Nat} {keyword : Option Token} {inType : Bool} {t : Concrete} {span : Span}
    {b : Branch} (hchild : x.child? j = some (ofChild keyword inType t))
    (ht : (ofChild keyword inType t).IsLabelled source) (hb : Kid.lower source inType ⟨keyword, span, t⟩ = .ok b) :
    List.Forall₂ (x.IsLabel source) (sitesOf j host keyword inType t)
      ((b.label :: labelsAll b.children).filter (!isClause ·)) := by
  obtain ⟨own, first, hparts, hb⟩ := Kid.lower_ok hb
  have hfield : (keyword.elim t.info.field fun _ => none) = (ofChild keyword inType t).field := by
    cases keyword <;> rfl
  rw [hfield] at hparts
  have hlabels : (b.label :: labelsAll b.children).filter (!isClause ·) =
      own :: (labelsAll first).filter (!isClause ·) := by
    have hown := not_isClause_of_lowerParts (x := ofChild keyword inType t) hparts
    subst hb
    cases keyword with
    | none => exact List.filter_cons_of_pos (by simp [Branch.label, hown])
    | some token =>
      have hclause : labelsAll [Branch.node own first] = own :: labelsAll first := by
        rw [labelsAll_cons, labelsAll_nil, List.append_nil]
        rfl
      rw [Option.elim, elseClause, Branch.children, hclause, List.filter_cons_of_neg (by simp [Branch.label, isClause]),
        List.filter_cons_of_pos (by simp [hown])]
  rw [hlabels]
  refine .cons ⟨_, span, first, ?_, rfl, hparts⟩ ?_
  . rw [at?_singleton, hchild]
  . rw [List.forall₂_map_left_iff]
    refine (ht span own first hparts).imp ?_
    intro site label hlabel
    obtain ⟨y, span, first, hy, hkind, hparts⟩ := hlabel
    refine ⟨y, span, first, ?_, hkind, hparts⟩
    rw [Site.under, at?, hchild]
    exact hy

theorem exists_of_mapM_kept {kind : NodeKind} {before : List Info} {keyword : Option Token} {stop : Position}
    {inType inFile : Bool} {c : Info} {below cs : List Concrete} {lowered : List Branch} (hfate : c.fate kind = .kept)
    (hkeyword : elseBefore? kind before = keyword)
    (h : (kids stop kind keyword inFile (.node c below :: cs)).mapM (Kid.lower source inType) = .ok lowered) :
    ∃ span inFile' b rest, Kid.lower source inType ⟨keyword, span, .node c below⟩ = .ok b ∧
      (kids stop kind none inFile' cs).mapM (Kid.lower source inType) = .ok rest ∧ lowered = b :: rest := by
  rw [kids, hfate] at h
  dsimp only at h
  split at h
  . next hopens =>
    -- There is no `else` under the root of a file.
    have hnone : keyword = none := by
      rw [← hkeyword, (isFile_of_opensFile hopens).1]
      rfl
    subst hnone
    simp only [List.mapM_cons, bind_eq_ok] at h
    obtain ⟨b, hb, rest, hrest, h⟩ := h
    cases h
    exact ⟨_, _, b, rest, hb, hrest, rfl⟩
  . simp only [List.mapM_cons, bind_eq_ok] at h
    obtain ⟨b, hb, rest, hrest, h⟩ := h
    cases h
    exact ⟨_, _, b, rest, hb, hrest, rfl⟩

theorem labels_of_kids {before cs : List Concrete} {keyword : Option Token} {stop : Position} {inFile : Bool}
    {lowered : List Branch} (hchildren : x.tree.children = before ++ cs)
    (hcs : ∀ t ∈ cs, ∀ field inType, IsLabelled source ⟨field, inType, t⟩)
    (hkeyword : elseBefore? x.kind (before.map info).reverse = keyword)
    (hlowered : (kids stop x.kind keyword inFile cs).mapM (Kid.lower source x.typeBelow) = .ok lowered) :
    List.Forall₂ (x.IsLabel source) (sitesAmong x.kind x.typeBelow (before.map info).reverse cs)
      ((labelsAll lowered).filter (!isClause ·)) := by
  induction cs generalizing before keyword inFile lowered with
  | nil =>
    cases hlowered
    exact .nil
  | cons t cs ih =>
    rw [List.forall_mem_cons] at hcs
    obtain ⟨c, below⟩ := t
    have hnext : x.tree.children = (before ++ [.node c below]) ++ cs := by simp [hchildren]
    have hbefore : ((before ++ [Concrete.node c below]).map info).reverse = c :: (before.map info).reverse := by
      simp [Concrete.info]
    cases hfate : c.fate x.kind with
    | kept =>
      have hchild := child?_of_append hchildren hfate
      have hnone := elseBefore?_of_kept (before.map info).reverse hfate
      rw [hkeyword] at hchild
      rw [← hbefore] at hnone
      obtain ⟨span, inFile', b, rest, hb, hrest, heq⟩ := exists_of_mapM_kept hfate hkeyword hlowered
      subst heq
      rw [sitesAmong_of_kept hfate, hkeyword, List.length_reverse, List.length_map, labelsAll_cons, List.filter_append,
        ← hbefore]
      exact List.rel_append (labels_of_kid hchild (hcs.1 _ _) hb) (ih hnext hcs.2 hnone hrest)
    | token =>
      have hkept : c.fate x.kind ≠ .kept := by simp [hfate]
      have hkeyword' := elseBefore?_of_not_kept (before.map info).reverse hkept
      rw [isElseToken_of_token hfate, hkeyword, ← hbefore] at hkeyword'
      simp only [kids, hfate] at hlowered
      rw [sitesAmong_of_not_kept hkept, ← hbefore]
      exact ih hnext hcs.2 hkeyword' hlowered
    | dropped | modifier | name =>
      have hkept : c.fate x.kind ≠ .kept := by simp [hfate]
      have htoken : c.fate x.kind ≠ .token := by simp [hfate]
      have hkeyword' := elseBefore?_of_not_kept (before.map info).reverse hkept
      rw [isElseToken_of_not_token htoken, Bool.and_false, if_neg Bool.false_ne_true, hkeyword, ← hbefore] at hkeyword'
      simp only [kids, hfate] at hlowered
      rw [sitesAmong_of_not_kept hkept, ← hbefore]
      exact ih hnext hcs.2 hkeyword' hlowered

end Labels

end Spot

theorem isLabelled (source : String) (t : Concrete) (field : Option String) (inType : Bool) :
    Spot.IsLabelled source ⟨field, inType, t⟩ := by
  induction t using induct generalizing field inType with
  | node c children ih =>
    intro span own first hparts
    obtain ⟨_, lowered, hlowered, hfirst⟩ := lowerParts_ok hparts
    have hlabels : labelsAll first = labelsAll lowered := by
      rw [hfirst]
      split
      . exact labelsAll_adopt lowered
      . rfl
    rw [hlabels, Spot.sites_eq]
    have hchildren : (Spot.mk field inType (.node c children)).tree.children = [] ++ children := rfl
    have hnone : elseBefore? (Spot.mk field inType (.node c children)).kind [] = none := by simp [elseBefore?]
    exact Spot.labels_of_kids hchildren ih hnone hlowered

section Hosts

variable {kind : NodeKind} {inType : Bool} {before : List Info} {cs : List Concrete} {j : Nat} {site : Site}

theorem reverse_infos_cons (c : Info) (below cs : List Concrete) (before : List Info) :
    ((Concrete.node c below :: cs).map info).reverse ++ before = (cs.map info).reverse ++ c :: before := by
  simp [Concrete.info]

theorem sitesAmong_append (kind : NodeKind) (inType : Bool) (before : List Info) (cs cs' : List Concrete) :
    sitesAmong kind inType before (cs ++ cs') =
      sitesAmong kind inType before cs ++ sitesAmong kind inType ((cs.map info).reverse ++ before) cs' := by
  induction cs generalizing before with
  | nil =>
    rw [sitesAmong]
    rfl
  | cons t cs ih =>
    obtain ⟨c, below⟩ := t
    rw [List.cons_append, reverse_infos_cons]
    by_cases hfate : c.fate kind = .kept
    . rw [sitesAmong_of_kept hfate, sitesAmong_of_kept hfate, ih, List.append_assoc]
    . rw [sitesAmong_of_not_kept hfate, sitesAmong_of_not_kept hfate, ih]

theorem exists_of_mem_sitesAmong (h : site ∈ sitesAmong kind inType before cs) : ∃ cs₁ t cs₂,
    cs = cs₁ ++ t :: cs₂ ∧ t.info.fate kind = .kept ∧
    site ∈ sitesOf ((cs₁.map info).reverse ++ before).length
      (fileBefore? kind ((cs₁.map info).reverse ++ before)).toList
      (elseBefore? kind ((cs₁.map info).reverse ++ before)) inType t := by
  induction cs generalizing before with
  | nil => cases h
  | cons t cs ih =>
    obtain ⟨c, below⟩ := t
    have hcases : c.fate kind = .kept ∧ site ∈ sitesOf before.length (fileBefore? kind before).toList
        (elseBefore? kind before) inType (.node c below) ∨ site ∈ sitesAmong kind inType (c :: before) cs := by
      by_cases hfate : c.fate kind = .kept
      . rw [sitesAmong_of_kept hfate, List.mem_append] at h
        exact h.imp_left fun hsite => ⟨hfate, hsite⟩
      . rw [sitesAmong_of_not_kept hfate] at h
        exact .inr h
    obtain ⟨hfate, hsite⟩ | hlater := hcases
    . exact ⟨[], .node c below, cs, rfl, hfate, hsite⟩
    . obtain ⟨cs₁, t, cs₂, hcs, hfate, hsite⟩ := ih hlater
      refine ⟨.node c below :: cs₁, t, cs₂, by rw [hcs, List.cons_append], hfate, ?_⟩
      rw [reverse_infos_cons]
      exact hsite

theorem host_lt_of_mem_sitesAmong (h : site ∈ sitesAmong kind inType before cs) :
    ∀ k ∈ site.host.head?, k < before.length + cs.length := by
  obtain ⟨cs₁, t, cs₂, hcs, _, hsite⟩ := exists_of_mem_sitesAmong h
  intro k hk
  have hlt := (head_lt_of_mem_sitesOf head_lt_of_fileBefore? site hsite).2 k hk
  simp only [List.length_append, List.length_reverse, List.length_map] at hlt
  rw [hcs, List.length_append, List.length_cons]
  omega

theorem fileBefore?_cons_eq_some {c : Info} (h : fileBefore? kind (c :: before) = some j) :
    fileBefore? kind before = some j ∨ c.ownsRest kind = true ∧ before.length = j := by
  rw [fileBefore?_cons, Option.or_eq_some_iff] at h
  refine h.imp_right ?_
  intro hown
  simpa using hown.2

/-- Of the siblings before, only a namespace for the rest of the file has anything under it. -/
theorem fileBefore?_of_host (h : site ∈ sitesAmong kind inType before cs) (hj : j ∈ site.host.head?)
    (hlt : j < before.length) : fileBefore? kind before = some j ∧ site.host = [j] := by
  induction cs generalizing before with
  | nil => cases h
  | cons t cs ih =>
    obtain ⟨c, below⟩ := t
    by_cases hfate : c.fate kind = .kept
    . rw [sitesAmong_of_kept hfate, List.mem_append] at h
      cases h with
      | inl h =>
        unfold sitesOf at h
        rw [List.mem_cons, List.mem_map] at h
        cases h with
        | inl heq =>
          subst heq
          cases hfile : fileBefore? kind before with
          | none => simp [hfile] at hj
          | some f =>
            simp only [hfile, Option.toList_some, List.head?_cons, Option.mem_def, Option.some.injEq] at hj
            subst hj
            exact ⟨rfl, rfl⟩
        | inr h =>
          obtain ⟨site', _, heq⟩ := h
          subst heq
          simp only [Site.under, List.head?_cons, Option.mem_def, Option.some.injEq] at hj
          omega
      | inr h =>
        obtain ⟨hfile, hhost⟩ := ih h (Nat.lt_succ_of_lt hlt)
        refine ⟨?_, hhost⟩
        refine (fileBefore?_cons_eq_some hfile).resolve_right ?_
        intro hown
        omega
    . rw [sitesAmong_of_not_kept hfate] at h
      rw [← fileBefore?_of_not_kept before hfate]
      exact ih h (Nat.lt_succ_of_lt hlt)

end Hosts

namespace Spot

variable {x y : Spot} {j : Nat} {p : List Nat}

theorem exists_append_of_child? (h : x.child? j = some y) : ∃ before after,
    x.tree.children = before ++ y.tree :: after ∧ before.length = j ∧ y.tree.info.fate x.kind = .kept ∧
    y = ofChild (elseBefore? x.kind (before.map info).reverse) x.typeBelow y.tree := by
  unfold child? at h
  split at h
  . cases h
  . next t ht =>
    split at h
    . next hretained =>
      cases h
      obtain ⟨hlt, ht⟩ := List.getElem?_eq_some_iff.mp ht
      refine ⟨x.tree.children.take j, x.tree.children.drop (j + 1), ?_, ?_, Info.isRetained_iff.mp hretained, rfl⟩
      . rw [ofChild, ← ht, List.getElem_cons_drop, List.take_append_drop]
      . rw [List.length_take]
        omega
    . cases h

theorem tree_of_child? (h : x.child? j = some y) : x.tree.children[j]? = some y.tree := by
  obtain ⟨before, after, hchildren, hlength, _⟩ := exists_append_of_child? h
  rw [hchildren, ← hlength, List.getElem?_append_right (Nat.le_refl _), Nat.sub_self]
  rfl

/-- The sites below a retained child stand together, and what is under it is among them. -/
theorem exists_sites_of_child? (h : x.child? j = some y) : ∃ before after host keyword,
    x.sites = before ++ (sitesOf j host keyword x.typeBelow y.tree ++ after) ∧ y = ofChild keyword x.typeBelow y.tree ∧
    (∀ k ∈ host.head?, k < j) ∧ (∀ site ∈ before, ∀ k ∈ site.host.head?, k < j) ∧
    ∀ site ∈ after, j ∈ site.host.head? → site.host = [j] ∧ y.tree.info.isFileNamespace = true := by
  obtain ⟨before, after, hchildren, hlength, hfate, hy⟩ := exists_append_of_child? h
  have hbefore : (before.map info).reverse.length = j := by simp [hlength]
  refine ⟨sitesAmong x.kind x.typeBelow [] before,
    sitesAmong x.kind x.typeBelow (y.tree.info :: (before.map info).reverse) after,
    (fileBefore? x.kind (before.map info).reverse).toList, _, ?_, hy, ?_, ?_, ?_⟩
  . rw [sites_eq, hchildren, sitesAmong_append, List.append_nil]
    cases htree : y.tree with
    | node c below =>
      rw [htree, Concrete.info] at hfate
      rw [sitesAmong_of_kept hfate, hbefore]
      rfl
  . rw [← hbefore]
    exact head_lt_of_fileBefore?
  . intro site hsite k hk
    have hlt := host_lt_of_mem_sitesAmong hsite k hk
    simpa [hlength] using hlt
  . intro site hsite hj
    have hlt : j < (y.tree.info :: (before.map info).reverse).length := by
      rw [List.length_cons, hbefore]
      exact Nat.lt_succ_self j
    obtain ⟨hfile, hhost⟩ := fileBefore?_of_host hsite hj hlt
    refine ⟨hhost, ?_⟩
    cases fileBefore?_cons_eq_some hfile with
    | inl hfile =>
      have hlt := lt_of_fileBefore? hfile
      omega
    | inr hown =>
      have howns := hown.1
      simp only [Info.ownsRest, Bool.and_eq_true] at howns
      exact howns.2

theorem filter_host_sitesOf {host q : List Nat} {keyword : Option Token} {inType : Bool} {t : Concrete}
    (hhost : ∀ k ∈ host.head?, k < j) :
    (sitesOf j host keyword inType t).filter (·.host = j :: q) =
      ((ofChild keyword inType t).sites.filter (·.host = q)).map (Site.under j) := by
  have hne : host ≠ j :: q := by
    intro heq
    have := hhost j (by simp [heq])
    omega
  unfold sitesOf
  rw [List.filter_cons_of_neg (by simpa using hne), List.filter_map]
  congr 2
  funext site
  simp [Site.under]

theorem filter_host_of_child? {q : List Nat} (h : x.child? j = some y)
    (hfile : q ≠ [] ∨ y.tree.info.isFileNamespace = false) :
    x.sites.filter (·.host = j :: q) = (y.sites.filter (·.host = q)).map (Site.under j) := by
  obtain ⟨before, after, host, keyword, hsites, hy, hhost, hbefore, hafter⟩ := exists_sites_of_child? h
  have hnil : before.filter (·.host = j :: q) = [] := by
    rw [List.filter_eq_nil_iff]
    intro site hsite heq
    have := hbefore site hsite j (by simp [of_decide_eq_true heq])
    omega
  have hnil' : after.filter (·.host = j :: q) = [] := by
    rw [List.filter_eq_nil_iff]
    intro site hsite heq
    rw [decide_eq_true_eq] at heq
    obtain ⟨hown, hnamespace⟩ := hafter site hsite (by simp [heq])
    rw [heq, List.cons.injEq] at hown
    cases hfile with
    | inl hq => exact hq hown.2
    | inr hno =>
      rw [hno] at hnamespace
      cases hnamespace
  rw [hsites, List.filter_append, List.filter_append, hnil, hnil', List.nil_append, List.append_nil,
    filter_host_sitesOf hhost, ← hy]

/-- What is under a node that is no namespace for the rest of the file are its own children. -/
theorem filter_host_of_at? (h : x.at? p = some y) (hfile : y.tree.info.isFileNamespace = false) :
    x.sites.filter (·.host = p) = (y.sites.filter (·.host = [])).map (Site.below p) := by
  induction p generalizing x with
  | nil =>
    cases h
    exact (List.map_id _).symm
  | cons j p ih =>
    rw [at?, Option.bind_eq_some_iff] at h
    obtain ⟨z, hz, hy⟩ := h
    have hlast : p ≠ [] ∨ z.tree.info.isFileNamespace = false := by
      cases p with
      | nil =>
        cases hy
        exact .inr hfile
      | cons k p => exact .inl (List.cons_ne_nil k p)
    rw [filter_host_of_child? hz hlast, ih hy, List.map_map]
    rfl

theorem mem_paths_of_at? (h : x.at? p = some y) : p ∈ [] :: x.sites.map (·.path) := by
  induction p generalizing x with
  | nil => exact List.mem_cons_self
  | cons j p ih =>
    rw [at?, Option.bind_eq_some_iff] at h
    obtain ⟨z, hz, hy⟩ := h
    obtain ⟨before, after, host, keyword, hsites, hz', _⟩ := exists_sites_of_child? hz
    have hpath : j :: p ∈ (sitesOf j host keyword x.typeBelow z.tree).map (·.path) := by
      have hsites : (sitesOf j host keyword x.typeBelow z.tree).map (·.path) =
          ([] :: z.sites.map (·.path)).map (j :: ·) := by
        rw [hz']
        simp [sitesOf, ofChild, sites, Site.under, Function.comp_def]
      rw [hsites]
      exact List.mem_map_of_mem (ih hy)
    rw [hsites, List.map_append, List.map_append]
    exact List.mem_cons_of_mem _ (List.mem_append_right _ (List.mem_append_left _ hpath))

theorem tree_mem_subtrees (h : x.at? p = some y) : y.tree ∈ x.tree.subtrees := by
  induction p generalizing x with
  | nil =>
    cases h
    exact mem_subtrees_self _
  | cons j p ih =>
    rw [at?, Option.bind_eq_some_iff] at h
    obtain ⟨z, hz, hy⟩ := h
    have hmem := List.mem_of_getElem? (tree_of_child? hz)
    cases htree : x.tree with
    | node c children =>
      rw [htree] at hmem
      exact mem_subtrees.mpr (.inr ⟨z.tree, hmem, ih hy⟩)

/-- The site of a retained child of the node at the end of the path `q`, after the given siblings. -/
def Places (x : Spot) (site : Site) (q : List Nat) (z : Spot) (before : List Concrete) : Prop :=
  x.at? q = some z ∧ (∃ t after, z.tree.children = before ++ t :: after ∧ t.info.fate z.kind = .kept) ∧
    site.path = q ++ [before.length] ∧ site.keyword = elseBefore? z.kind (before.map info).reverse ∧
    site.host = q ++ (fileBefore? z.kind (before.map info).reverse).toList

theorem Places.exists_child {site : Site} {q : List Nat} {z : Spot} {before : List Concrete}
    (h : x.Places site q z before) : ∃ y, z.child? before.length = some y ∧ x.at? site.path = some y := by
  obtain ⟨hz, ⟨t, after, hchildren, hfate⟩, hpath, _⟩ := h
  have hchild := child?_of_append hchildren hfate
  refine ⟨_, hchild, ?_⟩
  rw [hpath, at?_append, hz, Option.bind_some, at?_singleton, hchild]

/-- Only an `if` has alternatives, and they belong under it. -/
theorem Places.if_of_keyword {site : Site} {q : List Nat} {z : Spot} {before : List Concrete} {token : Token}
    (h : x.Places site q z before) (htoken : site.keyword = some token) : z.kind = .ifStatement ∧ site.host = q := by
  obtain ⟨_, _, _, hkeyword, hhost⟩ := h
  have hif : z.kind = .ifStatement := by
    apply Classical.byContradiction
    intro hne
    rw [elseBefore?_of_ne hne, htoken] at hkeyword
    cases hkeyword
  have hfile : z.kind ≠ .compilationUnit := by simp [hif]
  rw [fileBefore?_of_ne hfile, Option.toList_none, List.append_nil] at hhost
  exact ⟨hif, hhost⟩

/-- A node belongs under its parent, or under a namespace for the rest of the file beside it. -/
theorem Places.exists_host {site : Site} {q : List Nat} {z : Spot} {before : List Concrete}
    (h : x.Places site q z before) : ∃ w, x.at? site.host = some w ∧
      (w = z ∨ z.kind = .compilationUnit ∧ w.tree.info.isFileNamespace = true ∧ ∃ f, z.child? f = some w) := by
  obtain ⟨hz, ⟨t, after, hchildren, _⟩, _, _, hhost⟩ := h
  rw [hhost]
  cases hfile : fileBefore? z.kind (before.map info).reverse with
  | none =>
    rw [Option.toList_none, List.append_nil]
    exact ⟨z, hz, .inl rfl⟩
  | some f =>
    unfold fileBefore? at hfile
    rw [List.reverse_reverse, List.findIdx?_eq_some_iff_getElem] at hfile
    obtain ⟨hlt, howns, _⟩ := hfile
    rw [List.length_map] at hlt
    rw [List.getElem_map] at howns
    simp only [Info.ownsRest, Bool.and_eq_true, beq_iff_eq] at howns
    obtain ⟨⟨hunit, hretained⟩, hnamespace⟩ := howns
    have hsplit : z.tree.children = before.take f ++ before[f] :: (before.drop (f + 1) ++ t :: after) := by
      rw [hchildren, ← List.cons_append, ← List.append_assoc, List.getElem_cons_drop, List.take_append_drop]
    have hchild := child?_of_append hsplit (Info.isRetained_iff.mp hretained)
    rw [List.length_take, Nat.min_eq_left (Nat.le_of_lt hlt)] at hchild
    refine ⟨_, ?_, .inr ⟨hunit, hnamespace, f, hchild⟩⟩
    rw [Option.toList_some, at?_append, hz, Option.bind_some, at?_singleton, hchild]

theorem exists_places (x : Spot) : ∀ site ∈ x.sites, ∃ q z before, x.Places site q z before := by
  obtain ⟨field, inType, t⟩ := x
  induction t using induct generalizing field inType with
  | node c children ih =>
    intro site hsite
    rw [sites_eq] at hsite
    obtain ⟨before, t, after, hchildren, hfate, hsite⟩ := exists_of_mem_sitesAmong hsite
    rw [List.append_nil, List.length_reverse, List.length_map] at hsite
    unfold sitesOf at hsite
    rw [List.mem_cons, List.mem_map] at hsite
    obtain heq | ⟨site', hsite', heq⟩ := hsite
    . subst heq
      exact ⟨[], _, before, rfl, ⟨t, after, hchildren, hfate⟩, rfl, rfl, rfl⟩
    . -- The site is below the child, and so is its place.
      subst heq
      have hmem : t ∈ children := by
        have hmem : t ∈ before ++ t :: after := by simp
        rw [← hchildren] at hmem
        exact hmem
      obtain ⟨q, z, before', hz, hbefore', hpath, hkeyword, hhost⟩ := ih t hmem _ _ site' hsite'
      refine ⟨before.length :: q, z, before', ?_, hbefore', ?_, hkeyword, ?_⟩
      . rw [at?, child?_of_append hchildren hfate]
        exact hz
      . rw [Site.under, hpath, List.cons_append]
      . rw [Site.under, hhost, List.cons_append]

end Spot

/-- The root of a tree. -/
def spot (t : Concrete) : Spot :=
  { field := none, inType := false, tree := t }

section Depicts

variable {t : Concrete} {source : String} {path : Option String} {o : Outline} {image : List Nat → Nat}
  {p : List Nat} {y : Spot} {site : Site}

theorem kind_ne_elseClause {x : Spot} {sites : List Site} {labels : List Label}
    (h : List.Forall₂ (x.IsLabel source) sites labels) (hsite : site ∈ sites) : site.kind ≠ .elseClause := by
  induction h with
  | nil => cases hsite
  | cons hlabel _ ih =>
    rw [List.mem_cons] at hsite
    cases hsite with
    | inl heq =>
      subst heq
      obtain ⟨y, _, _, _, hkind, _⟩ := hlabel
      rw [hkind]
      exact NodeKind.ofGrammar_ne_elseClause _ _
    | inr hsite => exact ih hsite

/-- A node for a retained one is its image or the clause around it. -/
theorem cases_of_mem_nodes {i : Nat} (h : o.Fits image site) (hi : i ∈ site.nodes image) : i = image site.path ∨
    o.kind i = .elseClause ∧ o.parent? i = some (image site.host) ∧ ∃ token, site.keyword = some token := by
  have hangs := h.hangs
  unfold Site.nodes at hi
  cases hkeyword : site.keyword with
  | none =>
    rw [hkeyword, nodesAt, List.mem_singleton] at hi
    exact .inl hi
  | some token =>
    rw [hkeyword] at hangs hi
    obtain ⟨e, heq, _, hparent, _, hclause, _⟩ := hangs
    rw [nodesAt, heq, Nat.add_sub_cancel, List.mem_cons, List.mem_singleton] at hi
    cases hi with
    | inl htop =>
      subst htop
      exact .inr ⟨hclause, hparent, token, rfl⟩
    | inr hlast =>
      rw [heq]
      exact .inl hlast

theorem parent_cases (h : o.Fits image site) : o.parent? (image site.path) = some (image site.host) ∨
    ∃ e, o.parent? (image site.path) = some e ∧ o.kind e = .elseClause := by
  have hangs := h.hangs
  cases hkeyword : site.keyword with
  | none =>
    rw [hkeyword] at hangs
    exact .inl hangs
  | some token =>
    rw [hkeyword] at hangs
    obtain ⟨e, _, hparent, _, _, hclause, _⟩ := hangs
    exact .inr ⟨e, hparent, hclause⟩

theorem map_toLabel_range (o : Outline) :
    (List.range o.size).map (fun i => (o.node i).toLabel) = o.nodes.toList.map Node.toLabel := by
  refine List.ext_getElem (by simp [Outline.size]) ?_
  intro i hi _
  simp only [List.length_map, List.length_range, Outline.size] at hi
  simp [Outline.node, hi]

theorem filter_nodes (h : o.Fits image site) (hkind : site.kind ≠ .elseClause) :
    (site.nodes image).filter (fun i => !isClause (o.node i).toLabel) = [image site.path] := by
  have hown : isClause (o.node (image site.path)).toLabel = false := by
    refine beq_eq_false_iff_ne.mpr ?_
    have hfits := h.kind
    unfold Outline.kind at hfits
    rw [hfits]
    exact hkind
  have hangs := h.hangs
  unfold Site.nodes nodesAt
  cases hkeyword : site.keyword with
  | none => simp [hown]
  | some token =>
    rw [hkeyword] at hangs
    obtain ⟨e, heq, _, _, _, hclause, _⟩ := hangs
    have hclause' : isClause (o.node e).toLabel = true := beq_iff_eq.mpr hclause
    rw [heq] at hown ⊢
    simp [hown, hclause']

/-- The node that a retained node has become has the label that is made from what is there. -/
theorem Depicts.isLabel (h : t.Depicts o image) (ho : t.toOutline source path = .ok o) :
    (∃ span first, lowerParts source none false span t = .ok ((o.node 0).toLabel, first)) ∧
      ∀ site ∈ t.sites, t.spot.IsLabel source site (o.node (image site.path)).toLabel := by
  rw [toOutline_eq, lower] at ho
  simp only [bind_eq_ok] at ho
  obtain ⟨b, ⟨⟨own, first⟩, hparts, hb⟩, ho⟩ := ho
  cases hb
  have hlabels := isLabelled source t none false _ own first hparts
  have hown := Spot.not_isClause_of_lowerParts (x := t.spot) hparts
  have hall : (List.range o.size).map (fun i => (o.node i).toLabel) = own :: labelsAll first := by
    rw [map_toLabel_range, Outline.map_nodes ho]
    rfl
  have hroot : (o.node 0).toLabel = own := by
    rw [← h.nodes, List.map_cons, List.cons.injEq] at hall
    exact hall.1
  have hkept : (List.range o.size).filter (fun i => !isClause (o.node i).toLabel) =
      0 :: t.sites.map fun site => image site.path := by
    rw [← h.nodes, List.filter_cons_of_pos (by simp [hroot, hown]), List.filter_flatMap, List.map_eq_flatMap,
      List.flatMap_def, List.flatMap_def]
    congr 2
    refine List.map_congr_left ?_
    intro site hsite
    exact filter_nodes (h.fits site hsite) (kind_ne_elseClause hlabels hsite)
  have hsites : (labelsAll first).filter (!isClause ·) =
      t.sites.map fun site => (o.node (image site.path)).toLabel := by
    have hfilter := congrArg (List.filter (!isClause ·)) hall
    rw [List.filter_map, List.filter_cons_of_pos (by simp [hown])] at hfilter
    change (List.filter (fun i => !isClause (o.node i).toLabel) _).map _ = _ at hfilter
    rw [hkept, List.map_cons, List.map_map, List.cons.injEq] at hfilter
    exact hfilter.2.symm
  rw [hsites] at hlabels
  refine ⟨⟨t.info.span, first, ?_⟩, List.forall₂_same.mp (List.forall₂_map_right_iff.mp hlabels)⟩
  rw [hroot]
  exact hparts

theorem Depicts.exists_site (h : t.Depicts o image) {j : Nat} (hj : j < o.size) :
    j = 0 ∨ ∃ site ∈ t.sites, j ∈ site.nodes image := by
  have hmem := List.mem_range.mpr hj
  rw [← h.nodes, List.mem_cons, List.mem_flatMap] at hmem
  exact hmem

theorem Depicts.exists_spot (h : t.Depicts o image) (ho : t.toOutline source path = .ok o) (hsite : site ∈ t.sites) :
    ∃ y, t.spot.at? site.path = some y ∧ site.kind = y.kind := by
  obtain ⟨y, _, _, hy, hkind, _⟩ := (h.isLabel ho).2 site hsite
  exact ⟨y, hy, hkind⟩

theorem Depicts.exists_lowerParts (h : t.Depicts o image) (ho : t.toOutline source path = .ok o)
    (hy : t.spot.at? p = some y) :
    ∃ span first, lowerParts source y.field y.inType span y.tree = .ok ((o.node (image p)).toLabel, first) := by
  obtain ⟨hroot, hlabel⟩ := h.isLabel ho
  have hp := Spot.mem_paths_of_at? hy
  rw [List.mem_cons, List.mem_map] at hp
  cases hp with
  | inl hnil =>
    subst hnil
    cases hy
    rw [h.root]
    exact hroot
  | inr hp =>
    obtain ⟨site, hsite, hpath⟩ := hp
    subst hpath
    obtain ⟨y', span, first, hy', _, hparts⟩ := hlabel site hsite
    rw [hy] at hy'
    cases hy'
    exact ⟨span, first, hparts⟩

theorem Depicts.label (h : t.Depicts o image) (ho : t.toOutline source path = .ok o) (hy : t.spot.at? p = some y) :
    o.kind (image p) = y.kind ∧ (o.node (image p)).role = y.field.bind Role.ofField? ∧
      (o.node (image p)).tokens = ownTokens y.kind none y.tree.children := by
  obtain ⟨span, first, hparts⟩ := h.exists_lowerParts ho hy
  have hextends := extends_of_lowerParts hparts
  have hrole := congrArg Label.role hextends
  have htokens := congrArg Label.tokens hextends
  exact ⟨kind_of_lowerParts hparts, hrole, htokens⟩

end Depicts

end Concrete
end StructuralSearch
