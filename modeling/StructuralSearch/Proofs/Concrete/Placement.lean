import StructuralSearch.Proofs.Concrete.Sites

/-!
This module contains under which node of its outline a retained node of a concrete tree is: under the one that its
parent has become, unless there is an `else` before it, or a namespace for the rest of the file.
-/

namespace StructuralSearch

open Branch (roots)

namespace Outline

variable {o : Outline}

/--
Node `i` is a child of `p`, or the only child of a clause for the keyword that is a child of `p`. The clause comes right
before it.
-/
def Hangs (o : Outline) (p : Nat) (keyword : Option Token) (i : Nat) : Prop :=
  match keyword with
  | none => o.parent? i = some p
  | some token => ∃ e, i = e + 1 ∧ o.parent? i = some e ∧ o.parent? e = some p ∧ o.children e = [i] ∧
      o.kind e = .elseClause ∧ (o.node e).role = some .alternative ∧ (o.node e).tokens = [token]

/-- The branches are laid out in the outline from `i` on, and are children of `p`. -/
def Bears (o : Outline) (p i : Nat) (bs : List Branch) : Prop :=
  o.ShowsAll i bs ∧ ∀ r ∈ roots i bs, o.parent? r = some p

/-- The retained node has become the node that the images say, under the right one. -/
structure Fits (o : Outline) (image : List Nat → Nat) (x : Concrete.Site) : Prop where
  kind : o.kind (image x.path) = x.kind
  grammarKind : (o.node (image x.path)).grammarKind = x.info.kind
  start : (o.span (image x.path)).start = x.info.span.start
  hangs : o.Hangs (image x.host) x.keyword (image x.path)

theorem Bears.head {p i : Nat} {b : Branch} {bs : List Branch} (h : o.Bears p i (b :: bs)) :
    o.Shows i b ∧ o.parent? i = some p ∧ o.Bears p (i + b.size) bs := by
  obtain ⟨hshows, hparent⟩ := h
  rw [ShowsAll] at hshows
  rw [roots, List.forall_mem_cons] at hparent
  exact ⟨hshows.1, hparent.1, hshows.2, hparent.2⟩

theorem bears_of_shows {i : Nat} {b : Branch} (ho : o.Linked) (h : o.Shows i b) :
    (o.node i).toLabel = b.label ∧ o.Bears i (i + 1) b.children := by
  cases b with
  | node label children =>
    rw [Shows] at h
    refine ⟨h.1, h.2.2, ?_⟩
    intro r hr
    rw [Branch.children, ← h.2.1] at hr
    exact ho.mem_children.mp hr

theorem Bears.append {p i : Nat} {bs bs' : List Branch} (h : o.Bears p i (bs ++ bs')) :
    o.Bears p i bs ∧ o.Bears p (i + (Branch.subtreesAll bs).length) bs' := by
  induction bs generalizing i with
  | nil => exact ⟨⟨by trivial, by simp [roots]⟩, h⟩
  | cons b bs ih =>
    obtain ⟨hshows, hparent, hrest⟩ := h.head
    obtain ⟨hbs, hbs'⟩ := ih hrest
    constructor
    . refine ⟨⟨hshows, hbs.1⟩, ?_⟩
      rw [roots, List.forall_mem_cons]
      exact ⟨hparent, hbs.2⟩
    . rw [Branch.subtreesAll, List.length_append, ← Nat.add_assoc]
      exact hbs'

end Outline

namespace Concrete

section Images

variable {source : String} {o : Outline} {image image₀ : List Nat → Nat}

/-- The images of the retained nodes below a tree, if the tree itself has become node `i` and its children are there. -/
def IsDepicted (source : String) (t : Concrete) : Prop :=
  ∀ field inType span own first, lowerParts source field inType span t = .ok (own, first) →
    ∀ (o : Outline) (i : Nat), o.Linked → (o.node i).toLabel = own → o.Bears i (i + 1) first →
      ∃ image : List Nat → Nat, image [] = i ∧
        (t.sitesBelow field inType).flatMap (Site.nodes image)
          = List.range' (i + 1) (Branch.subtreesAll first).length ∧
        ∀ x ∈ t.sitesBelow field inType, o.Fits image x

/-- The images are the same but for the children from the `n`-th on. -/
def Agrees (n : Nat) (image image₀ : List Nat → Nat) : Prop :=
  ∀ path, (∀ j ∈ path.head?, j < n) → image path = image₀ path

theorem Agrees.trans {n : Nat} {image₁ : List Nat → Nat} (h : Agrees (n + 1) image image₁)
    (h₁ : Agrees n image₁ image₀) : Agrees n image image₀ := by
  intro path hpath
  rw [h path, h₁ path hpath]
  intro j hj
  have := hpath j hj
  omega

theorem fits_under {image' : List Nat → Nat} {x : Site} {j : Nat} (h : o.Fits image' x)
    (heq : ∀ path, image (j :: path) = image' path) : o.Fits image (x.under j) := by
  unfold Site.under
  refine ⟨?_, ?_, ?_, ?_⟩
  . rw [heq]
    exact h.kind
  . rw [heq]
    exact h.grammarKind
  . rw [heq]
    exact h.start
  . rw [heq, heq]
    exact h.hangs

/-- The images of what is below the `j`-th child are given by `below`. -/
def extend (j : Nat) (below image₀ : List Nat → Nat) : List Nat → Nat
  | [] => image₀ []
  | k :: rest => if k = j then below rest else image₀ (k :: rest)

@[simp]
theorem extend_cons (j : Nat) (below image₀ : List Nat → Nat) (path : List Nat) :
    extend j below image₀ (j :: path) = below path := by
  simp [extend]

theorem extend_agrees (j : Nat) (below image₀ : List Nat → Nat) : Agrees j (extend j below image₀) image₀ := by
  intro path hpath
  cases path with
  | nil => rfl
  | cons k rest =>
    have hne : k ≠ j := Nat.ne_of_lt (hpath k rfl)
    simp [extend, hne]

theorem exists_image_of_child {t : Concrete} {j r : Nat} {host : List Nat} {keyword : Option Token} {inType : Bool}
    {span : Span} {own : Label} {first : List Branch} (ht : IsDepicted source t) (ho : o.Linked)
    (hparts : lowerParts source (keyword.elim t.info.field fun _ => none) inType span t = .ok (own, first))
    (hspan : span.start = t.info.span.start) (hlabel : (o.node r).toLabel = own) (hbears : o.Bears r (r + 1) first)
    (hhost : ∀ k ∈ host.head?, k < j) (hangs : o.Hangs (image₀ host) keyword r) :
    ∃ image, Agrees j image image₀ ∧ image [j] = r ∧
      (sitesOf j host keyword inType t).flatMap (Site.nodes image)
        = nodesAt keyword r ++ List.range' (r + 1) (Branch.subtreesAll first).length ∧
      ∀ x ∈ sitesOf j host keyword inType t, o.Fits image x := by
  have hfield : (keyword.elim t.info.field fun _ => none) = if keyword.isSome then none else t.info.field := by
    cases keyword <;> rfl
  rw [hfield] at hparts
  obtain ⟨image', hroot, himages, hfits⟩ := ht _ _ _ _ _ hparts o r ho hlabel hbears
  have hextends := extends_of_lowerParts hparts
  have hkind : o.kind r = t.kindAt (if keyword.isSome then none else t.info.field) inType := by
    have hown : o.kind r = own.kind := congrArg Label.kind hlabel
    rw [hown, kind_of_lowerParts hparts]
  have hunder := extend_cons j image' image₀
  refine ⟨extend j image' image₀, extend_agrees j image' image₀, ?_, ?_, ?_⟩
  . rw [hunder, hroot]
  . unfold sitesOf
    rw [List.flatMap_cons, List.flatMap_map, ← himages, Site.nodes, hunder, hroot]
    congr 2
    funext x
    exact congrArg (nodesAt x.keyword) (hunder x.path)
  . unfold sitesOf
    rw [List.forall_mem_cons]
    constructor
    . refine ⟨?_, ?_, ?_, ?_⟩
      . rw [hunder, hroot]
        exact hkind
      . rw [hunder, hroot]
        have hgrammar := congrArg Label.grammarKind hlabel
        rw [hextends] at hgrammar
        exact hgrammar
      . rw [hunder, hroot, ← hspan]
        have hstart := congrArg (fun label => label.span.start) hlabel
        rw [hextends] at hstart
        exact hstart
      . rw [hunder, hroot, extend_agrees j image' image₀ host hhost]
        exact hangs
    . intro x hx
      rw [List.mem_map] at hx
      obtain ⟨x', hx', heq⟩ := hx
      subst heq
      exact fits_under (hfits x' hx') hunder

theorem size_node (label : Label) (children : List Branch) :
    (Branch.node label children).size = (Branch.subtreesAll children).length + 1 := by
  unfold Branch.size
  rw [Branch.subtrees, List.length_cons]

theorem exists_image_of_lower {t : Concrete} {j i p : Nat} {host : List Nat} {keyword : Option Token} {inType : Bool}
    {b : Branch} (ht : IsDepicted source t) (ho : o.Linked)
    (hb : Kid.lower source inType ⟨keyword, t.info.span, t⟩ = .ok b) (hshows : o.Shows i b)
    (hparent : o.parent? i = some p) (hhost : ∀ k ∈ host.head?, k < j) (hp : image₀ host = p) :
    ∃ image, Agrees j image image₀ ∧
      (sitesOf j host keyword inType t).flatMap (Site.nodes image) = List.range' i b.size ∧
      ∀ x ∈ sitesOf j host keyword inType t, o.Fits image x := by
  obtain ⟨own, first, hparts, hb⟩ := Kid.lower_ok hb
  subst hp
  cases keyword with
  | none =>
    subst hb
    obtain ⟨hlabel, hbears⟩ := Outline.bears_of_shows ho hshows
    obtain ⟨image, hagrees, _, himages, hfits⟩ :=
      exists_image_of_child ht ho hparts rfl hlabel hbears hhost hparent
    refine ⟨image, hagrees, ?_, hfits⟩
    rw [himages, Option.elim, size_node, List.range'_succ]
    rfl
  | some token =>
    -- The clause comes first, and the alternative is its only child.
    subst hb
    obtain ⟨hlabel, hbears⟩ := Outline.bears_of_shows ho hshows
    have hchildren : o.children i = [i + 1] := by
      rw [Option.elim, elseClause, Outline.Shows] at hshows
      exact hshows.2.1
    have hclause : o.kind i = .elseClause := congrArg Label.kind hlabel
    have hangs : o.Hangs (image₀ host) (some token) (i + 1) :=
      ⟨i, rfl, hbears.2 (i + 1) List.mem_cons_self, hparent, hchildren, hclause, congrArg Label.role hlabel,
        congrArg Label.tokens hlabel⟩
    obtain ⟨hlabel', hbears'⟩ := Outline.bears_of_shows ho hbears.head.1
    obtain ⟨image, hagrees, _, himages, hfits⟩ :=
      exists_image_of_child ht ho hparts rfl hlabel' hbears' hhost hangs
    refine ⟨image, hagrees, ?_, hfits⟩
    rw [himages, Option.elim, elseClause, size_node, Branch.subtreesAll, Branch.subtreesAll, List.append_nil,
      ← Branch.size, size_node, List.range'_succ, List.range'_succ]
    rfl

/-- The images of some children, and of what is below them, from node `i` on. -/
def HasImages (o : Outline) (n i size : Nat) (image₀ : List Nat → Nat) (xs : List Site) : Prop :=
  ∃ image, Agrees n image image₀ ∧ xs.flatMap (Site.nodes image) = List.range' i size ∧ ∀ x ∈ xs, o.Fits image x

theorem HasImages.of_le {n n' i size : Nat} {xs : List Site} (h : HasImages o n' i size image₀ xs) (hn : n ≤ n') :
    HasImages o n i size image₀ xs := by
  obtain ⟨image, hagrees, himages, hfits⟩ := h
  refine ⟨image, ?_, himages, hfits⟩
  intro path hpath
  apply hagrees
  intro j hj
  have := hpath j hj
  omega

theorem fits_of_agrees {n : Nat} {x : Site} (h : o.Fits image₀ x) (hagrees : Agrees n image image₀)
    (hpath : ∀ k ∈ x.path.head?, k < n) (hhost : ∀ k ∈ x.host.head?, k < n) : o.Fits image x := by
  have hpath' := hagrees x.path hpath
  have hhost' := hagrees x.host hhost
  refine ⟨?_, ?_, ?_, ?_⟩
  . rw [hpath']
    exact h.kind
  . rw [hpath']
    exact h.grammarKind
  . rw [hpath']
    exact h.start
  . rw [hpath', hhost']
    exact h.hangs

theorem hasImages_append {n i m m' : Nat} {xs ys : List Site} (hagrees : Agrees n image image₀)
    (himages : xs.flatMap (Site.nodes image) = List.range' i m) (hfits : ∀ x ∈ xs, o.Fits image x)
    (hheads : ∀ x ∈ xs, (∀ k ∈ x.path.head?, k < n + 1) ∧ ∀ k ∈ x.host.head?, k < n + 1)
    (hrest : HasImages o (n + 1) (i + m) m' image ys) : HasImages o n i (m + m') image₀ (xs ++ ys) := by
  obtain ⟨image', hagrees', himages', hfits'⟩ := hrest
  refine ⟨image', hagrees'.trans hagrees, ?_, ?_⟩
  . rw [List.flatMap_append, himages', ← List.range'_append_1, ← himages]
    congr 1
    rw [List.flatMap_def, List.flatMap_def]
    refine congrArg List.flatten (List.map_congr_left ?_)
    intro x hx
    exact congrArg (nodesAt x.keyword) (hagrees' x.path (hheads x hx).1)
  . intro x hx
    rw [List.mem_append] at hx
    cases hx with
    | inl hx => exact fits_of_agrees (hfits x hx) hagrees' (hheads x hx).1 (hheads x hx).2
    | inr hx => exact hfits' x hx

section Kids

variable {kind : NodeKind} {inType inFile : Bool} {keyword : Option Token} {stop : Position} {p i : Nat}
  {before : List Info} {cs : List Concrete} {lowered : List Branch}

theorem hasImages_of_kids (ho : o.Linked) (hcs : ∀ t ∈ cs, IsDepicted source t)
    (hopens : ∀ c, opensFile kind inFile c = false)
    (hsettled : kind = .compilationUnit → (fileBefore? kind before).isSome = true)
    (hkeyword : elseBefore? kind before = keyword)
    (hlowered : (kids stop kind keyword inFile cs).mapM (Kid.lower source inType) = .ok lowered)
    (hbears : o.Bears p i lowered) (hp : image₀ (fileBefore? kind before).toList = p) :
    HasImages o before.length i (Branch.subtreesAll lowered).length image₀ (sitesAmong kind inType before cs) := by
  -- Induction on the children; the images are extended by one child after the other.
  induction cs generalizing before keyword lowered i image₀ with
  | nil =>
    cases hlowered
    exact ⟨image₀, fun _ _ => rfl, rfl, by simp [sitesAmong]⟩
  | cons t cs ih =>
    rw [List.forall_mem_cons] at hcs
    obtain ⟨c, below⟩ := t
    have hnext := fileBefore?_of_settled hsettled c
    have hsettled' : kind = .compilationUnit → (fileBefore? kind (c :: before)).isSome = true := by
      rw [hnext]
      exact hsettled
    unfold kids at hlowered
    cases hfate : c.fate kind with
    | kept =>
      simp only [hfate, hopens c, Bool.false_eq_true, if_false, List.mapM_cons, bind_eq_ok] at hlowered
      obtain ⟨b, hb, rest, hrest, h⟩ := hlowered
      cases h
      obtain ⟨hshows, hparent, hbears⟩ := hbears.head
      obtain ⟨image, hagrees, himages, hfits⟩ :=
        exists_image_of_lower hcs.1 ho hb hshows hparent head_lt_of_fileBefore? hp
      rw [sitesAmong_of_kept hfate, hkeyword, Branch.subtreesAll, List.length_append]
      refine hasImages_append hagrees himages hfits (head_lt_of_mem_sitesOf head_lt_of_fileBefore?) ?_
      apply ih hcs.2 hsettled' (elseBefore?_of_kept before hfate) hrest hbears
      rw [hnext, hagrees _ head_lt_of_fileBefore?]
      exact hp
    | token =>
      have hkept : c.fate kind ≠ .kept := by simp [hfate]
      have hkeyword' := elseBefore?_of_not_kept before hkept
      rw [isElseToken_of_token hfate, hkeyword] at hkeyword'
      simp only [hfate] at hlowered
      rw [← hnext] at hp
      rw [sitesAmong_of_not_kept hkept]
      exact (ih hcs.2 hsettled' hkeyword' hlowered hbears hp).of_le (Nat.le_succ _)
    | dropped | modifier | name =>
      have hkept : c.fate kind ≠ .kept := by simp [hfate]
      have htoken : c.fate kind ≠ .token := by simp [hfate]
      have hkeyword' := elseBefore?_of_not_kept before hkept
      rw [isElseToken_of_not_token htoken, Bool.and_false, if_neg Bool.false_ne_true, hkeyword] at hkeyword'
      simp only [hfate] at hlowered
      rw [← hnext] at hp
      rw [sitesAmong_of_not_kept hkept]
      exact (ih hcs.2 hsettled' hkeyword' hlowered hbears hp).of_le (Nat.le_succ _)

theorem hasImages_of_adopt (ho : o.Linked) (hcs : ∀ t ∈ cs, IsDepicted source t)
    (hbefore : fileBefore? .compilationUnit before = none)
    (hlowered : (kids stop .compilationUnit none false cs).mapM (Kid.lower source inType) = .ok lowered)
    (hbears : o.Bears p i (adopt lowered)) (hp : image₀ [] = p) :
    HasImages o before.length i (Branch.subtreesAll lowered).length image₀
      (sitesAmong .compilationUnit inType before cs) := by
  -- Up to the first namespace for the rest of the file the children are under `p`, and from then on under it.
  induction cs generalizing before lowered i image₀ with
  | nil =>
    cases hlowered
    exact ⟨image₀, fun _ _ => rfl, rfl, by simp [sitesAmong]⟩
  | cons t cs ih =>
    rw [List.forall_mem_cons] at hcs
    obtain ⟨c, below⟩ := t
    have helse : elseBefore? .compilationUnit before = none := rfl
    have hhost : ∀ k ∈ (fileBefore? .compilationUnit before).toList.head?, k < before.length := head_lt_of_fileBefore?
    have hnext := fileBefore?_cons .compilationUnit c before
    rw [hbefore, Option.none_or] at hnext
    unfold kids at hlowered
    cases hfate : c.fate .compilationUnit with
    | kept =>
      have hretained := Info.isRetained_iff.mpr hfate
      have howns : c.ownsRest .compilationUnit = opensFile .compilationUnit false c := by
        simp [Info.ownsRest, opensFile, hretained]
      simp only [hfate] at hlowered
      rw [sitesAmong_of_kept hfate, helse]
      cases hopens : opensFile .compilationUnit false c with
      | true =>
        rw [howns, hopens, if_pos rfl] at hnext
        simp only [hopens, if_true, List.mapM_cons, bind_eq_ok] at hlowered
        obtain ⟨b, hb, rest, hrest, h⟩ := hlowered
        cases h
        rw [adopt_of_file (by rw [grammarKind_of_lower hb]; exact (isFile_of_opensFile hopens).2.1)] at hbears
        obtain ⟨hshows, hparent, _⟩ := hbears.head
        obtain ⟨hlabel, hbears⟩ := Outline.bears_of_shows ho hshows
        obtain ⟨own, first, hparts, hb⟩ := Kid.lower_ok hb
        subst hb
        obtain ⟨hfirst, hlast⟩ := hbears.append
        rw [hbefore] at hhost
        subst hp
        obtain ⟨image, hagrees, hroot, himages, hfits⟩ :=
          exists_image_of_child hcs.1 ho hparts rfl hlabel hfirst hhost hparent
        rw [hbefore, Branch.subtreesAll, List.length_append, ← Branch.size, Option.elim, size_node]
        rw [nodesAt, List.singleton_append, ← List.range'_succ] at himages
        refine hasImages_append hagrees himages hfits (head_lt_of_mem_sitesOf hhost) ?_
        rw [Nat.add_right_comm] at hlast
        have hsettled : NodeKind.compilationUnit = .compilationUnit →
            (fileBefore? .compilationUnit (c :: before)).isSome = true := by
          intro _
          rw [hnext]
          rfl
        refine hasImages_of_kids ho hcs.2 (opensFile_of_inFile _) hsettled rfl hrest hlast ?_
        rw [hnext]
        exact hroot
      | false =>
        rw [howns, hopens, if_neg Bool.false_ne_true] at hnext
        simp only [hopens, Bool.false_eq_true, if_false, List.mapM_cons, bind_eq_ok] at hlowered
        obtain ⟨b, hb, rest, hrest, h⟩ := hlowered
        cases h
        rw [adopt_of_not_file (by rw [grammarKind_of_lower hb]; exact not_isFile_of_not_opensFile hopens)] at hbears
        obtain ⟨hshows, hparent, hbears⟩ := hbears.head
        rw [hbefore] at hhost
        obtain ⟨image, hagrees, himages, hfits⟩ := exists_image_of_lower hcs.1 ho hb hshows hparent hhost hp
        rw [hbefore, Branch.subtreesAll, List.length_append]
        refine hasImages_append hagrees himages hfits (head_lt_of_mem_sitesOf hhost) ?_
        apply ih hcs.2 hnext hrest hbears
        exact (hagrees _ hhost).trans hp
    | dropped | modifier | name | token =>
      have hkept : c.fate .compilationUnit ≠ .kept := by simp [hfate]
      simp only [hfate] at hlowered
      rw [sitesAmong_of_not_kept hkept]
      refine (ih hcs.2 ?_ hlowered hbears hp).of_le (Nat.le_succ _)
      rw [fileBefore?_of_not_kept before hkept]
      exact hbefore

end Kids

theorem isDepicted (source : String) (t : Concrete) : IsDepicted source t := by
  induction t using induct with
  | node c children ih =>
    intro field inType span own first hparts o i ho hlabel hbears
    obtain ⟨_, lowered, hlowered, hfirst⟩ := lowerParts_ok hparts
    have hsize : (Branch.subtreesAll first).length = (Branch.subtreesAll lowered).length := by
      rw [hfirst]
      split
      . have hlabels := congrArg List.length (labelsAll_adopt lowered)
        unfold labelsAll at hlabels
        rw [List.length_map, List.length_map] at hlabels
        exact hlabels
      . rfl
    rw [sitesBelow, hsize]
    have himages : HasImages o ([] : List Info).length (i + 1) (Branch.subtreesAll lowered).length (fun _ => i)
        (sitesAmong ((Concrete.node c children).kindAt field inType) ((Concrete.node c children).typeBelow field inType)
          [] children) := by
      by_cases hunit : (Concrete.node c children).kindAt field inType = .compilationUnit
      . rw [hunit] at hlowered hfirst ⊢
        rw [hfirst] at hbears
        refine hasImages_of_adopt ho ih ?_ hlowered hbears ?_
        . rfl
        . rfl
      . rw [if_neg (by simpa using hunit)] at hfirst
        rw [hfirst] at hbears
        refine hasImages_of_kids ho ih (opensFile_of_ne hunit) (fun h => absurd h hunit) ?_ hlowered hbears ?_
        . simp [elseBefore?]
        . rfl
    obtain ⟨image, hagrees, himages, hfits⟩ := himages
    exact ⟨image, hagrees [] (by simp), himages, hfits⟩

end Images

section Depicts

variable {o : Outline} {image : List Nat → Nat} {xs : List Site} {x y : Site} {n a : Nat}

theorem Site.mem_nodes : a ∈ x.nodes image ↔ a = x.top image ∨ a = image x.path := by
  unfold nodes top nodesAt
  split
  . simp
  . simp

theorem parent_top (h : o.Fits image x) : o.parent? (x.top image) = some (image x.host) := by
  have hangs := h.hangs
  unfold Site.top
  cases hkeyword : x.keyword with
  | none =>
    rw [hkeyword] at hangs
    exact hangs
  | some token =>
    rw [hkeyword] at hangs
    obtain ⟨e, heq, _, hparent, _⟩ := hangs
    rw [heq, Nat.add_sub_cancel]
    exact hparent

theorem eq_top_or_parent (h : o.Fits image x) :
    image x.path = x.top image ∨ o.parent? (image x.path) = some (x.top image) := by
  have hangs := h.hangs
  unfold Site.top
  cases hkeyword : x.keyword with
  | none => exact .inl rfl
  | some token =>
    rw [hkeyword] at hangs
    obtain ⟨e, heq, hparent, _⟩ := hangs
    right
    rw [hparent, heq, Nat.add_sub_cancel]

theorem nodes_pairwise (h : 0 :: xs.flatMap (Site.nodes image) = List.range n) :
    xs.Pairwise fun x y => ∀ a ∈ x.nodes image, ∀ b ∈ y.nodes image, a < b := by
  have hlt : (0 :: xs.flatMap (Site.nodes image)).Pairwise (· < ·) := by
    rw [h]
    exact List.pairwise_lt_range
  exact (List.pairwise_flatMap.mp (List.pairwise_cons.mp hlt).2).2

theorem pos_of_mem_nodes (h : 0 :: xs.flatMap (Site.nodes image) = List.range n) (hx : x ∈ xs)
    (ha : a ∈ x.nodes image) : 0 < a := by
  have hlt : (0 :: xs.flatMap (Site.nodes image)).Pairwise (· < ·) := by
    rw [h]
    exact List.pairwise_lt_range
  exact (List.pairwise_cons.mp hlt).1 a (List.mem_flatMap.mpr ⟨x, hx, ha⟩)

theorem eq_of_mem_nodes (h : 0 :: xs.flatMap (Site.nodes image) = List.range n) (hx : x ∈ xs) (hy : y ∈ xs)
    (hax : a ∈ x.nodes image) (hay : a ∈ y.nodes image) : x = y := by
  have hpairwise := nodes_pairwise h
  refine List.Pairwise.forall_of_forall_of_flip (R := fun x y => ∀ a ∈ x.nodes image, a ∈ y.nodes image → x = y)
    ?_ ?_ ?_ hx hy a hax hay
  . intro x _ a _ _
    rfl
  . apply hpairwise.imp
    intro x y hlt a hax hay
    exact absurd (hlt a hax a hay) (Nat.lt_irrefl a)
  . apply hpairwise.imp
    intro x y hlt a hay hax
    exact absurd (hlt a hax a hay) (Nat.lt_irrefl a)

theorem image_injective (h : 0 :: xs.flatMap (Site.nodes image) = List.range n) (hroot : image [] = 0) :
    ∀ p ∈ [] :: xs.map (·.path), ∀ q ∈ [] :: xs.map (·.path), image p = image q → p = q := by
  have hpos : ∀ x ∈ xs, 0 < image x.path := fun x hx => pos_of_mem_nodes h hx (Site.mem_nodes.mpr (.inr rfl))
  simp only [List.forall_mem_cons, List.forall_mem_map, hroot]
  refine ⟨⟨by simp, ?_⟩, ?_⟩
  . intro x hx heq
    have := hpos x hx
    omega
  . intro x hx
    constructor
    . intro heq
      have := hpos x hx
      omega
    . intro y hy heq
      rw [eq_of_mem_nodes h hx hy (Site.mem_nodes.mpr (.inr rfl)) (Site.mem_nodes.mpr (.inr heq))]

theorem image_ne_top (h : 0 :: xs.flatMap (Site.nodes image) = List.range n) (hroot : image [] = 0) (hx : x ∈ xs)
    (hne : x.top image ≠ image x.path) : ∀ p ∈ [] :: xs.map (·.path), image p ≠ x.top image := by
  have htop : x.top image ∈ x.nodes image := Site.mem_nodes.mpr (.inl rfl)
  rw [List.forall_mem_cons, List.forall_mem_map, hroot]
  constructor
  . exact Nat.ne_of_lt (pos_of_mem_nodes h hx htop)
  . intro y hy heq
    rw [eq_of_mem_nodes h hy hx (Site.mem_nodes.mpr (.inr rfl)) (by rw [heq]; exact htop)] at heq
    exact hne heq.symm

theorem children_eq (ho : o.Linked) (hroot : image [] = 0)
    (hnodes : 0 :: xs.flatMap (Site.nodes image) = List.range o.size) (hfits : ∀ x ∈ xs, o.Fits image x)
    (hhosts : ∀ x ∈ xs, x.host ∈ [] :: xs.map (·.path)) {p : List Nat} (hp : p ∈ [] :: xs.map (·.path)) :
    o.children (image p) = (xs.filter (·.host = p)).map (Site.top image) := by
  apply Outline.eq_of_pairwise_lt (ho.children_pairwise _)
  . rw [List.pairwise_map]
    apply ((nodes_pairwise hnodes).filter _).imp
    intro x y hlt
    exact hlt _ (Site.mem_nodes.mpr (.inl rfl)) _ (Site.mem_nodes.mpr (.inl rfl))
  . intro c
    rw [ho.mem_children]
    constructor
    . intro hparent
      have hc : c ∈ 0 :: xs.flatMap (Site.nodes image) := by
        rw [hnodes, List.mem_range]
        exact Outline.lt_size_of_parent? hparent
      have hlt := ho.parent_lt hparent
      rw [List.mem_cons, List.mem_flatMap] at hc
      obtain ⟨x, hx, hc⟩ := hc.resolve_left (by omega)
      -- It is the first node of `x`, since the only other one is under a clause.
      have htop : c = x.top image := by
        cases Site.mem_nodes.mp hc with
        | inl heq => exact heq
        | inr heq =>
          subst heq
          cases eq_top_or_parent (hfits x hx) with
          | inl heq => exact heq
          | inr hclause =>
            rw [hclause, Option.some.injEq] at hparent
            refine absurd hparent.symm (image_ne_top hnodes hroot hx ?_ p hp)
            omega
      subst htop
      rw [parent_top (hfits x hx), Option.some.injEq] at hparent
      have hhost := image_injective hnodes hroot _ (hhosts x hx) p hp hparent
      exact List.mem_map_of_mem (List.mem_filter.mpr ⟨hx, decide_eq_true hhost⟩)
    . intro hc
      rw [List.mem_map] at hc
      obtain ⟨x, hx, heq⟩ := hc
      rw [List.mem_filter, decide_eq_true_eq] at hx
      rw [← heq, parent_top (hfits x hx.1), hx.2]

/--
The outline shows the tree: each retained node has become one node under the right one, in the same order, and there are
no other nodes than the clauses around alternatives.
-/
structure Depicts (t : Concrete) (o : Outline) (image : List Nat → Nat) : Prop where
  root : image [] = 0
  nodes : 0 :: t.sites.flatMap (Site.nodes image) = List.range o.size
  fits : ∀ x ∈ t.sites, o.Fits image x
  children : ∀ p ∈ [] :: t.sites.map (·.path),
    o.children (image p) = (t.sites.filter (·.host = p)).map (Site.top image)

theorem exists_toOutline {t : Concrete} {source : String} (h : ∀ s ∈ t.subtrees, s.info.IsSlice source)
    (path : Option String) : ∃ o, t.toOutline source path = .ok o := by
  obtain ⟨⟨own, first⟩, hparts⟩ := exists_lowerParts t (fun s hs => (h s hs).exists_text) none false t.info.span
  rw [toOutline_eq, lower, hparts]
  exact ⟨_, Branch.toOutline_eq _ source path⟩

theorem exists_depicts {t : Concrete} {source : String} {path : Option String} {o : Outline}
    (ho : t.toOutline source path = .ok o) : ∃ image, t.Depicts o image := by
  rw [toOutline_eq, lower] at ho
  simp only [bind_eq_ok] at ho
  obtain ⟨b, ⟨⟨own, first⟩, hparts, hb⟩, ho⟩ := ho
  cases hb
  have hlinked := (Branch.wellFormed_of_toOutline ho).toLinked
  obtain ⟨hsize, hshows⟩ := Outline.shows_of_toOutline ho
  obtain ⟨hlabel, hbears⟩ := Outline.bears_of_shows hlinked hshows
  obtain ⟨image, hroot, himages, hfits⟩ := isDepicted source t _ _ _ _ _ hparts o 0 hlinked hlabel hbears
  have hnodes : 0 :: t.sites.flatMap (Site.nodes image) = List.range o.size := by
    rw [sites, himages, hsize, size_node, List.range_eq_range', List.range'_succ]
  refine ⟨image, hroot, hnodes, hfits, ?_⟩
  intro p hp
  exact children_eq hlinked hroot hnodes hfits (hostsBelow t none false) hp

/--
Every retained node is under the node that its parent has become. There are two exceptions: after an `else` it is the
only child of a clause there, and after a namespace for the rest of the file it is under the namespace.
-/
theorem toOutline_depicts (t : Concrete) (source : String) (path : Option String) :
    ((∀ s ∈ t.subtrees, s.info.IsSlice source) → ∃ o, t.toOutline source path = .ok o) ∧
      ∀ o, t.toOutline source path = .ok o → ∃ image, t.Depicts o image :=
  ⟨fun h => exists_toOutline h path, fun _ => exists_depicts⟩

theorem depicts_fileWithElse : ∃ o image, fileWithElse.toOutline "namespace N;if(a)b;else c;" none = .ok o ∧
    fileWithElse.Depicts o image ∧ o.children (image []) = [image [0]] ∧ o.children (image [0]) = [image [1]] ∧
    o.children (image [1]) = [image [1, 2], image [1, 4], image [1, 6] - 1] := by
  obtain ⟨hexists, hdepicts⟩ := toOutline_depicts fileWithElse "namespace N;if(a)b;else c;" none
  obtain ⟨o, ho⟩ := hexists (by decide +kernel)
  obtain ⟨image, himage⟩ := hdepicts o ho
  exact ⟨o, image, ho, himage, himage.children [] (by decide +kernel), himage.children [0] (by decide +kernel),
    himage.children [1] (by decide +kernel)⟩

end Depicts

end Concrete
end StructuralSearch
