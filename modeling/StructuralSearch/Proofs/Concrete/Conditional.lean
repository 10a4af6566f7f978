import Mathlib.Data.List.Chain
import StructuralSearch.Proofs.Concrete.Nesting
import StructuralSearch.Proofs.Concrete.Spots
import StructuralSearch.Proofs.Virtual.Standard

/-!
This module contains the routing of an `if`: its condition, its body and its alternative become virtual nodes, and so
they do in every `if` of a chain.
-/

namespace StructuralSearch

namespace Registry

open Rule

section Resolve

variable {t : Outline} {i p : Nat}

theorem parentKind?_of_parent? {kind : NodeKind} (h : t.parent? i = some p) (hp : t.kind p = kind) :
    t.parentKind? i = some kind := by
  rw [Outline.parentKind?, h, Option.map_some, hp]

theorem resolve_of_parent {r : Rule} {f : Nat → VirtualNode} (hr : r ∈ specific) (happlies : r.applies t i = true)
    (hf : ∃ q, t.parent? i = some q ∧ r.synthesize t i = .ok (f q)) (h : t.parent? i = some p) :
    standard.resolve t i = .ok [⟨.replacing, f p⟩] := by
  obtain ⟨q, hq, hv⟩ := hf
  rw [h, Option.some.injEq] at hq
  subst hq
  exact resolve_of_specific hr happlies hv

theorem resolve_ifCondition (hkind : (t.kind i).isExpression = true) (h : t.parent? i = some p)
    (hp : t.kind p = .ifStatement) : standard.resolve t i = .ok [⟨.replacing, .ifCondition p i⟩] := by
  have happlies := ifCondition_applies.mpr ⟨hkind, parentKind?_of_parent? h hp⟩
  exact resolve_of_parent (f := (.ifCondition · i)) (by simp [specific]) happlies (ifCondition_synthesize happlies) h

theorem resolve_ifBody (hkind : (t.kind i).isStatement = true) (hrole : (t.node i).role ≠ some .alternative)
    (h : t.parent? i = some p) (hp : t.kind p = .ifStatement) :
    standard.resolve t i = .ok [⟨.replacing, .ifBody p i⟩] := by
  have happlies := ifBody_applies.mpr ⟨hkind, hrole, parentKind?_of_parent? h hp⟩
  exact resolve_of_parent (f := (.ifBody · i)) (by simp [specific]) happlies (ifBody_synthesize happlies) h

theorem resolve_elseBody (hkind : (t.kind i).isStatement = true) (h : t.parent? i = some p)
    (hp : t.kind p = .elseClause) : standard.resolve t i = .ok [⟨.replacing, .elseBody p i⟩] := by
  have happlies := elseBody_applies.mpr ⟨hkind, parentKind?_of_parent? h hp⟩
  exact resolve_of_parent (f := (.elseBody · i)) (by simp [specific]) happlies (elseBody_synthesize happlies) h

theorem applies_of_resolve {r : Rule} {v : VirtualNode} (hr : r ∈ specific) (hkind : v.kind = r.kind)
    (h : standard.resolve t i = .ok [⟨.replacing, v⟩]) : r.applies t i = true := by
  obtain ⟨routed, hresolve, hrouting⟩ := exists_standardRouting t i
  rw [h, Except.ok.injEq] at hresolve
  subst hresolve
  exact (hrouting.specific_iff r hr).mp ⟨_, List.mem_singleton_self _, hkind⟩

/-- Neither a condition nor a body of an `if`. -/
def IsBystander (t : Outline) (i : Nat) : Prop :=
  ∃ routed, standard.resolve t i = .ok routed ∧ ∀ r ∈ routed, r.node.kind ∉ [.ifCondition, .ifBody, .elseBody]

theorem isBystander_of_elseClause (h : t.kind i = .elseClause) : IsBystander t i := by
  obtain ⟨routed, hresolve, hrouting⟩ := exists_standardRouting t i
  refine ⟨routed, hresolve, ?_⟩
  intro r hr hkind
  simp only [List.mem_cons, List.not_mem_nil, or_false] at hkind
  obtain hkind | hkind | hkind := hkind
  . have happlies := (hrouting.specific_iff ifCondition (by simp [specific])).mp ⟨r, hr, hkind⟩
    rw [ifCondition_applies, h] at happlies
    cases happlies.1
  . have happlies := (hrouting.specific_iff ifBody (by simp [specific])).mp ⟨r, hr, hkind⟩
    rw [ifBody_applies, h] at happlies
    cases happlies.1
  . have happlies := (hrouting.specific_iff elseBody (by simp [specific])).mp ⟨r, hr, hkind⟩
    rw [elseBody_applies, h] at happlies
    cases happlies.1

end Resolve

end Registry

namespace Concrete

/-- A retained child of an `if`, seen from there. -/
def Site.ofChild (keyword : Option Token) (t : Concrete × Nat) : Site :=
  { path := [t.2], info := t.1.info, kind := (Spot.ofChild keyword false t.1).kind, host := [], keyword }

/-- The retained ones among some children of an `if`, which are given with their numbers. -/
def ifSites (keyword : Option Token) : List (Concrete × Nat) → List Site
  | [] => []
  | t :: ts =>
    if t.1.info.isRetained .ifStatement then
      .ofChild keyword t :: ifSites none ts
    else
      ifSites (if t.1.info.isElseToken then some t.1.info.token else keyword) ts

section IfSites

variable {keyword : Option Token} {t : Concrete × Nat} {ts : List (Concrete × Nat)}

theorem ifSites_of_retained (h : t.1.info.isRetained .ifStatement = true) :
    ifSites keyword (t :: ts) = .ofChild keyword t :: ifSites none ts := by
  rw [ifSites, if_pos h]

theorem ifSites_of_not_retained (h : t.1.info.isRetained .ifStatement = false) : ifSites keyword (t :: ts) =
    ifSites (if t.1.info.isElseToken then some t.1.info.token else keyword) ts := by
  rw [ifSites, if_neg (by simp [h])]

theorem filter_host_sitesAmong (before : List Info) (cs : List Concrete) :
    (sitesAmong .ifStatement false before cs).filter (·.host = []) =
      ifSites (elseBefore? .ifStatement before) (cs.zipIdx before.length) := by
  induction cs generalizing before with
  | nil => rfl
  | cons t cs ih =>
    obtain ⟨c, below⟩ := t
    have ih := ih (c :: before)
    rw [List.length_cons] at ih
    rw [List.zipIdx_cons]
    by_cases hfate : c.fate .ifStatement = .kept
    . have hfile : fileBefore? .ifStatement before = none := by simp [fileBefore?, Info.ownsRest]
      have hbelow : ∀ sites : List Site, (sites.map (Site.under before.length)).filter (·.host = []) = [] := by
        intro sites
        simp [List.filter_eq_nil_iff, Site.under]
      rw [elseBefore?_of_kept before hfate] at ih
      rw [sitesAmong_of_kept hfate, List.filter_append, ih, hfile, sitesOf, List.filter_cons_of_pos (by simp), hbelow,
        ifSites_of_retained (t := (.node c below, before.length)) (Info.isRetained_iff.mpr hfate)]
      rfl
    . have hretained := Info.isRetained_eq_false hfate
      rw [elseBefore?_of_not_kept before hfate] at ih
      rw [sitesAmong_of_not_kept hfate, ih, ifSites_of_not_retained (t := (.node c below, before.length)) hretained]
      rfl

theorem ifSites_filter (keyword : Option Token) (ts : List (Concrete × Nat)) :
    ifSites keyword ts = ifSites keyword (ts.filter (!·.1.info.isExtra)) := by
  induction ts generalizing keyword with
  | nil => rfl
  | cons t ts ih =>
    cases hextra : t.1.info.isExtra with
    | true =>
      have hretained : t.1.info.isRetained .ifStatement = false := by simp [Info.isRetained, hextra]
      have helse : t.1.info.isElseToken = false := by simp [Info.isElseToken, hextra]
      rw [List.filter_cons_of_neg (by simp [hextra]), ifSites_of_not_retained hretained, helse, ← ih]
      rfl
    | false => rw [List.filter_cons_of_pos (by simp [hextra]), ifSites, ifSites, ih, ih]

end IfSites

theorem ownTokens_filter (kind : NodeKind) (keyword : Option Token) (cs : List Concrete) :
    ownTokens kind keyword cs = ownTokens kind keyword (cs.filter (!·.info.isExtra)) := by
  induction cs generalizing keyword with
  | nil => rfl
  | cons t cs ih =>
    obtain ⟨c, below⟩ := t
    cases hextra : c.isExtra with
    | true =>
      have hfate : c.fate kind = .dropped := by simp [Info.fate, hextra]
      rw [List.filter_cons_of_neg (by simp [Concrete.info, hextra]), ownTokens, hfate]
      exact ih keyword
    | false =>
      rw [List.filter_cons_of_pos (by simp [Concrete.info, hextra]), ownTokens, ownTokens]
      simp only [← ih]

/-- The children of an `if` with their numbers, comments aside. -/
structure IfParts where
  word : Concrete × Nat
  opening : Concrete × Nat
  condition : Concrete × Nat
  closing : Concrete × Nat
  body : Concrete × Nat
  /-- The `else` and what is after it. -/
  alternative : Option ((Concrete × Nat) × (Concrete × Nat))

/-- The grammar has the node for one of the given kinds, and it is not in the place of a type. -/
def Info.isPart (isOfKind : NodeKind → Bool) (c : Info) : Bool :=
  isOfKind (.ofGrammar c.kind false) && !isTypeField c.field

namespace IfParts

def list (x : IfParts) : List (Concrete × Nat) :=
  [x.word, x.opening, x.condition, x.closing, x.body] ++ x.alternative.elim [] fun a => [a.1, a.2]

/-- The parts of an `if` with the given children. -/
structure Among (x : IfParts) (children : List Concrete) : Prop where
  list : children.zipIdx.filter (!·.1.info.isExtra) = x.list
  word : x.word.1.info.isWord "if" = true
  opening : x.opening.1.info.isWord "(" = true
  condition : x.condition.1.info.isPart NodeKind.isExpression = true
  closing : x.closing.1.info.isWord ")" = true
  body : x.body.1.info.isPart NodeKind.isStatement = true
  keyword : ∀ a ∈ x.alternative, a.1.1.info.isWord "else" = true
  alternative : ∀ a ∈ x.alternative, a.2.1.info.isPart NodeKind.isStatement = true

/-- All parts are in the text, the condition and the statements are no tokens, and the fields do not mix them up. -/
structure Regular (x : IfParts) : Prop where
  present : ∀ t ∈ x.list, t.1.info.isMissing = false
  condition : x.condition.1.info.isNamed = true
  body : x.body.1.info.isNamed = true
  field : x.body.1.info.field ≠ some "alternative"
  alternative : ∀ a ∈ x.alternative, a.2.1.info.isNamed = true

section Sites

variable {x : IfParts} {children : List Concrete} {t : Concrete × Nat} {ts : List (Concrete × Nat)}
  {keyword : Option Token} {word : String}

theorem ifSites_word (h : t.1.info.isWord word = true) (hword : word ≠ "else") :
    ifSites keyword (t :: ts) = ifSites keyword ts := by
  have hretained : t.1.info.isRetained .ifStatement = false := by simp [Info.isRetained, not_isNamed_of_isWord h]
  have helse : t.1.info.isElseToken = false := by
    simp only [Info.isWord, Bool.and_eq_true, beq_iff_eq] at h
    simp [Info.isElseToken, h.2, hword]
  rw [ifSites_of_not_retained hretained, helse]
  rfl

theorem ifSites_else (h : t.1.info.isWord "else" = true) (hextra : t.1.info.isExtra = false)
    (hmissing : t.1.info.isMissing = false) : ifSites keyword (t :: ts) = ifSites (some t.1.info.token) ts := by
  have hretained : t.1.info.isRetained .ifStatement = false := by simp [Info.isRetained, not_isNamed_of_isWord h]
  have helse : t.1.info.isElseToken = true := by
    simp only [Info.isWord, Bool.and_eq_true, beq_iff_eq, Bool.not_eq_true'] at h
    simp [Info.isElseToken, h, hextra, hmissing]
  rw [ifSites_of_not_retained hretained, helse]
  rfl

theorem ifSites_named (h : t.1.info.isNamed = true) (hextra : t.1.info.isExtra = false)
    (hmissing : t.1.info.isMissing = false) : ifSites keyword (t :: ts) = .ofChild keyword t :: ifSites none ts := by
  refine ifSites_of_retained (Info.isRetained_iff.mpr ((fate_of_isNamed h).resolve_left ?_))
  unfold Info.fate
  simp [h, hextra, hmissing, NodeKind.carriesModifiers, NodeKind.takesName, NodeKind.isNamespace,
    NodeKind.isTypeDeclaration]

theorem Among.isExtra (h : x.Among children) : ∀ t ∈ x.list, t.1.info.isExtra = false := by
  intro t ht
  rw [← h.list, List.mem_filter] at ht
  simpa using ht.2

theorem Among.mem_zipIdx (h : x.Among children) : ∀ t ∈ x.list, t ∈ children.zipIdx := by
  intro t ht
  rw [← h.list, List.mem_filter] at ht
  exact ht.1

theorem Among.ifSites_eq (h : x.Among children) (hx : x.Regular) : ifSites none children.zipIdx =
    .ofChild none x.condition :: .ofChild none x.body
      :: (x.alternative.map fun a => Site.ofChild (some a.1.1.info.token) a.2).toList := by
  have hextra := h.isExtra
  have hmissing := hx.present
  have helse := h.keyword
  have hnamed := hx.alternative
  rw [ifSites_filter, h.list]
  unfold IfParts.list at hextra hmissing ⊢
  simp only [List.forall_mem_append, List.forall_mem_cons] at hextra hmissing
  obtain ⟨⟨_, _, hextraC, _, hextraS, _⟩, hextraA⟩ := hextra
  obtain ⟨⟨_, _, hmissingC, _, hmissingS, _⟩, hmissingA⟩ := hmissing
  rw [List.cons_append, List.cons_append, List.cons_append, List.cons_append, List.cons_append, List.nil_append,
    ifSites_word h.word (by decide), ifSites_word h.opening (by decide), ifSites_named hx.condition hextraC hmissingC,
    ifSites_word h.closing (by decide), ifSites_named hx.body hextraS hmissingS]
  cases halternative : x.alternative with
  | none => rfl
  | some a =>
    rw [halternative] at hextraA hmissingA helse hnamed
    simp only [Option.elim, List.forall_mem_cons] at hextraA hmissingA
    rw [Option.elim, ifSites_else (helse a rfl) hextraA.1 hmissingA.1,
      ifSites_named (hnamed a rfl) hextraA.2.1 hmissingA.2.1]
    rfl

theorem Among.mem_ifSites (h : x.Among children) (hx : x.Regular) {a : (Concrete × Nat) × (Concrete × Nat)}
    (ha : a ∈ x.alternative) : Site.ofChild (some a.1.1.info.token) a.2 ∈ ifSites none children.zipIdx := by
  rw [Option.mem_def] at ha
  simp [h.ifSites_eq hx, ha]

theorem mem_list {a : (Concrete × Nat) × (Concrete × Nat)} (ha : a ∈ x.alternative) : a.2 ∈ x.list := by
  rw [Option.mem_def] at ha
  simp [list, ha]

theorem ownTokens_word {t : Concrete} {ts : List Concrete} (h : t.info.isWord word = true) (hword : word ≠ "else")
    (hextra : t.info.isExtra = false) (hmissing : t.info.isMissing = false) :
    ownTokens .ifStatement keyword (t :: ts) = t.info.token :: ownTokens .ifStatement keyword ts := by
  obtain ⟨c, below⟩ := t
  simp only [Concrete.info, Info.isWord, Bool.and_eq_true, beq_iff_eq, Bool.not_eq_true'] at h hextra hmissing
  have hfate : c.fate .ifStatement = .token := by simp [Info.fate_eq_token, h.1, hextra, hmissing]
  rw [ownTokens, hfate]
  simp [isElse, h.2, hword, Concrete.info]

theorem ownTokens_named {t : Concrete} {ts : List Concrete} (h : t.info.isNamed = true) :
    ownTokens .ifStatement none (t :: ts) = ownTokens .ifStatement none ts := by
  obtain ⟨c, below⟩ := t
  rw [ownTokens]
  obtain hfate | hfate := fate_of_isNamed h
  . simp only [Concrete.info] at hfate
    rw [hfate]
  . simp only [Concrete.info] at hfate
    rw [hfate]

/-- The first tokens are the keyword and the parentheses. -/
theorem Among.exists_ownTokens (h : x.Among children) (hx : x.Regular) : ∃ rest, ownTokens .ifStatement none children =
    x.word.1.info.token :: x.opening.1.info.token :: x.closing.1.info.token :: rest := by
  have hlist : children.filter (!·.info.isExtra) = x.list.map Prod.fst := by
    calc children.filter (!·.info.isExtra)
      _ = (children.zipIdx.map Prod.fst).filter (!·.info.isExtra) := by rw [List.zipIdx_map_fst]
      _ = (children.zipIdx.filter (!·.1.info.isExtra)).map Prod.fst := List.filter_map
      _ = x.list.map Prod.fst := by rw [h.list]
  have hextra := h.isExtra
  have hmissing := hx.present
  rw [ownTokens_filter, hlist]
  unfold IfParts.list at hextra hmissing ⊢
  simp only [List.forall_mem_append, List.forall_mem_cons] at hextra hmissing
  obtain ⟨⟨hextraW, hextraL, _, hextraR, _⟩, _⟩ := hextra
  obtain ⟨⟨hmissingW, hmissingL, _, hmissingR, _⟩, _⟩ := hmissing
  simp only [List.cons_append, List.map_cons]
  rw [ownTokens_word h.word (by decide) hextraW hmissingW, ownTokens_word h.opening (by decide) hextraL hmissingL,
    ownTokens_named hx.condition, ownTokens_word h.closing (by decide) hextraR hmissingR]
  exact ⟨_, rfl⟩

end Sites

end IfParts

/-- A child of a clause for an `else` under the node is routed to the body of the clause. -/
def IsElseBody (o : Outline) (p i : Nat) : Prop :=
  ∃ e ∈ o.children p, o.kind e = .elseClause ∧ Registry.standard.resolve o i = .ok [⟨.replacing, .elseBody e i⟩]

/-- The parts of the `if` at the end of a path are routed to its condition and bodies, and nothing else there is. -/
structure RoutesIf (o : Outline) (image : List Nat → Nat) (p : List Nat) (x : IfParts) : Prop where
  condition : Registry.standard.resolve o (image (p ++ [x.condition.2])) =
    .ok [⟨.replacing, .ifCondition (image p) (image (p ++ [x.condition.2]))⟩]
  span : (VirtualNode.ifCondition (image p) (image (p ++ [x.condition.2]))).span o =
    { start := x.opening.1.info.span.start, stop := x.closing.1.info.span.stop }
  body : Registry.standard.resolve o (image (p ++ [x.body.2])) =
    .ok [⟨.replacing, .ifBody (image p) (image (p ++ [x.body.2]))⟩]
  alternative : ∀ a ∈ x.alternative, IsElseBody o (image p) (image (p ++ [a.2.2]))
  others : ∀ i, (i ∈ o.children (image p) ∨ ∃ e ∈ o.children (image p), o.kind e = .elseClause ∧ i ∈ o.children e) →
    (∀ t ∈ x.condition :: x.body :: (x.alternative.map (·.2)).toList, i ≠ image (p ++ [t.2])) →
    Registry.IsBystander o i

section Depicts

variable {t : Concrete} {source : String} {path : Option String} {o : Outline} {image : List Nat → Nat}
  {p : List Nat} {y : Spot} {x : IfParts} {keyword : Option Token} {c : Concrete × Nat}

theorem filter_host_of_if (hy : t.spot.at? p = some y) (hkind : y.kind = .ifStatement) :
    t.sites.filter (·.host = p) = (ifSites none y.tree.children.zipIdx).map (Site.below p) := by
  obtain ⟨hgrammar, htype⟩ := NodeKind.ofGrammar_eq_ifStatement hkind
  have hfile : y.tree.info.isFileNamespace = false := by simp [Info.isFileNamespace, hgrammar]
  have hbelow : y.typeBelow = false := by
    unfold Spot.typeBelow typeBelow
    rw [htype, Bool.false_or]
    change (y.kind == .typeName) = false
    rw [hkind]
    rfl
  have hsites : t.sites = t.spot.sites := rfl
  rw [hsites, Spot.filter_host_of_at? hy hfile, Spot.sites_eq, hkind, hbelow, filter_host_sitesAmong]
  rfl

theorem Depicts.children_of_if (h : t.Depicts o image) (hy : t.spot.at? p = some y) (hkind : y.kind = .ifStatement) :
    o.children (image p) = (ifSites none y.tree.children.zipIdx).map fun site => (site.below p).top image := by
  rw [h.children p (Spot.mem_paths_of_at? hy), filter_host_of_if hy hkind, List.map_map]
  rfl

theorem mem_sites_of_if (hy : t.spot.at? p = some y) (hkind : y.kind = .ifStatement)
    (hc : Site.ofChild keyword c ∈ ifSites none y.tree.children.zipIdx) :
    (Site.ofChild keyword c).below p ∈ t.sites := by
  have hmem := List.mem_map_of_mem (f := Site.below p) hc
  rw [← filter_host_of_if hy hkind, List.mem_filter] at hmem
  exact hmem.1

theorem kind_ofChild {t : Concrete} {isOfKind : NodeKind → Bool} (h : t.info.isPart isOfKind = true) :
    isOfKind (Spot.ofChild keyword false t).kind = true := by
  simp only [Info.isPart, Bool.and_eq_true, Bool.not_eq_true'] at h
  have hkind : (Spot.ofChild keyword false t).kind = .ofGrammar t.info.kind false := by
    unfold Spot.kind kindAt Spot.ofChild
    cases keyword with
    | none => simp [h.2]
    | some token => rfl
  rw [hkind]
  exact h.1

theorem Depicts.hangs_of_if (h : t.Depicts o image) (hy : t.spot.at? p = some y) (hkind : y.kind = .ifStatement)
    (hc : Site.ofChild keyword c ∈ ifSites none y.tree.children.zipIdx) :
    o.kind (image (p ++ [c.2])) = (Spot.ofChild keyword false c.1).kind ∧
      o.Hangs (image p) keyword (image (p ++ [c.2])) := by
  have hfits := h.fits _ (mem_sites_of_if hy hkind hc)
  have hangs := hfits.hangs
  unfold Site.below Site.ofChild at hangs
  rw [List.append_nil] at hangs
  exact ⟨hfits.kind, hangs⟩

theorem Depicts.exists_child (h : t.Depicts o image) (ho : t.toOutline source path = .ok o)
    (hy : t.spot.at? p = some y) (hkind : y.kind = .ifStatement)
    (hc : Site.ofChild keyword c ∈ ifSites none y.tree.children.zipIdx) (hmem : c ∈ y.tree.children.zipIdx) :
    ∃ z, t.spot.at? (p ++ [c.2]) = some z ∧ z.tree = c.1 ∧ z.kind = (Spot.ofChild keyword false c.1).kind ∧
      (z.field = none ∨ z.field = c.1.info.field) := by
  obtain ⟨z, hz, hkind⟩ := h.exists_spot ho (mem_sites_of_if hy hkind hc)
  have hchild := hz
  change t.spot.at? (p ++ [c.2]) = some z at hchild
  rw [Spot.at?_append, hy, Option.bind_some, Spot.at?_singleton] at hchild
  have htree := Spot.tree_of_child? hchild
  rw [List.mem_zipIdx_iff_getElem?.mp hmem, Option.some.injEq] at htree
  obtain ⟨_, _, _, _, _, heq⟩ := Spot.exists_append_of_child? hchild
  refine ⟨z, hz, htree.symm, hkind.symm, ?_⟩
  have hfield := congrArg Spot.field heq
  unfold Spot.ofChild at hfield
  rw [← htree] at hfield
  dsimp only at hfield
  split at hfield
  . exact .inl hfield
  . exact .inr hfield

theorem span_of_if (htokens : (o.node (image p)).tokens = ownTokens .ifStatement none y.tree.children)
    (hx : x.Among y.tree.children) (hregular : x.Regular) (i : Nat) :
    (VirtualNode.ifCondition (image p) i).span o =
      { start := x.opening.1.info.span.start, stop := x.closing.1.info.span.stop } := by
  obtain ⟨rest, hrest⟩ := hx.exists_ownTokens hregular
  have hkind : ∀ {c : Info} {word : String}, c.isWord word = true → c.kind = word := by
    intro c word hword
    simp only [Info.isWord, Bool.and_eq_true, beq_iff_eq] at hword
    exact hword.2
  have hopening : o.token? (image p) "(" = some x.opening.1.info.token := by
    rw [Outline.token?, htokens, hrest]
    simp [Info.token, hkind hx.word, hkind hx.opening]
  have hclosing : o.token? (image p) ")" = some x.closing.1.info.token := by
    rw [Outline.token?, htokens, hrest]
    simp [Info.token, hkind hx.word, hkind hx.opening, hkind hx.closing]
  rw [VirtualNode.span]
  simp only [hopening, hclosing]
  rfl

theorem eq_alternative_of_ofField? {field : String} (h : Role.ofField? field = some .alternative) :
    field = "alternative" := by
  unfold Role.ofField? at h
  split at h <;> first | rfl | cases h

theorem Depicts.role_of_if (h : t.Depicts o image) (ho : t.toOutline source path = .ok o) (hy : t.spot.at? p = some y)
    (hkind : y.kind = .ifStatement) (hc : Site.ofChild keyword c ∈ ifSites none y.tree.children.zipIdx)
    (hmem : c ∈ y.tree.children.zipIdx) (hfield : c.1.info.field ≠ some "alternative") :
    (o.node (image (p ++ [c.2]))).role ≠ some .alternative := by
  obtain ⟨z, hz, _, _, hz'⟩ := h.exists_child ho hy hkind hc hmem
  rw [(h.label ho hz).2.1]
  intro hrole
  rw [Option.bind_eq_some_iff] at hrole
  obtain ⟨field, heq, hrole⟩ := hrole
  rw [eq_alternative_of_ofField? hrole] at heq
  cases hz' with
  | inl hnone =>
    rw [hnone] at heq
    cases heq
  | inr hsome =>
    rw [hsome] at heq
    exact hfield heq

/-- The clause around an alternative. -/
theorem Depicts.exists_clause (h : t.Depicts o image) (hy : t.spot.at? p = some y) (hkind : y.kind = .ifStatement)
    {token : Token} (hc : Site.ofChild (some token) c ∈ ifSites none y.tree.children.zipIdx) :
    ∃ e ∈ o.children (image p), e = ((Site.ofChild (some token) c).below p).top image ∧ o.kind e = .elseClause ∧
      o.children e = [image (p ++ [c.2])] ∧ o.parent? (image (p ++ [c.2])) = some e := by
  obtain ⟨_, e, heq, hparent, _, hchildren, hclause, _⟩ := h.hangs_of_if hy hkind hc
  have htop : e = ((Site.ofChild (some token) c).below p).top image := by
    change e = image (p ++ [c.2]) - 1
    omega
  refine ⟨e, ?_, htop, hclause, hchildren, hparent⟩
  rw [h.children_of_if hy hkind, htop]
  exact List.mem_map_of_mem (f := fun site => (Site.below p site).top image) hc

theorem Depicts.not_clause_of_if (h : t.Depicts o image) (hy : t.spot.at? p = some y) (hkind : y.kind = .ifStatement)
    (hc : Site.ofChild keyword c ∈ ifSites none y.tree.children.zipIdx) :
    o.kind (image (p ++ [c.2])) ≠ .elseClause := by
  rw [(h.hangs_of_if hy hkind hc).1]
  exact NodeKind.ofGrammar_ne_elseClause _ _

/-- The children are the condition, the body and the clause, and under the clause is only the alternative. -/
theorem Depicts.child_cases (h : t.Depicts o image) (hy : t.spot.at? p = some y) (hkind : y.kind = .ifStatement)
    (hx : x.Among y.tree.children) (hregular : x.Regular) {e : Nat} (he : e ∈ o.children (image p)) :
    (∃ t ∈ [x.condition, x.body], e = image (p ++ [t.2]) ∧ o.kind e ≠ .elseClause) ∨
      ∃ a ∈ x.alternative, o.kind e = .elseClause ∧ o.children e = [image (p ++ [a.2.2])] := by
  rw [h.children_of_if hy hkind, List.mem_map] at he
  obtain ⟨site, hsite, heq⟩ := he
  have hcases := hsite
  rw [hx.ifSites_eq hregular, List.mem_cons, List.mem_cons, Option.mem_toList, Option.map_eq_some_iff] at hcases
  obtain hcondition | hbody | ⟨a, ha, halternative⟩ := hcases
  . subst hcondition heq
    exact .inl ⟨x.condition, by simp, rfl, h.not_clause_of_if hy hkind hsite⟩
  . subst hbody heq
    exact .inl ⟨x.body, by simp, rfl, h.not_clause_of_if hy hkind hsite⟩
  . subst halternative
    obtain ⟨e', _, htop, hclause, hchildren, _⟩ := h.exists_clause hy hkind hsite
    rw [← htop] at heq
    subst heq
    exact .inr ⟨a, ha, hclause, hchildren⟩

theorem Depicts.isBystander (h : t.Depicts o image) (hy : t.spot.at? p = some y) (hkind : y.kind = .ifStatement)
    (hx : x.Among y.tree.children) (hregular : x.Regular) {i : Nat}
    (hi : i ∈ o.children (image p) ∨ ∃ e ∈ o.children (image p), o.kind e = .elseClause ∧ i ∈ o.children e)
    (hother : ∀ t ∈ x.condition :: x.body :: (x.alternative.map (·.2)).toList, i ≠ image (p ++ [t.2])) :
    Registry.IsBystander o i := by
  cases hi with
  | inl hchild =>
    cases h.child_cases hy hkind hx hregular hchild with
    | inl hpart =>
      obtain ⟨t, ht, heq, _⟩ := hpart
      exact absurd heq (hother t (List.mem_append_left _ ht))
    | inr hclause =>
      obtain ⟨_, _, hclause, _⟩ := hclause
      exact Registry.isBystander_of_elseClause hclause
  | inr hgrandchild =>
    obtain ⟨e, he, hclause, hi⟩ := hgrandchild
    cases h.child_cases hy hkind hx hregular he with
    | inl hpart =>
      obtain ⟨_, _, _, hne⟩ := hpart
      exact absurd hclause hne
    | inr hunder =>
      obtain ⟨a, ha, _, hchildren⟩ := hunder
      rw [hchildren, List.mem_singleton] at hi
      rw [Option.mem_def] at ha
      exact absurd hi (hother a.2 (by simp [ha]))

/-- The parts of one `if` are routed as they should be. -/
theorem Depicts.routesIf (h : t.Depicts o image) (ho : t.toOutline source path = .ok o) (hy : t.spot.at? p = some y)
    (hkind : y.kind = .ifStatement) (hx : x.Among y.tree.children) (hregular : x.Regular) : RoutesIf o image p x := by
  have hsites := hx.ifSites_eq hregular
  have hcondition : Site.ofChild none x.condition ∈ ifSites none y.tree.children.zipIdx := by simp [hsites]
  have hbody : Site.ofChild none x.body ∈ ifSites none y.tree.children.zipIdx := by simp [hsites]
  have halternative := fun a => hx.mem_ifSites hregular (a := a)
  obtain ⟨hif, _, htokens⟩ := h.label ho hy
  rw [hkind] at hif htokens
  obtain ⟨hkindC, hparentC⟩ := h.hangs_of_if hy hkind hcondition
  obtain ⟨hkindS, hparentS⟩ := h.hangs_of_if hy hkind hbody
  refine ⟨?_, span_of_if htokens hx hregular _, ?_, ?_, ?_⟩
  . refine Registry.resolve_ifCondition ?_ hparentC hif
    rw [hkindC]
    exact kind_ofChild hx.condition
  . have hmem := hx.mem_zipIdx x.body (by simp [IfParts.list])
    refine Registry.resolve_ifBody ?_ (h.role_of_if ho hy hkind hbody hmem hregular.field) hparentS hif
    rw [hkindS]
    exact kind_ofChild hx.body
  . intro a ha
    obtain ⟨e, he, _, hclause, _, hparent⟩ := h.exists_clause hy hkind (halternative a ha)
    refine ⟨e, he, hclause, Registry.resolve_elseBody ?_ hparent hclause⟩
    rw [(h.hangs_of_if hy hkind (halternative a ha)).1]
    exact kind_ofChild (hx.alternative a ha)
  . intro i hi hother
    exact h.isBystander hy hkind hx hregular hi hother

/-- The `if`s of a chain and the ways to them. Each one but the first is the alternative of the one before. -/
inductive IfChain : List Nat → Concrete → List (List Nat × IfParts) → Prop
  | last {p : List Nat} {t : Concrete} {x : IfParts} : x.Among t.children → x.Regular → IfChain p t [(p, x)]
  | link {p : List Nat} {t : Concrete} {x : IfParts} {a : (Concrete × Nat) × (Concrete × Nat)}
      {links : List (List Nat × IfParts)} : x.Among t.children → x.Regular → a ∈ x.alternative →
      a.2.1.info.kind = "if_statement" → IfChain (p ++ [a.2.2]) a.2.1 links → IfChain p t ((p, x) :: links)

theorem head?_of_ifChain {links : List (List Nat × IfParts)} (h : IfChain p t links) :
    ∀ link ∈ links.head?, link.1 = p := by
  cases h with
  | last => simp
  | link => simp

/-- Each `if` of a chain is routed as it should be, and is the body of the `else` before it. -/
theorem Depicts.routesIf_of_chain (h : t.Depicts o image) (ho : t.toOutline source path = .ok o)
    {s : Concrete} {links : List (List Nat × IfParts)} (hchain : IfChain p s links) (hy : t.spot.at? p = some y)
    (hs : y.tree = s) (hkind : y.kind = .ifStatement) :
    (∀ link ∈ links, RoutesIf o image link.1 link.2) ∧
      links.IsChain fun previous link => IsElseBody o (image previous.1) (image link.1) := by
  -- Induction on the chain: the alternative is at the end of its path again, and is an `if` there.
  induction hchain generalizing y with
  | last hx hregular =>
    subst hs
    simp [h.routesIf ho hy hkind hx hregular]
  | @link p s x a links hx hregular ha hif hchain ih =>
    subst hs
    have hroutes := h.routesIf ho hy hkind hx hregular
    obtain ⟨z, hz, htree, hzkind, _⟩ :=
      h.exists_child ho hy hkind (hx.mem_ifSites hregular ha) (hx.mem_zipIdx a.2 (IfParts.mem_list ha))
    have hzif : z.kind = .ifStatement := by
      rw [hzkind]
      unfold Spot.kind kindAt Spot.ofChild
      rw [hif]
      rfl
    obtain ⟨hrest, helse⟩ := ih hz htree hzif
    refine ⟨List.forall_mem_cons.mpr ⟨hroutes, hrest⟩, List.isChain_cons.mpr ⟨?_, helse⟩⟩
    intro link hlink
    rw [head?_of_ifChain hchain link hlink]
    exact hroutes.alternative a ha

/--
The condition, the body and the alternative of every `if` outside types are routed to what they are, and nothing else at
the `if` is. In a chain this holds of each `if`, and each one is the body of the `else` before it.
-/
theorem toOutline_routesIf (t : Concrete) (source : String) (path : Option String) :
    ((∀ s ∈ t.subtrees, s.info.IsSlice source) → ∃ o, t.toOutline source path = .ok o) ∧
      ∀ o, t.toOutline source path = .ok o → ∃ image, t.Depicts o image ∧
        ∀ p y, t.spot.at? p = some y → y.tree.info.kind = "if_statement" →
          (y.inType || isTypeField y.field) = false →
          (∀ x : IfParts, x.Among y.tree.children → x.Regular → RoutesIf o image p x) ∧
          ∀ links, IfChain p y.tree links → (∀ link ∈ links, RoutesIf o image link.1 link.2) ∧
            links.IsChain fun previous link => IsElseBody o (image previous.1) (image link.1) := by
  refine ⟨fun h => exists_toOutline h path, ?_⟩
  intro o ho
  obtain ⟨image, himage⟩ := exists_depicts ho
  refine ⟨image, himage, ?_⟩
  intro p y hy hgrammar htype
  have hkind : y.kind = .ifStatement := by
    unfold Spot.kind kindAt
    rw [hgrammar, htype]
    rfl
  constructor
  . intro x hx hregular
    exact himage.routesIf ho hy hkind hx hregular
  . intro links hlinks
    exact himage.routesIf_of_chain ho hlinks hy rfl hkind

end Depicts

section Inputs

/-- The parts of `if(a)b;`, from the given place on. -/
def plainIf (start : Nat) : IfParts :=
  { word := (onLine "if" start (start + 2) [] none false, 0)
    opening := (onLine "(" (start + 2) (start + 3) [] none false, 1)
    condition := (onLine "identifier" (start + 3) (start + 4) [] (some "condition") true, 2)
    closing := (onLine ")" (start + 4) (start + 5) [] none false, 3)
    body := (onLine "expression_statement" (start + 5) (start + 7) [] (some "consequence") true, 4)
    alternative := none }

/-- The `if` with the given parts, from one place to another. -/
def IfParts.tree (x : IfParts) (start stop : Nat) (field : Option String) : Concrete :=
  onLine "if_statement" start stop (x.list.map Prod.fst) field true

/-- A file with nothing but the `if` with the given parts. -/
def IfParts.file (x : IfParts) (stop : Nat) : Concrete :=
  onLine "compilation_unit" 0 stop [x.tree 0 stop none] none true

/-- The parts of `if(a)b;else if(a)b;`. -/
def chainedIf : IfParts :=
  { plainIf 0 with
    alternative := some ((onLine "else" 7 11 [] none false, 5), ((plainIf 12).tree 12 19 (some "alternative"), 6)) }

theorem routesIf_chainedIf : ∃ o image,
    (chainedIf.file 19).toOutline "if(a)b;else if(a)b;" none = .ok o ∧ (chainedIf.file 19).Depicts o image ∧
    RoutesIf o image [0] chainedIf ∧ RoutesIf o image [0, 6] (plainIf 12) ∧
    IsElseBody o (image [0]) (image [0, 6]) := by
  obtain ⟨hexists, hroutes⟩ := toOutline_routesIf (chainedIf.file 19) "if(a)b;else if(a)b;" none
  obtain ⟨o, ho⟩ := hexists (by decide +kernel)
  obtain ⟨image, himage, hroutes⟩ := hroutes o ho
  have hlast : IfChain [0, 6] ((plainIf 12).tree 12 19 (some "alternative")) [([0, 6], plainIf 12)] := by
    refine .last ⟨rfl, rfl, rfl, rfl, rfl, rfl, ?_, ?_⟩ ⟨?_, rfl, rfl, ?_, ?_⟩
    all_goals decide
  have hchain : IfChain [0] (chainedIf.tree 0 19 none) [([0], chainedIf), ([0, 6], plainIf 12)] := by
    refine IfChain.link ⟨rfl, rfl, rfl, rfl, rfl, rfl, ?_, ?_⟩ ⟨?_, rfl, rfl, ?_, ?_⟩
      (Option.mem_some_self _) rfl hlast
    all_goals decide
  obtain ⟨hlinks, helse⟩ := (hroutes [0] ⟨none, false, chainedIf.tree 0 19 none⟩ rfl rfl rfl).2 _ hchain
  simp only [List.forall_mem_cons] at hlinks
  exact ⟨o, image, ho, himage, hlinks.1, hlinks.2.1, (List.isChain_cons_cons.mp helse).1⟩

/-- The parts of `if(this)b;`. The grammar has `this` as a token. -/
def ifThis : IfParts :=
  { plainIf 0 with
    condition := (onLine "this" 3 7 [] (some "condition") false, 2)
    closing := (onLine ")" 7 8 [] none false, 3)
    body := (onLine "expression_statement" 8 10 [] (some "consequence") true, 4) }

/-- The parts of `if(a b;`, to which the parser has added a parenthesis. -/
def unclosedIf : IfParts :=
  let span := { start := .ofByte [] 4, stop := .ofByte [] 4 }
  { plainIf 0 with closing := (.node { kind := ")", isNamed := false, isMissing := true, span } [], 3) }

/-- The parts of `if(a)b;`, but the body is in the field of the alternative. -/
def crossedIf : IfParts :=
  { plainIf 0 with body := (onLine "expression_statement" 5 7 [] (some "alternative") true, 4) }

/-- These are the parts of an `if` that is not routed by them. -/
def IfParts.Strays (x : IfParts) (source : String) (stop : Nat) : Prop :=
  x.Among (x.tree 0 stop none).children ∧
    ∃ o image, (x.file stop).toOutline source none = .ok o ∧ (x.file stop).Depicts o image ∧ ¬ RoutesIf o image [0] x

theorem IfParts.strays {x : IfParts} {source : String} {stop : Nat} (hx : x.Among (x.tree 0 stop none).children)
    (hslices : ∀ s ∈ (x.file stop).subtrees, s.info.IsSlice source)
    (h : ∀ o image, (x.file stop).toOutline source none = .ok o → (x.file stop).Depicts o image →
      ¬ RoutesIf o image [0] x) : x.Strays source stop := by
  obtain ⟨o, ho⟩ := exists_toOutline hslices none
  obtain ⟨image, himage⟩ := exists_depicts ho
  exact ⟨hx, o, image, ho, himage, h o image ho himage⟩

theorem strays_ifThis : ifThis.Strays "if(this)b;" 10 := by
  refine IfParts.strays ⟨rfl, rfl, rfl, rfl, rfl, rfl, by decide, by decide⟩ (by decide +kernel) ?_
  intro o image ho himage hroutes
  have hy : (ifThis.file 10).spot.at? [0] = some ⟨none, false, ifThis.tree 0 10 none⟩ := rfl
  have happlies := Registry.applies_of_resolve (r := Rule.ifCondition) (by simp [Rule.specific]) rfl hroutes.condition
  obtain ⟨q, hq, hv⟩ := Rule.ifCondition_synthesize happlies
  have hresolve := Registry.resolve_of_specific (by simp [Rule.specific]) happlies hv
  rw [hroutes.condition] at hresolve
  cases hresolve
  -- The only child is the body.
  have hmem := (wellFormed_of_toOutline ho).toLinked.mem_children.mpr hq
  rw [himage.children_of_if hy rfl] at hmem
  have heq := List.mem_singleton.mp hmem
  have hexpression := (Rule.ifCondition_applies.mp happlies).1
  have hbody : (ifThis.file 10).spot.at? [0, 4] = some ⟨some "consequence", false, ifThis.body.1⟩ := rfl
  rw [heq] at hexpression
  change (o.kind (image [0, 4])).isExpression = true at hexpression
  rw [(himage.label ho hbody).1] at hexpression
  cases hexpression

theorem strays_unclosedIf : unclosedIf.Strays "if(a b;" 7 := by
  refine IfParts.strays ⟨rfl, rfl, rfl, rfl, rfl, rfl, by decide, by decide⟩ (by decide +kernel) ?_
  intro o image ho himage hroutes
  have hy : (unclosedIf.file 7).spot.at? [0] = some ⟨none, false, unclosedIf.tree 0 7 none⟩ := rfl
  have hopening : o.token? (image [0]) "(" = some unclosedIf.opening.1.info.token := by
    rw [Outline.token?, (himage.label ho hy).2.2]
    rfl
  have hclosing : o.token? (image [0]) ")" = none := by
    rw [Outline.token?, (himage.label ho hy).2.2]
    rfl
  -- Without the closing parenthesis the span is that of the condition.
  have hspan := hroutes.span
  rw [VirtualNode.span] at hspan
  simp only [hopening, hclosing] at hspan
  have hsite : Site.ofChild none unclosedIf.condition ∈ ifSites none (unclosedIf.tree 0 7 none).children.zipIdx :=
    List.mem_cons_self
  have hstart : (o.span (image [0, 2])).start = .ofByte [] 3 := (himage.fits _ (mem_sites_of_if hy rfl hsite)).start
  have hstart' : (o.span (image [0, 2])).start = .ofByte [] 2 := congrArg Span.start hspan
  rw [hstart'] at hstart
  exact absurd hstart (by decide)

theorem strays_crossedIf : crossedIf.Strays "if(a)b;" 7 := by
  refine IfParts.strays ⟨rfl, rfl, rfl, rfl, rfl, rfl, by decide, by decide⟩ (by decide +kernel) ?_
  intro o image ho himage hroutes
  have hy : (crossedIf.file 7).spot.at? [0, 4] = some ⟨some "alternative", false, crossedIf.body.1⟩ := rfl
  have happlies := Registry.applies_of_resolve (r := Rule.ifBody) (by simp [Rule.specific]) rfl hroutes.body
  exact (Rule.ifBody_applies.mp happlies).2.1 (himage.label ho hy).2.1

/-- A condition that is a token, a parenthesis that is not in the text and the wrong field each make a difference. -/
theorem strays_irregular :
    ifThis.Strays "if(this)b;" 10 ∧ unclosedIf.Strays "if(a b;" 7 ∧ crossedIf.Strays "if(a)b;" 7 :=
  ⟨strays_ifThis, strays_unclosedIf, strays_crossedIf⟩

end Inputs

end Concrete
end StructuralSearch
