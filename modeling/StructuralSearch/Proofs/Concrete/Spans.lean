import StructuralSearch.Proofs.Concrete.Origin
import StructuralSearch.Proofs.Concrete.Retained
import StructuralSearch.Proofs.Outline.Spacing

/-!
This module contains how the spans of an outline lie in one another. Those from a parser do; the lowering stretches the
span of a namespace, makes one for the clause around an alternative, and records tokens on nodes.
-/

namespace StructuralSearch

open StructuralSearch.Span (InOrder)

namespace Concrete

/-- All places at which a node starts or ends. -/
def positions (t : Concrete) : List Position :=
  t.subtrees.flatMap fun s => [s.info.span.start, s.info.span.stop]

/-- The ranges that a parser gives to nodes. -/
structure Ranged (t : Concrete) : Prop where
  /-- Nodes do not end before they start. -/
  upright : ∀ s ∈ t.subtrees, s.info.span.start.byte ≤ s.info.span.stop.byte
  /-- Children lie in their parents. -/
  inside : ∀ s ∈ t.subtrees, ∀ c ∈ s.children,
    s.info.span.start.byte ≤ c.info.span.start.byte ∧ c.info.span.stop.byte ≤ s.info.span.stop.byte
  /-- Siblings follow one another. -/
  ordered : ∀ s ∈ t.subtrees, ∀ x ∈ s.children.zip s.children.tail,
    x.1.info.span.stop.byte ≤ x.2.info.span.start.byte
  /-- Rows and columns tell the same as byte offsets. -/
  agrees : ∀ p ∈ t.positions, ∀ q ∈ t.positions, p.le q = decide (p.byte ≤ q.byte)

/-- The same by rows and columns: at every node the children follow one another in the span of the node. -/
structure Tidy (t : Concrete) : Prop where
  upright : ∀ s ∈ t.subtrees, s.info.span.start.le s.info.span.stop = true
  inOrder : ∀ s ∈ t.subtrees, InOrder s.info.span.stop s.info.span.start (s.children.map (·.info.span))

theorem start_mem_positions {s t : Concrete} (hs : s ∈ t.subtrees) : s.info.span.start ∈ t.positions := by
  unfold positions
  rw [List.mem_flatMap]
  exact ⟨s, hs, by simp⟩

theorem stop_mem_positions {s t : Concrete} (hs : s ∈ t.subtrees) : s.info.span.stop ∈ t.positions := by
  unfold positions
  rw [List.mem_flatMap]
  exact ⟨s, hs, by simp⟩

theorem Ranged.le {t : Concrete} {p q : Position} (h : t.Ranged) (hp : p ∈ t.positions) (hq : q ∈ t.positions)
    (hle : p.byte ≤ q.byte) : p.le q = true := by
  rw [h.agrees p hp q hq, decide_eq_true_eq]
  exact hle

theorem Ranged.inOrder {t : Concrete} (h : t.Ranged) {lo hi : Position} (hlo : lo ∈ t.positions)
    (hhi : hi ∈ t.positions) {cs : List Concrete} (hcs : ∀ c ∈ cs, c ∈ t.subtrees)
    (hfirst : ∀ c, cs.head? = some c → lo.byte ≤ c.info.span.start.byte)
    (hinside : ∀ c ∈ cs, c.info.span.stop.byte ≤ hi.byte)
    (hordered : ∀ x ∈ cs.zip cs.tail, x.1.info.span.stop.byte ≤ x.2.info.span.start.byte) :
    InOrder hi lo (cs.map (·.info.span)) := by
  induction cs generalizing lo with
  | nil => trivial
  | cons c cs ih =>
    rw [List.forall_mem_cons] at hcs hinside
    have hstart := start_mem_positions hcs.1
    have hstop := stop_mem_positions hcs.1
    refine ⟨h.le hlo hstart (hfirst c rfl), h.le hstart hstop (h.upright c hcs.1), h.le hstop hhi hinside.1, ?_⟩
    apply ih hstop hcs.2 _ hinside.2
    . intro x hx
      apply hordered
      cases cs with
      | nil => cases hx
      | cons d cs => exact List.mem_cons_of_mem _ hx
    . intro d hd
      cases cs with
      | nil => cases hd
      | cons d' cs =>
        cases hd
        exact hordered (c, d) List.mem_cons_self

theorem Ranged.tidy {t : Concrete} (h : t.Ranged) : t.Tidy where
  upright := by
    intro s hs
    exact h.le (start_mem_positions hs) (stop_mem_positions hs) (h.upright s hs)
  inOrder := by
    intro s hs
    apply h.inOrder (start_mem_positions hs) (stop_mem_positions hs) _ _ _ (h.ordered s hs)
    . intro c hc
      exact mem_subtrees_of_mem_children hs hc
    . intro c hc
      exact (h.inside s hs c (List.mem_of_head? hc)).1
    . intro c hc
      exact (h.inside s hs c hc).2

section Kids

variable {source : String} {inType inFile : Bool} {kind : NodeKind} {keyword : Option Token} {lo hi : Position}
  {cs : List Concrete} {lowered : List Branch}

/-- The span that a child has in the end: a clause starts at its keyword. -/
def Kid.outer (k : Kid) : Span :=
  { k.span with start := k.keyword.elim k.span.start (·.span.start) }

theorem Kid.span_of_lower {k : Kid} {b : Branch} (h : k.lower source inType = .ok b) : b.label.span = k.outer := by
  obtain ⟨own, first, hparts, hb⟩ := Kid.lower_ok h
  have hextends := extends_of_lowerParts hparts
  unfold Kid.outer
  cases hkeyword : k.keyword with
  | none =>
    rw [hkeyword] at hb hextends
    rw [hb, Option.elim, Branch.label, hextends]
    rfl
  | some token =>
    rw [hkeyword] at hb
    rw [hb]
    rfl

theorem outer_bounds {s : Span} {ss : List Span} (h : InOrder hi lo (keyword.toList.map (·.span) ++ s :: ss)) :
    lo.le (keyword.elim s.start (·.span.start)) = true ∧ (keyword.elim s.start (·.span.start)).le s.stop = true ∧
      s.stop.le hi = true ∧ InOrder hi s.stop ss := by
  cases keyword with
  | none => exact h
  | some token =>
    obtain ⟨hlo, hup, _, hnext, hup', hhi, hrest⟩ := h
    exact ⟨hlo, Position.le_trans hup (Position.le_trans hnext hup'), hhi, hrest⟩

theorem lowered_inOrder (hopens : ∀ c, opensFile kind inFile c = false)
    (h : (kids hi kind keyword inFile cs).mapM (Kid.lower source inType) = .ok lowered)
    (horder : InOrder hi lo (keyword.toList.map (·.span) ++ cs.map (·.info.span))) :
    InOrder hi lo (lowered.map (·.label.span)) := by
  -- Induction on the children: what is left starts at `lo`, with the keyword that waits before it.
  induction cs generalizing keyword lo lowered with
  | nil =>
    cases h
    trivial
  | cons t cs ih =>
    obtain ⟨c, below⟩ := t
    have hskip : InOrder hi lo (keyword.toList.map (·.span) ++ cs.map (·.info.span)) := by
      apply horder.sublist
      simp
    unfold kids at h
    cases hfate : c.fate kind with
    | dropped | modifier | name =>
      simp only [hfate] at h
      exact ih h hskip
    | token =>
      simp only [hfate] at h
      cases helse : isElse kind c with
      | true =>
        rw [helse, if_pos rfl] at h
        refine ih h (horder.sublist ?_)
        simp [Info.token, Concrete.info]
      | false =>
        rw [helse, if_neg Bool.false_ne_true] at h
        exact ih h hskip
    | kept =>
      simp only [hfate, hopens c, Bool.false_eq_true, if_false, List.mapM_cons, bind_eq_ok] at h
      obtain ⟨b, hb, rest, hrest, h⟩ := h
      cases h
      obtain ⟨hlo, hup, hhi, hnext⟩ := outer_bounds horder
      rw [List.map_cons, Kid.span_of_lower hb]
      exact ⟨hlo, hup, hhi, ih hrest hnext⟩

/-- A namespace for the rest of the file reaches to the end of what it is in. -/
def Reaches (hi : Position) (label : Label) : Prop :=
  label.grammarKind = "file_scoped_namespace_declaration" → label.span.stop = hi

theorem adopt_inOrder (horder : InOrder hi lo (cs.map (·.info.span)))
    (h : (kids hi .compilationUnit none false cs).mapM (Kid.lower source inType) = .ok lowered) :
    InOrder hi lo ((adopt lowered).map (·.label.span)) ∧ ∀ b ∈ adopt lowered, Reaches hi b.label := by
  -- The first namespace for the rest of the file takes in all that follows it.
  induction cs generalizing lo lowered with
  | nil =>
    cases h
    exact ⟨trivial, by simp [adopt]⟩
  | cons t cs ih =>
    obtain ⟨c, below⟩ := t
    unfold kids at h
    cases hfate : c.fate .compilationUnit with
    | dropped | modifier | name | token =>
      simp only [hfate] at h
      exact ih horder.tail h
    | kept =>
      simp only [hfate] at h
      obtain ⟨hlo, hup, hhi, hnext⟩ := horder
      cases hopens : opensFile .compilationUnit false c with
      | true =>
        simp only [hopens, if_true, List.mapM_cons, bind_eq_ok] at h
        obtain ⟨b, hb, rest, hrest, h⟩ := h
        cases h
        rw [adopt_of_file (by rw [grammarKind_of_lower hb]; exact (isFile_of_opensFile hopens).2.1), List.map_singleton,
          List.forall_mem_singleton, Branch.label]
        have hspan : b.label.span = { start := c.span.start, stop := hi } := Kid.span_of_lower hb
        unfold Reaches
        rw [hspan]
        exact ⟨⟨hlo, Position.le_trans hup hhi, Position.le_refl _, trivial⟩, fun _ => rfl⟩
      | false =>
        simp only [hopens, Bool.false_eq_true, if_false, List.mapM_cons, bind_eq_ok] at h
        obtain ⟨b, hb, rest, hrest, h⟩ := h
        cases h
        have hno : b.label.grammarKind ≠ "file_scoped_namespace_declaration" := by
          rw [grammarKind_of_lower hb]
          exact not_isFile_of_not_opensFile hopens
        obtain ⟨hinOrder, hreaches⟩ := ih hnext hrest
        rw [adopt_of_not_file hno, List.map_cons, Kid.span_of_lower hb, List.forall_mem_cons]
        exact ⟨⟨hlo, hup, hhi, hinOrder⟩, fun hfile => absurd hfile hno, hreaches⟩

end Kids

section Parts

variable {source : String} {t s : Concrete} {field : Option String} {inType : Bool} {span : Span} {own : Label}
  {first : List Branch}

theorem first_inOrder (ht : t.Tidy) (hs : s ∈ t.subtrees)
    (h : lowerParts source field inType span s = .ok (own, first)) :
    InOrder s.info.span.stop s.info.span.start (first.map (·.label.span)) := by
  obtain ⟨_, lowered, hlowered, hfirst⟩ := lowerParts_ok h
  have horder := ht.inOrder s hs
  rw [hfirst]
  by_cases hunit : s.kindAt field inType = .compilationUnit
  . rw [hunit] at hlowered ⊢
    exact (adopt_inOrder horder hlowered).1
  . rw [if_neg (by simpa using hunit)]
    exact lowered_inOrder (opensFile_of_ne hunit) hlowered horder

theorem first_reaches (ht : t.Tidy) (hs : s ∈ t.subtrees)
    (h : lowerParts source field inType span s = .ok (own, first)) (hkind : own.kind = .compilationUnit) :
    ∀ b ∈ first, Reaches s.info.span.stop b.label := by
  obtain ⟨_, lowered, hlowered, hfirst⟩ := lowerParts_ok h
  rw [kind_of_lowerParts h] at hkind
  rw [hkind] at hlowered hfirst
  rw [hfirst]
  exact (adopt_inOrder (ht.inOrder s hs) hlowered).2

theorem exists_of_mem_tokens (h : lowerParts source field inType span s = .ok (own, first)) :
    ∀ token ∈ own.tokens, ∃ c ∈ s.children, token = c.info.token := by
  intro token htoken
  rw [extends_of_lowerParts h] at htoken
  cases mem_ownTokens htoken with
  | inl hnone => cases hnone
  | inr hex =>
    obtain ⟨c, hc, _, heq⟩ := hex
    exact ⟨c, hc, heq⟩

theorem tokens_within (ht : t.Tidy) (hs : s ∈ t.subtrees)
    (h : lowerParts source field inType span s = .ok (own, first)) :
    ∀ token ∈ own.tokens, token.span.Within s.info.span := by
  intro token htoken
  obtain ⟨c, hc, heq⟩ := exists_of_mem_tokens h token htoken
  subst heq
  exact (ht.inOrder s hs).bounds _ (List.mem_map_of_mem hc)

end Parts

section Origin

variable {source : String} {t : Concrete} {b : Branch}

theorem nests_of_origin (ht : t.Tidy) (hb : Origin source t b) : Nests b.label (b.children.map Branch.label) := by
  cases hb with
  | @node s _ _ own first hs hparts =>
    constructor
    . rw [Branch.label, span_of_lowerParts hparts]
      exact ht.upright s hs
    . rw [Branch.label, span_of_lowerParts hparts, List.map_map]
      exact first_inOrder ht hs hparts
    . rw [Branch.label, span_of_lowerParts hparts]
      exact tokens_within ht hs hparts
  | @clause s keyword c _ own first hs _ hsub hparts =>
    -- The clause reaches from the keyword to the end of the alternative.
    obtain ⟨_, hup, _, hnext, hup', _, _⟩ := (ht.inOrder s hs).sublist (hsub.map (·.info.span))
    constructor
    . exact Position.le_trans hup (Position.le_trans hnext hup')
    . change InOrder c.info.span.stop keyword.info.span.start [own.span]
      rw [span_of_lowerParts hparts]
      exact ⟨Position.le_trans hup hnext, hup', Position.le_refl _, trivial⟩
    . intro token htoken
      have heq : token = keyword.info.token := List.mem_singleton.mp htoken
      subst heq
      exact ⟨Position.le_refl _, Position.le_trans hnext hup'⟩
  | @file s c cs _ own first rest hs hsuffix hkind hparts hrest =>
    -- The children of the namespace itself lie in the span that it had.
    have hc : c ∈ t.subtrees := mem_subtrees_of_mem_children hs (hsuffix.subset List.mem_cons_self)
    obtain ⟨_, hup, hhi, hnext⟩ := (ht.inOrder s hs).sublist (hsuffix.sublist.map (·.info.span))
    have hwithin : c.info.span.Within { start := c.info.span.start, stop := s.info.span.stop } :=
      ⟨Position.le_refl _, hhi⟩
    constructor
    . rw [Branch.label, span_of_lowerParts hparts]
      exact Position.le_trans hup hhi
    . rw [Branch.label, span_of_lowerParts hparts, Branch.children, List.map_map, List.map_append]
      exact (first_inOrder ht hc hparts).append hhi hup (lowered_inOrder (opensFile_of_inFile _) hrest hnext)
    . rw [Branch.label, span_of_lowerParts hparts]
      intro token htoken
      exact (tokens_within ht hc hparts token htoken).trans hwithin

theorem among_of_lowerParts {s : Concrete} {field : Option String} {inType : Bool} {span : Span} {own : Label}
    {first : List Branch} (hs : s ∈ t.subtrees) (h : lowerParts source field inType span s = .ok (own, first))
    (hstart : span.start ∈ t.positions) (hstop : span.stop ∈ t.positions) : own.Among t.positions := by
  refine ⟨?_, ?_, ?_⟩
  . rw [span_of_lowerParts h]
    exact hstart
  . rw [span_of_lowerParts h]
    exact hstop
  . intro token htoken
    obtain ⟨c, hc, heq⟩ := exists_of_mem_tokens h token htoken
    subst heq
    have hmem := mem_subtrees_of_mem_children hs hc
    exact ⟨start_mem_positions hmem, stop_mem_positions hmem⟩

theorem among_of_origin (hb : Origin source t b) : b.label.Among t.positions := by
  cases hb with
  | node hs hparts => exact among_of_lowerParts hs hparts (start_mem_positions hs) (stop_mem_positions hs)
  | @clause s keyword c _ own first hs _ hsub _ =>
    have hkeyword := mem_subtrees_of_mem_children hs (hsub.subset List.mem_cons_self)
    have hc := mem_subtrees_of_mem_children hs (hsub.subset (List.mem_cons_of_mem _ List.mem_cons_self))
    refine ⟨start_mem_positions hkeyword, stop_mem_positions hc, ?_⟩
    intro token htoken
    have heq : token = keyword.info.token := List.mem_singleton.mp htoken
    subst heq
    exact ⟨start_mem_positions hkeyword, stop_mem_positions hkeyword⟩
  | file hs hsuffix _ hparts _ =>
    have hc := mem_subtrees_of_mem_children hs (hsuffix.subset List.mem_cons_self)
    exact among_of_lowerParts hc hparts (start_mem_positions hc) (stop_mem_positions hs)

/-- A clause is from its keyword to the end of its only child. -/
def Clasps (label : Label) (children : List Label) : Prop :=
  label.kind = .elseClause → ∃ keyword alternative, keyword.text = "else" ∧ label.tokens = [keyword] ∧
    children = [alternative] ∧ label.span = { start := keyword.span.start, stop := alternative.span.stop }

theorem clasps_of_origin (hb : Origin source t b) : Clasps b.label (b.children.map Branch.label) := by
  intro hkind
  cases hb with
  | node hs hparts =>
    rw [Branch.label, kind_of_lowerParts hparts] at hkind
    exact absurd hkind (NodeKind.ofGrammar_ne_elseClause _ _)
  | @clause s keyword c _ own first _ helse _ hparts =>
    refine ⟨keyword.info.token, own, helse, rfl, rfl, ?_⟩
    rw [span_of_lowerParts hparts]
    rfl
  | file _ _ _ hparts _ =>
    rw [Branch.label, kind_of_lowerParts hparts] at hkind
    exact absurd hkind (NodeKind.ofGrammar_ne_elseClause _ _)

theorem ofGrammar_file_ne (inType : Bool) :
    NodeKind.ofGrammar "file_scoped_namespace_declaration" inType ≠ .compilationUnit := by
  cases inType with
  | false => decide
  | true => decide

/-- A namespace for the rest of the file that is a child of the whole file ends where the file ends. -/
def Closes (label : Label) (children : List Label) : Prop :=
  label.kind = .compilationUnit → ∀ child ∈ children, Reaches label.span.stop child

theorem closes_of_origin (ht : t.Tidy) (hb : Origin source t b) : Closes b.label (b.children.map Branch.label) := by
  intro hkind
  cases hb with
  | node hs hparts =>
    rw [Branch.label] at hkind
    rw [Branch.label, span_of_lowerParts hparts, List.forall_mem_map]
    exact first_reaches ht hs hparts hkind
  | clause => cases hkind
  | file _ _ hfile hparts _ =>
    rw [Branch.label, kind_of_lowerParts hparts, kindAt, hfile] at hkind
    exact absurd hkind (ofGrammar_file_ne _)

end Origin

section Outlines

variable {source : String} {path : Option String} {t : Concrete} {o : Outline}

theorem everywhere_of_origin {P : Label → List Label → Prop}
    (h : ∀ b, Origin source t b → P b.label (b.children.map Branch.label)) (ho : t.toOutline source path = .ok o) :
    o.Everywhere P := by
  rw [toOutline_eq, bind_eq_ok] at ho
  obtain ⟨b, hb, ho⟩ := ho
  intro i hi
  obtain ⟨s, hs, hlabel, hchildren⟩ := Outline.exists_subtree ho hi
  rw [hlabel, hchildren]
  exact h s (origin_of_lower hb s hs)

theorem wellFormed_of_toOutline (ho : t.toOutline source path = .ok o) : o.WellFormed := by
  rw [toOutline_eq, bind_eq_ok] at ho
  obtain ⟨b, _, ho⟩ := ho
  exact Branch.wellFormed_of_toOutline ho

/--
Where the ranges of a tree nest and follow one another, the spans of its outline do, by rows and columns and by byte
offsets. A clause is from its `else` to the end of the alternative, and a namespace for the rest of the file ends where
the file ends.
-/
theorem toOutline_spaced (h : t.Ranged) (ho : t.toOutline source path = .ok o) :
    o.Spaced Position.le ∧ o.Spaced (fun p q => decide (p.byte ≤ q.byte)) ∧
      (∀ e, e < o.size → o.kind e = .elseClause → ∃ keyword c, keyword.text = "else" ∧
        (o.node e).tokens = [keyword] ∧ o.children e = [c] ∧
        o.span e = { start := keyword.span.start, stop := (o.span c).stop }) ∧
      ∀ p, o.kind p = .compilationUnit → ∀ f ∈ o.children p,
        (o.node f).grammarKind = "file_scoped_namespace_declaration" → (o.span f).stop = (o.span p).stop := by
  have hwell := wellFormed_of_toOutline ho
  have hnests := everywhere_of_origin (fun _ => nests_of_origin h.tidy) ho
  have hspaced := (Outline.packed_of_nests hnests hwell.toLinked).spaced hwell
  refine ⟨hspaced, ?_, ?_, ?_⟩
  . have hps : o.Everywhere fun label _ => label.Among t.positions := everywhere_of_origin (fun _ => among_of_origin) ho
    refine hspaced.of_agrees hwell hps ?_
    intro p q hp hq hle
    rw [← h.agrees p hp q hq]
    exact hle
  . intro e he hkind
    obtain ⟨keyword, alternative, htext, htokens, hchildren, hspan⟩ :=
      everywhere_of_origin (fun _ => clasps_of_origin) ho e he hkind
    obtain ⟨c, hc, hlabel⟩ := List.map_eq_singleton_iff.mp hchildren
    subst hlabel
    exact ⟨keyword, c, htext, htokens, hc, hspan⟩
  . intro p hkind f hf
    have hp := Outline.lt_size_of_mem_children hwell.toLinked hf
    exact everywhere_of_origin (fun _ => closes_of_origin h.tidy) ho p hp hkind _ (List.mem_map_of_mem hf)

theorem spaced_fileWithElse : fileWithElse.Ranged ∧
    ∃ o, fileWithElse.toOutline "namespace N;if(a)b;else c;" none = .ok o ∧ o.Spaced Position.le ∧
      o.Spaced (fun p q => decide (p.byte ≤ q.byte)) ∧ (o.span 1).stop = (o.span 0).stop ∧
      o.span 5 = { start := .ofByte [] 19, stop := (o.span 6).stop } := by
  have hranged : fileWithElse.Ranged := ⟨by decide +kernel, by decide +kernel, by decide +kernel, by decide +kernel⟩
  refine ⟨hranged, ?_⟩
  have hnodes : (fileWithElse.toOutline "namespace N;if(a)b;else c;" none).toOption.any (fun o =>
      o.size == 7 && o.kind 0 == .compilationUnit && o.children 0 == [1] &&
        (o.node 1).grammarKind == "file_scoped_namespace_declaration" && o.kind 5 == .elseClause &&
        o.children 5 == [6] && (o.node 5).tokens.map (·.span.start) == [.ofByte [] 19]) = true := by
    decide +kernel
  cases ho : fileWithElse.toOutline "namespace N;if(a)b;else c;" none with
  | error e =>
    rw [ho] at hnodes
    cases hnodes
  | ok o =>
    simp only [ho, Except.toOption, Option.any_some, Bool.and_eq_true, beq_iff_eq] at hnodes
    obtain ⟨⟨⟨⟨⟨⟨hsize, hunit⟩, hfile⟩, hgrammar⟩, hclause⟩, halternative⟩, hkeyword⟩ := hnodes
    obtain ⟨hspaced, hbytes, hclauses, hends⟩ := toOutline_spaced hranged ho
    refine ⟨o, rfl, hspaced, hbytes, ?_, ?_⟩
    . apply hends 0 hunit 1 _ hgrammar
      rw [hfile]
      exact List.mem_cons_self
    . obtain ⟨keyword, c, _, htokens, hchildren, hspan⟩ := hclauses 5 (by omega) hclause
      rw [htokens, List.map_singleton, List.singleton_inj] at hkeyword
      cases halternative.symm.trans hchildren
      rw [← hkeyword]
      exact hspan

end Outlines

end Concrete
end StructuralSearch
