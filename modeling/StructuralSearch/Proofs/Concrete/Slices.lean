import StructuralSearch.Proofs.Concrete.Names
import StructuralSearch.Proofs.Concrete.Placement
import StructuralSearch.Proofs.FullName
import StructuralSearch.Proofs.Text

/-!
This module contains the texts of the nodes of an outline. Where the nodes of a tree start and end between characters,
those of its outline do, and the text of a node is a part of the text of its parent.
-/

namespace StructuralSearch

namespace Span

variable {source text above : String} {s a b : Span}

/-- Lies in the other span by byte offsets. -/
def IsPart (a b : Span) : Prop :=
  b.start.byte ≤ a.start.byte ∧ a.stop.byte ≤ b.stop.byte

/-- The span is in the source, and the text is what the source has there. -/
structure Cuts (source : String) (s : Span) (text : String) : Prop where
  upright : s.start.byte ≤ s.stop.byte
  inside : s.stop.byte ≤ Text.byteLength source.toList
  occurs : Text.OccursAt text.toList s.start.byte source.toList
  length : Text.byteLength text.toList = s.byteLength

theorem Cuts.start_add (h : s.Cuts source text) : s.start.byte + Text.byteLength text.toList = s.stop.byte := by
  rw [h.length, byteLength, Nat.add_sub_cancel' h.upright]

theorem Cuts.sliceBytes?_eq (h : s.Cuts source text) :
    Text.sliceBytes? s.start.byte s.stop.byte source.toList = some text.toList := by
  rw [← h.start_add]
  exact Text.sliceBytes?_eq h.occurs

theorem Cuts.sliceText_eq (h : s.Cuts source text) : sliceText source s.start.byte s.stop.byte = .ok text := by
  have hinside := Nat.not_lt.mpr h.inside
  have hupright := Nat.not_lt.mpr h.upright
  unfold sliceText
  rw [if_neg (by simp [hinside, hupright]), h.sliceBytes?_eq]
  simp only [String.ofList_toList]

theorem exists_cuts (hupright : s.start.byte ≤ s.stop.byte) (hstart : Text.IsBoundary source.toList s.start.byte)
    (hstop : Text.IsBoundary source.toList s.stop.byte) : ∃ text, s.Cuts source text := by
  obtain ⟨piece, hoccurs, hlength⟩ := Text.exists_occursAt hstart hstop hupright
  have hle := hoccurs.add_le
  refine ⟨String.ofList piece, hupright, by omega, ?_, ?_⟩
  . rw [String.toList_ofList]
    exact hoccurs
  . rw [String.toList_ofList]
    exact hlength

theorem Cuts.occursAt (h : a.Cuts source text) (habove : b.Cuts source above) (hpart : a.IsPart b) :
    Text.OccursAt text.toList (a.start.byte - b.start.byte) above.toList := by
  apply h.occurs.of_le habove.occurs hpart.1
  rw [h.start_add, habove.start_add]
  exact hpart.2

end Span

namespace Concrete

/-- What a parser makes sure of, by byte offsets alone. -/
structure Aligned (source : String) (t : Concrete) : Prop where
  /-- Nodes start and end between characters of the source. -/
  boundary : ∀ p ∈ t.positions, Text.IsBoundary source.toList p.byte
  /-- Nodes do not end before they start. -/
  upright : ∀ s ∈ t.subtrees, s.info.span.start.byte ≤ s.info.span.stop.byte
  /-- Children lie in their parents. -/
  inside : ∀ s ∈ t.subtrees, ∀ c ∈ s.children,
    s.info.span.start.byte ≤ c.info.span.start.byte ∧ c.info.span.stop.byte ≤ s.info.span.stop.byte
  /-- Siblings follow one another. -/
  ordered : ∀ s ∈ t.subtrees, ∀ x ∈ s.children.zip s.children.tail,
    x.1.info.span.stop.byte ≤ x.2.info.span.start.byte

section Kids

variable {source : String} {inType inFile : Bool} {kind : NodeKind} {keyword : Option Token} {whole : Span}
  {cs : List Concrete} {lowered : List Branch}

theorem outer_isPart {k : Kid} (hcs : ∀ c ∈ cs, c.info.span.IsPart whole)
    (hkeyword : ∀ token ∈ keyword, whole.start.byte ≤ token.span.start.byte)
    (h : k ∈ kids whole.stop kind keyword inFile cs) : k.outer.IsPart whole := by
  -- The keyword that waits is that of an earlier child, so it does not start before the whole.
  induction cs generalizing keyword inFile with
  | nil => cases h
  | cons t cs ih =>
    rw [List.forall_mem_cons] at hcs
    obtain ⟨c, below⟩ := t
    rw [kids] at h
    split at h
    . split at h
      . rw [List.mem_cons] at h
        cases h with
        | inl heq =>
          subst heq
          exact ⟨hcs.1.1, Nat.le_refl _⟩
        | inr h => exact ih hcs.2 hkeyword h
      . rw [List.mem_cons] at h
        cases h with
        | inl heq =>
          subst heq
          cases keyword with
          | none => exact hcs.1
          | some token => exact ⟨hkeyword token rfl, hcs.1.2⟩
        | inr h => exact ih hcs.2 (by simp) h
    . refine ih hcs.2 ?_ h
      intro token htoken
      split at htoken
      . cases htoken
        exact hcs.1.1
      . exact hkeyword token htoken
    all_goals exact ih hcs.2 hkeyword h

theorem lowered_isPart (hcs : ∀ c ∈ cs, c.info.span.IsPart whole)
    (h : (kids whole.stop kind none inFile cs).mapM (Kid.lower source inType) = .ok lowered) :
    ∀ b ∈ lowered, b.label.span.IsPart whole := by
  intro b hb
  obtain ⟨k, hk, hlower⟩ := exists_of_mem_mapM h hb
  rw [Kid.span_of_lower hlower]
  exact outer_isPart hcs (by simp) hk

theorem exists_label_of_adopt {bs : List Branch} {b : Branch} (h : b ∈ adopt bs) : ∃ d ∈ bs, d.label = b.label := by
  induction bs with
  | nil => cases h
  | cons d bs ih =>
    obtain ⟨label, children⟩ := d
    rw [adopt] at h
    split at h
    . rw [List.mem_singleton] at h
      subst h
      exact ⟨_, List.mem_cons_self, rfl⟩
    . rw [List.mem_cons] at h
      cases h with
      | inl heq =>
        subst heq
        exact ⟨_, List.mem_cons_self, rfl⟩
      | inr h =>
        obtain ⟨d, hd, heq⟩ := ih h
        exact ⟨d, List.mem_cons_of_mem _ hd, heq⟩

theorem first_isPart {s : Concrete} {field : Option String} {span : Span} {own : Label} {first : List Branch}
    (hcs : ∀ c ∈ s.children, c.info.span.IsPart s.info.span)
    (h : lowerParts source field inType span s = .ok (own, first)) :
    ∀ b ∈ first, b.label.span.IsPart s.info.span := by
  obtain ⟨_, lowered, hlowered, hfirst⟩ := lowerParts_ok h
  have hparts := lowered_isPart hcs hlowered
  rw [hfirst]
  split
  . intro b hb
    obtain ⟨d, hd, heq⟩ := exists_label_of_adopt hb
    rw [← heq]
    exact hparts d hd
  . exact hparts

theorem pairwise_start (hupright : ∀ c ∈ cs, c.info.span.start.byte ≤ c.info.span.stop.byte)
    (hordered : ∀ x ∈ cs.zip cs.tail, x.1.info.span.stop.byte ≤ x.2.info.span.start.byte) :
    cs.Pairwise fun c d => c.info.span.start.byte ≤ d.info.span.start.byte := by
  induction cs with
  | nil => exact .nil
  | cons c cs ih =>
    rw [List.forall_mem_cons] at hupright
    cases cs with
    | nil => exact List.pairwise_singleton _ _
    | cons d cs =>
      rw [List.tail_cons, List.zip_cons_cons, List.forall_mem_cons] at hordered
      have hrest := ih hupright.2 hordered.2
      have hnext : c.info.span.start.byte ≤ d.info.span.start.byte := Nat.le_trans hupright.1 hordered.1
      refine List.pairwise_cons.mpr ⟨List.forall_mem_cons.mpr ⟨hnext, ?_⟩, hrest⟩
      intro e he
      exact Nat.le_trans hnext ((List.pairwise_cons.mp hrest).1 e he)

end Kids

/-- By byte offsets a node does not end before it starts, and its children lie in it. -/
structure Contains (label : Label) (children : List Label) : Prop where
  upright : label.span.start.byte ≤ label.span.stop.byte
  inside : ∀ child ∈ children, child.span.IsPart label.span

section Origin

variable {source : String} {t s : Concrete} {b : Branch}

theorem Aligned.starts (h : t.Aligned source) (hs : s ∈ t.subtrees) :
    s.children.Pairwise fun c d => c.info.span.start.byte ≤ d.info.span.start.byte :=
  pairwise_start (fun c hc => h.upright c (mem_subtrees_of_mem_children hs hc)) (h.ordered s hs)

theorem contains_of_origin (h : t.Aligned source) (hb : Origin source t b) :
    Contains b.label (b.children.map Branch.label) := by
  cases hb with
  | @node s _ _ own first hs hparts =>
    constructor
    . rw [Branch.label, span_of_lowerParts hparts]
      exact h.upright s hs
    . rw [Branch.label, span_of_lowerParts hparts, List.forall_mem_map]
      exact first_isPart (h.inside s hs) hparts
  | @clause s keyword c _ own first hs _ hsub hparts =>
    -- The ends of the clause are from two nodes, and only the order of siblings relates them.
    have hc : c ∈ t.subtrees := mem_subtrees_of_mem_children hs (hsub.subset (by simp))
    have hstart : keyword.info.span.start.byte ≤ c.info.span.start.byte :=
      (List.pairwise_cons.mp ((h.starts hs).sublist hsub)).1 c (by simp)
    constructor
    . exact Nat.le_trans hstart (h.upright c hc)
    . intro child hchild
      have heq : child = own := List.mem_singleton.mp hchild
      rw [heq, span_of_lowerParts hparts]
      exact ⟨hstart, Nat.le_refl _⟩
  | @file s c cs _ own first rest hs hsuffix _ hparts hrest =>
    -- So are those of the namespace. What follows it starts after it and ends in the file.
    have hmem : ∀ d ∈ c :: cs, d ∈ s.children := fun d hd => hsuffix.subset hd
    have hc : c ∈ t.subtrees := mem_subtrees_of_mem_children hs (hmem c List.mem_cons_self)
    have hstop := (h.inside s hs c (hmem c List.mem_cons_self)).2
    constructor
    . rw [Branch.label, span_of_lowerParts hparts]
      exact Nat.le_trans (h.upright c hc) hstop
    . rw [Branch.label, span_of_lowerParts hparts, List.forall_mem_map, Branch.children, List.forall_mem_append]
      constructor
      . intro d hd
        have hpart := first_isPart (h.inside c hc) hparts d hd
        exact ⟨hpart.1, Nat.le_trans hpart.2 hstop⟩
      . have hstarts := (List.pairwise_cons.mp ((h.starts hs).sublist hsuffix.sublist)).1
        have hafter : ∀ d ∈ cs, d.info.span.IsPart { start := c.info.span.start, stop := s.info.span.stop } :=
          fun d hd => ⟨hstarts d hd, (h.inside s hs d (hmem d (List.mem_cons_of_mem _ hd))).2⟩
        exact lowered_isPart hafter hrest

theorem exists_name_of_lowerParts {field : Option String} {inType : Bool} {span : Span} {own : Label}
    {first : List Branch} {name : String} (hs : s ∈ t.subtrees)
    (h : lowerParts source field inType span s = .ok (own, first)) (hname : own.name = some name) :
    ∃ c ∈ t.subtrees, c.info.text source = .ok name := by
  obtain ⟨c, hc, _, htext⟩ := exists_nameChild_of_lowerParts h hname
  exact ⟨c, mem_subtrees_of_mem_children hs hc, htext⟩

theorem exists_name_of_origin (hb : Origin source t b) :
    ∀ name, b.label.name = some name → ∃ c ∈ t.subtrees, c.info.text source = .ok name := by
  intro name hname
  cases hb with
  | node hs hparts => exact exists_name_of_lowerParts hs hparts hname
  | clause => cases hname
  | file hs hsuffix _ hparts _ =>
    have hc := mem_subtrees_of_mem_children hs (hsuffix.subset List.mem_cons_self)
    exact exists_name_of_lowerParts hc hparts hname

end Origin

section Texts

variable {source : String} {path : Option String} {t s : Concrete} {o : Outline}

theorem Aligned.exists_cuts (h : t.Aligned source) (hs : s ∈ t.subtrees) :
    ∃ text, s.info.span.Cuts source text :=
  Span.exists_cuts (h.upright s hs) (h.boundary _ (start_mem_positions hs)) (h.boundary _ (stop_mem_positions hs))

theorem Aligned.isSlice (h : t.Aligned source) : ∀ s ∈ t.subtrees, s.info.IsSlice source := by
  intro s hs
  obtain ⟨text, hcuts⟩ := h.exists_cuts hs
  refine ⟨h.upright s hs, ?_⟩
  rw [hcuts.sliceBytes?_eq]
  rfl

theorem source_of_toOutline (ho : t.toOutline source path = .ok o) : o.source = source := by
  rw [toOutline_eq, bind_eq_ok] at ho
  obtain ⟨b, _, ho⟩ := ho
  rw [Branch.toOutline_eq] at ho
  cases ho
  rfl

theorem exists_text_of_toOutline (h : t.Aligned source) (ho : t.toOutline source path = .ok o) {i : Nat}
    (hi : i < o.size) : ∃ text, o.text i = .ok text ∧ (o.span i).Cuts source text := by
  have hcontains := everywhere_of_origin (fun _ => contains_of_origin h) ho i hi
  have hamong : o.Everywhere fun label _ => label.Among t.positions :=
    everywhere_of_origin (fun _ => among_of_origin) ho
  have hstart := h.boundary _ (hamong i hi).start
  have hstop := h.boundary _ (hamong i hi).stop
  obtain ⟨text, hcuts⟩ := Span.exists_cuts hcontains.upright hstart hstop
  refine ⟨text, ?_, hcuts⟩
  unfold Outline.text
  rw [source_of_toOutline ho]
  exact hcuts.sliceText_eq

theorem not_isCut_of_toOutline (h : t.Aligned source) (ho : t.toOutline source path = .ok o) (i : Nat) (e : Error) :
    ¬ o.IsCut i e := by
  intro hcut
  by_cases hi : i < o.size
  . obtain ⟨text, htext, _⟩ := exists_text_of_toOutline h ho hi
    rw [hcut.2] at htext
    cases htext
  . -- A number without a node gives no argument.
    have hnone : o.nodes[i]? = none := Array.getElem?_eq_none (Nat.not_lt.mp hi)
    have hkind := hcut.1
    rw [Outline.kind, Outline.node, hnone] at hkind
    cases hkind

theorem isPart_of_parent? (h : t.Aligned source) (ho : t.toOutline source path = .ok o) {i p : Nat}
    (hp : o.parent? i = some p) : (o.span i).IsPart (o.span p) := by
  have hlinked := (wellFormed_of_toOutline ho).toLinked
  have hmem : i ∈ o.children p := hlinked.mem_children.mpr hp
  have hsize := Outline.lt_size_of_mem_children hlinked hmem
  exact (everywhere_of_origin (fun _ => contains_of_origin h) ho p hsize).inside _ (List.mem_map_of_mem hmem)

/-- Where a node has a text, nothing can go wrong with its names but that it has none. -/
theorem exists_identifier {i : Nat} {text : String} (htext : o.text i = .ok text) :
    ∃ name?, o.identifier i = .ok name? ∧ (o.kind i = .argument → name? = some text) ∧
      ∀ skip, o.fullName skip i
        = name?.elim (.error (.missingIdentifier (o.kind i))) fun name => .ok (o.qualify skip i name) := by
  cases hname : o.identifier i with
  | error e =>
    have hcut := (Outline.identifier_eq_error.mp hname).2
    rw [htext] at hcut
    cases hcut
  | ok name? =>
    refine ⟨name?, rfl, ?_, ?_⟩
    . intro hkind
      unfold Outline.identifier at hname
      rw [if_pos (NodeKind.nameSource_eq_text.mpr hkind), htext] at hname
      cases hname
      rfl
    . intro skip
      cases name? with
      | none => exact Outline.fullName_of_nameless hname
      | some name => exact Outline.fullName_of_identifier hname

/--
Where the nodes of a tree start and end between characters and lie in one another in order, all texts can be cut from
the source: those of the nodes of the tree, of which names and modifiers are made, and those of the nodes of its
outline. The text of a node is a part of the text of its parent, as many bytes after the start of it as the node starts
after the parent.
-/
theorem toOutline_cuts (h : t.Aligned source) (path : Option String) :
    (∀ s ∈ t.subtrees, ∃ text, s.info.text source = .ok text ∧ s.info.span.Cuts source text) ∧
    ∃ o, t.toOutline source path = .ok o ∧
      (∀ i, i < o.size → ∃ text name?, o.text i = .ok text ∧ (o.span i).Cuts source text ∧
        (∀ name, (o.node i).name = some name → ∃ s ∈ t.subtrees, s.info.span.Cuts source name) ∧
        o.identifier i = .ok name? ∧ (o.kind i = .argument → name? = some text) ∧
        ∀ skip, o.fullName skip i
          = name?.elim (.error (.missingIdentifier (o.kind i))) fun name => .ok (o.qualify skip i name)) ∧
      ∀ i p, o.parent? i = some p → ∃ text above, o.text i = .ok text ∧ o.text p = .ok above ∧
        (o.span p).start.byte ≤ (o.span i).start.byte ∧
        Text.OccursAt text.toList ((o.span i).start.byte - (o.span p).start.byte) above.toList ∧
        Text.byteLength text.toList = (o.span i).byteLength := by
  have hcut : ∀ s ∈ t.subtrees, ∃ text, s.info.text source = .ok text ∧ s.info.span.Cuts source text := by
    intro s hs
    obtain ⟨text, hcuts⟩ := h.exists_cuts hs
    exact ⟨text, hcuts.sliceText_eq, hcuts⟩
  obtain ⟨o, ho⟩ := exists_toOutline h.isSlice path
  refine ⟨hcut, o, ho, ?_, ?_⟩
  . intro i hi
    obtain ⟨text, htext, hcuts⟩ := exists_text_of_toOutline h ho hi
    obtain ⟨name?, hname, hargument, hfull⟩ := exists_identifier htext
    refine ⟨text, name?, htext, hcuts, ?_, hname, hargument, hfull⟩
    intro name hrecorded
    have hnames : o.Everywhere fun label _ => ∀ name, label.name = some name →
        ∃ c ∈ t.subtrees, c.info.text source = .ok name := everywhere_of_origin (fun _ => exists_name_of_origin) ho
    obtain ⟨s, hs, hslice⟩ := hnames i hi name hrecorded
    obtain ⟨text', htext', hcuts'⟩ := hcut s hs
    rw [hslice] at htext'
    cases htext'
    exact ⟨s, hs, hcuts'⟩
  . intro i p hp
    have hpart := isPart_of_parent? h ho hp
    have hi := Outline.lt_size_of_parent? hp
    have hlt := (wellFormed_of_toOutline ho).toLinked.parent_lt hp
    obtain ⟨text, htext, hcuts⟩ := exists_text_of_toOutline h ho hi
    obtain ⟨above, habove, hcutsAbove⟩ := exists_text_of_toOutline h ho (by omega : p < o.size)
    exact ⟨text, above, htext, habove, hpart.1, hcuts.occursAt hcutsAbove hpart, hcuts.length⟩

/-- A text with letters of two bytes. -/
def accentedText : String :=
  "namespace Ñ;if(é)b;else f(é);"

/-- The tree of that text, with a statement at the top. -/
def accentedFile : Concrete :=
  onLine "compilation_unit" 0 32 [
    onLine "file_scoped_namespace_declaration" 0 13 [
      onLine "namespace" 0 9 [] none false,
      onLine "identifier" 10 12 [] (some "name") true,
      onLine ";" 12 13 [] none false] none true,
    onLine "if_statement" 13 32 [
      onLine "if" 13 15 [] none false,
      onLine "(" 15 16 [] none false,
      onLine "identifier" 16 18 [] (some "condition") true,
      onLine ")" 18 19 [] none false,
      onLine "expression_statement" 19 21 [] (some "consequence") true,
      onLine "else" 21 25 [] none false,
      onLine "expression_statement" 26 32 [
        onLine "invocation_expression" 26 31 [
          onLine "identifier" 26 27 [] (some "function") true,
          onLine "argument_list" 27 31 [
            onLine "(" 27 28 [] none false,
            onLine "argument" 28 30 [
              onLine "identifier" 28 30 [] none true] none true,
            onLine ")" 30 31 [] none false] (some "arguments") true] none true,
        onLine ";" 31 32 [] none false] (some "alternative") true] none true] none true

/-- The clause is in the text of the `if` after its first eight bytes, and the argument has its text as identifier. -/
theorem cuts_accentedFile : accentedFile.Aligned accentedText ∧
    ∃ o, accentedFile.toOutline accentedText none = .ok o ∧
      (o.kind 5 = .elseClause ∧ ∃ text above, o.text 5 = .ok text ∧ o.text 2 = .ok above ∧
        Text.OccursAt text.toList 8 above.toList ∧ Text.byteLength text.toList = 11) ∧
      (o.kind 1 = .fileScopedNamespaceDeclaration ∧ ∃ text, o.text 1 = .ok text ∧
        Text.OccursAt text.toList 0 accentedText.toList ∧ Text.byteLength text.toList = 32) ∧
      o.kind 10 = .argument ∧ ∃ text, o.text 10 = .ok text ∧ o.identifier 10 = .ok (some text) ∧
        Text.OccursAt text.toList 28 accentedText.toList ∧ Text.byteLength text.toList = 2 := by
  have haligned : accentedFile.Aligned accentedText :=
    ⟨by decide +kernel, by decide +kernel, by decide +kernel, by decide +kernel⟩
  have hnodes : (accentedFile.toOutline accentedText none).toOption.any (fun o =>
      o.size == 12 && o.parent? 5 == some 2 &&
        [1, 2, 5, 10].map (fun i => (o.kind i, (o.span i).start.byte, (o.span i).stop.byte)) ==
          [(.fileScopedNamespaceDeclaration, 0, 32), (.ifStatement, 13, 32), (.elseClause, 21, 32),
            (.argument, 28, 30)]) = true := by
    decide +kernel
  obtain ⟨_, o, ho, htexts, hparts⟩ := toOutline_cuts haligned none
  simp only [ho, Except.toOption, Option.any_some, Bool.and_eq_true, beq_iff_eq, List.map_cons, List.map_nil,
    List.cons.injEq, Prod.mk.injEq, and_true] at hnodes
  obtain ⟨⟨hsize, hparent⟩, ⟨hfile, hstart₁, hstop₁⟩, ⟨_, hstart₂, _⟩, ⟨hclause, hstart₅, hstop₅⟩, hargument, hstart₁₀,
    hstop₁₀⟩ := hnodes
  refine ⟨haligned, o, ho, ⟨hclause, ?_⟩, ⟨hfile, ?_⟩, hargument, ?_⟩
  . obtain ⟨text, above, htext, habove, _, hoccurs, hlength⟩ := hparts 5 2 hparent
    rw [hstart₅, hstart₂] at hoccurs
    rw [Span.byteLength, hstart₅, hstop₅] at hlength
    exact ⟨text, above, htext, habove, hoccurs, hlength⟩
  . obtain ⟨text, _, htext, hcuts, _⟩ := htexts 1 (by omega)
    have hoccurs := hcuts.occurs
    have hlength := hcuts.length
    rw [hstart₁] at hoccurs
    rw [Span.byteLength, hstart₁, hstop₁] at hlength
    exact ⟨text, htext, hoccurs, hlength⟩
  . obtain ⟨text, name?, htext, hcuts, _, hidentifier, hname, _⟩ := htexts 10 (by omega)
    have hoccurs := hcuts.occurs
    have hlength := hcuts.length
    rw [hstart₁₀] at hoccurs
    rw [Span.byteLength, hstart₁₀, hstop₁₀] at hlength
    rw [hname hargument] at hidentifier
    exact ⟨text, htext, hidentifier, hoccurs, hlength⟩

end Texts

end Concrete
end StructuralSearch
