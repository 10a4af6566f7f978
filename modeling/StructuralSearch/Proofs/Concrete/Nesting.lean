import StructuralSearch.Proofs.Concrete.Spans

/-!
This module contains where the parentheses of an `if` are in an outline: around the condition, with the other children
before and after them.
-/

namespace StructuralSearch

open StructuralSearch.Span (InOrder)

namespace Concrete

def Info.isWord (word : String) (c : Info) : Bool :=
  !c.isNamed && c.kind == word

/-- A node that is no expression. -/
def Info.isPlain (c : Info) : Bool :=
  c.isNamed && !(NodeKind.ofGrammar c.kind false).isExpression

/-- The children of an `if`, with or without an alternative. Only the condition may be an expression. -/
def hasIfShape (children : List Concrete) : Bool :=
  match (children.map info).filter (!·.isExtra) with
  | [keyword, l, condition, r, body] =>
    keyword.isWord "if" && l.isWord "(" && condition.isNamed && r.isWord ")" && body.isPlain
  | [keyword, l, condition, r, body, otherwise, alternative] =>
    keyword.isWord "if" && l.isWord "(" && condition.isNamed && r.isWord ")" && body.isPlain
      && otherwise.isWord "else" && alternative.isPlain
  | _ => false

/-- What a parser makes sure of. -/
structure Orderly (t : Concrete) : Prop where
  /-- Nodes do not end before they start. -/
  upright : ∀ s ∈ t.subtrees, s.info.span.start.byte ≤ s.info.span.stop.byte
  /-- Children lie in their parents. -/
  inside : ∀ s ∈ t.subtrees, ∀ c ∈ s.children,
    s.info.span.start.byte ≤ c.info.span.start.byte ∧ c.info.span.stop.byte ≤ s.info.span.stop.byte
  /-- Siblings follow one another. -/
  ordered : ∀ s ∈ t.subtrees, ∀ x ∈ s.children.zip s.children.tail,
    x.1.info.span.stop.byte ≤ x.2.info.span.start.byte
  /-- Rows and columns tell the same as byte offsets. -/
  agrees : ∀ p ∈ t.positions, ∀ q ∈ t.positions, p.le q = decide (p.byte ≤ q.byte)
  ifShape : ∀ s ∈ t.subtrees, s.info.kind = "if_statement" → hasIfShape s.children = true

theorem Orderly.ranged {t : Concrete} (h : t.Orderly) : t.Ranged :=
  ⟨h.upright, h.inside, h.ordered, h.agrees⟩

section IfShape

variable {source : String} {hi lo : Position} {keyword : Option Token} {inFile : Bool} {cs : List Concrete}

/-- What comes after the parentheses. -/
def Info.isTail (c : Info) : Bool :=
  c.isPlain || c.isWord "else"

theorem exists_of_hasIfShape (h : hasIfShape cs = true) :
    ∃ word l condition r tail, cs.filter (!·.info.isExtra) = word :: l :: condition :: r :: tail ∧
      word.info.isWord "if" = true ∧ l.info.isWord "(" = true ∧ condition.info.isNamed = true ∧
      r.info.isWord ")" = true ∧ ∀ d ∈ tail, d.info.isTail = true := by
  have hfilter : (cs.map info).filter (!·.isExtra) = (cs.filter (!·.info.isExtra)).map info := List.filter_map
  unfold hasIfShape at h
  rw [hfilter] at h
  generalize cs.filter (!·.info.isExtra) = shown at h
  split at h
  . next heq =>
    simp only [List.map_eq_cons_iff, List.map_eq_nil_iff] at heq
    obtain ⟨word, _, rfl, rfl, l, _, rfl, rfl, condition, _, rfl, rfl, r, _, rfl, rfl, body, _, rfl, rfl, rfl⟩ := heq
    simp only [Bool.and_eq_true] at h
    refine ⟨word, l, condition, r, [body], rfl, h.1.1.1.1, h.1.1.1.2, h.1.1.2, h.1.2, ?_⟩
    simp [Info.isTail, h.2]
  . next heq =>
    simp only [List.map_eq_cons_iff, List.map_eq_nil_iff] at heq
    obtain ⟨word, _, rfl, rfl, l, _, rfl, rfl, condition, _, rfl, rfl, r, _, rfl, rfl, body, _, rfl, rfl, otherwise, _,
      rfl, rfl, alternative, _, rfl, rfl, rfl⟩ := heq
    simp only [Bool.and_eq_true] at h
    obtain ⟨⟨⟨⟨⟨⟨hword, hl⟩, hcondition⟩, hr⟩, hbody⟩, hotherwise⟩, halternative⟩ := h
    refine ⟨word, l, condition, r, [body, otherwise, alternative], rfl, hword, hl, hcondition, hr, ?_⟩
    simp [Info.isTail, hbody, hotherwise, halternative]
  . cases h

theorem kids_filter (kind : NodeKind) : kids hi kind keyword inFile cs
    = kids hi kind keyword inFile (cs.filter (!·.info.isExtra)) := by
  induction cs generalizing keyword inFile with
  | nil => rfl
  | cons t cs ih =>
    obtain ⟨c, below⟩ := t
    cases hextra : c.isExtra with
    | true =>
      have hfate : c.fate kind = .dropped := by simp [Info.fate, hextra]
      rw [List.filter_cons_of_neg (by simp [Concrete.info, hextra]), kids, hfate]
      exact ih
    | false =>
      rw [List.filter_cons_of_pos (by simp [Concrete.info, hextra]), kids, kids]
      simp only [← ih]

theorem fate_of_isWord {c : Info} {word : String} (kind : NodeKind) (h : c.isWord word = true) :
    c.fate kind = .dropped ∨ c.fate kind = .token := by
  simp only [Info.isWord, Bool.and_eq_true, Bool.not_eq_true'] at h
  unfold Info.fate
  split
  . exact .inl rfl
  . exact .inr (by simp [h.1])

theorem kids_word {t : Concrete} {word : String} (h : t.info.isWord word = true) (hword : word ≠ "else") :
    kids hi .ifStatement keyword inFile (t :: cs) = kids hi .ifStatement keyword inFile cs := by
  obtain ⟨c, below⟩ := t
  have hkind : c.kind = word := by
    simp only [Concrete.info, Info.isWord, Bool.and_eq_true, beq_iff_eq] at h
    exact h.2
  rw [kids]
  cases fate_of_isWord .ifStatement h with
  | inl hfate =>
    rw [Concrete.info] at hfate
    rw [hfate]
  | inr hfate =>
    rw [Concrete.info] at hfate
    simp [hfate, isElse, hkind, hword]

theorem fate_of_isNamed {c : Info} (h : c.isNamed = true) :
    c.fate .ifStatement = .dropped ∨ c.fate .ifStatement = .kept := by
  -- An `if` has no modifiers and no name.
  unfold Info.fate
  split
  . exact .inl rfl
  . simp [h, NodeKind.carriesModifiers, NodeKind.takesName, NodeKind.isNamespace, NodeKind.isTypeDeclaration]

theorem isExpression_kindAt {t : Concrete} {field : Option String} (h : t.info.isPlain = true) :
    (t.kindAt field false).isExpression = false := by
  simp only [Info.isPlain, Bool.and_eq_true, Bool.not_eq_true'] at h
  unfold kindAt
  cases isTypeField field with
  | true => rfl
  | false => exact h.2

theorem isExpression_of_tail {tail : List Concrete} {k : Kid} {b : Branch} (htail : ∀ d ∈ tail, d.info.isTail = true)
    (hk : k ∈ kids hi .ifStatement keyword inFile tail) (h : k.lower source false = .ok b) :
    b.label.kind.isExpression = false := by
  obtain ⟨hmem, hfate, _⟩ := mem_kids hk
  have hplain : k.tree.info.isPlain = true := by
    have htail := htail k.tree hmem
    rw [Info.isTail, Bool.or_eq_true] at htail
    refine htail.resolve_right ?_
    intro hword
    cases fate_of_isWord .ifStatement hword with
    | inl hdropped =>
      rw [hfate] at hdropped
      cases hdropped
    | inr htoken =>
      rw [hfate] at htoken
      cases htoken
  obtain ⟨own, first, hparts, hb⟩ := Kid.lower_ok h
  have hown := (extends_of_lowerParts hparts).kind_eq
  cases hkeyword : k.keyword with
  | none =>
    rw [hkeyword] at hb hown
    rw [hb, Option.elim, Branch.label, hown]
    exact isExpression_kindAt hplain
  | some token =>
    rw [hkeyword] at hb
    rw [hb]
    rfl

theorem isWord_inj {c : Info} {a b : String} (ha : c.isWord a = true) (hb : c.isWord b = true) : a = b := by
  simp only [Info.isWord, Bool.and_eq_true, beq_iff_eq] at ha hb
  rw [← ha.2, hb.2]

theorem not_isNamed_of_isWord {c : Info} {word : String} (h : c.isWord word = true) : c.isNamed = false := by
  simp only [Info.isWord, Bool.and_eq_true, Bool.not_eq_true'] at h
  exact h.1

theorem not_isWord_of_isTail {c : Info} {word : String} (hword : word ≠ "else") (h : c.isTail = true) :
    c.isWord word = false := by
  rw [Bool.eq_false_iff]
  intro hc
  rw [Info.isTail, Bool.or_eq_true] at h
  cases h with
  | inl hplain =>
    rw [Info.isPlain, not_isNamed_of_isWord hc] at hplain
    cases hplain
  | inr helse => exact hword (isWord_inj hc helse)

theorem eq_of_isWord {word l condition r t : Concrete} {tail : List Concrete}
    (hword : word.info.isWord "if" = true) (hl : l.info.isWord "(" = true) (hcondition : condition.info.isNamed = true)
    (hr : r.info.isWord ")" = true) (htail : ∀ d ∈ tail, d.info.isTail = true)
    (ht : t ∈ word :: l :: condition :: r :: tail) :
    (t.info.isWord "(" = true → t = l) ∧ (t.info.isWord ")" = true → t = r) := by
  simp only [List.mem_cons] at ht
  obtain rfl | rfl | rfl | rfl | ht := ht
  . exact ⟨fun h => absurd (isWord_inj hword h) (by decide), fun h => absurd (isWord_inj hword h) (by decide)⟩
  . exact ⟨fun _ => rfl, fun h => absurd (isWord_inj hl h) (by decide)⟩
  . constructor
    . intro h
      rw [not_isNamed_of_isWord h] at hcondition
      cases hcondition
    . intro h
      rw [not_isNamed_of_isWord h] at hcondition
      cases hcondition
  . exact ⟨fun h => absurd (isWord_inj hr h) (by decide), fun _ => rfl⟩
  . constructor
    . intro h
      rw [not_isWord_of_isTail (by decide) (htail t ht)] at h
      cases h
    . intro h
      rw [not_isWord_of_isTail (by decide) (htail t ht)] at h
      cases h

theorem exists_isWord {kind : NodeKind} {token : Token} {text : String}
    (h : (ownTokens kind none cs).find? (·.text == text) = some token) :
    ∃ t ∈ cs.filter (!·.info.isExtra), t.info.isWord text = true ∧ token = t.info.token := by
  cases mem_ownTokens (List.mem_of_find?_eq_some h) with
  | inl hnone => cases hnone
  | inr hex =>
    obtain ⟨t, ht, hfate, heq⟩ := hex
    have htext : token.text = text := by simpa using List.find?_some h
    simp only [Info.fate_eq_token, Bool.and_eq_true, Bool.not_eq_true'] at hfate
    refine ⟨t, ?_, ?_, heq⟩
    . rw [List.mem_filter]
      exact ⟨ht, by simp [hfate]⟩
    . rw [heq] at htext
      simp only [Info.isWord, hfate, Bool.not_false, Bool.true_and, beq_iff_eq]
      exact htext

theorem encloses_of_hasIfShape {lowered : List Branch} {before after : List Label} {condition : Label} {l r : Token}
    (hshape : hasIfShape cs = true) (horder : InOrder hi lo (cs.map (·.info.span)))
    (hlowered : (kids hi .ifStatement none false cs).mapM (Kid.lower source false) = .ok lowered)
    (heq : lowered.map Branch.label = before ++ condition :: after) (hexpression : condition.kind.isExpression = true)
    (hl : (ownTokens .ifStatement none cs).find? (·.text == "(") = some l)
    (hr : (ownTokens .ifStatement none cs).find? (·.text == ")") = some r) :
    Encloses l r before condition after := by
  obtain ⟨word, l', condition', r', tail, hshown, hword, hl', hcondition, hr', htail⟩ := exists_of_hasIfShape hshape
  -- The tokens are the parentheses of the shape.
  obtain ⟨t, ht, htword, heql⟩ := exists_isWord hl
  rw [hshown] at ht
  have htl := (eq_of_isWord hword hl' hcondition hr' htail ht).1 htword
  obtain ⟨u, hu, huword, heqr⟩ := exists_isWord hr
  rw [hshown] at hu
  have hur := (eq_of_isWord hword hl' hcondition hr' htail hu).2 huword
  subst htl hur
  have hsub : (cs.filter (!·.info.isExtra)).Sublist cs := List.filter_sublist
  have horder' := horder.sublist (hsub.map (·.info.span))
  rw [hshown] at horder'
  obtain ⟨_, _, _, _, hupl, _, hbetween, hupc, _, hbetween', hupr, _, hrest⟩ := horder'
  have hplain : ∀ rest, (kids hi .ifStatement none false tail).mapM (Kid.lower source false) = .ok rest →
      condition ∉ rest.map Branch.label := by
    intro rest hlower hmem
    rw [List.mem_map] at hmem
    obtain ⟨b, hb, hlabel⟩ := hmem
    obtain ⟨k, hk, hkb⟩ := exists_of_mem_mapM hlower hb
    have hno := isExpression_of_tail htail hk hkb
    rw [hlabel, hexpression] at hno
    cases hno
  rw [kids_filter, hshown, kids_word hword (by decide), kids_word hl' (by decide)] at hlowered
  obtain ⟨c, below⟩ := condition'
  rw [kids] at hlowered
  cases fate_of_isNamed hcondition with
  | inl hdropped =>
    rw [Concrete.info] at hdropped
    simp only [hdropped, kids_word hr' (by decide)] at hlowered
    refine absurd ?_ (hplain lowered hlowered)
    rw [heq]
    exact List.mem_append_right _ List.mem_cons_self
  | inr hkept =>
    rw [Concrete.info] at hkept
    have hopens : opensFile .ifStatement false c = false := rfl
    simp only [hkept, hopens, Bool.false_eq_true, if_false, kids_word hr' (by decide), List.mapM_cons, bind_eq_ok]
      at hlowered
    obtain ⟨b, hb, rest, hlower, h⟩ := hlowered
    cases h
    cases before with
    | cons d before =>
      -- The condition would come after the parentheses.
      rw [List.map_cons, List.cons_append, List.cons.injEq] at heq
      refine absurd ?_ (hplain rest hlower)
      rw [heq.2]
      exact List.mem_append_right _ List.mem_cons_self
    | nil =>
      rw [List.map_cons, List.nil_append, List.cons.injEq] at heq
      obtain ⟨hlabel, hafter⟩ := heq
      subst hlabel hafter heql heqr
      have hinOrder := lowered_inOrder (opensFile_of_ne (by decide)) hlower hrest
      refine ⟨?_, by simp, ?_⟩
      . rw [Kid.span_of_lower hb]
        exact ⟨Position.le_trans hupl hbetween, Position.le_trans hbetween' hupr⟩
      . intro d hd
        rw [List.mem_map] at hd
        obtain ⟨b', hb', heq⟩ := hd
        subst heq
        exact (hinOrder.bounds _ (List.mem_map_of_mem hb')).1

theorem parenthesizes_of_origin {t : Concrete} {b : Branch} (h : t.Orderly) (hb : Origin source t b) :
    Parenthesizes b.label (b.children.map Branch.label) := by
  intro hif before condition after heq hexpression l r hl hr
  cases hb with
  | @node s field inType own first hs hparts =>
    rw [Branch.label, kind_of_lowerParts hparts] at hif
    obtain ⟨hextends, lowered, hlowered, hfirst⟩ := lowerParts_ok hparts
    obtain ⟨hgrammar, htype⟩ := NodeKind.ofGrammar_eq_ifStatement hif
    have hbelow : s.typeBelow field inType = false := by
      rw [typeBelow, hif, htype]
      rfl
    have htokens : own.tokens = ownTokens .ifStatement none s.children := by
      rw [hextends, hif]
      rfl
    rw [hif, hbelow] at hlowered
    rw [hif, if_neg (by decide)] at hfirst
    subst hfirst
    unfold Label.token? at hl hr
    rw [Branch.label, htokens] at hl hr
    have horder := h.ranged.tidy.inOrder s hs
    exact encloses_of_hasIfShape (h.ifShape s hs hgrammar) horder hlowered heq hexpression hl hr
  | clause => cases hif
  | file _ _ hfile hparts _ =>
    rw [Branch.label, kind_of_lowerParts hparts] at hif
    have hgrammar := (NodeKind.ofGrammar_eq_ifStatement hif).1
    rw [hfile] at hgrammar
    exact absurd hgrammar (by decide)

end IfShape

theorem nested_of_toOutline {t : Concrete} {source : String} {path : Option String} {o : Outline} (h : t.Orderly)
    (ho : t.toOutline source path = .ok o) : o.WellFormed ∧ o.Nested := by
  have hwell := wellFormed_of_toOutline ho
  have hnests := everywhere_of_origin (fun _ => nests_of_origin h.ranged.tidy) ho
  have hparens := everywhere_of_origin (fun _ => parenthesizes_of_origin h) ho
  exact ⟨hwell, Outline.nested_of_parenthesizes hnests hparens hwell.toLinked⟩

end Concrete
end StructuralSearch
