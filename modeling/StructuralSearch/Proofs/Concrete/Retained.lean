import StructuralSearch.Proofs.Concrete.Children
import StructuralSearch.Proofs.Outline.Layout

/-!
This module contains which nodes of a concrete tree are in its outline: all that are retained, in the same order and
with nothing between them but the clauses around alternatives.
-/

namespace StructuralSearch
namespace Concrete

/-- Recorded on the node above: a modifier, a declared name or the variable of a loop. -/
def Info.isFolded (c : Info) (parent : NodeKind) : Bool :=
  (c.kind == "modifier" && parent.carriesModifiers) || (c.field == some "name" && parent.takesName)
    || (c.field == some "left" && parent == .forEachStatement)

/-- Stays a node under a node of the given kind. -/
def Info.isRetained (parent : NodeKind) (c : Info) : Bool :=
  c.isNamed && !c.isExtra && !c.isMissing && !c.isFolded parent

def Info.isElseToken (c : Info) : Bool :=
  !c.isNamed && !c.isExtra && !c.isMissing && c.kind == "else"

/-- There is an `else` after the last retained one of the siblings before, which are given from the nearest on. -/
def followsElse (parent : NodeKind) (before : List Info) : Bool :=
  parent == .ifStatement && (before.takeWhile fun c => !c.isRetained parent).any Info.isElseToken

/-- A node of a concrete tree that its outline has to have. -/
structure Retained where
  info : Info
  /-- In the place of a type. -/
  inType : Bool
  /-- A child of an `if`, with an `else` between it and the previous retained child. -/
  isAlternative : Bool
  deriving DecidableEq, Repr

mutual

/-- The retained nodes of a tree that fills the given field, in pre-order. -/
def retainedAt (field : Option String) (inType isAlternative : Bool) : Concrete → List Retained
  | .node c children =>
    let t := Concrete.node c children
    { info := c, inType := inType || isTypeField field, isAlternative }
      :: retainedBelow (t.kindAt field inType) (t.typeBelow field inType) [] children

/-- The retained nodes below a node of the given kind. The field of an alternative does not count. -/
def retainedBelow (parent : NodeKind) (inType : Bool) (before : List Info) : List Concrete → List Retained
  | [] => []
  | .node c below :: cs =>
    let isAlternative := followsElse parent before
    let own :=
      if c.isRetained parent then
        retainedAt (if isAlternative then none else c.field) inType isAlternative (.node c below)
      else
        []
    own ++ retainedBelow parent inType (c :: before) cs

end

/-- The retained nodes of a tree in pre-order. The root is always one. -/
def retained (t : Concrete) : List Retained :=
  t.retainedAt none false false

section Kids

variable {stop : Position} {kind : NodeKind} {keyword : Option Token} {inType inFile : Bool} {c : Info}
  {before : List Info} {cs : List Concrete}

theorem Info.isRetained_iff : c.isRetained kind = true ↔ c.fate kind = .kept := by
  unfold isRetained fate isFolded
  generalize c.isNamed = named, c.isExtra = extra, c.isMissing = missing
  generalize (c.kind == "modifier" && kind.carriesModifiers) = isModifier
  generalize (c.field == some "name" && kind.takesName) = isName
  generalize (c.field == some "left" && kind == .forEachStatement) = isVariable
  revert named extra missing isModifier isName isVariable
  decide

theorem Info.isRetained_eq_false (h : c.fate kind ≠ .kept) : c.isRetained kind = false := by
  rw [Bool.eq_false_iff, ne_eq, isRetained_iff]
  exact h

theorem followsElse_nil (kind : NodeKind) : followsElse kind [] = false := by
  simp [followsElse]

theorem followsElse_of_retained (before : List Info) (h : c.isRetained kind = true) :
    followsElse kind (c :: before) = false := by
  unfold followsElse
  rw [List.takeWhile_cons, h]
  simp

theorem followsElse_of_not_retained (before : List Info) (h : c.isRetained kind = false) :
    followsElse kind (c :: before) = (kind == .ifStatement && c.isElseToken || followsElse kind before) := by
  unfold followsElse
  rw [List.takeWhile_cons, h]
  simp [Bool.and_or_distrib_left]

/-- What a child that stays a node has in the outline. -/
def Kid.retained (inType : Bool) (k : Kid) : List Retained :=
  k.tree.retainedAt (if k.keyword.isSome then none else k.tree.info.field) inType k.keyword.isSome

theorem isElseToken_of_token (h : c.fate kind = .token) : (kind == .ifStatement && c.isElseToken) = isElse kind c := by
  unfold isElse Info.isElseToken
  rw [Info.fate_eq_token.mp h, Bool.true_and]

theorem isElseToken_of_not_token (h : c.fate kind ≠ .token) : c.isElseToken = false := by
  rw [ne_eq, Info.fate_eq_token] at h
  unfold Info.isElseToken
  rw [Bool.eq_false_iff.mpr h, Bool.false_and]

theorem followsElse_of_folded (before : List Info) (h : c.fate kind ≠ .kept) (h' : c.fate kind ≠ .token) :
    followsElse kind (c :: before) = followsElse kind before := by
  rw [followsElse_of_not_retained before (Info.isRetained_eq_false h), isElseToken_of_not_token h', Bool.and_false,
    Bool.false_or]

theorem retainedBelow_eq (hw : Waits kind keyword) (hbefore : keyword.isSome = followsElse kind before) :
    retainedBelow kind inType before cs = (kids stop kind keyword inFile cs).flatMap (Kid.retained inType) := by
  -- The keyword that waits stands for an `else` after the last retained sibling.
  induction cs generalizing before keyword inFile with
  | nil =>
    rw [retainedBelow, kids]
    rfl
  | cons t cs ih =>
    obtain ⟨c, below⟩ := t
    unfold retainedBelow kids
    cases hfate : c.fate kind with
    | kept =>
      have hretained : c.isRetained kind = true := Info.isRetained_iff.mpr hfate
      have hnext := followsElse_of_retained before hretained
      simp only [hretained, if_true]
      cases hopens : opensFile kind inFile c with
      | true =>
        have hkeyword := hw.eq_none hopens
        subst hkeyword
        rw [← hbefore, if_pos rfl, List.flatMap_cons, ih (waits_none _) hnext.symm]
        rfl
      | false =>
        rw [← hbefore, if_neg Bool.false_ne_true, List.flatMap_cons, ih (waits_none _) hnext.symm]
        rfl
    | token =>
      have hretained : c.isRetained kind = false := Info.isRetained_eq_false (by simp [hfate])
      have hnext := followsElse_of_not_retained before hretained
      rw [isElseToken_of_token hfate] at hnext
      simp only [hretained, Bool.false_eq_true, if_false, List.nil_append]
      cases helse : isElse kind c with
      | true =>
        rw [helse, Bool.true_or] at hnext
        rw [ih (waits_of_isElse helse) hnext.symm, if_pos rfl]
      | false =>
        rw [helse, Bool.false_or, ← hbefore] at hnext
        rw [ih hw hnext.symm, if_neg Bool.false_ne_true]
    | dropped | modifier | name =>
      have hretained : c.isRetained kind = false := Info.isRetained_eq_false (by simp [hfate])
      have hkept : c.fate kind ≠ .kept := by simp [hfate]
      have htoken : c.fate kind ≠ .token := by simp [hfate]
      have hnext := followsElse_of_folded before hkept htoken
      simp only [hretained, Bool.false_eq_true, if_false, List.nil_append]
      rw [← hbefore] at hnext
      exact ih hw hnext.symm

end Kids

section Labels

variable {source : String} {inType : Bool}

/-- What a retained node and its label have in common. -/
abbrev Entry := String × Position × NodeKind

def Retained.entry (r : Retained) : Entry :=
  (r.info.kind, r.info.span.start, .ofGrammar r.info.kind r.inType)

def entryOf (label : Label) : Entry :=
  (label.grammarKind, label.span.start, label.kind)

def isClause (label : Label) : Bool :=
  label.kind == .elseClause

/-- The labels are those of the retained nodes, apart from as many clauses as there are alternatives. -/
def Lists (labels : List Label) (rs : List Retained) : Prop :=
  (labels.filter (!isClause ·)).map entryOf = rs.map Retained.entry ∧
    labels.countP isClause = rs.countP (·.isAlternative)

theorem Lists.append {ls ls' : List Label} {rs rs' : List Retained} (h : Lists ls rs) (h' : Lists ls' rs') :
    Lists (ls ++ ls') (rs ++ rs') := by
  constructor
  . rw [List.filter_append, List.map_append, h.1, h'.1, List.map_append]
  . rw [List.countP_append, h.2, h'.2, List.countP_append]

/-- All labels of some branches, each before those below it. -/
def labelsAll (bs : List Branch) : List Label :=
  (Branch.subtreesAll bs).map Branch.label

theorem labelsAll_cons (b : Branch) (bs : List Branch) :
    labelsAll (b :: bs) = b.label :: labelsAll b.children ++ labelsAll bs := by
  cases b with
  | node label children =>
    unfold labelsAll
    rw [Branch.subtreesAll, List.map_append, Branch.subtrees]
    rfl

theorem labelsAll_append (bs bs' : List Branch) : labelsAll (bs ++ bs') = labelsAll bs ++ labelsAll bs' := by
  unfold labelsAll
  rw [Branch.subtreesAll_eq, List.flatMap_append, List.map_append, ← Branch.subtreesAll_eq, ← Branch.subtreesAll_eq]

theorem labelsAll_adopt (bs : List Branch) : labelsAll (adopt bs) = labelsAll bs := by
  -- What follows a namespace stays in order when it goes below it.
  induction bs with
  | nil => rfl
  | cons b bs ih =>
    by_cases h : b.label.grammarKind = "file_scoped_namespace_declaration"
    . rw [adopt_of_file h, labelsAll_cons, labelsAll_cons, Branch.label, Branch.children, labelsAll_append]
      simp [labelsAll, Branch.subtreesAll]
    . rw [adopt_of_not_file h, labelsAll_cons, labelsAll_cons, ih]

theorem labelsAll_nil : labelsAll [] = [] :=
  rfl

theorem lists_nil : Lists [] [] :=
  ⟨rfl, rfl⟩

theorem entryOf_of_extends {c : Info} {field : Option String} {inType : Bool} {span : Span} {own : Label}
    {tokens : List Token} (h : Extends (c.label field inType span) own tokens)
    (hspan : span.start = c.span.start) (isAlternative : Bool) :
    isClause own = false ∧ entryOf own = Retained.entry { info := c, inType, isAlternative } := by
  have hkind := NodeKind.ofGrammar_ne_elseClause c.kind inType
  rw [h]
  refine ⟨beq_eq_false_iff_ne.mpr hkind, ?_⟩
  unfold entryOf Retained.entry
  rw [← hspan]
  rfl

/-- The nodes below a tree are in the outline as they are retained. -/
def IsListed (source : String) (t : Concrete) : Prop :=
  ∀ field inType span own first, lowerParts source field inType span t = .ok (own, first) →
    Lists (labelsAll first) (retainedBelow (t.kindAt field inType) (t.typeBelow field inType) [] t.children)

theorem lists_of_lowerParts {t : Concrete} {field : Option String} {span : Span} {own : Label}
    {first : List Branch} (ht : IsListed source t) (hspan : span.start = t.info.span.start)
    (h : lowerParts source field inType span t = .ok (own, first)) :
    Lists (own :: labelsAll first) (t.retainedAt field inType false) := by
  have hbelow := ht field inType span own first h
  obtain ⟨hclause, hentry⟩ := entryOf_of_extends (lowerParts_ok h).1 hspan false
  cases t with
  | node c children =>
    rw [retainedAt]
    constructor
    . rw [List.filter_cons_of_pos (by simp [hclause]), List.map_cons, List.map_cons, hbelow.1, hentry]
      rfl
    . rw [List.countP_cons_of_neg (by simp [hclause]), List.countP_cons_of_neg (by simp), hbelow.2]
      rfl

theorem Lists.alternative {ls : List Label} {clause : Label} {t : Concrete} {field : Option String}
    (h : Lists ls (t.retainedAt field inType false)) (hclause : isClause clause = true) :
    Lists (clause :: ls) (t.retainedAt field inType true) := by
  cases t with
  | node c children =>
    rw [retainedAt] at h ⊢
    have hcount := h.2
    rw [List.countP_cons_of_neg (by simp)] at hcount
    constructor
    . rw [List.filter_cons_of_neg (by simp [hclause])]
      exact h.1
    . rw [List.countP_cons_of_pos hclause, List.countP_cons_of_pos rfl, hcount]

theorem lists_of_lower {k : Kid} {b : Branch} (ht : IsListed source k.tree)
    (hspan : k.span.start = k.tree.info.span.start) (h : k.lower source inType = .ok b) :
    Lists (b.label :: labelsAll b.children) (k.retained inType) := by
  obtain ⟨own, first, hparts, hb⟩ := Kid.lower_ok h
  have hlists := lists_of_lowerParts ht hspan hparts
  unfold Kid.retained
  cases hkeyword : k.keyword with
  | none =>
    rw [hkeyword] at hb hlists
    rw [hb]
    exact hlists
  | some token =>
    rw [hkeyword] at hb hlists
    rw [hb]
    have hlabels : labelsAll [.node own first] = own :: labelsAll first := by
      rw [labelsAll_cons, labelsAll_nil, List.append_nil]
      rfl
    rw [← hlabels] at hlists
    exact hlists.alternative rfl

theorem lists_of_mapM {ks : List Kid} {lowered : List Branch}
    (hks : ∀ k ∈ ks, IsListed source k.tree ∧ k.span.start = k.tree.info.span.start)
    (h : ks.mapM (Kid.lower source inType) = .ok lowered) :
    Lists (labelsAll lowered) (ks.flatMap (Kid.retained inType)) := by
  induction ks generalizing lowered with
  | nil =>
    cases h
    exact lists_nil
  | cons k ks ih =>
    rw [List.forall_mem_cons] at hks
    simp only [List.mapM_cons, bind_eq_ok] at h
    obtain ⟨b, hb, rest, hrest, h⟩ := h
    cases h
    rw [labelsAll_cons, List.flatMap_cons]
    exact (lists_of_lower hks.1.1 hks.1.2 hb).append (ih hks.2 hrest)

theorem isListed (source : String) (t : Concrete) : IsListed source t := by
  induction t using induct with
  | node c children ih =>
    intro field inType span own first h
    obtain ⟨_, lowered, hlowered, hfirst⟩ := lowerParts_ok h
    have hlabels : labelsAll first = labelsAll lowered := by
      rw [hfirst]
      split
      . exact labelsAll_adopt lowered
      . rfl
    rw [hlabels, retainedBelow_eq (waits_none _) (followsElse_nil _).symm]
    apply lists_of_mapM _ hlowered
    intro k hk
    obtain ⟨hmem, _, hspan⟩ := mem_kids hk
    exact ⟨ih k.tree hmem, hspan⟩

end Labels

/-- The node has a byte range that can be cut from the source. -/
def Info.IsSlice (source : String) (c : Info) : Prop :=
  c.span.start.byte ≤ c.span.stop.byte ∧
    (Text.sliceBytes? c.span.start.byte c.span.stop.byte source.toList).isSome = true

instance (source : String) (c : Info) : Decidable (c.IsSlice source) :=
  inferInstanceAs (Decidable (_ ∧ _))

theorem Info.IsSlice.exists_text {source : String} {c : Info} (h : c.IsSlice source) :
    ∃ text, c.text source = .ok text := by
  obtain ⟨cs, hcs⟩ := Option.isSome_iff_exists.mp h.2
  unfold text sliceText
  rw [hcs]
  split
  . exact ⟨_, rfl⟩
  . exact ⟨_, rfl⟩

/--
A tree whose byte ranges can be cut from the source has an outline. Its nodes without the clauses around alternatives
are the retained nodes in order, and there are as many clauses as alternatives.
-/
theorem toOutline_retained (t : Concrete) (source : String) (path : Option String)
    (h : ∀ s ∈ t.subtrees, s.info.IsSlice source) :
    ∃ o, t.toOutline source path = .ok o ∧
      (o.nodes.toList.filter (·.kind != .elseClause)).map (fun n => (n.grammarKind, n.span.start, n.kind)) =
        t.retained.map (fun r => (r.info.kind, r.info.span.start, NodeKind.ofGrammar r.info.kind r.inType)) ∧
      o.nodes.toList.countP (·.kind == .elseClause) = t.retained.countP (·.isAlternative) := by
  obtain ⟨⟨own, first⟩, hparts⟩ := exists_lowerParts t (fun s hs => (h s hs).exists_text) none false t.info.span
  have hlower : t.lower source = .ok (.node own first) := by
    unfold lower
    rw [hparts]
    rfl
  have houtline := Branch.toOutline_eq (.node own first) source path
  generalize { nodes := _, path := _, source := _ : Outline } = o at houtline
  have hlists := lists_of_lowerParts (isListed source t) rfl hparts
  have hlabels : o.nodes.toList.map Node.toLabel = own :: labelsAll first := by
    rw [Outline.map_nodes houtline, Branch.subtrees, List.map_cons]
    rfl
  rw [← hlabels] at hlists
  refine ⟨o, ?_, ?_, ?_⟩
  . rw [toOutline_eq, hlower]
    exact houtline
  . have hentries := hlists.1
    rw [List.filter_map, List.map_map] at hentries
    exact hentries
  . have hcount := hlists.2
    rw [List.countP_map] at hcount
    exact hcount

/-- A node of a text of one line. -/
def onLine (kind : String) (start stop : Nat) (children : List Concrete) (field : Option String) (isNamed : Bool) :
    Concrete :=
  .node { kind, field, isNamed, span := { start := .ofByte [] start, stop := .ofByte [] stop } } children

/-- The tree of `namespace N;if(a)b;else c;`, with a statement at the top. -/
def fileWithElse : Concrete :=
  onLine "compilation_unit" 0 26 [
    onLine "file_scoped_namespace_declaration" 0 12 [
      onLine "namespace" 0 9 [] none false,
      onLine "identifier" 10 11 [] (some "name") true,
      onLine ";" 11 12 [] none false] none true,
    onLine "if_statement" 12 26 [
      onLine "if" 12 14 [] none false,
      onLine "(" 14 15 [] none false,
      onLine "identifier" 15 16 [] (some "condition") true,
      onLine ")" 16 17 [] none false,
      onLine "expression_statement" 17 19 [] (some "consequence") true,
      onLine "else" 19 23 [] none false,
      onLine "expression_statement" 24 26 [] (some "alternative") true] none true] none true

theorem toOutline_fileWithElse :
    ∃ o, fileWithElse.toOutline "namespace N;if(a)b;else c;" none = .ok o ∧
      (o.nodes.toList.filter (·.kind != .elseClause)).map (·.kind) =
        [.compilationUnit, .fileScopedNamespaceDeclaration, .ifStatement, .identifierName, .expressionStatement,
          .expressionStatement] ∧
      o.nodes.toList.countP (·.kind == .elseClause) = 1 := by
  obtain ⟨o, houtline, hentries, hcount⟩ :=
    toOutline_retained fileWithElse "namespace N;if(a)b;else c;" none (by decide +kernel)
  refine ⟨o, houtline, ?_, ?_⟩
  . have hkinds := congrArg (List.map fun e => e.2.2) hentries
    rw [List.map_map, List.map_map] at hkinds
    refine hkinds.trans ?_
    decide +kernel
  . rw [hcount]
    decide +kernel

end Concrete
end StructuralSearch
