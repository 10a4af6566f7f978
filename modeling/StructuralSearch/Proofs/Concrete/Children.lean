import StructuralSearch.Proofs.Concrete.Branches
import StructuralSearch.Proofs.Concrete.Classify
import StructuralSearch.Proofs.Failure

/-!
This module contains what the lowering makes of the children of one node: which of them stay nodes, what they become,
and what is recorded on the node itself.
-/

namespace StructuralSearch
namespace Concrete

mutual

/-- Facts about concrete trees go from the children to the parent. -/
theorem induct {motive : Concrete → Prop}
    (node : ∀ info children, (∀ t ∈ children, motive t) → motive (.node info children)) : (t : Concrete) → motive t
  | .node info children => node info children (inductAll node children)

theorem inductAll {motive : Concrete → Prop}
    (node : ∀ info children, (∀ t ∈ children, motive t) → motive (.node info children)) :
    (ts : List Concrete) → ∀ t ∈ ts, motive t
  | [] => by simp
  | t :: ts => List.forall_mem_cons.mpr ⟨induct node t, inductAll node ts⟩

end

mutual

/-- All trees in a tree, each before those below it. -/
def subtrees : Concrete → List Concrete
  | .node info children => .node info children :: subtreesAll children

def subtreesAll : List Concrete → List Concrete
  | [] => []
  | t :: ts => t.subtrees ++ subtreesAll ts

end

theorem subtreesAll_eq (ts : List Concrete) : subtreesAll ts = ts.flatMap subtrees := by
  induction ts with
  | nil => rfl
  | cons t ts ih => rw [subtreesAll, ih, List.flatMap_cons]

theorem mem_subtrees {info : Info} {children : List Concrete} {s : Concrete} :
    s ∈ (Concrete.node info children).subtrees ↔ s = .node info children ∨ ∃ t ∈ children, s ∈ t.subtrees := by
  rw [subtrees, subtreesAll_eq, List.mem_cons, List.mem_flatMap]

theorem mem_subtrees_self (t : Concrete) : t ∈ t.subtrees := by
  cases t with
  | node info children => exact mem_subtrees.mpr (.inl rfl)

/-- A child that stays a node, with the `else` that goes with it and the span that it gets. -/
structure Kid where
  keyword : Option Token
  span : Span
  tree : Concrete

/-- The keyword before an alternative, under a node of some kind. -/
def isElse (kind : NodeKind) (c : Info) : Bool :=
  kind == .ifStatement && c.kind == "else"

/-- The first namespace for the rest of the file, under a node of some kind. -/
def opensFile (kind : NodeKind) (inFile : Bool) (c : Info) : Bool :=
  kind == .compilationUnit && c.isFileNamespace && !inFile

/--
The children that stay nodes under a node of some kind, which ends at `stop`. An `else` goes with the next of them, and
the first namespace for the rest of the file reaches to the end.
-/
def kids (stop : Position) (kind : NodeKind) (keyword : Option Token) (inFile : Bool) : List Concrete → List Kid
  | [] => []
  | .node c below :: cs =>
    match c.fate kind with
    | .kept =>
      if opensFile kind inFile c then
        { keyword := none, span := { start := c.span.start, stop }, tree := .node c below }
          :: kids stop kind keyword true cs
      else
        { keyword, span := c.span, tree := .node c below } :: kids stop kind none inFile cs
    | .token => kids stop kind (if isElse kind c then some c.token else keyword) inFile cs
    | .dropped | .modifier | .name => kids stop kind keyword inFile cs

/-- The tokens that are recorded on a node of some kind. An `else` is if there is no alternative. -/
def ownTokens (kind : NodeKind) (keyword : Option Token) : List Concrete → List Token
  | [] => keyword.toList
  | .node c _ :: cs =>
    match c.fate kind with
    | .kept => ownTokens kind none cs
    | .token =>
      if isElse kind c then ownTokens kind (some c.token) cs else c.token :: ownTokens kind keyword cs
    | .dropped | .modifier | .name => ownTokens kind keyword cs

theorem mem_kids {stop : Position} {kind : NodeKind} {keyword : Option Token} {inFile : Bool} {cs : List Concrete}
    {k : Kid} (h : k ∈ kids stop kind keyword inFile cs) :
    k.tree ∈ cs ∧ k.tree.info.fate kind = .kept ∧ k.span.start = k.tree.info.span.start := by
  induction cs generalizing keyword inFile with
  | nil => cases h
  | cons t cs ih =>
    obtain ⟨c, below⟩ := t
    rw [kids] at h
    split at h
    . next hfate =>
      split at h
      . rw [List.mem_cons] at h
        cases h with
        | inl heq =>
          subst heq
          exact ⟨List.mem_cons_self, hfate, rfl⟩
        | inr h => exact ⟨List.mem_cons_of_mem _ (ih h).1, (ih h).2⟩
      . rw [List.mem_cons] at h
        cases h with
        | inl heq =>
          subst heq
          exact ⟨List.mem_cons_self, hfate, rfl⟩
        | inr h => exact ⟨List.mem_cons_of_mem _ (ih h).1, (ih h).2⟩
    all_goals exact ⟨List.mem_cons_of_mem _ (ih h).1, (ih h).2⟩

theorem mem_ownTokens {kind : NodeKind} {keyword : Option Token} {cs : List Concrete} {token : Token}
    (h : token ∈ ownTokens kind keyword cs) :
    keyword = some token ∨ ∃ t ∈ cs, t.info.fate kind = .token ∧ token = t.info.token := by
  induction cs generalizing keyword with
  | nil =>
    rw [ownTokens, Option.mem_toList] at h
    exact .inl h
  | cons t cs ih =>
    obtain ⟨c, below⟩ := t
    rw [ownTokens] at h
    split at h
    . cases ih h with
      | inl hnone => cases hnone
      | inr h =>
        obtain ⟨t, ht, h⟩ := h
        exact .inr ⟨t, List.mem_cons_of_mem _ ht, h⟩
    . next hfate =>
      split at h
      . cases ih h with
        | inl heq =>
          cases heq
          exact .inr ⟨_, List.mem_cons_self, hfate, rfl⟩
        | inr h =>
          obtain ⟨t, ht, h⟩ := h
          exact .inr ⟨t, List.mem_cons_of_mem _ ht, h⟩
      . rw [List.mem_cons] at h
        cases h with
        | inl heq => exact .inr ⟨_, List.mem_cons_self, hfate, heq⟩
        | inr h =>
          obtain h | ⟨t, ht, h⟩ := ih h
          . exact .inl h
          . exact .inr ⟨t, List.mem_cons_of_mem _ ht, h⟩
    all_goals
      obtain h | ⟨t, ht, h⟩ := ih h
      . exact .inl h
      . exact .inr ⟨t, List.mem_cons_of_mem _ ht, h⟩

/-- What becomes of a child that stays a node. -/
def Kid.lower (source : String) (inType : Bool) (k : Kid) : Except Error Branch :=
  match k.keyword with
  | none => do
    let (own, first) ← lowerParts source k.tree.info.field inType k.span k.tree
    return .node own first
  | some token => do
    let (own, first) ← lowerParts source none inType k.span k.tree
    return elseClause token (.node own first) k.span.stop

/-- The first namespace for the rest of the file becomes the parent of what follows it. -/
def adopt : List Branch → List Branch
  | [] => []
  | .node label children :: bs =>
    if label.grammarKind == "file_scoped_namespace_declaration" then
      [.node label (children ++ bs)]
    else
      .node label children :: adopt bs

section Lowered

variable {source : String} {stop : Position} {inType inFile : Bool} {label label' : Label} {keyword : Option Token}
  {c : Info} {below cs : List Concrete} {bs : List Branch}

/-- Only names, modifiers and tokens are recorded on a label. -/
def Extends (label label' : Label) (tokens : List Token) : Prop :=
  label' = { label with name := label'.name, modifiers := label'.modifiers, tokens := label.tokens ++ tokens }

theorem Extends.kind_eq {tokens : List Token} (h : Extends label label' tokens) : label'.kind = label.kind := by
  rw [h]

theorem Extends.trans {label₁ label₂ label₃ : Label} {ts us : List Token} (h : Extends label₁ label₂ ts)
    (h' : Extends label₂ label₃ us) : Extends label₁ label₃ (ts ++ us) := by
  unfold Extends at h h' ⊢
  rw [h', h]
  simp

theorem extends_recordToken (label : Label) (c : Info) : Extends label (recordToken label c) [c.token] :=
  rfl

theorem extends_recordModifier (label : Label) (word : String) : Extends label (recordModifier label word) [] := by
  unfold recordModifier Extends
  split
  . simp
  . simp

theorem lowerChildren_dropped (h : c.fate label.kind = .dropped) :
    lowerChildren source stop inType label keyword inFile (.node c below :: cs)
      = lowerChildren source stop inType label keyword inFile cs := by
  cases keyword <;> simp only [lowerChildren, h]

theorem lowerChildren_else (h : c.fate label.kind = .token) (helse : isElse label.kind c = true) :
    lowerChildren source stop inType label keyword inFile (.node c below :: cs)
      = lowerChildren source stop inType label (some c.token) inFile cs := by
  unfold isElse at helse
  cases keyword <;> simp only [lowerChildren, h, helse, if_true]

theorem lowerChildren_token (h : c.fate label.kind = .token) (helse : isElse label.kind c = false) :
    lowerChildren source stop inType label keyword inFile (.node c below :: cs)
      = lowerChildren source stop inType (recordToken label c) keyword inFile cs := by
  unfold isElse at helse
  cases keyword <;> simp only [lowerChildren, h, helse] <;> rfl

theorem lowerChildren_modifier (h : c.fate label.kind = .modifier) :
    lowerChildren source stop inType label keyword inFile (.node c below :: cs) = (do
      let word ← c.text source
      lowerChildren source stop inType (recordModifier label word) keyword inFile cs) := by
  cases keyword <;> simp only [lowerChildren, h]

theorem lowerChildren_name (h : c.fate label.kind = .name) :
    lowerChildren source stop inType label keyword inFile (.node c below :: cs) = (do
      let name ← c.text source
      lowerChildren source stop inType { label with name := some name } keyword inFile cs) := by
  cases keyword <;> simp only [lowerChildren, h]

theorem lowerChildren_opensFile (h : c.fate label.kind = .kept) (hopens : opensFile label.kind inFile c = true) :
    lowerChildren source stop inType label keyword inFile (.node c below :: cs) = (do
      let b ← Kid.lower source inType ⟨none, { start := c.span.start, stop }, .node c below⟩
      let (label', rest) ← lowerChildren source stop inType label keyword true cs
      return (label', [.node b.label (b.children ++ rest)])) := by
  unfold opensFile at hopens
  cases keyword <;> simp only [lowerChildren, h, hopens, if_true, Kid.lower, Concrete.info, bind_assoc, pure_bind,
    Branch.label, Branch.children]

theorem lowerChildren_kept (h : c.fate label.kind = .kept) (hopens : opensFile label.kind inFile c = false) :
    lowerChildren source stop inType label keyword inFile (.node c below :: cs) = (do
      let b ← Kid.lower source inType ⟨keyword, c.span, .node c below⟩
      let (label', rest) ← lowerChildren source stop inType label none inFile cs
      return (label', b :: rest)) := by
  unfold opensFile at hopens
  cases keyword <;> simp [lowerChildren, h, hopens, Kid.lower, Concrete.info]

/-- Only an `if` has a keyword that waits for an alternative. -/
def Waits (kind : NodeKind) (keyword : Option Token) : Prop :=
  keyword = none ∨ kind = .ifStatement

theorem waits_none (kind : NodeKind) : Waits kind none :=
  .inl rfl

theorem waits_of_isElse {kind : NodeKind} (h : isElse kind c = true) : Waits kind (some c.token) := by
  unfold isElse at h
  rw [Bool.and_eq_true, beq_iff_eq] at h
  exact .inr h.1

theorem Waits.eq_none {kind : NodeKind} (h : Waits kind keyword) (hopens : opensFile kind inFile c = true) :
    keyword = none := by
  unfold opensFile at hopens
  cases h with
  | inl h => exact h
  | inr h =>
    subst h
    cases hopens

theorem extends_of_lowerChildren (hw : Waits label.kind keyword)
    (h : lowerChildren source stop inType label keyword inFile cs = .ok (label', bs)) :
    Extends label label' (ownTokens label.kind keyword cs) := by
  induction cs generalizing label keyword inFile bs with
  | nil =>
    rw [lowerChildren] at h
    cases h
    rfl
  | cons t cs ih =>
    obtain ⟨c, below⟩ := t
    unfold ownTokens
    cases hfate : c.fate label.kind with
    | dropped =>
      rw [lowerChildren_dropped hfate] at h
      exact ih hw h
    | token =>
      cases helse : isElse label.kind c with
      | true =>
        rw [lowerChildren_else hfate helse] at h
        exact ih (waits_of_isElse helse) h
      | false =>
        rw [lowerChildren_token hfate helse] at h
        exact (extends_recordToken label c).trans (ih hw h)
    | modifier =>
      rw [lowerChildren_modifier hfate, bind_eq_ok] at h
      obtain ⟨word, _, h⟩ := h
      have hword := extends_recordModifier label word
      rw [← hword.kind_eq] at hw ⊢
      exact hword.trans (ih hw h)
    | name =>
      rw [lowerChildren_name hfate, bind_eq_ok] at h
      obtain ⟨name, _, h⟩ := h
      have hname : Extends label { label with name := some name } [] := by simp [Extends]
      exact hname.trans (ih hw h)
    | kept =>
      cases hopens : opensFile label.kind inFile c with
      | true =>
        rw [lowerChildren_opensFile hfate hopens] at h
        simp only [bind_eq_ok] at h
        obtain ⟨b, _, r, hrest, h⟩ := h
        cases h
        rw [hw.eq_none hopens] at hrest
        exact ih (waits_none _) hrest
      | false =>
        rw [lowerChildren_kept hfate hopens] at h
        simp only [bind_eq_ok] at h
        obtain ⟨b, _, r, hrest, h⟩ := h
        cases h
        exact ih (waits_none _) hrest

theorem Kid.lower_ok {k : Kid} {b : Branch} (h : k.lower source inType = .ok b) :
    ∃ own first, lowerParts source (k.keyword.elim k.tree.info.field fun _ => none) inType k.span k.tree
      = .ok (own, first) ∧ b = k.keyword.elim (.node own first) (elseClause · (.node own first) k.span.stop) := by
  unfold Kid.lower at h
  split at h
  . next hkeyword =>
    simp only [bind_eq_ok] at h
    obtain ⟨⟨own, first⟩, hparts, h⟩ := h
    cases h
    rw [hkeyword]
    exact ⟨own, first, hparts, rfl⟩
  . next token hkeyword =>
    simp only [bind_eq_ok] at h
    obtain ⟨⟨own, first⟩, hparts, h⟩ := h
    cases h
    rw [hkeyword]
    exact ⟨own, first, hparts, rfl⟩

/-- The kind of node that a tree becomes where it fills the given field, in the place of a type or not. -/
def kindAt (field : Option String) (inType : Bool) (t : Concrete) : NodeKind :=
  .ofGrammar t.info.kind (inType || isTypeField field)

/-- Whether what is below a tree there is in the place of a type. -/
def typeBelow (field : Option String) (inType : Bool) (t : Concrete) : Bool :=
  inType || isTypeField field || t.kindAt field inType == .typeName

theorem extends_of_lowerParts {field : Option String} {span : Span} {t : Concrete}
    (h : lowerParts source field inType span t = .ok (label, bs)) :
    Extends (t.info.label field (inType || isTypeField field) span) label
      (ownTokens (t.kindAt field inType) none t.children) := by
  cases t with
  | node c children =>
    rw [lowerParts] at h
    exact extends_of_lowerChildren (waits_none _) h

theorem span_of_lowerParts {field : Option String} {span : Span} {t : Concrete}
    (h : lowerParts source field inType span t = .ok (label, bs)) : label.span = span := by
  rw [extends_of_lowerParts h]
  rfl

theorem kind_of_lowerParts {field : Option String} {span : Span} {t : Concrete}
    (h : lowerParts source field inType span t = .ok (label, bs)) : label.kind = t.kindAt field inType := by
  rw [extends_of_lowerParts h]
  rfl

theorem extends_of_lower {span : Span} {t : Concrete} {b : Branch}
    (h : Kid.lower source inType ⟨none, span, t⟩ = .ok b) :
    Extends (t.info.label t.info.field (inType || isTypeField t.info.field) span) b.label
      (ownTokens (t.kindAt t.info.field inType) none t.children) := by
  obtain ⟨own, first, hparts, hb⟩ := Kid.lower_ok h
  subst hb
  exact extends_of_lowerParts hparts

theorem grammarKind_of_lower {span : Span} {t : Concrete} {b : Branch}
    (h : Kid.lower source inType ⟨none, span, t⟩ = .ok b) : b.label.grammarKind = t.info.kind := by
  rw [extends_of_lower h]
  rfl

theorem opensFile_of_ne {kind : NodeKind} (h : kind ≠ .compilationUnit) (c : Info) :
    opensFile kind inFile c = false := by
  simp [opensFile, h]

theorem opensFile_of_inFile (kind : NodeKind) (c : Info) : opensFile kind true c = false := by
  simp [opensFile]

theorem isFile_of_opensFile {kind : NodeKind} (h : opensFile kind inFile c = true) :
    kind = .compilationUnit ∧ c.kind = "file_scoped_namespace_declaration" ∧ inFile = false := by
  simpa [opensFile, Info.isFileNamespace, and_assoc] using h

theorem not_isFile_of_not_opensFile (h : opensFile .compilationUnit false c = false) :
    c.kind ≠ "file_scoped_namespace_declaration" := by
  simpa [opensFile, Info.isFileNamespace] using h

theorem adopt_of_file {b : Branch} (h : b.label.grammarKind = "file_scoped_namespace_declaration") :
    adopt (b :: bs) = [.node b.label (b.children ++ bs)] := by
  cases b with
  | node label children =>
    rw [adopt, if_pos]
    . rfl
    . rw [beq_iff_eq]
      exact h

theorem adopt_of_not_file {b : Branch} (h : b.label.grammarKind ≠ "file_scoped_namespace_declaration") :
    adopt (b :: bs) = b :: adopt bs := by
  cases b with
  | node label children =>
    rw [adopt, if_neg]
    rw [beq_iff_eq]
    exact h

theorem mapM_kids (hw : Waits label.kind keyword)
    (h : lowerChildren source stop inType label keyword inFile cs = .ok (label', bs)) :
    ∃ lowered, (kids stop label.kind keyword inFile cs).mapM (Kid.lower source inType) = .ok lowered ∧
      bs = if label.kind == .compilationUnit && !inFile then adopt lowered else lowered := by
  -- Induction on the children, with one case for each fate.
  induction cs generalizing label keyword inFile bs with
  | nil =>
    rw [lowerChildren] at h
    cases h
    refine ⟨[], rfl, ?_⟩
    rw [adopt, ite_self]
  | cons t cs ih =>
    obtain ⟨c, below⟩ := t
    unfold kids
    cases hfate : c.fate label.kind with
    | dropped =>
      rw [lowerChildren_dropped hfate] at h
      exact ih hw h
    | token =>
      cases helse : isElse label.kind c with
      | true =>
        rw [lowerChildren_else hfate helse] at h
        exact ih (waits_of_isElse helse) h
      | false =>
        rw [lowerChildren_token hfate helse] at h
        have hw' : Waits (recordToken label c).kind keyword := hw
        have hrest := ih hw' h
        exact hrest
    | modifier =>
      rw [lowerChildren_modifier hfate, bind_eq_ok] at h
      obtain ⟨word, _, h⟩ := h
      have hword := extends_recordModifier label word
      rw [← hword.kind_eq] at hw ⊢
      exact ih hw h
    | name =>
      rw [lowerChildren_name hfate, bind_eq_ok] at h
      obtain ⟨name, _, h⟩ := h
      have hw' : Waits { label with name := some name }.kind keyword := hw
      have hrest := ih hw' h
      exact hrest
    | kept =>
      cases hopens : opensFile label.kind inFile c with
      | true =>
        rw [lowerChildren_opensFile hfate hopens] at h
        simp only [bind_eq_ok] at h
        obtain ⟨b, hb, ⟨label₁, rest⟩, hrest, h⟩ := h
        cases h
        obtain ⟨lowered, hlowered, hrest⟩ := ih hw hrest
        refine ⟨b :: lowered, ?_, ?_⟩
        . simp only [if_true, List.mapM_cons, hb, hlowered]
          rfl
        . obtain ⟨hkind, hfile, hin⟩ := isFile_of_opensFile hopens
          have hgrammar : b.label.grammarKind = "file_scoped_namespace_declaration" := by
            rw [grammarKind_of_lower hb]
            exact hfile
          rw [hrest, adopt_of_file hgrammar, hkind, hin]
          rfl
      | false =>
        rw [lowerChildren_kept hfate hopens] at h
        simp only [bind_eq_ok] at h
        obtain ⟨b, hb, ⟨label₁, rest⟩, hrest, h⟩ := h
        cases h
        obtain ⟨lowered, hlowered, hrest⟩ := ih (waits_none _) hrest
        refine ⟨b :: lowered, ?_, ?_⟩
        . rw [if_neg (by simp), List.mapM_cons, hb, hlowered]
          rfl
        . rw [hrest]
          split
          . next hunit =>
            -- This is no namespace for the rest of the file, or it would have been opened.
            rw [Bool.and_eq_true, beq_iff_eq, Bool.not_eq_true'] at hunit
            have hkeyword : keyword = none := by
              cases hw with
              | inl hnone => exact hnone
              | inr hif =>
                rw [hunit.1] at hif
                cases hif
            subst hkeyword
            rw [adopt_of_not_file]
            rw [grammarKind_of_lower hb]
            rw [hunit.1, hunit.2] at hopens
            exact not_isFile_of_not_opensFile hopens
          . rfl

/-- A lowered tree: its label, and its children from those that stay nodes. -/
theorem lowerParts_ok {field : Option String} {span : Span} {t : Concrete}
    (h : lowerParts source field inType span t = .ok (label, bs)) :
    Extends (t.info.label field (inType || isTypeField field) span) label
      (ownTokens (t.kindAt field inType) none t.children) ∧
    ∃ lowered, (kids t.info.span.stop (t.kindAt field inType) none false t.children).mapM
        (Kid.lower source (t.typeBelow field inType)) = .ok lowered ∧
      bs = if t.kindAt field inType == .compilationUnit then adopt lowered else lowered := by
  refine ⟨extends_of_lowerParts h, ?_⟩
  cases t with
  | node c children =>
    rw [lowerParts] at h
    have hkids := mapM_kids (waits_none _) h
    simp only [Bool.not_false, Bool.and_true] at hkids
    exact hkids

theorem exists_lower {k : Kid} (h : ∀ field inType span, ∃ r, lowerParts source field inType span k.tree = .ok r) :
    ∃ b, k.lower source inType = .ok b := by
  unfold Kid.lower
  split
  . obtain ⟨r, hr⟩ := h k.tree.info.field inType k.span
    rw [hr]
    exact ⟨_, rfl⟩
  . obtain ⟨r, hr⟩ := h none inType k.span
    rw [hr]
    exact ⟨_, rfl⟩

theorem exists_lowerChildren (htext : ∀ t ∈ cs, ∃ text, t.info.text source = .ok text)
    (hparts : ∀ t ∈ cs, ∀ field inType span, ∃ r, lowerParts source field inType span t = .ok r) :
    ∃ r, lowerChildren source stop inType label keyword inFile cs = .ok r := by
  induction cs generalizing label keyword inFile with
  | nil =>
    rw [lowerChildren]
    exact ⟨_, rfl⟩
  | cons t cs ih =>
    rw [List.forall_mem_cons] at htext hparts
    obtain ⟨c, below⟩ := t
    obtain ⟨text, htext₁⟩ := htext.1
    rw [Concrete.info] at htext₁
    replace ih : ∀ inFile label keyword, ∃ r, lowerChildren source stop inType label keyword inFile cs = .ok r := by
      intro inFile label keyword
      exact ih htext.2 hparts.2
    cases hfate : c.fate label.kind with
    | dropped =>
      rw [lowerChildren_dropped hfate]
      apply ih
    | token =>
      cases helse : isElse label.kind c with
      | true =>
        rw [lowerChildren_else hfate helse]
        apply ih
      | false =>
        rw [lowerChildren_token hfate helse]
        apply ih
    | modifier =>
      rw [lowerChildren_modifier hfate, htext₁]
      apply ih
    | name =>
      rw [lowerChildren_name hfate, htext₁]
      apply ih
    | kept =>
      cases hopens : opensFile label.kind inFile c with
      | true =>
        obtain ⟨b, hb⟩ := exists_lower (k := ⟨none, { start := c.span.start, stop }, .node c below⟩) hparts.1
        obtain ⟨r, hr⟩ := ih true label keyword
        rw [lowerChildren_opensFile hfate hopens, hb, hr]
        exact ⟨_, rfl⟩
      | false =>
        obtain ⟨b, hb⟩ := exists_lower (k := ⟨keyword, c.span, .node c below⟩) hparts.1
        obtain ⟨r, hr⟩ := ih inFile label none
        rw [lowerChildren_kept hfate hopens, hb, hr]
        exact ⟨_, rfl⟩

theorem exists_lowerParts (t : Concrete) (h : ∀ s ∈ t.subtrees, ∃ text, s.info.text source = .ok text) :
    ∀ field inType span, ∃ r, lowerParts source field inType span t = .ok r := by
  induction t using induct with
  | node c children ih =>
    intro field inType span
    rw [lowerParts]
    apply exists_lowerChildren
    . intro t ht
      exact h t (mem_subtrees.mpr (.inr ⟨t, ht, mem_subtrees_self t⟩))
    . intro t ht
      apply ih t ht
      intro s hs
      exact h s (mem_subtrees.mpr (.inr ⟨t, ht, hs⟩))

end Lowered

end Concrete
end StructuralSearch
