import StructuralSearch.Concrete.Lowering
import StructuralSearch.Proofs.Outline.Layout

/-!
This module contains the tree of labels that a concrete tree is lowered to, and that the outline of the concrete tree is
the outline of this tree. What is written to a node by its number while others are built is written to its label before,
and what comes under a namespace that is left open is among its branches.
-/

namespace StructuralSearch
namespace Concrete

/-- The label of a node before anything is recorded on it. -/
def Info.label (c : Info) (field : Option String) (inType : Bool) (span : Span) : Label :=
  { kind := .ofGrammar c.kind inType
    grammarKind := c.kind
    role := field.bind Role.ofField?
    span }

/-- Records a token. Some grammars have modifiers as tokens. -/
def recordToken (label : Label) (c : Info) : Label :=
  let modifiers :=
    match Modifier.ofKeyword? c.kind with
    | some m => if label.kind.carriesModifiers then label.modifiers.insert m else label.modifiers
    | none => label.modifiers
  { label with modifiers, tokens := label.tokens ++ [c.token] }

/-- Records a modifier. Unknown ones are ignored. -/
def recordModifier (label : Label) (keyword : String) : Label :=
  match Modifier.ofKeyword? (String.ofList (Text.trim keyword.toList)) with
  | some m => { label with modifiers := label.modifiers.insert m }
  | none => label

/-- The clause around the `else` part of an `if`, from the keyword on. -/
def elseClause (keyword : Token) (alternative : Branch) (stop : Position) : Branch :=
  .node
    { kind := .elseClause
      grammarKind := "else_clause"
      role := some .alternative
      span := { start := keyword.span.start, stop }
      tokens := [keyword] }
    [alternative]

mutual

/-- Lowers a node that fills the given field and gets the given span, but leaves label and children apart. -/
def lowerParts (source : String) (field : Option String) (inType : Bool) (span : Span) :
    Concrete → Except Error (Label × List Branch)
  | .node c children =>
    let inType := inType || isTypeField field
    let label := c.label field inType span
    lowerChildren source c.span.stop (inType || label.kind == .typeName) label none false children

/--
Lowers the children of a node with the given label, which ends at `stop`. `keyword` is an `else` that has no
alternative yet; if there is none in the end, it is a token like any other. `inFile` says that a namespace for the rest
of the file has been met.
-/
def lowerChildren (source : String) (stop : Position) (inType : Bool) (label : Label) (keyword : Option Token)
    (inFile : Bool) : List Concrete → Except Error (Label × List Branch)
  | [] => .ok ({ label with tokens := label.tokens ++ keyword.toList }, [])
  | .node c below :: cs => do
    match c.fate label.kind with
    | .dropped => lowerChildren source stop inType label keyword inFile cs
    | .token =>
      if label.kind == .ifStatement && c.kind == "else" then
        lowerChildren source stop inType label (some c.token) inFile cs
      else
        lowerChildren source stop inType (recordToken label c) keyword inFile cs
    | .modifier =>
      let label := recordModifier label (← c.text source)
      lowerChildren source stop inType label keyword inFile cs
    | .name =>
      let label := { label with name := some (← c.text source) }
      lowerChildren source stop inType label keyword inFile cs
    | .kept =>
      if label.kind == .compilationUnit && c.isFileNamespace && !inFile then
        let span := { start := c.span.start, stop }
        let (own, first) ← lowerParts source c.field inType span (.node c below)
        let (label, rest) ← lowerChildren source stop inType label keyword true cs
        return (label, [.node own (first ++ rest)])
      else
        match keyword with
        | some token =>
          let (own, first) ← lowerParts source none inType c.span (.node c below)
          let (label, rest) ← lowerChildren source stop inType label none inFile cs
          return (label, elseClause token (.node own first) c.span.stop :: rest)
        | none =>
          let (own, first) ← lowerParts source c.field inType c.span (.node c below)
          let (label, rest) ← lowerChildren source stop inType label none inFile cs
          return (label, .node own first :: rest)

end

/-- The tree of labels for a concrete tree. -/
def lower (source : String) (t : Concrete) : Except Error Branch := do
  let (label, children) ← lowerParts source none false t.info.span t
  return .node label children

section Building

variable {b : Builder} {id p : Nat} {rest : List Nat} {label : Label}

/-- The builder with another label for a node. -/
def relabel (b : Builder) (id : Nat) (label : Label) : Builder :=
  b.modify id fun n => { n with toLabel := label }

theorem modify_congr {α : Type} {xs : Array α} {i : Nat} {f g : α → α} (h : ∀ a, xs[i]? = some a → f a = g a) :
    xs.modify i f = xs.modify i g := by
  apply Array.ext_getElem?
  intro j
  rw [Array.getElem?_modify, Array.getElem?_modify]
  split
  . next heq =>
    subst heq
    cases hget : xs[i]? with
    | none => rfl
    | some a => rw [Option.map_some, Option.map_some, h a hget]
  . rfl

theorem modify_comm {α : Type} (xs : Array α) (i j : Nat) {f g : α → α} (h : ∀ a, f (g a) = g (f a)) :
    (xs.modify i f).modify j g = (xs.modify j g).modify i f := by
  apply Array.ext_getElem?
  intro k
  rw [Array.getElem?_modify, Array.getElem?_modify, Array.getElem?_modify, Array.getElem?_modify]
  split
  . split
    . rw [Option.map_map, Option.map_map]
      congr 1
      funext a
      exact (h a).symm
    . rfl
  . rfl

/-- A change of a node that is only a change of its label. -/
theorem modify_eq_relabel (hlabel : (b.outline.node id).toLabel = label) {f : Node → Node} {g : Label → Label}
    (hf : ∀ n, f n = { n with toLabel := g n.toLabel }) : b.modify id f = relabel b id (g label) := by
  unfold relabel Builder.modify
  congr 1
  refine modify_congr ?_
  intro n hn
  have hnode : b.outline.node id = n := by
    unfold Builder.outline Outline.node
    rw [hn]
    rfl
  rw [hf, ← hlabel, hnode]

theorem relabel_self (hlabel : (b.outline.node id).toLabel = label) : relabel b id label = b := by
  have hnodes : b.nodes.modify id (fun n => { n with toLabel := label }) = b.nodes := by
    apply Array.ext_getElem?
    intro i
    rw [Array.getElem?_modify]
    split
    . next heq =>
      subst heq
      cases hget : b.nodes[id]? with
      | none => rfl
      | some n =>
        unfold Builder.outline Outline.node at hlabel
        rw [hget] at hlabel
        rw [Option.map_some, ← hlabel]
        rfl
    . rfl
  unfold relabel Builder.modify
  rw [hnodes]

@[simp]
theorem relabel_size (b : Builder) (id : Nat) (label : Label) : (relabel b id label).nodes.size = b.nodes.size := by
  simp [relabel, Builder.modify]

theorem relabel_relabel (b : Builder) (id : Nat) (label label' : Label) :
    relabel (relabel b id label) id label' = relabel b id label' := by
  unfold relabel Builder.modify
  dsimp only
  rw [Branch.modify_modify]
  rfl

theorem label_relabel (hid : id < b.nodes.size) (label : Label) :
    ((relabel b id label).outline.node id).toLabel = label := by
  unfold relabel
  rw [Builder.outline_modify_node, if_pos ⟨rfl, hid⟩]

theorem relabel_grow (hid : id < b.nodes.size) (p : Nat) (label : Label) (ts : List Branch) :
    relabel (Branch.grow b p ts) id label = Branch.grow (relabel b id label) p ts := by
  have hcomm := modify_comm b.nodes p id (f := Branch.addChildren (Branch.roots b.nodes.size ts))
    (g := fun n => { n with toLabel := label }) fun _ => rfl
  unfold Branch.grow
  rw [relabel_size]
  unfold relabel Builder.modify
  dsimp only
  rw [Branch.modify_append (by simpa using hid), hcomm]

theorem relabel_openChild (hid : id < b.nodes.size) (p : Nat) (own label : Label) :
    relabel (b.openChild p own) id label = (relabel b id label).openChild p own := by
  have hcomm := modify_comm b.nodes p id (f := fun n => { n with children := n.children ++ [b.nodes.size] })
    (g := fun n => { n with toLabel := label }) fun _ => rfl
  unfold Builder.openChild
  rw [relabel_size]
  unfold relabel Builder.modify
  dsimp only
  rw [Array.push_eq_append, Branch.modify_append (by simpa using hid), hcomm, Array.push_eq_append]

theorem label_grow (hid : id < b.nodes.size) (p : Nat) (ts : List Branch) :
    ((Branch.grow b p ts).outline.node id).toLabel = (b.outline.node id).toLabel := by
  unfold Branch.grow Builder.outline Outline.node
  dsimp only
  rw [Array.getElem?_append_left (by simpa using hid), Array.getElem?_modify]
  split
  . next heq =>
    subst heq
    rw [Array.getElem?_eq_getElem hid]
    rfl
  . rfl

theorem label_openChild (hp : p < b.nodes.size) (hid : id < b.nodes.size) (own : Label) :
    ((b.openChild p own).outline.node id).toLabel = (b.outline.node id).toLabel := by
  rw [Builder.openChild_node hp, if_neg (by omega)]
  split
  . rfl
  . rfl

/-- A node with number `i` can be opened, and `opening` is the builder then, by the label of the node. -/
structure Opens (b : Builder) (i : Nat) (opening : Label → Builder) : Prop where
  result_eq : ∀ label, (Builder.openLabel label).result b = .ok (i, opening label)
  relabel_eq : ∀ label label', relabel (opening label) i label' = opening label'
  opened_eq : ∀ label, (opening label).opened = i :: b.opened
  lt_size : ∀ label, i < (opening label).nodes.size
  label_eq : ∀ label, ((opening label).outline.node i).toLabel = label

theorem opens_openChild (hopened : b.opened = p :: rest) (hp : p < b.nodes.size) :
    Opens b b.nodes.size (b.openChild p) where
  result_eq label := Branch.openLabel_eq label hopened
  relabel_eq label label' := by
    have hpush := Branch.modify_push (b.nodes.modify p fun n => { n with children := n.children ++ [b.nodes.size] })
      { label with parent := some p, children := [] } fun n => { n with toLabel := label' }
    rw [Array.size_modify] at hpush
    unfold relabel Builder.modify Builder.openChild
    dsimp only
    rw [hpush]
  opened_eq label := rfl
  lt_size label := by simp
  label_eq label := by
    rw [Builder.openChild_node hp, if_pos rfl]

theorem opens_new (source : String) (path : Option String) :
    Opens (Builder.new source path) 0 (Builder.new source path).openRoot where
  result_eq label := rfl
  relabel_eq label label' := rfl
  opened_eq label := rfl
  lt_size label := by simp [Builder.openRoot]
  label_eq label := rfl

theorem Opens.modify_eq {i : Nat} {opening : Label → Builder} (h : Opens b i opening) (label : Label) {f : Node → Node}
    {g : Label → Label} (hf : ∀ n, f n = { n with toLabel := g n.toLabel }) :
    (opening label).modify i f = opening (g label) := by
  rw [modify_eq_relabel (h.label_eq label) hf, h.relabel_eq]

/-- Node `id` has the label, and `p` is the node that what is built comes under. -/
structure Fills (b : Builder) (id p : Nat) (label : Label) : Prop where
  opened_eq : ∃ rest, b.opened = p :: rest
  parent_lt : p < b.nodes.size
  lt_size : id < b.nodes.size
  label_eq : (b.outline.node id).toLabel = label

theorem Opens.fills {i : Nat} {opening : Label → Builder} (h : Opens b i opening) (label : Label) :
    Fills (opening label) i i label :=
  ⟨⟨b.opened, h.opened_eq label⟩, h.lt_size label, h.lt_size label, h.label_eq label⟩

theorem Fills.relabel (h : Fills b id p label) (label' : Label) : Fills (relabel b id label') id p label' := by
  refine ⟨h.opened_eq, ?_, ?_, label_relabel h.lt_size label'⟩
  . rw [relabel_size]
    exact h.parent_lt
  . rw [relabel_size]
    exact h.lt_size

theorem Fills.grow (h : Fills b id p label) (ts : List Branch) : Fills (Branch.grow b p ts) id p label := by
  have hparent := h.parent_lt
  have hid := h.lt_size
  refine ⟨h.opened_eq, ?_, ?_, ?_⟩
  . rw [Branch.grow_size]
    omega
  . rw [Branch.grow_size]
    omega
  . rw [label_grow hid, h.label_eq]

/-- What is built next comes under a node that is left open. -/
theorem Fills.openChild (h : Fills b id p label) (own : Label) (ts : List Branch) :
    Fills (Branch.grow (b.openChild p own) b.nodes.size ts) id b.nodes.size label := by
  have hid := h.lt_size
  have hsize := Branch.grow_size (b.openChild p own) b.nodes.size ts
  rw [Builder.openChild_size] at hsize
  refine ⟨⟨b.opened, rfl⟩, by omega, by omega, ?_⟩
  rw [label_grow (by rw [Builder.openChild_size]; omega), label_openChild h.parent_lt hid, h.label_eq]

end Building

section Steps

variable {b : Builder} {id p i : Nat} {rest : List Nat} {label : Label} {opening : Label → Builder}

@[simp]
theorem result_liftM {α : Type} (x : Except Error α) (b : Builder) :
    (liftM x : Building α).result b = x.map (·, b) := by
  cases x with
  | ok a => rfl
  | error e => rfl

theorem result_pushToken (hlabel : (b.outline.node id).toLabel = label) (token : Token) :
    (Builder.pushToken id token).result b =
      .ok ((), relabel b id { label with tokens := label.tokens ++ [token] }) := by
  rw [← modify_eq_relabel (g := fun l => { l with tokens := l.tokens ++ [token] }) hlabel fun _ => rfl]
  rfl

theorem result_addModifier (hlabel : (b.outline.node id).toLabel = label) (m : Modifier) :
    (Builder.addModifier id m).result b =
      .ok ((), relabel b id { label with modifiers := label.modifiers.insert m }) := by
  rw [← modify_eq_relabel (g := fun l => { l with modifiers := l.modifiers.insert m }) hlabel fun _ => rfl]
  rfl

theorem result_setName (hlabel : (b.outline.node id).toLabel = label) (name : String) :
    (Builder.setName id name).result b = .ok ((), relabel b id { label with name := some name }) := by
  rw [← modify_eq_relabel (g := fun l => { l with name := some name }) hlabel fun _ => rfl]
  rfl

theorem result_recordToken (hid : id < b.nodes.size) (hlabel : (b.outline.node id).toLabel = label) (c : Info) :
    (Lowering.recordToken id label.kind c).result b = .ok ((), relabel b id (recordToken label c)) := by
  unfold Lowering.recordToken recordToken
  rw [Building.result_bind]
  cases hword : Modifier.ofKeyword? c.kind with
  | none =>
    rw [ite_self]
    exact result_pushToken hlabel c.token
  | some m =>
    dsimp only
    split
    . rw [Option.forM, result_addModifier hlabel, ok_bind, result_pushToken (label_relabel hid _), relabel_relabel]
    . exact result_pushToken hlabel c.token

theorem result_recordModifier (hlabel : (b.outline.node id).toLabel = label) (word : String) :
    (Lowering.recordModifier id word).result b = .ok ((), relabel b id (recordModifier label word)) := by
  unfold Lowering.recordModifier recordModifier
  cases Modifier.ofKeyword? (String.ofList (Text.trim word.toList)) with
  | none =>
    rw [relabel_self hlabel]
    rfl
  | some m => exact result_addModifier hlabel m

theorem kind_recordModifier (label : Label) (word : String) : (recordModifier label word).kind = label.kind := by
  unfold recordModifier
  split
  . rfl
  . rfl

/-- The node is closed once its branches are built. -/
theorem result_lowerNode {node : Building Nat} {parts : Except Error (Label × List Branch)}
    (hnode : node.result b = parts.map fun r => (b.nodes.size, Branch.grow (b.openChild p r.1) b.nodes.size r.2)) :
    (Lowering.lowerNode node).result b = parts.map fun r => (b.nodes.size, Branch.grow b p [.node r.1 r.2]) := by
  unfold Lowering.lowerNode
  rw [Building.result_bind, hnode]
  cases parts with
  | error e => rfl
  | ok r =>
    have hopen : (Branch.grow (b.openChild p r.1) b.nodes.size r.2).opened = b.nodes.size :: b.opened := rfl
    simp only [Except.map, ok_bind, Branch.closeNode_eq hopen, Branch.grow_openChild]

theorem Opens.result_setGrammarKind (h : Opens b i opening) (label : Label) (grammarKind : String) :
    (Builder.setGrammarKind i grammarKind).result (opening label) = .ok ((), opening { label with grammarKind }) := by
  rw [← h.modify_eq (g := fun l => { l with grammarKind }) label fun _ => rfl]
  rfl

theorem Opens.result_setRole (h : Opens b i opening) (label : Label) (role : Role) :
    (Builder.setRole i role).result (opening label) = .ok ((), opening { label with role := some role }) := by
  rw [← h.modify_eq (g := fun l => { l with role := some role }) label fun _ => rfl]
  rfl

theorem Opens.result_role (h : Opens b i opening) (hlabel : label.role = none) (role? : Option Role) :
    (Option.forM role? (Builder.setRole i)).result (opening label) =
      .ok ((), opening { label with role := role? }) := by
  cases role? with
  | none =>
    cases label
    cases hlabel
    rfl
  | some role => exact h.result_setRole label role

theorem Opens.result_pushToken (h : Opens b i opening) (label : Label) (token : Token) :
    (Builder.pushToken i token).result (opening label) =
      .ok ((), opening { label with tokens := label.tokens ++ [token] }) := by
  rw [← h.modify_eq (g := fun l => { l with tokens := l.tokens ++ [token] }) label fun _ => rfl]
  rfl

/-- The clause is opened and labelled, gets the alternative, and is closed. -/
theorem result_lowerElseClause (hopened : b.opened = p :: rest) (hp : p < b.nodes.size) (token : Token)
    (stop : Position) {node : Building Nat} {parts : Except Error (Label × List Branch)}
    (hnode : ∀ {b : Builder} {p rest}, b.opened = p :: rest → p < b.nodes.size →
      node.result b = parts.map fun r => (b.nodes.size, Branch.grow (b.openChild p r.1) b.nodes.size r.2)) :
    (Lowering.lowerElseClause token stop node).result b =
      parts.map fun r => ((), Branch.grow b p [elseClause token (.node r.1 r.2) stop]) := by
  have hopens := opens_openChild hopened hp
  have hopen : ∀ label, (b.openChild p label).opened = b.nodes.size :: b.opened := fun _ => rfl
  have hlower := fun label => result_lowerNode (hnode (hopen label) (hopens.lt_size label))
  unfold Lowering.lowerElseClause Builder.openNode
  simp only [Building.result_bind, hopens.result_eq, hopens.result_setGrammarKind, hopens.result_setRole,
    hopens.result_pushToken, ok_bind, hlower]
  cases parts with
  | error e => rfl
  | ok r =>
    have hopened' : ∀ label, (Branch.grow (b.openChild p label) b.nodes.size [.node r.1 r.2]).opened =
      b.nodes.size :: b.opened := fun _ => rfl
    simp only [Except.map, ok_bind, Building.result_discard, Branch.closeNode_eq (hopened' _), Branch.grow_openChild]
    rfl

end Steps

section Lowered

/-- The builder without the namespace that was left open, if there is one. -/
def leave (b : Builder) (inFile : Bool) : Builder :=
  { b with opened := if inFile then b.opened.tail else b.opened }

theorem result_closeNamespace {b : Builder} {p : Nat} {rest : List Nat} (inFile : Bool)
    (hopened : b.opened = p :: rest) :
    (Lowering.closeNamespace inFile).result b = .ok ((), leave b inFile) := by
  unfold Lowering.closeNamespace leave
  cases inFile with
  | false => rfl
  | true =>
    rw [if_pos rfl, Building.result_discard, Branch.closeNode_eq hopened, hopened]
    rfl

/-- What is built under a namespace that is left open is among its branches once it is closed. -/
theorem leave_namespace {b : Builder} {id : Nat} (hid : id < b.nodes.size) (p : Nat) (own label : Label)
    (first more : List Branch) :
    leave (Branch.grow (relabel (Branch.grow (b.openChild p own) b.nodes.size first) id label) b.nodes.size more) true =
      Branch.grow (relabel b id label) p [.node own (first ++ more)] := by
  have hid' : id < (b.openChild p own).nodes.size := by
    rw [Builder.openChild_size]
    omega
  have hgrow := Branch.grow_openChild (relabel b id label) p own (first ++ more)
  rw [relabel_size] at hgrow
  rw [relabel_grow hid', relabel_openChild hid, Branch.grow_append (by simp), ← hgrow]
  rfl

mutual

/-- Lowering a node opens one with the label of the tree, builds the branches under it and leaves it open. -/
theorem result_openNode (source : String) (field : Option String) (inType : Bool) (span : Span) {b : Builder} {i : Nat}
    {opening : Label → Builder} (hopens : Opens b i opening) : (t : Concrete) →
    (Lowering.openNode source field inType span t).result b =
      (lowerParts source field inType span t).map fun r => (i, Branch.grow (opening r.1) i r.2)
  | .node c children => by
    have hchildren := fun label => result_lowerChildren source c.span.stop
      ((inType || isTypeField field) || label.kind == .typeName) none false (hopens.fills label) children
    rw [Lowering.openNode, lowerParts]
    unfold Builder.openNode
    simp only [Building.result_bind, hopens.result_eq, hopens.result_setGrammarKind, ok_bind]
    rw [hopens.result_role rfl]
    simp only [ok_bind]
    have hown := hchildren (c.label field (inType || isTypeField field) span)
    unfold Info.label at hown ⊢
    dsimp only at hown ⊢
    rw [hown]
    cases lowerChildren source c.span.stop _ _ none false children with
    | error e => rfl
    | ok r =>
      simp only [Except.map, hopens.relabel_eq]
      rfl

/-- Lowering the children of a node gives it the label of the tree and builds the branches under what is open. -/
theorem result_lowerChildren (source : String) (stop : Position) (inType : Bool) {b : Builder} {id p : Nat}
    {label : Label} (keyword : Option Token) (inFile : Bool) (h : Fills b id p label) : (cs : List Concrete) →
    (Lowering.lowerChildren source stop id label.kind inType keyword inFile cs).result b =
      (lowerChildren source stop inType label keyword inFile cs).map fun r =>
        ((), leave (Branch.grow (relabel b id r.1) p r.2) inFile)
  | [] => by
    obtain ⟨rest, hopened⟩ := h.opened_eq
    rw [Lowering.lowerChildren, lowerChildren]
    simp only [Building.result_bind, result_closeNamespace inFile hopened, ok_bind, Except.map, Branch.grow_nil]
    cases keyword with
    | none =>
      rw [Option.toList_none, List.append_nil, relabel_self h.label_eq]
      rfl
    | some token => exact result_pushToken (b := leave b inFile) h.label_eq token
  | .node c below :: cs => by
    -- What is recorded on the label is recorded before the rest is lowered, and what is built is built before.
    have hrecorded : ∀ label' keyword, label'.kind = label.kind →
        (Lowering.lowerChildren source stop id label.kind inType keyword inFile cs).result (relabel b id label') =
          (lowerChildren source stop inType label' keyword inFile cs).map fun r =>
            ((), leave (Branch.grow (relabel b id r.1) p r.2) inFile) := by
      intro label' keyword hkind
      have hrest := result_lowerChildren source stop inType keyword inFile (h.relabel label') cs
      simp only [relabel_relabel] at hrest
      rw [← hkind]
      exact hrest
    have hbuilt : ∀ t keyword,
        (Lowering.lowerChildren source stop id label.kind inType keyword inFile cs).result (Branch.grow b p [t]) =
          (lowerChildren source stop inType label keyword inFile cs).map fun r =>
            ((), leave (Branch.grow (relabel b id r.1) p (t :: r.2)) inFile) := by
      intro t keyword
      rw [result_lowerChildren source stop inType keyword inFile (h.grow [t]) cs]
      congr 1
      funext r
      rw [relabel_grow h.lt_size, Branch.grow_append (h.relabel r.1).parent_lt, List.singleton_append]
    obtain ⟨rest, hopened⟩ := h.opened_eq
    have hopens := opens_openChild hopened h.parent_lt
    rw [Lowering.lowerChildren.eq_def, lowerChildren.eq_def]
    dsimp only
    cases c.fate label.kind with
    | dropped => exact result_lowerChildren source stop inType keyword inFile h cs
    | token =>
      dsimp only
      split
      . exact result_lowerChildren source stop inType (some c.token) inFile h cs
      . rw [Building.result_bind, result_recordToken h.lt_size h.label_eq, ok_bind]
        exact hrecorded (recordToken label c) keyword rfl
    | modifier =>
      dsimp only
      rw [Building.result_bind, result_liftM]
      cases c.text source with
      | error e => rfl
      | ok word =>
        simp only [Except.map, ok_bind, Building.result_bind, result_recordModifier h.label_eq]
        exact hrecorded (recordModifier label word) keyword (kind_recordModifier label word)
    | name =>
      dsimp only
      rw [Building.result_bind, result_liftM]
      cases c.text source with
      | error e => rfl
      | ok name =>
        simp only [Except.map, ok_bind, Building.result_bind, result_setName h.label_eq]
        exact hrecorded { label with name := some name } keyword rfl
    | kept =>
      dsimp only
      split
      . next hfile =>
        have hout : inFile = false := by
          rw [Bool.and_eq_true, Bool.not_eq_true'] at hfile
          exact hfile.2
        subst hout
        rw [Building.result_bind,
          result_openNode source c.field inType { start := c.span.start, stop } hopens (.node c below)]
        cases lowerParts source c.field inType { start := c.span.start, stop } (.node c below) with
        | error e => rfl
        | ok r =>
          have hrest := result_lowerChildren source stop inType keyword true (h.openChild r.1 r.2) cs
          simp only [Except.map, ok_bind, hrest, leave_namespace h.lt_size]
          cases lowerChildren source stop inType label keyword true cs with
          | error e => rfl
          | ok r' => rfl
      . cases keyword with
        | some token =>
          dsimp only
          rw [Building.result_bind, result_lowerElseClause hopened h.parent_lt token c.span.stop fun hopened' hp' =>
            result_openNode source none inType c.span (opens_openChild hopened' hp') (.node c below)]
          cases lowerParts source none inType c.span (.node c below) with
          | error e => rfl
          | ok r =>
            simp only [Except.map, ok_bind, hbuilt]
            cases lowerChildren source stop inType label none inFile cs with
            | error e => rfl
            | ok r' => rfl
        | none =>
          dsimp only
          rw [Building.result_bind,
            result_lowerNode (result_openNode source c.field inType c.span hopens (.node c below))]
          cases lowerParts source c.field inType c.span (.node c below) with
          | error e => rfl
          | ok r =>
            simp only [Except.map, ok_bind, hbuilt]
            cases lowerChildren source stop inType label none inFile cs with
            | error e => rfl
            | ok r' => rfl

end

/-- The outline of a concrete tree is that of its tree of labels. -/
theorem toOutline_eq (t : Concrete) (source : String) (path : Option String) :
    t.toOutline source path = (do
      let b ← t.lower source
      b.toOutline source path) := by
  unfold toOutline lower Lowering.lowerNode
  rw [Builder.build_eq_bind, Building.result_bind,
    result_openNode source none false t.info.span (opens_new source path) t]
  cases lowerParts source none false t.info.span t with
  | error e => rfl
  | ok r =>
    have hopened : (Branch.grow ((Builder.new source path).openRoot r.1) 0 r.2).opened = [0] := rfl
    simp only [Except.map, ok_bind, Branch.closeNode_eq hopened]
    change _ = (Branch.node r.1 r.2).toOutline source path
    rw [Branch.toOutline, Branch.build_new, ok_bind]

end Lowered

end Concrete
end StructuralSearch
