import StructuralSearch.Proofs.Failure
import StructuralSearch.Proofs.Outline.Links

/-!
This module contains runs of a builder: the calls that it can get and what every sequence of them keeps. The open nodes
are the path from some node to the root, and that node lies on the path from the last node to the root.
-/

namespace StructuralSearch

namespace Building

variable {α β : Type}

/-- What a step comes to together with the builder that it leaves, if it does not fail. -/
def result (x : Building α) (b : Builder) : Except Error (α × Builder) :=
  (x.perform b).1.map (·, (x.perform b).2)

theorem perform_bind (x : Building α) (f : α → Building β) (b : Builder) : (x >>= f).perform b =
    match x.perform b with
    | (.ok a, b) => (f a).perform b
    | (.error e, b) => (.error e, b) := by
  change (match x.perform b with | (a, b) => (ExceptT.bindCont f a).run b) = _
  cases x.perform b with
  | mk r b =>
    cases r with
    | ok a => rfl
    | error e => rfl

theorem perform_discard (x : Building α) (b : Builder) :
    (discard x).perform b = ((x.perform b).1.map fun _ => (), (x.perform b).2) := by
  change (x >>= fun _ => pure ()).perform b = _
  rw [perform_bind]
  cases x.perform b with
  | mk r b =>
    cases r with
    | ok a => rfl
    | error e => rfl

@[simp]
theorem result_bind (x : Building α) (f : α → Building β) (b : Builder) :
    (x >>= f).result b = x.result b >>= fun r => (f r.1).result r.2 := by
  unfold result
  rw [perform_bind]
  cases x.perform b with
  | mk r b =>
    cases r with
    | ok a => rfl
    | error e => rfl

@[simp]
theorem result_discard (x : Building α) (b : Builder) : (discard x).result b = (x.result b).map fun r => ((), r.2) := by
  unfold result
  rw [perform_discard]
  cases x.perform b with
  | mk r b =>
    cases r with
    | ok a => rfl
    | error e => rfl

end Building

namespace Builder

theorem build_eq_bind {α : Type} (source : String) (path : Option String) (x : Building α) :
    build source path x = x.result (new source path) >>= fun r => r.2.finish := by
  unfold build Building.result
  cases x.perform (new source path) with
  | mk r b =>
    cases r with
    | ok a => rfl
    | error e => rfl

/-- A call of a builder. -/
inductive Call where
  | openLabel (label : Label)
  | closeNode
  | setGrammarKind (id : Nat) (grammarKind : String)
  | setRole (id : Nat) (role : Role)
  | setName (id : Nat) (name : String)
  | addModifier (id : Nat) (m : Modifier)
  | pushToken (id : Nat) (token : Token)
  deriving DecidableEq, Repr

/-- The step that is called for. -/
def Call.step : Call → Building Unit
  | .openLabel label => discard (Builder.openLabel label)
  | .closeNode => discard Builder.closeNode
  | .setGrammarKind i grammarKind => Builder.setGrammarKind i grammarKind
  | .setRole i role => Builder.setRole i role
  | .setName i name => Builder.setName i name
  | .addModifier i m => Builder.addModifier i m
  | .pushToken i token => Builder.pushToken i token

/-- The builder that a call leaves. -/
def call (b : Builder) (c : Call) : Builder :=
  (c.step.perform b).2

/-- The builder after a sequence of calls. -/
def calls (b : Builder) (cs : List Call) : Builder :=
  cs.foldl call b

/-- The nodes so far as an outline. -/
def outline (b : Builder) : Outline :=
  { nodes := b.nodes, path := b.path, source := b.source }

structure WellFormed (b : Builder) : Prop where
  linked : b.outline.Linked
  opened_lt : ∀ i ∈ b.opened, i < b.nodes.size
  opened_eq : b.opened = [] ∨ ∃ p, p ∈ b.outline.lineage (b.nodes.size - 1) ∧ b.opened = b.outline.lineage p

theorem new_wellFormed (source : String) (path : Option String) : (new source path).WellFormed where
  linked := {
    parent_zero := rfl
    parent_succ := by
      intro i hi
      cases hi
    children_eq := by
      intro i
      rfl
  }
  opened_lt := by simp [new]
  opened_eq := .inl rfl

section Modify

variable {b : Builder} {i : Nat} {f : Node → Node}

theorem outline_modify_size : (b.modify i f).outline.size = b.outline.size := by
  simp [modify, outline, Outline.size]

theorem outline_modify_node (j : Nat) :
    (b.modify i f).outline.node j = if i = j ∧ j < b.nodes.size then f (b.outline.node j) else b.outline.node j := by
  unfold modify outline Outline.node
  dsimp
  rw [Array.getElem?_modify]
  by_cases hj : j < b.nodes.size
  . simp only [Array.getElem?_eq_getElem hj, hj]
    split <;> simp [*]
  . simp only [Array.getElem?_eq_none (Nat.le_of_not_lt hj), hj]
    split <;> simp [*]

theorem WellFormed.modify (h : b.WellFormed) (hparent : ∀ n, (f n).parent = n.parent)
    (hchildren : ∀ n, (f n).children = n.children) : (b.modify i f).WellFormed := by
  -- The links do not change.
  have hp : ∀ j, (b.modify i f).outline.parent? j = b.outline.parent? j := by
    intro j
    unfold Outline.parent?
    rw [outline_modify_node]
    split
    . rw [hparent]
    . rfl
  have hc : ∀ j, (b.modify i f).outline.children j = b.outline.children j := by
    intro j
    unfold Outline.children
    rw [outline_modify_node]
    split
    . rw [hchildren]
    . rfl
  have hl : ∀ j, (b.modify i f).outline.lineage j = b.outline.lineage j := by
    intro j
    apply Outline.lineage_congr
    intros
    apply hp
  have hsize : (b.modify i f).nodes.size = b.nodes.size := outline_modify_size
  refine ⟨⟨?_, ?_, ?_⟩, ?_, ?_⟩
  . rw [hp]
    exact h.linked.parent_zero
  . intro j hj
    rw [outline_modify_size] at hj
    rw [hp, hl]
    exact h.linked.parent_succ j hj
  . intro j
    rw [hc, h.linked.children_eq, outline_modify_size]
    simp only [hp]
  . intro j hj
    rw [hsize]
    exact h.opened_lt j hj
  . simp only [hl, hsize]
    exact h.opened_eq

end Modify

section Open

variable {b b' : Builder} {label : Label} {id p : Nat} {rest : List Nat}

/-- The builder after the root has been opened. -/
def openRoot (b : Builder) (label : Label) : Builder :=
  { b with nodes := #[{ label with parent := none, children := [] }], opened := [0] }

/-- The builder after a child of `p` has been opened. -/
def openChild (b : Builder) (p : Nat) (label : Label) : Builder :=
  { b with
    nodes := (b.nodes.modify p fun n => { n with children := n.children ++ [b.nodes.size] }).push
      { label with parent := some p, children := [] }
    opened := b.nodes.size :: b.opened }

/-- Opening a node fails if there is a root and it is closed. -/
theorem perform_openLabel (label : Label) (b : Builder) : (Builder.openLabel label).perform b =
    match b.opened with
    | [] =>
      if b.nodes.size = 0 then (.ok 0, b.openRoot label)
      else (.error (.invalidArgument (.secondRoot label.kind)), b)
    | p :: _ => (.ok b.nodes.size, b.openChild p label) := by
  obtain ⟨nodes, opened, path, source⟩ := b
  cases opened with
  | nil =>
    by_cases hsize : nodes.size = 0
    . have hempty : nodes = #[] := Array.eq_empty_of_size_eq_zero hsize
      subst hempty
      rfl
    . change (if nodes.size = 0 then _ else (throw _ : Building Nat)).perform _ = _
      rw [if_neg hsize, if_neg hsize]
      rfl
  | cons p rest => rfl

/-- All that opening a node can do. -/
theorem openLabel_cases (h : (Builder.openLabel label).result b = .ok (id, b')) :
    (b.opened = [] ∧ b.nodes.size = 0 ∧ id = 0 ∧ b' = b.openRoot label) ∨
    (∃ p rest, b.opened = p :: rest ∧ id = b.nodes.size ∧ b' = b.openChild p label) := by
  unfold Building.result at h
  rw [perform_openLabel] at h
  split at h
  . next hopened =>
    split at h
    . next hsize =>
      cases h
      exact .inl ⟨hopened, hsize, rfl, rfl⟩
    . cases h
  . next p rest hopened =>
    cases h
    exact .inr ⟨p, rest, hopened, rfl, rfl⟩

theorem openRoot_wellFormed : (b.openRoot label).WellFormed where
  linked := {
    parent_zero := rfl
    parent_succ := by
      intro i hi
      simp only [openRoot, outline, Outline.size, List.size_toArray, List.length_cons, List.length_nil] at hi
      omega
    children_eq := by
      intro i
      cases i with
      | zero => rfl
      | succ i => rfl
  }
  opened_lt := by simp [openRoot]
  opened_eq := by
    refine .inr ⟨0, ?_, ?_⟩
    . simp [openRoot]
    . unfold Outline.lineage
      rw [Outline.ancestors_of_parent?_eq_none]
      . rfl
      . rfl

@[simp]
theorem openChild_size : (b.openChild p label).nodes.size = b.nodes.size + 1 := by
  simp [openChild]

theorem openChild_node (hp : p < b.nodes.size) (j : Nat) :
    (b.openChild p label).outline.node j =
      if j = b.nodes.size then
        { label with parent := some p, children := [] }
      else if p = j then
        { b.outline.node j with children := b.outline.children j ++ [b.nodes.size] }
      else
        b.outline.node j := by
  unfold openChild outline Outline.children Outline.node
  dsimp
  rw [Array.getElem?_push, Array.size_modify, Array.getElem?_modify]
  split
  . rfl
  . split
    . next heq =>
      subst heq
      simp [Array.getElem?_eq_getElem hp]
    . rfl

theorem openChild_parent? (hp : p < b.nodes.size) (j : Nat) :
    (b.openChild p label).outline.parent? j =
      if j = b.nodes.size then some p else b.outline.parent? j := by
  unfold Outline.parent?
  rw [openChild_node hp]
  split
  . rfl
  . split
    . rfl
    . rfl

theorem openChild_children (hp : p < b.nodes.size) (j : Nat) :
    (b.openChild p label).outline.children j =
      if p = j then b.outline.children j ++ [b.nodes.size] else b.outline.children j := by
  unfold Outline.children
  rw [openChild_node hp]
  split
  . next heq =>
    rw [if_neg (by omega)]
    have hsize : b.outline.size ≤ j := Nat.le_of_eq heq.symm
    rw [Outline.node_of_size_le hsize]
    rfl
  . split
    . rfl
    . rfl

theorem openChild_lineage (hp : p < b.nodes.size) {j : Nat} (hj : j < b.nodes.size) :
    (b.openChild p label).outline.lineage j = b.outline.lineage j := by
  apply Outline.lineage_congr
  intro k hk
  rw [openChild_parent? hp, if_neg]
  omega

theorem openChild_lineage_size (hp : p < b.nodes.size) :
    (b.openChild p label).outline.lineage b.nodes.size = b.nodes.size :: b.outline.lineage p := by
  have hparent : (b.openChild p label).outline.parent? b.nodes.size = some p := by
    rw [openChild_parent? hp, if_pos rfl]
  rw [Outline.lineage, Outline.ancestors_of_parent?_eq_some hparent hp, openChild_lineage hp hp]

theorem WellFormed.openChild (h : b.WellFormed) (hopened : b.opened = p :: rest) :
    (b.openChild p label).WellFormed := by
  have hp : p < b.nodes.size := by
    apply h.opened_lt
    simp [hopened]
  -- The path of the open nodes starts at the parent.
  obtain ⟨hmem, hpath⟩ : p ∈ b.outline.lineage (b.nodes.size - 1) ∧ b.opened = b.outline.lineage p := by
    cases h.opened_eq with
    | inl hnil =>
      rw [hnil] at hopened
      cases hopened
    | inr hex =>
      obtain ⟨q, hq, heq⟩ := hex
      have hpq : p = q := by
        rw [hopened, Outline.lineage] at heq
        exact (List.cons.inj heq).1
      subst hpq
      exact ⟨hq, heq⟩
  refine ⟨⟨?_, ?_, ?_⟩, ?_, ?_⟩
  . rw [openChild_parent? hp, if_neg (by omega)]
    exact h.linked.parent_zero
  . intro i hi
    replace hi : i + 1 < b.nodes.size + 1 := by simpa [outline, Outline.size] using hi
    rw [openChild_parent? hp, openChild_lineage hp (by omega)]
    split
    . next heq =>
      refine ⟨p, rfl, ?_⟩
      rw [← heq] at hmem
      exact hmem
    . exact h.linked.parent_succ i (by unfold outline Outline.size; dsimp; omega)
  . intro i
    have hsize : (b.openChild p label).outline.size = b.nodes.size + 1 := openChild_size
    rw [openChild_children hp, hsize, List.range_succ, List.filter_append]
    have hold : (List.range b.nodes.size).filter (fun c => (b.openChild p label).outline.parent? c == some i)
        = b.outline.children i := by
      rw [h.linked.children_eq]
      apply List.filter_congr
      intro c hc
      rw [List.mem_range] at hc
      rw [openChild_parent? hp, if_neg (by omega)]
    rw [hold]
    simp only [List.filter_cons, List.filter_nil, openChild_parent? hp, if_pos]
    split
    . next heq => simp [heq]
    . next hne => simp [hne]
  . intro i hi
    rw [openChild_size]
    simp only [Builder.openChild, List.mem_cons] at hi
    cases hi with
    | inl heq => omega
    | inr hi =>
      have := h.opened_lt i hi
      omega
  . refine .inr ⟨b.nodes.size, ?_, ?_⟩
    . rw [openChild_size]
      exact Outline.mem_lineage_self
    . rw [openChild_lineage_size hp, ← hpath]
      rfl

end Open

theorem WellFormed.openLabel {b b' : Builder} {label : Label} {id : Nat} (h : b.WellFormed)
    (ho : (Builder.openLabel label).result b = .ok (id, b')) : b'.WellFormed := by
  cases openLabel_cases ho with
  | inl hroot =>
    obtain ⟨_, _, _, hb⟩ := hroot
    rw [hb]
    exact openRoot_wellFormed
  | inr hchild =>
    obtain ⟨p, rest, hopened, _, hb⟩ := hchild
    rw [hb]
    exact h.openChild hopened

theorem perform_closeNode (b : Builder) : Builder.closeNode.perform b =
    match b.opened with
    | [] => (.error (.invalidArgument .noOpenNode), b)
    | id :: rest => (.ok id, { b with opened := rest }) := by
  obtain ⟨nodes, opened, path, source⟩ := b
  cases opened with
  | nil => rfl
  | cons id rest => rfl

theorem closeNode_cases {b b' : Builder} {id : Nat} (h : Builder.closeNode.result b = .ok (id, b')) :
    ∃ rest, b.opened = id :: rest ∧ b' = { b with opened := rest } := by
  unfold Building.result at h
  rw [perform_closeNode] at h
  split at h
  . cases h
  . next id' rest hopened =>
    cases h
    exact ⟨rest, hopened, rfl⟩

theorem WellFormed.popped {b : Builder} {id : Nat} {rest : List Nat} (h : b.WellFormed)
    (hopened : b.opened = id :: rest) : { b with opened := rest : Builder }.WellFormed := by
  refine ⟨h.linked, ?_, ?_⟩
  . intro i hi
    apply h.opened_lt
    rw [hopened]
    exact List.mem_cons_of_mem id hi
  . cases h.opened_eq with
    | inl hnil =>
      rw [hnil] at hopened
      cases hopened
    | inr hex =>
      obtain ⟨p, hmem, heq⟩ := hex
      rw [hopened, Outline.lineage] at heq
      obtain ⟨_, hrest⟩ := List.cons.inj heq
      cases hparent : b.outline.parent? p with
      | none =>
        rw [Outline.ancestors_of_parent?_eq_none hparent] at hrest
        exact .inl hrest
      | some q =>
        refine .inr ⟨q, ?_, ?_⟩
        . refine Outline.mem_lineage_trans ?_ hmem
          rw [Outline.mem_lineage]
          exact .inr (h.linked.parent_mem_ancestors hparent)
        . dsimp
          rw [hrest, h.linked.ancestors_eq hparent]
          rfl

theorem WellFormed.closeNode {b b' : Builder} {id : Nat} (h : b.WellFormed)
    (hc : Builder.closeNode.result b = .ok (id, b')) : b'.WellFormed := by
  obtain ⟨rest, hopened, hb⟩ := closeNode_cases hc
  rw [hb]
  exact h.popped hopened

theorem perform_step_openLabel (b : Builder) (label : Label) : (Call.openLabel label).step.perform b =
    (((Builder.openLabel label).perform b).1.map fun _ => (), ((Builder.openLabel label).perform b).2) :=
  Building.perform_discard _ b

theorem perform_step_closeNode (b : Builder) : Call.closeNode.step.perform b =
    ((Builder.closeNode.perform b).1.map fun _ => (), (Builder.closeNode.perform b).2) :=
  Building.perform_discard _ b

theorem WellFormed.call {b : Builder} (h : b.WellFormed) (c : Call) : (b.call c).WellFormed := by
  cases c with
  | openLabel label =>
    unfold Builder.call
    rw [perform_step_openLabel, perform_openLabel]
    split
    . split
      . exact openRoot_wellFormed
      . exact h
    . next p rest hopened => exact h.openChild hopened
  | closeNode =>
    unfold Builder.call
    rw [perform_step_closeNode, perform_closeNode]
    split
    . exact h
    . next id rest hopened => exact h.popped hopened
  | setGrammarKind i grammarKind => exact h.modify (fun _ => rfl) (fun _ => rfl)
  | setRole i role => exact h.modify (fun _ => rfl) (fun _ => rfl)
  | setName i name => exact h.modify (fun _ => rfl) (fun _ => rfl)
  | addModifier i m => exact h.modify (fun _ => rfl) (fun _ => rfl)
  | pushToken i token => exact h.modify (fun _ => rfl) (fun _ => rfl)

theorem WellFormed.calls {b : Builder} (h : b.WellFormed) (cs : List Call) : (b.calls cs).WellFormed := by
  unfold Builder.calls
  induction cs generalizing b with
  | nil => exact h
  | cons c cs ih => exact ih (h.call c)

end Builder

namespace Outline

/-- Some sequence of calls makes the outline. -/
def Built (t : Outline) : Prop :=
  ∃ source path cs, ((Builder.new source path).calls cs).finish = .ok t

/-- The shape of every outline that can be built. -/
structure WellFormed (t : Outline) : Prop extends Linked t where
  size_pos : 0 < t.size

end Outline

theorem Builder.WellFormed.finish {b : Builder} {t : Outline} (h : b.WellFormed) (hfinish : b.finish = .ok t) :
    t.WellFormed := by
  unfold Builder.finish at hfinish
  split at hfinish
  . cases hfinish
  . next hnodes =>
    split at hfinish
    . cases hfinish
      refine ⟨h.linked, ?_⟩
      rw [Array.isEmpty_iff, ← Array.size_eq_zero_iff] at hnodes
      exact Nat.pos_of_ne_zero hnodes
    . cases hfinish

theorem Outline.Built.wellFormed {t : Outline} (h : t.Built) : t.WellFormed := by
  obtain ⟨source, path, cs, hfinish⟩ := h
  exact ((Builder.new_wellFormed source path).calls cs).finish hfinish

end StructuralSearch
