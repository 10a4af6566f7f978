import Mathlib.Combinatorics.Enumerative.DyckWord
import StructuralSearch.Proofs.Outline.Preorder

/-!
This module contains when a builder can finish. The calls that open and close nodes are brackets, and those that
succeed have to form one pair with balanced brackets in it. What is finished is an arena: the nodes are numbered in
pre-order and linked both ways.
-/

namespace StructuralSearch
namespace Builder

/-- Whether a call succeeds. -/
def succeeds (b : Builder) (c : Call) : Bool :=
  (c.step.perform b).1.isOk

/-- The calls of a sequence that succeed. -/
def succeeding (b : Builder) : List Call → List Call
  | [] => []
  | c :: cs => if b.succeeds c then c :: (b.call c).succeeding cs else (b.call c).succeeding cs

/-- Opening a node is a step up, and closing it is a step down. -/
def Call.bracket? : Call → Option DyckStep
  | .openLabel _ => some .U
  | .closeNode => some .D
  | .setGrammarKind .. | .setRole .. | .setName .. | .addModifier .. | .pushToken .. => none

/-- The brackets of a sequence of calls, without those that fail. -/
def brackets (b : Builder) (cs : List Call) : List DyckStep :=
  (b.succeeding cs).filterMap Call.bracket?

variable {b : Builder} {c : Call} {cs : List Call}

/-- Only opening and closing can fail, and they leave the builder as it is then. -/
theorem call_of_not_succeeds (h : b.succeeds c = false) : b.call c = b := by
  unfold succeeds at h
  unfold call
  cases c with
  | openLabel label =>
    rw [perform_step_openLabel, perform_openLabel] at h ⊢
    split at h
    . split at h
      . cases h
      . next hsize => simp only [if_neg hsize]
    . cases h
  | closeNode =>
    rw [perform_step_closeNode, perform_closeNode] at h ⊢
    split at h
    . rfl
    . cases h
  | _ => cases h

theorem calls_succeeding (b : Builder) (cs : List Call) : b.calls (b.succeeding cs) = b.calls cs := by
  induction cs generalizing b with
  | nil => rfl
  | cons c cs ih =>
    have hcalls : b.calls (c :: cs) = (b.call c).calls cs := rfl
    rw [succeeding, hcalls]
    split
    . exact ih (b.call c)
    . next h =>
      rw [Bool.not_eq_true] at h
      rw [call_of_not_succeeds h]
      exact ih b

theorem brackets_cons (b : Builder) (c : Call) (cs : List Call) :
    b.brackets (c :: cs) = (if b.succeeds c then c.bracket?.toList else []) ++ (b.call c).brackets cs := by
  unfold brackets
  rw [succeeding]
  split
  . rw [List.filterMap_cons]
    cases c.bracket? with
    | none => rfl
    | some s => rfl
  . rfl

/-- All that a call can do to the open nodes and to the number of nodes, with the bracket that it is. -/
theorem call_cases (b : Builder) (c : Call) :
    ((b.opened ≠ [] ∨ b.nodes.size = 0) ∧ (b.call c).opened.length = b.opened.length + 1 ∧
      (b.call c).nodes.size = b.nodes.size + 1 ∧ ∀ cs, b.brackets (c :: cs) = .U :: (b.call c).brackets cs) ∨
    ((b.call c).opened.length + 1 = b.opened.length ∧ (b.call c).nodes.size = b.nodes.size ∧
      ∀ cs, b.brackets (c :: cs) = .D :: (b.call c).brackets cs) ∨
    ((b.call c).opened.length = b.opened.length ∧ (b.call c).nodes.size = b.nodes.size ∧
      ∀ cs, b.brackets (c :: cs) = (b.call c).brackets cs) := by
  have hbrackets := brackets_cons b c
  cases hsucceeds : b.succeeds c with
  | false =>
    rw [hsucceeds] at hbrackets
    rw [call_of_not_succeeds hsucceeds] at hbrackets ⊢
    exact .inr (.inr ⟨rfl, rfl, hbrackets⟩)
  | true =>
    rw [hsucceeds] at hbrackets
    unfold succeeds at hsucceeds
    unfold call at hbrackets ⊢
    cases c with
    | openLabel label =>
      rw [perform_step_openLabel, perform_openLabel] at hsucceeds hbrackets ⊢
      split at hsucceeds
      . next hopened =>
        split at hsucceeds
        . next hsize =>
          simp only [hopened, if_pos hsize] at hbrackets ⊢
          exact .inl ⟨.inr hsize, by simp [openRoot], by simp [openRoot, hsize], hbrackets⟩
        . cases hsucceeds
      . next p rest hopened =>
        simp only [hopened] at hbrackets ⊢
        exact .inl ⟨.inl (by simp), by simp [openChild, hopened], openChild_size, hbrackets⟩
    | closeNode =>
      rw [perform_step_closeNode, perform_closeNode] at hsucceeds hbrackets ⊢
      split at hsucceeds
      . cases hsucceeds
      . next id rest hopened =>
        simp only [hopened] at hbrackets ⊢
        exact .inr (.inl ⟨by simp, trivial, hbrackets⟩)
    | _ => exact .inr (.inr ⟨rfl, outline_modify_size, hbrackets⟩)

theorem length_calls (b : Builder) (cs : List Call) :
    (b.calls cs).opened.length + (b.brackets cs).count .D = b.opened.length + (b.brackets cs).count .U ∧
      (b.calls cs).nodes.size = b.nodes.size + (b.brackets cs).count .U := by
  induction cs generalizing b with
  | nil => exact ⟨rfl, rfl⟩
  | cons c cs ih =>
    have hcalls : b.calls (c :: cs) = (b.call c).calls cs := rfl
    have hrest := ih (b.call c)
    rw [hcalls]
    obtain ⟨_, hopened, hsize, hbrackets⟩ | ⟨hopened, hsize, hbrackets⟩ | ⟨hopened, hsize, hbrackets⟩ :=
      call_cases b c
    . rw [hbrackets, List.count_cons_self, List.count_cons_of_ne (by decide)]
      omega
    . rw [hbrackets, List.count_cons_self, List.count_cons_of_ne (by decide)]
      omega
    . rw [hbrackets]
      omega

/-- Once there is a root, a bracket comes only while some node is open. -/
theorem count_take_lt (hroot : 0 < b.nodes.size) {i : Nat} (hi : i < (b.brackets cs).length) :
    ((b.brackets cs).take i).count .D < b.opened.length + ((b.brackets cs).take i).count .U := by
  induction cs generalizing b i with
  | nil => cases hi
  | cons c cs ih =>
    obtain ⟨hopen, hopened, hsize, hbrackets⟩ | ⟨hopened, hsize, hbrackets⟩ | ⟨hopened, hsize, hbrackets⟩ :=
      call_cases b c
    . have hpos : 0 < b.opened.length := by
        rw [List.length_pos_iff]
        exact hopen.resolve_right (by omega)
      rw [hbrackets] at hi ⊢
      cases i with
      | zero => simpa using hpos
      | succ i =>
        have hrest := ih (by omega) (Nat.lt_of_succ_lt_succ hi)
        rw [List.take_succ_cons, List.count_cons_self, List.count_cons_of_ne (by decide)]
        omega
    . rw [hbrackets] at hi ⊢
      cases i with
      | zero =>
        rw [List.take_zero, List.count_nil, List.count_nil]
        omega
      | succ i =>
        have hrest := ih (by omega) (Nat.lt_of_succ_lt_succ hi)
        rw [List.take_succ_cons, List.count_cons_self, List.count_cons_of_ne (by decide)]
        omega
    . rw [hbrackets] at hi ⊢
      rw [← hopened]
      exact ih (by omega) hi

theorem brackets_of_empty (cs : List Call) (hopened : b.opened = []) (hsize : b.nodes.size = 0) :
    b.brackets cs = [] ∨ ∃ b' : Builder, ∃ cs', b'.opened.length = 1 ∧ 0 < b'.nodes.size ∧
      b.brackets cs = .U :: b'.brackets cs' := by
  induction cs generalizing b with
  | nil => exact .inl rfl
  | cons c cs ih =>
    obtain ⟨_, hopened', hsize', hbrackets⟩ | ⟨hopened', _, _⟩ | ⟨hopened', hsize', hbrackets⟩ := call_cases b c
    . refine .inr ⟨b.call c, cs, ?_, by omega, hbrackets cs⟩
      rw [hopened', hopened]
      rfl
    . rw [hopened] at hopened'
      cases hopened'
    . rw [hopened] at hopened'
      rw [hbrackets]
      exact ih (List.length_eq_zero_iff.mp hopened') (by omega)

theorem count_take_new_lt {source : String} {path : Option String} {i : Nat} (hpos : 0 < i)
    (hi : i < ((new source path).brackets cs).length) :
    (((new source path).brackets cs).take i).count .D < (((new source path).brackets cs).take i).count .U := by
  have hopened : (new source path).opened = [] := rfl
  obtain hnil | ⟨b, cs', hopened, hroot, hbrackets⟩ := brackets_of_empty cs hopened rfl
  . rw [hnil] at hi
    cases hi
  . rw [hbrackets] at hi ⊢
    cases i with
    | zero => cases hpos
    | succ i =>
      have hrest := count_take_lt hroot (Nat.lt_of_succ_lt_succ hi)
      rw [List.take_succ_cons, List.count_cons_self, List.count_cons_of_ne (by decide)]
      omega

theorem exists_nested {source : String} {path : Option String} (hne : (new source path).brackets cs ≠ [])
    (hcount : ((new source path).brackets cs).count .U = ((new source path).brackets cs).count .D) :
    ∃ w : DyckWord, w.IsNested ∧ w.toList = (new source path).brackets cs := by
  have hle : ∀ i, (((new source path).brackets cs).take i).count .D
      ≤ (((new source path).brackets cs).take i).count .U := by
    intro i
    by_cases hi : i < ((new source path).brackets cs).length
    . by_cases hpos : 0 < i
      . exact Nat.le_of_lt (count_take_new_lt hpos hi)
      . rw [Nat.eq_zero_of_not_pos hpos]
        rfl
    . rw [List.take_of_length_le (Nat.le_of_not_lt hi), hcount]
  exact ⟨⟨_, hcount, hle⟩, ⟨DyckWord.toList_ne_nil.mp hne, fun _ hpos hi => count_take_new_lt hpos hi⟩, rfl⟩

theorem finish_iff (b : Builder) : (∃ t, b.finish = .ok t) ↔ 0 < b.nodes.size ∧ b.opened.length = 0 := by
  unfold finish
  simp only [Array.isEmpty_iff, ← Array.size_eq_zero_iff, List.isEmpty_iff, ← List.length_eq_zero_iff]
  split
  . next h => simp [h]
  . next h =>
    split
    . next h' => simp [h', Nat.pos_of_ne_zero h]
    . next h' => simp [h']

theorem finish_iff_nest (source : String) (path : Option String) (cs : List Call) :
    (∃ t, ((new source path).calls cs).finish = .ok t) ↔
      ∃ w : DyckWord, (new source path).brackets cs = w.nest.toList := by
  obtain ⟨hopened, hsize⟩ := length_calls (new source path) cs
  have hzero : (new source path).opened.length = 0 := rfl
  have hnone : (new source path).nodes.size = 0 := rfl
  rw [finish_iff]
  constructor
  . intro h
    have hcount : ((new source path).brackets cs).count .U = ((new source path).brackets cs).count .D := by omega
    have hne : (new source path).brackets cs ≠ [] := by
      intro hnil
      rw [hnil, List.count_nil] at hsize
      omega
    obtain ⟨word, hnested, hword⟩ := exists_nested hne hcount
    exact ⟨word.denest hnested, by rw [DyckWord.nest_denest, hword]⟩
  . intro h
    obtain ⟨w, hw⟩ := h
    have hcount := w.nest.count_U_eq_count_D
    have hpos : 0 < w.nest.toList.count .U := by
      rw [List.count_pos_iff]
      exact List.mem_cons_self
    rw [hw] at hopened hsize
    omega

end Builder

/--
An outline as an arena: the root comes first and everything else after its parent, a node is listed once by its parent
and by no other node, and going through the tree is counting.
-/
structure Outline.Arena (t : Outline) : Prop where
  size_pos : 0 < t.size
  parent_eq_none : ∀ i < t.size, t.parent? i = none ↔ i = 0
  parent_lt : ∀ i p, t.parent? i = some p → p < i
  children_lt : ∀ p, ∀ c ∈ t.children p, c < t.size
  count_children : ∀ i < t.size, ∀ p, (t.children p).count i = if t.parent? i = some p then 1 else 0
  increasing : ∀ p, (t.children p).Pairwise (· < ·)
  preorder_eq : t.preorder = List.range t.size
  visits : t.Visits [0] (List.range t.size)

theorem Outline.WellFormed.arena {t : Outline} (h : t.WellFormed) : t.Arena where
  size_pos := h.size_pos
  parent_eq_none := by
    intro i hi
    constructor
    . intro hnone
      apply Nat.eq_zero_of_not_pos
      intro hpos
      obtain ⟨p, hp⟩ := h.exists_parent hpos hi
      rw [hnone] at hp
      cases hp
    . intro hzero
      rw [hzero]
      exact h.parent_zero
  parent_lt := fun _ _ hp => h.parent_lt hp
  children_lt := by
    intro p c hc
    exact lt_size_of_parent? (h.mem_children.mp hc)
  count_children := by
    intro i _ p
    have hnodup : (t.children p).Nodup := (h.children_pairwise p).imp Nat.ne_of_lt
    rw [hnodup.count]
    simp only [h.mem_children]
  increasing := h.children_pairwise
  preorder_eq := preorder_eq_range h
  visits := by
    rw [← preorder_eq_range h]
    exact visits_preorder h

namespace Builder

/--
Over every sequence of calls: one that fails changes nothing, so that those that succeed lead to the same builder by
themselves; the builder can finish exactly if they open and close nodes like one pair of brackets with balanced ones in
it; and what is finished is an arena.
-/
theorem finish_calls (source : String) (path : Option String) (cs : List Call) :
    (∀ c, ((new source path).calls cs).succeeds c = false →
      ((new source path).calls cs).call c = (new source path).calls cs) ∧
    (new source path).calls ((new source path).succeeding cs) = (new source path).calls cs ∧
    ((∃ t, ((new source path).calls cs).finish = .ok t) ↔
      ∃ w : DyckWord, (new source path).brackets cs = w.nest.toList) ∧
    ∀ t, ((new source path).calls cs).finish = .ok t → t.Arena := by
  refine ⟨fun c => call_of_not_succeeds, calls_succeeding _ cs, finish_iff_nest source path cs, ?_⟩
  intro t ht
  exact (((new_wellFormed source path).calls cs).finish ht).arena

/-- A root with two children, one of them named, with calls that fail before, between and after them. -/
def withFailures : List Call := [
  .closeNode, .openLabel { kind := .classDeclaration }, .openLabel { kind := .methodDeclaration }, .setName 1 "m",
  .closeNode, .openLabel { kind := .fieldDeclaration }, .closeNode, .closeNode, .closeNode,
  .openLabel { kind := .classDeclaration }, .pushToken 0 { text := "class", span := default }]

theorem finish_withFailures :
    ((new "" none).calls withFailures).succeeds .closeNode = false ∧
      ((new "" none).calls withFailures).call .closeNode = (new "" none).calls withFailures ∧
      (∃ w : DyckWord, (new "" none).brackets withFailures = w.nest.toList) ∧
      ∃ t, ((new "" none).calls withFailures).finish = .ok t ∧ t.children 0 = [1, 2] ∧ t.Arena := by
  obtain ⟨hfails, _, hfinish, harena⟩ := finish_calls "" none withFailures
  exact ⟨rfl, hfails .closeNode rfl, hfinish.mp ⟨_, rfl⟩, _, rfl, rfl, harena _ rfl⟩

end Builder
end StructuralSearch
