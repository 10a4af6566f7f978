import StructuralSearch.Proofs.Outline.Links
import StructuralSearch.Proofs.Report

/-!
This module contains how full names are put together. The full name of a node is that of the nearest declaration around
it that has a name, then a dot and its own name.
-/

namespace StructuralSearch
namespace Outline

variable {t : Outline} {skip : Bool} {i a : Nat} {name : String} {before after : List Nat}

/-- The kinds of the declarations that stand in front of the names of what is in them. -/
def segmentKinds (skipNamespaces : Bool) : List NodeKind :=
  (if skipNamespaces then [] else [.namespaceDeclaration, .fileScopedNamespaceDeclaration]) ++ [
    .classDeclaration, .structDeclaration, .interfaceDeclaration, .enumDeclaration, .recordDeclaration,
    .methodDeclaration, .constructorDeclaration, .propertyDeclaration, .eventDeclaration]

/-- The node is such a declaration and has an identifier. -/
def Qualifies (t : Outline) (skip : Bool) (a : Nat) : Prop :=
  t.kind a ∈ segmentKinds skip ∧ ∃ name, t.identifier a = .ok (some name)

/-- The nearest such declaration above a node. -/
def IsQualifier (t : Outline) (skip : Bool) (i a : Nat) : Prop :=
  ∃ before after, t.ancestors i = before ++ a :: after ∧ (∀ b ∈ before, ¬ t.Qualifies skip b) ∧ t.Qualifies skip a

/-- What a node adds to the full names of the nodes below it. -/
def segment? (t : Outline) (skip : Bool) (a : Nat) : Option String :=
  if (t.kind a).addsSegment && !(skip && (t.kind a).isNamespace) then t.recordedName? a else none

theorem enclosingNames_eq (t : Outline) (skip : Bool) (i : Nat) :
    t.enclosingNames skip i = (t.ancestors i).filterMap (t.segment? skip) :=
  rfl

theorem mem_segmentKinds {k : NodeKind} :
    k ∈ segmentKinds skip ↔ (k.addsSegment && !(skip && k.isNamespace)) = true := by
  cases skip <;> cases k <;> decide

theorem identifier_of_mem_segmentKinds (h : t.kind a ∈ segmentKinds skip) :
    t.identifier a = .ok (t.recordedName? a) := by
  have hkind : t.kind a ≠ .argument := by
    intro heq
    rw [heq] at h
    revert h
    cases skip <;> decide
  unfold identifier
  rw [if_neg]
  rw [NodeKind.nameSource_eq_text]
  exact hkind

theorem segment?_eq_some :
    t.segment? skip a = some name ↔ t.kind a ∈ segmentKinds skip ∧ t.identifier a = .ok (some name) := by
  unfold segment?
  split
  . next hadds =>
    have hmem := mem_segmentKinds.mpr hadds
    rw [identifier_of_mem_segmentKinds hmem, Except.ok.injEq]
    exact ⟨fun h => ⟨hmem, h⟩, And.right⟩
  . next hadds =>
    constructor
    . intro h
      cases h
    . intro h
      exact absurd (mem_segmentKinds.mp h.1) hadds

theorem segment?_eq_none (h : ¬ t.Qualifies skip a) : t.segment? skip a = none := by
  rw [Option.eq_none_iff_forall_ne_some]
  intro name hname
  obtain ⟨hkind, hidentifier⟩ := segment?_eq_some.mp hname
  exact h ⟨hkind, name, hidentifier⟩

theorem ancestors_of_cons (h : t.ancestors i = a :: after) : t.ancestors a = after := by
  have hmem : a ∈ t.ancestors i := by
    rw [h]
    exact List.mem_cons_self
  obtain ⟨p, hp, hlt, _⟩ := mem_ancestors_iff.mp hmem
  rw [ancestors_of_parent?_eq_some hp hlt, lineage, List.cons.injEq] at h
  rw [← h.1]
  exact h.2

/-- Above one of the nodes above is what comes after it. -/
theorem ancestors_of_append (h : t.ancestors i = before ++ a :: after) : t.ancestors a = after := by
  induction before generalizing i with
  | nil => exact ancestors_of_cons h
  | cons b before ih => exact ih (ancestors_of_cons h)

theorem filterMap_segment? (h : ∀ b ∈ before, ¬ t.Qualifies skip b) : before.filterMap (t.segment? skip) = [] := by
  rw [List.filterMap_eq_nil_iff]
  intro b hb
  exact segment?_eq_none (h b hb)

theorem qualify_of_forall (h : ∀ a ∈ t.ancestors i, ¬ t.Qualifies skip a) : t.qualify skip i name = name := by
  unfold qualify
  rw [enclosingNames_eq, filterMap_segment? h]
  exact String.intercalate_singleton

theorem qualify_of_append {outer : String} (h : t.ancestors i = before ++ a :: after)
    (hbefore : ∀ b ∈ before, ¬ t.Qualifies skip b) (ha : t.segment? skip a = some outer) :
    t.qualify skip i name = t.qualify skip a outer ++ "." ++ name := by
  have henclosing : t.enclosingNames skip i = outer :: t.enclosingNames skip a := by
    rw [enclosingNames_eq, enclosingNames_eq, ancestors_of_append h, h, List.filterMap_append,
      filterMap_segment? hbefore, List.nil_append, List.filterMap_cons_some ha]
  unfold qualify
  rw [henclosing, List.reverse_cons, String.intercalate_append_of_ne_nil (by simp) (List.cons_ne_nil _ _),
    String.intercalate_singleton]

theorem fullName_of_identifier (h : t.identifier i = .ok (some name)) :
    t.fullName skip i = .ok (t.qualify skip i name) := by
  unfold fullName requiredIdentifier
  rw [h]
  rfl

theorem fullName_of_nameless (h : t.identifier i = .ok none) :
    t.fullName skip i = .error (.missingIdentifier (t.kind i)) := by
  unfold fullName requiredIdentifier
  rw [h]
  rfl

theorem fullName_of_error {e : Error} (h : t.identifier i = .error e) : t.fullName skip i = .error e := by
  unfold fullName requiredIdentifier
  rw [h]
  rfl

theorem fullName_of_isQualifier (hname : t.identifier i = .ok (some name)) (h : t.IsQualifier skip i a) :
    ∃ outer, t.fullName skip a = .ok outer ∧ t.fullName skip i = .ok (outer ++ "." ++ name) := by
  obtain ⟨before, after, hancestors, hbefore, hkind, outer, houter⟩ := h
  refine ⟨_, fullName_of_identifier houter, ?_⟩
  rw [fullName_of_identifier hname, qualify_of_append hancestors hbefore (segment?_eq_some.mpr ⟨hkind, houter⟩)]

theorem fullName_eq_missingIdentifier :
    t.fullName skip i = .error (.missingIdentifier (t.kind i)) ↔ t.identifier i = .ok none := by
  constructor
  . intro h
    cases hidentifier : t.identifier i with
    | error e =>
      rw [fullName_of_error hidentifier, Except.error.injEq] at h
      have hcut := eq_cutCharacter_of_text (identifier_eq_error.mp hidentifier).2
      rw [h] at hcut
      cases hcut
    | ok name? =>
      cases name? with
      | none => rfl
      | some name =>
        rw [fullName_of_identifier hidentifier] at h
        cases h
  . exact fullName_of_nameless

end Outline

namespace Report

variable {t : Outline} {c : Candidate} {r : Report}

/-- The names in a report are those of the anchor. -/
theorem names_of_ofCandidate (h : ofCandidate t c = .ok r) :
    t.identifier c.anchor = .ok r.identifier ∧ r.fullName = r.identifier.map (t.qualify false c.anchor) := by
  unfold ofCandidate at h
  rw [bind_eq_ok] at h
  obtain ⟨identifier, hidentifier, h⟩ := h
  cases h
  exact ⟨hidentifier, rfl⟩

theorem fullName_of_ofCandidate (h : ofCandidate t c = .ok r) :
    r.fullName = (t.fullName false c.anchor).toOption := by
  obtain ⟨hidentifier, hfull⟩ := names_of_ofCandidate h
  rw [hfull]
  cases hname : r.identifier with
  | none =>
    rw [hname] at hidentifier
    rw [Outline.fullName_of_nameless hidentifier]
    rfl
  | some name =>
    rw [hname] at hidentifier
    rw [Outline.fullName_of_identifier hidentifier]
    rfl

theorem suffix_of_ofCandidate (h : ofCandidate t c = .ok r) :
    ∀ name ∈ r.identifier, ∃ full ∈ r.fullName, name.toList <:+ full.toList := by
  intro name hname
  rw [Option.mem_def] at hname
  refine ⟨t.qualify false c.anchor name, ?_, ?_⟩
  . rw [(names_of_ofCandidate h).2, hname]
    rfl
  . obtain ⟨lead, heq, _⟩ := t.qualify_toList c.anchor name
    exact ⟨lead, heq.symm⟩

theorem exists_ofCandidate (t : Outline) (c : Candidate) :
    (∃ r, ofCandidate t c = .ok r) ∨ ∃ e, t.IsCut c.anchor e ∧ ofCandidate t c = .error e := by
  unfold ofCandidate Candidate.identifier
  cases hidentifier : t.identifier c.anchor with
  | ok name? => exact .inl ⟨_, rfl⟩
  | error e => exact .inr ⟨e, Outline.identifier_eq_error.mp hidentifier, rfl⟩

end Report

namespace Outline

/--
A node has a full name if it has an identifier: the full name of the nearest declaration around it that has an
identifier as well, a dot, and the identifier. So a report has both names or none, and the full name ends in the other.
-/
theorem fullName_composes (t : Outline) (skip : Bool) (i : Nat) :
    (t.fullName skip i = .error (.missingIdentifier (t.kind i)) ↔ t.identifier i = .ok none) ∧
    (∀ name, t.identifier i = .ok (some name) →
      (∀ a, t.IsQualifier skip i a →
        ∃ outer, t.fullName skip a = .ok outer ∧ t.fullName skip i = .ok (outer ++ "." ++ name)) ∧
      ((∀ a ∈ t.ancestors i, ¬ t.Qualifies skip a) → t.fullName skip i = .ok name)) ∧
    (∀ e, t.identifier i = .error e → t.IsCut i e ∧ t.fullName skip i = .error e) ∧
    ∀ c, ((∃ r, Report.ofCandidate t c = .ok r) ∨ ∃ e, t.IsCut c.anchor e ∧ Report.ofCandidate t c = .error e) ∧
      ∀ r, Report.ofCandidate t c = .ok r →
        t.identifier c.anchor = .ok r.identifier ∧ r.fullName = (t.fullName false c.anchor).toOption ∧
        r.fullName.isSome = r.identifier.isSome ∧
        ∀ name ∈ r.identifier, ∃ full ∈ r.fullName, name.toList <:+ full.toList := by
  refine ⟨fullName_eq_missingIdentifier, ?_, ?_, ?_⟩
  . intro name hname
    constructor
    . intro a ha
      exact fullName_of_isQualifier hname ha
    . intro h
      rw [fullName_of_identifier hname, qualify_of_forall h]
  . intro e h
    exact ⟨identifier_eq_error.mp h, fullName_of_error h⟩
  . intro c
    refine ⟨Report.exists_ofCandidate t c, ?_⟩
    intro r hr
    obtain ⟨hidentifier, hfull⟩ := Report.names_of_ofCandidate hr
    refine ⟨hidentifier, Report.fullName_of_ofCandidate hr, ?_, Report.suffix_of_ofCandidate hr⟩
    rw [hfull, Option.isSome_map]

/-- A method in a class without a name, in a namespace whose name is spread out. -/
def methodInZoo : Outline :=
  ((Builder.new "" none).calls [
    .openLabel { kind := .fileScopedNamespaceDeclaration, name := some "Zoo . Big" },
    .openLabel { kind := .classDeclaration },
    .openLabel { kind := .methodDeclaration, name := some "Run" }, .closeNode, .closeNode, .closeNode]).outline

theorem fullName_methodInZoo :
    methodInZoo.fullName false 2 = .ok "Zoo.Big.Run" ∧ methodInZoo.fullName true 2 = .ok "Run" ∧
      methodInZoo.fullName false 1 = .error (.missingIdentifier .classDeclaration) := by
  have hrun : methodInZoo.identifier 2 = .ok (some "Run") := rfl
  have hzoo : methodInZoo.identifier 0 = .ok (some "Zoo.Big") := rfl
  have habove : methodInZoo.ancestors 2 = [1] ++ 0 :: [] := by decide +kernel
  have htop : methodInZoo.ancestors 0 = [] := by decide +kernel
  have hclass : ∀ skip, ¬ methodInZoo.Qualifies skip 1 := by
    intro skip h
    obtain ⟨_, name, hname⟩ := h
    cases hname
  have hnamespace : ¬ methodInZoo.Qualifies true 0 := by
    intro h
    exact absurd h.1 (by decide +kernel)
  refine ⟨?_, ?_, ?_⟩
  . have hnearest : methodInZoo.IsQualifier false 2 0 :=
      ⟨[1], [], habove, by simp [hclass], by decide +kernel, "Zoo.Big", hzoo⟩
    obtain ⟨outer, houter, hfull⟩ := ((fullName_composes methodInZoo false 2).2.1 _ hrun).1 0 hnearest
    rw [((fullName_composes methodInZoo false 0).2.1 _ hzoo).2 (by simp [htop])] at houter
    cases houter
    exact hfull
  . refine ((fullName_composes methodInZoo true 2).2.1 _ hrun).2 ?_
    simp [habove, hclass, hnamespace]
  . exact (fullName_composes methodInZoo false 1).1.mpr rfl

end Outline
end StructuralSearch
