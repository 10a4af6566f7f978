import StructuralSearch.Proofs.Concrete.Origin
import StructuralSearch.Proofs.Concrete.Recorded
import StructuralSearch.Proofs.Concrete.Spans
import StructuralSearch.Proofs.Concrete.Spots
import StructuralSearch.Proofs.Virtual.Standard
import StructuralSearch.Query.Matcher

/-!
This module contains that types are closed downwards: a retained node is a type if it or a node above it is in the place
of a type, and nothing in a type has a name or is of interest to rules.
-/

namespace StructuralSearch

/-- A type, without anything that declarations have. It is neither routed nor an answer to what is at a place. -/
structure Outline.IsBareType (o : Outline) (i : Nat) : Prop where
  kind : o.kind i = .typeName
  name : (o.node i).name = none
  modifiers : (o.node i).modifiers = []
  routing : Registry.standard.resolve o i = .ok []
  target : Matcher.knownTarget.accepts o (.real i) = .ok false

namespace Concrete

/-- The grammar has the node for a type, whatever field it is in. -/
def Info.isType (c : Info) : Bool :=
  NodeKind.ofGrammar c.kind false == .typeName

/-- The nodes along a path, from the child of the root on. -/
def wayTo (t : Concrete) : List Nat → List Concrete
  | [] => []
  | j :: path =>
    match t.children[j]? with
    | none => []
    | some c => c :: c.wayTo path

/-- The node at the end of a path or one above it is a type, or is in a field for types. The root is in no field. -/
def IsTypeAt (t : Concrete) (path : List Nat) : Prop :=
  t.info.isType = true ∨ ∃ c ∈ t.wayTo path, isTypeField c.info.field = true ∨ c.info.isType = true

instance (t : Concrete) (path : List Nat) : Decidable (t.IsTypeAt path) :=
  inferInstanceAs (Decidable (_ ∨ _))

/-- Neither alternatives nor namespaces for the rest of the file are in a field for types. -/
structure TypesInPlace (t : Concrete) : Prop where
  alternative : ∀ s ∈ t.subtrees, s.info.kind = "if_statement" → ∀ c ∈ s.children.zipIdx,
    c.1.info.isRetained .ifStatement = true → followsElse .ifStatement ((s.children.take c.2).map info).reverse = true →
    isTypeField c.1.info.field = false
  fileNamespace : ∀ s ∈ t.subtrees, ∀ c ∈ s.children, c.info.isFileNamespace = true → isTypeField c.info.field = false

namespace Spot

variable {t : Concrete} {x y : Spot} {j : Nat} {p : List Nat}

theorem typeBelow_iff (x : Spot) : x.typeBelow = true ↔ x.kind = .typeName := by
  unfold typeBelow Concrete.typeBelow
  rw [Bool.or_eq_true, beq_iff_eq]
  refine or_iff_right_of_imp ?_
  intro hplace
  exact NodeKind.ofGrammar_eq_typeName.mpr (.inl hplace)

theorem inType_of_child? (h : x.child? j = some y) : y.inType = x.typeBelow := by
  obtain ⟨_, _, _, _, _, hy⟩ := exists_append_of_child? h
  exact congrArg Spot.inType hy

/-- The field of an alternative does not count, but it is none for types anyway. -/
theorem isTypeField_of_child? (ht : t.TypesInPlace) (hx : x.tree ∈ t.subtrees) (h : x.child? j = some y) :
    isTypeField y.field = isTypeField y.tree.info.field := by
  obtain ⟨before, after, hchildren, _, hfate, hy⟩ := exists_append_of_child? h
  have hfield := congrArg Spot.field hy
  unfold ofChild at hfield
  dsimp only at hfield
  rw [isSome_elseBefore?] at hfield
  rw [hfield]
  split
  . next helse =>
    have hif : x.kind = .ifStatement := by
      unfold followsElse at helse
      rw [Bool.and_eq_true, beq_iff_eq] at helse
      exact helse.1
    have hmem : (y.tree, before.length) ∈ x.tree.children.zipIdx := by
      rw [List.mem_zipIdx_iff_getElem?, hchildren, List.getElem?_append_right (Nat.le_refl _), Nat.sub_self]
      rfl
    rw [hif] at helse hfate
    have hnone : isTypeField y.tree.info.field = false := by
      refine ht.alternative _ hx (NodeKind.ofGrammar_eq_ifStatement hif).1 _ hmem (Info.isRetained_iff.mpr hfate) ?_
      rw [hchildren, List.take_left]
      exact helse
    exact hnone.symm
  . rfl

/-- One step down: a child is a type if the node above is, and it may become one by its field or by itself. -/
theorem kind_of_child? (ht : t.TypesInPlace) (hx : x.tree ∈ t.subtrees) (h : x.child? j = some y) :
    y.kind = .typeName ↔
      x.kind = .typeName ∨ isTypeField y.tree.info.field = true ∨ y.tree.info.isType = true := by
  unfold kind kindAt Info.isType
  rw [NodeKind.ofGrammar_eq_typeName, Bool.or_eq_true, inType_of_child? h, isTypeField_of_child? ht hx h, typeBelow_iff,
    beq_iff_eq, or_assoc]
  rfl

theorem kind_of_at? (ht : t.TypesInPlace) (hx : x.tree ∈ t.subtrees) (h : x.at? p = some y) :
    y.kind = .typeName ↔
      x.kind = .typeName ∨ ∃ c ∈ x.tree.wayTo p, isTypeField c.info.field = true ∨ c.info.isType = true := by
  induction p generalizing x with
  | nil =>
    cases h
    simp [wayTo]
  | cons j p ih =>
    rw [at?, Option.bind_eq_some_iff] at h
    obtain ⟨z, hz, hy⟩ := h
    have htree := tree_of_child? hz
    have hmem := mem_subtrees_of_mem_children hx (List.mem_of_getElem? htree)
    rw [ih hmem hy, kind_of_child? ht hx hz, wayTo, htree]
    simp only [List.mem_cons, exists_eq_or_imp, or_assoc]

theorem typeName_of_child? (h : x.child? j = some y) (hx : x.kind = .typeName) : y.kind = .typeName := by
  rw [← typeBelow_iff, ← inType_of_child? h] at hx
  exact NodeKind.ofGrammar_eq_typeName.mpr (.inl (by rw [hx, Bool.true_or]))

end Spot

section Depicts

variable {t : Concrete} {source : String} {path : Option String} {o : Outline} {image : List Nat → Nat} {i j : Nat}

theorem Depicts.kind_eq_typeName (h : t.Depicts o image) (ho : t.toOutline source path = .ok o) (ht : t.TypesInPlace)
    {p : List Nat} {y : Spot} (hy : t.spot.at? p = some y) : o.kind (image p) = .typeName ↔ t.IsTypeAt p := by
  rw [(h.label ho hy).1, Spot.kind_of_at? ht (mem_subtrees_self t) hy]
  refine or_congr_left ?_
  rw [Info.isType, beq_iff_eq]
  rfl

/-- A namespace for the rest of the file takes over nodes from its parent, but it is no type. -/
theorem host_ne_typeName (ht : t.TypesInPlace) {z w : Spot} {f : Nat} (hz : z.tree ∈ t.subtrees)
    (hunit : z.kind = .compilationUnit) (hnamespace : w.tree.info.isFileNamespace = true) (hw : z.child? f = some w) :
    w.kind ≠ .typeName := by
  have hmem := List.mem_of_getElem? (Spot.tree_of_child? hw)
  have hfield := ht.fileNamespace _ hz _ hmem hnamespace
  have hkind : w.tree.info.isType = false := by
    unfold Info.isFileNamespace at hnamespace
    rw [Info.isType, beq_iff_eq.mp hnamespace]
    rfl
  rw [ne_eq, Spot.kind_of_child? ht hz hw, hunit, hfield, hkind]
  simp

/-- What is under a type is a type. In particular it is neither a clause nor the only child of one. -/
theorem Depicts.typeName_of_parent (h : t.Depicts o image) (ho : t.toOutline source path = .ok o)
    (ht : t.TypesInPlace) (hi : o.kind i = .typeName) (hj : o.parent? j = some i) : o.kind j = .typeName := by
  have hlinked := (wellFormed_of_toOutline ho).toLinked
  obtain hroot | ⟨site, hsite, hmem⟩ := h.exists_site (Outline.lt_size_of_parent? hj)
  . rw [hroot, hlinked.parent_zero] at hj
    cases hj
  obtain ⟨q, z, before, hplaces⟩ := Spot.exists_places t.spot site hsite
  obtain heq | ⟨_, hclause, token, hkeyword⟩ := cases_of_mem_nodes (h.fits site hsite) hmem
  . subst heq
    obtain hparent | ⟨e, hparent, hclause⟩ := parent_cases (h.fits site hsite)
    . rw [hparent, Option.some.injEq] at hj
      obtain ⟨w, hw, hcases⟩ := hplaces.exists_host
      obtain ⟨y, hchild, hy⟩ := hplaces.exists_child
      rw [← hj, (h.label ho hw).1] at hi
      rw [(h.label ho hy).1]
      obtain heq | ⟨hunit, hnamespace, f, hf⟩ := hcases
      . rw [heq] at hi
        exact Spot.typeName_of_child? hchild hi
      . exact absurd hi (host_ne_typeName ht (Spot.tree_mem_subtrees hplaces.1) hunit hnamespace hf)
    . rw [hparent, Option.some.injEq] at hj
      rw [← hj, hclause] at hi
      cases hi
  . -- A clause is under an `if`.
    obtain ⟨hif, hhost⟩ := hplaces.if_of_keyword hkeyword
    rw [hclause, Option.some.injEq, hhost] at hj
    rw [← hj, (h.label ho hplaces.1).1, hif] at hi
    cases hi

theorem Depicts.typeName_of_mem_lineage (h : t.Depicts o image) (ho : t.toOutline source path = .ok o)
    (ht : t.TypesInPlace) (hi : o.kind i = .typeName) {j : Nat} (hj : i ∈ o.lineage j) : o.kind j = .typeName := by
  rw [Outline.mem_lineage] at hj
  cases hj with
  | inl heq => rw [← heq, hi]
  | inr hj =>
    rw [Outline.mem_ancestors_iff] at hj
    obtain ⟨p, hparent, hlt, hp⟩ := hj
    exact h.typeName_of_parent ho ht (h.typeName_of_mem_lineage ho ht hi hp) hparent
termination_by j

theorem Depicts.exists_spot_of_kind (h : t.Depicts o image) (ho : t.toOutline source path = .ok o)
    (hj : o.kind j = .typeName) : ∃ p y, t.spot.at? p = some y ∧ image p = j := by
  have hlt : j < o.size := by
    apply Nat.lt_of_not_le
    intro hle
    rw [Outline.kind, Outline.node_of_size_le hle] at hj
    cases hj
  obtain hroot | ⟨site, hsite, hmem⟩ := h.exists_site hlt
  . exact ⟨[], t.spot, rfl, by rw [h.root, hroot]⟩
  obtain heq | ⟨hclause, _⟩ := cases_of_mem_nodes (h.fits site hsite) hmem
  . obtain ⟨y, hy, _⟩ := h.exists_spot ho hsite
    exact ⟨site.path, y, hy, heq.symm⟩
  . rw [hclause] at hj
    cases hj

theorem nameChild?_typeName (cs : List Concrete) : nameChild? .typeName cs = none := by
  unfold nameChild?
  rw [List.filter_eq_nil_iff.mpr]
  . rfl
  . intro c _
    simp [Info.isNameOf, NodeKind.takesName, NodeKind.isNamespace, NodeKind.isTypeDeclaration]

theorem Depicts.isBareType (h : t.Depicts o image) (ho : t.toOutline source path = .ok o)
    (hj : o.kind j = .typeName) : o.IsBareType j := by
  obtain ⟨p, y, hy, heq⟩ := h.exists_spot_of_kind ho hj
  subst heq
  obtain ⟨span, first, hparts⟩ := h.exists_lowerParts ho hy
  have hkind : (o.node (image p)).toLabel.kind = .typeName := hj
  refine ⟨hj, ?_, ?_, ?_, ?_⟩
  . have hname := name_of_lowerParts hparts
    rw [hkind, nameChild?_typeName] at hname
    cases hnone : (o.node (image p)).name with
    | none => rfl
    | some name =>
      rw [hnone] at hname
      cases hname
  . apply List.eq_nil_iff_forall_not_mem.mpr
    intro m hm
    have hcarries := (mem_modifiers_of_lowerParts hparts).mp hm
    rw [hkind] at hcarries
    cases hcarries.1
  . refine Registry.resolve_of_not_isReplaceable ?_ ?_
    . simp [hj]
    . rw [hj]
      rfl
  . change Except.ok (false || Matcher.knownTargets.contains (o.kind (image p))) = .ok false
    rw [hj]
    rfl

/--
A retained node becomes a type if and only if it or a node above it is a type for the grammar or in a field for types.
All that is under a type is a type as well, and has neither a name nor modifiers nor virtual nodes.
-/
theorem toOutline_closesTypes (t : Concrete) (source : String) (path : Option String) (ht : t.TypesInPlace) :
    ((∀ s ∈ t.subtrees, s.info.IsSlice source) → ∃ o, t.toOutline source path = .ok o) ∧
      ∀ o, t.toOutline source path = .ok o → ∃ image, t.Depicts o image ∧
        (∀ p y, t.spot.at? p = some y → (o.kind (image p) = .typeName ↔ t.IsTypeAt p)) ∧
        ∀ i j, o.kind i = .typeName → i ∈ o.lineage j → o.IsBareType j := by
  refine ⟨fun h => exists_toOutline h path, ?_⟩
  intro o ho
  obtain ⟨image, himage⟩ := exists_depicts ho
  refine ⟨image, himage, ?_, ?_⟩
  . intro p y hy
    exact himage.kind_eq_typeName ho ht hy
  . intro i j hi hj
    exact himage.isBareType ho (himage.typeName_of_mem_lineage ho ht hi hj)

end Depicts

section Inputs

/-- The tree of `class C{B<D> e;}`. -/
def classWithGeneric : Concrete :=
  onLine "compilation_unit" 0 16 [
    onLine "class_declaration" 0 16 [
      onLine "class" 0 5 [] none false,
      onLine "identifier" 6 7 [] (some "name") true,
      onLine "declaration_list" 7 16 [
        onLine "\x7b" 7 8 [] none false,
        onLine "field_declaration" 8 15 [
          onLine "variable_declaration" 8 14 [
            onLine "generic_name" 8 12 [
              onLine "identifier" 8 9 [] none true,
              onLine "type_argument_list" 9 12 [
                onLine "<" 9 10 [] none false,
                onLine "identifier" 10 11 [] none true,
                onLine ">" 11 12 [] none false] none true] (some "type") true,
            onLine "variable_declarator" 13 14 [onLine "identifier" 13 14 [] (some "name") true] none true] none true,
          onLine ";" 14 15 [] none false] none true,
        onLine "\x7d" 15 16 [] none false] (some "body") true] none true] none true

theorem closesTypes_classWithGeneric : ∃ o image,
    classWithGeneric.toOutline "class C\x7bB<D> e;\x7d" none = .ok o ∧ classWithGeneric.Depicts o image ∧
    o.kind (image [0, 2, 1, 0]) ≠ .typeName ∧ o.kind (image [0, 2, 1, 0, 0]) = .typeName ∧
    o.kind (image [0, 2, 1, 0, 1]) ≠ .typeName ∧ o.IsBareType (image [0, 2, 1, 0, 0, 1, 1]) := by
  obtain ⟨hexists, hcloses⟩ := toOutline_closesTypes classWithGeneric "class C\x7bB<D> e;\x7d" none
    ⟨by decide +kernel, by decide +kernel⟩
  obtain ⟨o, ho⟩ := hexists (by decide +kernel)
  obtain ⟨image, himage, hkind, hbelow⟩ := hcloses o ho
  refine ⟨o, image, ho, himage, ?_, ?_, ?_, ?_⟩
  . exact (hkind [0, 2, 1, 0] _ rfl).not.mpr (by decide +kernel)
  . exact (hkind [0, 2, 1, 0, 0] _ rfl).mpr (by decide +kernel)
  . exact (hkind [0, 2, 1, 0, 1] _ rfl).not.mpr (by decide +kernel)
  . have hlist := (hkind [0, 2, 1, 0, 0, 1] _ rfl).mpr (by decide +kernel)
    have hchildren : o.children (image [0, 2, 1, 0, 0, 1]) = [image [0, 2, 1, 0, 0, 1, 1]] :=
      himage.children [0, 2, 1, 0, 0, 1] (by decide +kernel)
    have hlinked := (wellFormed_of_toOutline ho).toLinked
    have hparent := hlinked.mem_children.mp (hchildren ▸ List.mem_singleton_self _)
    refine hbelow _ _ hlist ?_
    rw [hlinked.lineage_eq hparent]
    exact List.mem_cons_of_mem _ Outline.mem_lineage_self

end Inputs

end Concrete
end StructuralSearch
