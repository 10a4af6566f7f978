import StructuralSearch.Outline.Name
import StructuralSearch.Proofs.Concrete.Recorded
import StructuralSearch.Proofs.Concrete.Spans

/-!
This module contains where the names in an outline come from. Each is the text of a child that the parser calls the name
of the node, so a name is on one line if it is so in the source.
-/

namespace StructuralSearch

/-- The name of a declaration is on one line. -/
def Label.IsOnLine (label : Label) : Prop :=
  label.kind.nameSource = .declared → ∀ name, label.name = some name → '\n' ∉ name.toList

namespace Concrete

/-- What the parser calls the name of a declaration is an identifier, with no line break in it. -/
def NamesOnLine (source : String) (t : Concrete) : Prop :=
  ∀ s ∈ t.subtrees, (NodeKind.ofGrammar s.info.kind false).nameSource = .declared →
    ∀ c ∈ s.children, c.info.field = some "name" →
      ∀ text, c.info.text source = .ok text → '\n' ∉ text.toList

section Names

variable {source : String} {inType : Bool} {own : Label} {s t : Concrete} {bs : List Branch} {b : Branch}

theorem field_of_isNameOf {c : Info} {kind : NodeKind} (h : c.isNameOf kind = true)
    (hkind : kind.nameSource = .declared) : c.field = some "name" := by
  have hloop : kind ≠ .forEachStatement := by
    intro heq
    subst heq
    cases hkind
  unfold Info.isNameOf at h
  grind

theorem isOnLine_of_lowerParts {field : Option String} {span : Span} (hn : NamesOnLine source t)
    (hs : s ∈ t.subtrees) (h : lowerParts source field inType span s = .ok (own, bs)) : own.IsOnLine := by
  intro hkind name hname
  obtain ⟨c, hc, hnames, htext⟩ := exists_nameChild_of_lowerParts h hname
  have hfield := field_of_isNameOf hnames hkind
  rw [kind_of_lowerParts h, kindAt] at hkind
  cases htype : inType || isTypeField field with
  | false =>
    rw [htype] at hkind
    exact hn s hs hkind c hc hfield name htext
  | true =>
    rw [htype] at hkind
    cases hkind

theorem isOnLine_of_origin (hn : NamesOnLine source t) (hb : Origin source t b) : b.label.IsOnLine := by
  cases hb with
  | node hs hparts => exact isOnLine_of_lowerParts hn hs hparts
  | clause _ _ _ _ =>
    intro _ name hname
    cases hname
  | file hs hsuffix _ hparts _ =>
    exact isOnLine_of_lowerParts hn (mem_subtrees_of_mem_children hs (hsuffix.subset List.mem_cons_self)) hparts

end Names

section Recorded

variable {source name : String} {path : Option String} {t : Concrete} {o : Outline} {i : Nat}

theorem path_of_toOutline (ho : t.toOutline source path = .ok o) : o.path = path := by
  rw [toOutline_eq, bind_eq_ok] at ho
  obtain ⟨b, _, ho⟩ := ho
  rw [Branch.toOutline_eq] at ho
  cases ho
  rfl

theorem not_mem_name (hn : NamesOnLine source t) (ho : t.toOutline source path = .ok o)
    (hkind : (o.kind i).nameSource = .declared) (hname : (o.node i).name = some name) : '\n' ∉ name.toList := by
  have hi : i < o.size := by
    apply Classical.byContradiction
    intro hsize
    rw [Outline.node_of_size_le (by omega)] at hname
    cases hname
  have hlabels : o.Everywhere fun label _ => label.IsOnLine :=
    everywhere_of_origin (fun _ => isOnLine_of_origin hn) ho
  exact hlabels i hi hkind name hname

/-- No recorded name has a line break in it: the name of a namespace loses its white space. -/
theorem not_mem_recordedName (hn : NamesOnLine source t) (ho : t.toOutline source path = .ok o)
    (h : o.recordedName? i = some name) : '\n' ∉ name.toList := by
  unfold Outline.recordedName? at h
  split at h
  . next hkind => exact not_mem_name hn ho hkind h
  . obtain ⟨d, hd, hname⟩ := Option.bind_eq_some_iff.mp h
    have hkind : (o.kind d).nameSource = .declared := by
      have hmem := List.mem_of_head? hd
      unfold Outline.declarators at hmem
      split at hmem
      . cases hmem
      . rw [beq_iff_eq.mp (List.mem_filter.mp hmem).2]
        rfl
    exact not_mem_name hn ho hkind hname
  . obtain ⟨text, _, heq⟩ := Option.map_eq_some_iff.mp h
    rw [← heq, String.toList_ofList, List.mem_filter]
    simp [Text.isWhiteSpace]
  . cases h
  . cases h

end Recorded

end Concrete
end StructuralSearch
