import Mathlib.Data.List.Lex
import StructuralSearch.Path

/-!
This module contains the order of paths and the components of a path below a directory. Paths are ordered like words
are, component by component, so two paths that are not before one another have the same components.
-/

namespace StructuralSearch
namespace Path

namespace Component

variable {a b c : Component}

/-- The order of components as a relation. -/
def Before (a b : Component) : Prop :=
  a.lt b = true

/-- Names come after all other components. Among themselves they are ordered as texts. -/
theorem before_iff :
    a.Before b ↔ a.rank < b.rank ∨ ∃ x y, a = .normal x ∧ b = .normal y ∧ x < y := by
  unfold Before lt
  split
  . simp [rank]
  . next hnames =>
    simp only [decide_eq_true_eq]
    refine ⟨.inl, ?_⟩
    intro h
    obtain hrank | ⟨x, y, hx, hy, _⟩ := h
    . exact hrank
    . exact (hnames x y hx hy).elim

theorem eq_of_rank_eq (h : a.rank = b.rank) : a = b ∨ ∃ x y, a = .normal x ∧ b = .normal y := by
  cases a <;> cases b <;> simp_all [rank]

instance : Std.Asymm Before where
  asymm a b h h' := by
    rw [before_iff] at h h'
    obtain hrank | ⟨x, y, rfl, rfl, hlt⟩ := h
    . obtain hrank' | ⟨x, y, rfl, rfl, _⟩ := h'
      . omega
      . exact Nat.lt_irrefl _ hrank
    . obtain hrank' | ⟨x', y', hx, hy, hlt'⟩ := h'
      . exact Nat.lt_irrefl _ hrank'
      . cases hx
        cases hy
        exact String.lt_asymm hlt hlt'

instance : Std.Trichotomous Before where
  trichotomous a b h h' := by
    rw [before_iff] at h h'
    have hrank : a.rank = b.rank := by omega
    obtain heq | ⟨x, y, rfl, rfl⟩ := eq_of_rank_eq hrank
    . exact heq
    . have hxy : ¬ x < y := fun hlt => h (.inr ⟨x, y, rfl, rfl, hlt⟩)
      have hyx : ¬ y < x := fun hlt => h' (.inr ⟨y, x, rfl, rfl, hlt⟩)
      rw [String.le_antisymm hyx hxy]

instance : IsOrderConnected Component Before where
  conn a b c h := by
    simp only [before_iff] at h ⊢
    obtain hrank | ⟨x, z, rfl, rfl, hlt⟩ := h
    . obtain hab | hbc : a.rank < b.rank ∨ b.rank < c.rank := by omega
      . exact .inl (.inl hab)
      . exact .inr (.inl hbc)
    . cases b with
      | normal y =>
        by_cases hxy : x < y
        . exact .inl (.inr ⟨x, y, rfl, rfl, hxy⟩)
        . by_cases hyz : y < z
          . exact .inr (.inr ⟨y, z, rfl, rfl, hyz⟩)
          . exact absurd hlt (String.le_trans hyz hxy)
      | root | current | parent => exact .inr (.inl (by simp [rank]))

end Component

theorem lt_iff {a b : String} : lt a b = true ↔ List.Lex Component.Before (components a) (components b) := by
  have hgo : ∀ xs ys, lt.go xs ys = true ↔ List.Lex Component.Before xs ys := by
    intro xs
    induction xs with
    | nil =>
      intro ys
      cases ys with
      | nil => simp [lt.go]
      | cons y ys => simp [lt.go]
    | cons x xs ih =>
      intro ys
      cases ys with
      | nil => simp [lt.go]
      | cons y ys =>
        rw [lt.go, Bool.or_eq_true, Bool.and_eq_true, beq_iff_eq, ih, List.cons_lex_cons_iff]
        rfl
  exact hgo _ _

/-- Sorting leaves no doubt about the order if no two paths have the same components. -/
theorem pairwise_mergeSort {paths : List String} (h : (paths.map components).Nodup) :
    (paths.mergeSort fun a b => !lt b a).Pairwise fun a b => lt a b = true := by
  have hsorted : (paths.mergeSort fun a b => !lt b a).Pairwise fun a b => (!lt b a) = true := by
    apply List.pairwise_mergeSort
    . intro a b c hab hbc
      rw [Bool.not_eq_true', ← Bool.not_eq_true, lt_iff] at hab hbc ⊢
      exact IsOrderConnected.neg_trans hbc hab
    . intro a b
      rw [Bool.or_eq_true, Bool.not_eq_true', Bool.not_eq_true', ← Bool.not_eq_true, ← Bool.not_eq_true, lt_iff, lt_iff]
      by_cases hba : List.Lex Component.Before (components b) (components a)
      . exact .inr (Std.Asymm.asymm _ _ hba)
      . exact .inl hba
  have hdistinct : (paths.mergeSort fun a b => !lt b a).Pairwise fun a b => components a ≠ components b := by
    rw [← List.pairwise_map]
    exact ((List.mergeSort_perm _ _).map components).nodup_iff.mpr h
  refine hsorted.imp₂ ?_ hdistinct
  intro a b hba hne
  rw [Bool.not_eq_true', ← Bool.not_eq_true, lt_iff] at hba
  rw [lt_iff]
  by_contra hab
  exact hne (Std.Trichotomous.trichotomous _ _ hab hba)

section Pieces

variable {cs : List Char} {directory name : String}

theorem pieces_go_ne_nil (cs : List Char) : pieces.go cs ≠ [] := by
  cases cs with
  | nil => simp [pieces.go]
  | cons c cs =>
    rw [pieces.go]
    split
    . simp
    . split
      . simp
      . simp

theorem pieces_go_append (cs ds : List Char) : pieces.go (cs ++ '/' :: ds) = pieces.go cs ++ pieces.go ds := by
  induction cs with
  | nil => simp [pieces.go]
  | cons c cs ih =>
    rw [List.cons_append, pieces.go, pieces.go, ih]
    split
    . rfl
    . cases hcs : pieces.go cs with
      | nil => exact absurd hcs (pieces_go_ne_nil cs)
      | cons p ps => rfl

theorem pieces_go_of_not_mem (h : '/' ∉ cs) : pieces.go cs = [String.ofList cs] := by
  induction cs with
  | nil => rfl
  | cons c cs ih =>
    rw [List.mem_cons, not_or] at h
    rw [pieces.go, if_neg (Ne.symm h.1), ih h.2]
    simp

theorem eq_nil_of_pieces_go (h : pieces.go cs = [""]) : cs = [] := by
  cases cs with
  | nil => rfl
  | cons c cs =>
    rw [pieces.go] at h
    split at h
    . exact absurd (List.cons.inj h).2 (pieces_go_ne_nil cs)
    . split at h
      . simp at h
      . simp at h

/-- The name of something in a directory. -/
structure IsName (name : String) : Prop where
  ne_empty : name ≠ ""
  ne_current : name ≠ "."
  ne_parent : name ≠ ".."
  slash_free : '/' ∉ name.toList

theorem isName_iff : IsName name ↔ name ≠ "" ∧ name ≠ "." ∧ name ≠ ".." ∧ '/' ∉ name.toList := by
  constructor
  . intro h
    exact ⟨h.ne_empty, h.ne_current, h.ne_parent, h.slash_free⟩
  . intro h
    exact ⟨h.1, h.2.1, h.2.2.1, h.2.2.2⟩

instance : Decidable (IsName name) :=
  decidable_of_iff _ isName_iff.symm

theorem IsName.pieces_append (h : IsName name) (directory : String) :
    pieces (directory ++ "/" ++ name) = pieces directory ++ [name] := by
  unfold pieces
  rw [String.toList_append, String.toList_append, List.append_assoc]
  change pieces.go (directory.toList ++ '/' :: name.toList) = _
  rw [pieces_go_append, pieces_go_of_not_mem h.slash_free, String.ofList_toList]

theorem IsName.significant (h : IsName name) (names : List String) :
    significant (names ++ [name]) = significant names ++ [.normal name] := by
  unfold Path.significant
  rw [List.filter_append, List.map_append]
  simp [h.ne_empty, h.ne_current, h.ne_parent, Component.ofName]

/-- A name that is put after the pieces of a path is one more component. Empty pieces in between do not count. -/
theorem IsName.components_of_pieces (h : IsName name) {a b first : String} {rest names : List String}
    (ha : pieces a = first :: rest) (hb : pieces b = first :: (names ++ [name]))
    (hrest : Path.significant rest = Path.significant names) (hfirst : rest = [] → first ≠ "") :
    components b = components a ++ [.normal name] := by
  have hroot : rest ≠ [] ∧ first = "" ↔ first = "" := by
    refine ⟨And.right, ?_⟩
    intro hempty
    exact ⟨fun hnil => hfirst hnil hempty, hempty⟩
  have hall : Path.significant (first :: rest) = Path.significant (first :: names) := by
    unfold Path.significant at hrest ⊢
    rw [List.filter_cons, List.filter_cons]
    split
    . rw [List.map_cons, List.map_cons, hrest]
    . exact hrest
  unfold components
  rw [ha, hb]
  simp only [hroot, hrest, hall, h.significant, ← List.cons_append]
  simp only [ne_eq, List.append_eq_nil_iff, List.cons_ne_self, and_false, not_false_eq_true, true_and]
  split
  . rfl
  . split
    . rfl
    . rfl

theorem IsName.components_join (h : IsName name) (hdirectory : directory ≠ "") :
    components (join directory name) = components directory ++ [.normal name] := by
  unfold join
  split
  . next hslash =>
    replace hslash := hslash.resolve_left hdirectory
    obtain ⟨cs, hcs⟩ := List.getLast?_eq_some_iff.mp hslash
    have hdir : directory = String.ofList cs ++ "/" := by
      rw [← String.toList_inj, hcs]
      simp
    have hends : pieces directory = pieces (String.ofList cs) ++ [""] := by
      rw [hdir]
      unfold pieces
      rw [String.toList_append]
      exact pieces_go_append _ []
    have hjoin : pieces (directory ++ name) = pieces (String.ofList cs) ++ [name] := by
      rw [hdir]
      exact h.pieces_append _
    obtain ⟨first, rest, hpieces⟩ := List.exists_cons_of_ne_nil (pieces_go_ne_nil (String.ofList cs).toList)
    replace hpieces : pieces (String.ofList cs) = first :: rest := hpieces
    rw [hpieces] at hends hjoin
    refine h.components_of_pieces hends hjoin ?_ (by simp)
    simp [Path.significant]
  . have hjoin := h.pieces_append directory
    obtain ⟨first, rest, hpieces⟩ := List.exists_cons_of_ne_nil (pieces_go_ne_nil directory.toList)
    replace hpieces : pieces directory = first :: rest := hpieces
    rw [hpieces] at hjoin
    refine h.components_of_pieces hpieces hjoin rfl ?_
    intro hnil hempty
    rw [hnil, hempty] at hpieces
    exact hdirectory (String.toList_eq_nil_iff.mp (eq_nil_of_pieces_go hpieces))

/-- The path of what is below a directory, by the names that lead there. -/
theorem components_foldl_join {names : List String} (hnames : ∀ name ∈ names, IsName name)
    (hdirectory : directory ≠ "") :
    components (names.foldl join directory) = components directory ++ names.map .normal := by
  induction names generalizing directory with
  | nil => simp
  | cons name names ih =>
    rw [List.forall_mem_cons] at hnames
    have hcomponents := hnames.1.components_join hdirectory
    have hjoin : join directory name ≠ "" := by
      intro hempty
      have hnone : components "" = [] := by decide
      rw [hempty, hnone] at hcomponents
      simp at hcomponents
    rw [List.foldl_cons, ih hnames.2 hjoin, hcomponents, List.append_assoc, List.map_cons, List.singleton_append]

end Pieces

end Path
end StructuralSearch
