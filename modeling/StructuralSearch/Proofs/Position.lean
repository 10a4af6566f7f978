import StructuralSearch.Position

/-!
This module contains the order of positions, and spans that lie in one another or follow one another.
-/

namespace StructuralSearch
namespace Position

variable {p q r : Position}

theorem le_iff : p.le q = true ↔ p.row < q.row ∨ p.row = q.row ∧ p.column ≤ q.column := by
  simp [Position.le]

theorem lt_iff : p.lt q = true ↔ ¬ q.le p = true := by
  rw [lt_eq_not_le]
  simp

@[simp]
theorem le_refl (p : Position) : p.le p = true := by
  rw [le_iff]
  omega

theorem le_trans (h : p.le q = true) (h' : q.le r = true) : p.le r = true := by
  rw [le_iff] at *
  omega

end Position

namespace Span

variable {a b c : Span}

/-- Starts and ends in the other one. -/
def Within (a b : Span) : Prop :=
  b.start.le a.start = true ∧ a.stop.le b.stop = true

theorem Within.refl (a : Span) : a.Within a :=
  ⟨Position.le_refl _, Position.le_refl _⟩

theorem Within.trans (h : a.Within b) (h' : b.Within c) : a.Within c :=
  ⟨Position.le_trans h'.1 h.1, Position.le_trans h.2 h'.2⟩

/-- Ends before the other one starts, or where it starts. -/
def Precedes (a b : Span) : Prop :=
  a.stop.le b.start = true

theorem Precedes.of_within {a' b' : Span} (h : a.Precedes b) (ha : a'.Within a) (hb : b'.Within b) :
    a'.Precedes b' :=
  Position.le_trans ha.2 (Position.le_trans h hb.1)

/-- The spans follow one another between the two positions. -/
def InOrder (hi : Position) (lo : Position) : List Span → Prop
  | [] => True
  | s :: ss => lo.le s.start = true ∧ s.start.le s.stop = true ∧ s.stop.le hi = true ∧ InOrder hi s.stop ss

namespace InOrder

variable {lo lo' hi : Position} {s : Span} {ss ss' : List Span}

theorem mono (h : InOrder hi lo ss) (hlo : lo'.le lo = true) : InOrder hi lo' ss := by
  cases ss with
  | nil => trivial
  | cons s ss => exact ⟨Position.le_trans hlo h.1, h.2⟩

theorem tail (h : InOrder hi lo (s :: ss)) : InOrder hi lo ss :=
  h.2.2.2.mono (Position.le_trans h.1 h.2.1)

theorem sublist (h : InOrder hi lo ss) (hs : ss'.Sublist ss) : InOrder hi lo ss' := by
  induction hs generalizing lo with
  | slnil => exact h
  | cons s _ ih => exact ih h.tail
  | cons_cons s _ ih => exact ⟨h.1, h.2.1, h.2.2.1, ih h.2.2.2⟩

theorem bounds (h : InOrder hi lo ss) : ∀ s ∈ ss, lo.le s.start = true ∧ s.stop.le hi = true := by
  induction ss generalizing lo with
  | nil => simp
  | cons s ss ih =>
    rw [List.forall_mem_cons]
    refine ⟨⟨h.1, h.2.2.1⟩, ?_⟩
    intro s' hs'
    exact ih h.tail s' hs'

theorem pairwise (h : InOrder hi lo ss) : ss.Pairwise Precedes := by
  induction ss generalizing lo with
  | nil => exact List.Pairwise.nil
  | cons s ss ih =>
    rw [List.pairwise_cons]
    refine ⟨?_, ih h.2.2.2⟩
    intro s' hs'
    exact (h.2.2.2.bounds s' hs').1

theorem append {mid : Position} (h : InOrder mid lo ss) (hmid : mid.le hi = true) (hlo : lo.le mid = true)
    (h' : InOrder hi mid ss') : InOrder hi lo (ss ++ ss') := by
  induction ss generalizing lo with
  | nil => exact h'.mono hlo
  | cons s ss ih => exact ⟨h.1, h.2.1, Position.le_trans h.2.2.1 hmid, ih h.2.2.2 h.2.2.1⟩

end InOrder
end Span
end StructuralSearch
