import StructuralSearch.Error

/-!
This module contains how computations that may fail are taken apart: what their steps gave if they succeed, and which of
their steps it was if they fail.
-/

namespace StructuralSearch

variable {ε α β : Type}

@[simp]
theorem ok_bind (a : α) (f : α → Except ε β) : (Except.ok a >>= f) = f a :=
  rfl

theorem bind_eq_ok {x : Except ε α} {f : α → Except ε β} {b : β} :
    (x >>= f) = .ok b ↔ ∃ a, x = .ok a ∧ f a = .ok b := by
  cases x with
  | ok a => simp [bind, Except.bind]
  | error e => simp [bind, Except.bind]

theorem bind_eq_error {x : Except ε α} {f : α → Except ε β} {e : ε} :
    (x >>= f) = .error e ↔ x = .error e ∨ ∃ a, x = .ok a ∧ f a = .error e := by
  cases x with
  | ok a => simp [bind, Except.bind]
  | error e => simp [bind, Except.bind]

theorem map_eq_ok {x : Except ε α} {f : α → β} {b : β} :
    x.map f = .ok b ↔ ∃ a, x = .ok a ∧ f a = b := by
  cases x with
  | ok a => simp [Except.map]
  | error e => simp [Except.map]

theorem map_eq_error {x : Except ε α} {f : α → β} {e : ε} : x.map f = .error e ↔ x = .error e := by
  cases x with
  | ok a => simp [Except.map]
  | error e => simp [Except.map]

theorem mapError_eq_ok {ε' : Type} {x : Except ε α} {f : ε → ε'} {a : α} : x.mapError f = .ok a ↔ x = .ok a := by
  cases x with
  | ok b =>
    change Except.ok b = .ok a ↔ Except.ok b = .ok a
    rw [Except.ok.injEq, Except.ok.injEq]
  | error e =>
    change Except.error (f e) = .ok a ↔ Except.error e = .ok a
    simp

theorem mapError_eq_error {ε' : Type} {x : Except ε α} {f : ε → ε'} {e : ε'} :
    x.mapError f = .error e ↔ ∃ e', x = .error e' ∧ f e' = e := by
  cases x with
  | ok a =>
    change Except.ok a = .error e ↔ _
    simp
  | error e' =>
    change Except.error (f e') = .error e ↔ _
    simp

theorem toOption_eq_some {x : Except ε α} {a : α} : x.toOption = some a ↔ x = .ok a := by
  cases x with
  | ok a => simp [Except.toOption]
  | error e => simp [Except.toOption]

/-- The failure of a computation, if it fails. -/
def Error.of? : Except Error α → Option Error
  | .ok _ => none
  | .error e => some e

/-- Whether a question was answered, and with yes. -/
def isYes (x : Except Error Bool) : Bool :=
  x.toOption.getD false

/-- Fails with the given failure, or gives the value if there is none. -/
def failOr : Option Error → α → Except Error α
  | some e, _ => .error e
  | none, a => .ok a

@[simp]
theorem Error.of?_ok (a : α) : Error.of? (.ok a) = none :=
  rfl

@[simp]
theorem Error.of?_error (e : Error) : Error.of? (.error e : Except Error α) = some e :=
  rfl

@[simp]
theorem isYes_ok (b : Bool) : isYes (.ok b) = b :=
  rfl

theorem isYes_eq_true {x : Except Error Bool} : isYes x = true ↔ x = .ok true := by
  cases x with
  | ok b => simp
  | error e => simp [isYes, Except.toOption]

@[simp]
theorem failOr_some (e : Error) (a : α) : failOr (some e) a = .error e :=
  rfl

@[simp]
theorem failOr_none (a : α) : failOr none a = .ok a :=
  rfl

theorem filterAuxM_eq (p : α → Except Error Bool) (xs acc : List α) :
    xs.filterAuxM p acc = failOr (xs.findSome? fun x => Error.of? (p x))
      ((xs.filter fun x => isYes (p x)).reverse ++ acc) := by
  induction xs generalizing acc with
  | nil => rfl
  | cons x xs ih =>
    rw [List.filterAuxM, List.findSome?_cons, List.filter_cons]
    cases hx : p x with
    | error e => rfl
    | ok b =>
      dsimp only [bind, Except.bind, Error.of?_ok, isYes_ok]
      rw [ih]
      cases b with
      | true => simp
      | false => simp

/-- A filter that may fail asks about all in turn, and the first failure ends it. -/
theorem filterM_eq (p : α → Except Error Bool) (xs : List α) :
    xs.filterM p = failOr (xs.findSome? fun x => Error.of? (p x)) (xs.filter fun x => isYes (p x)) := by
  unfold List.filterM
  rw [filterAuxM_eq]
  cases xs.findSome? fun x => Error.of? (p x) with
  | some e => rfl
  | none => simp [bind, Except.bind, pure, Except.pure]

theorem Error.of?_eq_some {x : Except Error α} {e : Error} : Error.of? x = some e ↔ x = .error e := by
  cases x with
  | ok a => simp
  | error e => simp

theorem failOr_eq_error {fault : Option Error} {a : α} {e : Error} :
    failOr fault a = .error e ↔ fault = some e := by
  cases fault with
  | none => simp
  | some e => simp

theorem exists_of_filterM_eq_error {p : α → Except Error Bool} {xs : List α} {e : Error}
    (h : xs.filterM p = .error e) : ∃ x ∈ xs, p x = .error e := by
  rw [filterM_eq, failOr_eq_error] at h
  obtain ⟨x, hx, h⟩ := List.exists_of_findSome?_eq_some h
  exact ⟨x, hx, Error.of?_eq_some.mp h⟩

theorem exists_of_mem_mapM {f : α → Except ε β} {xs : List α} {ys : List β} {y : β} (h : xs.mapM f = .ok ys)
    (hy : y ∈ ys) : ∃ x ∈ xs, f x = .ok y := by
  induction xs generalizing ys with
  | nil =>
    cases h
    cases hy
  | cons x xs ih =>
    simp only [List.mapM_cons, bind_eq_ok] at h
    obtain ⟨y', hy', rest, hrest, h⟩ := h
    cases h
    rw [List.mem_cons] at hy
    cases hy with
    | inl heq =>
      subst heq
      exact ⟨x, List.mem_cons_self, hy'⟩
    | inr hy =>
      obtain ⟨x', hx', h⟩ := ih hrest hy
      exact ⟨x', List.mem_cons_of_mem x hx', h⟩

theorem exists_mem_of_mapM {f : α → Except ε β} {xs : List α} {ys : List β} {x : α} (h : xs.mapM f = .ok ys)
    (hx : x ∈ xs) : ∃ y ∈ ys, f x = .ok y := by
  induction xs generalizing ys with
  | nil => cases hx
  | cons x' xs ih =>
    simp only [List.mapM_cons, bind_eq_ok] at h
    obtain ⟨y', hy', rest, hrest, h⟩ := h
    cases h
    rw [List.mem_cons] at hx
    cases hx with
    | inl heq =>
      subst heq
      exact ⟨y', List.mem_cons_self, hy'⟩
    | inr hx =>
      obtain ⟨y, hy, h⟩ := ih hrest hx
      exact ⟨y, List.mem_cons_of_mem y' hy, h⟩

/-- Whether and how the second step fails does not depend on what the first one gives. -/
theorem Error.of?_bind {x : Except Error α} {f : α → Except Error β} {fault : Option Error}
    (h : ∀ a, Error.of? (f a) = fault) : Error.of? (x >>= f) = (Error.of? x).or fault := by
  cases x with
  | ok a => exact h a
  | error e => rfl

theorem Error.of?_map (x : Except Error α) (f : α → β) : Error.of? (x.map f) = Error.of? x := by
  cases x with
  | ok a => rfl
  | error e => rfl

theorem Error.of?_mapM (f : α → Except Error β) (xs : List α) :
    Error.of? (xs.mapM f) = xs.findSome? fun x => Error.of? (f x) := by
  induction xs with
  | nil => rfl
  | cons x xs ih =>
    have hrest : ∀ y, Error.of? (do let ys ← xs.mapM f; return y :: ys) = xs.findSome? fun x => Error.of? (f x) := by
      intro y
      have hpure : ∀ ys, Error.of? (pure (y :: ys) : Except Error (List β)) = none := fun _ => rfl
      rw [Error.of?_bind hpure, ih, Option.or_none]
    rw [List.mapM_cons, Error.of?_bind hrest, List.findSome?_cons]
    cases Error.of? (f x) with
    | none => rfl
    | some e => rfl

theorem exists_of_mapM_eq_error {f : α → Except Error β} {xs : List α} {e : Error} (h : xs.mapM f = .error e) :
    ∃ x ∈ xs, f x = .error e := by
  rw [← Error.of?_eq_some, Error.of?_mapM] at h
  obtain ⟨x, hx, h⟩ := List.exists_of_findSome?_eq_some h
  exact ⟨x, hx, Error.of?_eq_some.mp h⟩

theorem mapM_eq_ok {f : α → Except ε β} {g : α → β} {xs : List α} (h : ∀ x ∈ xs, f x = .ok (g x)) :
    xs.mapM f = .ok (xs.map g) := by
  induction xs with
  | nil => rfl
  | cons x xs ih =>
    rw [List.forall_mem_cons] at h
    rw [List.mapM_cons, h.1, ih h.2]
    rfl

theorem exists_of_foldlM_eq_error {f : β → α → Except ε β} {xs : List α} {b : β} {e : ε}
    (h : xs.foldlM f b = .error e) : ∃ b' x, x ∈ xs ∧ f b' x = .error e := by
  induction xs generalizing b with
  | nil => cases h
  | cons x xs ih =>
    rw [List.foldlM_cons, bind_eq_error] at h
    cases h with
    | inl h => exact ⟨b, x, List.mem_cons_self, h⟩
    | inr h =>
      obtain ⟨b', _, h⟩ := h
      obtain ⟨b'', y, hy, h⟩ := ih h
      exact ⟨b'', y, List.mem_cons_of_mem x hy, h⟩

end StructuralSearch
