import StructuralSearch.Proofs.Walk.Nodewise

/-!
This module contains what a walk with the standard rules comes to, whatever the outline. No node is ever in dispute, so
nothing can stop the walk but a text that would have to be cut inside a character, and only name conditions need texts.
-/

namespace StructuralSearch

/-- The visited node that a candidate is found at. -/
def Candidate.origin : Candidate → Nat
  | .real id => id
  | .synthetic v => v.origin

namespace Walk

section Failures

variable {q : Query} {t : Outline} {scopes : List Nat} {i : Nat} {e : Error}

theorem isCut_of_enter (h : enter q t scopes i = .error e) : ∃ a, t.IsCut a e := by
  unfold enter at h
  rw [bind_eq_error] at h
  cases h with
  | inl h => exact ⟨i, Query.isCut_of_isScope h⟩
  | inr h =>
    obtain ⟨b, _, h⟩ := h
    cases b with
    | true => cases h
    | false => cases h

theorem isCut_of_accepts {c : Candidate} (h : accepts q t scopes c = .error e) : ∃ a, t.IsCut a e := by
  unfold accepts at h
  split at h
  . cases h
  . exact ⟨c.anchor, Query.isCut_of_accepts h⟩

theorem isCut_of_insertions {placement : Placement} {routed : List Routed}
    (h : insertions q t scopes placement routed = .error e) : ∃ a, t.IsCut a e := by
  obtain ⟨c, _, h⟩ := exists_of_filterM_eq_error h
  exact isCut_of_accepts h

theorem isCut_of_emit {routed : List Routed} (h : emit q t scopes i routed = .error e) : ∃ a, t.IsCut a e := by
  unfold emit at h
  rw [bind_eq_error] at h
  cases h with
  | inl h => exact isCut_of_accepts h
  | inr h =>
    obtain ⟨b, _, h⟩ := h
    split at h
    . rw [bind_eq_error] at h
      cases h with
      | inl h => exact isCut_of_insertions h
      | inr h =>
        obtain ⟨before, _, h⟩ := h
        rw [bind_eq_error] at h
        cases h with
        | inl h => exact isCut_of_insertions h
        | inr h =>
          obtain ⟨after, _, h⟩ := h
          cases h
    . cases h

theorem replacements_length_le (routed : List Routed) : (replacements routed).length ≤ routed.length := by
  unfold replacements
  apply List.length_filter_le

/-- What can end a walk at a node: its routing, two claims on its place, or a cut text. -/
theorem cause_of_visit {route : Router} {s : State} (h : visit q route t s i = .error e) :
    route t i = .error e ∨
      (∃ routed, route t i = .ok routed ∧ 1 < (replacements routed).length ∧
        e = .doubleReplacement (t.kind i) (replacements routed).length) ∨
      ∃ a, t.IsCut a e := by
  unfold visit at h
  rw [bind_eq_error] at h
  cases h with
  | inl h => exact .inl h
  | inr h =>
    obtain ⟨routed, hroute, h⟩ := h
    dsimp only at h
    split at h
    . next hcount =>
      cases h
      exact .inr (.inl ⟨routed, hroute, hcount, rfl⟩)
    . rw [bind_eq_error] at h
      cases h with
      | inl h => exact .inr (.inr (isCut_of_enter h))
      | inr h =>
        obtain ⟨scopes, _, h⟩ := h
        rw [bind_eq_error] at h
        cases h with
        | inl h => exact .inr (.inr (isCut_of_emit h))
        | inr h =>
          obtain ⟨found, _, h⟩ := h
          cases h

theorem cause_of_traverse {route : Router} (h : traverse q route t = .error e) :
    (∃ i, route t i = .error e) ∨ (∃ kind count, e = .doubleReplacement kind count) ∨ ∃ a, t.IsCut a e := by
  unfold traverse at h
  rw [bind_eq_error] at h
  cases h with
  | inl h =>
    obtain ⟨s, i, _, h⟩ := exists_of_foldlM_eq_error h
    obtain hroute | ⟨routed, _, _, hcount⟩ | hcut := cause_of_visit h
    . exact .inl ⟨i, hroute⟩
    . exact .inr (.inl ⟨_, _, hcount⟩)
    . exact .inr (.inr hcut)
  | inr h =>
    obtain ⟨s, _, h⟩ := h
    cases h

theorem isCut_of_visit_of_le {route : Router} {routed : List Routed} {s : State} (hroute : route t i = .ok routed)
    (hcount : (replacements routed).length ≤ 1) (h : visit q route t s i = .error e) : ∃ a, t.IsCut a e := by
  obtain hfailed | ⟨routed', hroute', hcount', _⟩ | hcut := cause_of_visit h
  . rw [hroute] at hfailed
    cases hfailed
  . rw [hroute] at hroute'
    cases hroute'
    omega
  . exact hcut

theorem isCut_of_visit {s : State} (h : visit q Registry.standard.resolve t s i = .error e) : ∃ a, t.IsCut a e := by
  obtain ⟨routed, hroute, hstandard⟩ := Registry.exists_standardRouting t i
  exact isCut_of_visit_of_le hroute (Nat.le_trans (replacements_length_le routed) hstandard.length_le) h

theorem isCut_of_run (h : run q Registry.standard.resolve t = .error e) : ∃ a, t.IsCut a e := by
  rw [run_eq_map, map_eq_error, map_eq_error] at h
  obtain ⟨s, i, _, h⟩ := exists_of_foldlM_eq_error h
  exact isCut_of_visit h

theorem visited_of_run {w : Walk} {route : Router} (ht : t.WellFormed) (h : run q route t = .ok w) :
    w.visited = t.size := by
  rw [run_eq_map, map_eq_ok] at h
  obtain ⟨found, _, h⟩ := h
  subst h
  rw [Outline.preorder_eq_range ht, List.length_range]

end Failures

section All

variable {t : Outline}

theorem isAccepted_default (t : Outline) (c : Candidate) : ({} : Query).isAccepted t c = true :=
  rfl

theorem findings_default (t : Outline) (i : Nat) (routed : List Routed) :
    findings {} t i routed = beside .before routed ++ candidate i routed :: beside .after routed := by
  unfold findings
  dsimp only
  rw [if_pos (isAccepted_default t _), List.filter_eq_self.mpr, List.filter_eq_self.mpr]
  . intro c _
    exact isAccepted_default t c
  . intro c _
    exact isAccepted_default t c

theorem findingsAt_default (t : Outline) (i : Nat) :
    ∃ c bodies, findingsAt {} Registry.standard.resolve t i = c :: bodies ∧
      c.origin = i ∧ c.virtualKind ≠ .methodBody ∧ (∀ b ∈ bodies, b.virtualKind = .methodBody) ∧
      bodies.map Candidate.origin = if Registry.hasBody t i then [i] else [] := by
  unfold findingsAt routedAt
  rw [findings_default]
  cases hmethod : Rule.methodBody.applies t i with
  | true =>
    obtain ⟨b, _, hresolve⟩ := Registry.resolve_of_method hmethod
    rw [hresolve, ← Registry.methodBody_applies_eq, hmethod]
    refine ⟨.real i, [.synthetic (.methodBody i b)], rfl, rfl, VirtualKind.noConfusion, ?_, rfl⟩
    intro c hc
    rw [List.mem_singleton] at hc
    subst hc
    rfl
  | false =>
    rw [← Registry.methodBody_applies_eq, hmethod]
    cases Registry.resolve_of_not_method hmethod with
    | inl hnone =>
      rw [hnone.2]
      exact ⟨.real i, [], rfl, rfl, VirtualKind.noConfusion, by simp, rfl⟩
    | inr hsome =>
      obtain ⟨r, v, hfind, hv, hresolve⟩ := hsome
      have hr := List.mem_of_find?_eq_some hfind
      have happlies : r.applies t i = true := by simpa using List.find?_some hfind
      obtain ⟨w, hw, hkind, horigin, _⟩ := Rule.exists_synthesize hr happlies
      rw [hv] at hw
      cases hw
      rw [hresolve]
      refine ⟨.synthetic v, [], rfl, horigin, ?_, by simp, rfl⟩
      unfold Candidate.virtualKind
      dsimp only
      rw [hkind]
      exact Rule.kind_ne_methodBody hr

theorem filter_findingsAt_default (t : Outline) (i : Nat) :
    ((findingsAt {} Registry.standard.resolve t i).filter (·.virtualKind != .methodBody)).map Candidate.origin = [i] ∧
    ((findingsAt {} Registry.standard.resolve t i).filter (·.virtualKind == .methodBody)).map Candidate.origin
      = [i].filter (Registry.hasBody t) := by
  obtain ⟨c, bodies, heq, horigin, hkind, hbodies, hmap⟩ := findingsAt_default t i
  have hothers : bodies.filter (·.virtualKind != .methodBody) = [] := by
    rw [List.filter_eq_nil_iff]
    intro b hb
    simp [hbodies b hb]
  have hsame : bodies.filter (·.virtualKind == .methodBody) = bodies := by
    rw [List.filter_eq_self]
    intro b hb
    simp [hbodies b hb]
  rw [heq, List.filter_cons_of_pos (by simpa using hkind), List.filter_cons_of_neg (by simpa using hkind), hothers,
    hsame, hmap]
  constructor
  . simp [horigin]
  . rw [List.filter_cons]
    rfl

theorem filter_flatMap_default (ns : List Nat) :
    ((ns.flatMap (findingsAt {} Registry.standard.resolve t)).filter (·.virtualKind != .methodBody)).map
      Candidate.origin = ns ∧
    ((ns.flatMap (findingsAt {} Registry.standard.resolve t)).filter (·.virtualKind == .methodBody)).map
      Candidate.origin = ns.filter (Registry.hasBody t) := by
  induction ns with
  | nil => exact ⟨rfl, rfl⟩
  | cons i ns ih =>
    have hi := filter_findingsAt_default t i
    rw [List.flatMap_cons, List.filter_append, List.map_append, List.filter_append, List.map_append, hi.1, hi.2,
      ih.1, ih.2]
    refine ⟨rfl, ?_⟩
    rw [← List.filter_append]
    rfl

theorem length_flatMap_default (ns : List Nat) :
    (ns.flatMap (findingsAt {} Registry.standard.resolve t)).length
      = ns.length + (ns.filter (Registry.hasBody t)).length := by
  have horigins := filter_flatMap_default (t := t) ns
  generalize ns.flatMap (findingsAt {} Registry.standard.resolve t) = found at horigins
  have hlength := congrArg List.length horigins.1
  have hbodies := congrArg List.length horigins.2
  rw [List.length_map] at hlength hbodies
  rw [← hlength, ← hbodies, List.length_eq_countP_add_countP (·.virtualKind != .methodBody),
    List.countP_eq_length_filter, List.countP_eq_length_filter]
  simp [BEq.beq]

theorem routingFault?_standard (t : Outline) (i : Nat) : routingFault? Registry.standard.resolve t i = none := by
  obtain ⟨routed, hroute, hstandard⟩ := Registry.exists_standardRouting t i
  have hcount := Nat.le_trans (replacements_length_le routed) hstandard.length_le
  unfold routingFault?
  rw [hroute]
  simp only
  rw [if_neg (by omega)]

theorem lookupFault?_default (t : Outline) (i : Nat) (routed : List Routed) :
    lookupFault? {} t i routed = none := by
  unfold lookupFault?
  rw [List.findSome?_eq_none_iff]
  intro c _
  rfl

theorem run_default (ht : t.WellFormed) :
    run {} Registry.standard.resolve t = .ok {
      visited := t.size
      found := (List.range t.size).flatMap (findingsAt {} Registry.standard.resolve t) } := by
  have hnone : (List.range t.size).findSome? (fault? {} Registry.standard.resolve t) = none := by
    rw [List.findSome?_eq_none_iff]
    intro i _
    unfold fault?
    rw [routingFault?_standard, lookupFault?_default]
    rfl
  have hq : ({} : Query).Stated := .inl ⟨{}, rfl⟩
  rw [run_eq_failOr ht hq (anchored_standard t), hnone]
  rfl

end All

/--
The standard rules settle every node of every outline, and a walk with them returns no failure: all that can stop it is
the text of an argument that would be cut inside a character. Without conditions each node is found once, and the
method bodies are found besides.
-/
theorem run_standard {t : Outline} (ht : t.Built) :
    (∀ i, i < t.size → ∃ routed, Registry.standard.resolve t i = .ok routed ∧
      Registry.StandardRouting t i routed) ∧
    (∀ q, (∃ found, run q Registry.standard.resolve t = .ok { visited := t.size, found }) ∨
      ∃ i start stop, t.kind i = .argument ∧ t.text i = .error (.cutCharacter start stop) ∧
        run q Registry.standard.resolve t = .error (.cutCharacter start stop)) ∧
    ∃ q found, ({} : Descriptor).compile = .ok q ∧
      run q Registry.standard.resolve t = .ok { visited := t.size, found } ∧
      (found.filter (·.virtualKind != .methodBody)).map Candidate.origin = List.range t.size ∧
      found.length = t.size + ((List.range t.size).filter (Registry.hasBody t)).length := by
  refine ⟨?_, ?_, ?_⟩
  . intro i _
    exact Registry.exists_standardRouting t i
  . intro q
    cases h : run q Registry.standard.resolve t with
    | ok w =>
      refine .inl ⟨w.found, ?_⟩
      rw [← visited_of_run ht.wellFormed h]
    | error e =>
      obtain ⟨i, hkind, htext⟩ := isCut_of_run h
      have he := Outline.eq_cutCharacter_of_text htext
      rw [he] at htext
      exact .inr ⟨i, _, _, hkind, htext, congrArg Except.error he⟩
  . refine ⟨{}, _, rfl, run_default ht.wellFormed, (filter_flatMap_default _).1, ?_⟩
    rw [length_flatMap_default, List.length_range]

/-- A method whose block holds an `if`. -/
def methodWithIf : List Builder.Call := [
  .openLabel { kind := .methodDeclaration, name := some "m" },
  .openLabel { kind := .block },
  .openLabel { kind := .ifStatement },
  .openLabel { kind := .identifierName }, .closeNode,
  .openLabel { kind := .block }, .closeNode, .closeNode, .closeNode, .closeNode]

theorem run_methodWithIf :
    ∃ found, run {} Registry.standard.resolve ((Builder.new "" none).calls methodWithIf).outline
      = .ok { visited := 5, found } ∧ found.length = 6 := by
  have ht : ((Builder.new "" none).calls methodWithIf).outline.Built := ⟨"", none, methodWithIf, rfl⟩
  obtain ⟨_, _, q, found, hq, hrun, _, hlength⟩ := run_standard ht
  cases hq
  refine ⟨found, hrun, ?_⟩
  rw [hlength]
  decide +kernel

end Walk
end StructuralSearch
