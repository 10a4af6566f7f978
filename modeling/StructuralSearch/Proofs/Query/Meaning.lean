import StructuralSearch.Proofs.Query.Lookup
import StructuralSearch.Proofs.Text

/-!
This module contains what descriptors mean, said without matchers: which of their patterns are at fault, which
candidates meet them and which nodes are the scopes that they ask for. What the choices of a descriptor stand for is
said here as well, choice by choice. A descriptor compiles unless a pattern is at fault, and the query that it compiles
to means the same.
-/

namespace StructuralSearch

theorem Text.containsFragment_iff {fragment text : List Char} :
    containsFragment fragment text = true ↔ fragment <:+: text := by
  induction text with
  | nil => simp [containsFragment]
  | cons c cs ih =>
    rw [containsFragment, Bool.or_eq_true, List.isPrefixOf_iff_prefix, ih, List.infix_cons_iff]

namespace Pattern

/-- Whether a text has what a pattern of a descriptor looks for. -/
def Finds (regex : Bool) (pattern text : String) : Prop :=
  if regex then
    ∃ e, Regex.compile? pattern = some e ∧ e.isMatch text = true
  else
    pattern.toList <:+: text.toList

/-- What is wrong with a pattern that is given for some list. -/
def fault? (regex : Bool) (list : PatternList) (pattern : String) : Option Error :=
  if pattern.toList.all Text.isWhiteSpace then
    some (.invalidArgument (.blankPattern list))
  else if regex && (Regex.compile? pattern).isNone then
    some (.invalidRegex pattern)
  else
    none

variable {list : PatternList} {regex : Bool} {text : String}

theorem of?_make : Error.of? (make list regex text) = fault? regex list text := by
  unfold make fault? Text.isBlank
  rw [Text.isEmpty_trim]
  split
  . rfl
  . cases regex with
    | false => rfl
    | true =>
      cases Regex.compile? text with
      | none => rfl
      | some e => rfl

theorem isMatch_of_make {p : Pattern} {s : String} (h : make list regex text = .ok p) :
    p.isMatch s = true ↔ Finds regex text s := by
  unfold make at h
  split at h
  . cases h
  . cases regex with
    | false =>
      cases h
      rw [isMatch, Text.containsFragment_iff]
      rfl
    | true =>
      cases hcompile : Regex.compile? text with
      | none =>
        rw [hcompile] at h
        cases h
      | some e =>
        rw [hcompile] at h
        cases h
        simp [isMatch, Finds, hcompile]

end Pattern

namespace NameFilter

/-- Whether a name has one of the patterns that it should have, if there are any, and none that it should not. -/
def Admits (regex : Bool) (contains excludes : List String) (name : String) : Prop :=
  (contains = [] ∨ ∃ p ∈ contains, Pattern.Finds regex p name) ∧ ∀ p ∈ excludes, ¬ Pattern.Finds regex p name

variable {regex : Bool} {contains excludes : List String} {f : NameFilter} {name : String}

theorem of?_make : Error.of? (make regex contains excludes) =
    (contains.findSome? (Pattern.fault? regex .contains)).or
      (excludes.findSome? (Pattern.fault? regex .excludes)) := by
  have hexcludes : ∀ ps : List Pattern, Error.of? (do
      let qs ← excludes.mapM (Pattern.make .excludes regex)
      return ({ contains := ps, excludes := qs, regex } : NameFilter))
        = excludes.findSome? (Pattern.fault? regex .excludes) := by
    intro ps
    have hpure : ∀ qs, Error.of? (pure { contains := ps, excludes := qs, regex } : Except Error NameFilter) = none :=
      fun _ => rfl
    rw [Error.of?_bind hpure, Error.of?_mapM, Option.or_none]
    simp only [Pattern.of?_make]
  unfold make
  rw [Error.of?_bind hexcludes, Error.of?_mapM]
  simp only [Pattern.of?_make]

theorem any_isMatch {list : PatternList} {texts : List String} {ps : List Pattern}
    (h : texts.mapM (Pattern.make list regex) = .ok ps) :
    ps.any (·.isMatch name) = true ↔ ∃ p ∈ texts, Pattern.Finds regex p name := by
  rw [List.any_eq_true]
  constructor
  . intro hex
    obtain ⟨p, hp, hmatch⟩ := hex
    obtain ⟨text, htext, hmake⟩ := exists_of_mem_mapM h hp
    exact ⟨text, htext, (Pattern.isMatch_of_make hmake).mp hmatch⟩
  . intro hex
    obtain ⟨text, htext, hfinds⟩ := hex
    obtain ⟨p, hp, hmake⟩ := exists_mem_of_mapM h htext
    exact ⟨p, hp, (Pattern.isMatch_of_make hmake).mpr hfinds⟩

theorem isEmpty_of_mapM {list : PatternList} {texts : List String} {ps : List Pattern}
    (h : texts.mapM (Pattern.make list regex) = .ok ps) : ps.isEmpty = true ↔ texts = [] := by
  cases texts with
  | nil =>
    cases h
    simp
  | cons text texts =>
    obtain ⟨p, hp, _⟩ := exists_mem_of_mapM h List.mem_cons_self
    cases ps with
    | nil => cases hp
    | cons p ps => simp

theorem kinds_of_make (h : make regex contains excludes = .ok f) : f.kinds = none := by
  simp only [make, bind_eq_ok] at h
  obtain ⟨ps, hps, qs, hqs, h⟩ := h
  cases h
  rfl

theorem accepts_of_make (h : make regex contains excludes = .ok f) :
    f.accepts name = true ↔ Admits regex contains excludes name := by
  simp only [make, bind_eq_ok] at h
  obtain ⟨ps, hps, qs, hqs, h⟩ := h
  cases h
  unfold accepts Admits
  rw [Bool.and_eq_true, Bool.or_eq_true, Bool.not_eq_true', isEmpty_of_mapM hps, any_isMatch hps,
    ← Bool.not_eq_true, any_isMatch hqs]
  simp

end NameFilter

namespace Matcher

variable {t : Outline} {c : Candidate}

theorem acceptsAll_iff {ms : List Matcher} :
    acceptsAll t c ms = .ok true ↔ ∀ m ∈ ms, m.accepts t c = .ok true := by
  induction ms with
  | nil => simp [acceptsAll]
  | cons m ms ih =>
    rw [acceptsAll, bind_eq_ok, List.forall_mem_cons, ← ih]
    constructor
    . intro h
      obtain ⟨b, hb, h⟩ := h
      cases b with
      | true => exact ⟨hb, h⟩
      | false => cases h
    . intro h
      exact ⟨true, h⟩

theorem accepts_name_iff {f : NameFilter} :
    (Matcher.name f).accepts t c = .ok true ↔
      f.considers (c.kind t) = true ∧ ∃ name, c.identifier t = .ok (some name) ∧ f.accepts name = true := by
  rw [accepts]
  split
  . next h =>
    rw [map_eq_ok]
    constructor
    . intro hex
      obtain ⟨name?, hname, haccepts⟩ := hex
      cases name? with
      | none => cases haccepts
      | some name => exact ⟨h, name, hname, haccepts⟩
    . intro hex
      obtain ⟨_, name, hname, haccepts⟩ := hex
      exact ⟨some name, hname, haccepts⟩
  . next h => simp [h]

theorem accepts_kinds_iff {ks? : Option (List NodeKind)} :
    (∀ m ∈ ks?.toList.map Matcher.kinds, m.accepts t c = .ok true) ↔ ∀ ks, ks? = some ks → c.kind t ∈ ks := by
  cases ks? with
  | none => simp
  | some ks => simp [accepts]

end Matcher

section Choices

/-- The kinds of nodes that a target stands for. -/
inductive TargetKind.Covers : TargetKind → NodeKind → Prop where
  | any (k : NodeKind) : Covers .any k
  | namespaceWithBody : Covers .namespaceTarget .namespaceDeclaration
  | namespaceOfFile : Covers .namespaceTarget .fileScopedNamespaceDeclaration
  | classTarget : Covers .classTarget .classDeclaration
  | structTarget : Covers .structTarget .structDeclaration
  | enumTarget : Covers .enumTarget .enumDeclaration
  | interfaceTarget : Covers .interfaceTarget .interfaceDeclaration
  | field : Covers .field .fieldDeclaration
  | property : Covers .property .propertyDeclaration
  | method : Covers .method .methodDeclaration
  | localVariable : Covers .localVariable .localDeclarationStatement
  | parameter : Covers .parameter .parameter
  | argument : Covers .argument .argument

/-- The modifiers that an access level asks for. Others may be there as well. -/
inductive AccessLevel.Demands : AccessLevel → Modifier → Prop where
  | publicLevel : Demands .publicLevel .publicAccess
  | privateLevel : Demands .privateLevel .privateAccess
  | protectedLevel : Demands .protectedLevel .protectedAccess
  | internalLevel : Demands .internalLevel .internalAccess
  | protectedWithInternal : Demands .protectedInternal .protectedAccess
  | internalWithProtected : Demands .protectedInternal .internalAccess
  | privateWithProtected : Demands .privateProtected .privateAccess
  | protectedWithPrivate : Demands .privateProtected .protectedAccess

/-- The kinds of nodes that a scope may have. Any scope is one of those that can be asked for. -/
inductive ScopeKind.Covers : ScopeKind → NodeKind → Prop where
  | any {s : ScopeKind} {k : NodeKind} (h : Covers s k) : Covers .any k
  | namespaceWithBody : Covers .namespaceScope .namespaceDeclaration
  | namespaceOfFile : Covers .namespaceScope .fileScopedNamespaceDeclaration
  | classScope : Covers .classScope .classDeclaration
  | structScope : Covers .structScope .structDeclaration
  | interfaceScope : Covers .interfaceScope .interfaceDeclaration

theorem TargetKind.covers_iff {target : TargetKind} {k : NodeKind} :
    target.Covers k ↔ ∀ ks, target.kinds? = some ks → k ∈ ks := by
  constructor
  . intro h
    cases h <;> simp [kinds?, namespaceKinds]
  . intro h
    cases target with
    | any => exact .any k
    | namespaceTarget =>
      have hk := h _ rfl
      simp only [namespaceKinds, List.mem_cons, List.not_mem_nil, or_false] at hk
      cases hk with
      | inl heq =>
        rw [heq]
        exact .namespaceWithBody
      | inr heq =>
        rw [heq]
        exact .namespaceOfFile
    | _ =>
      rw [List.mem_singleton.mp (h _ rfl)]
      constructor

theorem AccessLevel.demands_iff {access : AccessLevel} {m : Modifier} :
    access.Demands m ↔ m ∈ access.modifiers?.getD [] := by
  constructor
  . intro h
    cases h <;> decide
  . intro h
    cases access with
    | any => cases h
    | protectedInternal | privateProtected =>
      simp only [modifiers?, Option.getD_some, List.mem_cons, List.not_mem_nil, or_false] at h
      cases h with
      | inl heq =>
        rw [heq]
        constructor
      | inr heq =>
        rw [heq]
        constructor
    | _ =>
      rw [List.mem_singleton.mp h]
      constructor

theorem ScopeKind.covers_iff {scope : ScopeKind} {k : NodeKind} :
    scope.Covers k ↔ k ∈ scope.kinds?.getD scopeKinds := by
  constructor
  . intro h
    induction h with
    | @any s k _ ih => cases s <;> revert ih <;> cases k <;> decide
    | _ => decide
  . intro h
    cases scope with
    | any =>
      simp only [kinds?, scopeKinds, Option.getD_none, List.mem_cons, List.not_mem_nil, or_false] at h
      obtain heq | heq | heq | heq | heq := h <;> rw [heq]
      . exact .any .namespaceWithBody
      . exact .any .namespaceOfFile
      . exact .any .classScope
      . exact .any .structScope
      . exact .any .interfaceScope
    | namespaceScope =>
      simp only [kinds?, namespaceKinds, Option.getD_some, List.mem_cons, List.not_mem_nil, or_false] at h
      cases h with
      | inl heq =>
        rw [heq]
        exact .namespaceWithBody
      | inr heq =>
        rw [heq]
        exact .namespaceOfFile
    | _ =>
      rw [List.mem_singleton.mp h]
      constructor

end Choices

namespace Descriptor

/-- The patterns of a descriptor in order, each with the list that it is given for. A scope contains its name. -/
def patterns (d : Descriptor) : List (PatternList × String) :=
  d.nameContains.map (.contains, ·) ++ d.nameExcludes.map (.excludes, ·) ++ d.scopeName.toList.map (.contains, ·)
    ++ d.pathContains.map (.path, ·)

/-- What is wrong with the first pattern that is at fault. -/
def fault? (d : Descriptor) : Option Error :=
  d.patterns.findSome? fun p => Pattern.fault? d.regex p.1 p.2

/-- What a descriptor says of a candidate, the scope apart. -/
structure Meets (d : Descriptor) (t : Outline) (c : Candidate) : Prop where
  target : d.target.Covers (t.kind c.anchor)
  name : (d.nameContains = [] ∧ d.nameExcludes = []) ∨
    ∃ name, t.identifier c.anchor = .ok (some name) ∧ NameFilter.Admits d.regex d.nameContains d.nameExcludes name
  access : ∀ m, d.access.Demands m → m ∈ (t.node c.anchor).modifiers
  path : ∀ p ∈ d.pathContains, Pattern.Finds d.regex p (t.path.getD "")

/-- What a descriptor says of the scope around a match. -/
structure IsScope (d : Descriptor) (t : Outline) (i : Nat) : Prop where
  asked : d.scope ≠ .any ∨ d.scopeName ≠ none
  kind : d.scope.Covers (t.kind i)
  name : ∀ p, d.scopeName = some p → ∃ name, t.identifier i = .ok (some name) ∧ Pattern.Finds d.regex p name

variable {d : Descriptor} {q : Query} {t : Outline} {c : Candidate} {ms : List Matcher}

theorem mapM_targetKinds (k : TargetKind) :
    k.kinds?.toList.mapM Matcher.ofKinds = .ok (k.kinds?.toList.map Matcher.kinds) := by
  cases k <;> rfl

theorem mapM_scopeKinds (k : ScopeKind) :
    k.kinds?.toList.mapM Matcher.ofKinds = .ok (k.kinds?.toList.map Matcher.kinds) := by
  cases k <;> rfl

theorem mapM_modifiers (a : AccessLevel) : a.modifiers?.toList.mapM Matcher.ofModifiers
    = .ok (a.modifiers?.toList.map fun ms => Matcher.modifiers (Modifiers.ofList ms)) := by
  cases a <;> rfl

theorem scopeKinds_eq_none {k : ScopeKind} : k.kinds? = none ↔ k = .any := by
  cases k <;> simp [ScopeKind.kinds?]

/-- The matchers of a descriptor for names, which is at fault if one of the patterns is. -/
theorem targetMatchers_eq (d : Descriptor) : d.targetMatchers =
    if d.nameContains.isEmpty && d.nameExcludes.isEmpty then
      .ok (d.target.kinds?.toList.map Matcher.kinds)
    else
      (NameFilter.make d.regex d.nameContains d.nameExcludes).map fun f =>
        d.target.kinds?.toList.map Matcher.kinds ++ [.name f] := by
  unfold targetMatchers
  rw [mapM_targetKinds]
  dsimp only [bind, Except.bind]
  split
  . rfl
  . cases NameFilter.make d.regex d.nameContains d.nameExcludes with
    | ok f => rfl
    | error e => rfl

theorem scopeMatchers_eq (d : Descriptor) : d.scopeMatchers =
    match d.scopeName with
    | none => .ok (d.scope.kinds?.toList.map Matcher.kinds)
    | some p => (NameFilter.make d.regex [p] []).map fun f =>
        d.scope.kinds?.toList.map Matcher.kinds
          ++ [.name { f with kinds := some (d.scope.kinds?.getD scopeKinds) }] := by
  unfold scopeMatchers
  rw [mapM_scopeKinds]
  cases d.scopeName with
  | none => rfl
  | some p =>
    cases NameFilter.make d.regex [p] [] with
    | ok f => rfl
    | error e => rfl

section Faults

theorem of?_targetMatchers (d : Descriptor) : Error.of? d.targetMatchers =
    (d.nameContains.findSome? (Pattern.fault? d.regex .contains)).or
      (d.nameExcludes.findSome? (Pattern.fault? d.regex .excludes)) := by
  rw [targetMatchers_eq]
  split
  . next hempty =>
    rw [Bool.and_eq_true, List.isEmpty_iff, List.isEmpty_iff] at hempty
    rw [hempty.1, hempty.2]
    rfl
  . rw [Error.of?_map, NameFilter.of?_make]

theorem of?_scopeMatchers (d : Descriptor) :
    Error.of? d.scopeMatchers = d.scopeName.toList.findSome? (Pattern.fault? d.regex .contains) := by
  rw [scopeMatchers_eq]
  cases d.scopeName with
  | none => rfl
  | some p =>
    dsimp only
    rw [Error.of?_map, NameFilter.of?_make, List.findSome?_nil, Option.or_none]
    rfl

theorem of?_pathMatchers (d : Descriptor) :
    Error.of? d.pathMatchers = d.pathContains.findSome? (Pattern.fault? d.regex .path) := by
  unfold pathMatchers
  rw [Error.of?_mapM]
  simp only [Matcher.ofPath, Error.of?_map, Pattern.of?_make]

theorem of?_compile (d : Descriptor) : Error.of? d.compile = d.fault? := by
  have hpath : ∀ target access scope : List Matcher, Error.of? (do
      let path ← d.pathMatchers
      return { target, scope, access, path : Query }) = d.pathContains.findSome? (Pattern.fault? d.regex .path) := by
    intro target access scope
    have hpure : ∀ path, Error.of? (pure { target, scope, access, path } : Except Error Query) = none := fun _ => rfl
    rw [Error.of?_bind hpure, of?_pathMatchers, Option.or_none]
  unfold compile accessMatchers fault? patterns
  rw [mapM_modifiers, Error.of?_bind fun target => Error.of?_bind fun access => Error.of?_bind (hpath target access)]
  rw [of?_targetMatchers, of?_scopeMatchers]
  simp only [List.findSome?_append, List.findSome?_map, Option.or_assoc]
  rfl

end Faults

section Meets

theorem target_iff (hms : d.targetMatchers = .ok ms) : (∀ m ∈ ms, m.accepts t c = .ok true) ↔
    d.target.Covers (t.kind c.anchor) ∧
    ((d.nameContains = [] ∧ d.nameExcludes = []) ∨
      ∃ name, t.identifier c.anchor = .ok (some name) ∧
        NameFilter.Admits d.regex d.nameContains d.nameExcludes name) := by
  have hkinds : (∀ m ∈ d.target.kinds?.toList.map Matcher.kinds, m.accepts t c = .ok true) ↔
      d.target.Covers (t.kind c.anchor) := by
    rw [Matcher.accepts_kinds_iff, TargetKind.covers_iff]
    rfl
  rw [targetMatchers_eq] at hms
  split at hms
  . next hempty =>
    rw [Bool.and_eq_true, List.isEmpty_iff, List.isEmpty_iff] at hempty
    cases hms
    rw [hkinds]
    simp [hempty]
  . next hempty =>
    rw [Bool.and_eq_true, List.isEmpty_iff, List.isEmpty_iff] at hempty
    rw [map_eq_ok] at hms
    obtain ⟨f, hmake, hms⟩ := hms
    subst hms
    rw [List.forall_mem_append, hkinds, List.forall_mem_singleton, Matcher.accepts_name_iff]
    simp [hempty, NameFilter.considers, NameFilter.kinds_of_make hmake, NameFilter.accepts_of_make hmake,
      Candidate.identifier]

theorem access_iff (hms : d.accessMatchers = .ok ms) : (∀ m ∈ ms, m.accepts t c = .ok true) ↔
    ∀ m, d.access.Demands m → m ∈ (t.node c.anchor).modifiers := by
  unfold accessMatchers at hms
  rw [mapM_modifiers] at hms
  cases hms
  simp only [AccessLevel.demands_iff]
  cases d.access.modifiers? with
  | none => simp
  | some ms => simp [Matcher.accepts, List.subset_def]

theorem path_iff (hms : d.pathMatchers = .ok ms) : (∀ m ∈ ms, m.accepts t c = .ok true) ↔
    ∀ p ∈ d.pathContains, Pattern.Finds d.regex p (t.path.getD "") := by
  have haccepts : ∀ text m, Matcher.ofPath d.regex text = .ok m →
      (m.accepts t c = .ok true ↔ Pattern.Finds d.regex text (t.path.getD "")) := by
    intro text m h
    unfold Matcher.ofPath at h
    rw [map_eq_ok] at h
    obtain ⟨p, hmake, h⟩ := h
    subst h
    rw [Matcher.accepts, Except.ok.injEq, Pattern.isMatch_of_make hmake]
  unfold pathMatchers at hms
  constructor
  . intro h text htext
    obtain ⟨m, hm, hmake⟩ := exists_mem_of_mapM hms htext
    exact (haccepts text m hmake).mp (h m hm)
  . intro h m hm
    obtain ⟨text, htext, hmake⟩ := exists_of_mem_mapM hms hm
    exact (haccepts text m hmake).mpr (h text htext)

theorem accepts_iff (h : d.compile = .ok q) : q.accepts t c = .ok true ↔ d.Meets t c := by
  simp only [compile, bind_eq_ok] at h
  obtain ⟨target, htarget, access, haccess, scope, _, path, hpath, h⟩ := h
  cases h
  rw [Query.accepts, Matcher.acceptsAll_iff, List.forall_mem_append, List.forall_mem_append, target_iff htarget,
    access_iff haccess, path_iff hpath]
  constructor
  . intro hall
    exact ⟨hall.1.1.1, hall.1.1.2, hall.1.2, hall.2⟩
  . intro hmeets
    exact ⟨⟨⟨hmeets.target, hmeets.name⟩, hmeets.access⟩, hmeets.path⟩

end Meets

section Scope

theorem hasScope_iff (h : d.compile = .ok q) : q.hasScope = true ↔ d.scope ≠ .any ∨ d.scopeName ≠ none := by
  simp only [compile, bind_eq_ok] at h
  obtain ⟨target, _, access, _, scope, hscope, path, _, h⟩ := h
  cases h
  unfold Query.hasScope
  rw [ne_eq, ← scopeKinds_eq_none]
  rw [scopeMatchers_eq] at hscope
  cases hname : d.scopeName with
  | none =>
    rw [hname] at hscope
    cases hscope
    cases d.scope.kinds? with
    | none => simp
    | some ks => simp
  | some p =>
    simp only [hname, map_eq_ok] at hscope
    obtain ⟨f, _, hscope⟩ := hscope
    subst hscope
    simp

theorem scope_iff {i : Nat} (hms : d.scopeMatchers = .ok ms) (hasked : d.scope ≠ .any ∨ d.scopeName ≠ none) :
    (∀ m ∈ ms, m.accepts t (.real i) = .ok true) ↔ d.IsScope t i := by
  rw [scopeMatchers_eq] at hms
  cases hname : d.scopeName with
  | none =>
    rw [hname] at hms
    cases hms
    rw [Matcher.accepts_kinds_iff]
    have hkinds : d.scope.kinds? ≠ none := by
      rw [ne_eq, scopeKinds_eq_none]
      simpa [hname] using hasked
    obtain ⟨ks, hks⟩ := Option.ne_none_iff_exists'.mp hkinds
    constructor
    . intro h
      refine ⟨hasked, ?_, by simp [hname]⟩
      rw [ScopeKind.covers_iff, hks]
      exact h ks hks
    . intro h ks' hks'
      have hkind := h.kind
      rw [ScopeKind.covers_iff, hks'] at hkind
      exact hkind
  | some p =>
    simp only [hname, map_eq_ok] at hms
    obtain ⟨f, hmake, hms⟩ := hms
    subst hms
    -- The filter for the name looks at the kind as well, so that the condition on the kind comes twice.
    have hadmits : ∀ name, f.accepts name = true ↔ Pattern.Finds d.regex p name := by
      intro name
      rw [NameFilter.accepts_of_make hmake]
      simp [NameFilter.Admits]
    rw [List.forall_mem_append, Matcher.accepts_kinds_iff, List.forall_mem_singleton, Matcher.accepts_name_iff]
    constructor
    . intro h
      obtain ⟨_, hkind, name, hidentifier, haccepts⟩ := h
      refine ⟨hasked, ?_, ?_⟩
      . rw [ScopeKind.covers_iff]
        simpa [NameFilter.considers, Candidate.kind, Candidate.anchor] using hkind
      . intro p' hp'
        rw [hname] at hp'
        cases hp'
        exact ⟨name, hidentifier, (hadmits name).mp haccepts⟩
    . intro h
      obtain ⟨name, hidentifier, hfinds⟩ := h.name p hname
      have hkind := h.kind
      rw [ScopeKind.covers_iff] at hkind
      refine ⟨?_, by simpa [NameFilter.considers, Candidate.kind, Candidate.anchor] using hkind, name, hidentifier,
        (hadmits name).mpr hfinds⟩
      intro ks hks
      rw [hks] at hkind
      exact hkind

theorem isScope_iff {i : Nat} (h : d.compile = .ok q) : q.isScope t i = .ok true ↔ d.IsScope t i := by
  have hscope := hasScope_iff h
  simp only [compile, bind_eq_ok] at h
  obtain ⟨target, _, access, _, scope, hms, path, _, h⟩ := h
  cases h
  unfold Query.isScope
  split
  . next hasked => rw [Matcher.acceptsAll_iff, scope_iff hms (hscope.mp hasked)]
  . next hasked =>
    rw [hscope] at hasked
    simp only [Except.ok.injEq, Bool.false_eq_true, false_iff]
    intro h
    exact hasked h.asked

end Scope

/--
A descriptor fails to compile exactly if one of its patterns is at fault, with the fault of the first of them. The
query that it compiles to accepts the candidates that meet it, and finds the scopes that it asks for. There is always an
answer about scopes, and there is one about a candidate unless it is an argument whose text is cut inside a character.
-/
theorem compile_means (d : Descriptor) :
    (∀ e, d.compile = .error e ↔ d.fault? = some e) ∧
    ∀ q, d.compile = .ok q → ∀ t,
      (∀ c, (q.accepts t c = .ok true ↔ d.Meets t c) ∧
        ((∀ e, ¬ t.IsCut c.anchor e) → ∃ b, q.accepts t c = .ok b)) ∧
      ∀ i, (q.isScope t i = .ok true ↔ d.IsScope t i) ∧ ∃ b, q.isScope t i = .ok b := by
  constructor
  . intro e
    rw [← of?_compile, Error.of?_eq_some]
  . intro q hq t
    refine ⟨fun c => ⟨accepts_iff hq, ?_⟩, fun i => ⟨isScope_iff hq, ?_⟩⟩
    . intro hcut
      cases haccepts : q.accepts t c with
      | ok b => exact ⟨b, rfl⟩
      | error e => exact absurd (Query.isCut_of_accepts haccepts) (hcut e)
    . exact ⟨_, Query.Stated.isScope_eq (.inl ⟨d, hq⟩) t i⟩

/-- Methods that spin, but not slowly, for those who derive from a class that is called a cat. -/
def spinning : Descriptor :=
  { target := .method, access := .protectedInternal, scope := .classScope, nameContains := ["Spin"]
    nameExcludes := ["Slow"], scopeName := some "Cat", pathContains := ["zoo"] }

/-- A class with methods and a property that meet more or less of what is asked for, and a structure in it. -/
def cat : Outline :=
  { nodes := #[
      { kind := .classDeclaration, name := some "Cat", parent := none, children := [1, 2, 3, 4, 5] },
      { kind := .methodDeclaration, name := some "SpinFast"
        modifiers := [.protectedAccess, .internalAccess, .isStatic], parent := some 0, children := [] },
      { kind := .methodDeclaration, name := some "SpinSlowly", modifiers := [.protectedAccess, .internalAccess]
        parent := some 0, children := [] },
      { kind := .methodDeclaration, name := some "SpinAlone", modifiers := [.protectedAccess], parent := some 0
        children := [] },
      { kind := .propertyDeclaration, name := some "SpinRate", modifiers := [.protectedAccess, .internalAccess]
        parent := some 0, children := [] },
      { kind := .structDeclaration, name := some "CatBox", parent := some 0, children := [] }]
    path := some "zoo/Cat.cs"
    source := "" }

theorem compile_spinning :
    (∃ q, spinning.compile = .ok q) ∧ spinning.Meets cat (.real 1) ∧ ¬ spinning.Meets cat (.real 2) ∧
      (¬ spinning.Meets cat (.real 3) ∧ { spinning with access := .any }.Meets cat (.real 3)) ∧
      (¬ spinning.Meets cat (.real 4) ∧ { spinning with target := .any }.Meets cat (.real 4)) ∧
      spinning.IsScope cat 0 ∧ (¬ spinning.IsScope cat 5 ∧ { spinning with scope := .any }.IsScope cat 5) ∧
      ¬ spinning.IsScope cat 1 ∧
      { spinning with scopeName := some " ", pathContains := ["("], regex := true }.compile
        = .error (.invalidArgument (.blankPattern .contains)) := by
  obtain ⟨haccepts, hscopes⟩ := (compile_means spinning).2 _ rfl cat
  have hno : ¬ (Except.ok false : Except Error Bool) = .ok true := by
    intro h
    cases h
  refine ⟨⟨_, rfl⟩, (haccepts (.real 1)).1.mp rfl, mt (haccepts (.real 2)).1.mpr hno,
    ⟨mt (haccepts (.real 3)).1.mpr hno, ?_⟩, ⟨mt (haccepts (.real 4)).1.mpr hno, ?_⟩, (hscopes 0).1.mp rfl,
    ⟨mt (hscopes 5).1.mpr hno, ?_⟩, mt (hscopes 1).1.mpr hno, ?_⟩
  . exact (((compile_means { spinning with access := .any }).2 _ rfl cat).1 (.real 3)).1.mp rfl
  . exact (((compile_means { spinning with target := .any }).2 _ rfl cat).1 (.real 4)).1.mp rfl
  . exact (((compile_means { spinning with scope := .any }).2 _ rfl cat).2 5).1.mp rfl
  . rw [(compile_means _).1]
    decide +kernel

end Descriptor
end StructuralSearch
