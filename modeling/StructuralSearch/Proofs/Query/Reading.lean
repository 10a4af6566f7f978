import Mathlib.Data.List.Perm.Subperm
import StructuralSearch.Proofs.Json.Reading
import StructuralSearch.Query.Reader

/-!
This module contains which descriptor an object in JSON states. Its members may come in any order, and those with
default values may be left out; a key that is unknown or comes twice is never passed over.
-/

namespace StructuralSearch
namespace Descriptor

open Json Json.Reader

variable {d e : Descriptor} {f g : Field} {text : List Char}

namespace Field

theorem mem_all (f : Field) : f ∈ all := by
  cases f <;> decide

@[simp]
theorem ofName?_name (f : Field) : ofName? f.name = some f := by
  cases f <;> rfl

theorem name_of_ofName? {s : String} (h : ofName? s = some f) : s = f.name := by
  have hname := List.find?_some h
  exact (beq_iff_eq.mp hname).symm

theorem name_inj : f.name = g.name ↔ f = g := by
  constructor
  . intro h
    rw [← Option.some_inj, ← ofName?_name, ← ofName?_name, h]
  . intro h
    rw [h]

end Field

/-- The descriptors have the same value in a field. -/
def SameAt (d e : Descriptor) : Field → Prop
  | .target => d.target = e.target
  | .access => d.access = e.access
  | .scope => d.scope = e.scope
  | .nameContains => d.nameContains = e.nameContains
  | .nameExcludes => d.nameExcludes = e.nameExcludes
  | .scopeName => d.scopeName = e.scopeName
  | .pathContains => d.pathContains = e.pathContains
  | .regex => d.regex = e.regex

/-- Puts the value that another descriptor has in a field there. -/
def assign (e d : Descriptor) : Field → Descriptor
  | .target => { e with target := d.target }
  | .access => { e with access := d.access }
  | .scope => { e with scope := d.scope }
  | .nameContains => { e with nameContains := d.nameContains }
  | .nameExcludes => { e with nameExcludes := d.nameExcludes }
  | .scopeName => { e with scopeName := d.scopeName }
  | .pathContains => { e with pathContains := d.pathContains }
  | .regex => { e with regex := d.regex }

theorem eq_of_sameAt (h : ∀ f, SameAt d e f) : d = e := by
  cases d
  cases e
  rw [mk.injEq]
  exact ⟨h .target, h .access, h .scope, h .nameContains, h .nameExcludes, h .scopeName, h .pathContains, h .regex⟩

theorem sameAt_assign (e d : Descriptor) (f : Field) : SameAt (e.assign d f) d f := by
  cases f <;> rfl

theorem sameAt_assign_of_ne (d : Descriptor) (h : g ≠ f) : SameAt (e.assign d f) e g := by
  cases f <;> cases g <;> first | rfl | exact absurd rfl h

theorem SameAt.refl (d : Descriptor) (f : Field) : SameAt d d f := by
  cases f <;> rfl

theorem SameAt.symm (h : SameAt d e f) : SameAt e d f := by
  cases f <;> exact Eq.symm h

theorem SameAt.trans {a b c : Descriptor} (hab : SameAt a b f) (hbc : SameAt b c f) : SameAt a c f := by
  cases f <;> exact Eq.trans hab hbc

/-- The texts of the value that a descriptor has in a field. A choice may be spelled in any way that is understood. -/
def FieldText (d : Descriptor) : Field → List Char → Prop
  | .target, text => ∃ s, Choice.parse TargetKind s = .ok d.target ∧ StringText s text
  | .access, text => ∃ s, Choice.parse AccessLevel s = .ok d.access ∧ StringText s text
  | .scope, text => ∃ s, Choice.parse ScopeKind s = .ok d.scope ∧ StringText s text
  | .nameContains, text => StringsText d.nameContains text
  | .nameExcludes, text => StringsText d.nameExcludes text
  | .scopeName, text => match d.scopeName with
    | none => text = nullText
    | some s => StringText s text
  | .pathContains, text => StringsText d.pathContains text
  | .regex, text => text = booleanText d.regex

theorem reads_readChoice {α : Type} [Choice α] {s : String} {a : α} (h : Choice.parse α s = .ok a)
    (htext : StringText s text) : Reads (readChoice α) text a := by
  intro rest
  rw [readChoice, (reads_string htext).run_bind, h]
  rfl

theorem reads_readField (h : d.FieldText f text) (e : Descriptor) : Reads (e.readField f) text (e.assign d f) := by
  intro rest
  cases f with
  | target =>
    obtain ⟨s, hs, htext⟩ := h
    exact (reads_readChoice hs htext).run_bind _ rest
  | access =>
    obtain ⟨s, hs, htext⟩ := h
    exact (reads_readChoice hs htext).run_bind _ rest
  | scope =>
    obtain ⟨s, hs, htext⟩ := h
    exact (reads_readChoice hs htext).run_bind _ rest
  | nameContains => exact (reads_strings h).run_bind _ rest
  | nameExcludes => exact (reads_strings h).run_bind _ rest
  | scopeName =>
    unfold FieldText at h
    cases hname : d.scopeName with
    | none =>
      rw [hname] at h
      subst h
      rw [readField, reads_optionalString_null.run_bind, assign, hname]
      rfl
    | some s =>
      rw [hname] at h
      rw [readField, (reads_optionalString h).run_bind, assign, hname]
      rfl
  | pathContains => exact (reads_strings h).run_bind _ rest
  | regex =>
    subst h
    exact (reads_boolean d.regex).run_bind _ rest

theorem skipsBlanks_readField (e : Descriptor) (f : Field) : SkipsBlanks (e.readField f) := by
  cases f with
  | target | access | scope => exact ((skipsBlanks_next.bind _).bind _).bind _
  | nameContains | nameExcludes | pathContains | scopeName | regex => exact (skipsBlanks_next.bind _).bind _

theorem stops_readChoice {α : Type} [Choice α] (h : ValueText text) : Stops (readChoice α) text := by
  intro rest a left hrun
  rw [readChoice, StateT.run_bind, bind_eq_ok] at hrun
  obtain ⟨⟨s, cs⟩, hs, hrun⟩ := hrun
  have hcs := stops_string h rest s cs hs
  subst hcs
  dsimp only at hrun
  split at hrun
  . cases hrun
    rfl
  . cases hrun

theorem stops_readField (h : ValueText text) (e : Descriptor) (f : Field) : Stops (e.readField f) text := by
  cases f with
  | target | access | scope => exact (stops_readChoice h).bind_pure _
  | nameContains | nameExcludes | pathContains => exact (stops_strings h).bind_pure _
  | scopeName => exact (stops_optionalString h).bind_pure _
  | regex => exact (stops_boolean h).bind_pure _

section Members

variable {members : List Member} {met : List Field} {lead : List Char} {fuel : Nat}

theorem run_readMembers_close {b : List Char} (hb : Blank b) (e : Descriptor) (met : List Field) (fuel : Nat)
    (rest : List Char) : (e.readMembers met (fuel + 1)).run (b ++ '}' :: rest) = .ok (e, rest) := by
  rw [readMembers, run_bind_of_ok (run_hasMember_close hb rest)]
  rfl

/-- What is read next after a key. -/
def readMember (e : Descriptor) (met : List Field) (fuel : Nat) (key : String) : Reader Descriptor :=
  match Field.ofName? key with
  | none => throw (.refused (.unknownField key))
  | some f =>
    if met.contains f then
      throw (.refused (.duplicateField f))
    else do
      let d ← e.readField f
      d.readMembers (f :: met) fuel

theorem run_readMembers_lead {m : Member} (hlead : Lead met.isEmpty lead) (hm : MemberText m text) (e : Descriptor)
    (fuel : Nat) (rest : List Char) :
    (e.readMembers met (fuel + 1)).run (lead ++ (text ++ rest)) =
      (e.readMember met fuel m.key).run (m.value ++ rest) := by
  obtain ⟨key, b, b', hkey, hb, hb', htext⟩ := hm
  have hassoc : text ++ rest = key ++ (b ++ ':' :: (b' ++ (m.value ++ rest))) := by simp [htext]
  rw [hassoc, readMembers, run_bind_of_ok (run_hasMember_lead hlead hkey _), if_pos rfl, (reads_string hkey).run_bind]
  unfold readMember
  cases Field.ofName? m.key with
  | none => rfl
  | some f =>
    dsimp only
    split
    . rfl
    . rw [run_bind_of_ok (run_colon hb _)]
      exact (skipsBlanks_readField e f).bind _ b' _ hb'

theorem run_readMember {m : Member} (hkey : m.key = f.name) (hf : f ∉ met) (hvalue : d.FieldText f m.value)
    (e : Descriptor) (fuel : Nat) (rest : List Char) :
    (e.readMember met fuel m.key).run (m.value ++ rest) =
      ((e.assign d f).readMembers (f :: met) fuel).run rest := by
  have hnew : ¬ met.contains f = true := by simpa using hf
  unfold readMember
  rw [hkey, Field.ofName?_name]
  dsimp only
  rw [if_neg hnew, (reads_readField hvalue e).run_bind]

/-- The members give a descriptor values of its fields, and each field one at most. -/
structure Gives (d : Descriptor) (members : List Member) : Prop where
  fields : ∀ m ∈ members, ∃ f : Field, m.key = f.name ∧ d.FieldText f m.value
  nodup : (members.map (·.key)).Nodup

theorem Gives.cons {m : Member} (h : d.Gives (m :: members)) (hnew : ∀ f ∈ met, f.name ∉ (m :: members).map (·.key)) :
    ∃ f : Field, m.key = f.name ∧ d.FieldText f m.value ∧ f ∉ met ∧ d.Gives members ∧
      ∀ g ∈ f :: met, g.name ∉ members.map (·.key) := by
  obtain ⟨hfields, hnodup⟩ := h
  rw [List.forall_mem_cons] at hfields
  rw [List.map_cons, List.nodup_cons] at hnodup
  obtain ⟨⟨f, hkey, hvalue⟩, hfields⟩ := hfields
  rw [List.map_cons, hkey] at hnew
  rw [hkey] at hnodup
  refine ⟨f, hkey, hvalue, fun hf => hnew f hf List.mem_cons_self, ⟨hfields, hnodup.2⟩, ?_⟩
  rw [List.forall_mem_cons]
  exact ⟨hnodup.1, fun g hg hmem => hnew g hg (List.mem_cons_of_mem _ hmem)⟩

/-- Members that were not met before are read one after the other, up to the end of the object. -/
theorem run_readMembers {first : Bool} (h : Listed MemberText first members text) (hfirst : first = met.isEmpty)
    (hgives : d.Gives members) (hnew : ∀ f ∈ met, f.name ∉ members.map (·.key)) (hfuel : members.length < fuel)
    (e : Descriptor) (rest : List Char) :
    ∃ e', (e.readMembers met fuel).run (text ++ '}' :: rest) = .ok (e', rest) ∧
      (∀ f : Field, f.name ∈ members.map (·.key) → SameAt e' d f) ∧
      ∀ f : Field, f.name ∉ members.map (·.key) → SameAt e' e f := by
  induction h generalizing met e fuel with
  | nil hb =>
    obtain ⟨fuel, rfl⟩ := Nat.exists_eq_add_one_of_ne_zero (Nat.ne_of_gt hfuel)
    exact ⟨e, run_readMembers_close hb e met fuel rest, by simp, fun f _ => SameAt.refl e f⟩
  | cons hlead hm _ ih =>
    obtain ⟨fuel, rfl⟩ := Nat.exists_eq_add_one_of_ne_zero (Nat.ne_of_gt (Nat.zero_lt_of_lt hfuel))
    obtain ⟨f, hkey, hvalue, hf, hgives, hnew⟩ := hgives.cons hnew
    subst hfirst
    obtain ⟨e', hrun, hsame, hkept⟩ := ih rfl hgives hnew (Nat.lt_of_succ_lt_succ hfuel) (e.assign d f)
    refine ⟨e', ?_, ?_, ?_⟩
    . rw [List.append_assoc, List.append_assoc, run_readMembers_lead hlead hm, run_readMember hkey hf hvalue, hrun]
    . intro g hg
      rw [List.map_cons, List.mem_cons, hkey] at hg
      cases hg with
      | inl heq =>
        rw [Field.name_inj.mp heq]
        exact (hkept f (hnew f List.mem_cons_self)).trans (sameAt_assign e d f)
      | inr hg => exact hsame g hg
    . intro g hg
      rw [List.map_cons, List.mem_cons, not_or, hkey] at hg
      have hne : g ≠ f := fun heq => hg.1 (Field.name_inj.mpr heq)
      exact (hkept g hg.2).trans (sameAt_assign_of_ne d hne)

/-- Whatever the values are, keys that are unknown or were met before are never passed over. -/
theorem keys_of_readMembers {first : Bool} (h : Listed MemberText first members text) (hfirst : first = met.isEmpty)
    (hvalues : ∀ m ∈ members, ValueText m.value) {rest left : List Char}
    (hrun : (e.readMembers met fuel).run (text ++ '}' :: rest) = .ok (d, left)) :
    (∀ m ∈ members, ∃ f : Field, m.key = f.name ∧ f ∉ met) ∧ (members.map (·.key)).Nodup := by
  induction h generalizing met e fuel with
  | nil hb => exact ⟨by simp, List.nodup_nil⟩
  | cons hlead hm _ ih =>
    cases fuel with
    | zero => cases hrun
    | succ fuel =>
      subst hfirst
      rw [List.forall_mem_cons] at hvalues
      rw [List.append_assoc, List.append_assoc, run_readMembers_lead hlead hm] at hrun
      unfold readMember at hrun
      split at hrun
      . cases hrun
      . next f hname =>
        split at hrun
        . cases hrun
        . next hmet =>
          have hf : f ∉ met := by simpa using hmet
          have hkey := Field.name_of_ofName? hname
          rw [StateT.run_bind, bind_eq_ok] at hrun
          obtain ⟨⟨e', cs⟩, hvalue, hrun⟩ := hrun
          have hcs := stops_readField hvalues.1 e f _ _ _ hvalue
          subst hcs
          obtain ⟨hknown, hnodup⟩ := ih rfl hvalues.2 hrun
          refine ⟨List.forall_mem_cons.mpr ⟨⟨f, hkey, hf⟩, ?_⟩, List.nodup_cons.mpr ⟨?_, hnodup⟩⟩
          . intro m hm
            obtain ⟨g, hg, hnew⟩ := hknown m hm
            exact ⟨g, hg, fun hmem => hnew (List.mem_cons_of_mem f hmem)⟩
          . intro hmem
            obtain ⟨m, hm, heq⟩ := List.mem_map.mp hmem
            obtain ⟨g, hg, hnew⟩ := hknown m hm
            have hfg : g = f := Field.name_inj.mp (hg.symm.trans (heq.trans hkey))
            exact hnew (hfg ▸ List.mem_cons_self)

/-- Why a key is refused after the given ones. -/
def Refuses (keys : List String) (key : String) : Refusal → Prop
  | .unknownField name => name = key ∧ ∀ f : Field, key ≠ f.name
  | .duplicateField f => key = f.name ∧ key ∈ keys
  | .invalidValue _ => False

theorem Refuses.mono {keys keys' : List String} {key : String} {refusal : Refusal} (h : Refuses keys key refusal)
    (hkeys : ∀ k ∈ keys, k ∈ keys') : Refuses keys' key refusal := by
  cases refusal with
  | unknownField name => exact h
  | duplicateField f => exact ⟨h.1, hkeys key h.2⟩
  | invalidValue => exact h

theorem run_readMember_refused {m : Member} {refusal : Refusal} (h : Refuses (met.map Field.name) m.key refusal)
    (e : Descriptor) (fuel : Nat) (cs : List Char) :
    (e.readMember met fuel m.key).run cs = .error (.refused refusal) := by
  unfold readMember
  cases refusal with
  | unknownField name =>
    obtain ⟨hname, hunknown⟩ := h
    subst hname
    split
    . rfl
    . next f hf => exact absurd (Field.name_of_ofName? hf) (hunknown f)
  | duplicateField f =>
    obtain ⟨hkey, hmem⟩ := h
    have hmet : met.contains f = true := by
      rw [hkey, List.mem_map] at hmem
      obtain ⟨g, hg, heq⟩ := hmem
      rw [List.contains_iff_mem, ← Field.name_inj.mp heq]
      exact hg
    rw [hkey, Field.ofName?_name]
    dsimp only
    rw [if_pos hmet]
    rfl
  | invalidValue => exact h.elim

/-- After members that give values, the first key that cannot be taken is named. -/
theorem run_readMembers_refused {first : Bool} {before after : List Member} {m : Member} {refusal : Refusal}
    (h : Listed MemberText first (before ++ m :: after) text) (hfirst : first = met.isEmpty) (hgives : d.Gives before)
    (hnew : ∀ f ∈ met, f.name ∉ before.map (·.key)) (hfuel : before.length < fuel)
    (hrefuses : Refuses (met.map Field.name ++ before.map (·.key)) m.key refusal) (e : Descriptor)
    (rest : List Char) : (e.readMembers met fuel).run (text ++ rest) = .error (.refused refusal) := by
  obtain ⟨fuel, rfl⟩ := Nat.exists_eq_add_one_of_ne_zero (Nat.ne_of_gt (Nat.zero_lt_of_lt hfuel))
  subst hfirst
  induction before generalizing met e fuel text with
  | nil =>
    cases h with
    | cons hlead hm _ =>
      rw [List.map_nil, List.append_nil] at hrefuses
      rw [List.append_assoc, List.append_assoc, run_readMembers_lead hlead hm, run_readMember_refused hrefuses]
  | cons m' before ih =>
    obtain ⟨f, hkey, hvalue, hf, hgives, hnew⟩ := hgives.cons hnew
    have hkeys : ∀ key ∈ met.map Field.name ++ (m' :: before).map (·.key),
        key ∈ (f :: met).map Field.name ++ before.map (·.key) := by
      intro key hmem
      simp only [List.map_cons, List.mem_append, List.mem_cons, hkey] at hmem ⊢
      grind
    cases h with
    | cons hlead hm hms =>
      have hfuel := Nat.lt_of_succ_lt_succ hfuel
      obtain ⟨fuel, rfl⟩ := Nat.exists_eq_add_one_of_ne_zero (Nat.ne_of_gt (Nat.zero_lt_of_lt hfuel))
      rw [List.append_assoc, List.append_assoc, run_readMembers_lead hlead hm, run_readMember hkey hf hvalue]
      exact ih hgives hnew (hrefuses.mono hkeys) (e.assign d f) fuel hfuel hms

theorem Gives.length_lt (h : d.Gives members) : members.length < Field.all.length + 1 := by
  have hsubset : members.map (·.key) ⊆ Field.all.map Field.name := by
    intro key hkey
    obtain ⟨m, hm, hkey⟩ := List.mem_map.mp hkey
    obtain ⟨f, hf, _⟩ := h.fields m hm
    rw [← hkey, hf]
    exact List.mem_map_of_mem f.mem_all
  have hle := (h.nodup.subperm hsubset).length_le
  rw [List.length_map, List.length_map] at hle
  exact Nat.lt_succ_of_le hle

end Members

/-- The members give values of fields, and all other fields of the descriptor have their default values. -/
structure States (d : Descriptor) (members : List Member) : Prop extends d.Gives members where
  defaults : ∀ f : Field, f.name ∉ members.map (·.key) → SameAt d {} f

/-- The text of an object is read as its members are read, if blanks are all that is left then. -/
theorem exists_ofJson_eq {members : List Member} {json : String} (h : ObjectText members json.toList) :
    ∃ inner b, Listed MemberText true members inner ∧ Blank b ∧ ofJson json =
      ((do
        let d ← readMembers {} [] (Field.all.length + 1)
        finish
        return d : Reader Descriptor).run (inner ++ '}' :: b)).map (·.1) := by
  obtain ⟨b, inner, b', hb, hinner, hb', htext⟩ := h
  refine ⟨inner, b', hinner, hb', ?_⟩
  have hskip : SkipsBlanks (read >>= fun d => do finish; return d) := (skipsBlanks_next.bind _).bind _
  change ((read >>= fun d => do finish; return d).run json.toList).map (·.1) = _
  rw [htext, hskip b _ hb]
  rfl

theorem parse_title (target : TargetKind) (access : AccessLevel) (scope : ScopeKind) :
    Choice.parse TargetKind (Choice.title target) = .ok target ∧
      Choice.parse AccessLevel (Choice.title access) = .ok access ∧
      Choice.parse ScopeKind (Choice.title scope) = .ok scope := by
  refine ⟨?_, ?_, ?_⟩
  . cases target <;> rfl
  . cases access <;> rfl
  . cases scope <;> rfl

theorem exists_fieldText (d : Descriptor) (f : Field) : ∃ text, d.FieldText f text := by
  obtain ⟨htarget, haccess, hscope⟩ := parse_title d.target d.access d.scope
  have hstrings : ∀ ss, ∃ text, StringsText ss text := by
    intro ss
    obtain ⟨inner, hinner⟩ := exists_listed ss (fun s _ => ⟨_, stringText_renderString s⟩) true
    exact ⟨_, inner, hinner, rfl⟩
  cases f with
  | target => exact ⟨_, _, htarget, stringText_renderString _⟩
  | access => exact ⟨_, _, haccess, stringText_renderString _⟩
  | scope => exact ⟨_, _, hscope, stringText_renderString _⟩
  | nameContains => exact hstrings d.nameContains
  | nameExcludes => exact hstrings d.nameExcludes
  | scopeName =>
    unfold FieldText
    cases d.scopeName with
    | none => exact ⟨_, rfl⟩
    | some s => exact ⟨_, stringText_renderString s⟩
  | pathContains => exact hstrings d.pathContains
  | regex => exact ⟨_, rfl⟩

/-- Every descriptor can be stated, with the fields in any order and any of the default values left out. -/
theorem exists_states {fields : List Field} (hnodup : fields.Nodup) (hdefaults : ∀ f ∉ fields, SameAt d {} f) :
    ∃ members json, members.map (·.key) = fields.map Field.name ∧ ObjectText members (String.toList json) ∧
      d.States members := by
  obtain ⟨value, hvalue⟩ := Classical.axiomOfChoice d.exists_fieldText
  have hkeys : (fields.map fun f => ({ key := f.name, value := value f } : Member)).map (·.key) =
      fields.map Field.name := by
    rw [List.map_map]
    rfl
  have hmember : ∀ m : Member, ∃ text, MemberText m text := by
    intro m
    exact ⟨_, _, [], [], stringText_renderString m.key, blank_nil, blank_nil, rfl⟩
  obtain ⟨inner, hinner⟩ := exists_listed (fields.map fun f => ({ key := f.name, value := value f } : Member))
    (fun m _ => hmember m) true
  refine ⟨_, String.ofList ('{' :: (inner ++ ['}'])), hkeys, ?_, ⟨⟨?_, ?_⟩, ?_⟩⟩
  . rw [String.toList_ofList]
    exact ⟨[], inner, [], blank_nil, hinner, blank_nil, rfl⟩
  . intro m hm
    obtain ⟨f, _, hm⟩ := List.mem_map.mp hm
    subst hm
    exact ⟨f, rfl, hvalue f⟩
  . rw [hkeys]
    exact List.Pairwise.map Field.name (fun f g hne heq => hne (Field.name_inj.mp heq)) hnodup
  . intro f hf
    rw [hkeys] at hf
    exact hdefaults f fun hmem => hf (List.mem_map_of_mem hmem)

/--
The text of an object that states a descriptor is read as that descriptor, in whatever way it is written. An object with
a key that is unknown or comes twice is never read, whatever its values are, and the first such key is named if the
values before it are in order.
-/
theorem ofJson_object :
    (∀ (d : Descriptor) (fields : List Field), fields.Nodup → (∀ f ∉ fields, SameAt d {} f) →
      ∃ members json, members.map (·.key) = fields.map Field.name ∧ ObjectText members (String.toList json) ∧
        d.States members) ∧
    (∀ (d : Descriptor) members (json : String), ObjectText members json.toList → d.States members →
      ofJson json = .ok d) ∧
    (∀ members (json : String), ObjectText members json.toList → (∀ m ∈ members, ValueText m.value) →
      (∃ m ∈ members, ∀ f : Field, m.key ≠ f.name) ∨ ¬ (members.map (·.key)).Nodup →
      ∃ fault, ofJson json = .error fault) ∧
    ∀ (d : Descriptor) before m after (json : String) refusal, ObjectText (before ++ m :: after) json.toList →
      d.Gives before → Refuses (before.map (·.key)) m.key refusal → ofJson json = .error (.refused refusal) := by
  have hfirst : true = ([] : List Field).isEmpty := rfl
  refine ⟨fun d fields => exists_states, ?_, ?_, ?_⟩
  . intro d members json htext hstates
    obtain ⟨inner, b, hinner, hb, hjson⟩ := exists_ofJson_eq htext
    obtain ⟨d', hrun, hsame, hkept⟩ := run_readMembers hinner hfirst hstates.toGives (by simp) hstates.length_lt {} b
    have hd : d' = d := by
      refine eq_of_sameAt fun f => ?_
      by_cases hf : f.name ∈ members.map (·.key)
      . exact hsame f hf
      . exact (hkept f hf).trans (hstates.defaults f hf).symm
    rw [hjson, run_bind_of_ok hrun, run_bind_of_ok (run_finish hb), hd]
    rfl
  . intro members json htext hvalues hbad
    obtain ⟨inner, b, hinner, _, hjson⟩ := exists_ofJson_eq htext
    cases hd : ofJson json with
    | error fault => exact ⟨fault, rfl⟩
    | ok d =>
      rw [hjson, map_eq_ok] at hd
      obtain ⟨_, hrun, _⟩ := hd
      rw [StateT.run_bind, bind_eq_ok] at hrun
      obtain ⟨⟨d', left⟩, hrun, _⟩ := hrun
      obtain ⟨hknown, hnodup⟩ := keys_of_readMembers hinner hfirst hvalues hrun
      cases hbad with
      | inl hbad =>
        obtain ⟨m, hm, hunknown⟩ := hbad
        obtain ⟨f, hf, _⟩ := hknown m hm
        exact absurd hf (hunknown f)
      | inr hbad => exact absurd hnodup hbad
  . intro d before m after json refusal htext hgives hrefuses
    obtain ⟨inner, b, hinner, _, hjson⟩ := exists_ofJson_eq htext
    have hrun := run_readMembers_refused hinner hfirst hgives (by simp) hgives.length_lt hrefuses {} ('}' :: b)
    rw [hjson, StateT.run_bind, hrun]
    rfl

/-- Classes with a quotation mark in their names, which there are none of. -/
def quotedClasses : Descriptor :=
  { target := .classTarget, nameContains := ["\"", "é"] }

theorem ofJson_quotedClasses :
    (∃ members json, members.map (·.key) = ["name_contains", "target"] ∧ ObjectText members (String.toList json) ∧
      quotedClasses.States members ∧ ofJson json = .ok quotedClasses) ∧
    (∃ fault, ofJson "\x7b\"x\": 1\x7d" = .error fault) ∧
    ofJson "\x7b\"x\": 1\x7d" = .error (.refused (.unknownField "x")) := by
  obtain ⟨hexists, hread, hfails, hrefused⟩ := ofJson_object
  have hx : ObjectText [{ key := "x", value := ['1'] }] "\x7b\"x\": 1\x7d".toList := by
    have hspace : Blank [' '] := List.forall_mem_singleton.mpr rfl
    have hmember : MemberText { key := "x", value := ['1'] } ['"', 'x', '"', ':', ' ', '1'] :=
      ⟨_, [], [' '], stringText_renderString "x", blank_nil, hspace, rfl⟩
    exact ⟨[], _, [], blank_nil, .cons blank_nil hmember (.nil blank_nil), blank_nil, rfl⟩
  have hnumber : NumberText ['1'] [] ['1'] [] [] :=
    ⟨rfl, .inl rfl, .inr ⟨'1', [], rfl, by decide, List.forall_mem_singleton.mpr rfl⟩, .inl rfl, .inl rfl⟩
  have hunknown : ∀ f : Field, "x" ≠ f.name := by
    intro f
    cases f <;> decide
  obtain ⟨members, json, hkeys, htext, hstates⟩ := hexists quotedClasses [.nameContains, .target] (by decide) (by
    intro f hf
    cases f <;> first | rfl | exact absurd (by decide) hf)
  refine ⟨⟨members, json, hkeys, htext, hstates, hread _ _ _ htext hstates⟩, ?_, ?_⟩
  . exact hfails _ _ hx (by simpa using .number hnumber) (.inl ⟨_, List.mem_singleton_self _, hunknown⟩)
  . exact hrefused {} [] _ [] _ _ hx ⟨by simp, List.nodup_nil⟩ ⟨rfl, hunknown⟩

end Descriptor
end StructuralSearch
