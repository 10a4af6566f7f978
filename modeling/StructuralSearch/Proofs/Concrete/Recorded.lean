import StructuralSearch.Proofs.Concrete.Children

/-!
This module contains what the children of a node record on its label. One child at a time may add a modifier or give the
node its name, and of several names the last one stays.
-/

namespace StructuralSearch
namespace Concrete

/-- In the text, and not there for the reader only. -/
def Info.isPresent (c : Info) : Bool :=
  !c.isExtra && !c.isMissing

/-- A token, or a keyword that the grammar has as a node of its own, that stands for the modifier. -/
def Info.Declares (source : String) (c : Info) (m : Modifier) : Prop :=
  c.isPresent = true ∧
    ((c.isNamed = false ∧ Modifier.ofKeyword? c.kind = some m) ∨
      (c.isNamed = true ∧ c.kind = "modifier" ∧ ∃ word, c.text source = .ok word ∧
        Modifier.ofKeyword? (String.ofList (Text.trim word.toList)) = some m))

/-- The name of a declaration, or the variable of a loop over a sequence. -/
def Info.isNameOf (kind : NodeKind) (c : Info) : Bool :=
  c.isNamed && c.isPresent &&
    (kind.takesName && c.field == some "name" && c.kind != "modifier"
      || kind == .forEachStatement && c.field == some "left")

/-- The last child that names a node of the given kind. -/
def nameChild? (kind : NodeKind) (cs : List Concrete) : Option Concrete :=
  (cs.filter (·.info.isNameOf kind)).getLast?

section Fates

variable {c : Info} {kind : NodeKind}

theorem Info.fate_eq_name : c.fate kind = .name ↔ c.isNameOf kind = true := by
  have hcarries : kind.takesName = true → kind.carriesModifiers = true := by
    intro h
    simp [NodeKind.carriesModifiers, h]
  have hloop : kind = .forEachStatement → kind.carriesModifiers = false := by
    intro h
    subst h
    rfl
  unfold fate isNameOf isPresent
  grind

theorem Info.fate_eq_modifier : c.fate kind = .modifier ↔
    c.isPresent = true ∧ c.isNamed = true ∧ c.kind = "modifier" ∧ kind.carriesModifiers = true := by
  unfold fate isPresent
  grind

theorem Info.isToken_iff : c.fate kind = .token ↔ c.isPresent = true ∧ c.isNamed = false := by
  rw [fate_eq_token]
  unfold isPresent
  grind

theorem Info.Declares.fate_cases {source : String} {m : Modifier} (h : c.Declares source m)
    (hcarries : kind.carriesModifiers = true) : c.fate kind = .token ∨ c.fate kind = .modifier := by
  obtain ⟨hpresent, ⟨hnamed, _⟩ | ⟨hnamed, hkind, _⟩⟩ := h
  . exact .inl (Info.isToken_iff.mpr ⟨hpresent, hnamed⟩)
  . exact .inr (Info.fate_eq_modifier.mpr ⟨hpresent, hnamed, hkind, hcarries⟩)

end Fates

section Steps

variable {source : String} {label label' : Label} {c : Info} {m : Modifier}

/-- What a child records on the label of its parent. -/
def recordChild (source : String) (label : Label) (c : Info) : Except Error Label :=
  match c.fate label.kind with
  | .token => .ok (if isElse label.kind c then label else recordToken label c)
  | .modifier => (c.text source).map (recordModifier label)
  | .name => (c.text source).map fun name => { label with name := some name }
  | .dropped | .kept => .ok label

theorem recordModifier_of_some {word : String}
    (h : Modifier.ofKeyword? (String.ofList (Text.trim word.toList)) = some m) :
    recordModifier label word = { label with modifiers := label.modifiers.insert m } := by
  simp only [recordModifier, h]

theorem recordModifier_of_none {word : String}
    (h : Modifier.ofKeyword? (String.ofList (Text.trim word.toList)) = none) :
    recordModifier label word = label := by
  simp only [recordModifier, h]

theorem mem_recordModifier {word : String} : m ∈ (recordModifier label word).modifiers ↔
    m ∈ label.modifiers ∨ Modifier.ofKeyword? (String.ofList (Text.trim word.toList)) = some m := by
  cases hword : Modifier.ofKeyword? (String.ofList (Text.trim word.toList)) with
  | none => simp [recordModifier_of_none hword]
  | some m' =>
    rw [recordModifier_of_some hword, Modifiers.mem_insert, Option.some.injEq, or_comm, eq_comm]

theorem mem_recordToken : m ∈ (recordToken label c).modifiers ↔
    m ∈ label.modifiers ∨ label.kind.carriesModifiers = true ∧ Modifier.ofKeyword? c.kind = some m := by
  unfold recordToken
  cases hword : Modifier.ofKeyword? c.kind with
  | none => simp
  | some m' =>
    cases hcarries : label.kind.carriesModifiers with
    | false => simp
    | true => simp [or_comm, eq_comm]

theorem kind_of_recordChild (h : recordChild source label c = .ok label') : label'.kind = label.kind := by
  unfold recordChild at h
  split at h
  . cases h
    split
    . rfl
    . rfl
  . obtain ⟨word, _, heq⟩ := map_eq_ok.mp h
    subst heq
    exact (extends_recordModifier label word).kind_eq
  . obtain ⟨name, _, heq⟩ := map_eq_ok.mp h
    subst heq
    rfl
  all_goals
    cases h
    rfl

theorem name_of_recordChild (h : recordChild source label c = .ok label') :
    (c.isNameOf label.kind = false ∧ label'.name = label.name) ∨
      (c.isNameOf label.kind = true ∧ ∃ text, c.text source = .ok text ∧ label'.name = some text) := by
  rw [← Bool.not_eq_true, ← Info.fate_eq_name]
  unfold recordChild at h
  split at h
  . next hfate =>
    cases h
    refine .inl ⟨by simp [hfate], ?_⟩
    split
    . rfl
    . rfl
  . next hfate =>
    obtain ⟨word, _, heq⟩ := map_eq_ok.mp h
    subst heq
    refine .inl ⟨by simp [hfate], ?_⟩
    unfold recordModifier
    split
    . rfl
    . rfl
  . next hfate =>
    obtain ⟨name, hname, heq⟩ := map_eq_ok.mp h
    subst heq
    exact .inr ⟨hfate, name, hname, rfl⟩
  all_goals
    next hfate =>
    cases h
    exact .inl ⟨by simp [hfate], rfl⟩

theorem mem_modifiers_of_recordChild (h : recordChild source label c = .ok label') :
    m ∈ label'.modifiers ↔ m ∈ label.modifiers ∨ label.kind.carriesModifiers = true ∧ c.Declares source m := by
  have hother : c.fate label.kind ≠ .token → c.fate label.kind ≠ .modifier →
      ¬ (label.kind.carriesModifiers = true ∧ c.Declares source m) := by
    intro htoken hmodifier hdeclares
    cases hdeclares.2.fate_cases hdeclares.1 with
    | inl hfate => exact htoken hfate
    | inr hfate => exact hmodifier hfate
  unfold recordChild at h
  split at h
  . next hfate =>
    obtain ⟨hpresent, hnamed⟩ := Info.isToken_iff.mp hfate
    cases h
    split
    . next helse =>
      -- Only an `if` leaves its `else` to another node, and it has no modifiers.
      unfold isElse at helse
      rw [Bool.and_eq_true, beq_iff_eq] at helse
      rw [helse.1]
      simp [NodeKind.carriesModifiers, NodeKind.takesName, NodeKind.isNamespace, NodeKind.isTypeDeclaration]
    . rw [mem_recordToken]
      simp [Info.Declares, hpresent, hnamed]
  . next hfate =>
    obtain ⟨hpresent, hnamed, hkind, hcarries⟩ := Info.fate_eq_modifier.mp hfate
    obtain ⟨word, hword, heq⟩ := map_eq_ok.mp h
    subst heq
    rw [mem_recordModifier]
    simp [Info.Declares, hpresent, hnamed, hkind, hcarries, hword]
  . next hfate =>
    obtain ⟨name, _, heq⟩ := map_eq_ok.mp h
    subst heq
    rw [hfate] at hother
    simp [hother]
  all_goals
    next hfate =>
    cases h
    rw [hfate] at hother
    simp [hother]

end Steps

section Runs

variable {source : String} {stop : Position} {inType inFile : Bool} {label label' : Label} {keyword : Option Token}
  {t : Concrete} {cs : List Concrete} {bs : List Branch} {kind : NodeKind} {m : Modifier}

/-- What all children record, one after the other. -/
def recordChildren (source : String) (label : Label) (cs : List Concrete) : Except Error Label :=
  cs.foldlM (fun label t => recordChild source label t.info) label

theorem recordChildren_cons : recordChildren source label (t :: cs) = .ok label' ↔
    ∃ label₁, recordChild source label t.info = .ok label₁ ∧ recordChildren source label₁ cs = .ok label' := by
  unfold recordChildren
  rw [List.foldlM_cons, bind_eq_ok]

theorem nameChild?_cons (kind : NodeKind) (t : Concrete) (cs : List Concrete) :
    nameChild? kind (t :: cs) = (nameChild? kind cs).or (if t.info.isNameOf kind then some t else none) := by
  unfold nameChild?
  rw [List.filter_cons]
  split
  . rw [List.getLast?_cons]
    cases (cs.filter (·.info.isNameOf kind)).getLast? with
    | none => rfl
    | some c => rfl
  . rw [Option.or_none]

theorem mem_of_nameChild? (h : nameChild? kind cs = some t) : t ∈ cs ∧ t.info.isNameOf kind = true :=
  List.mem_filter.mp (List.mem_of_getLast? h)

theorem name_of_recordChildren (h : recordChildren source label cs = .ok label') :
    (nameChild? label.kind cs = none ∧ label'.name = label.name) ∨
      ∃ c text, nameChild? label.kind cs = some c ∧ c.info.text source = .ok text ∧ label'.name = some text := by
  induction cs generalizing label with
  | nil =>
    cases h
    exact .inl ⟨rfl, rfl⟩
  | cons t cs ih =>
    obtain ⟨label₁, hchild, hrest⟩ := recordChildren_cons.mp h
    have hrest := ih hrest
    rw [kind_of_recordChild hchild] at hrest
    rw [nameChild?_cons]
    obtain ⟨hnone, hname⟩ | ⟨c, text, hsome, htext, hname⟩ := hrest
    . rw [hnone, Option.none_or, hname]
      obtain ⟨hother, heq⟩ | ⟨hnames, text, htext, heq⟩ := name_of_recordChild hchild
      . exact .inl ⟨if_neg (by simp [hother]), heq⟩
      . exact .inr ⟨t, text, if_pos hnames, htext, heq⟩
    . rw [hsome, Option.some_or]
      exact .inr ⟨c, text, rfl, htext, hname⟩

theorem mem_modifiers_of_recordChildren (h : recordChildren source label cs = .ok label') :
    m ∈ label'.modifiers ↔
      m ∈ label.modifiers ∨ label.kind.carriesModifiers = true ∧ ∃ c ∈ cs, c.info.Declares source m := by
  induction cs generalizing label with
  | nil =>
    cases h
    simp
  | cons t cs ih =>
    obtain ⟨label₁, hchild, hrest⟩ := recordChildren_cons.mp h
    rw [ih hrest, mem_modifiers_of_recordChild hchild, kind_of_recordChild hchild, or_assoc, ← and_or_left]
    simp only [List.mem_cons, exists_eq_or_imp]

/-- Lowering a child comes down to what it records, as far as names and modifiers go. -/
theorem exists_recordChild (h : lowerChildren source stop inType label keyword inFile (t :: cs) = .ok (label', bs)) :
    ∃ label₁ keyword₁ inFile₁ bs₁, recordChild source label t.info = .ok label₁ ∧
      lowerChildren source stop inType label₁ keyword₁ inFile₁ cs = .ok (label', bs₁) := by
  obtain ⟨c, below⟩ := t
  unfold recordChild Concrete.info
  cases hfate : c.fate label.kind with
  | dropped =>
    rw [lowerChildren_dropped hfate] at h
    exact ⟨_, _, _, _, rfl, h⟩
  | token =>
    cases helse : isElse label.kind c with
    | true =>
      rw [lowerChildren_else hfate helse] at h
      exact ⟨_, _, _, _, rfl, h⟩
    | false =>
      rw [lowerChildren_token hfate helse] at h
      exact ⟨_, _, _, _, rfl, h⟩
  | modifier =>
    rw [lowerChildren_modifier hfate, bind_eq_ok] at h
    obtain ⟨word, hword, h⟩ := h
    exact ⟨_, _, _, _, map_eq_ok.mpr ⟨word, hword, rfl⟩, h⟩
  | name =>
    rw [lowerChildren_name hfate, bind_eq_ok] at h
    obtain ⟨name, hname, h⟩ := h
    exact ⟨_, _, _, _, map_eq_ok.mpr ⟨name, hname, rfl⟩, h⟩
  | kept =>
    cases hopens : opensFile label.kind inFile c with
    | true =>
      rw [lowerChildren_opensFile hfate hopens] at h
      simp only [bind_eq_ok] at h
      obtain ⟨_, _, ⟨label₁, rest⟩, hrest, h⟩ := h
      cases h
      exact ⟨_, _, _, _, rfl, hrest⟩
    | false =>
      rw [lowerChildren_kept hfate hopens] at h
      simp only [bind_eq_ok] at h
      obtain ⟨_, _, ⟨label₁, rest⟩, hrest, h⟩ := h
      cases h
      exact ⟨_, _, _, _, rfl, hrest⟩

theorem exists_recordChildren (h : lowerChildren source stop inType label keyword inFile cs = .ok (label', bs)) :
    ∃ recorded, recordChildren source label cs = .ok recorded ∧ label'.name = recorded.name ∧
      label'.modifiers = recorded.modifiers := by
  induction cs generalizing label keyword inFile bs with
  | nil =>
    rw [lowerChildren] at h
    cases h
    exact ⟨label, rfl, rfl, rfl⟩
  | cons t cs ih =>
    obtain ⟨label₁, _, _, _, hchild, hrest⟩ := exists_recordChild h
    obtain ⟨recorded, hrecorded, hsame⟩ := ih hrest
    exact ⟨recorded, recordChildren_cons.mpr ⟨label₁, hchild, hrecorded⟩, hsame⟩

theorem exists_recordChildren_of_lowerParts {field : Option String} {span : Span}
    (h : lowerParts source field inType span t = .ok (label, bs)) :
    ∃ recorded,
      recordChildren source (t.info.label field (inType || isTypeField field) span) t.children = .ok recorded ∧
      label.name = recorded.name ∧ label.modifiers = recorded.modifiers := by
  cases t with
  | node c children =>
    rw [lowerParts] at h
    exact exists_recordChildren h

/-- The name of a lowered node is the text of the last child that names it, and there is none without such a child. -/
theorem name_of_lowerParts {field : Option String} {span : Span}
    (h : lowerParts source field inType span t = .ok (label, bs)) :
    Option.Rel (fun c text => c.info.text source = .ok text) (nameChild? label.kind t.children) label.name := by
  obtain ⟨recorded, hrecorded, hname, _⟩ := exists_recordChildren_of_lowerParts h
  have hkind : (t.info.label field (inType || isTypeField field) span).kind = label.kind :=
    (kind_of_lowerParts h).symm
  have hrecorded := name_of_recordChildren hrecorded
  rw [hkind] at hrecorded
  obtain ⟨hnone, heq⟩ | ⟨c, text, hsome, htext, heq⟩ := hrecorded
  . rw [hname, heq, hnone]
    exact .none
  . rw [hname, heq, hsome]
    exact .some htext

theorem exists_nameChild_of_lowerParts {field : Option String} {span : Span} {name : String}
    (h : lowerParts source field inType span t = .ok (label, bs)) (hname : label.name = some name) :
    ∃ c ∈ t.children, c.info.isNameOf label.kind = true ∧ c.info.text source = .ok name := by
  have hrel := name_of_lowerParts h
  rw [hname] at hrel
  cases hchild : nameChild? label.kind t.children with
  | none =>
    rw [hchild] at hrel
    cases hrel
  | some c =>
    rw [hchild] at hrel
    obtain ⟨hmem, hnames⟩ := mem_of_nameChild? hchild
    cases hrel with
    | some htext => exact ⟨c, hmem, hnames, htext⟩

/-- The modifiers of a lowered node are those that its children stand for, if nodes of its kind have any. -/
theorem mem_modifiers_of_lowerParts {field : Option String} {span : Span}
    (h : lowerParts source field inType span t = .ok (label, bs)) :
    m ∈ label.modifiers ↔ label.kind.carriesModifiers = true ∧ ∃ c ∈ t.children, c.info.Declares source m := by
  obtain ⟨recorded, hrecorded, _, hmodifiers⟩ := exists_recordChildren_of_lowerParts h
  rw [hmodifiers, mem_modifiers_of_recordChildren hrecorded, kind_of_lowerParts h]
  exact or_iff_right List.not_mem_nil

end Runs

end Concrete
end StructuralSearch
