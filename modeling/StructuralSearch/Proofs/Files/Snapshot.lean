import Mathlib.Data.List.Basic
import StructuralSearch.Files.Discovery
import StructuralSearch.Proofs.Failure

/-!
This module contains what the contents of files have to do with finding them: nothing. If the contents of a file are
replaced, paths lead to the same places and the same files are discovered, and only what leads to this file reads
otherwise. It also contains how the roots of a search are gone through.
-/

namespace StructuralSearch

namespace Item

variable {content : Content} {age : Int}

mutual

/-- The same with nothing in the files. -/
def emptied : Item → Item
  | .file .. => .file .binary 0
  | .directory entries => .directory (emptiedEntries entries)
  | .link target => .link target

def emptiedEntries : List (String × Item) → List (String × Item)
  | [] => []
  | (name, item) :: entries => (name, item.emptied) :: emptiedEntries entries

end

/-- Other contents, if it is a file. -/
def rewrite (content : Content) (age : Int) : Item → Item
  | .file .. => .file content age
  | item => item

theorem emptiedEntries_eq (entries : List (String × Item)) :
    emptiedEntries entries = entries.map fun entry => (entry.1, entry.2.emptied) := by
  induction entries with
  | nil => rfl
  | cons entry entries ih => rw [emptiedEntries, ih, List.map_cons]

theorem entries_emptied (item : Item) :
    item.emptied.entries = item.entries.map fun entry => (entry.1, entry.2.emptied) := by
  cases item with
  | file content age => rfl
  | directory entries =>
    rw [emptied]
    exact emptiedEntries_eq entries
  | link target => rfl

theorem isFile_emptied (item : Item) : item.emptied.isFile = item.isFile := by
  cases item with
  | file content age => rfl
  | directory entries => rw [emptied]; rfl
  | link target => rfl

theorem isDirectory_emptied (item : Item) : item.emptied.isDirectory = item.isDirectory := by
  cases item with
  | file content age => rfl
  | directory entries => rw [emptied]; rfl
  | link target => rfl

theorem lookup_map (f : String → Item → Item) (name : String) (entries : List (String × Item)) :
    (entries.map fun entry => (entry.1, f entry.1 entry.2)).lookup name = (entries.lookup name).map (f name) := by
  induction entries with
  | nil => rfl
  | cons entry entries ih =>
    obtain ⟨first, item⟩ := entry
    rw [List.map_cons, List.lookup_cons, List.lookup_cons, ih]
    cases hname : name == first with
    | true => simp [eq_of_beq hname]
    | false => rfl

theorem at?_emptied (item : Item) (trail : Trail) : item.emptied.at? trail = (item.at? trail).map emptied := by
  induction trail generalizing item with
  | nil => rfl
  | cons name names ih =>
    rw [at?, at?, entries_emptied, lookup_map (fun _ => emptied)]
    cases item.entries.lookup name with
    | none => rfl
    | some below => exact ih below

theorem emptied_modify {f : Item → Item} (hf : ∀ item, (f item).emptied = item.emptied) (item : Item) (trail : Trail) :
    (item.modify f trail).emptied = item.emptied := by
  induction trail generalizing item with
  | nil => exact hf item
  | cons name names ih =>
    cases item with
    | file content age => rfl
    | link target => rfl
    | directory entries =>
      rw [modify, emptied, emptied, emptiedEntries_eq, emptiedEntries_eq, List.map_map]
      congr 2
      funext entry
      rw [Function.comp_apply]
      split
      . rw [ih]
      . rfl

theorem emptied_rewrite (item : Item) : (item.rewrite content age).emptied = item.emptied := by
  cases item with
  | file content age => rfl
  | directory entries => rfl
  | link target => rfl

theorem entries_rewrite (item : Item) : (item.rewrite content age).entries = item.entries := by
  cases item with
  | file content age => rfl
  | directory entries => rfl
  | link target => rfl

/-- What is changed at the end of a trail is not to be seen in the texts at other places. -/
theorem text_modify {f : Item → Item} (hf : ∀ item, (f item).entries = item.entries) {trail place : Trail}
    (hne : place ≠ trail) (item : Item) :
    ((item.modify f trail).at? place).map text = (item.at? place).map text := by
  induction place generalizing item trail with
  | nil =>
    obtain ⟨name, names, rfl⟩ := List.exists_cons_of_ne_nil hne.symm
    cases item with
    | file content age => rfl
    | directory entries => rfl
    | link target => rfl
  | cons name names ih =>
    cases trail with
    | nil => rw [modify, at?, at?, hf]
    | cons first trail =>
      cases item with
      | file content age => rfl
      | link target => rfl
      | directory entries =>
        rw [modify, at?, at?, Item.entries, Item.entries,
          lookup_map (fun key below => if key = first then below.modify f trail else below)]
        cases entries.lookup name with
        | none => rfl
        | some below =>
          dsimp only [Option.map_some, Option.bind_some]
          split
          . next heq =>
            refine ih ?_ below
            intro hrest
            exact hne (by rw [heq, hrest])
          . rfl

section Walk

variable (skips : String → Item → Bool)

/-- What a walk comes to by one entry of a directory. -/
def walkEntry (entry : String × Item) : List (Trail × Item) :=
  if skips entry.1 entry.2 then []
  else ([entry.1], entry.2) :: (entry.2.walk skips).map fun visit => (entry.1 :: visit.1, visit.2)

theorem walkEntries_eq (entries : List (String × Item)) :
    walkEntries skips entries = entries.flatMap (walkEntry skips) := by
  induction entries with
  | nil => rfl
  | cons entry entries ih =>
    rw [walkEntries, List.flatMap_cons, ih, walkEntry]
    split
    . rfl
    . rfl

/-- A walk of a directory goes through what is in it. -/
theorem walk_eq (item : Item) : item.walk skips = item.entries.flatMap (walkEntry skips) := by
  cases item with
  | file content age => rfl
  | directory entries => exact walkEntries_eq skips entries
  | link target => rfl

end Walk

mutual

theorem walk_emptied : (item : Item) → item.emptied.walk isSkipped = (item.walk isSkipped).map fun visit =>
    (visit.1, visit.2.emptied)
  | .file .. => rfl
  | .directory entries => walkEntries_emptied entries
  | .link _ => rfl

theorem walkEntries_emptied : (entries : List (String × Item)) → walkEntries isSkipped (emptiedEntries entries) =
    (walkEntries isSkipped entries).map fun visit => (visit.1, visit.2.emptied)
  | [] => rfl
  | (name, item) :: entries => by
    have hskipped : isSkipped name item.emptied = isSkipped name item := by
      unfold isSkipped
      rw [isDirectory_emptied]
    rw [emptiedEntries, walkEntries, walkEntries, hskipped, walkEntries_emptied entries]
    split
    . rfl
    . rw [walk_emptied item, List.map_append, List.map_cons, List.map_map, List.map_map]
      rfl

end

theorem sourceFiles_emptied (item : Item) (path : String) : item.emptied.sourceFiles path = item.sourceFiles path := by
  unfold sourceFiles sourceTrails
  rw [walk_emptied, List.filter_map]
  simp only [Function.comp_def, isFile_emptied, List.map_map]

end Item

namespace Snapshot

variable {fs : Snapshot} {trail : Trail} {content : Content} {age : Int}

section Contents

/-- The same with nothing in the files. -/
def emptied (fs : Snapshot) : Snapshot :=
  { fs with root := fs.root.emptied }

/-- Puts other contents into the file at the end of a trail. -/
def overwrite (fs : Snapshot) (trail : Trail) (content : Content) (age : Int) : Snapshot :=
  fs.modify trail (·.rewrite content age)

theorem emptied_overwrite (fs : Snapshot) (trail : Trail) (content : Content) (age : Int) :
    (fs.overwrite trail content age).emptied = fs.emptied := by
  unfold overwrite modify emptied
  rw [Item.emptied_modify Item.emptied_rewrite]

theorem item?_emptied (fs : Snapshot) (place : Trail) : fs.emptied.item? place = (fs.item? place).map Item.emptied :=
  Item.at?_emptied fs.root place

theorem followNames_emptied (fs : Snapshot) (jump : Trail → String → List String → Except FileFault Trail)
    (place : Trail) (names : List String) :
    fs.emptied.followNames jump place names = fs.followNames jump place names := by
  -- A look-up sees whether something is a file, but not what it holds.
  induction names generalizing place with
  | nil => rfl
  | cons name names ih =>
    rw [followNames, followNames, ih, ih, item?_emptied]
    cases fs.item? (place ++ [name]) with
    | none => rfl
    | some item =>
      cases item with
      | file content age => rfl
      | directory entries => simp only [Option.map_some, Item.emptied, ih]
      | link target => rfl

theorem follow_emptied (fs : Snapshot) (links : Nat) (place : Trail) (names : List String) :
    fs.emptied.follow links place names = fs.follow links place names := by
  induction links generalizing place names with
  | zero => exact followNames_emptied fs _ place names
  | succ links ih =>
    rw [follow, follow, followNames_emptied]
    simp only [ih]

theorem locate_emptied (fs : Snapshot) (path : String) : fs.emptied.locate path = fs.locate path := by
  unfold locate
  rw [follow_emptied]
  rfl

theorem resolve_emptied (fs : Snapshot) (path : String) :
    fs.emptied.resolve path = (fs.resolve path).map Item.emptied := by
  unfold resolve
  rw [locate_emptied]
  cases fs.locate path with
  | error fault => rfl
  | ok place =>
    dsimp only [bind, Except.bind]
    rw [item?_emptied]
    cases fs.item? place with
    | none => rfl
    | some item => rfl

theorem discoverRoot_emptied (fs : Snapshot) (root : String) : fs.emptied.discoverRoot root = fs.discoverRoot root := by
  unfold discoverRoot
  rw [resolve_emptied]
  cases fs.resolve root with
  | error fault => rfl
  | ok item =>
    have hfiles := item.sourceFiles_emptied root
    cases item with
    | file content age => rfl
    | directory entries => exact congrArg Except.ok hfiles
    | link target => rfl

/-- What is discovered does not depend on what is in the files. -/
theorem discover_emptied (fs : Snapshot) (roots : List String) : fs.emptied.discover roots = fs.discover roots := by
  have hroot : fs.emptied.discoverRoot = fs.discoverRoot := funext (discoverRoot_emptied fs)
  unfold discover
  rw [hroot]

theorem discover_overwrite (fs : Snapshot) (trail : Trail) (content : Content) (age : Int) (roots : List String) :
    (fs.overwrite trail content age).discover roots = fs.discover roots := by
  rw [← discover_emptied, emptied_overwrite, discover_emptied]

theorem locate_overwrite (fs : Snapshot) (trail : Trail) (content : Content) (age : Int) (path : String) :
    (fs.overwrite trail content age).locate path = fs.locate path := by
  rw [← locate_emptied, emptied_overwrite, locate_emptied]

/-- The path leads to what is at the end of the trail. -/
def leadsTo (fs : Snapshot) (trail : Trail) (path : String) : Bool :=
  fs.locate path == .ok trail

theorem readText_eq (fs : Snapshot) (path : String) : fs.readText path = (do
    let place ← fs.locate path
    ((fs.item? place).map Item.text).getD (.error .notFound)) := by
  unfold readText resolve
  cases fs.locate path with
  | error fault => rfl
  | ok place =>
    dsimp only [bind, Except.bind]
    cases fs.item? place with
    | none => rfl
    | some item => rfl

theorem readText_overwrite {path : String} (h : fs.leadsTo trail path = false) :
    (fs.overwrite trail content age).readText path = fs.readText path := by
  rw [readText_eq, readText_eq, locate_overwrite]
  cases hplace : fs.locate path with
  | error fault => rfl
  | ok place =>
    have hne : place ≠ trail := by
      intro heq
      rw [leadsTo, hplace, heq, beq_self_eq_true] at h
      cases h
    have htext : ((fs.overwrite trail content age).item? place).map Item.text = (fs.item? place).map Item.text :=
      Item.text_modify Item.entries_rewrite hne fs.root
    exact congrArg (·.getD (.error .notFound)) htext

end Contents

section Roots

variable {root : String} {roots : List String} {f : AccessFault}

/-- The path leads somewhere. -/
def Accessible (fs : Snapshot) (path : String) : Prop :=
  ∃ item, fs.resolve path = .ok item

theorem accessible_iff {path : String} : fs.Accessible path ↔ (fs.resolve path).toOption.isSome = true := by
  unfold Accessible
  cases fs.resolve path with
  | error fault => simp [Except.toOption]
  | ok item => simp [Except.toOption]

instance (fs : Snapshot) (path : String) : Decidable (fs.Accessible path) :=
  decidable_of_iff _ accessible_iff.symm

/-- The fault is that of the first root that cannot be accessed. -/
def IsFirstFault (fs : Snapshot) (roots : List String) (f : AccessFault) : Prop :=
  ∃ before after, roots = before ++ f.path :: after ∧ (∀ root ∈ before, fs.Accessible root) ∧
    fs.resolve f.path = .error f.fault

theorem discoverRoot_eq_error :
    fs.discoverRoot root = .error f ↔ root = f.path ∧ fs.resolve root = .error f.fault := by
  unfold discoverRoot
  cases fs.resolve root with
  | error fault =>
    obtain ⟨path, fault'⟩ := f
    simp
  | ok item =>
    cases item with
    | file content age => simp
    | directory entries => simp
    | link target => simp

theorem accessible_of_discoverRoot {files : List String} (h : fs.discoverRoot root = .ok files) :
    fs.Accessible root := by
  cases hitem : fs.resolve root with
  | error fault =>
    rw [discoverRoot, hitem] at h
    cases h
  | ok item => exact ⟨item, hitem⟩

theorem discover_cons (root : String) (roots : List String) : fs.discover (root :: roots) = (do
    let files ← fs.discoverRoot root
    let rest ← fs.discover roots
    return files ++ rest) := by
  unfold discover
  rw [List.mapM_cons]
  cases fs.discoverRoot root with
  | error f => rfl
  | ok files =>
    cases roots.mapM fs.discoverRoot with
    | error f => rfl
    | ok rest => rfl

theorem discover_append (roots roots' : List String) : fs.discover (roots ++ roots') = (do
    let files ← fs.discover roots
    let files' ← fs.discover roots'
    return files ++ files') := by
  induction roots with
  | nil =>
    have hnil : fs.discover [] = .ok [] := rfl
    rw [hnil, List.nil_append]
    cases fs.discover roots' with
    | error f => rfl
    | ok files => rfl
  | cons root roots ih =>
    rw [List.cons_append, discover_cons, discover_cons, ih]
    simp only [bind_assoc, pure_bind, List.append_assoc]

theorem isFirstFault_cons : fs.IsFirstFault (root :: roots) f ↔
    (root = f.path ∧ fs.resolve root = .error f.fault) ∨ (fs.Accessible root ∧ fs.IsFirstFault roots f) := by
  constructor
  . intro h
    obtain ⟨before, after, heq, hbefore, hfault⟩ := h
    cases before with
    | nil =>
      rw [List.nil_append, List.cons.injEq] at heq
      rw [← heq.1] at hfault
      exact .inl ⟨heq.1, hfault⟩
    | cons root' before =>
      rw [List.cons_append, List.cons.injEq] at heq
      rw [List.forall_mem_cons, ← heq.1] at hbefore
      exact .inr ⟨hbefore.1, before, after, heq.2, hbefore.2, hfault⟩
  . intro h
    cases h with
    | inl h =>
      obtain ⟨heq, hfault⟩ := h
      subst heq
      exact ⟨[], roots, rfl, by simp, hfault⟩
    | inr h =>
      obtain ⟨hroot, before, after, heq, hbefore, hfault⟩ := h
      subst heq
      exact ⟨root :: before, after, rfl, List.forall_mem_cons.mpr ⟨hroot, hbefore⟩, hfault⟩

theorem discover_eq_error : fs.discover roots = .error f ↔ fs.IsFirstFault roots f := by
  induction roots with
  | nil =>
    constructor
    . intro h
      cases h
    . intro h
      obtain ⟨before, after, heq, _⟩ := h
      simp at heq
  | cons root roots ih =>
    rw [discover_cons, bind_eq_error, discoverRoot_eq_error, isFirstFault_cons]
    refine or_congr_right ?_
    constructor
    . intro h
      obtain ⟨files, hfiles, h⟩ := h
      rw [bind_eq_error, ih] at h
      cases h with
      | inl h => exact ⟨accessible_of_discoverRoot hfiles, h⟩
      | inr h =>
        obtain ⟨_, _, h⟩ := h
        cases h
    . intro h
      obtain ⟨⟨item, hitem⟩, h⟩ := h
      cases hfiles : fs.discoverRoot root with
      | error f' =>
        rw [discoverRoot_eq_error, hitem] at hfiles
        cases hfiles.2
      | ok files => exact ⟨files, rfl, bind_eq_error.mpr (.inl (ih.mpr h))⟩

theorem exists_isFirstFault : (∃ f, fs.IsFirstFault roots f) ↔ ∃ root ∈ roots, ¬ fs.Accessible root := by
  constructor
  . intro h
    obtain ⟨f, before, after, heq, _, hfault⟩ := h
    refine ⟨f.path, by simp [heq], ?_⟩
    intro haccess
    obtain ⟨item, hitem⟩ := haccess
    rw [hitem] at hfault
    cases hfault
  . intro h
    obtain ⟨root, hroot, hfault⟩ := h
    induction roots with
    | nil => cases hroot
    | cons first roots ih =>
      simp only [isFirstFault_cons]
      cases hfirst : fs.resolve first with
      | error fault => exact ⟨⟨first, fault⟩, .inl ⟨rfl, rfl⟩⟩
      | ok item =>
        have hfirst' : fs.Accessible first := ⟨item, hfirst⟩
        cases List.mem_cons.mp hroot with
        | inl heq => exact absurd (heq ▸ hfirst') hfault
        | inr hroot =>
          obtain ⟨f, hf⟩ := ih hroot
          exact ⟨f, .inr ⟨hfirst', hf⟩⟩

theorem exists_discover (h : ∀ root ∈ roots, fs.Accessible root) : ∃ files, fs.discover roots = .ok files := by
  cases hfiles : fs.discover roots with
  | error f =>
    obtain ⟨root, hroot, hfault⟩ := exists_isFirstFault.mp ⟨f, discover_eq_error.mp hfiles⟩
    exact absurd (h root hroot) hfault
  | ok files => exact ⟨files, rfl⟩

end Roots

end Snapshot
end StructuralSearch
