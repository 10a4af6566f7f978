import Mathlib.Data.List.Induction
import Mathlib.Data.List.Nodup
import StructuralSearch.Proofs.Files.Snapshot
import StructuralSearch.Proofs.Path

/-!
This module contains which files a search finds. They are the source files that a walk of a directory comes to if it
turns away from directories with certain names, each of them once and in the order of their paths.
-/

namespace StructuralSearch

theorem isSourceName_iff {name : String} : isSourceName name = true ↔ ∃ stem, stem ≠ "" ∧ name = stem ++ ".cs" := by
  unfold isSourceName
  rw [Bool.and_eq_true, List.isSuffixOf_iff_suffix, bne_iff_ne]
  constructor
  . intro h
    obtain ⟨⟨cs, hcs⟩, hne⟩ := h
    have hname : name = String.ofList cs ++ ".cs" := by
      rw [← String.toList_inj, ← hcs]
      simp
    refine ⟨String.ofList cs, ?_, hname⟩
    intro hempty
    rw [hempty, String.empty_append] at hname
    exact hne hname
  . intro h
    obtain ⟨stem, hstem, hname⟩ := h
    subst hname
    refine ⟨⟨stem.toList, by simp⟩, ?_⟩
    intro heq
    rw [← String.toList_inj, String.toList_append, List.append_left_eq_self, String.toList_eq_nil_iff] at heq
    exact hstem heq

namespace Item

variable {item found : Item} {name : String} {names below : Trail} {skips : String → Item → Bool}

theorem isFile_iff : item.isFile = true ↔ ∃ content age, item = .file content age := by
  cases item with
  | file content age => simp [isFile]
  | directory entries => simp [isFile]
  | link target => simp [isFile]

theorem isDirectory_iff : item.isDirectory = true ↔ ∃ entries, item = .directory entries := by
  cases item with
  | file content age => simp [isDirectory]
  | directory entries => simp [isDirectory]
  | link target => simp [isDirectory]

/-- No directory has two entries of the same name, and these are names. -/
inductive IsTree : Item → Prop
  | file {content : Content} {age : Int} : IsTree (.file content age)
  | directory {entries : List (String × Item)} : (entries.map (·.1)).Nodup →
      (∀ entry ∈ entries, Path.IsName entry.1) → (∀ entry ∈ entries, IsTree entry.2) → IsTree (.directory entries)
  | link {target : String} : IsTree (.link target)

namespace IsTree

theorem nodup (h : item.IsTree) : (item.entries.map (·.1)).Nodup := by
  cases h with
  | file => exact .nil
  | directory hdistinct _ _ => exact hdistinct
  | link => exact .nil

theorem isName (h : item.IsTree) : ∀ entry ∈ item.entries, Path.IsName entry.1 := by
  cases h with
  | file => simp [entries]
  | directory _ hnames _ => exact hnames
  | link => simp [entries]

theorem entry (h : item.IsTree) : ∀ entry ∈ item.entries, entry.2.IsTree := by
  cases h with
  | file => simp [entries]
  | directory _ _ hbelow => exact hbelow
  | link => simp [entries]

theorem lookup_eq_some (h : item.IsTree) : item.entries.lookup name = some found ↔ (name, found) ∈ item.entries := by
  have hdistinct := h.nodup
  generalize item.entries = entries at hdistinct
  induction entries with
  | nil => simp
  | cons entry entries ih =>
    obtain ⟨first, other⟩ := entry
    rw [List.map_cons, List.nodup_cons] at hdistinct
    rw [List.lookup_cons, List.mem_cons, Prod.mk.injEq]
    cases hname : name == first with
    | true =>
      rw [beq_iff_eq] at hname
      subst hname
      have hnone : (name, found) ∉ entries := fun hmem => hdistinct.1 (List.mem_map_of_mem (f := (·.1)) hmem)
      simp [hnone, eq_comm]
    | false =>
      rw [beq_eq_false_iff_ne] at hname
      rw [or_iff_right fun heq => hname heq.1]
      exact ih hdistinct.2

theorem at?_cons (h : item.IsTree) : item.at? (name :: names) = some found ↔
    ∃ next, (name, next) ∈ item.entries ∧ next.at? names = some found := by
  rw [at?, Option.bind_eq_some_iff]
  simp only [h.lookup_eq_some]

theorem isName_of_at? (h : item.IsTree) (hitem : item.at? below = some found) : ∀ name ∈ below, Path.IsName name := by
  induction below generalizing item with
  | nil => simp
  | cons name names ih =>
    obtain ⟨next, hmem, hnext⟩ := h.at?_cons.mp hitem
    exact List.forall_mem_cons.mpr ⟨h.isName _ hmem, ih (h.entry _ hmem) hnext⟩

theorem at? (h : item.IsTree) (hitem : item.at? below = some found) : found.IsTree := by
  induction below generalizing item with
  | nil =>
    cases hitem
    exact h
  | cons name names ih =>
    obtain ⟨next, hmem, hnext⟩ := h.at?_cons.mp hitem
    exact ih (h.entry _ hmem) hnext

end IsTree

theorem at?_append (item : Item) (names below : Trail) :
    item.at? (names ++ below) = (item.at? names).bind (·.at? below) := by
  induction names generalizing item with
  | nil => rfl
  | cons name names ih =>
    rw [List.cons_append, Item.at?, Item.at?]
    cases item.entries.lookup name with
    | none => rfl
    | some next => exact ih next

section Walk

theorem nil_not_mem_walk (skips : String → Item → Bool) (item found : Item) : ([], found) ∉ item.walk skips := by
  rw [walk_eq, List.mem_flatMap]
  intro h
  obtain ⟨entry, _, h⟩ := h
  unfold walkEntry at h
  split at h
  . cases h
  . simp at h

theorem mem_walk_cons : (name :: names, found) ∈ item.walk skips ↔
    ∃ next, (name, next) ∈ item.entries ∧ skips name next = false ∧
      (names = [] ∧ found = next ∨ (names, found) ∈ next.walk skips) := by
  rw [walk_eq, List.mem_flatMap]
  constructor
  . intro h
    obtain ⟨⟨first, next⟩, hentry, h⟩ := h
    unfold walkEntry at h
    split at h
    . cases h
    . next hskips =>
      rw [Bool.not_eq_true] at hskips
      rw [List.mem_cons, Prod.mk.injEq, List.cons.injEq, List.mem_map] at h
      obtain ⟨⟨rfl, rfl⟩, rfl⟩ | ⟨⟨trail, item'⟩, hvisit, heq⟩ := h
      . exact ⟨_, hentry, hskips, .inl ⟨rfl, rfl⟩⟩
      . rw [Prod.mk.injEq, List.cons.injEq] at heq
        obtain ⟨⟨rfl, rfl⟩, rfl⟩ := heq
        exact ⟨_, hentry, hskips, .inr hvisit⟩
  . intro h
    obtain ⟨next, hentry, hskips, h⟩ := h
    refine ⟨_, hentry, ?_⟩
    rw [walkEntry, if_neg (by simp [hskips]), List.mem_cons]
    obtain ⟨rfl, rfl⟩ | hvisit := h
    . exact .inl rfl
    . exact .inr (List.mem_map.mpr ⟨_, hvisit, rfl⟩)

theorem isDirectory_of_at?_cons (h : item.at? (name :: names) = some found) : item.isDirectory = true := by
  cases item with
  | file content age => cases h
  | directory entries => rfl
  | link target => cases h

theorem isSkipped_of_isDirectory (h : item.isDirectory = true) :
    isSkipped name item = false ↔ name ∉ skippedDirectories := by
  rw [isSkipped, h, Bool.true_and, List.contains_eq_mem, decide_eq_false_iff_not]

/-- A walk comes to the files that no directory between is to be skipped for. -/
theorem mem_walk_file (h : item.IsTree) (hfile : found.isFile = true) : (below, found) ∈ item.walk isSkipped ↔
    below ≠ [] ∧ item.at? below = some found ∧ ∀ name ∈ below.dropLast, name ∉ skippedDirectories := by
  -- Induction on the names: what is in a directory is another tree, which the rest of the names leads through.
  induction below generalizing item with
  | nil =>
    have hnone := nil_not_mem_walk isSkipped item found
    simp [hnone]
  | cons name names ih =>
    rw [mem_walk_cons, h.at?_cons, and_iff_right (List.cons_ne_nil name names)]
    cases names with
    | nil =>
      constructor
      . intro hwalk
        obtain ⟨next, hentry, _, ⟨_, rfl⟩ | hvisit⟩ := hwalk
        . exact ⟨⟨_, hentry, rfl⟩, by simp⟩
        . exact absurd hvisit (nil_not_mem_walk isSkipped next found)
      . intro hwalk
        obtain ⟨⟨next, hentry, hnext⟩, _⟩ := hwalk
        cases hnext
        obtain ⟨content, age, rfl⟩ := isFile_iff.mp hfile
        exact ⟨_, hentry, rfl, .inl ⟨rfl, rfl⟩⟩
    | cons second names =>
      rw [List.dropLast_cons_cons, List.forall_mem_cons]
      constructor
      . intro hwalk
        obtain ⟨next, hentry, hskips, ⟨hnil, _⟩ | hvisit⟩ := hwalk
        . cases hnil
        . obtain ⟨_, hnext, hbetween⟩ := (ih (h.entry _ hentry)).mp hvisit
          rw [isSkipped_of_isDirectory (isDirectory_of_at?_cons hnext)] at hskips
          exact ⟨⟨next, hentry, hnext⟩, hskips, hbetween⟩
      . intro hwalk
        obtain ⟨⟨next, hentry, hnext⟩, hskips, hbetween⟩ := hwalk
        refine ⟨next, hentry, ?_, .inr ((ih (h.entry _ hentry)).mpr ⟨List.cons_ne_nil _ _, hnext, hbetween⟩)⟩
        exact (isSkipped_of_isDirectory (isDirectory_of_at?_cons hnext)).mpr hskips

theorem head?_of_mem_walkEntry {entry : String × Item} {trail : Trail}
    (h : trail ∈ (walkEntry skips entry).map (·.1)) : trail.head? = some entry.1 := by
  unfold walkEntry at h
  split at h
  . cases h
  . rw [List.map_cons, List.map_map, List.mem_cons, List.mem_map] at h
    obtain rfl | ⟨visit, _, rfl⟩ := h
    . rfl
    . rfl

/-- A walk comes to nothing twice: entries of a directory differ by the first name, what is in one by the others. -/
theorem nodup_walk (h : item.IsTree) (skips : String → Item → Bool) : ((item.walk skips).map (·.1)).Nodup := by
  induction h with
  | file => exact .nil
  | link => exact .nil
  | @directory entries hdistinct hnames hbelow ih =>
    rw [walk_eq, List.map_flatMap, List.nodup_flatMap]
    constructor
    . intro entry hentry
      unfold walkEntry
      split
      . exact .nil
      . have hinner : ((entry.2.walk skips).map fun visit => entry.1 :: visit.1).Nodup := by
          have hmap := (ih entry hentry).map (List.cons_injective (a := entry.1))
          rwa [List.map_map] at hmap
        rw [List.map_cons, List.map_map, List.nodup_cons]
        refine ⟨?_, hinner⟩
        rw [List.mem_map]
        rintro ⟨⟨trail, found⟩, hvisit, heq⟩
        cases heq
        exact nil_not_mem_walk skips entry.2 found hvisit
    . rw [List.Nodup, List.pairwise_map] at hdistinct
      refine hdistinct.imp ?_
      intro entry entry' hne trail htrail htrail'
      have hhead := head?_of_mem_walkEntry htrail
      rw [head?_of_mem_walkEntry htrail', Option.some.injEq] at hhead
      exact hne hhead.symm

end Walk

/--
A file below a directory that is a source by its name and by the names of the directories between, of which neither
the directory itself nor those above it are any.
-/
structure IsSource (item : Item) (below : Trail) : Prop where
  isFile : ∃ content age, item.at? below = some (.file content age)
  named : ∃ stem, stem ≠ "" ∧ below.getLast? = some (stem ++ ".cs")
  between : ∀ name ∈ below.dropLast, name ∉ ["bin", "obj", ".git", ".vs", "node_modules"]

section Trails

theorem mem_sourceTrails (h : item.IsTree) : below ∈ item.sourceTrails ↔ item.IsSource below := by
  have hnamed : below.getLast?.any isSourceName = true ↔ ∃ stem, stem ≠ "" ∧ below.getLast? = some (stem ++ ".cs") := by
    cases below.getLast? with
    | none => simp
    | some name => simp [isSourceName_iff]
  unfold sourceTrails
  simp only [List.mem_map, List.mem_filter, Bool.and_eq_true]
  constructor
  . intro hmem
    obtain ⟨⟨_, found⟩, ⟨hvisit, hfile, hname⟩, rfl⟩ := hmem
    obtain ⟨_, hitem, hbetween⟩ := (mem_walk_file h hfile).mp hvisit
    obtain ⟨content, age, rfl⟩ := isFile_iff.mp hfile
    exact ⟨⟨content, age, hitem⟩, hnamed.mp hname, hbetween⟩
  . intro hsource
    obtain ⟨⟨content, age, hitem⟩, hname, hbetween⟩ := hsource
    have hne : below ≠ [] := by
      rintro rfl
      obtain ⟨_, _, hlast⟩ := hname
      cases hlast
    exact ⟨(below, .file content age), ⟨(mem_walk_file h rfl).mpr ⟨hne, hitem, hbetween⟩, rfl, hnamed.mpr hname⟩, rfl⟩

theorem nodup_sourceTrails (h : item.IsTree) : item.sourceTrails.Nodup :=
  (nodup_walk h isSkipped).sublist (List.filter_sublist.map _)

/-- The path that leads from a directory along the names below it. -/
def pathTo (root : String) (below : Trail) : String :=
  below.foldl Path.join root

theorem nodup_components (h : item.IsTree) {root : String} (hroot : root ≠ "") :
    ((item.sourceTrails.map (pathTo root)).map Path.components).Nodup := by
  rw [List.map_map]
  refine (nodup_sourceTrails h).map_on ?_
  have hcomponents : ∀ below ∈ item.sourceTrails,
      Path.components (pathTo root below) = Path.components root ++ below.map .normal := by
    intro below hbelow
    obtain ⟨content, age, hitem⟩ := ((mem_sourceTrails h).mp hbelow).isFile
    exact Path.components_foldl_join (h.isName_of_at? hitem) hroot
  intro below hbelow below' hbelow' heq
  rw [Function.comp_apply, Function.comp_apply, hcomponents below hbelow, hcomponents below' hbelow',
    List.append_cancel_left_eq] at heq
  exact List.map_injective_iff.mpr (fun _ _ => Path.Component.normal.inj) heq

end Trails

end Item

namespace Snapshot

variable {fs : Snapshot} {root : String} {trail : Trail} {item : Item}

/-- There is a directory at the end of the trail. -/
def HasDirectory (fs : Snapshot) (trail : Trail) : Prop :=
  ∃ entries, fs.item? trail = some (.directory entries)

/-- There is a file at the end of the trail. -/
def HasFile (fs : Snapshot) (trail : Trail) : Prop :=
  ∃ content age, fs.item? trail = some (.file content age)

/-- A finite tree of directories, one of which is the working directory. -/
structure IsTree (fs : Snapshot) : Prop where
  root : fs.root.IsTree
  working : fs.HasDirectory fs.working

/-- What a search of a root should find. -/
inductive Finds (fs : Snapshot) (root : String) : List String → Prop
  | file {content : Content} {age : Int} : fs.resolve root = .ok (.file content age) → Finds fs root [root]
  | directory {entries : List (String × Item)} {found : List Trail} : fs.resolve root = .ok (.directory entries) →
      (∀ below, below ∈ found ↔ (Item.directory entries).IsSource below) →
      ((found.map (Item.pathTo root)).Pairwise fun a b => Path.lt a b = true) →
      Finds fs root (found.map (Item.pathTo root))

theorem Finds.eq_of_file {files : List String} (h : fs.Finds root files) (hitem : fs.resolve root = .ok item)
    (hfile : item.isFile = true) : files = [root] := by
  cases h with
  | file => rfl
  | directory hentries =>
    rw [hentries] at hitem
    cases hitem
    cases hfile

theorem Finds.mem_of_isSource {files : List String} {below : Trail} (h : fs.Finds root files)
    (hitem : fs.resolve root = .ok item) (hdirectory : item.isDirectory = true) (hbelow : item.IsSource below) :
    Item.pathTo root below ∈ files := by
  cases h with
  | file hfile =>
    rw [hfile] at hitem
    cases hitem
    cases hdirectory
  | directory hentries hfound =>
    rw [hentries] at hitem
    cases hitem
    exact List.mem_map_of_mem ((hfound below).mpr hbelow)

theorem finds_sourceFiles {entries : List (String × Item)} (h : (Item.directory entries).IsTree) (hroot : root ≠ "")
    (hresolve : fs.resolve root = .ok (.directory entries)) :
    fs.Finds root ((Item.directory entries).sourceFiles root) := by
  have hsorted : (Item.directory entries).sourceFiles root = ((Item.directory entries).sourceTrails.mergeSort
      fun a b => !Path.lt (Item.pathTo root b) (Item.pathTo root a)).map (Item.pathTo root) := by
    rw [List.map_mergeSort (s := fun a b => !Path.lt b a) (fun _ _ _ _ => rfl)]
    rfl
  have hpairwise : ((Item.directory entries).sourceFiles root).Pairwise fun a b => Path.lt a b = true :=
    Path.pairwise_mergeSort (Item.nodup_components h hroot)
  rw [hsorted] at hpairwise ⊢
  refine .directory hresolve ?_ hpairwise
  intro below
  rw [(List.mergeSort_perm _ _).mem_iff, Item.mem_sourceTrails h]

theorem HasDirectory.of_append {below : Trail} (hne : below ≠ []) (h : fs.item? (trail ++ below) = some item) :
    fs.HasDirectory trail := by
  obtain ⟨name, names, rfl⟩ := List.exists_cons_of_ne_nil hne
  unfold item? at h
  rw [Item.at?_append, Option.bind_eq_some_iff] at h
  obtain ⟨above, habove, hitem⟩ := h
  obtain ⟨entries, rfl⟩ := Item.isDirectory_iff.mp (Item.isDirectory_of_at?_cons hitem)
  exact ⟨entries, habove⟩

theorem HasDirectory.dropLast (h : fs.HasDirectory trail) : fs.HasDirectory trail.dropLast := by
  cases trail using List.reverseRecOn with
  | nil => exact h
  | append_singleton lead name =>
    obtain ⟨entries, hentries⟩ := h
    rw [List.dropLast_concat]
    exact .of_append (List.cons_ne_nil name []) hentries

/-- Names lead from a directory to a file or a directory, if links do. -/
theorem leads_of_followNames {jump : Trail → String → List String → Except FileFault Trail} {place : Trail}
    {names : List String}
    (hjump : ∀ place target names trail, fs.HasDirectory place → jump place target names = .ok trail →
      fs.HasFile trail ∨ fs.HasDirectory trail)
    (hplace : fs.HasDirectory place) (hfollow : fs.followNames jump place names = .ok trail) :
    fs.HasFile trail ∨ fs.HasDirectory trail := by
  induction names generalizing place with
  | nil =>
    cases hfollow
    exact .inr hplace
  | cons name names ih =>
    rw [followNames] at hfollow
    split at hfollow
    . exact ih hplace hfollow
    . split at hfollow
      . exact ih hplace.dropLast hfollow
      . split at hfollow
        . cases hfollow
        . split at hfollow
          . cases hfollow
          . next hitem => exact ih ⟨_, hitem⟩ hfollow
          . next hitem =>
            split at hfollow
            . cases hfollow
              exact .inl ⟨_, _, hitem⟩
            . cases hfollow
          . exact hjump place _ _ _ hplace hfollow

theorem leads_of_follow (hroot : fs.HasDirectory []) {links : Nat} {place : Trail} {names : List String}
    (hplace : fs.HasDirectory place) (hfollow : fs.follow links place names = .ok trail) :
    fs.HasFile trail ∨ fs.HasDirectory trail := by
  induction links generalizing place names trail with
  | zero =>
    refine leads_of_followNames ?_ hplace hfollow
    intro _ _ _ _ _ hjump
    cases hjump
  | succ links ih =>
    refine leads_of_followNames ?_ hplace hfollow
    intro here target names trail hhere hjump
    refine ih ?_ hjump
    split
    . exact hroot
    . exact hhere

theorem IsTree.hasDirectory_nil (h : fs.IsTree) : fs.HasDirectory [] := by
  obtain ⟨entries, hentries⟩ := h.working
  by_cases hne : fs.working = []
  . exact ⟨entries, hne ▸ hentries⟩
  . exact .of_append hne hentries

/-- A path that can be accessed leads to a file or a directory: links are followed. -/
theorem IsTree.resolve_cases (h : fs.IsTree) (hroot : fs.Accessible root) :
    (∃ content age, fs.resolve root = .ok (.file content age)) ∨
      ∃ entries, fs.resolve root = .ok (.directory entries) ∧ (Item.directory entries).IsTree := by
  obtain ⟨item, hresolve⟩ := hroot
  have hlocate := hresolve
  unfold resolve at hlocate
  rw [bind_eq_ok] at hlocate
  obtain ⟨trail, hlocate, hitem⟩ := hlocate
  replace hitem : fs.item? trail = some item := by
    split at hitem
    . next hitem' =>
      cases hitem
      exact hitem'
    . cases hitem
  have hleads : fs.HasFile trail ∨ fs.HasDirectory trail := by
    unfold locate at hlocate
    split at hlocate
    . cases hlocate
    . split at hlocate
      . cases hlocate
      . split at hlocate
        . cases hlocate
        . refine leads_of_follow h.hasDirectory_nil ?_ hlocate
          split
          . exact h.hasDirectory_nil
          . exact h.working
  cases hleads with
  | inl hfile =>
    obtain ⟨content, age, hfile⟩ := hfile
    rw [hitem] at hfile
    cases hfile
    exact .inl ⟨content, age, hresolve⟩
  | inr hdirectory =>
    obtain ⟨entries, hentries⟩ := hdirectory
    rw [hitem] at hentries
    cases hentries
    exact .inr ⟨entries, hresolve, h.root.at? hitem⟩

theorem exists_finds (h : fs.IsTree) (hroot : fs.Accessible root) :
    ∃ files, fs.discoverRoot root = .ok files ∧ fs.Finds root files := by
  have hne : root ≠ "" := by
    rintro rfl
    obtain ⟨item, hitem⟩ := hroot
    cases hitem
  unfold discoverRoot
  obtain ⟨content, age, hresolve⟩ | ⟨entries, hresolve, htree⟩ := h.resolve_cases hroot
  . rw [hresolve]
    exact ⟨_, rfl, .file hresolve⟩
  . rw [hresolve]
    exact ⟨_, rfl, finds_sourceFiles htree hne hresolve⟩

/--
Roots that can be accessed are searched in order. One that is a file is found whatever its name is, and one that is a
directory gives the source files below it, each once and in the strict order of their paths. These are the files with
the right ending of which no directory between them and the root has one of certain names, whatever the name of the root
itself is.
-/
theorem discover_exact {fs : Snapshot} (h : fs.IsTree) {roots : List String}
    (hroots : ∀ root ∈ roots, fs.Accessible root) :
    ∃ found, fs.discover roots = .ok found.flatten ∧ List.Forall₂ fs.Finds roots found := by
  induction roots with
  | nil => exact ⟨[], rfl, .nil⟩
  | cons root roots ih =>
    rw [List.forall_mem_cons] at hroots
    obtain ⟨files, hfiles, hfinds⟩ := exists_finds h hroots.1
    obtain ⟨found, hfound, hall⟩ := ih hroots.2
    refine ⟨files :: found, ?_, .cons hfinds hall⟩
    rw [discover_cons, hfiles, hfound]
    rfl

/-- A directory that is named like one that is skipped, with another one in it. -/
def binItem : Item :=
  .directory [
    ("A.cs", .file (.text "") 0), (".cs", .file (.text "") 0), ("obj", .directory [("B.cs", .file (.text "") 0)])]

def libItem : Item :=
  .directory [("C.cs", .file (.text "") 0)]

def homeItem : Item :=
  .directory [("cat", .directory [("bin", binItem), ("notes.txt", .file .binary 0)]), ("lib", libItem)]

/-- Work is done in one of two directories. -/
def binTree : Snapshot :=
  { root := .directory [("home", homeItem)], working := ["home", "cat"] }

theorem binTree_isTree : binTree.IsTree := by
  have hobj : (Item.directory [("B.cs", .file (.text "") 0)]).IsTree :=
    .directory (by decide) (by decide) (List.forall_mem_singleton.mpr .file)
  have hbin : binItem.IsTree := by
    refine .directory (by decide) (by decide) ?_
    rw [List.forall_mem_cons, List.forall_mem_cons, List.forall_mem_singleton]
    exact ⟨.file, .file, hobj⟩
  have hcat : (Item.directory [("bin", binItem), ("notes.txt", .file .binary 0)]).IsTree := by
    refine .directory (by decide) (by decide) ?_
    rw [List.forall_mem_cons, List.forall_mem_singleton]
    exact ⟨hbin, .file⟩
  have hlib : libItem.IsTree := .directory (by decide) (by decide) (List.forall_mem_singleton.mpr .file)
  have hhome : homeItem.IsTree := by
    refine .directory (by decide) (by decide) ?_
    rw [List.forall_mem_cons, List.forall_mem_singleton]
    exact ⟨hcat, hlib⟩
  exact ⟨.directory (by decide) (by decide) (List.forall_mem_singleton.mpr hhome), _, rfl⟩

theorem discover_binTree : binTree.IsTree ∧
    (∀ root ∈ ["bin", "notes.txt", "/home/lib", ".."], binTree.Accessible root) ∧
    (∃ bin lib above,
      binTree.discover ["bin", "notes.txt", "/home/lib", ".."] = .ok (bin ++ "notes.txt" :: lib ++ above) ∧
      "bin/A.cs" ∈ bin ∧ "/home/lib/C.cs" ∈ lib ∧ "../lib/C.cs" ∈ above) ∧
    ¬ binItem.IsSource ["obj", "B.cs"] ∧ ¬ homeItem.IsSource ["cat", "bin", "A.cs"] := by
  have hroots : ∀ root ∈ ["bin", "notes.txt", "/home/lib", ".."], binTree.Accessible root := by decide
  have hbin : binItem.IsSource ["A.cs"] := ⟨⟨.text "", 0, rfl⟩, ⟨"A", by decide, by decide⟩, by decide⟩
  have hlib : libItem.IsSource ["C.cs"] := ⟨⟨.text "", 0, rfl⟩, ⟨"C", by decide, by decide⟩, by decide⟩
  have habove : homeItem.IsSource ["lib", "C.cs"] := ⟨⟨.text "", 0, rfl⟩, ⟨"C", by decide, by decide⟩, by decide⟩
  have hobj : ¬ binItem.IsSource ["obj", "B.cs"] := fun hsource => absurd hsource.between (by decide)
  have hbuilt : ¬ homeItem.IsSource ["cat", "bin", "A.cs"] := fun hsource => absurd hsource.between (by decide)
  have hbinItem : binTree.resolve "bin" = .ok binItem := rfl
  have hnotes : binTree.resolve "notes.txt" = .ok (.file .binary 0) := rfl
  have hlibItem : binTree.resolve "/home/lib" = .ok libItem := rfl
  have hhomeItem : binTree.resolve ".." = .ok homeItem := rfl
  obtain ⟨found, hfound, hall⟩ := discover_exact binTree_isTree hroots
  refine ⟨binTree_isTree, hroots, ?_, hobj, hbuilt⟩
  simp only [List.forall₂_cons_left_iff, List.forall₂_nil_left_iff] at hall
  obtain ⟨binFiles, _, hbinFiles, ⟨single, _, hsingle, ⟨libFiles, _, hlibFiles, ⟨files, _, hfiles, rfl, rfl⟩, rfl⟩,
    rfl⟩, rfl⟩ := hall
  rw [hsingle.eq_of_file hnotes rfl] at hfound
  exact ⟨binFiles, libFiles, files, by simpa using hfound, hbinFiles.mem_of_isSource hbinItem rfl hbin,
    hlibFiles.mem_of_isSource hlibItem rfl hlib, hfiles.mem_of_isSource hhomeItem rfl habove⟩

end Snapshot
end StructuralSearch
