import StructuralSearch.Proofs.Concrete.Slices
import StructuralSearch.Proofs.Files.Snapshot
import StructuralSearch.Proofs.Walk.Standard
import StructuralSearch.Search

/-!
This module contains how a search of many files comes from searches of single ones. Roots are searched one after the
other, each file adds its reports or its failure, and what a file holds matters to no other file.
-/

namespace StructuralSearch

theorem Report.path_of_ofCandidate {t : Outline} {c : Candidate} {r : Report} (h : ofCandidate t c = .ok r) :
    r.path = t.path.getD "" := by
  unfold ofCandidate at h
  rw [bind_eq_ok] at h
  obtain ⟨name, _, h⟩ := h
  cases h
  rfl

namespace Searcher

variable {s : Searcher} {fs : Snapshot} {path : String} {paths : List String}

/-- The failure to search a file, if there is one. -/
def failureOf? (s : Searcher) (fs : Snapshot) (path : String) : Option FileFailure :=
  match s.searchFile fs path with
  | .ok _ => none
  | .error fault => some { path, fault }

/--
What a search relies on: nodes start and end between characters and lie in one another, which the parser promises, and
the failures of routing are faults of what was asked.
-/
structure Sound (s : Searcher) : Prop where
  parse : ∀ source, (s.parse source).Aligned source
  route : ∀ t i start stop, s.route t i ≠ .error (.cutCharacter start stop)

section Crash

variable {source : String} {t : Outline} {start stop : Nat}

theorem Sound.traverse_ne (h : s.Sound) (hcut : ∀ a e, ¬ t.IsCut a e) :
    Walk.traverse s.query s.route t ≠ .error (.cutCharacter start stop) := by
  intro hfault
  obtain ⟨i, hroute⟩ | ⟨kind, count, hcount⟩ | ⟨a, ha⟩ := Walk.cause_of_traverse hfault
  . exact h.route t i start stop hroute
  . cases hcount
  . exact hcut a _ ha

theorem ofCandidate_ne (hcut : ∀ a e, ¬ t.IsCut a e) (c : Candidate) {e : Error} :
    Report.ofCandidate t c ≠ .error e := by
  intro hfault
  obtain ⟨r, hr⟩ | ⟨e', he', _⟩ := Report.exists_ofCandidate t c
  . rw [hr] at hfault
    cases hfault
  . exact hcut _ e' he'

theorem Sound.searchOutline_ne (h : s.Sound) (hcut : ∀ a e, ¬ t.IsCut a e) :
    s.searchOutline t ≠ .error (.cutCharacter start stop) := by
  intro hfault
  unfold searchOutline at hfault
  cases hmode : s.mode with
  | all =>
    simp only [hmode, Walk.run, bind_eq_error] at hfault
    obtain (hwalk | ⟨_, _, hwalk⟩) | ⟨walk, _, hreports⟩ := hfault
    . exact h.traverse_ne hcut hwalk
    . cases hwalk
    . obtain ⟨c, _, hc⟩ := exists_of_mapM_eq_error hreports
      exact ofCandidate_ne hcut c hc
  | innermost =>
    simp only [hmode] at hfault
    split at hfault
    . next c _ => exact ofCandidate_ne hcut c (map_eq_error.mp hfault)
    . cases hfault
    . next e _ hwalk =>
      cases hfault
      rw [Walk.innermost, bind_eq_error] at hwalk
      obtain hwalk | ⟨found, _, hlast⟩ := hwalk
      . exact h.traverse_ne hcut hwalk
      . unfold Accumulator.pop at hlast
        split at hlast
        . cases hlast
        . cases hlast

/-- No source ends the search of it before its time. -/
theorem Sound.searchSource_ne (h : s.Sound) (source : String) (path : Option String) :
    s.searchSource source path ≠ .error (.cutCharacter start stop) := by
  intro hfault
  obtain ⟨t, ht⟩ := Concrete.exists_toOutline (h.parse source).isSlice path
  rw [searchSource, ht] at hfault
  exact h.searchOutline_ne (Concrete.not_isCut_of_toOutline (h.parse source) ht) hfault

end Crash

/-- What comes of files that are searched each on its own. -/
def gather (s : Searcher) (fs : Snapshot) (paths : List String) : Outcome :=
  { reports := (paths.filterMap fun path => (s.searchFile fs path).toOption).flatten
    failures := paths.filterMap (s.failureOf? fs)
    filesSearched := paths.length }

theorem gather_append (s : Searcher) (fs : Snapshot) (paths paths' : List String) :
    s.gather fs (paths ++ paths') = (s.gather fs paths).append (s.gather fs paths') := by
  simp [gather, Outcome.append]

theorem Sound.fileOutcome_eq (h : s.Sound) (fs : Snapshot) (path : String) :
    s.fileOutcome fs path = .ok (s.gather fs [path]) := by
  unfold fileOutcome gather
  rw [List.filterMap_cons, List.filterMap_cons, failureOf?]
  cases hfile : s.searchFile fs path with
  | ok reports => simp [Except.toOption]
  | error fault =>
    split
    . next heq => simp at heq
    . next heq =>
      -- The failure is one of the search of a source, and none of these is a cut.
      cases heq
      rw [searchFile, bind_eq_error, mapError_eq_error] at hfile
      obtain ⟨_, _, hread⟩ | ⟨source, _, hsearch⟩ := hfile
      . cases hread
      . rw [mapError_eq_error] at hsearch
        obtain ⟨e, hsearch, he⟩ := hsearch
        cases he
        exact absurd hsearch (h.searchSource_ne source _)
    . next heq =>
      cases heq
      rfl

theorem foldl_gather (s : Searcher) (fs : Snapshot) (paths before : List String) :
    (paths.map fun path => s.gather fs [path]).foldl Outcome.append (s.gather fs before) =
      s.gather fs (before ++ paths) := by
  induction paths generalizing before with
  | nil => simp
  | cons path paths ih =>
    rw [List.map_cons, List.foldl_cons, ← gather_append, ih, List.append_assoc, List.singleton_append]

/-- A search of files gathers what comes of each. -/
theorem Sound.searchFiles_eq (h : s.Sound) (fs : Snapshot) (paths : List String) :
    s.searchFiles fs paths = .ok (s.gather fs paths) := by
  unfold searchFiles
  rw [mapM_eq_ok fun path _ => h.fileOutcome_eq fs path]
  exact congrArg Except.ok (foldl_gather s fs paths [])

theorem path_of_searchFile {reports : List Report} (h : s.searchFile fs path = .ok reports) :
    ∀ r ∈ reports, r.path = path := by
  unfold searchFile searchSource at h
  simp only [bind_eq_ok, mapError_eq_ok] at h
  obtain ⟨source, _, t, ht, h⟩ := h
  have hpath : t.path.getD "" = path := by
    rw [Concrete.path_of_toOutline ht]
    rfl
  intro r hr
  unfold searchOutline at h
  cases hmode : s.mode with
  | all =>
    simp only [hmode, bind_eq_ok] at h
    obtain ⟨walk, _, h⟩ := h
    obtain ⟨c, _, hc⟩ := exists_of_mem_mapM h hr
    rw [Report.path_of_ofCandidate hc, hpath]
  | innermost =>
    simp only [hmode] at h
    split at h
    . rw [map_eq_ok] at h
      obtain ⟨r', hr', h⟩ := h
      subst h
      rw [List.mem_singleton] at hr
      subst hr
      rw [Report.path_of_ofCandidate hr', hpath]
    . cases h
      cases hr
    . cases h

theorem path_of_failureOf? {failure : FileFailure} (h : s.failureOf? fs path = some failure) : failure.path = path := by
  unfold failureOf? at h
  split at h
  . cases h
  . cases h
    rfl

theorem filter_reports (keep : String → Bool) (paths : List String) :
    (paths.filterMap fun path => (s.searchFile fs path).toOption).flatten.filter (fun r => keep r.path) =
      ((paths.filter keep).filterMap fun path => (s.searchFile fs path).toOption).flatten := by
  induction paths with
  | nil => rfl
  | cons path paths ih =>
    rw [List.filterMap_cons, List.filter_cons]
    cases hfile : s.searchFile fs path with
    | error fault =>
      rw [Except.toOption]
      dsimp only
      rw [ih]
      split
      . rw [List.filterMap_cons, hfile]
        rfl
      . rfl
    | ok reports =>
      have hpath := path_of_searchFile hfile
      rw [Except.toOption]
      dsimp only
      rw [List.flatten_cons, List.filter_append, ih]
      cases hkeep : keep path with
      | true =>
        have hall : reports.filter (fun r => keep r.path) = reports := by
          rw [List.filter_eq_self]
          intro r hr
          rw [hpath r hr, hkeep]
        rw [hall, if_pos rfl, List.filterMap_cons, hfile]
        rfl
      | false =>
        have hnone : reports.filter (fun r => keep r.path) = [] := by
          rw [List.filter_eq_nil_iff]
          intro r hr
          rw [hpath r hr, hkeep]
          exact Bool.false_ne_true
        rw [hnone, if_neg Bool.false_ne_true, List.nil_append]

theorem filter_failures (keep : String → Bool) (paths : List String) :
    (paths.filterMap (s.failureOf? fs)).filter (fun f => keep f.path) =
      (paths.filter keep).filterMap (s.failureOf? fs) := by
  rw [List.filter_filterMap, List.filterMap_filter]
  congr 1
  funext path
  cases hfailure : s.failureOf? fs path with
  | none => simp
  | some failure => simp [path_of_failureOf? hfailure, Option.filter]

theorem searchFile_overwrite {trail : Trail} (content : Content) (age : Int) (h : fs.leadsTo trail path = false) :
    s.searchFile (fs.overwrite trail content age) path = s.searchFile fs path := by
  unfold searchFile
  rw [Snapshot.readText_overwrite h]

/-- The reports and failures of a search of files come from the files one by one. -/
structure Gathers (s : Searcher) (fs : Snapshot) (files : List String) (outcome : Outcome) : Prop where
  reports : outcome.reports = (files.filterMap fun path => (s.searchFile fs path).toOption).flatten
  failures : outcome.failures = files.filterMap (s.failureOf? fs)
  filesSearched : outcome.filesSearched = files.length
  reportPaths : ∀ path reports, s.searchFile fs path = .ok reports → ∀ r ∈ reports, r.path = path

theorem gathers_gather (s : Searcher) (fs : Snapshot) (paths : List String) :
    s.Gathers fs paths (s.gather fs paths) :=
  ⟨rfl, rfl, rfl, fun _ _ h => path_of_searchFile h⟩

theorem Sound.searchPaths_eq (h : s.Sound) (fs : Snapshot) (roots : List String) :
    s.searchPaths fs roots = ((fs.discover roots).mapError SearchStop.access).map (s.gather fs) := by
  unfold searchPaths
  cases fs.discover roots with
  | error f => rfl
  | ok files =>
    change (s.searchFiles fs files).mapError SearchStop.crash = _
    rw [h.searchFiles_eq]
    rfl

theorem Sound.searchPaths_eq_error (h : s.Sound) {roots : List String} {stop : SearchStop} :
    s.searchPaths fs roots = .error stop ↔ ∃ f, stop = .access f ∧ fs.IsFirstFault roots f := by
  simp only [h.searchPaths_eq, map_eq_error, mapError_eq_error, Snapshot.discover_eq_error]
  constructor
  . intro hfault
    obtain ⟨f, hf, hstop⟩ := hfault
    exact ⟨f, hstop.symm, hf⟩
  . intro hfault
    obtain ⟨f, hstop, hf⟩ := hfault
    exact ⟨f, hf, hstop.symm⟩

theorem Sound.searchPaths_eq_ok (h : s.Sound) {roots : List String} {outcome : Outcome} :
    s.searchPaths fs roots = .ok outcome ↔ ∃ files, fs.discover roots = .ok files ∧ s.gather fs files = outcome := by
  rw [h.searchPaths_eq, map_eq_ok]
  simp only [mapError_eq_ok]

theorem Sound.searchPaths_append (h : s.Sound) {roots roots' : List String}
    (hroots : ∀ root ∈ roots ++ roots', fs.Accessible root) :
    ∃ a b, s.searchPaths fs roots = .ok a ∧ s.searchPaths fs roots' = .ok b ∧
      s.searchPaths fs (roots ++ roots') = .ok (a.append b) := by
  rw [List.forall_mem_append] at hroots
  obtain ⟨files, hfiles⟩ := Snapshot.exists_discover hroots.1
  obtain ⟨files', hfiles'⟩ := Snapshot.exists_discover hroots.2
  refine ⟨_, _, h.searchPaths_eq_ok.mpr ⟨files, hfiles, rfl⟩, h.searchPaths_eq_ok.mpr ⟨files', hfiles', rfl⟩, ?_⟩
  rw [← gather_append, h.searchPaths_eq_ok]
  refine ⟨files ++ files', ?_, rfl⟩
  rw [Snapshot.discover_append, hfiles, hfiles']
  rfl

/-- What two searches say about other files than the one at the end of the trail is the same, in the same order. -/
structure AgreeBeside (fs : Snapshot) (trail : Trail) (a b : Outcome) : Prop where
  reports : a.reports.filter (fun r => !fs.leadsTo trail r.path) = b.reports.filter fun r => !fs.leadsTo trail r.path
  failures : a.failures.filter (fun f => !fs.leadsTo trail f.path) =
    b.failures.filter fun f => !fs.leadsTo trail f.path
  filesSearched : a.filesSearched = b.filesSearched

theorem gather_overwrite (s : Searcher) (fs : Snapshot) (trail : Trail) (content : Content) (age : Int)
    (files : List String) :
    AgreeBeside fs trail (s.gather (fs.overwrite trail content age) files) (s.gather fs files) := by
  have hbeside : ∀ path ∈ files.filter (fun path => !fs.leadsTo trail path),
      s.searchFile (fs.overwrite trail content age) path = s.searchFile fs path := by
    intro path hpath
    exact searchFile_overwrite content age (by simpa using (List.mem_filter.mp hpath).2)
  unfold gather
  refine ⟨?_, ?_, rfl⟩
  . rw [filter_reports (!fs.leadsTo trail ·), filter_reports (!fs.leadsTo trail ·)]
    congr 1
    refine List.filterMap_congr ?_
    intro path hpath
    rw [hbeside path hpath]
  . rw [filter_failures (!fs.leadsTo trail ·), filter_failures (!fs.leadsTo trail ·)]
    refine List.filterMap_congr ?_
    intro path hpath
    unfold failureOf?
    rw [hbeside path hpath]

/--
A search fails for a root that cannot be accessed, with the fault of the first. Otherwise it is the search of the roots
one after the other, and of the files that they stand for one after the other; other contents in one file show in what
is said about that file only.
-/
theorem searchPaths_isolates {s : Searcher} (h : s.Sound) (fs : Snapshot) (roots roots' : List String) :
    ((∃ stop, s.searchPaths fs (roots ++ roots') = .error stop) ↔ ∃ root ∈ roots ++ roots', ¬ fs.Accessible root) ∧
      (∀ stop, s.searchPaths fs (roots ++ roots') = .error stop ↔
        ∃ f, stop = .access f ∧ fs.IsFirstFault (roots ++ roots') f) ∧
      ((∀ root ∈ roots ++ roots', fs.Accessible root) → ∃ a b, s.searchPaths fs roots = .ok a ∧
        s.searchPaths fs roots' = .ok b ∧ s.searchPaths fs (roots ++ roots') = .ok (a.append b)) ∧
      (∀ outcome, s.searchPaths fs roots = .ok outcome →
        ∃ files, fs.discover roots = .ok files ∧ s.Gathers fs files outcome) ∧
      ∀ trail content age outcome, s.searchPaths fs roots = .ok outcome →
        ∃ outcome', s.searchPaths (fs.overwrite trail content age) roots = .ok outcome' ∧
          AgreeBeside fs trail outcome' outcome := by
  refine ⟨?_, fun stop => h.searchPaths_eq_error, h.searchPaths_append, ?_, ?_⟩
  . rw [← Snapshot.exists_isFirstFault]
    simp only [h.searchPaths_eq_error]
    constructor
    . intro hfault
      obtain ⟨_, f, _, hf⟩ := hfault
      exact ⟨f, hf⟩
    . intro hfault
      obtain ⟨f, hf⟩ := hfault
      exact ⟨_, f, rfl, hf⟩
  . intro outcome houtcome
    obtain ⟨files, hfiles, heq⟩ := h.searchPaths_eq_ok.mp houtcome
    subst heq
    exact ⟨files, hfiles, gathers_gather s fs files⟩
  . intro trail content age outcome houtcome
    obtain ⟨files, hfiles, heq⟩ := h.searchPaths_eq_ok.mp houtcome
    subst heq
    rw [← Snapshot.discover_overwrite fs trail content age] at hfiles
    exact ⟨_, h.searchPaths_eq_ok.mpr ⟨files, hfiles, rfl⟩, gather_overwrite s fs trail content age files⟩

/-- Two files in the working directory, one of which holds no text. -/
def twoFiles : Snapshot :=
  { root := .directory [("tmp", .directory [("A.cs", .file (.text "") 0), ("B.cs", .file .binary 0)])]
    working := ["tmp"] }

/-- Finds all that is in sources that are taken to be empty. -/
def ofEmptySources : Searcher :=
  { query := {}, parse := fun _ => Concrete.onLine "compilation_unit" 0 0 [] none true }

theorem ofEmptySources_sound : ofEmptySources.Sound := by
  constructor
  . intro source
    have hsubtrees : (ofEmptySources.parse source).subtrees = [ofEmptySources.parse source] := rfl
    have hpositions : (ofEmptySources.parse source).positions = [.ofByte [] 0, .ofByte [] 0] := rfl
    refine ⟨?_, ?_, ?_, ?_⟩
    . intro p hp
      rw [hpositions] at hp
      have hzero : p.byte = 0 := by
        simp only [List.mem_cons, List.not_mem_nil, or_false, or_self] at hp
        rw [hp]
        rfl
      rw [hzero]
      exact ⟨[], source.toList, rfl, rfl⟩
    . rw [hsubtrees, List.forall_mem_singleton]
      exact Nat.le_refl _
    . rw [hsubtrees, List.forall_mem_singleton]
      intro c hc
      cases hc
    . rw [hsubtrees, List.forall_mem_singleton]
      intro x hx
      cases hx
  . intro t i start stop hfault
    obtain ⟨routed, hroute, _⟩ := Registry.exists_standardRouting t i
    change Registry.standard.resolve t i = _ at hfault
    rw [hroute] at hfault
    cases hfault

/-- Both files are searched. When the first holds no text either, the second is spoken of as before. -/
theorem searchPaths_twoFiles : ofEmptySources.Sound ∧
    (∀ root ∈ ["A.cs"] ++ ["/tmp/B.cs"], twoFiles.Accessible root) ∧
    ∃ a b c, ofEmptySources.searchPaths twoFiles ["A.cs"] = .ok a ∧
      ofEmptySources.searchPaths twoFiles ["/tmp/B.cs"] = .ok b ∧
      ofEmptySources.searchPaths twoFiles (["A.cs"] ++ ["/tmp/B.cs"]) = .ok (a.append b) ∧
      ofEmptySources.searchPaths (twoFiles.overwrite ["tmp", "A.cs"] .binary 1) (["A.cs"] ++ ["/tmp/B.cs"]) = .ok c ∧
      AgreeBeside twoFiles ["tmp", "A.cs"] c (a.append b) ∧
      twoFiles.leadsTo ["tmp", "A.cs"] "A.cs" = true ∧ twoFiles.leadsTo ["tmp", "A.cs"] "/tmp/B.cs" = false ∧
      b.failures.map (·.path) = ["/tmp/B.cs"] ∧ c.failures.map (·.path) = ["A.cs", "/tmp/B.cs"] := by
  have hroots : ∀ root ∈ ["A.cs"] ++ ["/tmp/B.cs"], twoFiles.Accessible root := by decide
  obtain ⟨_, _, happend, _, _⟩ := searchPaths_isolates ofEmptySources_sound twoFiles ["A.cs"] ["/tmp/B.cs"]
  obtain ⟨a, b, ha, hb, hab⟩ := happend hroots
  obtain ⟨_, _, _, _, hoverwrite⟩ := searchPaths_isolates ofEmptySources_sound twoFiles (["A.cs"] ++ ["/tmp/B.cs"]) []
  obtain ⟨c, hc, hagree⟩ := hoverwrite ["tmp", "A.cs"] .binary 1 _ hab
  have hsecond : (ofEmptySources.searchPaths twoFiles ["/tmp/B.cs"]).toOption.map (·.failures.map (·.path)) =
      some ["/tmp/B.cs"] := by
    decide +kernel
  have hboth : (ofEmptySources.searchPaths (twoFiles.overwrite ["tmp", "A.cs"] .binary 1)
      (["A.cs"] ++ ["/tmp/B.cs"])).toOption.map (·.failures.map (·.path)) = some ["A.cs", "/tmp/B.cs"] := by
    decide +kernel
  rw [hb] at hsecond
  rw [hc] at hboth
  exact ⟨ofEmptySources_sound, hroots, a, b, c, ha, hb, hab, hc, hagree, by decide, by decide, Option.some.inj hsecond,
    Option.some.inj hboth⟩

end Searcher
end StructuralSearch
