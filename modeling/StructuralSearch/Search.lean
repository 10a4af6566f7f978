import StructuralSearch.Concrete.Lowering
import StructuralSearch.Files.Discovery
import StructuralSearch.Report
import StructuralSearch.Walk

/-!
This module contains the search of sources and files. A file that cannot be read or searched is reported and does not
keep the others from being searched. Only a text that would have to be cut inside a character ends the whole search.
-/

namespace StructuralSearch

/-- Which matches of a file are reported. -/
inductive SearchMode where
  | all
  /-- The last match only. -/
  | innermost
  deriving DecidableEq, Repr

/-- All that a search needs to know apart from the files. -/
structure Searcher where
  query : Query
  route : Router := Registry.standard.resolve
  mode : SearchMode := .all
  /-- What a source text is parsed to. -/
  parse : String → Concrete

/-- Why a file was not searched. -/
inductive SearchFault where
  | unreadable (path : String) (fault : FileFault)
  | failed (path : String) (error : Error)
  deriving DecidableEq, Repr

def SearchFault.message : SearchFault → String
  | .unreadable path fault => "failed to read " ++ path ++ ": " ++ fault.message
  | .failed path error => "failed to search " ++ path ++ ": " ++ error.message

structure FileFailure where
  path : String
  fault : SearchFault
  deriving DecidableEq, Repr

/-- Why a search of many files has no result. -/
inductive SearchStop where
  | access (fault : AccessFault)
  /-- A text would have to be cut inside a character. -/
  | crash (error : Error)
  deriving DecidableEq, Repr

/-- The result of a search of many files. -/
structure Outcome where
  reports : List Report := []
  failures : List FileFailure := []
  filesSearched : Nat := 0
  deriving DecidableEq, Repr

namespace Outcome

/-- Two searches one after the other. -/
def append (a b : Outcome) : Outcome :=
  { reports := a.reports ++ b.reports
    failures := a.failures ++ b.failures
    filesSearched := a.filesSearched + b.filesSearched }

end Outcome

namespace Searcher

/-- The reports for an outline. To find nothing is no failure. -/
def searchOutline (s : Searcher) (t : Outline) : Except Error (List Report) :=
  match s.mode with
  | .all => do
    let walk ← Walk.run s.query s.route t
    walk.found.mapM (Report.ofCandidate t)
  | .innermost =>
    match Walk.innermost s.query s.route t with
    | .ok c => (Report.ofCandidate t c).map ([·])
    | .error .emptyAccumulator => .ok []
    | .error e => .error e

/-- The reports for a source text. -/
def searchSource (s : Searcher) (source : String) (path : Option String) : Except Error (List Report) := do
  let t ← (s.parse source).toOutline source path
  s.searchOutline t

/-- The reports for a file. -/
def searchFile (s : Searcher) (fs : Snapshot) (path : String) : Except SearchFault (List Report) := do
  let source ← (fs.readText path).mapError (.unreadable path)
  (s.searchSource source (some path)).mapError (.failed path)

/-- What a file adds to the result, unless it ends the search. -/
def fileOutcome (s : Searcher) (fs : Snapshot) (path : String) : Except Error Outcome :=
  match s.searchFile fs path with
  | .ok reports => .ok { reports, filesSearched := 1 }
  | .error (.failed _ (.cutCharacter start stop)) => .error (.cutCharacter start stop)
  | .error fault => .ok { failures := [{ path, fault }], filesSearched := 1 }

/-- Searches files in order. -/
def searchFiles (s : Searcher) (fs : Snapshot) (paths : List String) : Except Error Outcome := do
  let outcomes ← paths.mapM (s.fileOutcome fs)
  return outcomes.foldl Outcome.append {}

/-- Searches all source files that the roots stand for. -/
def searchPaths (s : Searcher) (fs : Snapshot) (roots : List String) : Except SearchStop Outcome := do
  let files ← (fs.discover roots).mapError .access
  (s.searchFiles fs files).mapError .crash

end Searcher
end StructuralSearch
