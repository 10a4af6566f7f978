import StructuralSearch.CommandLine.Options
import StructuralSearch.Location
import StructuralSearch.Query.Reader
import StructuralSearch.Search

/-!
This module contains what the program does with its options.
-/

namespace StructuralSearch
namespace CommandLine

/-- Why the program gave up. -/
inductive Failure where
  | location (fault : Location.Fault)
  /-- A file could not be used for the stated purpose. -/
  | file (context : String) (fault : FileFault)
  | queryFile (context : String) (fault : Descriptor.Fault)
  | query (error : Error)
  /-- The search came to an end before its time. -/
  | crash (error : Error)
  deriving DecidableEq, Repr

def Failure.message : Failure → String
  | .location fault => fault.message
  | .file context fault => context ++ ": " ++ fault.message
  | .queryFile context fault => context ++ ": " ++ (Descriptor.faultMessage? fault).getD "the text is no JSON"
  | .query error => error.message
  | .crash error => error.message

def Failure.ofStop : SearchStop → Failure
  | .access e => .file ("cannot access " ++ e.path) e.fault
  | .crash error => .crash error

/-- What the program prints. -/
structure Output where
  stdout : List String
  stderr : List String
  /-- Whether there was a match. -/
  found : Bool
  deriving DecidableEq, Repr

namespace Options

/-- The descriptor in the query file, if there is one. -/
def baseDescriptor (o : Options) (fs : Snapshot) : Except Failure Descriptor :=
  match o.queryFile with
  | none => .ok {}
  | some path => do
    let text ← (fs.readText path).mapError (.file ("failed to read query file " ++ path))
    (Descriptor.ofJson text).mapError (.queryFile ("invalid query file " ++ path))

/-- Options replace the choices of a descriptor and add to its patterns. -/
def refine (o : Options) (d : Descriptor) : Descriptor :=
  { target := o.target.getD d.target
    access := o.access.getD d.access
    scope := o.scope.getD d.scope
    nameContains := d.nameContains ++ o.names
    nameExcludes := d.nameExcludes ++ o.excludes
    scopeName := o.scopeName.orElse fun _ => d.scopeName
    pathContains := d.pathContains ++ o.pathFilters
    regex := d.regex || o.regex }

def descriptor (o : Options) (fs : Snapshot) : Except Failure Descriptor :=
  (o.baseDescriptor fs).map o.refine

/-- What is searched for, and where. -/
def plan (o : Options) (fs : Snapshot) : Except Failure (Query × SearchMode × List String) :=
  match o.location with
  | some text => do
    let location ← (Location.parse text).mapError .location
    let source ← (fs.readText location.file).mapError (.file ("failed to read " ++ location.file))
    let column := Location.byteColumn source location.row location.column
    let span := TextSpan.point (some location.file) (Position.ofRowColumn location.row column)
    return (Query.atSpan span, .innermost, [location.file])
  | none => do
    let d ← o.descriptor fs
    let q ← d.compile.mapError .query
    return (q, .all, o.roots)

/-- The lines for a result: the number of matches, or one for each of them. -/
def printed (o : Options) (outcome : Outcome) : List String :=
  if o.count then
    [toString outcome.reports.length]
  else
    match o.outputFormat with
    | .text => outcome.reports.map Report.render
    | .json => outcome.reports.map Report.renderJson

end Options

/-- The line for a file that was not searched. -/
def failureLine (f : FileFailure) : String :=
  "sharpgrep: " ++ f.path ++ ": " ++ f.fault.message

/-- Runs a search in a working directory. -/
def run (o : Options) (fs : Snapshot) (parse : String → Concrete) : Except Failure Output := do
  let (query, mode, roots) ← o.plan fs
  let searcher : Searcher := { query, mode, parse }
  let outcome ← (searcher.searchPaths fs roots).mapError Failure.ofStop
  return {
    stdout := o.printed outcome
    stderr := outcome.failures.map failureLine
    found := !outcome.reports.isEmpty }

end CommandLine
end StructuralSearch
