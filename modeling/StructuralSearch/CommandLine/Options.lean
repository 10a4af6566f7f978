import StructuralSearch.Query.Descriptor
import StructuralSearch.Text.Natural

/-!
This module contains the options of the command line and their reading from its arguments.
-/

namespace StructuralSearch
namespace CommandLine

inductive OutputFormat where
  | text
  | json
  deriving DecidableEq, Repr

namespace OutputFormat

def title : OutputFormat → String
  | .text => "Text"
  | .json => "Json"

def ofName? : String → Option OutputFormat
  | "text" => some .text
  | "json" => some .json
  | _ => none

end OutputFormat

/-- Why arguments were refused, or what is shown in their stead. -/
inductive Usage where
  | unknownArgument
  | invalidValue
  | valueValidation
  | argumentConflict
  | tooManyValues
  | displayHelp
  | displayVersion
  deriving DecidableEq, Repr

def Usage.name : Usage → String
  | .unknownArgument => "UnknownArgument"
  | .invalidValue => "InvalidValue"
  | .valueValidation => "ValueValidation"
  | .argumentConflict => "ArgumentConflict"
  | .tooManyValues => "TooManyValues"
  | .displayHelp => "DisplayHelp"
  | .displayVersion => "DisplayVersion"

/-- An option with a value. -/
inductive Key where
  | target
  | access
  | scope
  | scopeName
  | name
  | exclude
  | path
  | location
  | queryFile
  | format
  | threads
  | logLevel
  deriving DecidableEq, Repr

/-- An option without a value. -/
inductive Switch where
  | regex
  | count
  | noColor
  | logToFile
  deriving DecidableEq, Repr

/-- What an argument that starts with a dash can stand for. -/
inductive Parameter where
  | key (k : Key)
  | switch (s : Switch)
  | help
  | version
  deriving DecidableEq, Repr

namespace Parameter

def ofLong? : String → Option Parameter
  | "target" => some (.key .target)
  | "access" => some (.key .access)
  | "scope" => some (.key .scope)
  | "scope-name" => some (.key .scopeName)
  | "name" => some (.key .name)
  | "exclude" => some (.key .exclude)
  | "path" => some (.key .path)
  | "at" => some (.key .location)
  | "query-file" => some (.key .queryFile)
  | "format" => some (.key .format)
  | "threads" => some (.key .threads)
  | "log-level" => some (.key .logLevel)
  | "regex" => some (.switch .regex)
  | "count" => some (.switch .count)
  | "no-color" => some (.switch .noColor)
  | "log-to-file" => some (.switch .logToFile)
  | "help" => some .help
  | "version" => some .version
  | _ => none

def ofShort? : Char → Option Parameter
  | 't' => some (.key .target)
  | 'a' => some (.key .access)
  | 's' => some (.key .scope)
  | 'n' => some (.key .name)
  | 'x' => some (.key .exclude)
  | 'p' => some (.key .path)
  | 'q' => some (.key .queryFile)
  | 'f' => some (.key .format)
  | 'j' => some (.key .threads)
  | 'r' => some (.switch .regex)
  | 'c' => some (.switch .count)
  | 'h' => some .help
  | 'V' => some .version
  | _ => none

end Parameter

/-- The options as they were given. -/
structure Options where
  paths : List String := []
  target : Option TargetKind := none
  access : Option AccessLevel := none
  scope : Option ScopeKind := none
  scopeName : Option String := none
  names : List String := []
  excludes : List String := []
  pathFilters : List String := []
  location : Option String := none
  queryFile : Option String := none
  format : Option OutputFormat := none
  threads : Option Nat := none
  logLevel : Option String := none
  regex : Bool := false
  count : Bool := false
  noColor : Bool := false
  logToFile : Bool := false
  deriving DecidableEq, Repr

namespace Options

/-- Where to search if nothing is said about it. -/
def roots (o : Options) : List String :=
  if o.paths.isEmpty then ["."] else o.paths

def outputFormat (o : Options) : OutputFormat :=
  o.format.getD .text

/-- Gives an option its only value. A second one is a conflict, whatever it is. -/
def once {α : Type} (old : Option α) (value : Except Usage α) (set : α → Options) : Except Usage Options :=
  if old.isSome then .error .argumentConflict else value.map set

def choice (α : Type) [Choice α] (value : String) : Except Usage α :=
  (Choice.parse α value).mapError fun _ => .valueValidation

/-- The path of a file cannot be empty. -/
def filePath (value : String) : Except Usage String :=
  if value = "" then .error .invalidValue else .ok value

def setValue (o : Options) (value : String) : Key → Except Usage Options
  | .target => once o.target (choice TargetKind value) fun v => { o with target := some v }
  | .access => once o.access (choice AccessLevel value) fun v => { o with access := some v }
  | .scope => once o.scope (choice ScopeKind value) fun v => { o with scope := some v }
  | .scopeName => once o.scopeName (.ok value) fun v => { o with scopeName := some v }
  | .name => .ok { o with names := o.names ++ [value] }
  | .exclude => .ok { o with excludes := o.excludes ++ [value] }
  | .path => .ok { o with pathFilters := o.pathFilters ++ [value] }
  | .location => once o.location (.ok value) fun v => { o with location := some v }
  | .queryFile => once o.queryFile (filePath value) fun v => { o with queryFile := some v }
  | .format =>
    once o.format ((OutputFormat.ofName? value).elim (.error .invalidValue) .ok) fun v =>
      { o with format := some v }
  | .threads =>
    once o.threads ((Text.readNatural value.toList).mapError fun _ => .valueValidation) fun v =>
      { o with threads := some v }
  | .logLevel => once o.logLevel (.ok value) fun v => { o with logLevel := some v }

/-- Sets a switch that has not been set. -/
def setSwitch (o : Options) : Switch → Except Usage Options
  | .regex => if o.regex then .error .argumentConflict else .ok { o with regex := true }
  | .count => if o.count then .error .argumentConflict else .ok { o with count := true }
  | .noColor => if o.noColor then .error .argumentConflict else .ok { o with noColor := true }
  | .logToFile => if o.logToFile then .error .argumentConflict else .ok { o with logToFile := true }

def addPaths (o : Options) (paths : List String) : Except Usage Options := do
  let paths ← paths.mapM filePath
  return { o with paths := o.paths ++ paths }

/-- Whether something describes a query, which a location excludes. -/
def describesQuery (o : Options) : Bool :=
  o.target.isSome || o.access.isSome || o.scope.isSome || o.scopeName.isSome || !o.names.isEmpty
    || !o.excludes.isEmpty || !o.pathFilters.isEmpty || o.regex || o.queryFile.isSome

end Options

/-- Arguments that have been met but not yet taken account of. -/
inductive Pending where
  | nothing
  /-- An option, with its value once that has been met. -/
  | option (k : Key) (value : Option String)
  | paths (values : List String)
  deriving DecidableEq, Repr

/-- The reading of arguments from the left. -/
structure Scan where
  options : Options := {}
  pending : Pending := .nothing
  /-- Two dashes have been met: all that follows are paths. -/
  onlyPaths : Bool := false
  deriving DecidableEq, Repr

namespace Scan

/-- Takes account of what is pending. An option without a value is refused. -/
def settle (s : Scan) : Except Usage Scan :=
  match s.pending with
  | .nothing => .ok s
  | .option _ none => .error .invalidValue
  | .option k (some value) => (s.options.setValue value k).map fun o => { s with options := o, pending := .nothing }
  | .paths values => (s.options.addPaths values).map fun o => { s with options := o, pending := .nothing }

/-- An option whose value is still to come, or stands in the same argument. -/
def option (s : Scan) (k : Key) (attached : Option String) : Except Usage Scan := do
  let s ← s.settle
  match attached with
  | none => return { s with pending := .option k none }
  | some value => return { s with options := ← s.options.setValue value k }

/-- Anything that takes no value. -/
def plain (s : Scan) (p : Parameter) : Except Usage Scan := do
  let s ← s.settle
  match p with
  | .switch w => return { s with options := ← s.options.setSwitch w }
  | .help => throw .displayHelp
  | .version => throw .displayVersion
  | .key k => return { s with pending := .option k none }

/-- An argument after two dashes: a name, and a value after an equals sign. -/
def long (s : Scan) (cs : List Char) : Except Usage Scan :=
  let name := String.ofList (cs.takeWhile (· != '='))
  let attached :=
    match cs.dropWhile (· != '=') with
    | [] => none
    | _ :: value => some (String.ofList value)
  match Parameter.ofLong? name with
  | none => .error .unknownArgument
  | some (.key k) => s.option k attached
  | some p => if attached.isSome then .error .tooManyValues else s.plain p

/-- Letters after a dash. What follows the letter of an option with a value is the value. -/
def short (s : Scan) : List Char → Except Usage Scan
  | [] => .ok s
  | c :: cs =>
    match Parameter.ofShort? c with
    | none => .error .unknownArgument
    | some (.key k) =>
      match cs with
      | [] => s.option k none
      | '=' :: value => s.option k (some (String.ofList value))
      | value => s.option k (some (String.ofList value))
    | some p => do
      let s ← s.plain p
      s.short cs

/-- A value of the option before it, or a path. -/
def value (s : Scan) (arg : String) : Except Usage Scan :=
  match s.pending with
  | .option k none => if s.onlyPaths then .error .invalidValue else .ok { s with pending := .option k (some arg) }
  | .paths values => .ok { s with pending := .paths (values ++ [arg]) }
  | _ => do
    let s ← s.settle
    return { s with pending := .paths [arg] }

def argument (s : Scan) (arg : String) : Except Usage Scan :=
  if s.onlyPaths then
    s.value arg
  else
    match arg.toList with
    | ['-', '-'] => .ok { s with onlyPaths := true }
    | '-' :: '-' :: cs => s.long cs
    | '-' :: c :: cs => s.short (c :: cs)
    | _ => s.value arg

end Scan

/-- The options that the arguments give. Only once all are read it is seen whether they go together. -/
def Options.parse (args : List String) : Except Usage Options := do
  let s ← args.foldlM Scan.argument {}
  let s ← s.settle
  if s.options.location.isSome && s.options.describesQuery then
    throw .argumentConflict
  else
    return s.options

end CommandLine
end StructuralSearch
