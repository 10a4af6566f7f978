import StructuralSearch.Path

/-!
This module contains snapshots of a file system with a working directory, and the lookup of paths in them.
-/

namespace StructuralSearch

/-- The contents of a file: a text, or bytes that are none. -/
inductive Content where
  | text (s : String)
  | binary
  deriving DecidableEq, Repr

/-- What a name in a directory stands for. -/
inductive Item where
  | file (content : Content) (age : Int)
  | directory (entries : List (String × Item))
  /-- A symbolic link to a path that is looked up from the directory of the link. -/
  | link (target : String)
  deriving Repr, Inhabited

/-- The names that lead from a directory to something below it. -/
abbrev Trail := List String

namespace Item

def isFile : Item → Bool
  | .file .. => true
  | .directory _ | .link _ => false

def isDirectory : Item → Bool
  | .directory _ => true
  | .file .. | .link _ => false

/-- What is in a directory. -/
def entries : Item → List (String × Item)
  | .directory entries => entries
  | .file .. | .link _ => []

/-- What is at the end of a trail. Links are not followed. -/
def at? (item : Item) : Trail → Option Item
  | [] => some item
  | name :: names => (item.entries.lookup name).bind (·.at? names)

/-- Changes what is at the end of a trail, if there is anything. -/
def modify (f : Item → Item) (item : Item) : Trail → Item
  | [] => f item
  | name :: names =>
    match item with
    | .directory entries =>
      .directory (entries.map fun entry => (entry.1, if entry.1 = name then entry.2.modify f names else entry.2))
    | .file .. | .link _ => item

/-- Puts something into a directory, in place of what has the same name. -/
def insert (item : Item) (name : String) (new : Item) : Item :=
  match item with
  | .directory entries => .directory (entries.filter (·.1 != name) ++ [(name, new)])
  | .file .. | .link _ => item

end Item

/-- Why a path could not be used. -/
inductive FileFault where
  | notFound
  | notDirectory
  | isDirectory
  | nameTooLong
  | tooManyLinks
  | zeroByte
  | notText
  deriving DecidableEq, Repr

def FileFault.message : FileFault → String
  | .notFound => "No such file or directory (os error 2)"
  | .notDirectory => "Not a directory (os error 20)"
  | .isDirectory => "Is a directory (os error 21)"
  | .nameTooLong => "File name too long (os error 36)"
  | .tooManyLinks => "Too many levels of symbolic links (os error 40)"
  | .zeroByte => "file name contained an unexpected NUL byte"
  | .notText => "stream did not contain valid UTF-8"

/-- The text of a file. -/
def Item.text : Item → Except FileFault String
  | .file (.text s) _ => .ok s
  | .file .binary _ => .error .notText
  | .directory _ => .error .isDirectory
  | .link _ => .error .tooManyLinks

/-- A file system and the directory that a program works in. -/
structure Snapshot where
  /-- What the slash at the start of a path stands for. -/
  root : Item := .directory []
  /-- Where the other paths start. -/
  working : Trail := []
  deriving Repr

namespace Snapshot

/-- A working directory with nothing in it. -/
def empty : Snapshot :=
  { root := .directory [("workspace", .directory [])], working := ["workspace"] }

/-- What is at the end of a trail from the root. -/
def item? (fs : Snapshot) (trail : Trail) : Option Item :=
  fs.root.at? trail

/-- Changes what is at the end of a trail, if there is anything. -/
def modify (fs : Snapshot) (trail : Trail) (f : Item → Item) : Snapshot :=
  { fs with root := fs.root.modify f trail }

/-- Puts something into a directory, in place of what has the same name. -/
def put (fs : Snapshot) (directory : Trail) (name : String) (item : Item) : Snapshot :=
  fs.modify directory (·.insert name item)

/-- How many links a path may lead through. -/
def linkLimit : Nat := 40

/-- How many bytes a name may have. -/
def nameLimit : Nat := 255

/-- How many bytes a path may have. -/
def pathLimit : Nat := 4095

/--
Follows names from a directory. There is nothing above the root. A name that is no directory has to be last, except for
a link: `jump` says where it leads, given the directory that it is in, its target and the names after it.
-/
def followNames (fs : Snapshot) (jump : Trail → String → List String → Except FileFault Trail) (place : Trail) :
    List String → Except FileFault Trail
  | [] => .ok place
  | name :: names =>
    if name = "" ∨ name = "." then
      fs.followNames jump place names
    else if name = ".." then
      fs.followNames jump place.dropLast names
    else if nameLimit < name.utf8ByteSize then
      .error .nameTooLong
    else
      match fs.item? (place ++ [name]) with
      | none => .error .notFound
      | some (.directory _) => fs.followNames jump (place ++ [name]) names
      | some (.file ..) => if names = [] then .ok (place ++ [name]) else .error .notDirectory
      | some (.link target) => jump place target names

/-- Follows names from a directory and through as many links as are allowed. -/
def follow (fs : Snapshot) : Nat → Trail → List String → Except FileFault Trail
  | 0 => fs.followNames fun _ _ _ => .error .tooManyLinks
  | links + 1 => fs.followNames fun place target names =>
    fs.follow links (if Path.isAbsolute target then [] else place) (Path.pieces target ++ names)

/-- Adds an item to the working directory and the directories that lead to it. Links on the way are followed. -/
def add (fs : Snapshot) (path : String) (item : Item) : Snapshot :=
  go fs fs.working ((Path.pieces path).filter fun p => p != "" && p != ".")
where
  go (fs : Snapshot) (place : Trail) : List String → Snapshot
    | [] => fs
    | [name] =>
      if item.isDirectory && (fs.item? (place ++ [name])).isSome then fs else fs.put place name item
    | name :: names =>
      match fs.item? (place ++ [name]) with
      | none => go (fs.put place name (.directory [])) (place ++ [name]) names
      | some _ =>
        match fs.follow linkLimit place [name] with
        | .ok found => go fs found names
        | .error _ => fs

/-- Where a path leads. -/
def locate (fs : Snapshot) (path : String) : Except FileFault Trail :=
  if path = "" then
    .error .notFound
  else if path.toList.contains '\x00' then
    .error .zeroByte
  else if pathLimit < path.utf8ByteSize then
    .error .nameTooLong
  else
    fs.follow linkLimit (if Path.isAbsolute path then [] else fs.working) (Path.pieces path)

/-- What a path leads to. -/
def resolve (fs : Snapshot) (path : String) : Except FileFault Item := do
  let trail ← fs.locate path
  match fs.item? trail with
  | some item => return item
  | none => throw .notFound

/-- The text of the file that a path leads to. -/
def readText (fs : Snapshot) (path : String) : Except FileFault String := do
  let item ← fs.resolve path
  item.text

/-- The names in a directory. -/
def names (fs : Snapshot) (directory : Trail) : List String :=
  (fs.item? directory).toList.flatMap fun item => item.entries.map (·.1)

end Snapshot
end StructuralSearch
