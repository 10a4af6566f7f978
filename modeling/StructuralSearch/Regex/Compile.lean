import StructuralSearch.Regex.Expr
import StructuralSearch.Regex.Reader
import StructuralSearch.Unicode.Folding
import StructuralSearch.Unicode.Script

/-!
This module contains the meaning of written regular expressions. An expression that could match part of a character,
that names an unknown property, or that is too large has none.
-/

namespace StructuralSearch
namespace Regex

/-- The flags in force. -/
structure Settings where
  caseInsensitive : Bool := false
  multiLine : Bool := false
  dotMatchesLineFeed : Bool := false
  unicode : Bool := true
  crlf : Bool := false

namespace Settings

def apply (s : Settings) : Flag × Bool → Settings
  | (.caseInsensitive, on) => { s with caseInsensitive := on }
  | (.multiLine, on) => { s with multiLine := on }
  | (.dotMatchesLineFeed, on) => { s with dotMatchesLineFeed := on }
  | (.unicode, on) => { s with unicode := on }
  | (.crlf, on) => { s with crlf := on }
  | (.swapGreed, _) | (.verbose, _) => s

def change (s : Settings) (changes : FlagChanges) : Settings :=
  changes.foldl apply s

/-- The characters that count as the same one. -/
def variants (s : Settings) (c : Char) : List Char :=
  if !s.caseInsensitive then
    [c]
  else if s.unicode then
    Unicode.caseVariants c
  else
    Unicode.asciiCaseVariants c

/-- A class with all variants of its members. -/
def fold (s : Settings) (k : CharClass) : CharClass :=
  if s.caseInsensitive then k.closure s.variants else k

/-- Without Unicode a complement would hold bytes that are no characters. -/
def negate (s : Settings) (negated : Bool) (k : CharClass) : Option CharClass :=
  if !negated then
    some k
  else if s.unicode then
    some k.complement
  else
    none

/-- The character of a literal. Without Unicode a byte beyond ASCII is none. -/
def char? (s : Settings) (l : Literal) : Option Char :=
  if !s.unicode && l.isByte && 0x7F < l.char.toNat then none else some l.char

/-- The character of a literal in a class. Without Unicode it has to be ASCII. -/
def classChar? (s : Settings) (l : Literal) : Option Char :=
  if !s.unicode && 0x7F < l.char.toNat then none else some l.char

def shorthand (s : Settings) : Shorthand → CharClass
  | .digit =>
    if s.unicode then
      { contains := Unicode.Category.decimalNumber.contains, pieces := 71 }
    else
      { contains := AsciiClass.digit.contains, pieces := 1 }
  | .space =>
    if s.unicode then
      { contains := Text.isWhiteSpace, pieces := 10 }
    else
      { contains := AsciiClass.space.contains, pieces := 2 }
  | .word =>
    if s.unicode then
      { contains := Unicode.isWord, pieces := 796 }
    else
      { contains := AsciiClass.word.contains, pieces := 4 }

def isWord (s : Settings) : Char → Bool :=
  if s.unicode then Unicode.isWord else AsciiClass.word.contains

end Settings

/--
Names of properties are compared without regard to case, blanks, dashes and underscores, and without a leading `is`,
unless that leaves no more than a `c`.
-/
def normalName (name : String) : String :=
  let visible := fun (cs : List Char) =>
    (cs.filter fun c => c.toNat < 0x80 && c != ' ' && c != '_' && c != '-').map Char.toLower
  match name.toList with
  | 'i' :: 's' :: cs | 'i' :: 'S' :: cs | 'I' :: 's' :: cs | 'I' :: 'S' :: cs =>
    if visible cs = ['c'] then "isc" else String.ofList (visible cs)
  | cs => String.ofList (visible cs)

/-- The characters with a property. Some short names are those of categories and of properties; the categories win. -/
def PropertyName.meaning? : PropertyName → Option (Char → Bool)
  | .plain name =>
    let name := normalName name
    let property :=
      if name = "cf" ∨ name = "sc" ∨ name = "lc" then none else Unicode.Property.named? name
    property.orElse fun _ => (Unicode.Category.named? name).orElse fun _ =>
      (Unicode.Script.named? name).map Unicode.Script.contains
  | .value name v =>
    match normalName name with
    | "generalcategory" | "gc" => Unicode.Category.named? (normalName v)
    | "script" | "sc" => (Unicode.Script.named? (normalName v)).map Unicode.Script.contains
    | "scriptextensions" | "scx" => (Unicode.Script.named? (normalName v)).map Unicode.Script.uses
    | _ => none

def SetOperation.apply : SetOperation → CharClass → CharClass → CharClass
  | .inter => CharClass.inter
  | .difference => CharClass.difference
  | .symmetricDifference => CharClass.symmetricDifference

namespace ClassTerm

mutual

def compile (s : Settings) : ClassTerm → Option CharClass
  | .empty => some .empty
  | .single l => (s.classChar? l).map .single
  | .range first last => do
    return .range (← s.classChar? first) (← s.classChar? last)
  | .ascii k negated => s.negate negated (s.fold { contains := k.contains, pieces := 4 })
  | .shorthand k negated => s.negate negated (s.shorthand k)
  | .property p negated => do
    guard s.unicode
    let contains ← p.meaning?
    s.negate negated (s.fold { contains, pieces := 300 })
  | .bracket negated inner => do
    s.negate negated (s.fold (← inner.compile s))
  | .union items => compileAll s items
  | .combine op left right => do
    return op.apply (s.fold (← left.compile s)) (s.fold (← right.compile s))

def compileAll (s : Settings) : List ClassTerm → Option CharClass
  | [] => some .empty
  | k :: ks => do
    return (← k.compile s).union (← compileAll s ks)

end

end ClassTerm

def Assertion.look (s : Settings) : Assertion → Look
  | .lineStart =>
    if !s.multiLine then .textStart else if s.crlf then .anyLineStart else .lineStart
  | .lineEnd =>
    if !s.multiLine then .textEnd else if s.crlf then .anyLineEnd else .lineEnd
  | .textStart => .textStart
  | .textEnd => .textEnd
  | .boundary => .word .boundary s.isWord
  | .noBoundary => .word .noBoundary s.isWord
  | .wordStart => .word .start s.isWord
  | .wordEnd => .word .stop s.isWord
  | .wordStartHalf => .word .startHalf s.isWord
  | .wordEndHalf => .word .stopHalf s.isWord

namespace Surface

mutual

/-- The meaning under given settings, and the settings for what follows in the same group. -/
def compile (s : Settings) : Surface → Option (Expr × Settings)
  | .empty => some (.empty, s)
  | .flags changes => some (.empty, s.change changes)
  | .literal l => do
    return (.oneOf (.ofList (s.variants (← s.char? l))), s)
  | .dot => do
    guard s.unicode
    let stops := if s.dotMatchesLineFeed then [] else if s.crlf then ['\r', '\n'] else ['\n']
    return (.oneOf { contains := fun c => !stops.contains c, pieces := 10 }, s)
  | .assertion a => some (.look (a.look s), s)
  | .charClass k => do
    return (.oneOf (← k.compile s), s)
  | .repeated body min max => do
    let (body, s) ← body.compile s
    return (.times body min max, s)
  | .group changes body => do
    let (body, _) ← body.compile (s.change changes)
    return (body, s)
  | .alternation branches => compileBranches s branches
  | .concat items => compileItems s items

def compileItems (s : Settings) : List Surface → Option (Expr × Settings)
  | [] => some (.empty, s)
  | e :: es => do
    let (first, s) ← e.compile s
    let (second, s) ← compileItems s es
    return (.seq first second, s)

def compileBranches (s : Settings) : List Surface → Option (Expr × Settings)
  | [] => some (.empty, s)
  | [e] => e.compile s
  | e :: es => do
    let (first, s) ← e.compile s
    let (second, s) ← compileBranches s es
    return (.alt first second, s)

end

end Surface

/-- How many bytes an automaton may take. -/
def weightLimit : Nat := 0xA00000

/-- The regular expression that a pattern is written for, if it is one. -/
def compile? (pattern : String) : Option Expr := do
  let surface ← Surface.ofString? pattern
  let (e, _) ← surface.compile {}
  guard (e.weight ≤ weightLimit)
  return e

end Regex
end StructuralSearch
