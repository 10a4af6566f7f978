/-!
This module contains regular expressions as they are written, before flags and names of character classes are given
their meaning.
-/

namespace StructuralSearch
namespace Regex

/-- A setting that a group or the rest of one can change. -/
inductive Flag where
  | caseInsensitive
  | multiLine
  | dotMatchesLineFeed
  | swapGreed
  | unicode
  | crlf
  | verbose
  deriving DecidableEq, Repr

def Flag.ofChar? : Char → Option Flag
  | 'i' => some .caseInsensitive
  | 'm' => some .multiLine
  | 's' => some .dotMatchesLineFeed
  | 'U' => some .swapGreed
  | 'u' => some .unicode
  | 'R' => some .crlf
  | 'x' => some .verbose
  | _ => none

/-- Flags that are switched on or off. -/
abbrev FlagChanges := List (Flag × Bool)

/-- What a flag is changed to, if it is changed. -/
def FlagChanges.get? (fs : FlagChanges) (f : Flag) : Option Bool :=
  (fs.find? (·.1 == f)).map (·.2)

structure Literal where
  char : Char
  /-- Written as two hexadecimal digits: without Unicode these stand for a byte. -/
  isByte : Bool := false
  deriving DecidableEq, Repr

inductive Shorthand where
  | digit
  | space
  | word
  deriving DecidableEq, Repr

/-- The classes of ASCII characters that can be named inside brackets. -/
inductive AsciiClass where
  | alnum
  | alpha
  | ascii
  | blank
  | cntrl
  | digit
  | graph
  | lower
  | print
  | punct
  | space
  | upper
  | word
  | xdigit
  deriving DecidableEq, Repr

namespace AsciiClass

def ofName? : String → Option AsciiClass
  | "alnum" => some .alnum
  | "alpha" => some .alpha
  | "ascii" => some .ascii
  | "blank" => some .blank
  | "cntrl" => some .cntrl
  | "digit" => some .digit
  | "graph" => some .graph
  | "lower" => some .lower
  | "print" => some .print
  | "punct" => some .punct
  | "space" => some .space
  | "upper" => some .upper
  | "word" => some .word
  | "xdigit" => some .xdigit
  | _ => none

def contains (k : AsciiClass) (c : Char) : Bool :=
  let n := c.toNat
  match k with
  | .alnum => c.isAlphanum
  | .alpha => c.isAlpha
  | .ascii => n < 0x80
  | .blank => c == ' ' || c == '\t'
  | .cntrl => n < 0x20 || n == 0x7F
  | .digit => c.isDigit
  | .graph => 0x21 ≤ n && n ≤ 0x7E
  | .lower => c.isLower
  | .print => 0x20 ≤ n && n ≤ 0x7E
  | .punct => 0x21 ≤ n && n ≤ 0x7E && !c.isAlphanum
  | .space => c == ' ' || (0x9 ≤ n && n ≤ 0xD)
  | .upper => c.isUpper
  | .word => c.isAlphanum || c == '_'
  | .xdigit => c.isDigit || (0x41 ≤ n && n ≤ 0x46) || (0x61 ≤ n && n ≤ 0x66)

end AsciiClass

/-- A property of characters: by its own name, or by the name of a property with several values and a value. -/
inductive PropertyName where
  | plain (name : String)
  | value (name : String) (value : String)
  deriving DecidableEq, Repr

inductive SetOperation where
  | inter
  | difference
  | symmetricDifference
  deriving DecidableEq, Repr

/-- A set of characters as it is written. -/
inductive ClassTerm where
  | empty
  | single (l : Literal)
  | range (first last : Literal)
  | ascii (k : AsciiClass) (negated : Bool)
  | shorthand (k : Shorthand) (negated : Bool)
  | property (p : PropertyName) (negated : Bool)
  | bracket (negated : Bool) (inner : ClassTerm)
  | union (items : List ClassTerm)
  | combine (op : SetOperation) (left right : ClassTerm)
  deriving Repr, Inhabited

inductive Assertion where
  | lineStart
  | lineEnd
  | textStart
  | textEnd
  | boundary
  | noBoundary
  | wordStart
  | wordEnd
  | wordStartHalf
  | wordEndHalf
  deriving DecidableEq, Repr

/-- A regular expression as it is written. -/
inductive Surface where
  | empty
  /-- Changes the flags up to the end of the group. -/
  | flags (changes : FlagChanges)
  | literal (l : Literal)
  | dot
  | assertion (a : Assertion)
  | charClass (k : ClassTerm)
  | repeated (body : Surface) (min : Nat) (max : Option Nat)
  | group (changes : FlagChanges) (body : Surface)
  | alternation (branches : List Surface)
  | concat (items : List Surface)
  deriving Repr, Inhabited

namespace ClassTerm

/-- A union of one item is that item. -/
def ofItems : List ClassTerm → ClassTerm
  | [] => .empty
  | [k] => k
  | ks => .union ks

mutual

/-- How deep brackets, unions and set operations are nested. -/
def depth : ClassTerm → Nat
  | .bracket _ inner => inner.depth + 1
  | .union items => depthAll items + 1
  | .combine _ l r => Nat.max l.depth r.depth + 1
  | _ => 0

def depthAll : List ClassTerm → Nat
  | [] => 0
  | k :: ks => Nat.max k.depth (depthAll ks)

end

end ClassTerm

namespace Surface

def ofItems : List Surface → Surface
  | [] => .empty
  | [e] => e
  | es => .concat es

def ofBranches : List Surface → Surface
  | [] => .empty
  | [e] => e
  | es => .alternation es

/-- Flags and nothing cannot be repeated. -/
def isRepeatable : Surface → Bool
  | .empty | .flags _ => false
  | _ => true

mutual

/-- How deep groups, repetitions, rows, alternatives and classes are nested. -/
def depth : Surface → Nat
  | .charClass k => k.depth
  | .repeated body _ _ => body.depth + 1
  | .group _ body => body.depth + 1
  | .alternation es => depthAll es + 1
  | .concat es => depthAll es + 1
  | _ => 0

def depthAll : List Surface → Nat
  | [] => 0
  | e :: es => Nat.max e.depth (depthAll es)

end

end Surface
end Regex
end StructuralSearch
