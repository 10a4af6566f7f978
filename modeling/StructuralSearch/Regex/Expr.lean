/-!
This module contains regular expressions over characters and the search for a match of one in a text. A set of
positions of the text is a number whose bit `i` says whether position `i` belongs to it; the matches of an expression
that start at one of a set of positions end at another such set.
-/

namespace StructuralSearch
namespace Regex

/-- A set of characters, with the number of ranges that it was written with. -/
structure CharClass where
  contains : Char → Bool
  pieces : Nat

namespace CharClass

def single (c : Char) : CharClass :=
  { contains := (· == c), pieces := 1 }

def ofList (cs : List Char) : CharClass :=
  { contains := cs.contains, pieces := cs.length }

def range (first last : Char) : CharClass :=
  { contains := fun c => first ≤ c && c ≤ last, pieces := 1 }

def empty : CharClass :=
  { contains := fun _ => false, pieces := 0 }

def union (a b : CharClass) : CharClass :=
  { contains := fun c => a.contains c || b.contains c, pieces := a.pieces + b.pieces }

def inter (a b : CharClass) : CharClass :=
  { contains := fun c => a.contains c && b.contains c, pieces := a.pieces + b.pieces }

def difference (a b : CharClass) : CharClass :=
  { contains := fun c => a.contains c && !b.contains c, pieces := a.pieces + b.pieces }

def symmetricDifference (a b : CharClass) : CharClass :=
  { contains := fun c => a.contains c != b.contains c, pieces := a.pieces + b.pieces }

def complement (a : CharClass) : CharClass :=
  { contains := fun c => !a.contains c, pieces := a.pieces + 1 }

/-- The characters that have a variant in the class. -/
def closure (variants : Char → List Char) (a : CharClass) : CharClass :=
  { contains := fun c => (variants c).any a.contains, pieces := a.pieces }

end CharClass

/-- The sides of a position on which a word lies. -/
inductive WordEdge where
  /-- On one of them. -/
  | boundary
  /-- On both or on none. -/
  | noBoundary
  /-- After it only. -/
  | start
  /-- Before it only. -/
  | stop
  /-- Not before it. -/
  | startHalf
  /-- Not after it. -/
  | stopHalf
  deriving DecidableEq, Repr

def WordEdge.holds : WordEdge → (before after : Bool) → Bool
  | .boundary, before, after => before != after
  | .noBoundary, before, after => before == after
  | .start, before, after => !before && after
  | .stop, before, after => before && !after
  | .startHalf, before, _ => !before
  | .stopHalf, _, after => !after

/-- A condition on a position of the text. -/
inductive Look where
  | textStart
  | textEnd
  | lineStart
  | lineEnd
  /-- Lines may also end with a carriage return, or with both characters. -/
  | anyLineStart
  | anyLineEnd
  | word (edge : WordEdge) (inWord : Char → Bool)

/-- The condition is on the characters before and after the position. -/
def Look.holds (before after : Option Char) : Look → Bool
  | .textStart => before.isNone
  | .textEnd => after.isNone
  | .lineStart => before.all (· == '\n')
  | .lineEnd => after.all (· == '\n')
  | .anyLineStart => before.all fun c => c == '\n' || (c == '\r' && after != some '\n')
  | .anyLineEnd => after.all fun c => c == '\r' || (c == '\n' && before != some '\r')
  | .word edge inWord => edge.holds (before.any inWord) (after.any inWord)

inductive Expr where
  | empty
  | oneOf (k : CharClass)
  | look (l : Look)
  | seq (first second : Expr)
  | alt (first second : Expr)
  /-- At least `min` times, and at most `max` times if that is given. -/
  | times (body : Expr) (min : Nat) (max : Option Nat)

namespace Expr

/-- The positions of a text of the given length that satisfy a condition, shifted by `step`. -/
def select (size step : Nat) (p : Nat → Bool) : Nat :=
  (List.range (size + 1)).foldl (fun acc i => if p i then acc ||| (1 <<< (i + step)) else acc) 0

/-- Applies `f` the given number of times, but stops at a set that it does not change. -/
def iterate (f : Nat → Nat) : Nat → Nat → Nat
  | 0, s => s
  | n + 1, s => if f s = s then s else iterate f n (f s)

/-- Adds what can be reached from `fresh` in at most the given number of steps. -/
def reach (f : Nat → Nat) : Nat → (fresh seen : Nat) → Nat
  | 0, _, seen => seen
  | n + 1, fresh, seen =>
    let found := f fresh
    let fresh := found ^^^ (found &&& seen)
    if fresh = 0 then seen else reach f n fresh (seen ||| fresh)

/--
Where the matches end that start at one of the given positions. A text of `n` characters has `n + 1` positions, and no
match goes back, so that `n + 1` rounds of a repetition are as good as any greater number.
-/
def ends (text : Array Char) : Expr → Nat → Nat
  | .empty, starts => starts
  | .oneOf k, starts => select text.size 1 fun i => starts.testBit i && text[i]?.any k.contains
  | .look l, starts =>
    select text.size 0 fun i =>
      starts.testBit i && l.holds (if i = 0 then none else text[i - 1]?) text[i]?
  | .seq a b, starts => b.ends text (a.ends text starts)
  | .alt a b, starts => a.ends text starts ||| b.ends text starts
  | .times body min max, starts =>
    let rounds := text.size + 1
    let required := iterate (body.ends text) (Nat.min min rounds) starts
    let optional :=
      match max with
      | none => rounds
      | some m => Nat.min (m - min) rounds
    reach (body.ends text) optional required required

/-- Whether the expression matches somewhere in the text. -/
def isMatch (e : Expr) (text : String) : Bool :=
  let text := text.toList.toArray
  e.ends text (1 <<< (text.size + 1) - 1) != 0

/-- Whether every match is empty. -/
def isZeroWidth : Expr → Bool
  | .empty | .look _ => true
  | .oneOf _ => false
  | .seq a b | .alt a b => a.isZeroWidth && b.isZeroWidth
  | .times body _ max => max == some 0 || body.isZeroWidth

/-- About how many bytes an automaton for the expression takes. -/
def weight : Expr → Nat
  | .empty | .look _ => 32
  | .oneOf k => if k.pieces ≤ 1 then 32 else 72 * k.pieces
  | .seq a b => a.weight + b.weight
  | .alt a b => a.weight + b.weight + 32
  | .times body min max =>
    let copies := max.getD (min + 1)
    (if body.isZeroWidth then Nat.min copies 1 else copies) * (body.weight + 32)

end Expr
end Regex
end StructuralSearch
