/-!
This module contains places in a source text and the spans between them. A position knows its line, its column in
bytes and its byte offset; positions are ordered by line and column alone, so that one given by an editor can be
compared with one that a parser found.
-/

namespace StructuralSearch

/-- Zero-based row, column in bytes, and byte offset from the start of the text. -/
structure Position where
  row : Nat
  column : Nat
  byte : Nat
  deriving DecidableEq, Repr, Inhabited

namespace Position

/-- A position whose byte offset is not known. -/
def ofRowColumn (row column : Nat) : Position :=
  { row, column, byte := 0 }

/-- Not after: the byte offset plays no part. -/
protected def le (p q : Position) : Bool :=
  p.row < q.row || (p.row = q.row && p.column ≤ q.column)

/-- Before: the byte offset plays no part. -/
protected def lt (p q : Position) : Bool :=
  p.row < q.row || (p.row = q.row && p.column < q.column)

/-- At the same row and column. -/
def samePlace (p q : Position) : Bool :=
  p.row = q.row && p.column = q.column

theorem lt_eq_not_le (p q : Position) : p.lt q = !q.le p := by
  rw [Bool.eq_iff_iff]
  simp [Position.lt, Position.le]
  omega

/-- The position of a byte offset: rows are counted by the line feeds before it. -/
def ofByte (lineFeeds : List Nat) (byte : Nat) : Position :=
  let before := lineFeeds.filter (· < byte)
  { row := before.length
    column := byte - (before.getLast?.map (· + 1)).getD 0
    byte }

end Position

/-- A start, which belongs to the span, and an end, which does not. -/
structure Span where
  start : Position
  stop : Position
  deriving DecidableEq, Repr, Inhabited

namespace Span

/-- The smallest span around both. -/
def covering (a b : Span) : Span :=
  { start := if a.start.le b.start then a.start else b.start
    stop := if b.stop.le a.stop then a.stop else b.stop }

def containsPoint (s : Span) (p : Position) : Bool :=
  s.start.le p && p.lt s.stop

def containsRange (s : Span) (start stop : Position) : Bool :=
  s.start.le start && stop.le s.stop

def byteLength (s : Span) : Nat :=
  s.stop.byte - s.start.byte

end Span

/-- The byte offsets of the line feeds of a text. -/
def lineFeedOffsets (cs : List Char) : List Nat :=
  go 0 cs
where
  go (offset : Nat) : List Char → List Nat
    | [] => []
    | c :: cs =>
      if c = '\n' then
        offset :: go (offset + c.utf8Size) cs
      else
        go (offset + c.utf8Size) cs

end StructuralSearch
