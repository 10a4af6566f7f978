import Mathlib.Order.Monotone.Basic
import StructuralSearch.Proofs.Location

/-!
This module contains what becomes of columns in characters when they are converted to bytes: how the columns of one line
follow from its characters, and that the columns of all places between characters are found back, also at the end of a
line, which is not part of it.
-/

namespace StructuralSearch
namespace Text

section Lines

variable {cs line first : List Char} {row : Nat}

/-- The line of a text with the given number, without its end. -/
inductive IsLine : List Char → Nat → List Char → Prop where
  | lineFeed {line rest : List Char} (hno : '\n' ∉ line) (hreturn : line.getLast? ≠ some '\r') :
    IsLine (line ++ '\n' :: rest) 0 line
  | carriageReturn {line rest : List Char} (hno : '\n' ∉ line) : IsLine (line ++ '\r' :: '\n' :: rest) 0 line
  /-- The text after the last line feed is a line unless it is empty. -/
  | unended {line : List Char} (hno : '\n' ∉ line) (hne : line ≠ []) : IsLine line 0 line
  | next {first rest line : List Char} {row : Nat} (hno : '\n' ∉ first) (h : IsLine rest row line) :
    IsLine (first ++ '\n' :: rest) (row + 1) line

theorem rawLines_first (rest : List Char) (hno : '\n' ∉ first) :
    rawLines (first ++ '\n' :: rest) = (first ++ ['\n']) :: rawLines rest := by
  induction first with
  | nil => exact rawLines_lf rest
  | cons c first ih =>
    rw [List.mem_cons, not_or] at hno
    rw [List.cons_append, rawLines, if_neg (Ne.symm hno.1), ih hno.2]
    rfl

theorem rawLines_unended (hno : '\n' ∉ line) (hne : line ≠ []) : rawLines line = [line] := by
  induction line with
  | nil => exact absurd rfl hne
  | cons c line ih =>
    rw [List.mem_cons, not_or] at hno
    rw [rawLines, if_neg (Ne.symm hno.1)]
    by_cases hnil : line = []
    . rw [hnil]
      rfl
    . rw [ih hno.2 hnil]

theorem lineContent_lineFeed (hreturn : line.getLast? ≠ some '\r') : lineContent (line ++ ['\n']) = line := by
  have hreverse : (line ++ ['\n']).reverse = '\n' :: line.reverse := by simp
  unfold lineContent
  rw [hreverse]
  split
  . next r heq =>
    rw [List.cons.injEq] at heq
    rw [← List.head?_reverse, heq.2] at hreturn
    exact absurd rfl hreturn
  . next r _ heq =>
    rw [List.cons.injEq] at heq
    rw [← heq.2, List.reverse_reverse]
  . next hno => exact absurd rfl (hno _)

theorem lineContent_carriageReturn (line : List Char) : lineContent (line ++ ['\r', '\n']) = line := by
  simp [lineContent]

theorem lineContent_unended (hno : '\n' ∉ line) : lineContent line = line := by
  obtain ⟨ending, heq, hending⟩ := lineContent_append line
  obtain hnil | hlf | hcrlf := hending
  . rw [hnil, List.append_nil] at heq
    exact heq.symm
  . rw [heq, hlf] at hno
    exact absurd (by simp) hno
  . rw [heq, hcrlf] at hno
    exact absurd (by simp) hno

theorem lines_first (rest : List Char) (hno : '\n' ∉ first) :
    lines (first ++ '\n' :: rest) = lineContent (first ++ ['\n']) :: lines rest := by
  unfold lines
  rw [rawLines_first rest hno, List.map_cons]

theorem lines_unended (hno : '\n' ∉ line) (hne : line ≠ []) : lines line = [line] := by
  unfold lines
  rw [rawLines_unended hno hne, List.map_singleton, lineContent_unended hno]

theorem isLine_lineContent (rest : List Char) (hno : '\n' ∉ first) :
    IsLine (first ++ '\n' :: rest) 0 (lineContent (first ++ ['\n'])) := by
  by_cases hreturn : first.getLast? = some '\r'
  . obtain ⟨line, hline⟩ := List.getLast?_eq_some_iff.mp hreturn
    rw [hline, List.append_assoc, List.append_assoc]
    rw [hline, List.mem_append, not_or] at hno
    have hcontent : lineContent (line ++ (['\r'] ++ ['\n'])) = line := lineContent_carriageReturn line
    rw [hcontent]
    exact .carriageReturn hno.1
  . rw [lineContent_lineFeed hreturn]
    exact .lineFeed hno hreturn

theorem isLine_of_getElem? (h : (lines cs)[row]? = some line) : IsLine cs row line := by
  induction row generalizing cs with
  | zero =>
    by_cases hmem : '\n' ∈ cs
    . obtain ⟨first, rest, hcs, hno⟩ := List.eq_append_cons_of_mem hmem
      rw [hcs, lines_first rest hno, List.getElem?_cons_zero, Option.some.injEq] at h
      rw [hcs, ← h]
      exact isLine_lineContent rest hno
    . by_cases hnil : cs = []
      . rw [hnil] at h
        cases h
      . rw [lines_unended hmem hnil, List.getElem?_cons_zero, Option.some.injEq] at h
        rw [← h]
        exact .unended hmem hnil
  | succ row ih =>
    by_cases hmem : '\n' ∈ cs
    . obtain ⟨first, rest, hcs, hno⟩ := List.eq_append_cons_of_mem hmem
      rw [hcs, lines_first rest hno, List.getElem?_cons_succ] at h
      rw [hcs]
      exact .next hno (ih h)
    . by_cases hnil : cs = []
      . rw [hnil] at h
        cases h
      . rw [lines_unended hmem hnil] at h
        cases h

theorem getElem?_of_isLine (h : IsLine cs row line) : (lines cs)[row]? = some line := by
  induction h with
  | lineFeed hno hreturn =>
    rw [lines_first _ hno, lineContent_lineFeed hreturn]
    rfl
  | @carriageReturn line rest hno =>
    have hno' : '\n' ∉ line ++ ['\r'] := by simp [hno]
    have hlines := lines_first rest hno'
    rw [List.append_assoc, List.append_assoc] at hlines
    change lines (line ++ '\r' :: '\n' :: rest) = lineContent (line ++ ['\r', '\n']) :: lines rest at hlines
    rw [hlines, lineContent_carriageReturn]
    rfl
  | unended hno hne =>
    rw [lines_unended hno hne]
    rfl
  | next hno _ ih =>
    rw [lines_first _ hno, List.getElem?_cons_succ]
    exact ih

/-- Going through the lines finds those lines that there are. -/
theorem getElem?_lines : (lines cs)[row]? = some line ↔ IsLine cs row line :=
  ⟨isLine_of_getElem?, getElem?_of_isLine⟩

end Lines

section Columns

variable {line : List Char} {toBytes : Nat → Nat}

/-- The columns of a line in bytes, given those in characters. -/
structure Columns (line : List Char) (toBytes : Nat → Nat) : Prop where
  eq_add : ∀ column, toBytes column = byteLength (line.take column) + (column - line.length)
  strictMono : StrictMono toBytes
  le : ∀ column, column ≤ toBytes column
  /-- A column does not overflow where the length of the line and the column do not. -/
  le_add : ∀ column, toBytes column ≤ byteLength line + column
  eq_self : (∀ column, toBytes column = column) ↔ ∀ c ∈ line, c.toNat < 128
  /-- The columns up to the end of the line are enough to tell. -/
  eq_self_within : (∀ column ≤ line.length, toBytes column = column) ↔ ∀ c ∈ line, c.toNat < 128
  isBoundary : ∀ column ≤ line.length, IsBoundary line (toBytes column)

theorem byteLength_take_lt_succ (cs : List Char) (n : Nat) :
    byteLength (cs.take n) + (n - cs.length) < byteLength (cs.take (n + 1)) + (n + 1 - cs.length) := by
  by_cases hn : n < cs.length
  . have hsize := cs[n].utf8Size_pos
    rw [List.take_succ_eq_append_getElem hn, byteLength_append, byteLength, byteLength]
    omega
  . rw [List.take_of_length_le (by omega), List.take_of_length_le (by omega)]
    omega

/-- Beginnings of a line are all ASCII exactly if the line is, if it is one of them. -/
theorem ascii_take_iff {P : Nat → Prop} (hlength : P line.length) :
    (∀ n, P n → ∀ c ∈ line.take n, c.toNat < 128) ↔ ∀ c ∈ line, c.toNat < 128 := by
  constructor
  . intro hascii
    have hall := hascii line.length hlength
    rwa [List.take_length] at hall
  . intro hascii n _ c hc
    exact hascii c (List.mem_of_mem_take hc)

theorem columns_of_eq (h : ∀ column, toBytes column = byteLength (line.take column) + (column - line.length)) :
    Columns line toBytes where
  eq_add := h
  strictMono := by
    apply strictMono_nat_of_lt_succ
    intro n
    rw [h, h]
    exact byteLength_take_lt_succ line n
  le := by
    intro column
    rw [h]
    exact le_byteLength_take line column
  le_add := by
    intro column
    have hle := byteLength_take_le line column
    rw [h]
    omega
  eq_self := by
    have hall := @ascii_take_iff line (fun _ => True) trivial
    simp only [h, byteLength_take_eq]
    simpa only [forall_const] using hall
  eq_self_within := by
    simp only [h, byteLength_take_eq]
    exact ascii_take_iff (Nat.le_refl line.length)
  isBoundary := by
    intro column hle
    refine ⟨line.take column, line.drop column, (List.take_append_drop column line).symm, ?_⟩
    rw [h]
    omega

end Columns

section Places

variable {cs front piece : List Char} {offset row : Nat}

/-- The piece is what there is on the line of the given number up to the given offset. -/
structure LineUpTo (cs : List Char) (offset row : Nat) (piece : List Char) : Prop where
  noLineFeed : '\n' ∉ piece
  exists_front : ∃ front after, cs = front ++ piece ++ after ∧ byteLength (front ++ piece) = offset ∧
    front.count '\n' = row ∧ (front = [] ∨ front.getLast? = some '\n')

/-- What is before the last line is nothing, or ends with a line feed. -/
theorem exists_append_lastLine (cs : List Char) :
    ∃ front, cs = front ++ lastLine cs ∧ (front = [] ∨ front.getLast? = some '\n') := by
  induction cs with
  | nil => exact ⟨[], rfl, .inl rfl⟩
  | cons c cs ih =>
    rw [lastLine]
    split
    . next hmem =>
      obtain ⟨front, hcs, hfront⟩ := ih
      refine ⟨c :: front, by rw [List.cons_append, ← hcs], .inr ?_⟩
      obtain hnil | hlast := hfront
      . -- Nothing after the first character is before the last line, so that character is the line feed.
        have hno : '\n' ∉ cs := by
          rw [hcs, hnil]
          exact not_mem_lastLine cs
        rw [hnil, (List.mem_cons.mp hmem).resolve_right hno]
        rfl
      . rw [List.getLast?_cons, hlast]
        rfl
    . exact ⟨[], rfl, .inl rfl⟩

theorem lastLine_eq_self (hno : '\n' ∉ piece) : lastLine piece = piece := by
  cases piece with
  | nil => rfl
  | cons c piece => rw [lastLine, if_neg hno]

theorem lastLine_append (hfront : front = [] ∨ front.getLast? = some '\n') (hno : '\n' ∉ piece) :
    lastLine (front ++ piece) = piece := by
  induction front with
  | nil => exact lastLine_eq_self hno
  | cons c front ih =>
    have hlast := hfront.resolve_left (List.cons_ne_nil c front)
    have hmem : '\n' ∈ c :: front := List.mem_of_getLast? hlast
    have hmem' : '\n' ∈ c :: (front ++ piece) := List.mem_append_left piece hmem
    rw [List.cons_append, lastLine, if_pos hmem']
    apply ih
    cases front with
    | nil => exact .inl rfl
    | cons d front => exact .inr (by rwa [List.getLast?_cons_cons] at hlast)

theorem exists_lineUpTo (h : IsBoundary cs offset) : ∃ row piece, LineUpTo cs offset row piece := by
  obtain ⟨before, after, hcs, hoffset⟩ := h
  obtain ⟨front, hbefore, hfront⟩ := exists_append_lastLine before
  exact ⟨_, lastLine before, not_mem_lastLine before, front, after, by rw [← hbefore, hcs], by rw [← hbefore, hoffset],
    rfl, hfront⟩

/-- All of the text up to an offset, told by what is on the line of the offset. -/
theorem LineUpTo.exists_before (h : LineUpTo cs offset row piece) :
    ∃ before after, cs = before ++ after ∧ byteLength before = offset ∧ before.count '\n' = row ∧
      lastLine before = piece := by
  obtain ⟨front, after, hcs, hoffset, hrow, hfront⟩ := h.exists_front
  refine ⟨front ++ piece, after, hcs, hoffset, ?_, lastLine_append hfront h.noLineFeed⟩
  rw [List.count_append, List.count_eq_zero.mpr h.noLineFeed, hrow, Nat.add_zero]

/-- The columns of what is on a line before a place add up, though a carriage return may be no part of the line. -/
theorem byteLength_take_lineContent (more : List Char) (hno : '\n' ∉ piece) :
    byteLength ((lineContent (piece ++ more)).take piece.length)
      + (piece.length - (lineContent (piece ++ more)).length) = byteLength piece := by
  cases prefix_lineContent more hno with
  | inl hprefix =>
    rw [← List.prefix_iff_eq_take.mp hprefix, Nat.sub_eq_zero_of_le hprefix.length_le, Nat.add_zero]
  | inr hreturn =>
    -- The carriage return is one column past the end of the line, and it is one byte.
    generalize lineContent (piece ++ more) = content at hreturn
    rw [hreturn, List.length_append, List.take_of_length_le (by omega), byteLength_append, Nat.add_sub_cancel_left]
    rfl

end Places
end Text

namespace Location

variable {source : String} {before after line : List Char} {row : Nat}

theorem byteColumn_of_isLine (h : Text.IsLine source.toList row line) (column : Nat) :
    byteColumn source row column = Text.byteLength (line.take column) + (column - line.length) :=
  byteColumn_eq_add (Text.getElem?_lines.mpr h) column

theorem byteColumn_lastLine (h : source.toList = before ++ after) :
    byteColumn source (before.count '\n') (Text.lastLine before).length = Text.byteLength (Text.lastLine before) := by
  cases lines_after h with
  | inl hnone =>
    -- The text ends with a line feed, or is empty: there is no line with this number and the column is zero.
    rw [byteColumn_of_none hnone.1, hnone.2]
    rfl
  | inr hline =>
    obtain ⟨more, hline⟩ := hline
    rw [byteColumn_eq_add hline]
    exact Text.byteLength_take_lineContent more (Text.not_mem_lastLine before)

/--
On each line of a source the columns in bytes follow from those in characters, and where there is no line they are the
same. Each place between characters is on some line, and the number of the characters before it on that line gives back
its column in bytes.
-/
theorem byteColumn_faithful (source : String) :
    (∀ row line, Text.IsLine source.toList row line → Text.Columns line (byteColumn source row)) ∧
    (∀ row, (∀ line, ¬ Text.IsLine source.toList row line) → ∀ column, byteColumn source row column = column) ∧
    (∀ offset, Text.IsBoundary source.toList offset → ∃ row piece, Text.LineUpTo source.toList offset row piece) ∧
    ∀ offset row piece, Text.LineUpTo source.toList offset row piece →
      Position.ofByte (lineFeedOffsets source.toList) offset
        = { row, column := Text.byteLength piece, byte := offset } ∧
      byteColumn source row piece.length = Text.byteLength piece := by
  refine ⟨fun row line h => Text.columns_of_eq (byteColumn_of_isLine h), ?_, fun offset => Text.exists_lineUpTo, ?_⟩
  . intro row h
    simp only [← Text.getElem?_lines] at h
    exact byteColumn_of_none (Option.eq_none_iff_forall_ne_some.mpr h)
  intro offset row piece h
  obtain ⟨before, after, hcs, hoffset, hrow, hpiece⟩ := h.exists_before
  have hplace := Position.ofByte_eq_after before after
  have hcolumn := byteColumn_lastLine hcs
  unfold Position.after at hplace
  rw [← hcs, hoffset, hrow, hpiece] at hplace
  rw [hrow, hpiece] at hcolumn
  exact ⟨hplace, hcolumn⟩

/-- A line that ends with a carriage return and a line feed, and is not all ASCII. -/
def returnText : String :=
  "Café\r\nx"

theorem byteColumn_returnText :
    Text.IsLine returnText.toList 0 "Café".toList ∧ Text.Columns "Café".toList (byteColumn returnText 0) ∧
      byteColumn returnText 0 4 = 5 ∧ byteColumn returnText 0 9 = 10 ∧
      Text.LineUpTo returnText.toList 6 0 "Café\r".toList ∧ byteColumn returnText 0 5 = 6 := by
  obtain ⟨hlines, _, _, hplaces⟩ := byteColumn_faithful returnText
  have hline : Text.IsLine returnText.toList 0 "Café".toList :=
    @Text.IsLine.carriageReturn "Café".toList ['x'] (by decide)
  have hpiece : Text.LineUpTo returnText.toList 6 0 "Café\r".toList :=
    ⟨by decide, [], "\nx".toList, by decide, by decide, by decide, .inl rfl⟩
  have hcolumns := hlines 0 _ hline
  exact ⟨hline, hcolumns, hcolumns.eq_add 4, hcolumns.eq_add 9, hpiece, (hplaces 6 0 _ hpiece).2⟩

end Location
end StructuralSearch
