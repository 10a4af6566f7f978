import StructuralSearch.Proofs.Report

/-!
This module contains whether the location of a reported match leads back to it. A report counts columns in bytes and a
location is read in characters, so it does exactly if there is nothing but ASCII before the match on its line.
-/

namespace StructuralSearch

theorem lineFeedOffsets_append (offset : Nat) (before after : List Char) :
    lineFeedOffsets.go offset (before ++ after)
      = lineFeedOffsets.go offset before ++ lineFeedOffsets.go (offset + Text.byteLength before) after := by
  induction before generalizing offset with
  | nil => rfl
  | cons c before ih =>
    rw [List.cons_append, lineFeedOffsets.go, lineFeedOffsets.go, ih, Text.byteLength, Nat.add_assoc]
    split
    . rfl
    . rfl

theorem bounds_lineFeedOffsets (offset : Nat) (cs : List Char) :
    ∀ x ∈ lineFeedOffsets.go offset cs, offset ≤ x ∧ x < offset + Text.byteLength cs := by
  induction cs generalizing offset with
  | nil => simp [lineFeedOffsets.go]
  | cons c cs ih =>
    have hsize := c.utf8Size_pos
    intro x hx
    rw [lineFeedOffsets.go] at hx
    rw [Text.byteLength]
    split at hx
    . rw [List.mem_cons] at hx
      cases hx with
      | inl heq => omega
      | inr hx =>
        have hbounds := ih _ x hx
        omega
    . have hbounds := ih _ x hx
      omega

theorem length_lineFeedOffsets (offset : Nat) (cs : List Char) :
    (lineFeedOffsets.go offset cs).length = cs.count '\n' := by
  induction cs generalizing offset with
  | nil => rfl
  | cons c cs ih =>
    rw [lineFeedOffsets.go]
    split
    . next hlf => rw [hlf, List.length_cons, ih, List.count_cons_self]
    . next hlf => rw [ih, List.count_cons_of_ne hlf]

theorem lineFeedOffsets_eq_nil {offset : Nat} {cs : List Char} : lineFeedOffsets.go offset cs = [] ↔ '\n' ∉ cs := by
  rw [← List.length_eq_zero_iff, length_lineFeedOffsets, List.count_eq_zero]

/-- The last line starts after the last line feed, or where the text starts. -/
theorem getLast_lineFeedOffsets (offset : Nat) (cs : List Char) :
    ((lineFeedOffsets.go offset cs).getLast?.map (· + 1)).getD offset + Text.byteLength (Text.lastLine cs)
      = offset + Text.byteLength cs := by
  induction cs generalizing offset with
  | nil => rfl
  | cons c cs ih =>
    have hrest := ih (offset + c.utf8Size)
    rw [Text.lastLine]
    split
    . next hmem =>
      rw [Text.byteLength, ← Nat.add_assoc, ← hrest, lineFeedOffsets.go]
      split
      . next hlf =>
        -- If this is the last line feed, the last line starts right after it.
        rw [List.getLast?_cons, hlf]
        cases (lineFeedOffsets.go (offset + '\n'.utf8Size) cs).getLast? with
        | none => rfl
        | some last => rfl
      . next hlf =>
        cases hlast : (lineFeedOffsets.go (offset + c.utf8Size) cs).getLast? with
        | none =>
          rw [List.getLast?_eq_none_iff, lineFeedOffsets_eq_nil] at hlast
          exact absurd ((List.mem_cons.mp hmem).resolve_left (Ne.symm hlf)) hlast
        | some last => rfl
    . next hmem =>
      rw [lineFeedOffsets_eq_nil.mpr hmem]
      rfl

/-- The position that follows a text. -/
def Position.after (before : List Char) : Position :=
  { row := before.count '\n'
    column := Text.byteLength (Text.lastLine before)
    byte := Text.byteLength before }

/-- The position of an offset is told by what comes before it. -/
theorem Position.ofByte_eq_after (before rest : List Char) :
    ofByte (lineFeedOffsets (before ++ rest)) (Text.byteLength before) = .after before := by
  have hfilter : (lineFeedOffsets (before ++ rest)).filter (· < Text.byteLength before)
      = lineFeedOffsets.go 0 before := by
    unfold lineFeedOffsets
    rw [lineFeedOffsets_append, List.filter_append, List.filter_eq_self.mpr, List.filter_eq_nil_iff.mpr,
      List.append_nil]
    . intro x hx
      have hbounds := bounds_lineFeedOffsets _ rest x hx
      simp only [decide_eq_true_eq]
      omega
    . intro x hx
      have hbounds := bounds_lineFeedOffsets _ before x hx
      simp only [decide_eq_true_eq]
      omega
  have hlast := getLast_lineFeedOffsets 0 before
  unfold ofByte after
  rw [hfilter]
  dsimp only
  rw [length_lineFeedOffsets, mk.injEq]
  exact ⟨rfl, by omega, rfl⟩

/-- Nodes start and end between characters of the source, at the positions that are there. -/
def Concrete.Located (source : String) (t : Concrete) : Prop :=
  ∀ p ∈ t.positions, ∃ n,
    p = .ofByte (lineFeedOffsets source.toList) (Text.byteLength (source.toList.take n))

namespace Location

variable {source path : String} {before after a b : List Char} {row column : Nat}

/-- In one line the columns in bytes are told by the lengths of its beginnings, also beyond its end. -/
theorem byteColumn_eq_add {line : List Char} (h : (Text.lines source.toList)[row]? = some line) (column : Nat) :
    byteColumn source row column = Text.byteLength (line.take column) + (column - line.length) := by
  unfold byteColumn
  rw [h]
  dsimp only
  rw [Text.getElem?_charOffsets]
  by_cases hin : column < line.length
  . rw [List.getElem?_eq_getElem hin, Option.map_some, Nat.zero_add, Nat.sub_eq_zero_of_le (Nat.le_of_lt hin)]
    rfl
  . rw [List.getElem?_eq_none (Nat.le_of_not_lt hin), Option.map_none, List.take_of_length_le (Nat.le_of_not_lt hin)]

theorem byteColumn_of_none (h : (Text.lines source.toList)[row]? = none) (column : Nat) :
    byteColumn source row column = column := by
  unfold byteColumn
  rw [h]

/-- Where the line of a place is found: none if nothing follows the last line feed, else what the place is in. -/
theorem lines_after (h : source.toList = before ++ after) :
    (Text.lines source.toList)[before.count '\n']? = none ∧ Text.lastLine before = [] ∨
      ∃ more, (Text.lines source.toList)[before.count '\n']?
        = some (Text.lineContent (Text.lastLine before ++ more)) := by
  have hno := Text.not_mem_lastLine before
  unfold Text.lines
  rw [h, List.getElem?_map, Text.getElem?_rawLines]
  by_cases hnil : Text.lastLine before ++ after = []
  . rw [hnil]
    exact .inl ⟨rfl, (List.append_eq_nil_iff.mp hnil).1⟩
  . obtain ⟨more, lines, hlines⟩ := Text.head_rawLines hno hnil
    rw [hlines]
    exact .inr ⟨more, rfl⟩

/-- Reading a column in bytes as one in characters does no harm exactly if there is nothing but ASCII before it. -/
theorem byteColumn_after (h : source.toList = before ++ after) :
    (Position.after before).column ≤ byteColumn source (Position.after before).row (Position.after before).column ∧
    (byteColumn source (Position.after before).row (Position.after before).column = (Position.after before).column ↔
      ∀ c ∈ Text.lastLine before, c.toNat < 128) := by
  unfold Position.after
  dsimp only
  cases lines_after h with
  | inl hnone =>
    rw [byteColumn_of_none hnone.1, hnone.2]
    simp
  | inr hline =>
    obtain ⟨more, hline⟩ := hline
    rw [byteColumn_eq_add hline, Text.byteLength_take_eq, Text.ascii_take_lineContent (Text.not_mem_lastLine before)]
    exact ⟨Text.le_byteLength_take _ _, Iff.rfl⟩

theorem splitLast?_append (h : ':' ∉ b) : splitLast? (a ++ ':' :: b) = some (a, b) := by
  have hreverse : (a ++ ':' :: b).reverse = b.reverse ++ ':' :: a.reverse := by simp
  have hb : ∀ c ∈ b.reverse, (c != ':') = true := by
    intro c hc
    rw [bne_iff_ne]
    intro heq
    subst heq
    exact h (List.mem_reverse.mp hc)
  unfold splitLast?
  dsimp only
  rw [hreverse, List.takeWhile_append_of_pos hb, List.dropWhile_append_of_pos hb,
    List.takeWhile_cons_of_neg (by simp), List.dropWhile_cons_of_neg (by simp)]
  simp

theorem parse_eq_ok (hpath : path ≠ "") (hrow : row + 1 < Text.wordSize) (hcolumn : column + 1 < Text.wordSize) :
    parse (path ++ ":" ++ toString (row + 1) ++ ":" ++ toString (column + 1)) = .ok { file := path, row, column } := by
  have hcolon : ∀ n : Nat, ':' ∉ (toString n).toList := by
    intro n hmem
    cases Text.isDigit_of_mem_toString hmem
  have htext : (path ++ ":" ++ toString (row + 1) ++ ":" ++ toString (column + 1)).toList
      = (path.toList ++ ':' :: (toString (row + 1)).toList) ++ ':' :: (toString (column + 1)).toList := by
    simp [String.toList_append]
  have hsplit : split? (path ++ ":" ++ toString (row + 1) ++ ":" ++ toString (column + 1)).toList
      = some (path.toList, (toString (row + 1)).toList, (toString (column + 1)).toList) := by
    unfold split?
    rw [htext, splitLast?_append (hcolon _)]
    dsimp only [bind, Option.bind]
    rw [splitLast?_append (hcolon _)]
    rfl
  have hfile : path.toList ≠ [] := by
    intro hnil
    exact hpath (String.toList_eq_nil_iff.mp hnil)
  unfold parse
  rw [hsplit]
  dsimp only
  rw [Text.readNatural_toString hrow, Text.readNatural_toString hcolumn]
  delta Except.mapError
  dsimp only [bind, Except.bind]
  rw [if_neg (by simp [hfile])]
  simp [pure, Except.pure]

end Location

namespace Concrete

variable {source : String} {path : Option String} {c : Concrete} {t : Outline}

theorem among_of_toOutline (ht : c.toOutline source path = .ok t) (i : Nat) :
    (t.node i).toLabel.Among c.positions ∨ t.node i = default := by
  by_cases hi : i < t.size
  . exact .inl (everywhere_of_origin (P := fun label _ => label.Among c.positions) (fun _ => among_of_origin) ht i hi)
  . exact .inr (Outline.node_of_size_le (by omega))

theorem start_span (ht : c.toOutline source path = .ok t) (i : Nat) :
    (t.span i).start ∈ c.positions ∨ (t.span i).start = default := by
  cases among_of_toOutline ht i with
  | inl hamong => exact .inl hamong.start
  | inr hdefault =>
    unfold Outline.span
    rw [hdefault]
    exact .inr rfl

theorem start_token {i : Nat} {text : String} {token : Token} (ht : c.toOutline source path = .ok t)
    (h : t.token? i text = some token) : token.span.start ∈ c.positions := by
  unfold Outline.token? at h
  cases among_of_toOutline ht i with
  | inl hamong => exact (hamong.tokens token (List.mem_of_find?_eq_some h)).1
  | inr hdefault =>
    rw [hdefault] at h
    cases h

theorem start_candidate (ht : c.toOutline source path = .ok t) (k : Candidate) :
    (k.span t).start ∈ c.positions ∨ (k.span t).start = default := by
  cases k with
  | real i => exact start_span ht i
  | synthetic v =>
    cases v with
    | ifCondition p i =>
      unfold Candidate.span VirtualNode.span
      dsimp only
      split
      . next l r hl _ => exact .inl (start_token ht hl)
      . exact start_span ht i
    | methodBody | nestedBlock | autoProperty | readOnlyProperty | tryBody | ifBody | elseBody => exact start_span ht _

theorem Located.exists_after (h : c.Located source) (ht : c.toOutline source path = .ok t) (k : Candidate) :
    ∃ n, (k.span t).start = .after (source.toList.take n) := by
  cases start_candidate ht k with
  | inl hmem =>
    obtain ⟨n, hn⟩ := h _ hmem
    have hafter := Position.ofByte_eq_after (source.toList.take n) (source.toList.drop n)
    rw [List.take_append_drop, ← hn] at hafter
    exact ⟨n, hafter⟩
  | inr hdefault => exact ⟨0, hdefault⟩

end Concrete

namespace Report

/-- Where the match starts, as it is printed. -/
def location (r : Report) : String :=
  r.path ++ ":" ++ toString r.startLine ++ ":" ++ toString r.startColumn

theorem location_heads_render (r : Report) : (r.location ++ ": ").toList <+: r.render.toList := by
  have hword := Text.isWord_iff.mp (isWord_label r)
  obtain ⟨ch, rest, hlabel⟩ := List.exists_cons_of_ne_nil hword.1
  have hch : Text.isWhiteSpace ch = false := by
    apply Text.not_isWhiteSpace_of_isAlpha
    apply hword.2
    rw [hlabel]
    exact List.mem_cons_self
  unfold render
  dsimp only
  generalize (r.fullName.orElse fun _ => r.identifier).getD "" = name
  have hline : (r.path ++ ":" ++ toString r.startLine ++ ":" ++ toString r.startColumn ++ ": " ++ r.label ++ " "
      ++ name).toList = (r.location ++ ": ").toList ++ ch :: (rest ++ (" " ++ name).toList) := by
    rw [← List.cons_append, ← hlabel]
    simp [location, String.toList_append]
  rw [String.toList_ofList, hline, Text.trimEnd_append, if_neg (Text.trimEnd_cons_ne_nil hch)]
  exact List.prefix_append _ _

/--
The location that is printed for a match can be read and gives the row and column in bytes at which the match starts.
Taken for a column in characters it is never too small, and it is the same column exactly if there is nothing but ASCII
before the match on its line.
-/
theorem location_leads_back {c : Concrete} {source path : String} {t : Outline} {k : Candidate} {r : Report}
    (hl : c.Located source) (hsize : Text.byteLength source.toList + 1 < Text.wordSize) (hpath : path ≠ "")
    (ht : c.toOutline source (some path) = .ok t) (hr : ofCandidate t k = .ok r) :
    (r.location ++ ": ").toList <+: r.render.toList ∧
    Location.parse r.location
      = .ok { file := path, row := (k.span t).start.row, column := (k.span t).start.column } ∧
    ∃ n, (k.span t).start = .after (source.toList.take n) ∧
      (k.span t).start.column ≤ Location.byteColumn source (k.span t).start.row (k.span t).start.column ∧
      (Location.byteColumn source (k.span t).start.row (k.span t).start.column = (k.span t).start.column ↔
        ∀ ch ∈ Text.lastLine (source.toList.take n), ch.toNat < 128) := by
  obtain ⟨n, hn⟩ := hl.exists_after ht k
  have hbytes := Text.byteLength_take_le source.toList n
  have hrow : (k.span t).start.row + 1 < Text.wordSize := by
    have hcount := List.count_le_length (a := '\n') (l := source.toList.take n)
    have hlength := Text.length_le_byteLength (source.toList.take n)
    rw [hn, Position.after]
    dsimp only
    omega
  have hcolumn : (k.span t).start.column + 1 < Text.wordSize := by
    have hline := Text.byteLength_lastLine_le (source.toList.take n)
    rw [hn, Position.after]
    dsimp only
    omega
  have hlocation : r.location = path ++ ":" ++ toString ((k.span t).start.row + 1) ++ ":"
      ++ toString ((k.span t).start.column + 1) := by
    unfold ofCandidate at hr
    rw [bind_eq_ok] at hr
    obtain ⟨identifier, _, hr⟩ := hr
    cases hr
    unfold location
    dsimp only
    rw [Concrete.path_of_toOutline ht]
    rfl
  refine ⟨location_heads_render r, ?_, n, hn, ?_⟩
  . rw [hlocation]
    exact Location.parse_eq_ok hpath hrow hcolumn
  . rw [hn]
    exact Location.byteColumn_after (List.take_append_drop n source.toList).symm

/-- A text with a class after a comment that is not all ASCII. -/
def commentText : String :=
  "/*é*/class A\x7b\x7d"

def classAfterComment : Concrete :=
  node "compilation_unit" 0 15 [
    .node { kind := "comment", span := { start := .ofByte [] 0, stop := .ofByte [] 6 }, isExtra := true } [],
    node "class_declaration" 6 15 [
      node "class" 6 11 [] none false,
      node "identifier" 12 13 [] (some "name") true,
      node "declaration_list" 13 15 [
        node "\x7b" 13 14 [] none false,
        node "\x7d" 14 15 [] none false] (some "body") true] none true] none true
where
  node := Concrete.inText commentText

/-- The location of the class leads to a place one byte after its start. -/
theorem location_classAfterComment :
    ∃ t r, classAfterComment.Located commentText ∧ classAfterComment.toOutline commentText (some "A.cs") = .ok t ∧
      ofCandidate t (.real 1) = .ok r ∧ Location.parse r.location = .ok { file := "A.cs", row := 0, column := 6 } ∧
      Location.byteColumn commentText 0 6 = 7 := by
  have hplaces : ∀ p ∈ classAfterComment.positions, ∃ n ∈ List.range 15,
      p = .ofByte (lineFeedOffsets commentText.toList) (Text.byteLength (commentText.toList.take n)) := by
    decide +kernel
  have hlocated : classAfterComment.Located commentText := by
    intro p hp
    obtain ⟨n, _, hn⟩ := hplaces p hp
    exact ⟨n, hn⟩
  have hstart : (classAfterComment.toOutline commentText (some "A.cs")).toOption.bind (fun t =>
      (ofCandidate t (.real 1)).toOption.map fun _ => (t.span 1).start) = some (.ofByte [] 6) := by
    decide +kernel
  obtain ⟨t, ht, hstart⟩ := Option.bind_eq_some_iff.mp hstart
  obtain ⟨r, hr, hstart⟩ := Option.map_eq_some_iff.mp hstart
  have ht := toOption_eq_some.mp ht
  have hr := toOption_eq_some.mp hr
  have hparse := (location_leads_back hlocated (by decide) (by decide) ht hr).2.1
  rw [Candidate.span, hstart] at hparse
  exact ⟨t, r, hlocated, ht, hr, hparse, by decide⟩

end Report
end StructuralSearch
