import StructuralSearch.Text.Bytes
import StructuralSearch.Text.Lines
import StructuralSearch.Text.Natural
import StructuralSearch.Text.WhiteSpace

/-!
This module contains facts about texts: what trimming leaves of a text and of two texts one after the other, at which
line a place is, how long an encoding is and where it can be cut, and that numbers can be read back.
-/

namespace StructuralSearch
namespace Text

section Joined

theorem intercalate_append_singleton {α : Type} (sep x : List α) (xs : List (List α)) :
    sep.intercalate (xs ++ [x]) = xs.flatMap (· ++ sep) ++ x := by
  induction xs with
  | nil => simp
  | cons y ys ih =>
    cases ys with
    | nil => simp
    | cons z zs =>
      rw [List.cons_append, List.cons_append, List.intercalate_cons_cons, ← List.cons_append, ih]
      simp

end Joined

section Trim

variable {a b : List Char} {c : Char}

theorem mem_of_mem_trimEnd (h : c ∈ trimEnd a) : c ∈ a := by
  unfold trimEnd at h
  rw [List.mem_reverse] at h
  exact List.mem_reverse.mp ((List.dropWhile_suffix _).subset h)

theorem trimEnd_append (a b : List Char) :
    trimEnd (a ++ b) = if trimEnd b = [] then trimEnd a else a ++ trimEnd b := by
  unfold trimEnd
  rw [List.reverse_append, List.dropWhile_append]
  simp only [List.isEmpty_iff, List.reverse_eq_nil_iff]
  split
  . rfl
  . rw [List.reverse_append, List.reverse_reverse]

theorem mem_trimEnd_append (h : c ∉ a) : c ∈ trimEnd (a ++ b) ↔ c ∈ trimEnd b := by
  rw [trimEnd_append]
  split
  . next hblank =>
    rw [hblank]
    simp only [List.not_mem_nil, iff_false]
    exact fun hc => h (mem_of_mem_trimEnd hc)
  . simp [h]

theorem not_isWhiteSpace_of_isAlpha (h : c.isAlpha = true) : isWhiteSpace c = false := by
  have hrange : 0x41 ≤ c.toNat ∧ c.toNat ≤ 0x7A := by
    delta Char.isAlpha Char.isUpper Char.isLower at h
    simp only [Bool.or_eq_true, Bool.and_eq_true, decide_eq_true_eq, ge_iff_le, UInt32.le_iff_toNat_le] at h
    change (0x41 ≤ c.toNat ∧ c.toNat ≤ 0x5A) ∨ (0x61 ≤ c.toNat ∧ c.toNat ≤ 0x7A) at h
    omega
  simp only [isWhiteSpace, Bool.or_eq_false_iff, Bool.and_eq_false_iff, decide_eq_false_iff_not]
  omega

/-- There are letters and nothing else. -/
def isWord (cs : List Char) : Bool :=
  !cs.isEmpty && cs.all Char.isAlpha

theorem isWord_iff : isWord a = true ↔ a ≠ [] ∧ ∀ c ∈ a, c.isAlpha = true := by
  simp [isWord]

theorem trimEnd_cons_ne_nil (h : isWhiteSpace c = false) : trimEnd (c :: b) ≠ [] := by
  unfold trimEnd
  rw [List.reverse_cons, List.dropWhile_append, List.dropWhile_cons_of_neg (by simp [h])]
  split
  . simp
  . simp

/-- Trimming leaves nothing of what is white space and something of all else. -/
theorem isEmpty_trim (cs : List Char) : (trim cs).isEmpty = cs.all isWhiteSpace := by
  induction cs with
  | nil => rfl
  | cons c cs ih =>
    unfold trim at ih ⊢
    cases hc : isWhiteSpace c with
    | true => rw [List.dropWhile_cons_of_pos hc, ih, List.all_cons, hc, Bool.true_and]
    | false =>
      rw [List.dropWhile_cons_of_neg (by simp [hc]), List.all_cons, hc, Bool.false_and, List.isEmpty_eq_false_iff]
      exact trimEnd_cons_ne_nil hc

end Trim

section Lines

variable {a rest : List Char}

theorem rawLines_lf (rest : List Char) : rawLines ('\n' :: rest) = ['\n'] :: rawLines rest := by
  rw [rawLines, if_pos rfl]

theorem rawLines_ne_nil (h : a ≠ []) : rawLines a ≠ [] := by
  cases a with
  | nil => exact absurd rfl h
  | cons c a =>
    rw [rawLines]
    split
    . exact List.cons_ne_nil _ _
    . split
      . exact List.cons_ne_nil _ _
      . exact List.cons_ne_nil _ _

/-- A line feed ends the lines before it, and new ones start after it. -/
theorem rawLines_append_lf (a rest : List Char) :
    rawLines (a ++ '\n' :: rest) = rawLines (a ++ ['\n']) ++ rawLines rest := by
  induction a with
  | nil =>
    rw [List.nil_append, List.nil_append, rawLines_lf, rawLines_lf]
    rfl
  | cons c a ih =>
    rw [List.cons_append, List.cons_append, rawLines, rawLines, ih]
    split
    . rfl
    . cases hfirst : rawLines (a ++ ['\n']) with
      | nil => exact absurd hfirst (rawLines_ne_nil (by simp))
      | cons l ls => rfl

theorem length_rawLines_lf (a : List Char) : (rawLines (a ++ ['\n'])).length = a.count '\n' + 1 := by
  induction a with
  | nil => rfl
  | cons c a ih =>
    rw [List.cons_append, rawLines, List.count_cons]
    split
    . next hlf =>
      rw [List.length_cons, ih]
      simp [hlf]
    . next hlf =>
      rw [if_neg (by simpa using hlf), ← ih]
      split
      . next hnil =>
        rw [hnil] at ih
        simp at ih
      . next l ls hlines => rw [hlines, List.length_cons, List.length_cons]

/-- Up to the first line feed a text is in one line. -/
theorem head_rawLines (h : '\n' ∉ a) (hne : a ++ rest ≠ []) :
    ∃ more lines, rawLines (a ++ rest) = (a ++ more) :: lines := by
  induction a with
  | nil =>
    cases hlines : rawLines ([] ++ rest) with
    | nil => exact absurd hlines (rawLines_ne_nil hne)
    | cons l ls => exact ⟨l, ls, rfl⟩
  | cons c a ih =>
    rw [List.mem_cons, not_or] at h
    rw [List.cons_append, rawLines, if_neg (Ne.symm h.1)]
    by_cases hnil : a ++ rest = []
    . rw [hnil]
      obtain ⟨ha, _⟩ := List.append_eq_nil_iff.mp hnil
      rw [ha]
      exact ⟨[], [], rfl⟩
    . obtain ⟨more, lines, heq⟩ := ih h.2 hnil
      rw [heq]
      exact ⟨more, lines, rfl⟩

theorem lineContent_append (l : List Char) :
    ∃ ending, l = lineContent l ++ ending ∧ (ending = [] ∨ ending = ['\n'] ∨ ending = ['\r', '\n']) := by
  unfold lineContent
  split
  . next r hl =>
    refine ⟨['\r', '\n'], ?_, .inr (.inr rfl)⟩
    rw [← List.reverse_reverse l, hl]
    simp
  . next r _ hl =>
    refine ⟨['\n'], ?_, .inr (.inl rfl)⟩
    rw [← List.reverse_reverse l, hl]
    simp
  . exact ⟨[], by simp, .inl rfl⟩

end Lines

section Bytes

variable {cs : List Char}

theorem byteLength_append (a b : List Char) : byteLength (a ++ b) = byteLength a + byteLength b := by
  induction a with
  | nil => simp [byteLength]
  | cons c a ih =>
    rw [List.cons_append, byteLength, byteLength, ih]
    omega

theorem getElem?_charOffsets (start : Nat) (cs : List Char) (n : Nat) :
    (charOffsets start cs)[n]? = cs[n]?.map fun c => (start + byteLength (cs.take n), c) := by
  induction cs generalizing start n with
  | nil => rfl
  | cons c cs ih =>
    cases n with
    | zero => rfl
    | succ n =>
      rw [charOffsets, List.getElem?_cons_succ, List.getElem?_cons_succ, List.take_succ_cons, byteLength, ih,
        Nat.add_assoc]

theorem length_le_byteLength (cs : List Char) : cs.length ≤ byteLength cs := by
  induction cs with
  | nil => exact Nat.le_refl 0
  | cons c cs ih =>
    have hsize := c.utf8Size_pos
    rw [List.length_cons, byteLength]
    omega

theorem byteLength_take_le (cs : List Char) (n : Nat) : byteLength (cs.take n) ≤ byteLength cs := by
  have heq := byteLength_append (cs.take n) (cs.drop n)
  rw [List.take_append_drop] at heq
  omega

theorem utf8Size_eq_one {c : Char} : c.utf8Size = 1 ↔ c.toNat < 128 := by
  rw [Char.utf8Size_eq_one_iff, UInt32.le_iff_toNat_le]
  exact (Nat.lt_succ_iff).symm

/-- The encoding is as long as the text exactly if all characters are ASCII. -/
theorem byteLength_eq_length : byteLength cs = cs.length ↔ ∀ c ∈ cs, c.toNat < 128 := by
  induction cs with
  | nil => simp [byteLength]
  | cons c cs ih =>
    have hsize := c.utf8Size_pos
    have hle := length_le_byteLength cs
    rw [List.forall_mem_cons, ← ih, ← utf8Size_eq_one, byteLength, List.length_cons]
    omega

end Bytes

section Cuts

variable {cs a b piece whole : List Char} {n m : Nat}

/-- A character starts or the text ends after `n` bytes. -/
def IsBoundary (cs : List Char) (n : Nat) : Prop :=
  ∃ before after, cs = before ++ after ∧ byteLength before = n

/-- The piece is a part of the text, with `n` bytes before it. -/
def OccursAt (piece : List Char) (n : Nat) (cs : List Char) : Prop :=
  ∃ before after, cs = before ++ piece ++ after ∧ byteLength before = n

theorem dropBytes?_append (a b : List Char) : dropBytes? (byteLength a) (a ++ b) = some b := by
  induction a with
  | nil => cases b <;> rfl
  | cons c a ih =>
    have hsize := c.utf8Size_pos
    rw [List.cons_append, byteLength, dropBytes?, if_neg (by omega), if_pos (by omega), Nat.add_sub_cancel_left]
    exact ih

theorem takeBytes?_append (a b : List Char) : takeBytes? (byteLength a) (a ++ b) = some a := by
  induction a with
  | nil => cases b <;> rfl
  | cons c a ih =>
    have hsize := c.utf8Size_pos
    rw [List.cons_append, byteLength, takeBytes?, if_neg (by omega), if_pos (by omega), Nat.add_sub_cancel_left, ih]
    rfl

theorem append_of_dropBytes? (h : dropBytes? n cs = some b) : ∃ a, cs = a ++ b ∧ byteLength a = n := by
  induction cs generalizing n with
  | nil =>
    rw [dropBytes?] at h
    split at h
    . next hzero =>
      cases h
      exact ⟨[], rfl, hzero.symm⟩
    . cases h
  | cons c cs ih =>
    rw [dropBytes?] at h
    split at h
    . next hzero =>
      cases h
      exact ⟨[], rfl, hzero.symm⟩
    . split at h
      . next hle =>
        obtain ⟨a, hcs, hlength⟩ := ih h
        refine ⟨c :: a, by rw [hcs, List.cons_append], ?_⟩
        rw [byteLength, hlength]
        omega
      . cases h

/-- The rest of a text can be taken off exactly at a boundary. -/
theorem isBoundary_iff : IsBoundary cs n ↔ (dropBytes? n cs).isSome = true := by
  rw [Option.isSome_iff_exists]
  constructor
  . intro h
    obtain ⟨before, after, hcs, hlength⟩ := h
    rw [hcs, ← hlength]
    exact ⟨after, dropBytes?_append before after⟩
  . intro h
    obtain ⟨after, h⟩ := h
    obtain ⟨before, hcs, hlength⟩ := append_of_dropBytes? h
    exact ⟨before, after, hcs, hlength⟩

instance (cs : List Char) (n : Nat) : Decidable (IsBoundary cs n) :=
  decidable_of_iff _ isBoundary_iff.symm

theorem eq_nil_of_byteLength (h : byteLength cs = 0) : cs = [] := by
  have hle := length_le_byteLength cs
  rw [h] at hle
  exact List.eq_nil_of_length_eq_zero (Nat.le_zero.mp hle)

/-- Of two beginnings of a text, the one with fewer bytes is the beginning of the other. -/
theorem prefix_of_byteLength_le (ha : a <+: cs) (hb : b <+: cs) (hle : byteLength a ≤ byteLength b) : a <+: b := by
  cases List.prefix_or_prefix_of_prefix ha hb with
  | inl h => exact h
  | inr h =>
    obtain ⟨rest, heq⟩ := h
    rw [← heq, byteLength_append] at hle
    have hrest : rest = [] := eq_nil_of_byteLength (by omega)
    rw [hrest, List.append_nil] at heq
    subst heq
    exact List.prefix_refl b

theorem OccursAt.add_le (h : OccursAt piece n cs) : n + byteLength piece ≤ byteLength cs := by
  obtain ⟨before, after, hcs, hlength⟩ := h
  rw [hcs, byteLength_append, byteLength_append, hlength]
  omega

/-- There is a piece between any two boundaries. -/
theorem exists_occursAt (hn : IsBoundary cs n) (hm : IsBoundary cs m) (hle : n ≤ m) :
    ∃ piece, OccursAt piece n cs ∧ byteLength piece = m - n := by
  obtain ⟨before, _, hcs, hbefore⟩ := hn
  obtain ⟨through, after, hcs', hthrough⟩ := hm
  have hpre : before <+: cs := ⟨_, hcs.symm⟩
  have hpre' : through <+: cs := ⟨_, hcs'.symm⟩
  obtain ⟨piece, heq⟩ := prefix_of_byteLength_le hpre hpre' (by omega)
  refine ⟨piece, ⟨before, after, by rw [heq, hcs'], hbefore⟩, ?_⟩
  rw [← heq, byteLength_append] at hthrough
  omega

theorem sliceBytes?_eq (h : OccursAt piece n cs) : sliceBytes? n (n + byteLength piece) cs = some piece := by
  obtain ⟨before, after, hcs, hlength⟩ := h
  unfold sliceBytes?
  rw [hcs, ← hlength, List.append_assoc, dropBytes?_append, Option.bind_some, Nat.add_sub_cancel_left,
    takeBytes?_append]

/-- A piece whose bytes are among those of another is a part of it. -/
theorem OccursAt.of_le (h : OccursAt piece n cs) (hwhole : OccursAt whole m cs) (hstart : m ≤ n)
    (hstop : n + byteLength piece ≤ m + byteLength whole) : OccursAt piece (n - m) whole := by
  obtain ⟨before, after, hcs, hbefore⟩ := h
  obtain ⟨before', after', hcs', hbefore'⟩ := hwhole
  have hpre : before <+: cs := ⟨piece ++ after, by rw [hcs, List.append_assoc]⟩
  have hpre' : before' <+: cs := ⟨whole ++ after', by rw [hcs', List.append_assoc]⟩
  obtain ⟨lead, hlead⟩ := prefix_of_byteLength_le hpre' hpre (by omega)
  have hends : byteLength (before ++ piece) ≤ byteLength (before' ++ whole) := by
    rw [byteLength_append, byteLength_append]
    omega
  obtain ⟨rest, hrest⟩ := prefix_of_byteLength_le ⟨after, hcs.symm⟩ ⟨after', hcs'.symm⟩ hends
  refine ⟨lead, rest, ?_, ?_⟩
  . rw [← hlead, List.append_assoc, List.append_assoc, List.append_cancel_left_eq] at hrest
    rw [← hrest, List.append_assoc]
  . rw [← hlead, byteLength_append] at hbefore
    omega

end Cuts

section Places

variable {before line : List Char} {n : Nat}

/-- What follows the last line feed. -/
def lastLine : List Char → List Char
  | [] => []
  | c :: cs => if '\n' ∈ c :: cs then lastLine cs else c :: cs

theorem not_mem_lastLine (cs : List Char) : '\n' ∉ lastLine cs := by
  induction cs with
  | nil => exact List.not_mem_nil
  | cons c cs ih =>
    rw [lastLine]
    split
    . exact ih
    . next h => exact h

theorem byteLength_lastLine_le (cs : List Char) : byteLength (lastLine cs) ≤ byteLength cs := by
  induction cs with
  | nil => exact Nat.le_refl _
  | cons c cs ih =>
    rw [lastLine]
    split
    . rw [byteLength]
      omega
    . exact Nat.le_refl _

/-- The line of a place is the one that starts with what is before the place since the last line feed. -/
theorem getElem?_rawLines (before after : List Char) :
    (rawLines (before ++ after))[before.count '\n']? = (rawLines (lastLine before ++ after))[0]? := by
  induction before with
  | nil => rfl
  | cons c before ih =>
    rw [lastLine]
    split
    . next hmem =>
      rw [← ih, List.cons_append, rawLines]
      split
      . next hlf =>
        rw [hlf, List.count_cons_self, List.getElem?_cons_succ]
      . next hlf =>
        -- The line feed is further on, so the first line is not the one.
        have hpos : 0 < before.count '\n' := by
          rw [List.count_pos_iff]
          exact (List.mem_cons.mp hmem).resolve_left (Ne.symm hlf)
        rw [List.count_cons_of_ne hlf]
        cases rawLines (before ++ after) with
        | nil => simp [Nat.ne_of_gt hpos]
        | cons l ls =>
          dsimp only
          rw [List.getElem?_cons, List.getElem?_cons, if_neg (by omega), if_neg (by omega)]
    . next hmem => rw [List.count_eq_zero.mpr hmem]

theorem le_byteLength_take (line : List Char) (n : Nat) : n ≤ byteLength (line.take n) + (n - line.length) := by
  have hle := length_le_byteLength (line.take n)
  rw [List.length_take] at hle
  omega

theorem byteLength_take_eq : byteLength (line.take n) + (n - line.length) = n ↔ ∀ c ∈ line.take n, c.toNat < 128 := by
  have hle := length_le_byteLength (line.take n)
  rw [← byteLength_eq_length, List.length_take]
  rw [List.length_take] at hle
  omega

/-- The content of a line has all in it that is before a place on the line, but for a carriage return at its end. -/
theorem prefix_lineContent (more : List Char) (h : '\n' ∉ before) :
    before <+: lineContent (before ++ more) ∨ before = lineContent (before ++ more) ++ ['\r'] := by
  obtain ⟨ending, heq, hending⟩ := lineContent_append (before ++ more)
  generalize lineContent (before ++ more) = content at heq
  rw [List.append_eq_append_iff] at heq
  cases heq with
  | inl hlonger =>
    obtain ⟨x, hcontent, _⟩ := hlonger
    exact .inl ⟨x, hcontent.symm⟩
  | inr hshorter =>
    obtain ⟨x, hbefore, hx⟩ := hshorter
    have hno : '\n' ∉ x := fun hmem => h (hbefore ▸ List.mem_append_right _ hmem)
    have hprefix : x <+: ending := ⟨more, hx.symm⟩
    have hsplit : x = [] ∨ x = ['\r'] := by
      obtain hnil | hlf | hcrlf := hending
      . rw [hnil, List.prefix_nil] at hprefix
        exact .inl hprefix
      . rw [hlf, List.prefix_cons_iff] at hprefix
        refine hprefix.imp_right ?_
        intro ⟨y, hy, _⟩
        exact absurd (by simp [hy]) hno
      . rw [hcrlf, List.prefix_cons_iff] at hprefix
        refine hprefix.imp_right ?_
        intro ⟨y, hy, hprefix⟩
        rw [List.prefix_cons_iff] at hprefix
        cases hprefix with
        | inl hnil => rw [hy, hnil]
        | inr hfeed =>
          obtain ⟨z, hz, _⟩ := hfeed
          exact absurd (by simp [hy, hz]) hno
    obtain hnil | hreturn := hsplit
    . rw [hbefore, hnil, List.append_nil]
      exact .inl (List.prefix_refl _)
    . rw [hreturn] at hbefore
      exact .inr hbefore

/-- As many characters of a line as there are bytes before a place are all ASCII exactly if those before it are. -/
theorem ascii_take_lineContent {more : List Char} (h : '\n' ∉ before) :
    (∀ c ∈ (lineContent (before ++ more)).take (byteLength before), c.toNat < 128) ↔
      ∀ c ∈ before, c.toNat < 128 := by
  have hle := length_le_byteLength before
  cases prefix_lineContent more h with
  | inl hprefix =>
    obtain ⟨rest, heq⟩ := hprefix
    rw [← heq]
    constructor
    . intro hascii c hc
      apply hascii
      rw [List.take_append, List.take_of_length_le hle]
      exact List.mem_append_left _ hc
    . intro hascii
      rw [byteLength_eq_length.mpr hascii, List.take_left]
      exact hascii
  | inr hreturn =>
    generalize lineContent (before ++ more) = content at hreturn
    rw [hreturn, List.length_append] at hle
    rw [List.take_of_length_le (by rw [hreturn]; omega), hreturn, List.forall_mem_append]
    simp

end Places

section Numbers

variable {cs : List Char} {n value : Nat}

theorem isDigit_of_mem_toString {c : Char} (h : c ∈ (toString n).toList) : c.isDigit = true := by
  rw [Nat.toString_eq_repr, Nat.toList_repr] at h
  exact Nat.isDigit_of_mem_toDigits (by decide) (by decide) h

theorem le_ofDigitChars (cs : List Char) (value : Nat) : value ≤ Nat.ofDigitChars 10 cs value := by
  induction cs generalizing value with
  | nil => exact Nat.le_refl value
  | cons c cs ih =>
    rw [Nat.ofDigitChars_cons]
    exact Nat.le_trans (by omega) (ih _)

theorem readDigits_eq (hdigits : ∀ c ∈ cs, c.isDigit = true) (h : Nat.ofDigitChars 10 cs value < wordSize) :
    readDigits value cs = .ok (Nat.ofDigitChars 10 cs value) := by
  induction cs generalizing value with
  | nil => rfl
  | cons c cs ih =>
    rw [List.forall_mem_cons] at hdigits
    rw [Nat.ofDigitChars_cons] at h ⊢
    have hle := le_ofDigitChars cs (10 * value + (c.toNat - '0'.toNat))
    rw [readDigits, digitValue?, if_pos hdigits.1, Nat.mul_comm value]
    dsimp only
    rw [if_pos (by omega)]
    exact ih hdigits.2 h

theorem readNatural_toString (h : n < wordSize) : readNatural (toString n).toList = .ok n := by
  have hdigits : ∀ c ∈ (toString n).toList, c.isDigit = true := fun c => isDigit_of_mem_toString
  have hvalue : Nat.ofDigitChars 10 (toString n).toList 0 = n := by
    rw [Nat.toString_eq_repr, Nat.toList_repr]
    exact Nat.ofDigitChars_toDigits (by decide) (by decide)
  have hread : readDigits 0 (toString n).toList = .ok n := by
    rw [readDigits_eq hdigits (by omega), hvalue]
  unfold readNatural
  split
  . next hnil =>
    rw [Nat.toString_eq_repr, Nat.toList_repr] at hnil
    exact absurd hnil Nat.toDigits_ne_nil
  . next hplus =>
    rw [hplus] at hdigits
    cases hdigits '+' List.mem_cons_self
  . next ds _ hplus =>
    rw [hplus] at hdigits
    cases hdigits '+' List.mem_cons_self
  . exact hread

end Numbers

end Text
end StructuralSearch
