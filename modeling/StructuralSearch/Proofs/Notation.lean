import Mathlib.Algebra.Group.Nat.Defs
import StructuralSearch.Proofs.Location

/-!
This module contains which texts are locations. A location is a file, a line and a column with colons between them, and
it can be read in one way only: line and column have no colons in them, whatever the file has.
-/

namespace StructuralSearch
namespace Text

variable {cs : List Char} {n value : Nat}

/-- The text writes the number in decimal digits, which may have a plus sign before them. -/
def IsNumeral (cs : List Char) (n : Nat) : Prop :=
  ∃ digits, (cs = digits ∨ cs = '+' :: digits) ∧ digits ≠ [] ∧ (∀ c ∈ digits, c.isDigit = true) ∧
    Nat.ofDigitChars 10 digits 0 = n

theorem readDigits_eq_ok (hvalue : value < wordSize) :
    readDigits value cs = .ok n ↔
      (∀ c ∈ cs, c.isDigit = true) ∧ Nat.ofDigitChars 10 cs value = n ∧ n < wordSize := by
  constructor
  . intro h
    induction cs generalizing value with
    | nil =>
      cases h
      exact ⟨by simp, rfl, hvalue⟩
    | cons c cs ih =>
      rw [readDigits, digitValue?] at h
      split at h
      . cases h
      . next d hd =>
        split at h
        . next hsmall =>
          obtain ⟨hdigits, hn⟩ := ih hsmall h
          obtain ⟨hc, heq⟩ := Option.ite_none_right_eq_some.mp hd
          rw [Option.some.injEq] at heq
          subst heq
          rw [List.forall_mem_cons, Nat.ofDigitChars_cons, Nat.mul_comm]
          exact ⟨⟨hc, hdigits⟩, hn⟩
        . cases h
  . intro h
    obtain ⟨hdigits, heq, hn⟩ := h
    subst heq
    exact readDigits_eq hdigits hn

theorem isNumeral_plus {ds : List Char} : IsNumeral ('+' :: ds) n ↔
    ds ≠ [] ∧ (∀ c ∈ ds, c.isDigit = true) ∧ Nat.ofDigitChars 10 ds 0 = n := by
  constructor
  . intro h
    obtain ⟨digits, heq | heq, hne, hdigits, hn⟩ := h
    . subst heq
      cases hdigits '+' List.mem_cons_self
    . cases heq
      exact ⟨hne, hdigits, hn⟩
  . intro h
    exact ⟨ds, .inr rfl, h⟩

theorem isNumeral_of_unsigned (h : ∀ ds, cs ≠ '+' :: ds) : IsNumeral cs n ↔
    cs ≠ [] ∧ (∀ c ∈ cs, c.isDigit = true) ∧ Nat.ofDigitChars 10 cs 0 = n := by
  constructor
  . intro hnumeral
    obtain ⟨digits, heq | heq, hdigits⟩ := hnumeral
    . subst heq
      exact hdigits
    . exact absurd heq (h digits)
  . intro hdigits
    exact ⟨cs, .inl rfl, hdigits⟩

theorem readNatural_eq_ok : readNatural cs = .ok n ↔ IsNumeral cs n ∧ n < wordSize := by
  have hread : ∀ ds, readDigits 0 ds = .ok n ↔
      (∀ c ∈ ds, c.isDigit = true) ∧ Nat.ofDigitChars 10 ds 0 = n ∧ n < wordSize :=
    fun ds => readDigits_eq_ok (by decide)
  unfold readNatural
  split
  . rw [isNumeral_of_unsigned (by simp)]
    simp
  . rw [isNumeral_plus]
    simp
  . next ds hne =>
    have hds : ds ≠ [] := by
      intro hnil
      exact hne (by rw [hnil])
    rw [hread, isNumeral_plus]
    simp [hds, and_assoc]
  . next hnil _ hsign =>
    have hcs : cs ≠ [] := hnil
    rw [hread, isNumeral_of_unsigned hsign]
    simp [hcs, and_assoc]

end Text

namespace Location

variable {a b cs : List Char} {file line column text : String}

/-- The text is a file, a line and a column with colons between them. Line and column have no colons in them. -/
structure Divides (file line column text : String) : Prop where
  text_eq : text = file ++ ":" ++ line ++ ":" ++ column
  line_free : ':' ∉ line.toList
  column_free : ':' ∉ column.toList

theorem splitLast?_eq_some : splitLast? cs = some (a, b) ↔ cs = a ++ ':' :: b ∧ ':' ∉ b := by
  constructor
  . intro h
    unfold splitLast? at h
    have hcs := List.takeWhile_append_dropWhile (p := (· != ':')) (l := cs.reverse)
    have hfree : ':' ∉ cs.reverse.takeWhile (· != ':') := by
      intro hmem
      have hne := List.all_eq_true.mp List.all_takeWhile _ hmem
      simp at hne
    cases hrest : cs.reverse.dropWhile (· != ':') with
    | nil =>
      rw [hrest] at h
      cases h
    | cons c before =>
      have hc : c = ':' := by
        have hhead := List.head_dropWhile_not (· != ':') (l := cs.reverse) (by simp [hrest])
        simpa [hrest] using hhead
      subst hc
      rw [hrest] at h hcs
      simp only [Option.some.injEq, Prod.mk.injEq] at h
      rw [← h.1, ← h.2, List.mem_reverse]
      have hreverse := congrArg List.reverse hcs
      rw [List.reverse_reverse, List.reverse_append, List.reverse_cons, List.append_assoc] at hreverse
      exact ⟨hreverse.symm, hfree⟩
  . intro h
    obtain ⟨hcs, hfree⟩ := h
    subst hcs
    exact splitLast?_append hfree

theorem split?_eq_some : split? text.toList = some (file.toList, line.toList, column.toList) ↔
    Divides file line column text := by
  have htext : text = file ++ ":" ++ line ++ ":" ++ column ↔
      text.toList = (file.toList ++ ':' :: line.toList) ++ ':' :: column.toList := by
    rw [← String.toList_inj]
    simp [String.toList_append]
  unfold split?
  simp only [bind, Option.bind_eq_some_iff, pure, Option.some.injEq, Prod.exists, Prod.mk.injEq]
  constructor
  . intro h
    obtain ⟨front, last, hfront, first, middle, hmiddle, rfl, rfl, rfl⟩ := h
    obtain ⟨hfront, hcolumn⟩ := splitLast?_eq_some.mp hfront
    obtain ⟨hmiddle, hline⟩ := splitLast?_eq_some.mp hmiddle
    rw [hmiddle] at hfront
    exact ⟨htext.mpr hfront, hline, hcolumn⟩
  . intro h
    exact ⟨_, _, splitLast?_eq_some.mpr ⟨htext.mp h.text_eq, h.column_free⟩, _, _,
      splitLast?_eq_some.mpr ⟨rfl, h.line_free⟩, rfl, rfl, rfl⟩

theorem Divides.unique {file' line' column' : String} (h : Divides file line column text)
    (h' : Divides file' line' column' text) : file = file' ∧ line = line' ∧ column = column' := by
  have hsplit := split?_eq_some.mpr h
  rw [split?_eq_some.mpr h'] at hsplit
  simpa [String.toList_inj, eq_comm] using hsplit

theorem parse_of_divides (h : Divides file line column text) {place : Location} :
    parse text = .ok place ↔ ∃ l c, Text.IsNumeral line.toList l ∧ l < Text.wordSize ∧
      Text.IsNumeral column.toList c ∧ c < Text.wordSize ∧ l ≠ 0 ∧ c ≠ 0 ∧ file ≠ "" ∧
      place = { file, row := l - 1, column := c - 1 } := by
  unfold parse
  rw [split?_eq_some.mpr h]
  simp only [bind_eq_ok, mapError_eq_ok, Text.readNatural_eq_ok, String.toList_eq_nil_iff, String.ofList_toList]
  constructor
  . intro hread
    obtain ⟨l, ⟨hline, hl⟩, c, ⟨hcolumn, hc⟩, hplace⟩ := hread
    split at hplace
    . cases hplace
    . next hpos =>
      cases hplace
      simp only [not_or] at hpos
      exact ⟨l, c, hline, hl, hcolumn, hc, hpos.1, hpos.2.1, hpos.2.2, rfl⟩
  . intro hplace
    obtain ⟨l, c, hline, hl, hcolumn, hc, hl0, hc0, hfile, rfl⟩ := hplace
    refine ⟨l, ⟨hline, hl⟩, c, ⟨hcolumn, hc⟩, ?_⟩
    rw [if_neg (by simp [hl0, hc0, hfile])]
    rfl

theorem exists_divides {place : Location} (h : parse text = .ok place) :
    ∃ file line column, Divides file line column text := by
  unfold parse at h
  split at h
  . cases h
  . next first middle last hsplit =>
    refine ⟨String.ofList first, String.ofList middle, String.ofList last, split?_eq_some.mp ?_⟩
    simpa using hsplit

/--
A text is a location exactly if it is a file that is not empty, a line and a column with colons between them, where
line and column are numerals of what fits in a word and is not zero. There is one way at most to divide it so, and the
location counts both from zero. So what is printed for a file, a line and a column is read as these.
-/
theorem parse_notation :
    (∀ (text : String) (place : Location), parse text = .ok place ↔
      ∃ file line column l c, Divides file line column text ∧ file ≠ "" ∧
        Text.IsNumeral line.toList l ∧ 1 ≤ l ∧ l < 2 ^ 64 ∧ Text.IsNumeral column.toList c ∧ 1 ≤ c ∧ c < 2 ^ 64 ∧
        place = { file, row := l - 1, column := c - 1 }) ∧
    (∀ text file line column file' line' column', Divides file line column text →
      Divides file' line' column' text → file = file' ∧ line = line' ∧ column = column') ∧
    ∀ (file : String) (line column : Nat), file ≠ "" → 1 ≤ line → line < 2 ^ 64 → 1 ≤ column → column < 2 ^ 64 →
      parse (file ++ ":" ++ toString line ++ ":" ++ toString column)
        = .ok { file, row := line - 1, column := column - 1 } := by
  have hword : Text.wordSize = 2 ^ 64 := by decide
  refine ⟨?_, ?_, ?_⟩
  . intro text place
    constructor
    . intro h
      obtain ⟨file, line, column, hdivides⟩ := exists_divides h
      obtain ⟨l, c, hline, hl, hcolumn, hc, hl0, hc0, hfile, hplace⟩ := (parse_of_divides hdivides).mp h
      rw [hword] at hl hc
      exact ⟨file, line, column, l, c, hdivides, hfile, hline, by omega, hl, hcolumn, by omega, hc, hplace⟩
    . intro h
      obtain ⟨file, line, column, l, c, hdivides, hfile, hline, hl0, hl, hcolumn, hc0, hc, hplace⟩ := h
      rw [← hword] at hl hc
      exact (parse_of_divides hdivides).mpr ⟨l, c, hline, hl, hcolumn, hc, by omega, by omega, hfile, hplace⟩
  . intro text file line column file' line' column' h h'
    exact h.unique h'
  . intro file line column hfile hline0 hline hcolumn0 hcolumn
    rw [← hword] at hline hcolumn
    obtain ⟨row, rfl⟩ := Nat.exists_eq_add_of_le' hline0
    obtain ⟨col, rfl⟩ := Nat.exists_eq_add_of_le' hcolumn0
    exact parse_eq_ok hfile hline hcolumn

/-- A plus sign, a leading zero and a colon in the name of the file do no harm. -/
theorem parse_colonInFile :
    Divides "C:/A.cs" "+3" "05" "C:/A.cs:+3:05" ∧
      parse "C:/A.cs:+3:05" = .ok { file := "C:/A.cs", row := 2, column := 4 } ∧
      parse ("C:/A.cs" ++ ":" ++ toString 3 ++ ":" ++ toString 18446744073709551615)
        = .ok { file := "C:/A.cs", row := 2, column := 18446744073709551614 } := by
  have hdivides : Divides "C:/A.cs" "+3" "05" "C:/A.cs:+3:05" := ⟨by decide, by decide, by decide⟩
  have hline : Text.IsNumeral "+3".toList 3 := ⟨['3'], .inr (by decide), by decide, by simp, by decide⟩
  have hcolumn : Text.IsNumeral "05".toList 5 := ⟨['0', '5'], .inl (by decide), by decide, by simp, by decide⟩
  obtain ⟨hread, _, hprinted⟩ := parse_notation
  refine ⟨hdivides, ?_, ?_⟩
  . exact (hread _ _).mpr ⟨_, _, _, 3, 5, hdivides, by decide, hline, by decide, by decide, hcolumn, by decide,
      by decide, rfl⟩
  . exact hprinted "C:/A.cs" 3 18446744073709551615 (by decide) (by decide) (by decide) (by decide) (by decide)

end Location
end StructuralSearch
