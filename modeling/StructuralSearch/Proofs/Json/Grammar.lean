import StructuralSearch.Json.Reader
import StructuralSearch.Json.Text

/-!
This module contains the grammar of JSON: which texts stand for a string, and which texts are values at all. What the
library writes for a string is among them.
-/

namespace StructuralSearch
namespace Json

/-- Four hexadecimal digits, in either case. -/
def IsFourHex (n : Nat) (digits : List Char) : Prop :=
  digits.length = 4 ∧ (∀ c ∈ digits, (Unicode.hexDigit? c).isSome) ∧ Unicode.hexValue digits = n

/-- The letters that may follow a backslash, and what they stand for. -/
def shortForms : List (Char × Char) :=
  [('"', '"'), ('\\', '\\'), ('/', '/'), ('b', '\x08'), ('f', '\x0c'), ('n', '\n'), ('r', '\r'), ('t', '\t')]

/-- The texts that stand for a character of a string. -/
inductive CharText (c : Char) : List Char → Prop where
  | plain (hcontrol : 0x20 ≤ c.toNat) (hquote : c ≠ '"') (hbackslash : c ≠ '\\') : CharText c [c]
  | short {letter : Char} (h : (letter, c) ∈ shortForms) : CharText c ['\\', letter]
  | unit {digits : List Char} (h : IsFourHex c.toNat digits) : CharText c ('\\' :: 'u' :: digits)
  | pair {high low : List Char} (h : 0x10000 ≤ c.toNat)
      (hhigh : IsFourHex (0xD800 + (c.toNat - 0x10000) / 0x400) high)
      (hlow : IsFourHex (0xDC00 + (c.toNat - 0x10000) % 0x400) low) :
      CharText c ('\\' :: 'u' :: (high ++ '\\' :: 'u' :: low))

inductive CharsText : List Char → List Char → Prop where
  | nil : CharsText [] []
  | cons {c : Char} {cs text texts : List Char} (h : CharText c text) (hs : CharsText cs texts) :
      CharsText (c :: cs) (text ++ texts)

/-- The texts that stand for a string. -/
def StringText (s : String) (text : List Char) : Prop :=
  ∃ body, CharsText s.toList body ∧ text = '"' :: (body ++ ['"'])

def Blank (text : List Char) : Prop :=
  ∀ c ∈ text, Reader.isBlank c = true

/-- What stands before an item: blanks, with a comma among them unless the item is the first. -/
def Lead (first : Bool) (text : List Char) : Prop :=
  if first then Blank text else ∃ b b', Blank b ∧ Blank b' ∧ text = b ++ ',' :: b'

/-- What stands between brackets: items with commas between them, and with blanks around them. -/
inductive Listed {α : Type} (Item : α → List Char → Prop) : Bool → List α → List Char → Prop where
  | nil {first : Bool} {b : List Char} (hb : Blank b) : Listed Item first [] b
  | cons {first : Bool} {lead text texts : List Char} {x : α} {xs : List α} (hlead : Lead first lead) (hx : Item x text)
      (hxs : Listed Item false xs texts) : Listed Item first (x :: xs) (lead ++ (text ++ texts))

/-- The texts of arrays of strings. -/
def StringsText (ss : List String) (text : List Char) : Prop :=
  ∃ inner, Listed StringText true ss inner ∧ text = '[' :: (inner ++ [']'])

/-- A key and the text of its value. -/
structure Member where
  key : String
  value : List Char

/-- The texts of a member. -/
def MemberText (m : Member) (text : List Char) : Prop :=
  ∃ key b b', StringText m.key key ∧ Blank b ∧ Blank b' ∧ text = key ++ (b ++ ':' :: (b' ++ m.value))

/-- The texts of numbers, taken apart. -/
structure NumberText (text sign whole fraction exponent : List Char) : Prop where
  parts : text = sign ++ whole ++ fraction ++ exponent
  sign : sign = [] ∨ sign = ['-']
  whole : whole = ['0'] ∨ ∃ d ds, whole = d :: ds ∧ d ≠ '0' ∧ ∀ c ∈ whole, c.isDigit = true
  fraction : fraction = [] ∨ ∃ ds, fraction = '.' :: ds ∧ ds ≠ [] ∧ ∀ c ∈ ds, c.isDigit = true
  exponent : exponent = [] ∨ ∃ e sign ds, exponent = e :: (sign ++ ds) ∧ (e = 'e' ∨ e = 'E') ∧
    (sign = [] ∨ sign = ['+'] ∨ sign = ['-']) ∧ ds ≠ [] ∧ ∀ c ∈ ds, c.isDigit = true

def nullText : List Char :=
  ['n', 'u', 'l', 'l']

def booleanText : Bool → List Char
  | true => ['t', 'r', 'u', 'e']
  | false => ['f', 'a', 'l', 's', 'e']

/-- The texts of values of any type. -/
inductive ValueText : List Char → Prop where
  | null : ValueText nullText
  | boolean (flag : Bool) : ValueText (booleanText flag)
  | number {text sign whole fraction exponent : List Char} (h : NumberText text sign whole fraction exponent) :
      ValueText text
  | string {s : String} {text : List Char} (h : StringText s text) : ValueText text
  | array {values : List (List Char)} {inner : List Char} (h : Listed Eq true values inner)
      (hvalues : ∀ v ∈ values, ValueText v) : ValueText ('[' :: (inner ++ [']']))
  | object {members : List Member} {inner : List Char} (h : Listed MemberText true members inner)
      (hvalues : ∀ m ∈ members, ValueText m.value) : ValueText ('{' :: (inner ++ ['}']))

/-- The texts of objects with the given members, with blanks around them. -/
def ObjectText (members : List Member) (text : List Char) : Prop :=
  ∃ b inner b', Blank b ∧ Listed MemberText true members inner ∧ Blank b' ∧ text = b ++ '{' :: (inner ++ '}' :: b')

theorem blank_nil : Blank [] := by
  intro c hc
  cases hc

theorem NumberText.start {text sign whole fraction exponent : List Char}
    (h : NumberText text sign whole fraction exponent) : ∃ c cs, text = c :: cs ∧ (c = '-' ∨ c.isDigit = true) := by
  obtain ⟨hparts, hsign, hwhole, _, _⟩ := h
  subst hparts
  cases hsign with
  | inr hsign =>
    subst hsign
    exact ⟨'-', _, rfl, .inl rfl⟩
  | inl hsign =>
    subst hsign
    cases hwhole with
    | inl hwhole =>
      subst hwhole
      exact ⟨'0', _, rfl, .inr rfl⟩
    | inr hwhole =>
      obtain ⟨d, ds, hwhole, _, hdigits⟩ := hwhole
      subst hwhole
      exact ⟨d, _, rfl, .inr (hdigits d List.mem_cons_self)⟩

/-- The type of a value shows in its first character. -/
structure StartsValue (c : Char) (text : List Char) : Prop where
  notBlank : Reader.isBlank c = false
  notClosing : c ≠ ']'
  null : c = 'n' → text = nullText
  boolean : c = 't' ∨ c = 'f' → ∃ flag, text = booleanText flag
  string : c = '"' → ∃ s, StringText s text
  array : c = '[' → ∃ values inner, Listed Eq true values inner ∧ (∀ v ∈ values, ValueText v) ∧
    text = '[' :: (inner ++ [']'])

theorem ValueText.start {text : List Char} (h : ValueText text) : ∃ c cs, text = c :: cs ∧ StartsValue c text := by
  cases h with
  | null =>
    refine ⟨_, _, rfl, ⟨rfl, by decide, fun _ => rfl, ?_, ?_, ?_⟩⟩
    all_goals exact fun h => absurd h (by decide)
  | boolean flag =>
    cases flag
    all_goals
      refine ⟨_, _, rfl, ⟨rfl, by decide, ?_, fun _ => ⟨_, rfl⟩, ?_, ?_⟩⟩
      all_goals exact fun h => absurd h (by decide)
  | number h =>
    obtain ⟨c, cs, htext, hc⟩ := h.start
    have hother : ∀ c' : Char, c' ≠ '-' → c'.isDigit = false → c ≠ c' := by
      intro c' hminus hdigit heq
      subst heq
      cases hc with
      | inl hc => exact hminus hc
      | inr hc => exact Bool.false_ne_true (hdigit.symm.trans hc)
    refine ⟨c, cs, htext, ⟨?_, hother ']' (by decide) rfl, ?_, ?_, ?_, ?_⟩⟩
    . simp [Reader.isBlank, hother ' ' (by decide) rfl, hother '\n' (by decide) rfl, hother '\t' (by decide) rfl,
        hother '\r' (by decide) rfl]
    . exact fun h => absurd h (hother 'n' (by decide) rfl)
    . exact fun h => absurd h (not_or.mpr ⟨hother 't' (by decide) rfl, hother 'f' (by decide) rfl⟩)
    . exact fun h => absurd h (hother '"' (by decide) rfl)
    . exact fun h => absurd h (hother '[' (by decide) rfl)
  | string h =>
    obtain ⟨body, hbody, htext⟩ := h
    refine ⟨_, _, htext, ⟨rfl, by decide, ?_, ?_, fun _ => ⟨_, body, hbody, htext⟩, ?_⟩⟩
    all_goals exact fun h => absurd h (by decide)
  | array h hvalues =>
    refine ⟨_, _, rfl, ⟨rfl, by decide, ?_, ?_, ?_, fun _ => ⟨_, _, h, hvalues, rfl⟩⟩⟩
    all_goals exact fun h => absurd h (by decide)
  | object h hvalues =>
    refine ⟨_, _, rfl, ⟨rfl, by decide, ?_, ?_, ?_, ?_⟩⟩
    all_goals exact fun h => absurd h (by decide)

theorem CharText.ne_nil {c : Char} {text : List Char} (h : CharText c text) : text ≠ [] := by
  cases h <;> exact List.cons_ne_nil _ _

theorem CharsText.length_le {cs text : List Char} (h : CharsText cs text) : cs.length ≤ text.length := by
  induction h with
  | nil => exact Nat.le_refl 0
  | cons hc _ ih =>
    have hpos : 0 < _ := List.length_pos_iff.mpr hc.ne_nil
    rw [List.length_cons, List.length_append]
    omega

theorem StringText.ne_nil {s : String} {text : List Char} (h : StringText s text) : text ≠ [] := by
  obtain ⟨body, _, htext⟩ := h
  rw [htext]
  exact List.cons_ne_nil _ _

theorem Listed.length_le {α : Type} {Item : α → List Char → Prop} {first : Bool} {xs : List α} {text : List Char}
    (h : Listed Item first xs text) (hitem : ∀ x t, Item x t → t ≠ []) : xs.length ≤ text.length := by
  induction h with
  | nil => exact Nat.zero_le _
  | cons _ hx _ ih =>
    have hpos : 0 < _ := List.length_pos_iff.mpr (hitem _ _ hx)
    rw [List.length_cons, List.length_append, List.length_append]
    omega

theorem exists_listed {α : Type} {Item : α → List Char → Prop} (xs : List α) (h : ∀ x ∈ xs, ∃ text, Item x text)
    (first : Bool) : ∃ text, Listed Item first xs text := by
  induction xs generalizing first with
  | nil => exact ⟨[], .nil blank_nil⟩
  | cons x xs ih =>
    rw [List.forall_mem_cons] at h
    obtain ⟨⟨text, htext⟩, h⟩ := h
    obtain ⟨texts, htexts⟩ := ih h false
    cases first with
    | true => exact ⟨_, .cons blank_nil htext htexts⟩
    | false => exact ⟨_, .cons ⟨[], [], blank_nil, blank_nil, rfl⟩ htext htexts⟩

theorem charText_escapeChar (c : Char) : CharText c (escapeChar c) := by
  unfold escapeChar
  iterate 7
    split
    . next h => exact .short (by simp [h, shortForms])
  split
  . next hcontrol =>
    have hfour : ∀ n < 0x20, IsFourHex n (fourHex n) := by
      unfold IsFourHex
      simp only [← List.all_eq_true]
      decide
    exact .unit (hfour _ hcontrol)
  . next hquote hbackslash _ _ _ _ _ hcontrol => exact .plain (Nat.le_of_not_lt hcontrol) hquote hbackslash

theorem stringText_renderString (s : String) : StringText s (renderString s).toList := by
  have hchars : ∀ cs : List Char, CharsText cs (cs.flatMap escapeChar) := by
    intro cs
    induction cs with
    | nil => exact .nil
    | cons c cs ih =>
      rw [List.flatMap_cons]
      exact .cons (charText_escapeChar c) ih
  exact ⟨_, hchars s.toList, by simp [renderString]⟩

end Json
end StructuralSearch
