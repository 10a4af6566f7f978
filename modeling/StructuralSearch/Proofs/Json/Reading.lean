import StructuralSearch.Proofs.Failure
import StructuralSearch.Proofs.Json.Grammar
import StructuralSearch.Proofs.Text

/-!
This module contains what the readers of JSON make of texts of the grammar. A text of what is expected is read up to its
end, whatever follows; a value of another type is never read as something else.
-/

namespace StructuralSearch
namespace Json

variable {ε α β : Type} {b text : List Char}

/-- Reads the text up to its end, whatever follows. -/
def Reads (r : Reader ε α) (text : List Char) (a : α) : Prop :=
  ∀ rest, r.run (text ++ rest) = .ok (a, rest)

/-- Stops nowhere but at the end of the text, whatever follows, unless it fails. -/
def Stops (r : Reader ε α) (text : List Char) : Prop :=
  ∀ rest a left, r.run (text ++ rest) = .ok (a, left) → left = rest

theorem Reads.stops {r : Reader ε α} {a : α} (h : Reads r text a) : Stops r text := by
  intro rest a' left hrun
  rw [h rest] at hrun
  cases hrun
  rfl

theorem run_bind_of_ok {r : Reader ε α} {a : α} {cs cs' : List Char} (h : r.run cs = .ok (a, cs'))
    (k : α → Reader ε β) : (r >>= k).run cs = (k a).run cs' := by
  rw [StateT.run_bind, h]
  rfl

theorem Reads.run_bind {r : Reader ε α} {a : α} (h : Reads r text a) (k : α → Reader ε β) (rest : List Char) :
    (r >>= k).run (text ++ rest) = (k a).run rest :=
  run_bind_of_ok (h rest) k

theorem Stops.bind_pure {r : Reader ε α} (h : Stops r text) (f : α → β) :
    Stops (do return f (← r) : Reader ε β) text := by
  intro rest a left hrun
  rw [StateT.run_bind, bind_eq_ok] at hrun
  obtain ⟨p, hp, heq⟩ := hrun
  cases heq
  exact h rest p.1 p.2 hp

/-- Blanks before what is read do not count. -/
def SkipsBlanks (r : Reader ε α) : Prop :=
  ∀ b cs, Blank b → r.run (b ++ cs) = r.run cs

theorem SkipsBlanks.bind {r : Reader ε α} (h : SkipsBlanks r) (k : α → Reader ε β) : SkipsBlanks (r >>= k) := by
  intro b cs hb
  rw [StateT.run_bind, StateT.run_bind, h b cs hb]

namespace Reader

theorem run_next_bind (k : List Char → Reader ε α) (cs : List Char) :
    (next >>= k).run cs = (k (cs.dropWhile isBlank)).run (cs.dropWhile isBlank) :=
  rfl

theorem skipsBlanks_next : SkipsBlanks (next : Reader ε (List Char)) := by
  intro b cs hb
  change Except.ok _ = Except.ok _
  rw [List.dropWhile_append_of_pos hb]

theorem run_next_bind_blank (hb : Blank b) (k : List Char → Reader ε α) (cs : List Char) :
    (next >>= k).run (b ++ cs) = (next >>= k).run cs :=
  skipsBlanks_next.bind k b cs hb

theorem run_next_bind_cons {c : Char} (hc : isBlank c = false) (k : List Char → Reader ε α) (cs : List Char) :
    (next >>= k).run (c :: cs) = (k (c :: cs)).run (c :: cs) := by
  rw [run_next_bind, List.dropWhile_cons_of_neg (by simp [hc])]

theorem run_set_bind (cs cs' : List Char) (k : PUnit → Reader ε α) : (set cs >>= k).run cs' = (k ⟨⟩).run cs :=
  rfl

theorem reads_word (w : List Char) : Reads (word w : Reader ε Unit) w () := by
  intro rest
  induction w with
  | nil => rfl
  | cons c w ih =>
    unfold word
    simp only [List.cons_append, StateT.run_bind, StateT.run_get, pure_bind, if_true, StateT.run_set]
    exact ih

theorem reads_fourHexDigits {n : Nat} {digits : List Char} (h : IsFourHex n digits) :
    Reads (fourHexDigits : Reader ε Nat) digits n := by
  obtain ⟨hlength, hdigits, hvalue⟩ := h
  intro rest
  have hbytes : ¬ Text.byteLength (digits ++ rest) < 4 := by
    have hle := Text.length_le_byteLength (digits ++ rest)
    rw [List.length_append] at hle
    omega
  have htake : (digits ++ rest).take 4 = digits := by rw [← hlength, List.take_left]
  have hdrop : (digits ++ rest).drop 4 = rest := by rw [← hlength, List.drop_left]
  have hall : digits.length = 4 ∧ digits.all (fun c => (Unicode.hexDigit? c).isSome) = true :=
    ⟨hlength, List.all_eq_true.mpr hdigits⟩
  unfold fourHexDigits
  simp only [StateT.run_bind, StateT.run_get, pure_bind, hbytes, if_false, htake, hall, and_self, if_true,
    StateT.run_set, hdrop, hvalue]
  rfl

theorem reads_unicodeEscape_unit {c : Char} {digits : List Char} (h : IsFourHex c.toNat digits) :
    Reads (unicodeEscape : Reader ε Char) digits c := by
  have hvalid : ¬ (0xDC00 ≤ c.toNat ∧ c.toNat ≤ 0xDFFF) ∧ (c.toNat < 0xD800 ∨ 0xDBFF < c.toNat) := by
    have hc := c.valid
    simp only [UInt32.isValidChar, Nat.isValidChar, Char.toNat] at hc ⊢
    omega
  intro rest
  unfold unicodeEscape
  rw [(reads_fourHexDigits h).run_bind, if_neg hvalid.1, if_pos hvalid.2, Char.ofNat_toNat]
  rfl

theorem reads_unicodeEscape_pair {c : Char} {high low : List Char} (h : 0x10000 ≤ c.toNat)
    (hhigh : IsFourHex (0xD800 + (c.toNat - 0x10000) / 0x400) high)
    (hlow : IsFourHex (0xDC00 + (c.toNat - 0x10000) % 0x400) low) :
    Reads (unicodeEscape : Reader ε Char) (high ++ '\\' :: 'u' :: low) c := by
  have hvalid : c.toNat < 0x110000 := by
    have hc := c.valid
    simp only [UInt32.isValidChar, Nat.isValidChar, Char.toNat] at hc ⊢
    omega
  have hcode : 0x10000 + (0xD800 + (c.toNat - 0x10000) / 0x400 - 0xD800) * 0x400 +
      (0xDC00 + (c.toNat - 0x10000) % 0x400 - 0xDC00) = c.toNat := by
    omega
  intro rest
  unfold unicodeEscape
  rw [List.append_assoc, (reads_fourHexDigits hhigh).run_bind, if_neg (by omega), if_neg (by omega)]
  change (word ['\\', 'u'] >>= _).run (['\\', 'u'] ++ (low ++ rest)) = _
  rw [(reads_word _).run_bind, (reads_fourHexDigits hlow).run_bind, if_pos (by omega), hcode, Char.ofNat_toNat]
  rfl

theorem reads_escape_short {c letter : Char} (h : (letter, c) ∈ shortForms) :
    Reads (escape : Reader ε Char) [letter] c := by
  intro rest
  simp only [shortForms, List.mem_cons, Prod.mk.injEq, List.not_mem_nil, or_false] at h
  rcases h with h | h | h | h | h | h | h | h
  all_goals
    obtain ⟨hletter, hc⟩ := h
    subst hletter hc
    rfl

theorem reads_escape_u {c : Char} (h : Reads (unicodeEscape : Reader ε Char) text c) :
    Reads (escape : Reader ε Char) ('u' :: text) c :=
  fun rest => h rest

/-- One step of the reading of a string. -/
theorem run_stringBody_char {c : Char} (h : CharText c text) (fuel : Nat) (rest : List Char) :
    (stringBody (fuel + 1) : Reader ε (List Char)).run (text ++ rest) =
      (do return c :: (← stringBody fuel) : Reader ε (List Char)).run rest := by
  have hescape : ∀ text, Reads (escape : Reader ε Char) text c →
      (stringBody (fuel + 1) : Reader ε (List Char)).run ('\\' :: text ++ rest) =
        (do return c :: (← stringBody fuel) : Reader ε (List Char)).run rest := by
    intro text htext
    exact htext.run_bind (fun c => do return c :: (← stringBody fuel)) rest
  cases h with
  | plain hcontrol hquote hbackslash =>
    rw [stringBody]
    simp only [List.singleton_append, StateT.run_bind, StateT.run_get, pure_bind, StateT.run_set, if_neg hquote,
      if_neg hbackslash, if_neg (Nat.not_lt.mpr hcontrol)]
  | short h => exact hescape _ (reads_escape_short h)
  | unit h => exact hescape _ (reads_escape_u (reads_unicodeEscape_unit h))
  | pair h hhigh hlow => exact hescape _ (reads_escape_u (reads_unicodeEscape_pair h hhigh hlow))

theorem run_stringBody {cs : List Char} (h : CharsText cs text) {fuel : Nat} (hfuel : cs.length < fuel)
    (rest : List Char) :
    (stringBody fuel : Reader ε (List Char)).run (text ++ '"' :: rest) = .ok (cs, rest) := by
  induction h generalizing fuel with
  | nil =>
    obtain ⟨fuel, rfl⟩ := Nat.exists_eq_add_one_of_ne_zero (Nat.ne_of_gt hfuel)
    rfl
  | cons hc _ ih =>
    obtain ⟨fuel, rfl⟩ := Nat.exists_eq_add_one_of_ne_zero (Nat.ne_of_gt (Nat.zero_lt_of_lt hfuel))
    rw [List.append_assoc, run_stringBody_char hc, run_bind_of_ok (ih (Nat.lt_of_succ_lt_succ hfuel))]
    rfl

theorem reads_string {s : String} (h : StringText s text) : Reads (string : Reader ε String) text s := by
  obtain ⟨body, hbody, htext⟩ := h
  subst htext
  intro rest
  have hfuel : s.toList.length < (body ++ '"' :: rest).length + 1 := by
    have hle := hbody.length_le
    rw [List.length_append]
    omega
  have hquote : isBlank '"' = false := rfl
  rw [List.cons_append, List.append_assoc, string, run_next_bind_cons hquote]
  change (do return String.ofList (← stringBody ((body ++ '"' :: rest).length + 1)) : Reader ε String).run _ = _
  rw [List.singleton_append, run_bind_of_ok (run_stringBody hbody hfuel rest)]
  change Except.ok (String.ofList s.toList, rest) = _
  rw [String.ofList_toList]

theorem run_mismatch (expected : String) (cs : List Char) (p : α × List Char) :
    (mismatch expected : Reader ε α).run cs ≠ .ok p := by
  intro h
  unfold mismatch at h
  rw [StateT.run_bind, bind_eq_ok] at h
  obtain ⟨_, _, h⟩ := h
  cases h

theorem stops_string (h : ValueText text) : Stops (string : Reader ε String) text := by
  obtain ⟨c, cs, htext, hstart⟩ := h.start
  by_cases hc : c = '"'
  . obtain ⟨s, hs⟩ := hstart.string hc
    exact (reads_string hs).stops
  . intro rest a left hrun
    rw [htext, List.cons_append, string, run_next_bind_cons hstart.notBlank] at hrun
    split at hrun
    . next heq => cases heq
    . next heq => cases heq; contradiction
    . exact absurd hrun (run_mismatch _ _ _)

theorem reads_optionalString_null : Reads (optionalString : Reader ε (Option String)) nullText none :=
  fun _ => rfl

theorem run_optionalString {c : Char} (hblank : isBlank c = false) (hc : c ≠ 'n') (cs : List Char) :
    (optionalString : Reader ε (Option String)).run (c :: cs) = (do return some (← string)).run (c :: cs) := by
  rw [optionalString, run_next_bind_cons hblank]
  split
  . next heq => cases heq; contradiction
  . rfl

theorem reads_optionalString {s : String} (h : StringText s text) :
    Reads (optionalString : Reader ε (Option String)) text (some s) := by
  obtain ⟨body, hbody, htext⟩ := h
  intro rest
  have hquote : isBlank '"' = false := rfl
  rw [htext, List.cons_append, run_optionalString hquote (by decide)]
  exact (reads_string ⟨body, hbody, rfl⟩).run_bind (fun s => pure (some s)) rest

theorem stops_optionalString (h : ValueText text) : Stops (optionalString : Reader ε (Option String)) text := by
  obtain ⟨c, cs, htext, hstart⟩ := h.start
  by_cases hc : c = 'n'
  . rw [hstart.null hc]
    exact reads_optionalString_null.stops
  . intro rest a left hrun
    rw [htext, List.cons_append, run_optionalString hstart.notBlank hc, ← List.cons_append, ← htext] at hrun
    exact (stops_string h).bind_pure _ rest a left hrun

theorem reads_boolean (flag : Bool) : Reads (boolean : Reader ε Bool) (booleanText flag) flag := by
  intro rest
  cases flag <;> rfl

theorem stops_boolean (h : ValueText text) : Stops (boolean : Reader ε Bool) text := by
  obtain ⟨c, cs, htext, hstart⟩ := h.start
  by_cases hc : c = 't' ∨ c = 'f'
  . obtain ⟨flag, hflag⟩ := hstart.boolean hc
    rw [hflag]
    exact (reads_boolean flag).stops
  . rw [not_or] at hc
    intro rest a left hrun
    rw [htext, List.cons_append, boolean, run_next_bind_cons hstart.notBlank] at hrun
    split at hrun
    . next heq => cases heq
    . next heq => cases heq; exact absurd rfl hc.1
    . next heq => cases heq; exact absurd rfl hc.2
    . exact absurd hrun (run_mismatch _ _ _)

section Elements

variable {first : Bool} {lead : List Char}

theorem run_hasElement_close (hb : Blank b) (rest : List Char) :
    (hasElement first : Reader ε Bool).run (b ++ ']' :: rest) = .ok (false, ']' :: rest) := by
  unfold hasElement
  rw [run_next_bind_blank hb]
  rfl

theorem run_hasElement_lead (hlead : Lead first lead) (h : ValueText text) (rest : List Char) :
    (hasElement first : Reader ε Bool).run (lead ++ (text ++ rest)) = .ok (true, text ++ rest) := by
  obtain ⟨c, cs, htext, hstart⟩ := h.start
  rw [htext, List.cons_append, hasElement]
  cases first with
  | true =>
    have hb : Blank lead := hlead
    rw [run_next_bind_blank hb, run_next_bind_cons hstart.notBlank]
    split
    . next heq => cases heq
    . next heq =>
      cases heq
      exact absurd rfl hstart.notClosing
    . rfl
    . rfl
  | false =>
    obtain ⟨b, b', hb, hb', hlead⟩ := hlead
    have hcomma : isBlank ',' = false := rfl
    rw [hlead, List.append_assoc, run_next_bind_blank hb, List.cons_append, run_next_bind_cons hcomma]
    change (set (b' ++ c :: (cs ++ rest)) >>= _ : Reader ε Bool).run _ = _
    rw [run_set_bind, run_next_bind_blank hb', run_next_bind_cons hstart.notBlank]
    split
    . next heq => cases heq
    . next heq =>
      cases heq
      exact absurd rfl hstart.notClosing
    . rfl

theorem run_stringsBody_close (hb : Blank b) (fuel : Nat) (rest : List Char) :
    (stringsBody first (fuel + 1) : Reader ε (List String)).run (b ++ ']' :: rest) = .ok ([], ']' :: rest) := by
  rw [stringsBody, run_bind_of_ok (run_hasElement_close hb rest)]
  rfl

theorem run_stringsBody_lead (hlead : Lead first lead) (h : ValueText text) (fuel : Nat) (rest : List Char) :
    (stringsBody first (fuel + 1) : Reader ε (List String)).run (lead ++ (text ++ rest)) =
      (do return (← string) :: (← stringsBody false fuel) : Reader ε (List String)).run (text ++ rest) := by
  rw [stringsBody, run_bind_of_ok (run_hasElement_lead hlead h rest)]
  rfl

theorem run_stringsBody {ss : List String} (h : Listed StringText first ss text) {fuel : Nat} (hfuel : ss.length < fuel)
    (rest : List Char) :
    (stringsBody first fuel : Reader ε (List String)).run (text ++ ']' :: rest) = .ok (ss, ']' :: rest) := by
  induction h generalizing fuel with
  | nil hb =>
    obtain ⟨fuel, rfl⟩ := Nat.exists_eq_add_one_of_ne_zero (Nat.ne_of_gt hfuel)
    exact run_stringsBody_close hb fuel rest
  | cons hlead hs _ ih =>
    obtain ⟨fuel, rfl⟩ := Nat.exists_eq_add_one_of_ne_zero (Nat.ne_of_gt (Nat.zero_lt_of_lt hfuel))
    rw [List.append_assoc, List.append_assoc, run_stringsBody_lead hlead (.string hs), (reads_string hs).run_bind,
      run_bind_of_ok (ih (Nat.lt_of_succ_lt_succ hfuel))]
    rfl

theorem reads_strings {ss : List String} (h : StringsText ss text) :
    Reads (strings : Reader ε (List String)) text ss := by
  obtain ⟨inner, hinner, htext⟩ := h
  subst htext
  intro rest
  have hfuel : ss.length < (inner ++ ']' :: rest).length + 1 := by
    have hle := hinner.length_le fun _ _ h => h.ne_nil
    rw [List.length_append]
    omega
  have hopen : isBlank '[' = false := rfl
  rw [List.cons_append, List.append_assoc, List.singleton_append, strings, run_next_bind_cons hopen]
  change (set (inner ++ ']' :: rest) >>= _ : Reader ε (List String)).run _ = _
  rw [run_set_bind, run_bind_of_ok (run_stringsBody hinner hfuel rest)]
  rfl

theorem stops_stringsBody {values : List (List Char)} (h : Listed Eq first values text)
    (hvalues : ∀ v ∈ values, ValueText v) {fuel : Nat} {rest left : List Char} {ss : List String}
    (hrun : (stringsBody first fuel : Reader ε (List String)).run (text ++ ']' :: rest) = .ok (ss, left)) :
    left = ']' :: rest := by
  induction h generalizing fuel ss with
  | nil hb =>
    cases fuel with
    | zero => cases hrun
    | succ fuel =>
      rw [run_stringsBody_close hb] at hrun
      cases hrun
      rfl
  | cons hlead heq _ ih =>
    cases fuel with
    | zero => cases hrun
    | succ fuel =>
      subst heq
      rw [List.forall_mem_cons] at hvalues
      rw [List.append_assoc, List.append_assoc, run_stringsBody_lead hlead hvalues.1, StateT.run_bind,
        bind_eq_ok] at hrun
      obtain ⟨⟨s, cs⟩, hs, hrun⟩ := hrun
      have hcs := stops_string hvalues.1 _ _ _ hs
      subst hcs
      rw [StateT.run_bind, bind_eq_ok] at hrun
      obtain ⟨⟨more, left'⟩, hmore, hrun⟩ := hrun
      cases hrun
      exact ih hvalues.2 hmore

theorem stops_strings (h : ValueText text) : Stops (strings : Reader ε (List String)) text := by
  obtain ⟨c, cs, htext, hstart⟩ := h.start
  by_cases hc : c = '['
  . obtain ⟨values, inner, hinner, hvalues, htext'⟩ := hstart.array hc
    intro rest ss left hrun
    have hopen : isBlank '[' = false := rfl
    rw [htext', List.cons_append, List.append_assoc, List.singleton_append, strings, run_next_bind_cons hopen] at hrun
    change (set (inner ++ ']' :: rest) >>= fun _ => do
      let ss ← stringsBody true ((inner ++ ']' :: rest).length + 1)
      closeArray
      return ss : Reader ε (List String)).run _ = _ at hrun
    rw [run_set_bind, StateT.run_bind, bind_eq_ok] at hrun
    obtain ⟨⟨ss', left'⟩, hbody, hrun⟩ := hrun
    have hleft := stops_stringsBody hinner hvalues hbody
    subst hleft
    cases hrun
    rfl
  . intro rest a left hrun
    rw [htext, List.cons_append, strings, run_next_bind_cons hstart.notBlank] at hrun
    split at hrun
    . next heq => cases heq
    . next heq => cases heq; contradiction
    . exact absurd hrun (run_mismatch _ _ _)

end Elements

section Members

variable {first : Bool} {lead : List Char}

theorem run_hasMember_close (hb : Blank b) (rest : List Char) :
    (hasMember first : Reader ε Bool).run (b ++ '}' :: rest) = .ok (false, '}' :: rest) := by
  unfold hasMember
  rw [run_next_bind_blank hb]
  rfl

theorem run_hasMember_lead {key : String} (hlead : Lead first lead) (h : StringText key text) (rest : List Char) :
    (hasMember first : Reader ε Bool).run (lead ++ (text ++ rest)) = .ok (true, text ++ rest) := by
  obtain ⟨body, _, htext⟩ := h
  rw [htext, List.cons_append, hasMember]
  cases first with
  | true =>
    have hb : Blank lead := hlead
    rw [run_next_bind_blank hb]
    rfl
  | false =>
    obtain ⟨b, b', hb, hb', hlead⟩ := hlead
    have hcomma : isBlank ',' = false := rfl
    rw [hlead, List.append_assoc, run_next_bind_blank hb, List.cons_append, run_next_bind_cons hcomma]
    change (set (b' ++ '"' :: (body ++ ['"'] ++ rest)) >>= _ : Reader ε Bool).run _ = _
    rw [run_set_bind, run_next_bind_blank hb']
    rfl

theorem run_colon (hb : Blank b) (rest : List Char) :
    (colon : Reader ε Unit).run (b ++ ':' :: rest) = .ok ((), rest) := by
  unfold colon
  rw [run_next_bind_blank hb]
  rfl

theorem run_finish (hb : Blank b) : (finish : Reader ε Unit).run b = .ok ((), []) := by
  unfold finish
  rw [← List.append_nil b, run_next_bind_blank hb]
  rfl

end Members

end Reader
end Json
end StructuralSearch
