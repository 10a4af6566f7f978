import StructuralSearch.Decimal.Shortest
import StructuralSearch.Text.Bytes
import StructuralSearch.Text.Natural
import StructuralSearch.Text.Quoted

/-!
This module contains the reading of JSON values of an expected type from the left. The first fault ends the reading:
what comes after it plays no part.
-/

namespace StructuralSearch
namespace Json

/-- A value of another type than the expected one. -/
inductive Found where
  | null
  | boolean (b : Bool)
  | integer (n : Int)
  | float (negative : Bool) (x : Decimal.Double)
  | string (s : String)
  | sequence
  | map
  deriving DecidableEq, Repr

def Found.describe : Found → String
  | .null => "null"
  | .boolean b => "boolean `" ++ (if b then "true" else "false") ++ "`"
  | .integer n => "integer `" ++ toString n ++ "`"
  | .float negative x => "floating point `" ++ (if negative then "-" else "") ++ x.render ++ "`"
  | .string s => "string " ++ Text.quote s
  | .sequence => "sequence"
  | .map => "map"

/-- Why a text cannot be read. -/
inductive Fault (ε : Type) where
  /-- The text is no JSON. -/
  | malformed
  /-- The text ends too early. -/
  | truncated
  | invalidType (found : Found) (expected : String)
  | refused (cause : ε)
  deriving DecidableEq, Repr

/-- Reads a value from the front of the text. What is left is the state. -/
abbrev Reader (ε : Type) := StateT (List Char) (Except (Fault ε))

variable {ε : Type}

namespace Reader

def isBlank (c : Char) : Bool :=
  c == ' ' || c == '\n' || c == '\t' || c == '\r'

/-- Skips blanks. What is left stays where it is. -/
def next : Reader ε (List Char) := do
  let cs := (← get).dropWhile isBlank
  set cs
  return cs

/-- Reads the rest of a word. -/
def word : List Char → Reader ε Unit
  | [] => return ()
  | w :: ws => do
    match ← get with
    | [] => throw .truncated
    | c :: cs =>
      if c = w then
        set cs
        word ws
      else
        throw .malformed

/-- The value of four hexadecimal digits, which stand in four bytes. -/
def fourHexDigits : Reader ε Nat := do
  let cs ← get
  let digits := cs.take 4
  if Text.byteLength cs < 4 then
    throw .truncated
  else if digits.length = 4 ∧ digits.all (fun c => (Unicode.hexDigit? c).isSome) then
    set (cs.drop 4)
    return Unicode.hexValue digits
  else
    throw .malformed

/-- Reads what follows `\u`. Characters beyond the basic plane are written as a pair of surrogates. -/
def unicodeEscape : Reader ε Char := do
  let n ← fourHexDigits
  if 0xDC00 ≤ n ∧ n ≤ 0xDFFF then
    throw .malformed
  else if n < 0xD800 ∨ 0xDBFF < n then
    return Char.ofNat n
  else
    word ['\\', 'u']
    let m ← fourHexDigits
    if 0xDC00 ≤ m ∧ m ≤ 0xDFFF then
      return Char.ofNat (0x10000 + (n - 0xD800) * 0x400 + (m - 0xDC00))
    else
      throw .malformed

/-- Reads what follows a backslash. -/
def escape : Reader ε Char := do
  match ← get with
  | [] => throw .truncated
  | c :: cs =>
    set cs
    match c with
    | '"' => return '"'
    | '\\' => return '\\'
    | '/' => return '/'
    | 'b' => return '\x08'
    | 'f' => return '\x0c'
    | 'n' => return '\n'
    | 'r' => return '\r'
    | 't' => return '\t'
    | 'u' => unicodeEscape
    | _ => throw .malformed

/-- Reads the rest of a string and the quotation mark after it. Every step reads a character. -/
def stringBody : Nat → Reader ε (List Char)
  | 0 => throw .truncated
  | fuel + 1 => do
    match ← get with
    | [] => throw .truncated
    | c :: cs =>
      set cs
      if c = '"' then
        return []
      else if c = '\\' then
        let c ← escape
        return c :: (← stringBody fuel)
      else if c.toNat < 0x20 then
        throw .malformed
      else
        return c :: (← stringBody fuel)

/-- Reads a string after its first quotation mark. -/
def stringRest : Reader ε String := do
  return String.ofList (← stringBody ((← get).length + 1))

/-- Adds digits to a number as long as it stays a machine word. The digits that do not fit are left. -/
def fillWord (value : Nat) : List Char → Nat × List Char
  | [] => (value, [])
  | c :: cs =>
    let v := value * 10 + (Text.digitValue? c).getD 0
    if v < Text.wordSize then fillWord v cs else (value, c :: cs)

/-- A number that is written with a point or an exponent, or that is too large for a machine word. -/
def floatOfParts (negative : Bool) (significand : Nat) (exponent : Int) : Except (Fault ε) Found :=
  match Decimal.Double.ofParts? significand exponent with
  | some x => .ok (.float negative x)
  | none => .error .malformed

/-- What follows the mark of an exponent. An exponent that is too large leaves zero or nothing. -/
def exponentPart (negative : Bool) (significand : Nat) (start : Int) (cs : List Char) :
    Except (Fault ε) Found :=
  let (down, cs) :=
    match cs with
    | '+' :: cs => (false, cs)
    | '-' :: cs => (true, cs)
    | cs => (false, cs)
  match cs.takeWhile Char.isDigit, cs with
  | [], [] => .error .truncated
  | [], _ :: _ => .error .malformed
  | digits, _ =>
    let e := Text.decimalValue digits
    if e < 0x80000000 then
      floatOfParts negative significand (if down then start - e else start + e)
    else if significand ≠ 0 ∧ !down then
      .error .malformed
    else
      .ok (.float negative .zero)

/-- What follows the integer part of a number. -/
def fractionPart (negative : Bool) (significand : Nat) (exponent : Int) (cs : List Char) :
    Except (Fault ε) Found :=
  let digits := cs.takeWhile Char.isDigit
  let after := cs.dropWhile Char.isDigit
  match digits, after with
  | [], [] => .error .truncated
  | [], _ :: _ => .error .malformed
  | digits, after =>
    let (significand, ignored) := fillWord significand digits
    let exponent := exponent - (digits.length - ignored.length : Nat)
    match after with
    | 'e' :: cs | 'E' :: cs => exponentPart negative significand exponent cs
    | _ => floatOfParts negative significand exponent

/-- The number after its sign. A negative number that is no machine integer is a floating point number. -/
def number (negative : Bool) (cs : List Char) : Except (Fault ε) Found :=
  match cs.takeWhile Char.isDigit, cs with
  | [], [] => .error .truncated
  | [], _ :: _ => .error .malformed
  | '0' :: _ :: _, _ => .error .malformed
  | digits, _ =>
    let (significand, ignored) := fillWord 0 digits
    match cs.dropWhile Char.isDigit with
    | '.' :: cs => fractionPart negative significand ignored.length cs
    | 'e' :: cs | 'E' :: cs => exponentPart negative significand ignored.length cs
    | _ =>
      if !ignored.isEmpty then
        floatOfParts negative significand ignored.length
      else if !negative then
        .ok (.integer significand)
      else if significand = 0 ∨ 0x8000000000000000 < significand then
        floatOfParts negative significand 0
      else
        .ok (.integer (-significand))

/-- The value that stands here instead of an expected one. It is read as far as the message needs. -/
def unexpected : Reader ε Found := do
  match ← get with
  | [] => throw .malformed
  | c :: cs =>
    set cs
    match c with
    | 'n' =>
      word ['u', 'l', 'l']
      return .null
    | 't' =>
      word ['r', 'u', 'e']
      return .boolean true
    | 'f' =>
      word ['a', 'l', 's', 'e']
      return .boolean false
    | '-' => liftM (number true cs : Except (Fault ε) Found)
    | '"' => return .string (← stringRest)
    | '[' => return .sequence
    | '{' => return .map
    | c =>
      if c.isDigit then
        liftM (number false (c :: cs) : Except (Fault ε) Found)
      else
        throw .malformed

/-- Fails with what stands here. -/
def mismatch {α : Type} (expected : String) : Reader ε α := do
  throw (.invalidType (← unexpected) expected)

def string : Reader ε String := do
  match ← next with
  | [] => throw .truncated
  | '"' :: cs =>
    set cs
    stringRest
  | _ => mismatch "a string"

/-- A string, or `null`. -/
def optionalString : Reader ε (Option String) := do
  match ← next with
  | 'n' :: cs =>
    set cs
    word ['u', 'l', 'l']
    return none
  | _ => return some (← string)

def boolean : Reader ε Bool := do
  match ← next with
  | [] => throw .truncated
  | 't' :: cs =>
    set cs
    word ['r', 'u', 'e']
    return true
  | 'f' :: cs =>
    set cs
    word ['a', 'l', 's', 'e']
    return false
  | _ => mismatch "a boolean"

/-- Whether an array goes on. The comma before the next element is read. -/
def hasElement (first : Bool) : Reader ε Bool := do
  match ← next with
  | [] => throw .truncated
  | ']' :: _ => return false
  | ',' :: cs =>
    if first then
      return true
    else
      set cs
      match ← next with
      | [] => throw .truncated
      | ']' :: _ => throw .malformed
      | _ => return true
  | _ => if first then return true else throw .malformed

/-- Reads the bracket after the last element of an array. -/
def closeArray : Reader ε Unit := do
  match ← next with
  | ']' :: cs => set cs
  | [] => throw .truncated
  | _ => throw .malformed

/-- Reads the strings of an array after its opening bracket. Every step reads a character. -/
def stringsBody (first : Bool) : Nat → Reader ε (List String)
  | 0 => throw .truncated
  | fuel + 1 => do
    if ← hasElement first then
      let s ← string
      return s :: (← stringsBody false fuel)
    else
      return []

def strings : Reader ε (List String) := do
  match ← next with
  | [] => throw .truncated
  | '[' :: cs =>
    set cs
    let ss ← stringsBody true (cs.length + 1)
    closeArray
    return ss
  | _ => mismatch "a sequence"

/-- Whether an object goes on with a key, which then stands here. The comma before it is read. -/
def hasMember (first : Bool) : Reader ε Bool := do
  match ← next with
  | [] => throw .truncated
  | '}' :: _ => return false
  | ',' :: cs =>
    if first then
      throw .malformed
    else
      set cs
      match ← next with
      | [] => throw .truncated
      | '"' :: _ => return true
      | _ => throw .malformed
  | c :: _ => if first && c == '"' then return true else throw .malformed

/-- Reads the colon between a key and its value. -/
def colon : Reader ε Unit := do
  match ← next with
  | [] => throw .truncated
  | ':' :: cs => set cs
  | _ => throw .malformed

/-- Nothing but blanks may be left. -/
def finish : Reader ε Unit := do
  match ← next with
  | [] => return ()
  | _ => throw .malformed

end Reader
end Json
end StructuralSearch
