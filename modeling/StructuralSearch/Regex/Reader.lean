import StructuralSearch.Regex.Surface
import StructuralSearch.Text.Natural
import StructuralSearch.Text.WhiteSpace
import StructuralSearch.Unicode.Property

/-!
This module contains the reading of written regular expressions. What is wrong with a text that is none is not said.
-/

namespace StructuralSearch
namespace Regex

/-- What is left to read. -/
structure Cursor where
  rest : List Char
  /-- Blanks and comments do not count. -/
  verbose : Bool := false
  /-- The names of the groups so far. -/
  names : List String := []

abbrev Reader := StateT Cursor Option

namespace Reader

/-- Drops blanks and comments, which go from a hash to the end of the line. -/
def dropSpace (inComment : Bool) : List Char → List Char
  | [] => []
  | c :: cs =>
    if inComment then
      dropSpace (c != '\n') cs
    else if Text.isWhiteSpace c then
      dropSpace false cs
    else if c = '#' then
      dropSpace true cs
    else
      c :: cs

def rest : Reader (List Char) :=
  return (← get).rest

def setRest (cs : List Char) : Reader Unit :=
  modify fun s => { s with rest := cs }

/-- Blanks and comments are skipped only where they do not count. -/
def skipSpace : Reader Unit :=
  modify fun s => if s.verbose then { s with rest := dropSpace false s.rest } else s

/-- Moves to `cs` and on over blanks and comments. -/
def moveTo (cs : List Char) : Reader Unit := do
  setRest cs
  skipSpace

/-- Moves to `cs` and on over blanks and comments; something has to be left there. -/
def moveInto (cs : List Char) : Reader Unit := do
  moveTo cs
  guard !(← rest).isEmpty

/-- Reads characters as long as they satisfy a condition, with blanks and comments between them. -/
def readWhile (p : Char → Bool) : Nat → Reader (List Char)
  | 0 => return []
  | fuel + 1 => do
    match ← rest with
    | c :: cs =>
      if p c then
        moveTo cs
        return c :: (← readWhile p fuel)
      else
        return []
    | [] => return []

/-- Reads characters up to a closing brace, which is not read. -/
def readToBrace : Reader (List Char) := do
  let word ← readWhile (· != '}') (← rest).length
  guard !(← rest).isEmpty
  return word

/-- The character whose code point is given by hexadecimal digits. -/
def hexChar (digits : List Char) : Reader Char := do
  guard (!digits.isEmpty && digits.all fun c => (Unicode.hexDigit? c).isSome)
  let n := Unicode.hexValue digits
  guard (decide n.isValidChar)
  return Char.ofNat n

def readHexDigits : Nat → Reader (List Char)
  | 0 => return []
  | n + 1 => do
    match ← rest with
    | c :: cs =>
      guard (Unicode.hexDigit? c).isSome
      moveTo cs
      return c :: (← readHexDigits n)
    | [] => failure

/-- Reads what follows `\x`, `\u` or `\U`: so many digits, or any number of them in braces. -/
def readHex (digits : Nat) (cs : List Char) : Reader Literal := do
  moveInto cs
  match ← rest with
  | '{' :: cs =>
    moveTo cs
    let word ← readToBrace
    moveTo ((← rest).drop 1)
    return { char := ← hexChar word }
  | _ => return { char := ← hexChar (← readHexDigits digits), isByte := digits == 2 }

/-- The words before and after the first place where `p` starts, if there is one. -/
def splitAt? (p : List Char) : List Char → Option (List Char × List Char)
  | [] => none
  | c :: cs =>
    if p.isPrefixOf (c :: cs) then
      some ([], (c :: cs).drop p.length)
    else
      (splitAt? p cs).map fun (before, after) => (c :: before, after)

def propertyName (word : List Char) : PropertyName :=
  match (splitAt? ['!', '='] word).orElse fun _ =>
      (splitAt? [':'] word).orElse fun _ => splitAt? ['='] word with
  | some (name, value) => .value (String.ofList name) (String.ofList value)
  | none => .plain (String.ofList word)

/-- Reads what follows `\p` or `\P`: one letter, or a name in braces. -/
def readProperty (negated : Bool) (cs : List Char) : Reader ClassTerm := do
  moveInto cs
  match ← rest with
  | '{' :: cs =>
    moveTo cs
    let word ← readToBrace
    setRest ((← rest).drop 1)
    return .property (propertyName word) negated
  | c :: cs =>
    guard (c != '\\')
    moveTo cs
    return .property (.plain (String.singleton c)) negated
  | [] => failure

def isMeta (c : Char) : Bool :=
  "\\.+*?()|[]\x7b\x7d^$#&-~".toList.contains c

/-- A backslash before these characters changes nothing, or takes away their special meaning. -/
def isEscapable (c : Char) : Bool :=
  isMeta c || (c.toNat < 0x80 && !c.isAlphanum && c != '<' && c != '>')

/-- The words that can stand in braces after `\b`. -/
def wordAssertion? : String → Option Assertion
  | "start" => some .wordStart
  | "end" => some .wordEnd
  | "start-half" => some .wordStartHalf
  | "end-half" => some .wordEndHalf
  | _ => none

/-- Reads what follows `\b`. Braces that do not start with a letter or a dash are left for a repetition. -/
def readBoundary (cs : List Char) : Reader Assertion := do
  match cs with
  | '{' :: inner =>
    moveInto inner
    let isWordChar := fun (c : Char) => c.isAlpha || c == '-'
    if (← rest).head?.any isWordChar then
      let word ← readWhile isWordChar (← rest).length
      match ← rest, wordAssertion? (String.ofList word) with
      | '}' :: after, some a =>
        setRest after
        return a
      | _, _ => failure
    else
      setRest cs
      return .boundary
  | _ =>
    setRest cs
    return .boundary

/-- What a backslash and the characters after it stand for. -/
inductive Escape where
  | literal (l : Literal)
  | assertion (a : Assertion)
  | charClass (k : ClassTerm)

/-- Reads what follows a backslash. -/
def readEscape (cs : List Char) : Reader Escape := do
  match cs with
  | [] => failure
  | c :: cs =>
    let char (c : Char) : Reader Escape := do
      setRest cs
      return .literal { char := c }
    let shorthand (k : Shorthand) (negated : Bool) : Reader Escape := do
      setRest cs
      return .charClass (.shorthand k negated)
    let assertion (a : Assertion) : Reader Escape := do
      setRest cs
      return .assertion a
    match c with
    | 'x' => return .literal (← readHex 2 cs)
    | 'u' => return .literal (← readHex 4 cs)
    | 'U' => return .literal (← readHex 8 cs)
    | 'p' => return .charClass (← readProperty false cs)
    | 'P' => return .charClass (← readProperty true cs)
    | 'd' => shorthand .digit false
    | 'D' => shorthand .digit true
    | 's' => shorthand .space false
    | 'S' => shorthand .space true
    | 'w' => shorthand .word false
    | 'W' => shorthand .word true
    | 'a' => char '\x07'
    | 'f' => char '\x0c'
    | 't' => char '\t'
    | 'n' => char '\n'
    | 'r' => char '\r'
    | 'v' => char '\x0b'
    | 'A' => assertion .textStart
    | 'z' => assertion .textEnd
    | 'b' => return .assertion (← readBoundary cs)
    | 'B' => assertion .noBoundary
    | '<' => assertion .wordStart
    | '>' => assertion .wordEnd
    | c => if isEscapable c then char c else failure

/-- What one end of a range, or an item by itself, can be. -/
def readClassItem : Reader Escape := do
  match ← rest with
  | '\\' :: cs => readEscape cs
  | c :: cs =>
    setRest cs
    return .literal { char := c }
  | [] => failure

/--
The character after the next one. Where blanks do not count, a hash is skipped with the blanks around it, but not the
comment that it starts.
-/
def peekSpace : Reader (Option Char) := do
  let s ← get
  let after := s.rest.drop 1
  if s.verbose then
    let visible := after.dropWhile Text.isWhiteSpace
    let found :=
      match visible with
      | '#' :: cs => cs.dropWhile Text.isWhiteSpace
      | cs => cs
    return found.head?
  else
    return after.head?

/-- Reads a range, or an item by itself. A dash before a bracket or another dash makes no range. -/
def readRange : Reader ClassTerm := do
  let first ← readClassItem
  skipSpace
  let next ← peekSpace
  match ← rest with
  | [] => failure
  | c :: cs =>
    if c != '-' || next == some ']' || next == some '-' then
      match first with
      | .literal l => return .single l
      | .charClass k => return k
      | .assertion _ => failure
    else
      moveInto cs
      match first, ← readClassItem with
      | .literal l, .literal m =>
        guard (decide (l.char ≤ m.char))
        return .range l m
      | _, _ => failure

/-- The name of an ASCII class and what follows it, if `[:name:]` or `[:^name:]` stands here. -/
def asciiClass? (cs : List Char) : Option (ClassTerm × List Char) :=
  match cs with
  | '[' :: ':' :: '^' :: cs => named true cs
  | '[' :: ':' :: cs => named false cs
  | _ => none
where
  named (negated : Bool) (cs : List Char) : Option (ClassTerm × List Char) :=
    match cs.dropWhile (· != ':') with
    | ':' :: ']' :: after =>
      (AsciiClass.ofName? (String.ofList (cs.takeWhile (· != ':')))).map fun k => (.ascii k negated, after)
    | _ => none

/-- Reads the dashes at the start of a class. -/
def readDashes : Nat → Reader (List ClassTerm)
  | 0 => return []
  | fuel + 1 => do
    match ← rest with
    | '-' :: cs =>
      moveInto cs
      return .single { char := '-' } :: (← readDashes fuel)
    | _ => return []

/-- Reads an opening bracket and all that is special after it: a caret, dashes, and a closing bracket. -/
def readClassOpening (cs : List Char) : Reader (Bool × List ClassTerm) := do
  moveInto cs
  let negated ←
    match ← rest with
    | '^' :: cs => do
      moveInto cs
      pure true
    | _ => pure false
  let dashes ← readDashes (← rest).length
  match dashes, ← rest with
  | [], ']' :: cs =>
    moveInto cs
    return (negated, [.single { char := ']' }])
  | _, _ => return (negated, dashes.reverse)

/-- A set operation that still lacks its right side. -/
abbrev PendingOperation := Option (SetOperation × ClassTerm)

/-- The items so far, the last first, as the right side of the operation before them. -/
def closeOperation (pending : PendingOperation) (items : List ClassTerm) : ClassTerm :=
  match pending with
  | none => .ofItems items.reverse
  | some (op, left) => .combine op left (.ofItems items.reverse)

/-- Reads the inside of a class and its closing bracket. Set operations group to the left. -/
def readClassBody : Nat → PendingOperation → List ClassTerm → Reader ClassTerm
  | 0, _, _ => failure
  | fuel + 1, pending, items => do
    skipSpace
    let operation (op : SetOperation) (cs : List Char) : Reader ClassTerm := do
      setRest cs
      readClassBody fuel (some (op, closeOperation pending items)) []
    match ← rest with
    | [] => failure
    | ']' :: cs =>
      setRest cs
      return closeOperation pending items
    | '[' :: cs =>
      match asciiClass? ('[' :: cs) with
      | some (k, after) =>
        setRest after
        readClassBody fuel pending (k :: items)
      | none =>
        let (negated, first) ← readClassOpening cs
        let inner ← readClassBody fuel none first
        readClassBody fuel pending (.bracket negated inner :: items)
    | '&' :: '&' :: cs => operation .inter cs
    | '-' :: '-' :: cs => operation .difference cs
    | '~' :: '~' :: cs => operation .symmetricDifference cs
    | _ =>
      let item ← readRange
      readClassBody fuel pending (item :: items)

/-- Reads a class after its opening bracket. -/
def readClass (cs : List Char) : Reader ClassTerm := do
  let (negated, first) ← readClassOpening cs
  let inner ← readClassBody ((← rest).length + 1) none first
  return .bracket negated inner

/-- Reads a number below `2 ^ 32`, if digits stand here. A number that is too large is refused. -/
def readCount : Reader (Option Nat) := do
  setRest ((← rest).dropWhile Text.isWhiteSpace)
  let digits ← readWhile Char.isDigit (← rest).length
  let _ ← readWhile Text.isWhiteSpace (← rest).length
  if digits.isEmpty then
    return none
  else
    let n := Text.decimalValue digits
    guard (n < 0x100000000)
    return some n

/-- Reads what follows the opening brace of a repetition: a count, or bounds with a comma between them. -/
def readBounds (cs : List Char) : Reader (Nat × Option Nat) := do
  moveInto cs
  let min ← readCount
  let (max : Option (Option Nat)) ←
    match ← rest with
    | ',' :: cs => do
      moveInto cs
      match ← rest with
      | '}' :: _ => pure none
      | _ => do
        let max ← readCount
        guard max.isSome
        pure (some max)
    | _ => pure (some min)
  match min, ← rest with
  | some min, '}' :: cs =>
    moveTo cs
    match max with
    | none => return (min, none)
    | some max =>
      guard (max.all (min ≤ ·))
      return (min, max)
  | _, _ => failure

/-- Drops the mark of a reluctant repetition: it changes which match is found, but not whether there is one. -/
def skipReluctance : Reader Unit := do
  match ← rest with
  | '?' :: cs => setRest cs
  | _ => return ()

/-- Reads flags up to a colon or a closing parenthesis, which is not read. No flag and no dash may come twice. -/
def readFlags (changes : FlagChanges) (negated dangling : Bool) : List Char → Reader FlagChanges
  | [] => failure
  | c :: cs => do
    if c == ':' || c == ')' then
      guard !dangling
      setRest (c :: cs)
      return changes
    else if c == '-' then
      guard !negated
      readFlags changes true true cs
    else
      match Flag.ofChar? c with
      | none => failure
      | some f =>
        guard (changes.get? f).isNone
        readFlags (changes ++ [(f, !negated)]) negated false cs

def isNameChar (first : Bool) (c : Char) : Bool :=
  c == '_' || (if first then Unicode.Property.alphabetic c
    else c == '.' || c == '[' || c == ']' || Unicode.isAlphanumeric c)

/-- Reads the name of a group and the angle bracket after it. No two groups may have one name. -/
def readName (cs : List Char) : Reader Unit := do
  let name := cs.takeWhile (· != '>')
  let s ← get
  match name, cs.dropWhile (· != '>') with
  | first :: others, _ :: after =>
    guard (isNameChar true first && others.all (isNameChar false))
    guard !(s.names.contains (String.ofList name))
    set { s with rest := after, names := String.ofList name :: s.names }
  | _, _ => failure

/-- What an opening parenthesis starts. -/
inductive Opening where
  | flags (changes : FlagChanges)
  | group (changes : FlagChanges)

/-- Reads what is special after an opening parenthesis. There is no looking ahead or behind. -/
def readOpening (cs : List Char) : Reader Opening := do
  moveTo cs
  match ← rest with
  | '?' :: '<' :: '=' :: _ | '?' :: '<' :: '!' :: _ => failure
  | '?' :: 'P' :: '<' :: cs | '?' :: '<' :: cs =>
    readName cs
    return .group []
  | '?' :: cs =>
    let changes ← readFlags [] false false cs
    match ← rest with
    | ')' :: after =>
      guard !changes.isEmpty
      setRest after
      return .flags changes
    | _ :: after =>
      setRest after
      return .group changes
    | [] => failure
  | _ => return .group []

def setVerbose (changes : FlagChanges) : Reader Unit :=
  modify fun s => { s with verbose := (changes.get? .verbose).getD s.verbose }

/--
Reads up to the end of the text or of the group, which is not read. `branches` are the alternatives so far and `items`
what has been read of the last one, both the last first.
-/
def readBody : Nat → (branches items : List Surface) → Reader Surface
  | 0, _, _ => failure
  | fuel + 1, branches, items => do
    skipSpace
    let repetition (min : Nat) (max : Option Nat) : Reader Surface := do
      skipReluctance
      match items with
      | e :: es =>
        guard e.isRepeatable
        readBody fuel branches (.repeated e min max :: es)
      | [] => failure
    match ← rest with
    | [] | ')' :: _ => return .ofBranches (Surface.ofItems items.reverse :: branches).reverse
    | '|' :: cs =>
      setRest cs
      readBody fuel (Surface.ofItems items.reverse :: branches) []
    | '(' :: cs =>
      match ← readOpening cs with
      | .flags changes =>
        setVerbose changes
        readBody fuel branches (.flags changes :: items)
      | .group changes =>
        let outer := (← get).verbose
        setVerbose changes
        let body ← readBody fuel [] []
        match ← rest with
        | ')' :: after =>
          modify fun s => { s with rest := after, verbose := outer }
          readBody fuel branches (.group changes body :: items)
        | _ => failure
    | '[' :: cs =>
      let k ← readClass cs
      readBody fuel branches (.charClass k :: items)
    | '?' :: cs =>
      setRest cs
      repetition 0 (some 1)
    | '*' :: cs =>
      setRest cs
      repetition 0 none
    | '+' :: cs =>
      setRest cs
      repetition 1 none
    | '{' :: cs =>
      let (min, max) ← readBounds cs
      repetition min max
    | '\\' :: cs =>
      match ← readEscape cs with
      | .literal l => readBody fuel branches (.literal l :: items)
      | .assertion a => readBody fuel branches (.assertion a :: items)
      | .charClass k => readBody fuel branches (.charClass k :: items)
    | c :: cs =>
      setRest cs
      let item :=
        match c with
        | '.' => .dot
        | '^' => .assertion .lineStart
        | '$' => .assertion .lineEnd
        | c => .literal { char := c }
      readBody fuel branches (item :: items)

end Reader

/-- How deep an expression may be nested. -/
def depthLimit : Nat := 250

/-- Reads a whole text as a regular expression. -/
def Surface.ofString? (s : String) : Option Surface := do
  let (e, cursor) ← (Reader.readBody (s.length + 1) [] []).run { rest := s.toList }
  guard (cursor.rest.isEmpty && e.depth ≤ depthLimit)
  return e

end Regex
end StructuralSearch
