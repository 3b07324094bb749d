/-
The parts of a pattern that are no brackets and no repetitions: characters, also
written as escapes, and classes and conditions that have an escape of their own.

Some faults make a pattern unreadable; others only keep it from being matched.  The
first of the latter is kept, and counts once all has been read.
-/

import Stencil.Log.Pattern

namespace Stencil
namespace Pattern

inductive Flag where
  | anyCase
  | lines
  | dotAll
  | lazy
  /-- All characters are allowed. -/
  | scripts
  /-- Carriage returns end lines too. -/
  | returns
  | spaced
deriving DecidableEq

def Flag.ofChar? : Char → Option Flag
  | 'i' => some .anyCase
  | 'm' => some .lines
  | 's' => some .dotAll
  | 'U' => some .lazy
  | 'u' => some .scripts
  | 'R' => some .returns
  | 'x' => some .spaced
  | _ => none

abbrev Flags := List Flag

def Flags.standard : Flags := [.scripts]

def Flags.put (flags : Flags) (flag : Flag) (on : Bool) : Flags :=
  if on then flag :: flags else flags.filter (· != flag)

/-- What is still to be read and its position, the flags in force, the names of groups
and the first fault that keeps the pattern from being matched. -/
structure Reading where
  rest : Text
  position : Position
  flags : Flags
  names : List (Text × Stretch)
  fault : Option PatternFault

def Reading.ofText (text : Text) : Reading :=
  ⟨text, Position.start, Flags.standard, [], none⟩

abbrev Reader := StateT Reading (Except PatternFault)

namespace Reader

def rest : Reader Text := return (← get).rest

def peek : Reader (Option Char) := return (← get).rest.head?

def position : Reader Position := return (← get).position

def has (flag : Flag) : Reader Bool := return (← get).flags.contains flag

def spaceLength : (comment : Bool) → Text → Nat
  | _, [] => 0
  | true, c :: rest => spaceLength (c != '\n') rest + 1
  | false, c :: rest =>
      if Text.isBlank c then spaceLength false rest + 1
      else if c = '#' then spaceLength true rest + 1
      else 0

/-- The character behind the next one.  White space and the sign of a comment may be
passed over on the way. -/
def peekBehind : Reader (Option Char) := do
  let behind := (← rest).drop 1
  if ← has .spaced then
    match behind.dropWhile Text.isBlank with
    | '#' :: comment => return (comment.dropWhile Text.isBlank).head?
    | behind => return behind.head?
  else
    return behind.head?

def skip (count : Nat) : Reader Unit :=
  modify fun reading => { reading with
    rest := reading.rest.drop count
    position := reading.position.after (reading.rest.take count) }

def skipSpace : Reader Unit := do
  if ← has .spaced then
    skip (spaceLength false (← rest))

def advance : Reader Unit := do
  skip 1
  skipSpace

def skipWord (word : String) : Reader Bool := do
  if word.toList.isPrefixOf (← rest) then
    skip word.length
    return true
  else
    return false

def collect (member : Char → Bool) : Nat → Reader Text
  | 0 => return []
  | fuel + 1 => do
      match ← peek with
      | none => return []
      | some c =>
          if member c then
            advance
            return c :: (← collect member fuel)
          else
            return []

def collectAll (member : Char → Bool) : Reader Text := do
  collect member ((← rest).length + 1)

def since (start : Position) : Reader Stretch := return ⟨start, ← position⟩

def nextPart : Reader Stretch := do
  let start ← position
  return ⟨start, start.after ((← rest).take 1)⟩

def fail {α : Type} (cause : PatternCause) (part : Stretch) : Reader α :=
  throw (.malformed cause part none)

def failAgain {α : Type} (cause : PatternCause) (part earlier : Stretch) : Reader α :=
  throw (.malformed cause part (some earlier))

def failSince {α : Type} (cause : PatternCause) (start : Position) : Reader α := do
  fail cause (← since start)

def failHere {α : Type} (cause : PatternCause) : Reader α := do
  failSince cause (← position)

def complain (cause : PatternCause) (part : Stretch) : Reader Unit :=
  modify fun reading => { reading with
    fault := reading.fault.or (some (.malformed cause part none)) }

end Reader

/-! ### Escapes -/

/-- A single part of a pattern.  `octet` tells that a character is written as an octet
in two hexadecimal digits. -/
inductive Atom where
  | char (c : Char) (octet : Bool)
  | any
  | set (set : CharSet)
  | condition (asked : SpotCondition)

structure PlacedAtom where
  atom : Atom
  part : Stretch

namespace Reader

def readDigits (first : Bool) : Nat → Reader Text
  | 0 => return []
  | count + 1 => do
      unless first do
        advance
      match ← peek with
      | none => failHere .escapeUnfinished
      | some c =>
          if (Text.hexDigit? c).isSome then
            return c :: (← readDigits false count)
          else
            fail .hexDigit (← nextPart)

/-- Reads hexadecimal digits up to a closing brace, each behind an advance. -/
def readBracedDigits (brace : Position) : Nat → Reader Text
  | 0 => return []
  | fuel + 1 => do
      advance
      match ← peek with
      | none => failSince .escapeUnfinished brace
      | some '\x7d' => return []
      | some c =>
          if (Text.hexDigit? c).isSome then
            return c :: (← readBracedDigits brace fuel)
          else
            fail .hexDigit (← nextPart)

/-- Reads the number of a character from behind the letter of the escape on, between
braces or with a fixed number of digits. -/
def readNumber (width : Nat) : Reader Char := do
  advance
  match ← peek with
  | none => failHere .escapeUnfinished
  | some '\x7b' =>
      let brace ← position
      let start := (← nextPart).stop
      let digits ← readBracedDigits brace ((← rest).length + 1)
      let stop ← position
      advance
      if digits.isEmpty then
        failSince .hexEmpty brace
      else
        match Text.charOfHex? digits with
        | some c => return c
        | none => fail .hexNoCharacter ⟨start, stop⟩
  | some _ =>
      let start ← position
      let digits ← readDigits true width
      advance
      match Text.charOfHex? digits with
      | some c => return c
      | none => failSince .hexNoCharacter start

/-- The name of a property in its normal form: lower case, without spaces, underscores,
hyphens, a leading `is` and characters beyond ASCII. -/
def normalName (name : Text) : Text :=
  let marked := (name.take 2).map Char.toLower = ['i', 's']
  (((if marked then name.drop 2 else name).filter fun c =>
    c != ' ' && c != '_' && c != '-' && decide (c.toNat < 0x80)).map Char.toLower)

def valueNames : List Text := ["cf".toList, "sc".toList, "lc".toList]

def propertyCause (name : Text) : PatternCause :=
  if name.contains ':' || name.contains '=' || !valueNames.contains (normalName name) then
    .propertyUnknown
  else
    .propertyValueUnknown

def readBracedName : Nat → Reader Text
  | 0 => return []
  | fuel + 1 => do
      advance
      match ← peek with
      | none => failHere .escapeUnfinished
      | some '\x7d' => return []
      | some c => return c :: (← readBracedName fuel)

def readProperty (start : Position) : Reader Atom := do
  advance
  let name ← match ← peek with
    | none => failHere .escapeUnfinished
    | some '\x7b' => do
        let name ← readBracedName ((← rest).length + 1)
        skip 1
        pure name
    | some '\\' => fail .propertyLetter (← nextPart)
    | some c => do
        advance
        pure [c]
  let cause := if ← has .scripts then propertyCause name else .characterNotAllowed
  complain cause (← since start)
  return .set .nothing

def classOf? : Char → Option CharSet
  | 'd' => some .digits
  | 's' => some .space
  | 'w' => some .word
  | _ => none

/-- A class of a letter, or its complement for the letter in upper case.  The classes
of all scripts are not known, and beyond ASCII there are octets only. -/
def readClass (start : Position) (negated : Bool) (set : CharSet) : Reader Atom := do
  skip 1
  if ← has .scripts then
    complain .scriptsUnavailable (← since start)
  else if negated then
    complain .invalidOctets (← since start)
  return .set (set.negatedIf negated)

def edgeOfName? (name : Text) : Option WordEdge :=
  [("start", WordEdge.start), ("end", .stop), ("start-half", .startHalf),
    ("end-half", .stopHalf)].lookup (String.ofList name)

/-- Reads the name of an edge between braces, unless a count stands there. -/
def readEdgeName? (start : Position) : Reader (Option WordEdge) := do
  let isNameChar (c : Char) : Bool := c.isAlpha || c == '-'
  let reading ← get
  let brace := reading.position
  advance
  match ← peek with
  | none => failSince .edgeUnfinished start
  | some c =>
      if isNameChar c then
        let inside ← position
        let name ← collectAll isNameChar
        if (← peek) != some '\x7d' then
          failSince .edgeUnclosed brace
        else
          let stop ← position
          skip 1
          match edgeOfName? name with
          | some edge => return some edge
          | none => fail .edgeUnknown ⟨inside, stop⟩
      else
        set reading
        return none

def controlOf? : Char → Option Char
  | 'a' => some '\x07'
  | 'f' => some '\x0c'
  | 't' => some '\t'
  | 'n' => some '\n'
  | 'r' => some '\r'
  | 'v' => some '\x0b'
  | _ => none

def conditionOf? (scripts : Bool) : Char → Option SpotCondition
  | 'A' => some .textStart
  | 'z' => some .textStop
  | 'b' => some (.word scripts .either)
  | 'B' => some (.word scripts .neither)
  | '<' => some (.word scripts .start)
  | '>' => some (.word scripts .stop)
  | _ => none

def readShort (start : Position) (c : Char) : Reader Atom := do
  skip 1
  let scripts ← has .scripts
  match conditionOf? scripts c, controlOf? c with
  | some asked, _ =>
      if c = 'b' ∧ (← peek) = some '\x7b' then
        match ← readEdgeName? start with
        | some edge => return .condition (.word scripts edge)
        | none => return .condition asked
      else
        return .condition asked
  | none, some control => return .char control false
  | none, none =>
      if c.isAlphanum || decide (0x80 ≤ c.toNat) then
        failSince .escapeUnknown start
      else
        return .char c false

def readEscape (start : Position) : Reader Atom := do
  skip 1
  match ← peek with
  | none => failSince .escapeUnfinished start
  | some c =>
      match classOf? c.toLower with
      | some set => readClass start c.isUpper set
      | none =>
          if c.isDigit then
            fail .backreference ⟨start, (← nextPart).stop⟩
          else if c = 'x' then
            let braced := (← peekBehind) == some '\x7b'
            return .char (← readNumber 2) !braced
          else if c = 'u' then
            return .char (← readNumber 4) false
          else if c = 'U' then
            return .char (← readNumber 8) false
          else if c = 'p' ∨ c = 'P' then
            readProperty start
          else
            readShort start c

def readLiteral : Reader PlacedAtom := do
  let start ← position
  match ← peek with
  | some '\\' =>
      let atom ← readEscape start
      return ⟨atom, ← since start⟩
  | c =>
      skip 1
      return ⟨.char (c.getD '\x00') false, ← since start⟩

def readAtom : Reader PlacedAtom := do
  let start ← position
  let special (atom : Atom) : Reader PlacedAtom := do
    skip 1
    return ⟨atom, ← since start⟩
  let lines ← has .lines
  let returns ← has .returns
  match ← peek with
  | some '.' => special .any
  | some '^' => special (.condition (if lines then .lineStart returns else .textStart))
  | some '$' => special (.condition (if lines then .lineStop returns else .textStop))
  | _ => readLiteral

end Reader
end Pattern
end Stencil
