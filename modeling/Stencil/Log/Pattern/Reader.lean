/-
Reading patterns.

A pattern is a choice of sequences of items, which are atoms, classes and groups,
with repetitions behind them.  Flags hold up to the end of the group in which they
are set, also in the other sequences of its choice.

A class lists characters, ranges, named sets and further classes between brackets,
and may join such lists by set operations, which bind weaker than lists and apply
from the left.
-/

import Stencil.Log.Pattern.Escape

namespace Stencil
namespace Pattern

/-- A part of a class: its set, whether anything is in its list, and where it
stands. -/
structure ClassPart where
  set : CharSet
  filled : Bool
  part : Stretch

inductive ClassOperation where
  | inter
  | difference
  | symmetricDifference
deriving DecidableEq

namespace ClassOperation

def ofChar? : Char → Option ClassOperation
  | '&' => some inter
  | '-' => some difference
  | '~' => some symmetricDifference
  | _ => none

def apply : ClassOperation → CharSet → CharSet → CharSet
  | inter => CharSet.inter
  | difference => CharSet.difference
  | symmetricDifference => CharSet.symmetricDifference

end ClassOperation

structure ClassList where
  joined : ClassPart
  count : Nat

namespace ClassList

def start (position : Position) : ClassList :=
  ⟨⟨.nothing, false, ⟨position, position⟩⟩, 0⟩

def push (list : ClassList) (member : ClassPart) : ClassList :=
  let first := if list.count = 0 then member.part.start else list.joined.part.start
  ⟨⟨.union list.joined.set member.set, list.joined.filled || member.filled,
    ⟨first, member.part.stop⟩⟩, list.count + 1⟩

end ClassList

namespace Reader

/-- Notices a character that is no single octet, where only octets are allowed. -/
def checkOctet (c : Char) (octet : Bool) (part : Stretch) : Reader Unit := do
  if !(← has .scripts) && decide (0x80 ≤ c.toNat) then
    complain (if octet then .invalidOctets else .characterNotAllowed) part

def readMember (unclosed : Stretch) : Reader ClassPart := do
  let first ← readLiteral
  skipSpace
  match ← peek with
  | none => fail .classUnclosed unclosed
  | some c =>
      let behind ← peekBehind
      if c != '-' || behind == some ']' || behind == some '-' then
        match first.atom with
        | .char c octet =>
            checkOctet c octet first.part
            return ⟨.single c, true, first.part⟩
        | .set set => return ⟨set, true, first.part⟩
        | _ => fail .classEscape first.part
      else
        advance
        if (← peek).isNone then
          fail .classUnclosed unclosed
        else
          let last ← readLiteral
          let part : Stretch := ⟨first.part.start, last.part.stop⟩
          match first.atom, last.atom with
          | .char low lowOctet, .char high highOctet =>
              if high < low then
                fail .classRangeOrder part
              else
                checkOctet low lowOctet first.part
                checkOctet high highOctet last.part
                return ⟨.range low high, true, part⟩
          | .char _ _, _ => fail .classRangeEnd last.part
          | _, _ => fail .classRangeEnd first.part

/-- The set that a text names between brackets and colons, whether it is negated, and
the length of the name. -/
def namedSet? : Text → Option (CharSet × Bool × Nat)
  | '[' :: ':' :: rest =>
      let negated := rest.head? == some '^'
      let start := if negated then rest.drop 1 else rest
      let name := start.takeWhile (· != ':')
      match start.dropWhile (· != ':') with
      | ':' :: ']' :: _ =>
          (CharSet.ofName? name).map fun set =>
            (set, negated, name.length + (if negated then 5 else 4))
      | _ => none
  | _ => none

def readNamedSet? : Reader (Option ClassPart) := do
  match namedSet? (← rest) with
  | none => return none
  | some (set, negated, length) =>
      let start ← position
      skip length
      let part ← since start
      if ← has .scripts then
        if ← has .anyCase then
          complain .caseUnavailable part
      else if negated then
        complain .invalidOctets part
      return some ⟨.negatedIf negated (.foldedIf (← has .anyCase) set), true, part⟩

/-- Notices a part whose cases would have to be known in all scripts. -/
def checkCase (member : ClassPart) : Reader Unit := do
  if (← has .scripts) && (← has .anyCase) && member.filled then
    complain .caseUnavailable member.part

def join (pending : Option (ClassPart × ClassOperation)) (list : ClassList) :
    Reader ClassPart := do
  let right := list.joined
  match pending with
  | none => return right
  | some (left, operation) =>
      checkCase right
      checkCase left
      let fold ← has .anyCase
      return ⟨operation.apply (.foldedIf fold left.set) (.foldedIf fold right.set),
        left.filled || right.filled, ⟨left.part.start, right.part.stop⟩⟩

def advanceWithin (start : Position) : Reader Unit := do
  advance
  if (← peek).isNone then
    failSince .classUnclosed start

def readHyphens (start : Position) (list : ClassList) : Nat → Reader ClassList
  | 0 => return list
  | fuel + 1 => do
      if (← peek) = some '-' then
        let part ← nextPart
        advance
        if (← peek).isNone then
          fail .classUnclosed ⟨start, start⟩
        else
          readHyphens start (list.push ⟨.single '-', true, part⟩) fuel
      else
        return list

/-- Reads the opening of a class: whether it is negated, and hyphens or a closing
bracket that stand for themselves. -/
def readOpening (start : Position) : Reader (Bool × ClassList) := do
  advanceWithin start
  let negated := (← peek) == some '^'
  if negated then
    advanceWithin start
  let list ← readHyphens start (.start (← position)) ((← rest).length + 1)
  if list.count = 0 ∧ (← peek) = some ']' then
    let part ← nextPart
    advanceWithin start
    return (negated, list.push ⟨.single ']', true, part⟩)
  else
    return (negated, list)

def closeClass (start : Position) (negated : Bool) (inner : ClassPart) : Reader ClassPart := do
  let whole : ClassPart := ⟨inner.set, inner.filled, ← since start⟩
  checkCase whole
  if negated && !(← has .scripts) then
    complain .invalidOctets whole.part
  return { whole with set := .negatedIf negated (.foldedIf (← has .anyCase) whole.set) }

mutual

def readBrackets : Nat → Reader ClassPart
  | 0 => failHere .classUnclosed
  | fuel + 1 => do
      let start ← position
      let (negated, list) ← readOpening start
      let inner ← readLists fuel (← since start) none list
      closeClass start negated inner

/-- Reads the lists of a class up to its closing bracket.  `opening` is where the class
was opened, and `pending` is joined with the list at hand. -/
def readLists : Nat → (opening : Stretch) → (pending : Option (ClassPart × ClassOperation)) →
    ClassList → Reader ClassPart
  | 0, opening, _, _ => fail .classUnclosed opening
  | fuel + 1, opening, pending, list => do
      skipSpace
      match ← rest with
      | [] => fail .classUnclosed opening
      | '[' :: _ =>
          match ← readNamedSet? with
          | some member => readLists fuel opening pending (list.push member)
          | none =>
              let member ← readBrackets fuel
              readLists fuel opening pending (list.push member)
      | ']' :: _ =>
          skip 1
          join pending list
      | c :: next =>
          match (if next.head? = some c then ClassOperation.ofChar? c else none) with
          | some operation =>
              skip 2
              let left ← join pending list
              readLists fuel opening (some (left, operation)) (.start (← position))
          | none =>
              let member ← readMember opening
              readLists fuel opening pending (list.push member)

end

end Reader

/-! ### Patterns -/

/-- An item of a sequence.  The setting of flags is an item that cannot be
repeated. -/
structure Item where
  pattern : Pattern
  repeatable : Bool

namespace Reader

def charPattern (c : Char) (octet : Bool) (part : Stretch) : Reader Pattern := do
  if ← has .scripts then
    if ← has .anyCase then
      complain .caseUnavailable part
  else if octet && decide (0x80 ≤ c.toNat) then
    complain .invalidOctets part
  return .one (.foldedIf (← has .anyCase) (.single c))

def dotSet : Reader CharSet := do
  if ← has .dotAll then
    return .everything
  else if ← has .returns then
    return .complement (.union (.single '\r') (.single '\n'))
  else
    return .complement (.single '\n')

def atomPattern (placed : PlacedAtom) : Reader Pattern := do
  match placed.atom with
  | .char c octet => charPattern c octet placed.part
  | .set set => return .one set
  | .condition asked => return .condition asked
  | .any =>
      unless ← has .scripts do
        complain .invalidOctets placed.part
      return .one (← dotSet)

def countLimit : Nat := 0xffffffff

/-- Reads a number in decimal digits with white space around it.  What is wrong with it
is told, but need not matter. -/
def readCount : Reader (Except PatternFault Nat) := do
  skip ((← rest).takeWhile Text.isBlank).length
  let start ← position
  let digits ← collectAll Char.isDigit
  let part ← since start
  let _ ← collectAll Text.isBlank
  let number := digits.foldl (fun number c => 10 * number + (c.toNat - '0'.toNat)) 0
  if digits.isEmpty then
    return .error (.malformed .decimalEmpty part none)
  else if countLimit < number then
    return .error (.malformed .decimalLarge part none)
  else
    return .ok number

def advanceCount (start : Position) : Reader Unit := do
  advance
  if (← peek).isNone then
    failSince .countUnclosed start

def readCounts : Reader (Nat × Option Nat) := do
  let start ← position
  advanceCount start
  let least ← readCount
  let counts ← match ← peek with
    | none => failSince .countUnclosed start
    | some ',' => do
        advanceCount start
        if (← peek) = some '\x7d' then
          pure (← liftExcept least, none)
        else
          let least ← liftExcept least
          let most ← liftExcept (← readCount)
          pure (least, some most)
    | some _ => do
        let number ← liftExcept least
        pure (number, some number)
  if (← peek) != some '\x7d' then
    failSince .countUnclosed start
  else
    advance
    if (← peek) = some '?' then
      skip 1
    if counts.2.any fun most => decide (most < counts.1) then
      failSince .countOrder start
    else
      return counts
where
  liftExcept (number : Except PatternFault Nat) : Reader Nat :=
    match number with
    | .ok number => return number
    | .error fault => throw fault

def readTimes : Char → Reader (Nat × Option Nat)
  | '\x7b' => readCounts
  | c => do
      skip 1
      if (← peek) = some '?' then
        skip 1
      return if c = '?' then (0, some 1) else if c = '*' then (0, none) else (1, none)

def readRepetition (sign : Char) (items : List Item) : Reader (List Item) := do
  match items with
  | ⟨pattern, true⟩ :: earlier =>
      let (least, most) ← readTimes sign
      return ⟨times least most pattern, true⟩ :: earlier
  | _ => failHere .nothingToRepeat

def isNameChar (first : Bool) (c : Char) : Bool :=
  if first then c == '_' || (Text.isAlphanumeric c && !c.isDigit)
  else c == '_' || c == '.' || c == '[' || c == ']' || Text.isAlphanumeric c

def readNameChars (first : Bool) : Nat → Reader Text
  | 0 => return []
  | fuel + 1 => do
      match ← peek with
      | none => failHere .nameUnclosed
      | some '>' => return []
      | some c =>
          if isNameChar first c then
            skip 1
            return c :: (← readNameChars false fuel)
          else
            fail .nameCharacter (← nextPart)

def readName : Reader Unit := do
  let start ← position
  let name ← readNameChars true ((← rest).length + 1)
  let part ← since start
  skip 1
  if name.isEmpty then
    fail .nameEmpty ⟨start, start⟩
  else
    match (← get).names.lookup name with
    | some earlier => failAgain .nameDuplicate part earlier
    | none => modify fun reading => { reading with names := (name, part) :: reading.names }

/-- What is read of flags: those that are set, those that are taken back, and where
the sign stands that tells them apart. -/
structure FlagsRead where
  items : List (Flag × Bool × Stretch)
  negation : Option Stretch
  dangling : Bool

def readFlags (found : FlagsRead) : Nat → Reader FlagsRead
  | 0 => return found
  | fuel + 1 => do
      match ← peek with
      | none => failHere .flagUnfinished
      | some c =>
          let part ← nextPart
          if c = ':' ∨ c = ')' then
            match found.negation, found.dangling with
            | some negation, true => fail .negationDangling negation
            | _, _ => return found
          else if c = '-' then
            match found.negation with
            | some earlier => failAgain .negationRepeated part earlier
            | none =>
                skip 1
                readFlags { found with negation := some part, dangling := true } fuel
          else
            match Flag.ofChar? c with
            | none => fail .flagUnknown part
            | some flag =>
                match found.items.lookup flag with
                | some (_, earlier) => failAgain .flagDuplicate part earlier
                | none =>
                    skip 1
                    let item := (flag, found.negation.isNone, part)
                    readFlags ⟨found.items ++ [item], found.negation, false⟩ fuel

def applyFlags (found : FlagsRead) : Reader Unit :=
  modify fun reading => { reading with
    flags := found.items.foldl (fun flags item => flags.put item.1 item.2.1) reading.flags }

/-- Reads what stands between an opening parenthesis and the contents of a group, and
tells whether there are any: it may also be that flags are set. -/
def readGroupStart : Reader Bool := do
  let start ← nextPart
  advance
  let inner ← position
  for look in ["?=", "?!", "?<=", "?<!"] do
    if ← skipWord look then
      failSince .lookAround start.start
  if (← skipWord "?P<") || (← skipWord "?<") then
    readName
    return true
  else if ← skipWord "?" then
    if (← peek).isNone then
      fail .groupUnclosed start
    else
      let found ← readFlags ⟨[], none, false⟩ ((← rest).length + 1)
      let contents := (← peek) == some ':'
      skip 1
      if !contents && found.items.isEmpty then
        fail .nothingToRepeat ⟨inner, inner⟩
      else
        applyFlags found
        return contents
  else
    return true

def sequencePattern (items : List Item) : Pattern :=
  sequence (items.reverse.map Item.pattern)

def choice (earlier : Option Pattern) (items : List Item) : Pattern :=
  match earlier with
  | none => sequencePattern items
  | some earlier => .either earlier (sequencePattern items)

/-- Reads a choice up to the end of its group or of the pattern.  `opening` is where the
group was opened, `earlier` holds the sequences in front of the one at hand, and
`items` its items, with the last one first. -/
def readChoice : Nat → (opening : Option Stretch) → (earlier : Option Pattern) → List Item →
    Reader Pattern
  | 0, _, earlier, items => return choice earlier items
  | fuel + 1, opening, earlier, items => do
      skipSpace
      match ← peek with
      | none =>
          match opening with
          | some opening => fail .groupUnclosed opening
          | none => return choice earlier items
      | some '(' =>
          let part ← nextPart
          let flags := (← get).flags
          if ← readGroupStart then
            let inner ← readChoice fuel (some part) none []
            modify fun reading => { reading with flags := flags }
            skip 1
            readChoice fuel opening earlier (⟨inner, true⟩ :: items)
          else
            readChoice fuel opening earlier (⟨.empty, false⟩ :: items)
      | some ')' =>
          if opening.isSome then
            return choice earlier items
          else
            fail .groupUnopened (← nextPart)
      | some '|' =>
          skip 1
          readChoice fuel opening (some (choice earlier items)) []
      | some '[' =>
          let found ← readBrackets fuel
          readChoice fuel opening earlier (⟨.one found.set, true⟩ :: items)
      | some c =>
          if c = '?' ∨ c = '*' ∨ c = '+' ∨ c = '\x7b' then
            readChoice fuel opening earlier (← readRepetition c items)
          else
            let pattern ← atomPattern (← readAtom)
            readChoice fuel opening earlier (⟨pattern, true⟩ :: items)

end Reader

/-- The pattern that a text describes.  Words and classes of characters are known for
ASCII only. -/
def ofText (text : Text) : Except PatternFault Pattern :=
  match (Reader.readChoice (text.length + 1) none none []).run (Reading.ofText text) with
  | .error fault => .error fault
  | .ok (pattern, reading) =>
      match reading.fault with
      | some fault => .error fault
      | none => if pattern.asksScripts then .error .unmatchable else .ok pattern

end Pattern
end Stencil
