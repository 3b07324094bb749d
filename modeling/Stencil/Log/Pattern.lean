/-
Patterns, and where they occur in texts.

A pattern is matched on sets of places: from the places where a match may start it
leads to those where one may end.  It occurs in a text if it leads anywhere from
all places of the text.  No step leads backwards, so repeating a pattern more often
than there are characters left leads nowhere new; this bounds the repetitions that
are tried.

What is wrong with a pattern is shown under it, with carets below the part that it
concerns.  In a pattern of several lines the lines are numbered, and a part that goes
over lines is told in words.
-/

import Stencil.Text.Alphanumeric
import Stencil.Token

namespace Stencil

/-- A set of characters.  A folded set holds also the ASCII letters of which it holds
the other case. -/
inductive CharSet where
  | nothing
  | range (first last : Char)
  | union (left right : CharSet)
  | inter (left right : CharSet)
  | complement (set : CharSet)
  | folded (set : CharSet)
deriving DecidableEq

namespace CharSet

def otherCase (c : Char) : Char :=
  if c.isUpper then c.toLower else c.toUpper

def contains : CharSet → Char → Bool
  | nothing, _ => false
  | range first last, c => decide (first ≤ c) && decide (c ≤ last)
  | union left right, c => left.contains c || right.contains c
  | inter left right, c => left.contains c && right.contains c
  | complement set, c => !set.contains c
  | folded set, c => set.contains c || set.contains (otherCase c)

def single (c : Char) : CharSet := range c c

def everything : CharSet := complement nothing

def unionAll (sets : List CharSet) : CharSet := sets.foldr union nothing

def difference (left right : CharSet) : CharSet := inter left (complement right)

def symmetricDifference (left right : CharSet) : CharSet :=
  union (difference left right) (difference right left)

def negatedIf (negated : Bool) (set : CharSet) : CharSet :=
  if negated then complement set else set

def foldedIf (fold : Bool) (set : CharSet) : CharSet :=
  if fold then folded set else set

def digits : CharSet := range '0' '9'

def upper : CharSet := range 'A' 'Z'

def lower : CharSet := range 'a' 'z'

def letters : CharSet := union upper lower

def space : CharSet := union (range '\t' '\r') (single ' ')

def word : CharSet := unionAll [digits, letters, single '_']

def named : List (String × CharSet) :=
  [("alnum", union digits letters),
    ("alpha", letters),
    ("ascii", range '\x00' '\x7f'),
    ("blank", union (single '\t') (single ' ')),
    ("cntrl", union (range '\x00' '\x1f') (single '\x7f')),
    ("digit", digits),
    ("graph", range '!' '~'),
    ("lower", lower),
    ("print", range ' ' '~'),
    ("punct", unionAll [range '!' '/', range ':' '@', range '[' '\x60', range '\x7b' '~']),
    ("space", space),
    ("upper", upper),
    ("word", word),
    ("xdigit", unionAll [digits, range 'A' 'F', range 'a' 'f'])]

def ofName? (name : Text) : Option CharSet :=
  named.lookup (String.ofList name)

end CharSet

/-! ### Patterns -/

/-- A place in a text: the number of characters in front of it, the last of them, and
the text behind it. -/
structure Spot where
  index : Nat
  before : Option Char
  after : Text

namespace Spot

def onwards (index : Nat) (before : Option Char) : Text → List Spot
  | [] => [⟨index, before, []⟩]
  | c :: rest => ⟨index, before, c :: rest⟩ :: onwards (index + 1) (some c) rest

def all (text : Text) : List Spot := onwards 0 none text

def past? (set : CharSet) (spot : Spot) : Option Spot :=
  match spot.after with
  | [] => none
  | c :: rest => if set.contains c then some ⟨spot.index + 1, some c, rest⟩ else none

def fresh (seen : List Spot) : List Spot → List Spot
  | [] => []
  | spot :: rest =>
      if seen.any fun other => other.index == spot.index then
        fresh seen rest
      else
        spot :: fresh (spot :: seen) rest

/-- The places that are seen, and those that some steps lead to from the last ones. -/
def spread (step : List Spot → List Spot) : (steps : Nat) → (seen last : List Spot) → List Spot
  | 0, seen, _ => seen
  | steps + 1, seen, last =>
      match fresh seen (step last) with
      | [] => seen
      | found => spread step steps (seen ++ found) found

def reach (spots : List Spot) : Nat :=
  (spots.map fun spot => spot.after.length).foldl max 0 + 1

end Spot

inductive WordEdge where
  | either
  | neither
  | start
  | stop
  /-- No word goes on from in front of here. -/
  | startHalf
  /-- No word goes on behind here. -/
  | stopHalf
deriving DecidableEq

/-- A condition on a place.  Lines may end in a newline alone, or also in a carriage
return alone or before a newline.  Words are of ASCII letters or of all scripts. -/
inductive SpotCondition where
  | textStart
  | textStop
  | lineStart (returns : Bool)
  | lineStop (returns : Bool)
  | word (scripts : Bool) (edge : WordEdge)
deriving DecidableEq

namespace SpotCondition

def isWordChar (scripts : Bool) (c : Char) : Bool :=
  c == '_' || (if scripts then Text.isAlphanumeric c else c.isAlphanum)

def holdsFor (edge : WordEdge) (before after : Bool) : Bool :=
  match edge with
  | .either => before != after
  | .neither => before == after
  | .start => !before && after
  | .stop => before && !after
  | .startHalf => !before
  | .stopHalf => !after

def holds (condition : SpotCondition) (spot : Spot) : Bool :=
  let next := spot.after.head?
  match condition with
  | .textStart => spot.before.isNone
  | .textStop => next.isNone
  | .lineStart false => spot.before.all (· == '\n')
  | .lineStop false => next.all (· == '\n')
  | .lineStart true =>
      spot.before.all (· == '\n') || (spot.before == some '\r' && next != some '\n')
  | .lineStop true =>
      next.all (· == '\r') || (next == some '\n' && spot.before != some '\r')
  | .word scripts edge =>
      holdsFor edge (spot.before.any (isWordChar scripts)) (next.any (isWordChar scripts))

end SpotCondition

inductive Pattern where
  | empty
  | one (set : CharSet)
  | condition (asked : SpotCondition)
  | seq (first second : Pattern)
  | either (left right : Pattern)
  | repeated (least : Nat) (most : Option Nat) (inner : Pattern)

namespace Pattern

def times (least : Nat) (most : Option Nat) (inner : Pattern) : Pattern :=
  if most = some 0 then empty else repeated least most inner

def sequence : List Pattern → Pattern
  | [] => empty
  | [pattern] => pattern
  | pattern :: rest => seq pattern (sequence rest)

def asksScripts : Pattern → Bool
  | condition (.word scripts _) => scripts
  | seq first second => first.asksScripts || second.asksScripts
  | either left right => left.asksScripts || right.asksScripts
  | repeated _ _ inner => inner.asksScripts
  | _ => false

def ends : Pattern → List Spot → List Spot
  | empty, spots => spots
  | one set, spots => spots.filterMap (Spot.past? set)
  | condition asked, spots => spots.filter asked.holds
  | seq first second, spots => second.ends (first.ends spots)
  | either left right, spots =>
      let found := left.ends spots
      found ++ Spot.fresh found (right.ends spots)
  | repeated least most inner, spots =>
      let bound := Spot.reach spots
      let start := Nat.repeat inner.ends (min least bound) spots
      let more := match most with
        | none => bound
        | some most => min (most - least) bound
      Spot.spread inner.ends more start start

def occursIn (pattern : Pattern) (text : Text) : Bool :=
  !(pattern.ends (Spot.all text)).isEmpty

end Pattern

/-! ### Faults -/

inductive PatternCause where
  | classEscape
  | classRangeOrder
  | classRangeEnd
  | classUnclosed
  | decimalEmpty
  | decimalLarge
  | hexEmpty
  | hexNoCharacter
  | hexDigit
  | escapeUnfinished
  | escapeUnknown
  | negationDangling
  | negationRepeated
  | flagDuplicate
  | flagUnfinished
  | flagUnknown
  | nameDuplicate
  | nameEmpty
  | nameCharacter
  | nameUnclosed
  | groupUnclosed
  | groupUnopened
  | countOrder
  | countUnclosed
  | nothingToRepeat
  | edgeUnclosed
  | edgeUnknown
  | edgeUnfinished
  | propertyLetter
  | backreference
  | lookAround
  | characterNotAllowed
  | invalidOctets
  | propertyUnknown
  | propertyValueUnknown
  | scriptsUnavailable
  | caseUnavailable
deriving DecidableEq

def PatternCause.message : PatternCause → Text
  | .classEscape => "invalid escape sequence found in character class".toList
  | .classRangeOrder =>
      "invalid character class range, the start must be <= the end".toList
  | .classRangeEnd => "invalid range boundary, must be a literal".toList
  | .classUnclosed => "unclosed character class".toList
  | .decimalEmpty => "repetition quantifier expects a valid decimal".toList
  | .decimalLarge => "decimal literal invalid".toList
  | .hexEmpty => "hexadecimal literal empty".toList
  | .hexNoCharacter => "hexadecimal literal is not a Unicode scalar value".toList
  | .hexDigit => "invalid hexadecimal digit".toList
  | .escapeUnfinished =>
      "incomplete escape sequence, reached end of pattern prematurely".toList
  | .escapeUnknown => "unrecognized escape sequence".toList
  | .negationDangling => "dangling flag negation operator".toList
  | .negationRepeated => "flag negation operator repeated".toList
  | .flagDuplicate => "duplicate flag".toList
  | .flagUnfinished => "expected flag but got end of regex".toList
  | .flagUnknown => "unrecognized flag".toList
  | .nameDuplicate => "duplicate capture group name".toList
  | .nameEmpty => "empty capture group name".toList
  | .nameCharacter => "invalid capture group character".toList
  | .nameUnclosed => "unclosed capture group name".toList
  | .groupUnclosed => "unclosed group".toList
  | .groupUnopened => "unopened group".toList
  | .countOrder =>
      "invalid repetition count range, the start must be <= the end".toList
  | .countUnclosed => "unclosed counted repetition".toList
  | .nothingToRepeat => "repetition operator missing expression".toList
  | .edgeUnclosed =>
      ("special word boundary assertion is either unclosed or " ++
        "contains an invalid character").toList
  | .edgeUnknown =>
      ("unrecognized special word boundary assertion, valid choices are: " ++
        "start, end, start-half or end-half").toList
  | .edgeUnfinished =>
      ("found either the beginning of a special word boundary or a bounded repetition " ++
        "on a \\b with an opening brace, but no closing brace").toList
  | .propertyLetter => "invalid Unicode character class".toList
  | .backreference => "backreferences are not supported".toList
  | .lookAround => "look-around, including look-ahead and look-behind, is not supported".toList
  | .characterNotAllowed => "Unicode not allowed here".toList
  | .invalidOctets => "pattern can match invalid UTF-8".toList
  | .propertyUnknown => "Unicode property not found".toList
  | .propertyValueUnknown => "Unicode property value not found".toList
  | .scriptsUnavailable =>
      ("Unicode-aware Perl class not found " ++
        "(make sure the unicode-perl feature is enabled)").toList
  | .caseUnavailable =>
      ("Unicode-aware case insensitivity matching is not available " ++
        "(make sure the unicode-case feature is enabled)").toList

structure Stretch where
  start : Position
  stop : Position
deriving DecidableEq

/-- Why a text is no pattern that can be matched.  A second occurrence of something
tells where the earlier one is.  Words of all scripts are not told apart. -/
inductive PatternFault where
  | malformed (cause : PatternCause) (part : Stretch) (earlier : Option Stretch)
  | unmatchable
deriving DecidableEq

namespace PatternFault

def carets (column : Nat) : List Stretch → Text
  | [] => []
  | part :: rest =>
      let width := max 1 (part.stop.col - part.start.col)
      List.replicate (part.start.col - column) ' ' ++ List.replicate width '^' ++
        carets (max column part.start.col + width) rest

def markedLine (margin line : Text) (parts : List Stretch) : Text :=
  margin ++ line ++ ['\n'] ++
    (if parts.isEmpty then []
      else List.replicate margin.length ' ' ++ carets 1 parts ++ ['\n'])

def partsOn (line : Nat) (parts : List Stretch) : List Stretch :=
  parts.filter fun part => part.start.line == line && part.stop.line == line

def numberedLines (width : Nat) (parts : List Stretch) : Nat → List Text → Text
  | _, [] => []
  | number, line :: rest =>
      markedLine ((Text.ofNat number).leftpad width ' ' ++ ": ".toList) line
        (partsOn number parts) ++
      numberedLines width parts (number + 1) rest

def spanNote (part : Stretch) : Text :=
  "on line ".toList ++ Text.ofNat part.start.line ++ " (column ".toList ++
    Text.ofNat part.start.col ++ ") through line ".toList ++ Text.ofNat part.stop.line ++
    " (column ".toList ++ Text.ofNat (part.stop.col - 1) ++ ")\n".toList

def rule : Text := List.replicate 79 '~' ++ ['\n']

def marked (parts : List Stretch) (text : Text) : Text :=
  if text.contains '\n' then
    let count := (text.splitOn '\n').length
    let width := if count ≤ 1 then 0 else (Text.ofNat count).length
    rule ++ numberedLines width parts 1 (Text.lines text) ++ rule ++
      (parts.filter fun part => part.start.line != part.stop.line).flatMap spanNote
  else
    markedLine "    ".toList text (partsOn 1 parts)

def render (fault : PatternFault) (text : Text) : Text :=
  match fault with
  | .malformed cause part earlier =>
      "regex parse error:\n".toList ++ marked (earlier.toList ++ [part]) text ++
        "error: ".toList ++ cause.message
  | .unmatchable => "error building NFA".toList

end PatternFault
end Stencil
