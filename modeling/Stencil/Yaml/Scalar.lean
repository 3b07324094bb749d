/-
The scalars of YAML: plain words, quoted texts and indented blocks.

The line breaks that count as newlines are brought to newlines first; the two
separator characters of Unicode break lines as well, but are kept as they are.
Lines and columns count from zero.  The offset of a place is the number of bytes
in front of it, which bounds the length of keys.

Line breaks inside of plain and quoted scalars are folded.  A plain scalar goes on
over the following lines as long as they are indented; a quoted one ends at its
quote; a block ends where the indentation does.
-/

import Stencil.Text.Basic

namespace Stencil
namespace Yaml

/-- Brings the line breaks of a text to newlines: a carriage return, alone or
before a newline, and the character U+0085. -/
def unifyBreaks : Text → Text
  | '\r' :: '\n' :: rest => '\n' :: unifyBreaks rest
  | c :: rest => (if c = '\r' ∨ c = '\u0085' then '\n' else c) :: unifyBreaks rest
  | [] => []

def isAllowed (c : Char) : Bool :=
  c == '\t' || c == '\n' || c == '\r' || c == '\u0085' ||
    (decide (0x20 ≤ c.toNat) && decide (c.toNat ≤ 0x7e)) ||
    (decide (0xa0 ≤ c.toNat) && c.toNat != 0xfffe && c.toNat != 0xffff)

def byteOrderMark : Char := '\ufeff'

def isBlank (c : Char) : Bool :=
  c == ' ' || c == '\t'

def isBreak (c : Char) : Bool :=
  c == '\n' || c == '\u2028' || c == '\u2029'

def isWhite (c : Char) : Bool :=
  isBlank c || isBreak c

def isWordChar (c : Char) : Bool :=
  c.isAlphanum || c == '_' || c == '-'

/-- Whether a word ends here: at white space or at the end. -/
def endsWord : Text → Bool
  | [] => true
  | c :: _ => isWhite c

/-- A place in a text: what is still to be read, its line and column, and the number
of bytes in front of it. -/
structure Input where
  rest : Text
  line : Nat
  column : Nat
  offset : Nat

namespace Input

def ofText (text : Text) : Input := ⟨text, 0, 0, 0⟩

def behind (input : Input) (c : Char) (rest : Text) : Input :=
  if isBreak c then ⟨rest, input.line + 1, 0, input.offset + c.utf8Size⟩
  else ⟨rest, input.line, input.column + 1, input.offset + c.utf8Size⟩

def skip (input : Input) : Nat → Input
  | 0 => input
  | count + 1 =>
      match input.rest with
      | [] => input
      | c :: rest => (input.behind c rest).skip count

def moveTo (input : Input) (rest : Text) : Input :=
  input.skip (input.rest.length - rest.length)

def isMarker (input : Input) (c : Char) : Bool :=
  input.column == 0 && input.rest.take 3 == [c, c, c] && endsWord (input.rest.drop 3)

def atMarker (input : Input) : Bool :=
  input.isMarker '-' || input.isMarker '.'

end Input

/-- Measures the white space and comments in front of the next part: the number of
characters, and whether a key may start behind them.  In block style a new line
allows a key, and a tab is white space only while none is allowed.  A byte order
mark is passed over at the start of a line. -/
def gapLength (bracketed : Bool) : (keyAllowed comment lineStart : Bool) → Text → Nat × Bool
  | keyAllowed, _, _, [] => (0, keyAllowed)
  | keyAllowed, comment, lineStart, c :: rest =>
      let counted (more : Nat × Bool) : Nat × Bool := (more.1 + 1, more.2)
      if isBreak c then
        counted (gapLength bracketed (keyAllowed || !bracketed) false true rest)
      else if comment then
        counted (gapLength bracketed keyAllowed true false rest)
      else if c = ' ' ∨ (c = '\t' ∧ (bracketed || !keyAllowed) = true) ∨
          (c = byteOrderMark ∧ lineStart = true) then
        counted (gapLength bracketed keyAllowed false false rest)
      else if c = '#' then
        counted (gapLength bracketed keyAllowed true false rest)
      else
        (0, keyAllowed)

/-- The text that line breaks in a row stand for: a single newline for a space, a
newline before further breaks for nothing, and every other break for itself. -/
def foldBreaks : Text → Text
  | ['\n'] => [' ']
  | '\n' :: more => more
  | breaks => breaks

def folded (white : Text) : Text :=
  let breaks := white.filter isBreak
  if breaks.isEmpty then white else foldBreaks breaks

/-- Whether a tab stands in front of a column in some line behind the first. -/
def indentsByTab (least : Nat) (white : Text) : Bool :=
  (white.splitOnP isBreak).tail.any fun line => (line.take least).contains '\t'

/-! ### Scalars -/

def isBracketIndicator (c : Char) : Bool :=
  c == ',' || c == '[' || c == ']' || c == '\x7b' || c == '\x7d'

/-- Whether a colon within brackets is followed directly by an indicator, which is not
allowed in a plain scalar. -/
def hasLooseColon : Text → Bool
  | ':' :: c :: _ => isBracketIndicator c || c == '?'
  | _ => false

/-- Whether the word of a plain scalar ends in front of a text: at white space, at a
colon that ends a word and, within brackets, at an indicator. -/
def endsPlain (bracketed : Bool) : Text → Bool
  | [] => true
  | c :: rest =>
      isWhite c || (c == ':' && endsWord rest) ||
        (bracketed && (isBracketIndicator c || hasLooseColon (c :: rest)))

def plainWord (bracketed : Bool) : Text → Text
  | [] => []
  | c :: rest => if endsPlain bracketed (c :: rest) then [] else c :: plainWord bracketed rest

def startsPlain (bracketed : Bool) : Text → Bool
  | [] => false
  | c :: rest =>
      if c = '-' then
        !rest.head?.any isBlank
      else if c = '?' ∨ c = ':' then
        !bracketed && !endsWord rest
      else
        !(isWhite c || isBracketIndicator c || "#&*!|>'\"%@\x60".toList.contains c)

/-- A plain scalar that has been read, the place behind it and the white space after
it, and whether that place is on a new line. -/
structure ScannedPlain where
  text : Text
  input : Input
  newLine : Bool

/-- The words of a plain scalar behind its first one, each with the white space in
front of it.  `least` is the column from which a line belongs to the scalar. -/
def plainMore (bracketed : Bool) (least : Nat) : Nat → Input → Option ScannedPlain
  | 0, _ => none
  | fuel + 1, input =>
      let white := input.rest.takeWhile isWhite
      if white.isEmpty then
        some ⟨[], input, false⟩
      else if indentsByTab least white then
        none
      else
        let next := input.skip white.length
        let word := plainWord bracketed next.rest
        if (!bracketed && decide (next.column < least)) || next.atMarker ||
            next.rest.head? == some '#' then
          some ⟨[], next, white.any isBreak⟩
        else if bracketed && hasLooseColon (next.rest.drop word.length) then
          none
        else if word.isEmpty then
          some ⟨[], next, white.any isBreak⟩
        else
          match plainMore bracketed least fuel (next.skip word.length) with
          | none => none
          | some more => some { more with text := folded white ++ word ++ more.text }

def scanPlain (bracketed : Bool) (least : Nat) (input : Input) : Option ScannedPlain :=
  let word := plainWord bracketed input.rest
  let behind := input.skip word.length
  if bracketed && hasLooseColon behind.rest then
    none
  else
    match plainMore bracketed least (input.rest.length + 1) behind with
    | none => none
    | some more => some { more with text := word ++ more.text }

def escaped? : Char → Option Char
  | '0' => some '\x00'
  | 'a' => some '\x07'
  | 'b' => some '\x08'
  | 't' => some '\t'
  | '\t' => some '\t'
  | 'n' => some '\n'
  | 'v' => some '\x0b'
  | 'f' => some '\x0c'
  | 'r' => some '\r'
  | 'e' => some '\x1b'
  | ' ' => some ' '
  | '"' => some '"'
  | '/' => some '/'
  | '\\' => some '\\'
  | 'N' => some '\u0085'
  | '_' => some '\u00a0'
  | 'L' => some '\u2028'
  | 'P' => some '\u2029'
  | _ => none

def escapeWidth? : Char → Option Nat
  | 'x' => some 2
  | 'u' => some 4
  | 'U' => some 8
  | _ => none

/-- The character that an escape stands for, and the number of characters that it
takes behind the backslash.  The escape starts with the given letter. -/
def readEscape? (letter : Char) (following : Text) : Option (Char × Nat) :=
  match escapeWidth? letter with
  | some width =>
      if following.length < width then none
      else (Text.charOfHex? (following.take width)).map fun c => (c, width + 1)
  | none => (escaped? letter).map fun c => (c, 1)

/-- Reads a scalar between quotes, from behind the opening quote on, to the text
behind the closing one.  Double quotes know escapes; between single quotes a
doubled quote stands for one. -/
def scanQuoted (double : Bool) : Nat → Input → Option (Text × Input)
  | 0, _ => none
  | fuel + 1, input =>
      let more (text : Text) (taken : Nat) : Option (Text × Input) :=
        (scanQuoted double fuel (input.skip taken)).map fun scanned =>
          (text ++ scanned.1, scanned.2)
      if input.atMarker then
        none
      else
        match input.rest with
        | [] => none
        | c :: rest =>
            if isWhite c then
              let white := input.rest.takeWhile isWhite
              more (folded white) white.length
            else if double then
              match c, rest with
              | '"', _ => some ([], input.skip 1)
              | '\\', letter :: following =>
                  if isBreak letter then
                    let white := following.takeWhile isWhite
                    more (white.filter isBreak) (2 + white.length)
                  else
                    match readEscape? letter following with
                    | some (c, taken) => more [c] (1 + taken)
                    | none => none
              | '\\', [] => none
              | c, _ => more [c] 1
            else
              match c, rest with
              | '\'', '\'' :: _ => more ['\''] 2
              | '\'', _ => some ([], input.skip 1)
              | c, _ => more [c] 1

inductive Chomping where
  | strip
  | clip
  | keep

structure BlockHeader where
  chomping : Chomping
  indent : Option Nat

def chomping? : Char → Option Chomping
  | '+' => some .keep
  | '-' => some .strip
  | _ => none

def blockIndent? (c : Char) : Option Nat :=
  if '1' ≤ c ∧ c ≤ '9' then some (c.toNat - '0'.toNat) else none

def blockHeader (text : Text) : BlockHeader × Text :=
  match text with
  | first :: rest =>
      match chomping? first, blockIndent? first with
      | some chomping, _ =>
          match rest.head?.bind blockIndent? with
          | some indent => (⟨chomping, some indent⟩, rest.tail)
          | none => (⟨chomping, none⟩, rest)
      | none, some indent =>
          match rest.head?.bind chomping? with
          | some chomping => (⟨chomping, some indent⟩, rest.tail)
          | none => (⟨.clip, some indent⟩, rest)
      | none, none => (⟨.clip, none⟩, text)
  | [] => (⟨.clip, none⟩, [])

/-- White lines within an indented block: the number of their characters, their line
breaks, and the furthest column that is reached. -/
structure BlockGap where
  length : Nat
  breaks : Text
  widest : Nat

/-- Measures the indentation and the white lines in front of the next line of a block,
from a column on.  Only spaces indent; while the indentation is not known, all
spaces do. -/
def blockGap (indent : Option Nat) : (column : Nat) → Text → Option BlockGap
  | column, [] => some ⟨0, [], column⟩
  | column, c :: rest =>
      if indent.all (fun indent => decide (column < indent)) && isBlank c then
        if c = '\t' then
          none
        else
          (blockGap indent (column + 1) rest).map fun gap => { gap with length := gap.length + 1 }
      else if isBreak c then
        (blockGap indent 0 rest).map fun gap =>
          ⟨gap.length + 1, c :: gap.breaks, max column gap.widest⟩
      else
        some ⟨0, [], column⟩

/-- The lines of a block: their text up to the break of the last of them, that break,
the breaks of the white lines behind it, and the place behind all. -/
structure ScannedLines where
  text : Text
  lastBreak : Text
  whiteBreaks : Text
  input : Input

/-- Reads the lines of a block from the start of one on, with the break of the line in
front of it, the breaks of the white lines in between, and whether the line in front
started without white space.  Breaks between two such lines are folded, unless the
block is literal. -/
def blockLines (literal : Bool) (indent : Nat) :
    Nat → (lastBreak whiteBreaks : Text) → (flush : Bool) → Input → Option ScannedLines
  | 0, _, _, _, _ => none
  | fuel + 1, lastBreak, whiteBreaks, flush, input =>
      if input.column = indent ∧ input.rest ≠ [] then
        let flushHere := !input.rest.head?.any isBlank
        let joint :=
          if !literal && flush && flushHere && lastBreak == ['\n'] then
            foldBreaks (lastBreak ++ whiteBreaks)
          else
            lastBreak ++ whiteBreaks
        let line := input.rest.takeWhile fun c => !isBreak c
        let lineEnd := input.skip line.length
        let next := lineEnd.skip 1
        match blockGap (some indent) next.column next.rest with
        | none => none
        | some gap =>
            match blockLines literal indent fuel (lineEnd.rest.take 1) gap.breaks flushHere
                (next.skip gap.length) with
            | none => none
            | some more => some { more with text := joint ++ line ++ more.text }
      else
        some ⟨[], lastBreak, whiteBreaks, input⟩

def scanBlock (literal : Bool) (outer : Option Nat) (input : Input) : Option (Text × Input) :=
  let header := blockHeader input.rest
  let afterBlanks := header.2.dropWhile isBlank
  let afterHeader :=
    if afterBlanks.head? == some '#' then afterBlanks.dropWhile (fun c => !isBreak c)
    else afterBlanks
  if afterHeader.head?.any fun c => !isBreak c then
    none
  else
    let body := (input.moveTo afterHeader).skip 1
    let given := header.1.indent.map fun indent => outer.getD 0 + indent
    match blockGap given body.column body.rest with
    | none => none
    | some gap =>
        let least := (outer.map (· + 1)).getD 0
        let indent := given.getD (max gap.widest (max least 1))
        match blockLines literal indent (body.rest.length + 1) [] gap.breaks true
            (body.skip gap.length) with
        | none => none
        | some lines =>
            let ending :=
              match header.1.chomping with
              | .strip => []
              | .clip => lines.lastBreak
              | .keep => lines.lastBreak ++ lines.whiteBreaks
            some (lines.text ++ ending, lines.input)

end Yaml
end Stencil
