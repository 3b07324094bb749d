/-
Reading a YAML text as tokens.

Indentation becomes tokens of its own: a block collection starts with a token and
ends with one, like a collection between brackets.  The reader keeps the columns of
the block collections that are open, and for the block style and for each open
bracket the place where a key may have started: a key shows only by the colon behind
it, and then takes its tokens in front of what was read since.

A tag is a list of octets, each written as the character with its number, because
escapes in it stand for octets.  No octet of a tag is zero: the first zero ends it.
-/

import Stencil.Yaml.Scalar

namespace Stencil
namespace Yaml

inductive Style where
  | plain
  | quoted
  | literal
  | folded
deriving DecidableEq

inductive Token where
  | version (major minor : Nat)
  | shorthand (handle uri : Text)
  | documentStart
  | documentEnd
  | blockSequence
  | blockMapping
  | blockEnd
  | sequenceStart
  | sequenceEnd
  | mappingStart
  | mappingEnd
  | entry
  | separator
  | key
  | value
  | anchor (name : Text)
  | alias (name : Text)
  | tag (handle uri : Text)
  | scalar (style : Style) (text : Text)
deriving DecidableEq

/-! ### Anchors, tags and directives -/

def endsName : Text → Bool
  | [] => true
  | c :: _ => isWhite c || "?:,]\x7d%@\x60".toList.contains c

def scanName (text : Text) : Option (Text × Text) :=
  let name := text.takeWhile isWordChar
  let rest := text.dropWhile isWordChar
  if name.isEmpty || !endsName rest then none else some (name, rest)

/-- The characters of tags.  The last three are for tags between angle brackets. -/
def isUriChar (verbatim : Bool) (c : Char) : Bool :=
  isWordChar c || ";/?:@&=+$.!~*'()".toList.contains c || (verbatim && ",[]".toList.contains c)

def escapedOctet? : Text → Option (Nat × Text)
  | '%' :: high :: low :: rest =>
      match Text.hexDigit? high, Text.hexDigit? low with
      | some high, some low => some (16 * high + low, rest)
      | _, _ => none
  | _ => none

def trailingOctets? (octet : Nat) : Option Nat :=
  if octet < 0x80 then some 0
  else if 0xc0 ≤ octet ∧ octet < 0xe0 then some 1
  else if 0xe0 ≤ octet ∧ octet < 0xf0 then some 2
  else if 0xf0 ≤ octet ∧ octet < 0xf8 then some 3
  else none

def scanTrailing : Nat → Text → Option (Text × Text)
  | 0, text => some ([], text)
  | count + 1, text =>
      match escapedOctet? text with
      | none => none
      | some (octet, rest) =>
          if octet < 0x80 ∨ 0xc0 ≤ octet then
            none
          else
            (scanTrailing count rest).map fun more => (Char.ofNat octet :: more.1, more.2)

def scanOctets (text : Text) : Option (Text × Text) :=
  match escapedOctet? text with
  | none => none
  | some (octet, rest) =>
      match trailingOctets? octet with
      | none => none
      | some count =>
          (scanTrailing count rest).map fun more => (Char.ofNat octet :: more.1, more.2)

def scanUriChars (verbatim : Bool) : Nat → Text → Option (Text × Text)
  | 0, _ => none
  | _ + 1, [] => some ([], [])
  | fuel + 1, c :: rest =>
      if c = '%' then
        match scanOctets (c :: rest) with
        | none => none
        | some (octets, rest) =>
            (scanUriChars verbatim fuel rest).map fun more => (octets ++ more.1, more.2)
      else if isUriChar verbatim c then
        (scanUriChars verbatim fuel rest).map fun more => (c :: more.1, more.2)
      else
        some ([], c :: rest)

/-- Reads a tag up to its end.  `start` has been read already; nothing at all is no
tag. -/
def scanUri (verbatim : Bool) (start : Option Text) (text : Text) : Option (Text × Text) :=
  match scanUriChars verbatim (text.length + 1) text with
  | none => none
  | some (uri, rest) =>
      if start.isNone && rest.length == text.length then none
      else some ((start.getD [] ++ uri).takeWhile (· != '\x00'), rest)

def scanHandle : Text → Option (Text × Text)
  | '!' :: rest =>
      let name := rest.takeWhile isWordChar
      match rest.dropWhile isWordChar with
      | '!' :: behind => some ('!' :: name ++ ['!'], behind)
      | behind => some ('!' :: name, behind)
  | _ => none

def endsTag (bracketed : Bool) (text : Text) : Bool :=
  endsWord text || (bracketed && text.head? == some ',')

/-- Reads the tag of a value, from its exclamation mark on: its handle, which is empty
for a tag that is written in full, and what follows the handle. -/
def scanTag (bracketed : Bool) (text : Text) : Option (Token × Text) :=
  let scanned : Option (Token × Text) :=
    match text with
    | '!' :: '<' :: rest =>
        match scanUri true none rest with
        | some (uri, '>' :: behind) => some (.tag [] uri, behind)
        | _ => none
    | _ =>
        match scanHandle text with
        | none => none
        | some (handle, rest) =>
            if 2 ≤ handle.length ∧ handle.getLast? = some '!' then
              (scanUri false none rest).map fun uri => (.tag handle uri.1, uri.2)
            else
              (scanUri false (some handle.tail) rest).map fun uri =>
                (if uri.1.isEmpty then .tag [] ['!'] else .tag ['!'] uri.1, uri.2)
  match scanned with
  | none => none
  | some (tag, rest) => if endsTag bracketed rest then some (tag, rest) else none

def versionDigits : Nat := 9

def scanVersionPart (text : Text) : Option (Nat × Text) :=
  let digits := text.takeWhile Char.isDigit
  if digits.isEmpty || decide (versionDigits < digits.length) then none
  else
    some (digits.foldl (fun number c => 10 * number + (c.toNat - '0'.toNat)) 0,
      text.dropWhile Char.isDigit)

def scanVersion (text : Text) : Option (Token × Text) :=
  match scanVersionPart text with
  | some (major, '.' :: rest) =>
      (scanVersionPart rest).map fun minor => (.version major minor.1, minor.2)
  | _ => none

def scanShorthand (text : Text) : Option (Token × Text) :=
  match scanHandle text with
  | none => none
  | some (handle, rest) =>
      if (handle != ['!'] && !(decide (2 ≤ handle.length) && handle.getLast? == some '!')) ||
          !rest.head?.any isBlank then
        none
      else
        match scanUri true none (rest.dropWhile isBlank) with
        | none => none
        | some (uri, rest) => if endsWord rest then some (.shorthand handle uri, rest) else none

def scanDirective (text : Text) : Option (Token × Text) :=
  let name := text.takeWhile isWordChar
  let rest := text.dropWhile isWordChar
  if !endsWord rest then
    none
  else
    let scanned :=
      if name = "YAML".toList then scanVersion (rest.dropWhile isBlank)
      else if name = "TAG".toList then scanShorthand (rest.dropWhile isBlank)
      else none
    match scanned with
    | none => none
    | some (directive, rest) =>
        let behind := rest.dropWhile isBlank
        let lineEnd :=
          if behind.head? == some '#' then behind.dropWhile (fun c => !isBreak c) else behind
        if lineEnd.head?.any fun c => !isBreak c then none else some (directive, lineEnd)

/-! ### The reader -/

/-- A place where a key may have started: the number of tokens in front of it, the
place, and whether there must be a key. -/
structure KeyStart where
  required : Bool
  tokens : Nat
  input : Input

/-- A key and its colon are at most this many bytes apart. -/
def keyLimit : Nat := 1024

def KeyStart.isOver (start : KeyStart) (input : Input) : Bool :=
  decide (start.input.line < input.line) ||
    decide (start.input.offset + keyLimit < input.offset)

/-- A reader: the place that it has reached, its tokens with the last one first, the
columns of the open block collections with the innermost first, the possible keys
of the innermost bracket and of what is around it, and whether a key may start. -/
structure Reader where
  input : Input
  tokens : List Token
  indents : List Nat
  key : Option KeyStart
  outerKeys : List (Option KeyStart)
  keyAllowed : Bool

namespace Reader

def ofText (text : Text) : Reader :=
  { input := Input.ofText text
    tokens := []
    indents := []
    key := none
    outerKeys := []
    keyAllowed := true }

def bracketed (reader : Reader) : Bool := !reader.outerKeys.isEmpty

/-- The column from which a line belongs to the innermost block collection. -/
def least (reader : Reader) : Nat := (reader.indents.head?.map (· + 1)).getD 0

def push (reader : Reader) (token : Token) : Reader :=
  { reader with tokens := token :: reader.tokens }

def allowKey (reader : Reader) (allowed : Bool) : Reader :=
  { reader with keyAllowed := allowed }

def closeBlocks (reader : Reader) (deeper : Nat → Bool) : Reader :=
  if reader.bracketed then
    reader
  else
    { reader with
      tokens := (reader.indents.takeWhile deeper).map (fun _ => Token.blockEnd) ++ reader.tokens
      indents := reader.indents.dropWhile deeper }

def opensBlock (reader : Reader) (column : Nat) : Bool :=
  !reader.bracketed && reader.indents.head?.all (fun indent => decide (indent < column))

def openBlock (reader : Reader) (token : Token) : Reader :=
  if reader.opensBlock reader.input.column then
    { reader.push token with indents := reader.input.column :: reader.indents }
  else
    reader

/-- Gives up a possible key, which fails if there must be one. -/
def dropKey? (reader : Reader) : Option Reader :=
  if reader.key.any (·.required) then none else some { reader with key := none }

def dropOldKeys? (reader : Reader) : Option Reader :=
  let isOld (key : Option KeyStart) : Bool := key.any (·.isOver reader.input)
  let isMissed (key : Option KeyStart) : Bool := isOld key && key.any (·.required)
  let kept (key : Option KeyStart) : Option KeyStart := if isOld key then none else key
  if isMissed reader.key || reader.outerKeys.any isMissed then
    none
  else
    some { reader with key := kept reader.key, outerKeys := reader.outerKeys.map kept }

def noteKey? (reader : Reader) : Option Reader :=
  if reader.keyAllowed then
    reader.dropKey?.map fun reader =>
      { reader with
        key := some {
          required := !reader.bracketed && reader.indents.head? == some reader.input.column
          tokens := reader.tokens.length
          input := reader.input } }
  else
    some reader

def take (reader : Reader) (count : Nat) (token : Token) : Reader :=
  { reader.push token with input := reader.input.skip count }

def readMarker (reader : Reader) (token : Token) : Option Reader :=
  (reader.closeBlocks fun _ => true).dropKey?.map fun reader =>
    (reader.allowKey false).take 3 token

def readDirective (reader : Reader) : Option Reader :=
  match (reader.closeBlocks fun _ => true).dropKey? with
  | none => none
  | some reader =>
      (scanDirective (reader.input.rest.drop 1)).map fun scanned =>
        { (reader.allowKey false).push scanned.1 with
          input := (reader.input.moveTo scanned.2).skip 1 }

def openBracket (reader : Reader) (token : Token) : Option Reader :=
  reader.noteKey?.map fun reader =>
    ({ reader with
      key := none
      outerKeys := reader.key :: reader.outerKeys }.allowKey true).take 1 token

def closeBracket (reader : Reader) (token : Token) : Option Reader :=
  reader.dropKey?.map fun reader =>
    let outer :=
      match reader.outerKeys with
      | [] => reader
      | key :: keys => { reader with key := key, outerKeys := keys }
    (outer.allowKey false).take 1 token

def readSeparator (reader : Reader) : Option Reader :=
  reader.dropKey?.map fun reader => (reader.allowKey true).take 1 .separator

def readEntry (reader : Reader) : Option Reader :=
  if reader.bracketed || reader.keyAllowed then
    (reader.openBlock .blockSequence).dropKey?.map fun reader =>
      (reader.allowKey true).take 1 .entry
  else
    none

def readKey (reader : Reader) : Option Reader :=
  if reader.bracketed || reader.keyAllowed then
    (reader.openBlock .blockMapping).dropKey?.map fun reader =>
      (reader.allowKey (!reader.bracketed)).take 1 .key
  else
    none

/-- Puts the tokens of a key in front of what was read since it started. -/
def confirmKey (reader : Reader) (start : KeyStart) : Reader :=
  let later := reader.tokens.length - start.tokens
  let opens := reader.opensBlock start.input.column
  { reader with
    tokens := reader.tokens.take later ++
      .key :: ((if opens then [.blockMapping] else []) ++ reader.tokens.drop later)
    indents := if opens then start.input.column :: reader.indents else reader.indents
    key := none
    keyAllowed := false }

def readValue (reader : Reader) : Option Reader :=
  match reader.key with
  | some start => some ((reader.confirmKey start).take 1 .value)
  | none =>
      if reader.bracketed || reader.keyAllowed then
        some (((reader.openBlock .blockMapping).allowKey (!reader.bracketed)).take 1 .value)
      else
        none

def readName (reader : Reader) (wrap : Text → Token) : Option Reader :=
  match reader.noteKey? with
  | none => none
  | some reader =>
      (scanName (reader.input.rest.drop 1)).map fun scanned =>
        { (reader.allowKey false).push (wrap scanned.1) with
          input := reader.input.moveTo scanned.2 }

def readTag (reader : Reader) : Option Reader :=
  match reader.noteKey? with
  | none => none
  | some reader =>
      (scanTag reader.bracketed reader.input.rest).map fun scanned =>
        { (reader.allowKey false).push scanned.1 with input := reader.input.moveTo scanned.2 }

def readBlock (reader : Reader) (style : Style) : Option Reader :=
  match reader.dropKey? with
  | none => none
  | some reader =>
      (scanBlock (style == .literal) reader.indents.head? (reader.input.skip 1)).map
        fun scanned =>
          { (reader.allowKey true).push (.scalar style scanned.1) with input := scanned.2 }

def readQuoted (reader : Reader) (double : Bool) : Option Reader :=
  match reader.noteKey? with
  | none => none
  | some reader =>
      (scanQuoted double (reader.input.rest.length + 1) (reader.input.skip 1)).map
        fun scanned =>
          { (reader.allowKey false).push (.scalar .quoted scanned.1) with input := scanned.2 }

def readPlain (reader : Reader) : Option Reader :=
  match reader.noteKey? with
  | none => none
  | some reader =>
      (scanPlain reader.bracketed reader.least reader.input).map fun scanned =>
        { (reader.allowKey scanned.newLine).push (.scalar .plain scanned.text) with
          input := scanned.input }

def readToken (reader : Reader) (c : Char) (following : Text) : Option Reader :=
  let alone := endsWord following
  if c = '%' ∧ reader.input.column = 0 then reader.readDirective
  else if reader.input.isMarker '-' then reader.readMarker .documentStart
  else if reader.input.isMarker '.' then reader.readMarker .documentEnd
  else if c = '[' then reader.openBracket .sequenceStart
  else if c = '\x7b' then reader.openBracket .mappingStart
  else if c = ']' then reader.closeBracket .sequenceEnd
  else if c = '\x7d' then reader.closeBracket .mappingEnd
  else if c = ',' then reader.readSeparator
  else if c = '-' ∧ alone = true then reader.readEntry
  else if c = '?' ∧ (reader.bracketed || alone) = true then reader.readKey
  else if c = ':' ∧ (reader.bracketed || alone) = true then reader.readValue
  else if c = '*' then reader.readName .alias
  else if c = '&' then reader.readName .anchor
  else if c = '!' then reader.readTag
  else if c = '|' ∧ reader.bracketed = false then reader.readBlock .literal
  else if c = '>' ∧ reader.bracketed = false then reader.readBlock .folded
  else if c = '\'' then reader.readQuoted false
  else if c = '"' then reader.readQuoted true
  else if startsPlain reader.bracketed (c :: following) then reader.readPlain
  else none

/-- Passes over white space and comments, and closes the block collections that the
next part is not indented for. -/
def nextPart? (reader : Reader) : Option Reader :=
  let gap := gapLength reader.bracketed reader.keyAllowed false (reader.input.column == 0)
    reader.input.rest
  let moved := { reader with input := reader.input.skip gap.1, keyAllowed := gap.2 }
  moved.dropOldKeys?.map fun reader =>
    reader.closeBlocks fun indent => decide (reader.input.column < indent)

def readAll : Nat → Reader → Option (List Token)
  | 0, _ => none
  | fuel + 1, reader =>
      match reader.nextPart? with
      | none => none
      | some reader =>
          match reader.input.rest with
          | [] =>
              (reader.closeBlocks fun _ => true).dropKey?.map fun reader =>
                reader.tokens.reverse
          | c :: following =>
              match reader.readToken c following with
              | none => none
              | some reader => readAll fuel reader

end Reader

def tokens? (text : Text) : Option (List Token) :=
  if text.all isAllowed then
    let unified := unifyBreaks text
    Reader.readAll (unified.length + 1) (Reader.ofText unified)
  else
    none

end Yaml
end Stencil
