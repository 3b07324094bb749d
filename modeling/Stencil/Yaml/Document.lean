/-
Reading YAML documents from their tokens.

A scalar keeps its characters and how it was written, because a plain word may
stand for something else than its characters.  An alias stands for the value at an
anchor.

A text holds at most one document.  Within brackets a pair may stand alone as an
item of a sequence; a block sequence that is a value in a mapping need not be
indented deeper than the mapping.
-/

import Stencil.Yaml.Token

namespace Stencil
namespace Yaml

structure Scalar where
  style : Style
  tag : Option Text
  text : Text
deriving DecidableEq

def Scalar.empty : Scalar := ⟨.plain, none, []⟩

/-- A value.  An alias names its anchor by number. -/
inductive Node where
  | scalar (scalar : Scalar)
  | sequence (items : List Node)
  | mapping (entries : List (Node × Node))
  | alias (anchor : Nat)

def Node.empty : Node := .scalar .empty

/-- The anchors that have been met: the number that each name stands for at last, and
for each number, the last one first, the scalar that it was given to, if it was
given to a scalar. -/
structure Anchors where
  names : List (Text × Nat)
  targets : List (Nat × Option Scalar)

namespace Anchors

def empty : Anchors := ⟨[], []⟩

/-- Meets an anchor.  Its number is that of the different names met before. -/
def declare (anchors : Anchors) (name : Text) (target : Option Scalar) : Anchors :=
  let number := anchors.names.length
  { names :=
      if (anchors.names.lookup name).isSome then
        anchors.names.map fun item => if item.1 = name then (name, number) else item
      else
        anchors.names ++ [(name, number)]
    targets := (number, target) :: anchors.targets }

def declare? (anchors : Anchors) (name : Option Text) (target : Option Scalar) : Anchors :=
  match name with
  | none => anchors
  | some name => anchors.declare name target

def number? (anchors : Anchors) (name : Text) : Option Nat :=
  anchors.names.lookup name

def scalar? (anchors : Anchors) (number : Nat) : Option Scalar :=
  (anchors.targets.lookup number).join

end Anchors

structure Document where
  root : Option Node
  anchors : Anchors

def Document.scalar? (document : Document) : Node → Option Scalar
  | .scalar scalar => some scalar
  | .alias number => document.anchors.scalar? number
  | _ => none

/-! ### Documents -/

abbrev Shorthands := List (Text × Text)

def standardShorthands : Shorthands :=
  [(['!'], ['!']), (['!', '!'], "tag:yaml.org,2002:".toList)]

def fullTag? (shorthands : Shorthands) (handle uri : Text) : Option Text :=
  if handle.isEmpty then some uri else (shorthands.lookup handle).map (· ++ uri)

structure Properties where
  anchor : Option Text
  tag : Option Text

def Properties.any (properties : Properties) : Bool :=
  properties.anchor.isSome || properties.tag.isSome

/-- Reads an anchor and a tag in either order; each may be missing. -/
def readProperties (shorthands : Shorthands) : List Token → Option (Properties × List Token)
  | .anchor name :: .tag handle uri :: rest =>
      (fullTag? shorthands handle uri).map fun tag => (⟨some name, some tag⟩, rest)
  | .anchor name :: rest => some (⟨some name, none⟩, rest)
  | .tag handle uri :: .anchor name :: rest =>
      (fullTag? shorthands handle uri).map fun tag => (⟨some name, some tag⟩, rest)
  | .tag handle uri :: rest =>
      (fullTag? shorthands handle uri).map fun tag => (⟨none, some tag⟩, rest)
  | tokens => some (⟨none, none⟩, tokens)

/-- Where a value stands: in a block or between brackets, and whether a sequence may
start without indentation. -/
structure Setting where
  block : Bool
  unindented : Bool

structure Parsed (α : Type) where
  value : α
  rest : List Token
  anchors : Anchors

def Parsed.withValue {α β : Type} (parsed : Parsed α) (value : β) : Parsed β :=
  ⟨value, parsed.rest, parsed.anchors⟩

/-- Whether a part of a block mapping ends in front of some tokens with nothing in it. -/
def endsPart : List Token → Bool
  | .key :: _ => true
  | .value :: _ => true
  | .blockEnd :: _ => true
  | _ => false

mutual

def parseNode (shorthands : Shorthands) :
    Nat → Setting → List Token → Anchors → Option (Parsed Node)
  | 0, _, _, _ => none
  | _ + 1, _, .alias name :: rest, anchors =>
      (anchors.number? name).map fun number => ⟨.alias number, rest, anchors⟩
  | fuel + 1, setting, tokens, anchors =>
      match readProperties shorthands tokens with
      | none => none
      | some (properties, rest) =>
          let collected := anchors.declare? properties.anchor none
          let sequence (items : Option (Parsed (List Node))) : Option (Parsed Node) :=
            items.map fun items => items.withValue (.sequence items.value)
          let mapping (pairs : Option (Parsed (List (Node × Node)))) : Option (Parsed Node) :=
            pairs.map fun pairs => pairs.withValue (.mapping pairs.value)
          let scalar (scalar : Scalar) (rest : List Token) : Option (Parsed Node) :=
            some ⟨.scalar scalar, rest, anchors.declare? properties.anchor (some scalar)⟩
          match rest with
          | .scalar style text :: rest =>
              scalar ⟨style, properties.tag.filter (· != ['!']), text⟩ rest
          | .sequenceStart :: rest => sequence (parseItems shorthands fuel true rest collected)
          | .mappingStart :: rest => mapping (parsePairs shorthands fuel true rest collected)
          | .entry :: _ =>
              if setting.unindented then
                sequence (parseUnindented shorthands fuel rest collected)
              else if properties.any then
                scalar ⟨.plain, properties.tag, []⟩ rest
              else
                none
          | .blockSequence :: inner =>
              if setting.block then
                sequence (parseBlockItems shorthands fuel inner collected)
              else if properties.any then
                scalar ⟨.plain, properties.tag, []⟩ rest
              else
                none
          | .blockMapping :: inner =>
              if setting.block then
                mapping (parseBlockPairs shorthands fuel inner collected)
              else if properties.any then
                scalar ⟨.plain, properties.tag, []⟩ rest
              else
                none
          | _ =>
              if properties.any then scalar ⟨.plain, properties.tag, []⟩ rest else none

def parseBlockItems (shorthands : Shorthands) :
    Nat → List Token → Anchors → Option (Parsed (List Node))
  | 0, _, _ => none
  | _ + 1, .blockEnd :: rest, anchors => some ⟨[], rest, anchors⟩
  | fuel + 1, .entry :: rest, anchors =>
      let item : Option (Parsed Node) :=
        match rest with
        | .entry :: _ => some ⟨.empty, rest, anchors⟩
        | .blockEnd :: _ => some ⟨.empty, rest, anchors⟩
        | _ => parseNode shorthands fuel ⟨true, false⟩ rest anchors
      match item with
      | none => none
      | some item =>
          (parseBlockItems shorthands fuel item.rest item.anchors).map fun items =>
            items.withValue (item.value :: items.value)
  | _ + 1, _, _ => none

def parseUnindented (shorthands : Shorthands) :
    Nat → List Token → Anchors → Option (Parsed (List Node))
  | 0, _, _ => none
  | fuel + 1, .entry :: rest, anchors =>
      let item : Option (Parsed Node) :=
        match rest with
        | .entry :: _ => some ⟨.empty, rest, anchors⟩
        | _ =>
            if endsPart rest then some ⟨.empty, rest, anchors⟩
            else parseNode shorthands fuel ⟨true, false⟩ rest anchors
      match item with
      | none => none
      | some item =>
          (parseUnindented shorthands fuel item.rest item.anchors).map fun items =>
            items.withValue (item.value :: items.value)
  | _ + 1, tokens, anchors => some ⟨[], tokens, anchors⟩

def parseBlockPairs (shorthands : Shorthands) :
    Nat → List Token → Anchors → Option (Parsed (List (Node × Node)))
  | 0, _, _ => none
  | _ + 1, .blockEnd :: rest, anchors => some ⟨[], rest, anchors⟩
  | fuel + 1, .key :: rest, anchors =>
      let part (rest : List Token) (anchors : Anchors) : Option (Parsed Node) :=
        if endsPart rest then some ⟨.empty, rest, anchors⟩
        else parseNode shorthands fuel ⟨true, true⟩ rest anchors
      match part rest anchors with
      | none => none
      | some key =>
          let value : Option (Parsed Node) :=
            match key.rest with
            | .value :: rest => part rest key.anchors
            | rest => some ⟨.empty, rest, key.anchors⟩
          match value with
          | none => none
          | some value =>
              (parseBlockPairs shorthands fuel value.rest value.anchors).map fun pairs =>
                pairs.withValue ((key.value, value.value) :: pairs.value)
  | _ + 1, _, _ => none

/-- The items of a sequence between brackets; the first needs no comma in front. -/
def parseItems (shorthands : Shorthands) :
    Nat → (first : Bool) → List Token → Anchors → Option (Parsed (List Node))
  | 0, _, _, _ => none
  | _ + 1, _, .sequenceEnd :: rest, anchors => some ⟨[], rest, anchors⟩
  | _ + 1, false, .separator :: .sequenceEnd :: rest, anchors => some ⟨[], rest, anchors⟩
  | fuel + 1, first, tokens, anchors =>
      let start : Option (List Token) :=
        match first, tokens with
        | true, tokens => some tokens
        | false, .separator :: rest => some rest
        | false, _ => none
      let item : Option (Parsed Node) :=
        match start with
        | none => none
        | some (.key :: rest) => parsePair shorthands fuel rest anchors
        | some rest => parseNode shorthands fuel ⟨false, false⟩ rest anchors
      match item with
      | none => none
      | some item =>
          (parseItems shorthands fuel false item.rest item.anchors).map fun items =>
            items.withValue (item.value :: items.value)

/-- A pair that stands alone in a sequence.  Where its key is missing, the token in
its place is passed over. -/
def parsePair (shorthands : Shorthands) :
    Nat → List Token → Anchors → Option (Parsed Node)
  | 0, _, _ => none
  | fuel + 1, tokens, anchors =>
      let key : Option (Parsed Node) :=
        match tokens with
        | .value :: rest => some ⟨.empty, rest, anchors⟩
        | .separator :: rest => some ⟨.empty, rest, anchors⟩
        | .sequenceEnd :: rest => some ⟨.empty, rest, anchors⟩
        | tokens => parseNode shorthands fuel ⟨false, false⟩ tokens anchors
      match key with
      | none => none
      | some key =>
          let value : Option (Parsed Node) :=
            match key.rest with
            | .value :: .separator :: rest => some ⟨.empty, .separator :: rest, key.anchors⟩
            | .value :: .sequenceEnd :: rest => some ⟨.empty, .sequenceEnd :: rest, key.anchors⟩
            | .value :: rest => parseNode shorthands fuel ⟨false, false⟩ rest key.anchors
            | rest => some ⟨.empty, rest, key.anchors⟩
          value.map fun value => value.withValue (.mapping [(key.value, value.value)])

/-- The pairs of a mapping between brackets; the first needs no comma in front, and a
key may stand alone. -/
def parsePairs (shorthands : Shorthands) :
    Nat → (first : Bool) → List Token → Anchors → Option (Parsed (List (Node × Node)))
  | 0, _, _, _ => none
  | _ + 1, _, .mappingEnd :: rest, anchors => some ⟨[], rest, anchors⟩
  | _ + 1, false, .separator :: .mappingEnd :: rest, anchors => some ⟨[], rest, anchors⟩
  | fuel + 1, first, tokens, anchors =>
      let start : Option (List Token) :=
        match first, tokens with
        | true, tokens => some tokens
        | false, .separator :: rest => some rest
        | false, _ => none
      let part (rest : List Token) (anchors : Anchors) : Option (Parsed Node) :=
        match rest with
        | .separator :: _ => some ⟨.empty, rest, anchors⟩
        | .mappingEnd :: _ => some ⟨.empty, rest, anchors⟩
        | _ => parseNode shorthands fuel ⟨false, false⟩ rest anchors
      let pair : Option (Parsed (Node × Node)) :=
        match start with
        | none => none
        | some (.key :: rest) =>
            let key : Option (Parsed Node) :=
              match rest with
              | .value :: _ => some ⟨.empty, rest, anchors⟩
              | _ => part rest anchors
            match key with
            | none => none
            | some key =>
                let value : Option (Parsed Node) :=
                  match key.rest with
                  | .value :: rest => part rest key.anchors
                  | rest => some ⟨.empty, rest, key.anchors⟩
                value.map fun value => value.withValue (key.value, value.value)
        | some rest =>
            (parseNode shorthands fuel ⟨false, false⟩ rest anchors).map fun key =>
              key.withValue (key.value, .empty)
      match pair with
      | none => none
      | some pair =>
          (parsePairs shorthands fuel false pair.rest pair.anchors).map fun pairs =>
            pairs.withValue (pair.value :: pairs.value)

end

def isKnownVersion (major minor : Nat) : Bool :=
  major == 1 && (minor == 1 || minor == 2)

/-- Reads the directives in front of a document, each of which may occur only once, and
the start of the document. -/
def readDirectives (versioned : Bool) (shorthands : Shorthands) :
    List Token → Option (Shorthands × List Token)
  | .version major minor :: rest =>
      if versioned || !isKnownVersion major minor then none
      else readDirectives true shorthands rest
  | .shorthand handle uri :: rest =>
      if (shorthands.lookup handle).isSome then none
      else readDirectives versioned (shorthands ++ [(handle, uri)]) rest
  | .documentStart :: rest => some (shorthands ++ standardShorthands, rest)
  | _ => none

def endsDocument : List Token → Bool
  | [] => true
  | .version _ _ :: _ => true
  | .shorthand _ _ :: _ => true
  | .documentStart :: _ => true
  | .documentEnd :: _ => true
  | _ => false

def Document.ofTokens? (tokens : List Token) : Option Document :=
  let fuel := 2 * tokens.length + 2
  let closed (root : Parsed Node) : Option Document :=
    match root.rest.dropWhile (· == .documentEnd) with
    | [] => some ⟨some root.value, root.anchors⟩
    | _ => none
  match tokens with
  | [] => some ⟨none, .empty⟩
  | token :: _ =>
      if token != .documentEnd && endsDocument tokens then
        match readDirectives false [] tokens with
        | none => none
        | some (shorthands, rest) =>
            if endsDocument rest then
              closed ⟨.empty, rest, .empty⟩
            else
              (parseNode shorthands fuel ⟨true, false⟩ rest .empty).bind closed
      else
        (parseNode standardShorthands fuel ⟨true, false⟩ tokens .empty).bind closed

def read? (text : Text) : Option Document :=
  (tokens? text).bind Document.ofTokens?

end Yaml
end Stencil
