/-
Tokens of a template, and where they come from.

A position is a line and a column, both counted from one; every character but a
newline takes one column, whatever its width.  A token is literal text, the name of a
tag, or what stands in a tag behind its name.

A source is a state.  Advancing it tells whether there was one more entry and gives
the next state, which shows the token delivered last and the fault that ended the
delivery.  An entry may be a gap: the source has moved on, but there is no token.

The lexer is a source that reads the text of a template.  A tag is `{%`, blanks, a
name, blanks, contents up to the first `%}`, and this `%}`.  The first faulty tag ends
the delivery.
-/

import Stencil.Text.Quoted

namespace Stencil

/-- A line and a column, counted from one. -/
structure Position where
  line : Nat
  col : Nat
deriving DecidableEq

namespace Position

def start : Position := ⟨1, 1⟩

def next (position : Position) (c : Char) : Position :=
  if c = '\n' then ⟨position.line + 1, 1⟩ else ⟨position.line, position.col + 1⟩

def after (position : Position) (text : Text) : Position :=
  text.foldl next position

def render (position : Position) : Text :=
  Text.ofNat position.line ++ ':' :: Text.ofNat position.col

theorem after_append (position : Position) (first second : Text) :
    position.after (first ++ second) = (position.after first).after second := by
  simp [after]

end Position

/-- What is wrong with a tag.  An unterminated tag is placed where it opens, an
invalid name where the name should stand. -/
inductive ScanError where
  | unterminatedTag (position : Position)
  | invalidTagName (found : Text) (position : Position)
deriving DecidableEq

namespace ScanError

def position : ScanError → Position
  | .unterminatedTag position => position
  | .invalidTagName _ position => position

def message : ScanError → Text
  | .unterminatedTag position =>
      "tag opened at ".toList ++ position.render ++ " is not closed with %\x7d".toList
  | .invalidTagName found position =>
      "invalid tag name at ".toList ++ position.render ++ ": ".toList ++ Text.quoted found

end ScanError

inductive TokenKind where
  | text
  | tagName
  | tagContents
deriving DecidableEq

def TokenKind.render : TokenKind → Text
  | .text => "Text".toList
  | .tagName => "TagName".toList
  | .tagContents => "TagContents".toList

structure Token where
  kind : TokenKind
  value : Text
  position : Position
deriving DecidableEq

def Token.render (token : Token) : Text :=
  token.kind.render ++ ' ' :: Text.quoted token.value ++ " at ".toList ++
    token.position.render

/-! ### Sources -/

class TokenSource (σ : Type) where
  advance : σ → Bool × σ
  current : σ → Option Token
  lastError : σ → Option ScanError
  /-- A bound on the entries still to come. -/
  remaining : σ → Nat
  remaining_advance : ∀ source, (advance source).1 = true →
    remaining (advance source).2 < remaining source

namespace TokenSource

variable {σ : Type} [TokenSource σ]

/-- Pulls the next token: none at the end and at a gap. -/
def next (source : σ) : Option Token × σ :=
  let step := advance source
  (if step.1 then current step.2 else none, step.2)

theorem remaining_next {source : σ} {token : Token}
    (hToken : (next source).1 = some token) :
    remaining (next source).2 < remaining source := by
  by_cases more : (advance source).1 = true
  · exact remaining_advance source more
  · simp [next, more] at hToken

def drain (source : σ) : List (Option Token) × σ :=
  let step := advance source
  if _ : step.1 = true then
    let rest := drain step.2
    (current step.2 :: rest.1, rest.2)
  else
    ([], step.2)
termination_by remaining source
decreasing_by exact remaining_advance source ‹_›

end TokenSource

/-- A source over prepared entries, some of which may be gaps.  It reports its
fault whenever it shows no token. -/
structure TokenFeed where
  entries : List (Option Token)
  current : Option Token
  fault : Option ScanError

namespace TokenFeed

def ofEntries (entries : List (Option Token)) (fault : Option ScanError) : TokenFeed :=
  ⟨entries, none, fault⟩

def ofTokens (tokens : List Token) (fault : Option ScanError) : TokenFeed :=
  ofEntries (tokens.map some) fault

def advance (feed : TokenFeed) : Bool × TokenFeed :=
  match feed.entries with
  | [] => (false, { feed with current := none })
  | entry :: rest => (true, { feed with entries := rest, current := entry })

def lastError (feed : TokenFeed) : Option ScanError :=
  match feed.current with
  | some _ => none
  | none => feed.fault

instance : TokenSource TokenFeed where
  advance := advance
  current := current
  lastError := lastError
  remaining feed := feed.entries.length
  remaining_advance feed more := by
    cases hEntries : feed.entries with
    | nil => simp [advance, hEntries] at more
    | cons entry rest => simp [advance, hEntries]

end TokenFeed

/-! ### The lexer -/

structure Cursor where
  rest : Text
  position : Position

namespace Cursor

def ofText (text : Text) : Cursor := ⟨text, Position.start⟩

def skip (cursor : Cursor) (count : Nat) : Cursor :=
  ⟨cursor.rest.drop count, cursor.position.after (cursor.rest.take count)⟩

def skipWhile (cursor : Cursor) (inClass : Char → Bool) : Cursor :=
  ⟨cursor.rest.dropWhile inClass, cursor.position.after (cursor.rest.takeWhile inClass)⟩

def opensTag (cursor : Cursor) : Bool :=
  Text.startsWithPair '{' '%' cursor.rest

end Cursor

def isNameChar (c : Char) : Bool :=
  c.isAlphanum || c == '_'

structure ScannedTag where
  name : Token
  contents : Token
  after : Cursor

/-- What a diagnostic quotes where a name is missing: the characters up to the
next blank or the end of the tag. -/
def misnamed (text : Text) : Text :=
  (Text.cutAtPair '%' '}' text).1.takeWhile fun c => !Text.isBlank c

/-- Reads the tag that opens at a place.  A missing name is reported even when
the tag is also unterminated. -/
def Cursor.scanTag (opening : Cursor) : Except ScanError ScannedTag :=
  let named := (opening.skip 2).skipWhile Text.isBlank
  let name := named.rest.takeWhile isNameChar
  if name.isEmpty then
    .error (.invalidTagName (misnamed named.rest) named.position)
  else
    let inner := (named.skipWhile isNameChar).skipWhile Text.isBlank
    let body := (Text.cutAtPair '%' '}' inner.rest).1
    let closing := inner.skip body.length
    if closing.rest.isEmpty then
      .error (.unterminatedTag opening.position)
    else
      .ok {
        name := ⟨.tagName, name, named.position⟩
        contents := ⟨.tagContents, Text.trimEnd Text.isBlank body, inner.position⟩
        after := closing.skip 2 }

/-- Where the lexer stands: between tokens, behind the name of a tag whose
contents come next, or at the end of its delivery. -/
inductive LexerPhase where
  | between
  | named (contents : Token)
  | finished (fault : Option ScanError)

structure Lexer where
  cursor : Cursor
  current : Option Token
  phase : LexerPhase

namespace Lexer

def ofText (text : Text) : Lexer :=
  ⟨Cursor.ofText text, none, .between⟩

def textToken (cursor : Cursor) : Token :=
  ⟨.text, (Text.cutAtPair '{' '%' cursor.rest).1, cursor.position⟩

def advance (lexer : Lexer) : Bool × Lexer :=
  match lexer.phase with
  | .finished fault => (false, ⟨lexer.cursor, none, .finished fault⟩)
  | .named contents => (true, ⟨lexer.cursor, some contents, .between⟩)
  | .between =>
      if lexer.cursor.rest.isEmpty then
        (false, ⟨lexer.cursor, none, .finished none⟩)
      else if lexer.cursor.opensTag then
        match lexer.cursor.scanTag with
        | .error fault => (false, ⟨lexer.cursor, none, .finished (some fault)⟩)
        | .ok tag => (true, ⟨tag.after, some tag.name, .named tag.contents⟩)
      else
        let token := textToken lexer.cursor
        (true, ⟨lexer.cursor.skip token.value.length, some token, .between⟩)

def lastError (lexer : Lexer) : Option ScanError :=
  match lexer.phase with
  | .finished fault => fault
  | _ => none

def remaining (lexer : Lexer) : Nat :=
  match lexer.phase with
  | .between => lexer.cursor.rest.length
  | .named _ => lexer.cursor.rest.length + 1
  | .finished _ => 0

end Lexer

private theorem length_skipWhile_le (cursor : Cursor) (inClass : Char → Bool) :
    (cursor.skipWhile inClass).rest.length ≤ cursor.rest.length :=
  (List.dropWhile_sublist inClass).length_le

theorem Cursor.length_after_scanTag {opening : Cursor} {tag : ScannedTag}
    (opens : opening.opensTag = true) (hTag : opening.scanTag = .ok tag) :
    tag.after.rest.length + 2 ≤ opening.rest.length := by
  have longEnough : 2 ≤ opening.rest.length := by
    match hRest : opening.rest with
    | [] => simp [Cursor.opensTag, hRest, Text.startsWithPair] at opens
    | [_] => simp [Cursor.opensTag, hRest, Text.startsWithPair] at opens
    | _ :: _ :: _ => simp
  simp only [Cursor.scanTag] at hTag
  split at hTag
  · cases hTag
  · split at hTag
    · cases hTag
    · cases hTag
      have afterBlanks := length_skipWhile_le (opening.skip 2) Text.isBlank
      have afterName :=
        length_skipWhile_le ((opening.skip 2).skipWhile Text.isBlank) isNameChar
      have afterAll := length_skipWhile_le
        (((opening.skip 2).skipWhile Text.isBlank).skipWhile isNameChar) Text.isBlank
      have afterOpening : (opening.skip 2).rest.length = opening.rest.length - 2 := by
        simp [Cursor.skip]
      simp only [Cursor.skip, List.length_drop] at *
      omega

theorem Lexer.remaining_advance (lexer : Lexer)
    (more : lexer.advance.1 = true) :
    lexer.advance.2.remaining < lexer.remaining := by
  obtain ⟨cursor, current, phase⟩ := lexer
  cases phase with
  | finished fault => simp [Lexer.advance] at more
  | named contents => simp [Lexer.advance, Lexer.remaining]
  | between =>
      by_cases atEnd : cursor.rest = []
      · simp [Lexer.advance, atEnd] at more
      · by_cases opens : cursor.opensTag = true
        · cases hTag : cursor.scanTag with
          | error fault => simp [Lexer.advance, atEnd, opens, hTag] at more
          | ok tag =>
              have shorter := Cursor.length_after_scanTag opens hTag
              simp only [Lexer.advance, Lexer.remaining, opens, hTag, List.isEmpty_iff, atEnd]
              simp only [if_true, if_false]
              omega
        · have whole := congrArg List.length
            (Text.cutAtPair_append '{' '%' cursor.rest)
          have shorter := Text.length_cutAtPair_snd_lt '{' '%' cursor.rest atEnd
            (by simpa [Cursor.opensTag] using opens)
          rw [List.length_append] at whole
          simp only [Lexer.advance, Lexer.remaining, opens, List.isEmpty_iff, atEnd,
            Cursor.skip, Lexer.textToken]
          simp only [if_false, Bool.false_eq_true, List.length_drop]
          omega

instance : TokenSource Lexer where
  advance := Lexer.advance
  current := Lexer.current
  lastError := Lexer.lastError
  remaining := Lexer.remaining
  remaining_advance := Lexer.remaining_advance

def tokenize (text : Text) : Except ScanError (List Token) :=
  let drained := TokenSource.drain (Lexer.ofText text)
  match drained.2.lastError with
  | some fault => .error fault
  | none => .ok (drained.1.filterMap id)

end Stencil
