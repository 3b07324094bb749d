/-
What a run tells about its work, and which of it is written.

Each event has a level, an origin and a message, and is written as one record without
what a terminal would not show.  A control sequence is left out, and so are control
characters other than tabs, line breaks and form feeds; white space within a sequence
is kept, and what follows it is copied again, but the sequence goes on at the next
character that is left out.

A filter is a list of directives and maybe a pattern.  A directive gives the lightest
level that is written, or none, for the origins that start with a word, or for all
origins.  Of the directives that concern an origin the one with the longest word
decides, and among equals the one that is listed last.  The pattern must occur in
the message.
-/

import Stencil.Compilation
import Stencil.Log.Pattern.Reader

namespace Stencil
namespace Text

inductive Sequence where
  | outside
  | escape
  /-- Behind an escape character and further characters before the last one. -/
  | escapeMore
  | control
  | command
  | device
  /-- At the start of a string for a device, behind its parameters. -/
  | deviceMore
  /-- In a string, which a certain octet ends. -/
  | string
deriving DecidableEq

def stringEnd : UInt8 := 0x9c

def holdsStringEnd (c : Char) : Bool :=
  ((String.singleton c).toUTF8).toList.contains stringEnd

def between (low high number : Nat) : Bool :=
  decide (low ≤ number) && decide (number ≤ high)

namespace Sequence

def behind (sequence : Sequence) (c : Char) : Sequence :=
  let code := c.toNat
  if code = 0x18 ∨ code = 0x1a then .outside
  else if code = 0x1b then .escape
  else
    match sequence with
    | .outside => .outside
    | .escape =>
        if c = '[' then .control
        else if c = ']' then .command
        else if c = 'P' then .device
        else if c = 'X' ∨ c = '^' ∨ c = '_' then .string
        else if between 0x20 0x2f code then .escapeMore
        else if between 0x30 0x7e code then .outside
        else .escape
    | .escapeMore => if between 0x30 0x7e code then .outside else .escapeMore
    | .control => if between 0x40 0x7e code then .outside else .control
    | .command => if code = 0x07 then .outside else .command
    | .device =>
        if between 0x20 0x2f code then .deviceMore
        else if between 0x40 0x7e code then .string
        else .device
    | .deviceMore => if between 0x30 0x7e code then .string else .deviceMore
    | .string => if holdsStringEnd c then .outside else .string

def keepsSpace : Sequence → Bool
  | .outside => true
  | .escape => true
  | .escapeMore => true
  | .control => true
  | _ => false

end Sequence

def isLayout (c : Char) : Bool :=
  c == '\t' || c == '\n' || c == '\x0c' || c == '\r'

def isPrintable (c : Char) : Bool :=
  isLayout c || between 0x20 0x7e c.toNat || decide (0x80 ≤ c.toNat)

/-- Copies a text without control sequences.  `copying` tells that the last character
was kept, and then the sequence counts only for what is left out. -/
def withoutSequences : (copying : Bool) → Sequence → Text → Text
  | _, _, [] => []
  | copying, sequence, c :: rest =>
      if (copying || sequence == .outside) && isPrintable c then
        c :: withoutSequences true (if c.toNat < 0x80 then sequence else .outside) rest
      else if !copying && sequence.keepsSpace && isLayout c then
        c :: withoutSequences true sequence rest
      else
        withoutSequences false (sequence.behind c) rest

def printable (text : Text) : Text :=
  withoutSequences false .outside text

end Text

/-! ### Events -/

inductive Level where
  | error
  | warn
  | info
  | debug
  | trace
deriving DecidableEq

namespace Level

/-- The rank of a level: the lighter, the higher. -/
def rank : Level → Nat
  | error => 1
  | warn => 2
  | info => 3
  | debug => 4
  | trace => 5

def name : Level → Text
  | error => "ERROR".toList
  | warn => "WARN".toList
  | info => "INFO".toList
  | debug => "DEBUG".toList
  | trace => "TRACE".toList

def all : List Level := [error, warn, info, debug, trace]

end Level

inductive Event where
  | found (path : Text)
  | opened (opening : Opening)
  | generated (path : Text)
  | noTemplates (extension directory : Text)
  | failed (chain : Text)
deriving DecidableEq

namespace Event

def level : Event → Level
  | found _ => .debug
  | opened _ => .debug
  | generated _ => .info
  | noTemplates _ _ => .info
  | failed _ => .error

def origin : Event → Text
  | found _ => "qtc::generate".toList
  | opened _ => "qtc::template::parser".toList
  | generated _ => "qtc::generate".toList
  | noTemplates _ _ => "qtc::generate".toList
  | failed _ => "qtc".toList

def message : Event → Text
  | found path => "found template ".toList ++ path
  | opened opening =>
      "func ".toList ++ opening.name ++ " at ".toList ++ opening.position.render
  | generated path => "generated ".toList ++ path
  | noTemplates extension directory =>
      "no *.".toList ++ extension ++ " templates under ".toList ++ directory
  | failed chain => chain

def indented (message : Text) : Text :=
  message.flatMap fun c => if c = '\n' then "\n    ".toList else [c]

/-- The record of an event: a lead, the level, filled up to five characters, the origin
and the message, without what a terminal would not show. -/
def record (lead : Text) (event : Event) : Text :=
  let level := event.level.name
  Text.printable (lead ++ level ++ List.replicate (5 - level.length) ' ' ++ ' ' :: event.origin ++
    "] ".toList ++ indented event.message ++ ['\n'])

end Event

/-! ### Filters -/

/-- A directive: the word that origins start with, if there is one, and the highest
rank that is written. -/
structure Directive where
  start : Option Text
  rank : Nat
deriving DecidableEq

def Directive.word (directive : Directive) : Text := directive.start.getD []

structure LogFilter where
  directives : List Directive
  pattern : Option Pattern

inductive FilterFault where
  | unknown (part : Text)
  | manySlashes (description : Text)
  | pattern (text : Text) (fault : PatternFault)

def FilterFault.message : FilterFault → Text
  | .unknown part => "invalid logging spec '".toList ++ part ++ ['\'']
  | .manySlashes description =>
      "invalid logging spec '".toList ++ description ++ "' (too many '/'s)".toList
  | .pattern text fault => "invalid regex filter - ".toList ++ fault.render text

def FilterFault.warning (fault : FilterFault) : Text :=
  "warning: ".toList ++ fault.message ++ ", ignoring it\n".toList

namespace LogFilter

private def lower (text : Text) : Text := text.map Char.toLower

def rank? (word : Text) : Option Nat :=
  if lower word = "off".toList then
    some 0
  else
    (Level.all.find? fun level => decide (lower level.name = lower word)).map Level.rank

def directive? (text : Text) : Except FilterFault Directive :=
  match text.splitOn '=' with
  | [word] =>
      match rank? word with
      | some rank => .ok ⟨none, rank⟩
      | none => .ok ⟨some word, Level.trace.rank⟩
  | [word, level] =>
      let level := Text.strip Text.isBlank level
      if level.isEmpty then
        .ok ⟨some word, Level.trace.rank⟩
      else
        match rank? level with
        | some rank => .ok ⟨some word, rank⟩
        | none => .error (.unknown level)
  | _ => .error (.unknown text)

/-- Lists a directive, in the place of an earlier one for the same word. -/
def insert (directives : List Directive) (directive : Directive) : List Directive :=
  if directives.any fun other => decide (other.start = directive.start) then
    directives.map fun other => if other.start = directive.start then directive else other
  else
    directives ++ [directive]

structure Described where
  filter : LogFilter
  faults : List FilterFault

def errorsOnly : List Directive := [⟨none, Level.error.rank⟩]

def ofParts (parts : List Text) : Described :=
  let read := ((parts.map (Text.strip Text.isBlank)).filter (· != [])).map directive?
  let directives := (read.filterMap Except.toOption).foldl insert []
  ⟨⟨if directives.isEmpty then errorsOnly else directives, none⟩,
    read.filterMap fun
      | .error fault => some fault
      | .ok _ => none⟩

/-- The filter that a text describes: directives between commas, and maybe a slash and
a pattern.  Faulty parts are passed over.  Only errors are written where no
directive is left. -/
def ofText (text : Text) : Described :=
  match text.splitOn '/' with
  | [directives] => ofParts (directives.splitOn ',')
  | [directives, pattern] =>
      let described := ofParts (directives.splitOn ',')
      match Pattern.ofText pattern with
      | .ok read => { described with filter := ⟨described.filter.directives, some read⟩ }
      | .error fault => { described with faults := described.faults ++ [.pattern pattern fault] }
  | _ => ⟨⟨errorsOnly, none⟩, [.manySlashes text]⟩

def default : LogFilter := ⟨[⟨none, Level.info.rank⟩], none⟩

def ofText? (text : Option Text) : Described :=
  match text with
  | none => ⟨default, []⟩
  | some text => ofText text

def decisive? (filter : LogFilter) (origin : Text) : Option Directive :=
  (filter.directives.filter fun directive => directive.word.isPrefixOf origin).foldl
    (fun best directive =>
      match best with
      | none => some directive
      | some other =>
          if other.word.length ≤ directive.word.length then some directive else some other)
    none

def admits (filter : LogFilter) (event : Event) : Bool :=
  (match filter.decisive? event.origin with
    | none => false
    | some directive => decide (event.level.rank ≤ directive.rank)) &&
  (match filter.pattern with
    | none => true
    | some pattern => pattern.occursIn event.message)

def records (filter : LogFilter) (lead : Text) (events : List Event) : Text :=
  (events.filter filter.admits).flatMap (Event.record lead)

/-- What is written when a filter is described and some events happen: first what is
wrong with the description, then the records. -/
def log (description : Option Text) (lead : Text) (events : List Event) : Text :=
  let described := ofText? description
  described.faults.flatMap FilterFault.warning ++ described.filter.records lead events

end LogFilter
end Stencil
