/-
The compilation of tokens to Go code.

Outside of all functions text is dropped, a `code` tag is passed through and a
`func` tag opens a function.  Inside a function text and the tags `s`, `d`, `f`
and `code` are written out until `endfunc` closes it.  Each tag name must be
followed by its contents.  Code is written as soon as it is known, and the
compilation stops at the first fault; what the source and the sink hold by then
is part of its outcome.

A sink may have room for a bounded number of characters only.  A write that does
not fit fails at the first character beyond the room and keeps what fitted.
-/

import Stencil.Go
import Stencil.Token

namespace Stencil

inductive Tag where
  | func
  | endfunc
  | code
  | string
  | decimal
  | float
deriving DecidableEq

namespace Tag

def name : Tag → Text
  | func => "func".toList
  | endfunc => "endfunc".toList
  | code => "code".toList
  | string => "s".toList
  | decimal => "d".toList
  | float => "f".toList

def all : List Tag := [func, endfunc, code, string, decimal, float]

def ofName? (text : Text) : Option Tag :=
  all.find? fun tag => decide (tag.name = text)

theorem ofName?_eq_some_iff {text : Text} {tag : Tag} :
    ofName? text = some tag ↔ text = tag.name := by
  constructor
  · intro hFound
    have named := List.find?_some hFound
    exact (of_decide_eq_true named).symm
  · rintro rfl
    cases tag <;> decide

end Tag

/-! ### Sinks -/

/-- A sink holds the characters still to be taken, if they are bounded, and the
pieces taken so far, the last one first. -/
structure Sink where
  room : Option Nat
  pieces : List Text

namespace Sink

def empty (room : Option Nat) : Sink := ⟨room, []⟩

def contents (sink : Sink) : Text := sink.pieces.reverse.flatten

def write (sink : Sink) (text : Text) : Bool × Sink :=
  match sink.room with
  | none => (true, ⟨none, text :: sink.pieces⟩)
  | some room =>
      if text.length ≤ room then
        (true, ⟨some (room - text.length), text :: sink.pieces⟩)
      else
        (false, ⟨some 0, text.take room :: sink.pieces⟩)

def cleared (sink : Sink) : Sink := ⟨sink.room, []⟩

def writeEach (sink : Sink) : List Text → List (Bool × Text)
  | [] => []
  | text :: rest =>
      let written := sink.cleared.write text
      (written.1, written.2.contents) :: writeEach written.2 rest

theorem contents_write (sink : Sink) (text : Text) :
    (sink.write text).2.contents =
      sink.contents ++ (match sink.room with
        | none => text
        | some room => text.take room) := by
  obtain ⟨room, pieces⟩ := sink
  cases room with
  | none => simp [write, contents]
  | some room =>
      by_cases fits : text.length ≤ room
      · simp [write, contents, fits, List.take_of_length_le fits]
      · simp [write, contents, fits]

theorem write_fst_eq_true_iff (sink : Sink) (text : Text) :
    (sink.write text).1 = true ↔ ∀ room, sink.room = some room → text.length ≤ room := by
  obtain ⟨room, pieces⟩ := sink
  cases room with
  | none => simp [write]
  | some room =>
      by_cases fits : text.length ≤ room
      · simp [write, fits]
      · simp [write, fits]

end Sink

/-! ### Faults -/

inductive BlockContext where
  | topLevel
  | func
deriving DecidableEq

def BlockContext.render : BlockContext → Text
  | .topLevel => "outside func".toList
  | .func => "inside func".toList

inductive Expected where
  | token (kind : TokenKind)
  | textOrTag
deriving DecidableEq

def Expected.render : Expected → Text
  | .token kind => kind.render
  | .textOrTag => "Text or TagName".toList

inductive CompileError where
  | unexpectedTag (tag : Text) (context : BlockContext) (position : Position)
  | unexpectedToken (found : TokenKind) (value : Text) (expected : Expected)
      (context : BlockContext) (position : Position)
  | missingToken (expected : TokenKind) (after : Position)
  | unclosedFunc (name : Text) (position : Position)
  | signature (cause : SignatureError) (position : Position)
  | scan (fault : ScanError)
  | emit
deriving DecidableEq

namespace CompileError

def message : CompileError → Text
  | unexpectedTag tag context position =>
      "unexpected tag ".toList ++ Text.quoted tag ++ " found ".toList ++ context.render ++
        " at ".toList ++ position.render
  | unexpectedToken found value expected context position =>
      "unexpected token ".toList ++ found.render ++ ' ' :: Text.quoted value ++
        ' ' :: context.render ++ " at ".toList ++ position.render ++
        ", expecting ".toList ++ expected.render
  | missingToken expected after =>
      "cannot find token ".toList ++ expected.render ++ " after ".toList ++
        after.render ++ ": input ended".toList
  | unclosedFunc name position =>
      "func ".toList ++ Text.quoted name ++ " opened at ".toList ++ position.render ++
        " is never closed with endfunc".toList
  | signature _ position => "malformed func signature at ".toList ++ position.render
  | scan fault => fault.message
  | emit => "cannot write generated code".toList

def cause? : CompileError → Option Text
  | signature cause _ => some cause.message
  | emit => some "an error occurred when formatting an argument".toList
  | _ => none

def chain (error : CompileError) : Text :=
  match error.cause? with
  | none => error.message
  | some cause => error.message ++ ": ".toList ++ cause

def position? : CompileError → Option Position
  | unexpectedTag _ _ position => some position
  | unexpectedToken _ _ _ _ position => some position
  | missingToken _ after => some after
  | unclosedFunc _ position => some position
  | signature _ position => some position
  | scan fault => some fault.position
  | emit => none

end CompileError

/-! ### Compiling -/

/-- A function that was opened, with the position of its signature. -/
structure Opening where
  name : Text
  position : Position
deriving DecidableEq

inductive Block where
  | topLevel
  | func (signature : Signature) (position : Position)
deriving DecidableEq

def Block.context : Block → BlockContext
  | .topLevel => .topLevel
  | .func _ _ => .func

/-- How far a compilation has come: what its source has left, what its sink has
taken, and the functions opened so far. -/
structure Progress (σ : Type) where
  source : σ
  sink : Sink
  openings : List Opening

/-- What a part of a compilation gives, or the fault that stopped it, and how far
the compilation has come. -/
structure Outcome (σ α : Type) where
  result : Except CompileError α
  progress : Progress σ

namespace Outcome

variable {σ α β : Type}

def andThen (outcome : Outcome σ α) (next : α → Progress σ → Outcome σ β) : Outcome σ β :=
  match outcome.result with
  | .error fault => ⟨.error fault, outcome.progress⟩
  | .ok value => next value outcome.progress

theorem andThen_result_eq_ok {outcome : Outcome σ α} {next : α → Progress σ → Outcome σ β}
    {value : β} (hResult : (outcome.andThen next).result = .ok value) :
    ∃ first, outcome.result = .ok first ∧
      outcome.andThen next = next first outcome.progress := by
  cases hFirst : outcome.result with
  | error fault => simp [andThen, hFirst] at hResult
  | ok first => exact ⟨first, rfl, by simp [andThen, hFirst]⟩

end Outcome

namespace Progress

variable {σ : Type}

def emit (progress : Progress σ) (code : Text) (block : Block) : Outcome σ Block :=
  let written := progress.sink.write code
  ⟨if written.1 then .ok block else .error .emit, { progress with sink := written.2 }⟩

@[simp]
theorem source_emit (progress : Progress σ) (code : Text) (block : Block) :
    (progress.emit code block).progress.source = progress.source :=
  rfl

def recordOpening (progress : Progress σ) (opening : Opening) : Progress σ :=
  { progress with openings := progress.openings ++ [opening] }

variable [TokenSource σ]

def pull (progress : Progress σ) : Option Token × Progress σ :=
  let pulled := TokenSource.next progress.source
  (pulled.1, { progress with source := pulled.2 })

def contents (progress : Progress σ) (name : Token) (context : BlockContext) :
    Outcome σ Token :=
  let pulled := progress.pull
  ⟨match pulled.1 with
    | some token =>
        if token.kind = .tagContents then
          .ok token
        else
          .error (.unexpectedToken token.kind token.value (.token .tagContents) context
            token.position)
    | none =>
        match TokenSource.lastError pulled.2.source with
        | some fault => .error (.scan fault)
        | none => .error (.missingToken .tagContents name.position),
    pulled.2⟩

end Progress

section

variable {σ : Type} [TokenSource σ]

def statement (render : Text → Text) (block : Block) (name : Token)
    (progress : Progress σ) : Outcome σ Block :=
  (progress.contents name block.context).andThen fun contents progress =>
    progress.emit (render contents.value) block

def openFunc (runtime : Text) (name : Token) (progress : Progress σ) : Outcome σ Block :=
  (progress.contents name .topLevel).andThen fun head progress =>
    match Signature.split head.value with
    | .error fault => ⟨.error (.signature fault head.position), progress⟩
    | .ok signature =>
        (progress.recordOpening ⟨signature.name, head.position⟩).emit
          (Go.funcStart runtime signature) (.func signature head.position)

def closeFunc (runtime : Text) (signature : Signature) (name : Token)
    (progress : Progress σ) : Outcome σ Block :=
  (progress.contents name .func).andThen fun _ progress =>
    progress.emit (Go.funcEnd runtime signature) .topLevel

/-- Compiles the item that a token starts, and gives the block behind it. -/
def item (runtime : Text) (block : Block) (token : Token) (progress : Progress σ) :
    Outcome σ Block :=
  match token.kind with
  | .text =>
      match block with
      | .topLevel => ⟨.ok .topLevel, progress⟩
      | .func _ _ => progress.emit (Go.text token.value) block
  | .tagContents =>
      ⟨.error (.unexpectedToken token.kind token.value .textOrTag block.context
        token.position), progress⟩
  | .tagName =>
      match block, Tag.ofName? token.value with
      | _, some .code => statement Go.code block token progress
      | .topLevel, some .func => openFunc runtime token progress
      | .func signature _, some .endfunc => closeFunc runtime signature token progress
      | .func _ _, some .string => statement Go.string block token progress
      | .func _ _, some .decimal => statement Go.decimal block token progress
      | .func _ _, some .float => statement Go.float block token progress
      | _, _ => ⟨.error (.unexpectedTag token.value block.context token.position), progress⟩

private theorem remaining_contents_lt {progress : Progress σ} {name token : Token}
    {context : BlockContext}
    (hContents : (progress.contents name context).result = .ok token) :
    TokenSource.remaining (progress.contents name context).progress.source <
      TokenSource.remaining progress.source := by
  cases hToken : (TokenSource.next progress.source).1 with
  | some pulled => exact TokenSource.remaining_next hToken
  | none =>
      simp only [Progress.contents, Progress.pull, hToken] at hContents
      split at hContents <;> cases hContents

private theorem remaining_statement_lt {render : Text → Text} {block next : Block}
    {name : Token} {progress : Progress σ}
    (hNext : (statement render block name progress).result = .ok next) :
    TokenSource.remaining (statement render block name progress).progress.source <
      TokenSource.remaining progress.source := by
  obtain ⟨token, hContents, hRest⟩ := Outcome.andThen_result_eq_ok hNext
  simp only [statement] at hRest ⊢
  rw [hRest, Progress.source_emit]
  exact remaining_contents_lt hContents

private theorem remaining_openFunc_lt {runtime : Text} {next : Block} {name : Token}
    {progress : Progress σ} (hNext : (openFunc runtime name progress).result = .ok next) :
    TokenSource.remaining (openFunc runtime name progress).progress.source <
      TokenSource.remaining progress.source := by
  obtain ⟨token, hContents, hRest⟩ := Outcome.andThen_result_eq_ok hNext
  simp only [openFunc] at hRest ⊢
  rw [hRest]
  have shrinks := remaining_contents_lt hContents
  split
  · exact shrinks
  · exact shrinks

private theorem remaining_closeFunc_lt {runtime : Text} {signature : Signature}
    {next : Block} {name : Token} {progress : Progress σ}
    (hNext : (closeFunc runtime signature name progress).result = .ok next) :
    TokenSource.remaining (closeFunc runtime signature name progress).progress.source <
      TokenSource.remaining progress.source := by
  obtain ⟨token, hContents, hRest⟩ := Outcome.andThen_result_eq_ok hNext
  simp only [closeFunc] at hRest ⊢
  rw [hRest, Progress.source_emit]
  exact remaining_contents_lt hContents

theorem remaining_item_le {runtime : Text} {block next : Block} {token : Token}
    {progress : Progress σ} (hNext : (item runtime block token progress).result = .ok next) :
    TokenSource.remaining (item runtime block token progress).progress.source ≤
      TokenSource.remaining progress.source := by
  simp only [item] at hNext ⊢
  split at hNext
  · split at hNext
    · simp
    · simp
  · cases hNext
  · split at hNext
    · exact Nat.le_of_lt (remaining_statement_lt hNext)
    · exact Nat.le_of_lt (remaining_openFunc_lt hNext)
    · exact Nat.le_of_lt (remaining_closeFunc_lt hNext)
    · exact Nat.le_of_lt (remaining_statement_lt hNext)
    · exact Nat.le_of_lt (remaining_statement_lt hNext)
    · exact Nat.le_of_lt (remaining_statement_lt hNext)
    · cases hNext

/-- What it means for a block that no further token came: a fault of the source
comes first, and a function must have been closed. -/
def Block.finish (block : Block) (fault : Option ScanError) : Except CompileError Unit :=
  match fault, block with
  | some fault, _ => .error (.scan fault)
  | none, .topLevel => .ok ()
  | none, .func signature position => .error (.unclosedFunc signature.name position)

/-- Compiles item after item, from a block on, until the source gives no further
token or a fault stops the compilation. -/
def compileBlock (runtime : Text) (block : Block) (progress : Progress σ) :
    Outcome σ Unit :=
  match _ : progress.pull with
  | (none, progress') =>
      ⟨block.finish (TokenSource.lastError progress'.source), progress'⟩
  | (some token, progress') =>
      match _ : (item runtime block token progress').result with
      | .error fault => ⟨.error fault, (item runtime block token progress').progress⟩
      | .ok next => compileBlock runtime next (item runtime block token progress').progress
termination_by TokenSource.remaining progress.source
decreasing_by
  rename_i hPull hItem
  have fewer := remaining_item_le hItem
  simp only [Progress.pull, Prod.mk.injEq] at hPull
  have pulled := TokenSource.remaining_next hPull.1
  rw [← hPull.2] at fewer ⊢
  exact Nat.lt_of_le_of_lt fewer pulled

def compileTokens (runtime : Text) (source : σ) (sink : Sink) : Outcome σ Unit :=
  compileBlock runtime .topLevel ⟨source, sink, []⟩

structure RunRecord where
  result : Except CompileError Unit
  added : Text

/-- Compiles several times, one run after another, on what each run has left of the
source and of the room in the sink, also after a fault. -/
def compileRuns (runtime : Text) : Nat → σ → Sink → List RunRecord × σ
  | 0, source, _ => ([], source)
  | runs + 1, source, sink =>
      let outcome := compileTokens runtime source sink.cleared
      let left := outcome.progress
      let later := compileRuns runtime runs left.source left.sink
      (⟨outcome.result, left.sink.contents⟩ :: later.1, later.2)

end

structure Compilation where
  result : Except CompileError Text
  openings : List Opening

/-- Compiles the text of a template.  Nothing of the code is kept after a fault. -/
def compilation (runtime : Text) (template : Text) : Compilation :=
  let outcome := compileTokens runtime (Lexer.ofText template) (Sink.empty none)
  ⟨match outcome.result with
    | .error fault => .error fault
    | .ok () => .ok outcome.progress.sink.contents,
    outcome.progress.openings⟩

def compile (runtime : Text) (template : Text) : Except CompileError Text :=
  (compilation runtime template).result

end Stencil
