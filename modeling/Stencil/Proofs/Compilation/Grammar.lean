/-
The grammar of templates over tokens.

Between two tokens a compilation stands in front of an item of a block or behind the
name of a tag whose contents must come.  One token takes it to the next stage and gives
a piece of code, or ends it with a fault.

Outside of functions the items are texts, `code` tags and functions; inside of a function
they are texts and the tags that give one statement.  The values and positions of the
tokens are arbitrary, except that the contents of `func` must split as a signature.
-/

import Stencil.Compilation

namespace Stencil

inductive Inline where
  | code
  | string
  | decimal
  | float
deriving DecidableEq

def Inline.tag : Inline → Tag
  | code => .code
  | string => .string
  | decimal => .decimal
  | float => .float

def Inline.render : Inline → Text → Text
  | code => Go.code
  | string => Go.string
  | decimal => Go.decimal
  | float => Go.float

/-- Where a compilation stands: in front of an item, or behind the name of a tag. -/
inductive Stage where
  | item (block : Block)
  | inline (block : Block) (tag : Inline) (name : Position)
  | opening (name : Position)
  | closing (signature : Signature) (name : Position)
deriving DecidableEq

def Block.behindName (block : Block) (tag : Option Tag) (name : Position) : Option Stage :=
  match block, tag with
  | _, some .code => some (.inline block .code name)
  | .topLevel, some .func => some (.opening name)
  | .func signature _, some .endfunc => some (.closing signature name)
  | .func _ _, some .string => some (.inline block .string name)
  | .func _ _, some .decimal => some (.inline block .decimal name)
  | .func _ _, some .float => some (.inline block .float name)
  | _, _ => none

def Block.literal (block : Block) (value : Text) : Text :=
  match block with
  | .topLevel => []
  | .func _ _ => Go.text value

def Block.begin (block : Block) (token : Token) : Except CompileError (Text × Stage) :=
  match token.kind with
  | .text => .ok (block.literal token.value, .item block)
  | .tagContents =>
      .error (.unexpectedToken token.kind token.value .textOrTag block.context
        token.position)
  | .tagName =>
      match block.behindName (Tag.ofName? token.value) token.position with
      | some stage => .ok ([], stage)
      | none => .error (.unexpectedTag token.value block.context token.position)

def Token.asContents (token : Token) (context : BlockContext)
    (accepted : Except CompileError (Text × Stage)) : Except CompileError (Text × Stage) :=
  if token.kind = .tagContents then
    accepted
  else
    .error (.unexpectedToken token.kind token.value (.token .tagContents) context
      token.position)

def openBlock (runtime : Text) (token : Token) : Except CompileError (Text × Stage) :=
  match Signature.split token.value with
  | .error cause => .error (.signature cause token.position)
  | .ok signature =>
      .ok (Go.funcStart runtime signature, .item (.func signature token.position))

namespace Stage

/-- One token: the code that it gives and the next stage. -/
def step (runtime : Text) (stage : Stage) (token : Token) :
    Except CompileError (Text × Stage) :=
  match stage with
  | item block => block.begin token
  | inline block tag _ =>
      token.asContents block.context (.ok (tag.render token.value, .item block))
  | opening _ => token.asContents .topLevel (openBlock runtime token)
  | closing signature _ =>
      token.asContents .func (.ok (Go.funcEnd runtime signature, .item .topLevel))

def missing {α : Type} (name : Position) : Option ScanError → Except CompileError α
  | some fault => .error (.scan fault)
  | none => .error (.missingToken .tagContents name)

def finish (stage : Stage) (fault : Option ScanError) : Except CompileError Unit :=
  match stage with
  | item block => block.finish fault
  | inline _ _ name => missing name fault
  | opening name => missing name fault
  | closing _ name => missing name fault

/-- A compilation is complete when nothing failed and no tag or function is open. -/
theorem finish_eq_ok_iff (stage : Stage) (fault : Option ScanError) :
    stage.finish fault = .ok () ↔ fault = none ∧ stage = .item .topLevel := by
  constructor
  · intro ends
    cases fault with
    | some fault =>
        cases stage with
        | item block => cases block <;> cases ends
        | _ => cases ends
    | none =>
        cases stage with
        | item block =>
            cases block with
            | topLevel => exact ⟨rfl, rfl⟩
            | func signature opened => cases ends
        | _ => cases ends
  · intro complete
    obtain ⟨rfl, rfl⟩ := complete
    rfl

/-- The code for some tokens, up to the first fault, and the stage behind them. -/
def run (runtime : Text) (stage : Stage) : List Token → Text × Except CompileError Stage
  | [] => ([], .ok stage)
  | token :: rest =>
      match stage.step runtime token with
      | .error fault => ([], .error fault)
      | .ok (code, next) => (code ++ (next.run runtime rest).1, (next.run runtime rest).2)

theorem run_cons_of_step {runtime code : Text} {stage next : Stage} {token : Token}
    (steps : stage.step runtime token = .ok (code, next)) (rest : List Token) :
    stage.run runtime (token :: rest) =
      (code ++ (next.run runtime rest).1, (next.run runtime rest).2) := by
  rw [run, steps]

theorem run_cons_of_fault {runtime : Text} {stage : Stage} {token : Token}
    {fault : CompileError} (steps : stage.step runtime token = .error fault)
    (rest : List Token) :
    stage.run runtime (token :: rest) = ([], .error fault) := by
  rw [run, steps]

theorem run_append_of_ok {runtime code : Text} {stage next : Stage} {first : List Token}
    (runs : stage.run runtime first = (code, .ok next)) (second : List Token) :
    stage.run runtime (first ++ second) =
      (code ++ (next.run runtime second).1, (next.run runtime second).2) := by
  induction first generalizing stage code with
  | nil =>
      cases runs
      rfl
  | cons token rest ih =>
      cases steps : stage.step runtime token with
      | error fault =>
          rw [run_cons_of_fault steps] at runs
          cases runs
      | ok given =>
          obtain ⟨piece, behind⟩ := given
          rw [run_cons_of_step steps] at runs
          injection runs with codes stages
          have later := ih (Prod.ext rfl stages)
          rw [List.cons_append, run_cons_of_step steps, later, ← codes, List.append_assoc]

theorem run_append_of_fault {runtime code : Text} {stage : Stage} {first : List Token}
    {fault : CompileError} (runs : stage.run runtime first = (code, .error fault))
    (second : List Token) :
    stage.run runtime (first ++ second) = (code, .error fault) := by
  induction first generalizing stage code with
  | nil => cases runs
  | cons token rest ih =>
      cases steps : stage.step runtime token with
      | error earlier =>
          rw [run_cons_of_fault steps] at runs
          rw [List.cons_append, run_cons_of_fault steps, runs]
      | ok given =>
          obtain ⟨piece, behind⟩ := given
          rw [run_cons_of_step steps] at runs
          injection runs with codes faults
          have later := ih (Prod.ext rfl faults)
          rw [List.cons_append, run_cons_of_step steps, later, ← codes]

end Stage

/-! ### Items -/

structure Lexeme where
  value : Text
  position : Position

def Lexeme.token (kind : TokenKind) (lexeme : Lexeme) : Token :=
  ⟨kind, lexeme.value, lexeme.position⟩

def Tag.token (tag : Tag) (position : Position) : Token :=
  ⟨.tagName, tag.name, position⟩

/-- What stands in a function: a text, or a tag that gives a statement. -/
inductive Piece where
  | text (word : Lexeme)
  | inline (tag : Inline) (name : Position) (contents : Lexeme)

structure FuncHead where
  name : Position
  contents : Lexeme
  signature : Signature
  splits : Signature.split contents.value = .ok signature

/-- What stands outside of functions: a text, a `code` tag, or a whole function. -/
inductive Item where
  | text (word : Lexeme)
  | code (name : Position) (contents : Lexeme)
  | func (head : FuncHead) (body : List Piece) (closing : Position) (contents : Lexeme)

namespace Piece

def tokens : Piece → List Token
  | text word => [word.token .text]
  | inline tag name contents => [tag.tag.token name, contents.token .tagContents]

def written : Piece → Text
  | text word => Go.text word.value
  | inline tag _ contents => tag.render contents.value

end Piece

namespace FuncHead

def tokens (head : FuncHead) : List Token :=
  [Tag.func.token head.name, head.contents.token .tagContents]

def block (head : FuncHead) : Block :=
  .func head.signature head.contents.position

end FuncHead

namespace Item

def tokens : Item → List Token
  | text word => [word.token .text]
  | code name contents => [Tag.code.token name, contents.token .tagContents]
  | func head body closing contents =>
      head.tokens ++ body.flatMap Piece.tokens ++
        [Tag.endfunc.token closing, contents.token .tagContents]

/-- The code for an item; the contents of `endfunc` have no part in it. -/
def written (runtime : Text) : Item → Text
  | text _ => []
  | code _ contents => Go.code contents.value
  | func head body _ _ =>
      Go.funcStart runtime head.signature ++ body.flatMap Piece.written ++
        Go.funcEnd runtime head.signature

end Item

def Stage.Passes (runtime : Text) (stage : Stage) (tokens : List Token) (code : Text)
    (next : Stage) : Prop :=
  stage.run runtime tokens = (code, .ok next)

namespace Stage.Passes

variable {runtime code more : Text} {stage middle next : Stage}
  {token : Token} {tokens others : List Token}

theorem one (steps : stage.step runtime token = .ok (code, next)) :
    stage.Passes runtime [token] code next := by
  unfold Stage.Passes
  rw [Stage.run_cons_of_step steps]
  simp [Stage.run]

theorem append (first : stage.Passes runtime tokens code middle)
    (second : middle.Passes runtime others more next) :
    stage.Passes runtime (tokens ++ others) (code ++ more) next := by
  unfold Stage.Passes at second ⊢
  rw [Stage.run_append_of_ok first, second]

theorem pair {name contents : Token} (first : stage.step runtime name = .ok ([], middle))
    (second : middle.step runtime contents = .ok (code, next)) :
    stage.Passes runtime [name, contents] code next :=
  (one first).append (one second)

theorem unique (first : stage.Passes runtime tokens code middle)
    (second : stage.Passes runtime tokens more next) : code = more ∧ middle = next := by
  have same := first.symm.trans second
  injection same with codes stages
  exact ⟨codes, Except.ok.inj stages⟩

theorem split (whole : stage.Passes runtime (tokens ++ others) code next) :
    ∃ middle piece later, stage.Passes runtime tokens piece middle ∧
      middle.Passes runtime others later next := by
  unfold Stage.Passes at whole
  cases ran : stage.run runtime tokens with
  | mk piece result =>
      cases result with
      | error fault =>
          rw [Stage.run_append_of_fault ran] at whole
          cases whole
      | ok middle =>
          rw [Stage.run_append_of_ok ran] at whole
          injection whole with _ same
          exact ⟨middle, piece, _, ran, Prod.ext rfl same⟩

theorem of_append (first : stage.Passes runtime tokens code middle)
    (whole : stage.Passes runtime (tokens ++ others) more next) :
    ∃ later, middle.Passes runtime others later next := by
  obtain ⟨behind, _, later, same, rest⟩ := whole.split
  obtain ⟨_, rfl⟩ := first.unique same
  exact ⟨later, rest⟩

theorem of_cons (whole : stage.Passes runtime (token :: tokens) code next) :
    ∃ piece behind later, stage.step runtime token = .ok (piece, behind) ∧
      behind.Passes runtime tokens later next := by
  unfold Stage.Passes at whole
  cases steps : stage.step runtime token with
  | error fault =>
      rw [Stage.run_cons_of_fault steps] at whole
      cases whole
  | ok given =>
      rw [Stage.run_cons_of_step steps] at whole
      injection whole with _ same
      exact ⟨given.1, given.2, _, rfl, Prod.ext rfl same⟩

theorem flatMap {α : Type} {parts : List α} {spell : α → List Token} {give : α → Text}
    (each : ∀ part, stage.Passes runtime (spell part) (give part) stage) :
    stage.Passes runtime (parts.flatMap spell) (parts.flatMap give) stage := by
  induction parts with
  | nil => rfl
  | cons part parts ih =>
      rw [List.flatMap_cons, List.flatMap_cons]
      exact (each part).append ih

end Stage.Passes

theorem Block.begin_inline (signature : Signature) (opened name : Position) (tag : Inline) :
    (Block.func signature opened).begin (tag.tag.token name) =
      .ok ([], .inline (.func signature opened) tag name) := by
  cases tag <;> rfl

namespace Stage

variable (runtime : Text) (head : FuncHead) (name : Position) (contents : Lexeme)

theorem step_code :
    (item .topLevel).step runtime (Tag.code.token name) =
      .ok ([], inline .topLevel .code name) :=
  rfl

theorem step_func :
    (item .topLevel).step runtime (Tag.func.token name) = .ok ([], opening name) :=
  rfl

theorem step_inline (tag : Inline) :
    (item head.block).step runtime (tag.tag.token name) =
      .ok ([], inline head.block tag name) :=
  Block.begin_inline head.signature head.contents.position name tag

theorem step_endfunc :
    (item head.block).step runtime (Tag.endfunc.token name) =
      .ok ([], closing head.signature name) :=
  rfl

theorem step_inline_contents (block : Block) (tag : Inline) :
    (inline block tag name).step runtime (contents.token .tagContents) =
      .ok (tag.render contents.value, item block) :=
  rfl

theorem step_closing_contents (signature : Signature) :
    (closing signature name).step runtime (contents.token .tagContents) =
      .ok (Go.funcEnd runtime signature, item .topLevel) :=
  rfl

theorem step_signature :
    (opening name).step runtime (head.contents.token .tagContents) =
      .ok (Go.funcStart runtime head.signature, item head.block) := by
  simp only [step, Token.asContents, openBlock, Lexeme.token, if_true, head.splits]
  rfl

end Stage

theorem Piece.passes (runtime : Text) (head : FuncHead) (piece : Piece) :
    (Stage.item head.block).Passes runtime piece.tokens piece.written
      (.item head.block) := by
  cases piece with
  | text word => exact Stage.Passes.one rfl
  | inline tag name contents =>
      exact Stage.Passes.pair (Stage.step_inline runtime head name tag)
        (Stage.step_inline_contents runtime name contents _ tag)

theorem FuncHead.passes (runtime : Text) (head : FuncHead) :
    (Stage.item .topLevel).Passes runtime head.tokens
      (Go.funcStart runtime head.signature) (.item head.block) :=
  Stage.Passes.pair (Stage.step_func runtime head.name)
    (Stage.step_signature runtime head head.name)

theorem FuncHead.passes_body (runtime : Text) (head : FuncHead) (body : List Piece) :
    (Stage.item .topLevel).Passes runtime (head.tokens ++ body.flatMap Piece.tokens)
      (Go.funcStart runtime head.signature ++ body.flatMap Piece.written)
      (.item head.block) :=
  (head.passes runtime).append (Stage.Passes.flatMap (Piece.passes runtime head))

theorem Item.passes (runtime : Text) (item : Item) :
    (Stage.item .topLevel).Passes runtime item.tokens (item.written runtime)
      (.item .topLevel) := by
  cases item with
  | text word => exact Stage.Passes.one rfl
  | code name contents =>
      exact Stage.Passes.pair (Stage.step_code runtime name)
        (Stage.step_inline_contents runtime name contents _ .code)
  | func head body closing contents =>
      exact (head.passes_body runtime body).append
        (Stage.Passes.pair (Stage.step_endfunc runtime head closing)
          (Stage.step_closing_contents runtime closing contents _))

end Stencil
