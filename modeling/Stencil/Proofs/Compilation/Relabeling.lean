/-
Runs to the end of a source, and the positions in them.

A run to the end goes over all tokens and then looks at the stage that it has come to and at
the fault of the source.  Compiling a template is the run to the end of what the lexer
delivers.

A compilation passes positions on into its faults and never looks at them.  So when the
positions of the tokens are changed, those in the fault are changed in the same way, and
the code stays the same.
-/

import Stencil.Proofs.Compilation.Resume
import Stencil.Proofs.Token.Reading

namespace Stencil

namespace Stage

/-- The code for all tokens of a source that reports a fault behind them, if nothing stops
the run and no tag or function is left open. -/
def runToEnd (runtime : Text) (stage : Stage) (tokens : List Token)
    (fault : Option ScanError) : Except CompileError Text :=
  ((stage.run runtime tokens).2.bind fun last => last.finish fault).map
    fun _ => (stage.run runtime tokens).1

variable {runtime code : Text} {stage next : Stage} {tokens : List Token}

theorem finish_of_runToEnd {fault : Option ScanError} {error : CompileError}
    (passes : stage.Passes runtime tokens code next)
    (fails : stage.runToEnd runtime tokens fault = .error error) :
    next.finish fault = .error error := by
  unfold runToEnd at fails
  rw [passes] at fails
  dsimp only [Except.bind] at fails
  cases ends : next.finish fault with
  | error other =>
      rw [ends] at fails
      cases fails
      rfl
  | ok done =>
      rw [ends] at fails
      cases fails

theorem runToEnd_append_of_passes (passes : stage.Passes runtime tokens code next)
    (later : List Token) (fault : Option ScanError) :
    stage.runToEnd runtime (tokens ++ later) fault =
      (next.runToEnd runtime later fault).map (code ++ ·) := by
  unfold runToEnd
  rw [run_append_of_ok passes]
  cases (next.run runtime later).2 with
  | error error => rfl
  | ok last =>
      dsimp only [Except.bind]
      cases last.finish fault <;> rfl

theorem runToEnd_append_of_fault {error : CompileError}
    (fails : stage.run runtime tokens = (code, .error error)) (later : List Token)
    (fault : Option ScanError) :
    stage.runToEnd runtime (tokens ++ later) fault = .error error := by
  unfold runToEnd
  rw [run_append_of_fault fails]
  rfl

end Stage

theorem compile_of_delivers {template : Text} {tokens : List Token}
    {fault : Option ScanError} (delivers : Delivers (Lexer.ofText template) tokens fault)
    (runtime : Text) :
    compile runtime template = (Stage.item .topLevel).runToEnd runtime tokens fault := by
  obtain ⟨result, contents⟩ := compileTokens_of_delivers delivers runtime
  unfold compile compilation Stage.runToEnd
  dsimp only
  rw [result, contents]
  cases ((Stage.item .topLevel).run runtime tokens).2.bind fun last => last.finish fault with
  | error error => rfl
  | ok done => rfl

/-- What a text with this reading is compiled to, if it begins at a position. -/
def Reading.compileAt (runtime : Text) (reading : Reading) (position : Position) :
    Except CompileError Text :=
  (Stage.item .topLevel).runToEnd runtime (reading.template.tokensAt position)
    (reading.faultAt position)

theorem compile_text (runtime : Text) (reading : Reading) :
    compile runtime reading.text = reading.compileAt runtime Position.start :=
  compile_of_delivers (Lexer.delivers_reading reading Position.start none) runtime

/-! ### Other positions -/

variable (move : Position → Position)

def CompileError.mapPosition : CompileError → CompileError
  | .unexpectedTag tag context position => .unexpectedTag tag context (move position)
  | .unexpectedToken found value expected context position =>
      .unexpectedToken found value expected context (move position)
  | .missingToken expected after => .missingToken expected (move after)
  | .unclosedFunc name position => .unclosedFunc name (move position)
  | .signature cause position => .signature cause (move position)
  | .scan fault => .scan (fault.mapPosition move)
  | .emit => .emit

def Block.mapPosition : Block → Block
  | .topLevel => .topLevel
  | .func signature position => .func signature (move position)

def Stage.mapPosition : Stage → Stage
  | .item block => .item (block.mapPosition move)
  | .inline block tag name => .inline (block.mapPosition move) tag (move name)
  | .opening name => .opening (move name)
  | .closing signature name => .closing signature (move name)

@[simp]
theorem Block.context_mapPosition (block : Block) :
    (block.mapPosition move).context = block.context := by
  cases block <;> rfl

@[simp]
theorem Block.literal_mapPosition (block : Block) (value : Text) :
    (block.mapPosition move).literal value = block.literal value := by
  cases block <;> rfl

theorem Block.behindName_mapPosition (block : Block) (tag : Option Tag) (name : Position) :
    (block.mapPosition move).behindName tag (move name) =
      (block.behindName tag name).map (Stage.mapPosition move) := by
  cases block with
  | topLevel =>
      cases tag with
      | none => rfl
      | some tag => cases tag <;> rfl
  | func signature position =>
      cases tag with
      | none => rfl
      | some tag => cases tag <;> rfl

def Stage.mapStep (stepped : Except CompileError (Text × Stage)) :
    Except CompileError (Text × Stage) :=
  match stepped with
  | .error error => .error (error.mapPosition move)
  | .ok (code, next) => .ok (code, next.mapPosition move)

theorem Block.begin_mapPosition (block : Block) (token : Token) :
    (block.mapPosition move).begin (token.mapPosition move) =
      Stage.mapStep move (block.begin token) := by
  obtain ⟨kind, value, position⟩ := token
  cases kind with
  | text =>
      change Except.ok ((block.mapPosition move).literal value, _) = _
      rw [Block.literal_mapPosition]
      rfl
  | tagContents =>
      change Except.error (CompileError.unexpectedToken _ _ _
        (block.mapPosition move).context _) = _
      rw [Block.context_mapPosition]
      rfl
  | tagName =>
      unfold Block.begin
      dsimp only [Token.mapPosition]
      rw [Block.behindName_mapPosition, Block.context_mapPosition]
      cases block.behindName (Tag.ofName? value) position with
      | none => rfl
      | some stage => rfl

theorem Token.asContents_mapPosition (token : Token) (context : BlockContext)
    (accepted : Except CompileError (Text × Stage)) :
    (token.mapPosition move).asContents context (Stage.mapStep move accepted) =
      Stage.mapStep move (token.asContents context accepted) := by
  obtain ⟨kind, value, position⟩ := token
  cases kind <;> rfl

theorem openBlock_mapPosition (runtime : Text) (token : Token) :
    openBlock runtime (token.mapPosition move) =
      Stage.mapStep move (openBlock runtime token) := by
  unfold openBlock
  dsimp only [Token.mapPosition]
  cases Signature.split token.value with
  | error cause => rfl
  | ok signature => rfl

namespace Stage

variable (runtime : Text) (stage : Stage)

theorem step_mapPosition (token : Token) :
    (stage.mapPosition move).step runtime (token.mapPosition move) =
      mapStep move (stage.step runtime token) := by
  cases stage with
  | item block => exact block.begin_mapPosition move token
  | inline block tag name =>
      simp only [mapPosition, step, Block.context_mapPosition]
      exact token.asContents_mapPosition move _ (.ok (_, item block))
  | opening name =>
      simp only [mapPosition, step]
      rw [openBlock_mapPosition]
      exact token.asContents_mapPosition move _ _
  | closing signature name =>
      simp only [mapPosition, step]
      exact token.asContents_mapPosition move _ (.ok (_, item .topLevel))

theorem finish_mapPosition (fault : Option ScanError) :
    (stage.mapPosition move).finish (fault.map (ScanError.mapPosition move)) =
      (stage.finish fault).mapError (CompileError.mapPosition move) := by
  cases fault with
  | some fault =>
      cases stage with
      | item block => cases block <;> rfl
      | _ => rfl
  | none =>
      cases stage with
      | item block => cases block <;> rfl
      | _ => rfl

theorem run_mapPosition (tokens : List Token) :
    (stage.mapPosition move).run runtime (tokens.map (Token.mapPosition move)) =
      ((stage.run runtime tokens).1,
        ((stage.run runtime tokens).2.map (mapPosition move)).mapError
          (CompileError.mapPosition move)) := by
  induction tokens generalizing stage with
  | nil => rfl
  | cons token rest ih =>
      have moved := stage.step_mapPosition move runtime token
      cases steps : stage.step runtime token with
      | error error =>
          rw [steps] at moved
          rw [List.map_cons, run_cons_of_fault moved, run_cons_of_fault steps]
          rfl
      | ok given =>
          obtain ⟨code, next⟩ := given
          rw [steps] at moved
          rw [List.map_cons, run_cons_of_step moved, run_cons_of_step steps, ih next]

theorem runToEnd_mapPosition (tokens : List Token) (fault : Option ScanError) :
    (stage.mapPosition move).runToEnd runtime (tokens.map (Token.mapPosition move))
        (fault.map (ScanError.mapPosition move)) =
      (stage.runToEnd runtime tokens fault).mapError (CompileError.mapPosition move) := by
  unfold runToEnd
  rw [run_mapPosition]
  cases (stage.run runtime tokens).2 with
  | error error => rfl
  | ok last =>
      dsimp only [Except.map, Except.mapError, Except.bind]
      rw [finish_mapPosition]
      cases last.finish fault with
      | error error => rfl
      | ok done => rfl

end Stage

end Stencil
