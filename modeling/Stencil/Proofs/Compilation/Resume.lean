/-
The compilation of items is the run over stages.

A compilation that is resumed at a stage pulls one token, writes the code of its step and
is resumed at the next stage; this holds of every source and of every sink.  So what a
compilation gives depends on the source only through the tokens and the fault that the
source delivers, and with an unbounded sink it is the run over these tokens.
-/

import Stencil.Proofs.Compilation.Grammar
import Stencil.Proofs.Token.Delivery

namespace Stencil

theorem Outcome.andThen_assoc {σ α β γ : Type} (outcome : Outcome σ α)
    (first : α → Progress σ → Outcome σ β) (second : β → Progress σ → Outcome σ γ) :
    (outcome.andThen first).andThen second =
      outcome.andThen fun value progress => (first value progress).andThen second := by
  unfold Outcome.andThen
  cases hResult : outcome.result with
  | error fault => rfl
  | ok value => rfl

theorem Sink.write_nil (sink : Sink) :
    (sink.write []).1 = true ∧ (sink.write []).2.contents = sink.contents ∧
      (sink.write []).2.room = sink.room := by
  obtain ⟨room, pieces⟩ := sink
  cases room with
  | none => simp [Sink.write, Sink.contents]
  | some room => simp [Sink.write, Sink.contents]

def Progress.wrote {σ : Type} (progress : Progress σ) (code : Text) : Progress σ :=
  { progress with sink := (progress.sink.write code).2 }

theorem Progress.emit_andThen {σ : Type} (progress : Progress σ) (code : Text) (block : Block)
    (next : Block → Progress σ → Outcome σ Unit) :
    (progress.emit code block).andThen next =
      if (progress.sink.write code).1 = true then
        next block (progress.wrote code)
      else
        ⟨.error .emit, progress.wrote code⟩ := by
  unfold Progress.emit Outcome.andThen Progress.wrote
  by_cases fits : (progress.sink.write code).1 = true
  · simp [fits]
  · simp [fits]

variable {σ : Type} [TokenSource σ]

theorem compileBlock_of_next {runtime : Text} {block : Block} {progress : Progress σ}
    {token : Token} (comes : progress.pull.1 = some token) :
    compileBlock runtime block progress =
      (item runtime block token
        progress.pull.2).andThen
          (compileBlock runtime) := by
  have pulled : progress.pull = (some token, progress.pull.2) := Prod.ext comes rfl
  rw [compileBlock]
  split
  · rename_i hPull
    rw [pulled] at hPull
    cases hPull
  · rename_i hPull
    rw [pulled] at hPull
    cases hPull
    unfold Outcome.andThen
    split
    · rename_i hItem
      rw [hItem]
    · rename_i hItem
      rw [hItem]

theorem Progress.contents_of_next {progress : Progress σ} {name token : Token}
    {context : BlockContext}
    (comes : progress.pull.1 = some token) :
    progress.contents name context =
      ⟨if token.kind = .tagContents then
          .ok token
        else
          .error (.unexpectedToken token.kind token.value (.token .tagContents) context
            token.position),
        progress.pull.2⟩ := by
  simp [Progress.contents, comes]

theorem Progress.contents_of_end {progress : Progress σ} {name : Token}
    {context : BlockContext} (stops : progress.pull.1 = none) :
    progress.contents name context =
      ⟨Stage.missing name.position
          (TokenSource.lastError progress.pull.2.source),
        progress.pull.2⟩ := by
  simp only [Progress.contents, stops]
  cases TokenSource.lastError progress.pull.2.source with
  | none => rfl
  | some fault => rfl

theorem compileBlock_of_end {runtime : Text} {block : Block} {progress : Progress σ}
    (stops : progress.pull.1 = none) :
    compileBlock runtime block progress =
      ⟨block.finish (TokenSource.lastError progress.pull.2.source),
        progress.pull.2⟩ := by
  have pulled : progress.pull = (none, progress.pull.2) := Prod.ext stops rfl
  rw [compileBlock]
  split
  · rename_i hPull
    rw [pulled] at hPull
    cases hPull
    rfl
  · rename_i hPull
    rw [pulled] at hPull
    cases hPull

/-- The progress behind one more token, of which a piece of code was written. -/
structure Progress.Behind (progress behind : Progress σ) (code : Text) : Prop where
  source : behind.source = progress.pull.2.source
  contents : behind.sink.contents = (progress.sink.write code).2.contents
  room : behind.sink.room = (progress.sink.write code).2.room

def Stage.resume (runtime : Text) (stage : Stage) (progress : Progress σ) :
    Outcome σ Unit :=
  match stage with
  | .item block => compileBlock runtime block progress
  | .inline block tag name =>
      (statement tag.render block ⟨.tagName, tag.tag.name, name⟩ progress).andThen
        (compileBlock runtime)
  | .opening name =>
      (openFunc runtime ⟨.tagName, Tag.func.name, name⟩ progress).andThen
        (compileBlock runtime)
  | .closing signature name =>
      (closeFunc runtime signature ⟨.tagName, Tag.endfunc.name, name⟩ progress).andThen
        (compileBlock runtime)

namespace Stage

theorem resume_of_end (runtime : Text) (stage : Stage) {progress : Progress σ}
    (stops : progress.pull.1 = none) :
    stage.resume runtime progress =
      ⟨stage.finish (TokenSource.lastError progress.pull.2.source),
        progress.pull.2⟩ := by
  cases stage with
  | item block => exact compileBlock_of_end stops
  | inline block tag name =>
      simp only [resume, statement, Progress.contents_of_end stops, finish]
      cases TokenSource.lastError progress.pull.2.source with
      | none => rfl
      | some fault => rfl
  | opening name =>
      simp only [resume, openFunc, Progress.contents_of_end stops, finish]
      cases TokenSource.lastError progress.pull.2.source with
      | none => rfl
      | some fault => rfl
  | closing signature name =>
      simp only [resume, closeFunc, Progress.contents_of_end stops, finish]
      cases TokenSource.lastError progress.pull.2.source with
      | none => rfl
      | some fault => rfl

theorem item_andThen_of_name {runtime : Text} {block : Block} {token : Token}
    (isName : token.kind = .tagName) (progress : Progress σ) :
    (Stencil.item runtime block token progress).andThen (compileBlock runtime) =
      match block.behindName (Tag.ofName? token.value) token.position with
      | some stage => stage.resume runtime progress
      | none => ⟨.error (.unexpectedTag token.value block.context token.position),
          progress⟩ := by
  unfold Stencil.item
  rw [isName]
  cases block with
  | topLevel =>
      cases Tag.ofName? token.value with
      | none => rfl
      | some tag => cases tag <;> rfl
  | func signature position =>
      cases Tag.ofName? token.value with
      | none => rfl
      | some tag => cases tag <;> rfl

theorem resume_of_fault {runtime : Text} {stage : Stage} {progress : Progress σ}
    {token : Token} {fault : CompileError}
    (comes : progress.pull.1 = some token)
    (steps : stage.step runtime token = .error fault) :
    stage.resume runtime progress =
      ⟨.error fault, progress.pull.2⟩ := by
  cases stage with
  | item block =>
      change compileBlock runtime block progress = _
      rw [compileBlock_of_next comes]
      simp only [step, Block.begin] at steps
      cases kind : token.kind with
      | text =>
          rw [kind] at steps
          cases steps
      | tagContents =>
          rw [kind] at steps
          cases steps
          simp [Stencil.item, kind, Outcome.andThen]
      | tagName =>
          rw [kind] at steps
          rw [item_andThen_of_name kind]
          cases behind : block.behindName (Tag.ofName? token.value) token.position with
          | some stage =>
              rw [behind] at steps
              cases steps
          | none =>
              rw [behind] at steps
              cases steps
              rfl
  | inline block tag name =>
      simp only [step, Token.asContents] at steps
      simp only [resume, statement, Progress.contents_of_next comes]
      split at steps
      · cases steps
      · rename_i other
        cases steps
        simp [Outcome.andThen, other]
  | opening name =>
      simp only [step, Token.asContents, openBlock] at steps
      simp only [resume, openFunc, Progress.contents_of_next comes]
      split at steps
      · rename_i isContents
        split at steps
        · rename_i hSplit
          cases steps
          simp [Outcome.andThen, isContents, hSplit]
        · cases steps
      · rename_i other
        cases steps
        simp [Outcome.andThen, other]
  | closing signature name =>
      simp only [step, Token.asContents] at steps
      simp only [resume, closeFunc, Progress.contents_of_next comes]
      split at steps
      · cases steps
      · rename_i other
        cases steps
        simp [Outcome.andThen, other]

theorem behind_of_silence (progress : Progress σ) : progress.Behind progress.pull.2 [] := by
  have silent := Sink.write_nil progress.sink
  exact ⟨rfl, silent.2.1.symm, silent.2.2.symm⟩

/-- In front of an item only literal text in a function is written; a name and a dropped
text give nothing, for which there is always room. -/
theorem compileBlock_of_step {runtime code : Text} {block : Block} {next : Stage}
    {progress : Progress σ} {token : Token} (comes : progress.pull.1 = some token)
    (steps : block.begin token = .ok (code, next)) :
    ∃ behind, progress.Behind behind code ∧
      compileBlock runtime block progress =
        if (progress.sink.write code).1 = true then
          next.resume runtime behind
        else
          ⟨.error .emit, behind⟩ := by
  have fits := (Sink.write_nil progress.sink).1
  rw [compileBlock_of_next comes]
  unfold Block.begin at steps
  cases kind : token.kind with
  | tagContents =>
      rw [kind] at steps
      cases steps
  | tagName =>
      rw [kind] at steps
      rw [item_andThen_of_name kind]
      cases behind : block.behindName (Tag.ofName? token.value) token.position with
      | none =>
          rw [behind] at steps
          cases steps
      | some stage =>
          rw [behind] at steps
          cases steps
          refine ⟨progress.pull.2, behind_of_silence progress, ?_⟩
          rw [if_pos fits]
  | text =>
      rw [kind] at steps
      cases steps
      cases block with
      | topLevel =>
          refine ⟨progress.pull.2, behind_of_silence progress, ?_⟩
          refine Eq.trans ?_ (if_pos fits).symm
          simp [Stencil.item, kind, Outcome.andThen, resume]
      | func signature position =>
          refine ⟨progress.pull.2.wrote _, ⟨rfl, rfl, rfl⟩, ?_⟩
          simp only [Stencil.item, kind]
          exact Progress.emit_andThen _ _ _ _

/-- A step that goes through writes its code, and the compilation is resumed at the next
stage unless the sink has no room for it. -/
theorem resume_of_step {runtime code : Text} {stage next : Stage} {progress : Progress σ}
    {token : Token} (comes : progress.pull.1 = some token)
    (steps : stage.step runtime token = .ok (code, next)) :
    ∃ behind, progress.Behind behind code ∧
      stage.resume runtime progress =
        if (progress.sink.write code).1 = true then
          next.resume runtime behind
        else
          ⟨.error .emit, behind⟩ := by
  cases stage with
  | item block => exact compileBlock_of_step comes steps
  | inline block tag name =>
      simp only [step, Token.asContents] at steps
      split at steps
      · rename_i isContents
        cases steps
        refine ⟨progress.pull.2.wrote _, ⟨rfl, rfl, rfl⟩, ?_⟩
        simp only [resume, statement, Progress.contents_of_next comes, isContents, if_true]
        exact Progress.emit_andThen _ _ _ _
      · cases steps
  | opening name =>
      simp only [step, Token.asContents, openBlock] at steps
      split at steps
      · rename_i isContents
        split at steps
        · cases steps
        · rename_i signature hSplit
          cases steps
          refine ⟨(progress.pull.2.recordOpening ⟨signature.name, token.position⟩).wrote _,
            ⟨rfl, rfl, rfl⟩, ?_⟩
          simp only [resume, openFunc, Progress.contents_of_next comes, isContents, if_true]
          rw [Outcome.andThen_assoc, Outcome.andThen]
          simp only [hSplit]
          exact Progress.emit_andThen (progress.pull.2.recordOpening _) _ _ _
      · cases steps
  | closing signature name =>
      simp only [step, Token.asContents] at steps
      split at steps
      · rename_i isContents
        cases steps
        refine ⟨progress.pull.2.wrote _, ⟨rfl, rfl, rfl⟩, ?_⟩
        simp only [resume, closeFunc, Progress.contents_of_next comes, isContents, if_true]
        exact Progress.emit_andThen _ _ _ _
      · cases steps

/-- Into an unbounded sink the compilation writes what the run over the delivered tokens
gives, and its result is that of the run, or of its last stage at the end of the source. -/
theorem resume_of_delivers {runtime : Text} {progress : Progress σ} {tokens : List Token}
    {fault : Option ScanError} (delivers : Delivers progress.source tokens fault)
    (unbounded : progress.sink.room = none) (stage : Stage) :
    (stage.resume runtime progress).result =
        (stage.run runtime tokens).2.bind (fun last => last.finish fault) ∧
      (stage.resume runtime progress).progress.sink.contents =
        progress.sink.contents ++ (stage.run runtime tokens).1 := by
  generalize hSource : progress.source = source at delivers
  induction delivers generalizing progress stage with
  | @ended source fault stops reported =>
      subst hSource
      rw [resume_of_end runtime stage stops]
      simp only [run, List.append_nil]
      refine ⟨?_, rfl⟩
      rw [← reported]
      rfl
  | @pulled source token tokens fault comes later ih =>
      subst hSource
      cases steps : stage.step runtime token with
      | error fault =>
          rw [resume_of_fault comes steps, run_cons_of_fault steps]
          exact ⟨rfl, (List.append_nil _).symm⟩
      | ok given =>
          obtain ⟨code, next⟩ := given
          obtain ⟨behind, isBehind, resumed⟩ := resume_of_step comes steps
          have fits : (progress.sink.write code).1 = true := by
            rw [Sink.write_fst_eq_true_iff]
            intro room bounded
            rw [unbounded] at bounded
            cases bounded
          have room : behind.sink.room = none := by
            rw [isBehind.room, Sink.write, unbounded]
          have contents : behind.sink.contents = progress.sink.contents ++ code := by
            rw [isBehind.contents, Sink.contents_write, unbounded]
          have rest := ih room next isBehind.source
          rw [resumed, if_pos fits, run_cons_of_step steps, rest.1, rest.2, contents,
            List.append_assoc]
          exact ⟨rfl, rfl⟩

end Stage

theorem compileTokens_of_delivers {source : σ} {tokens : List Token}
    {fault : Option ScanError} (delivers : Delivers source tokens fault) (runtime : Text) :
    (compileTokens runtime source (Sink.empty none)).result =
        ((Stage.item .topLevel).run runtime tokens).2.bind (fun last => last.finish fault) ∧
      (compileTokens runtime source (Sink.empty none)).progress.sink.contents =
        ((Stage.item .topLevel).run runtime tokens).1 :=
  Stage.resume_of_delivers delivers rfl (.item .topLevel)

end Stencil
