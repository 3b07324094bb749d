/-
The compilation accepts exactly the sequences of items.

A beginning is what a list of tokens may be while a template is still unfinished: some
items, and an ending that tells what may come next.  The beginnings are exactly the lists
of tokens that can be continued to a sequence of items, and exactly those over which a run
meets no fault.

At the end of a beginning the compilation gives what its ending calls for.  Only an ending
outside of functions goes through, and then the code is that of the items in their order.
-/

import Mathlib.Data.List.Induction
import Stencil.Proofs.Compilation.Resume

namespace Stencil

/-- How an unfinished template ends: in front of an item, behind the name of a tag, or
inside of a function in one of these two ways. -/
inductive Ending where
  | outside
  | code (name : Position)
  | func (name : Position)
  | inside (head : FuncHead) (body : List Piece)
  | inline (head : FuncHead) (body : List Piece) (tag : Inline) (name : Position)
  | endfunc (head : FuncHead) (body : List Piece) (name : Position)

structure Beginning where
  items : List Item
  ending : Ending

namespace Ending

def tokens : Ending → List Token
  | outside => []
  | code name => [Tag.code.token name]
  | func name => [Tag.func.token name]
  | inside head body => head.tokens ++ body.flatMap Piece.tokens
  | inline head body tag name =>
      head.tokens ++ body.flatMap Piece.tokens ++ [tag.tag.token name]
  | endfunc head body name =>
      head.tokens ++ body.flatMap Piece.tokens ++ [Tag.endfunc.token name]

def written (runtime : Text) : Ending → Text
  | outside => []
  | code _ => []
  | func _ => []
  | inside head body => Go.funcStart runtime head.signature ++ body.flatMap Piece.written
  | inline head body _ _ => Go.funcStart runtime head.signature ++ body.flatMap Piece.written
  | endfunc head body _ => Go.funcStart runtime head.signature ++ body.flatMap Piece.written

def stage : Ending → Stage
  | outside => .item .topLevel
  | code name => .inline .topLevel .code name
  | func name => .opening name
  | inside head _ => .item head.block
  | inline head _ tag name => .inline head.block tag name
  | endfunc head _ name => .closing head.signature name

end Ending

namespace Beginning

def tokens (beginning : Beginning) : List Token :=
  beginning.items.flatMap Item.tokens ++ beginning.ending.tokens

def written (runtime : Text) (beginning : Beginning) : Text :=
  beginning.items.flatMap (Item.written runtime) ++ beginning.ending.written runtime

end Beginning

theorem Ending.passes (runtime : Text) (ending : Ending) :
    (Stage.item .topLevel).Passes runtime ending.tokens (ending.written runtime)
      ending.stage := by
  cases ending with
  | outside => rfl
  | code name => exact Stage.Passes.one (Stage.step_code runtime name)
  | func name => exact Stage.Passes.one (Stage.step_func runtime name)
  | inside head body => exact head.passes_body runtime body
  | inline head body tag name =>
      have named := (head.passes_body runtime body).append
        (Stage.Passes.one (Stage.step_inline runtime head name tag))
      rw [List.append_nil] at named
      exact named
  | endfunc head body name =>
      have named := (head.passes_body runtime body).append
        (Stage.Passes.one (Stage.step_endfunc runtime head name))
      rw [List.append_nil] at named
      exact named

theorem Beginning.passes (runtime : Text) (beginning : Beginning) :
    (Stage.item .topLevel).Passes runtime beginning.tokens (beginning.written runtime)
      beginning.ending.stage :=
  (Stage.Passes.flatMap (Item.passes runtime)).append (beginning.ending.passes runtime)

theorem Token.eq_of_ofName? {token : Token} {tag : Tag} (isName : token.kind = .tagName)
    (found : Tag.ofName? token.value = some tag) : token = tag.token token.position := by
  obtain ⟨kind, value, position⟩ := token
  cases isName
  rw [Tag.ofName?_eq_some_iff] at found
  cases found
  rfl

theorem Token.eq_token {token : Token} {kind : TokenKind} (same : token.kind = kind) :
    token = Lexeme.token kind ⟨token.value, token.position⟩ := by
  obtain ⟨_, value, position⟩ := token
  cases same
  rfl

theorem Token.asContents_eq_ok {token : Token} {context : BlockContext}
    {accepted : Except CompileError (Text × Stage)} {given : Text × Stage}
    (steps : token.asContents context accepted = .ok given) :
    token.kind = .tagContents ∧ accepted = .ok given := by
  unfold Token.asContents at steps
  split at steps
  · rename_i isContents
    exact ⟨isContents, steps⟩
  · cases steps

theorem openBlock_eq_ok {runtime : Text} {token : Token} {given : Text × Stage}
    (opens : openBlock runtime token = .ok given) :
    ∃ signature, Signature.split token.value = .ok signature ∧
      given =
        (Go.funcStart runtime signature, .item (.func signature token.position)) := by
  unfold openBlock at opens
  cases splits : Signature.split token.value with
  | error cause =>
      rw [splits] at opens
      cases opens
  | ok signature =>
      rw [splits] at opens
      exact ⟨signature, rfl, (Except.ok.inj opens).symm⟩

theorem Block.begin_topLevel_eq_ok {token : Token} {given : Text × Stage}
    (steps : Block.topLevel.begin token = .ok given) :
    token.kind = .text ∨ token = Tag.code.token token.position ∨
      token = Tag.func.token token.position := by
  unfold Block.begin at steps
  cases kind : token.kind with
  | text => exact Or.inl rfl
  | tagContents =>
      rw [kind] at steps
      cases steps
  | tagName =>
      rw [kind] at steps
      cases found : Tag.ofName? token.value with
      | none =>
          rw [found] at steps
          cases steps
      | some tag =>
          rw [found] at steps
          cases tag with
          | code => exact Or.inr (Or.inl (Token.eq_of_ofName? kind found))
          | func => exact Or.inr (Or.inr (Token.eq_of_ofName? kind found))
          | _ => cases steps

theorem Block.begin_func_eq_ok {signature : Signature} {position : Position}
    {token : Token} {given : Text × Stage}
    (steps : (Block.func signature position).begin token = .ok given) :
    token.kind = .text ∨ token = Tag.endfunc.token token.position ∨
      ∃ tag : Inline, token = tag.tag.token token.position := by
  unfold Block.begin at steps
  cases kind : token.kind with
  | text => exact Or.inl rfl
  | tagContents =>
      rw [kind] at steps
      cases steps
  | tagName =>
      rw [kind] at steps
      cases found : Tag.ofName? token.value with
      | none =>
          rw [found] at steps
          cases steps
      | some tag =>
          rw [found] at steps
          have named := Token.eq_of_ofName? kind found
          cases tag with
          | func => cases steps
          | endfunc => exact Or.inr (Or.inl named)
          | code => exact Or.inr (Or.inr ⟨.code, named⟩)
          | string => exact Or.inr (Or.inr ⟨.string, named⟩)
          | decimal => exact Or.inr (Or.inr ⟨.decimal, named⟩)
          | float => exact Or.inr (Or.inr ⟨.float, named⟩)

namespace Beginning

/-- A token that a compilation accepts makes a beginning longer. -/
theorem exists_longer {runtime : Text} (beginning : Beginning) {token : Token}
    {given : Text × Stage}
    (steps : beginning.ending.stage.step runtime token = .ok given) :
    ∃ longer : Beginning, longer.tokens = beginning.tokens ++ [token] := by
  obtain ⟨items, ending⟩ := beginning
  let word : Lexeme := ⟨token.value, token.position⟩
  cases ending with
  | outside =>
      rcases Block.begin_topLevel_eq_ok steps with isText | isCode | isFunc
      · refine ⟨⟨items ++ [.text word], .outside⟩, ?_⟩
        rw [Token.eq_token isText]
        simp [tokens, Ending.tokens, Item.tokens, word]
      · refine ⟨⟨items, .code token.position⟩, ?_⟩
        rw [isCode]
        simp [tokens, Ending.tokens, Tag.token]
      · refine ⟨⟨items, .func token.position⟩, ?_⟩
        rw [isFunc]
        simp [tokens, Ending.tokens, Tag.token]
  | code name =>
      obtain ⟨isContents, _⟩ := Token.asContents_eq_ok steps
      refine ⟨⟨items ++ [.code name word], .outside⟩, ?_⟩
      rw [Token.eq_token isContents]
      simp [tokens, Ending.tokens, Item.tokens, word]
  | func name =>
      obtain ⟨isContents, opens⟩ := Token.asContents_eq_ok steps
      obtain ⟨signature, splits, _⟩ := openBlock_eq_ok opens
      refine ⟨⟨items, .inside ⟨name, word, signature, splits⟩ []⟩, ?_⟩
      rw [Token.eq_token isContents]
      simp [tokens, Ending.tokens, FuncHead.tokens, word]
  | inside head body =>
      rcases Block.begin_func_eq_ok steps with isText | isEnd | ⟨tag, isTag⟩
      · refine ⟨⟨items, .inside head (body ++ [.text word])⟩, ?_⟩
        rw [Token.eq_token isText]
        simp [tokens, Ending.tokens, Piece.tokens, word]
      · refine ⟨⟨items, .endfunc head body token.position⟩, ?_⟩
        rw [isEnd]
        simp [tokens, Ending.tokens, Tag.token]
      · refine ⟨⟨items, .inline head body tag token.position⟩, ?_⟩
        rw [isTag]
        simp [tokens, Ending.tokens, Tag.token]
  | inline head body tag name =>
      obtain ⟨isContents, _⟩ := Token.asContents_eq_ok steps
      refine ⟨⟨items, .inside head (body ++ [.inline tag name word])⟩, ?_⟩
      rw [Token.eq_token isContents]
      simp [tokens, Ending.tokens, Piece.tokens, word]
  | endfunc head body name =>
      obtain ⟨isContents, _⟩ := Token.asContents_eq_ok steps
      refine ⟨⟨items ++ [.func head body name word], .outside⟩, ?_⟩
      rw [Token.eq_token isContents]
      simp [tokens, Ending.tokens, Item.tokens, word]

/-- Tokens over which a run meets no fault are a beginning. -/
theorem exists_of_passes {runtime code : Text} {stage : Stage} {read : List Token}
    (passes : (Stage.item .topLevel).Passes runtime read code stage) :
    ∃ beginning : Beginning, beginning.tokens = read := by
  induction read using List.reverseRecOn generalizing code stage with
  | nil => exact ⟨⟨[], .outside⟩, rfl⟩
  | append_singleton read token ih =>
      obtain ⟨middle, _, _, readPasses, tokenPasses⟩ := passes.split
      obtain ⟨beginning, rfl⟩ := ih readPasses
      obtain ⟨_, rfl⟩ := readPasses.unique (beginning.passes runtime)
      obtain ⟨_, _, _, steps, _⟩ := tokenPasses.of_cons
      exact beginning.exists_longer steps

end Beginning

/-- Tokens that are, or can become, a sequence of items. -/
def Viable (tokens : List Token) : Prop :=
  ∃ (rest : List Token) (items : List Item), items.flatMap Item.tokens = tokens ++ rest

namespace Ending

def filler : Lexeme := ⟨"()".toList, Position.start⟩

def fillerHead (name : Position) : FuncHead :=
  ⟨name, filler, ⟨[], [], []⟩, rfl⟩

def completed : Ending → List Item
  | outside => []
  | code name => [.code name filler]
  | func name => [.func (fillerHead name) [] Position.start filler]
  | inside head body => [.func head body Position.start filler]
  | inline head body tag name =>
      [.func head (body ++ [.inline tag name filler]) Position.start filler]
  | endfunc head body name => [.func head body name filler]

theorem prefix_completed (ending : Ending) :
    ending.tokens <+: ending.completed.flatMap Item.tokens := by
  cases ending <;>
    simp [completed, tokens, Item.tokens, FuncHead.tokens, Piece.tokens, fillerHead,
      List.prefix_append_right_inj]

end Ending

/-- What can be continued to items is what a beginning spells. -/
theorem viable_iff_beginning (tokens : List Token) :
    Viable tokens ↔ ∃ beginning : Beginning, beginning.tokens = tokens := by
  constructor
  · intro viable
    obtain ⟨rest, items, whole⟩ := viable
    have passes : (Stage.item .topLevel).Passes [] (items.flatMap Item.tokens)
        (items.flatMap (Item.written [])) (.item .topLevel) :=
      Stage.Passes.flatMap (Item.passes [])
    rw [whole] at passes
    obtain ⟨_, _, _, read, _⟩ := passes.split
    exact Beginning.exists_of_passes read
  · intro spelled
    obtain ⟨beginning, rfl⟩ := spelled
    obtain ⟨rest, completes⟩ := beginning.ending.prefix_completed
    refine ⟨rest, beginning.items ++ beginning.ending.completed, ?_⟩
    rw [List.flatMap_append, ← completes, Beginning.tokens, List.append_assoc]

/-! ### Complete templates -/

/-- What an ending calls for when no further token comes: the fault of the source is
reported first, then contents that are missing, then a function that is open. -/
def Ending.atEnd (ending : Ending) (fault : Option ScanError) : Except CompileError Unit :=
  match fault, ending with
  | some fault, _ => .error (.scan fault)
  | none, .outside => .ok ()
  | none, .inside head _ =>
      .error (.unclosedFunc head.signature.name head.contents.position)
  | none, .code name => .error (.missingToken .tagContents name)
  | none, .func name => .error (.missingToken .tagContents name)
  | none, .inline _ _ _ name => .error (.missingToken .tagContents name)
  | none, .endfunc _ _ name => .error (.missingToken .tagContents name)

theorem Ending.finish_stage (ending : Ending) (fault : Option ScanError) :
    ending.stage.finish fault = ending.atEnd fault := by
  cases fault with
  | none => cases ending <;> rfl
  | some fault => cases ending <;> rfl

theorem compileTokens_of_feed (runtime : Text) (tokens : List Token)
    (fault : Option ScanError) :
    let outcome :=
      compileTokens runtime (TokenFeed.ofTokens tokens fault) (Sink.empty none)
    outcome.result =
        ((Stage.item .topLevel).run runtime tokens).2.bind (fun last => last.finish fault) ∧
      outcome.progress.sink.contents = ((Stage.item .topLevel).run runtime tokens).1 :=
  compileTokens_of_delivers (TokenFeed.delivers_ofTokens tokens fault) runtime

theorem Beginning.compileTokens (runtime : Text) (beginning : Beginning)
    (fault : Option ScanError) :
    let outcome :=
      compileTokens runtime (TokenFeed.ofTokens beginning.tokens fault) (Sink.empty none)
    outcome.result = beginning.ending.atEnd fault ∧
      outcome.progress.sink.contents = beginning.written runtime := by
  intro outcome
  obtain ⟨result, contents⟩ := compileTokens_of_feed runtime beginning.tokens fault
  rw [beginning.passes runtime] at result contents
  rw [← beginning.ending.finish_stage]
  exact ⟨result, contents⟩

theorem Beginning.of_items (runtime : Text) (items : List Item) :
    Beginning.tokens ⟨items, .outside⟩ = items.flatMap Item.tokens ∧
      Beginning.written runtime ⟨items, .outside⟩ =
        items.flatMap (Item.written runtime) := by
  simp [Beginning.tokens, Beginning.written, Ending.tokens, Ending.written]

theorem Ending.eq_outside_of_stage {ending : Ending}
    (outside : ending.stage = .item .topLevel) : ending = .outside := by
  cases ending with
  | outside => rfl
  | _ => cases outside

/-- A compilation succeeds with some code when the source holds no fault and the run over
its tokens gives this code and ends outside of functions. -/
theorem compileTokens_eq_ok_iff {σ : Type} [TokenSource σ] {source : σ}
    {tokens : List Token} {fault : Option ScanError} {runtime code : Text}
    (delivers : Delivers source tokens fault) :
    (compileTokens runtime source (Sink.empty none)).result = .ok () ∧
        (compileTokens runtime source (Sink.empty none)).progress.sink.contents = code ↔
      fault = none ∧ (Stage.item .topLevel).Passes runtime tokens code (.item .topLevel) := by
  obtain ⟨result, contents⟩ := compileTokens_of_delivers delivers runtime
  rw [result, contents]
  unfold Stage.Passes
  cases ran : (Stage.item .topLevel).run runtime tokens with
  | mk given last =>
      cases last with
      | error cause => simp [Except.bind]
      | ok stage =>
          simp only [Except.bind, stage.finish_eq_ok_iff, Prod.mk.injEq, Except.ok.injEq]
          constructor
          · intro complete
            obtain ⟨⟨isNone, isOutside⟩, same⟩ := complete
            exact ⟨isNone, same, isOutside⟩
          · intro complete
            obtain ⟨isNone, same, isOutside⟩ := complete
            exact ⟨⟨isNone, isOutside⟩, same⟩

namespace Stage

theorem run_append_congr {runtime : Text} {second other : List Token}
    (same : ∀ stage : Stage, stage.run runtime second = stage.run runtime other)
    (stage : Stage) (first : List Token) :
    stage.run runtime (first ++ second) = stage.run runtime (first ++ other) := by
  cases ran : stage.run runtime first with
  | mk code result =>
      cases result with
      | error fault => rw [run_append_of_fault ran, run_append_of_fault ran]
      | ok next => rw [run_append_of_ok ran, run_append_of_ok ran, same]

/-- Where `endfunc` is refused its contents are never reached, and where it is accepted
they are dropped. -/
theorem run_endfunc (runtime : Text) (stage : Stage) (name : Position)
    (contents other : Lexeme) (rest : List Token) :
    stage.run runtime
        (Tag.endfunc.token name :: contents.token .tagContents :: rest) =
      stage.run runtime
        (Tag.endfunc.token name :: other.token .tagContents :: rest) := by
  cases stage with
  | item block =>
      cases block with
      | topLevel => rw [run_cons_of_fault rfl, run_cons_of_fault rfl]
      | func signature position =>
          have closes : (item (.func signature position)).step runtime
              (Tag.endfunc.token name) = .ok ([], closing signature name) := rfl
          rw [run_cons_of_step closes, run_cons_of_step closes,
            run_cons_of_step (step_closing_contents runtime name contents signature),
            run_cons_of_step (step_closing_contents runtime name other signature)]
  | inline block tag earlier => rw [run_cons_of_fault rfl, run_cons_of_fault rfl]
  | opening earlier => rw [run_cons_of_fault rfl, run_cons_of_fault rfl]
  | closing signature earlier => rw [run_cons_of_fault rfl, run_cons_of_fault rfl]

end Stage

/-- Compiling tokens succeeds exactly on sequences of items, and then the code is that of
the items in their order.  Whatever the contents of an `endfunc` tag are, they make no
difference to the result or to the code. -/
theorem compileTokens_accepts_items (runtime : Text) (tokens : List Token) :
    let outcome :=
      compileTokens runtime (TokenFeed.ofTokens tokens none) (Sink.empty none)
    (outcome.result = .ok () ↔
      ∃ items : List Item, items.flatMap Item.tokens = tokens) ∧
    (∀ items : List Item, items.flatMap Item.tokens = tokens →
      outcome.progress.sink.contents = items.flatMap (Item.written runtime)) ∧
    ∀ (before : List Token) (name : Position) (contents other : Lexeme)
        (after : List Token),
      tokens =
          before ++ Tag.endfunc.token name :: contents.token .tagContents :: after →
        let changed :=
          compileTokens runtime
            (TokenFeed.ofTokens
              (before ++ Tag.endfunc.token name :: other.token .tagContents :: after) none)
            (Sink.empty none)
        changed.result = outcome.result ∧
          changed.progress.sink.contents = outcome.progress.sink.contents := by
  intro outcome
  have delivers := TokenFeed.delivers_ofTokens tokens none
  refine ⟨⟨?_, ?_⟩, ?_, ?_⟩
  · intro succeeds
    obtain ⟨_, passes⟩ := (compileTokens_eq_ok_iff delivers).mp ⟨succeeds, rfl⟩
    obtain ⟨beginning, rfl⟩ := Beginning.exists_of_passes passes
    obtain ⟨_, stages⟩ := passes.unique (beginning.passes runtime)
    obtain ⟨items, ending⟩ := beginning
    cases Ending.eq_outside_of_stage stages.symm
    exact ⟨items, (Beginning.of_items runtime items).1.symm⟩
  · intro isItems
    obtain ⟨items, rfl⟩ := isItems
    exact ((compileTokens_eq_ok_iff delivers).mpr
      ⟨rfl, Stage.Passes.flatMap (Item.passes runtime)⟩).1
  · intro items same
    subst same
    exact ((compileTokens_eq_ok_iff delivers).mpr
      ⟨rfl, Stage.Passes.flatMap (Item.passes runtime)⟩).2
  · intro before name closing other after same changed
    subst same
    obtain ⟨result, contents⟩ := compileTokens_of_delivers delivers runtime
    obtain ⟨changedResult, changedContents⟩ := compileTokens_of_feed runtime
      (before ++ Tag.endfunc.token name :: other.token .tagContents :: after) none
    have same := Stage.run_append_congr
      (fun stage => Stage.run_endfunc runtime stage name closing other after)
      (.item .topLevel) before
    rw [← same] at changedResult changedContents
    exact ⟨changedResult.trans result.symm, changedContents.trans contents.symm⟩

end Stencil
