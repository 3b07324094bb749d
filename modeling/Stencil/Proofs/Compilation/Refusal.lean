/-
Which fault ends a compilation.

The tokens up to the first one that nothing acceptable contains there are a beginning, and
its ending and the refused token determine the fault.  The fault of the source counts only
when all tokens are a beginning.  In both cases the code is that of the beginning.
-/

import Mathlib.Data.List.Basic
import Stencil.Proofs.Compilation.Acceptance

namespace Stencil

def BlockContext.allowed : BlockContext → List Tag
  | .topLevel => [.code, .func]
  | .func => [.endfunc, .string, .decimal, .float, .code]

namespace Ending

def context : Ending → BlockContext
  | outside => .topLevel
  | code _ => .topLevel
  | func _ => .topLevel
  | inside _ _ => .func
  | inline _ _ _ _ => .func
  | endfunc _ _ _ => .func

def awaitsContents : Ending → Bool
  | outside => false
  | inside _ _ => false
  | _ => true

end Ending

def SignatureError.raw : SignatureError → Text
  | missingOpenParen raw => raw
  | missingCloseParen raw => raw

/-- Why a token cannot follow a beginning.  In front of an item a name must be allowed in
the context, and contents never stand there; behind a name nothing but contents may come,
and those of `func` must be a signature.  The fault tells the characters of the token and its
position. -/
inductive Refuses : Ending → Token → CompileError → Prop
  | tag {ending : Ending} {token : Token} (atItem : ending.awaitsContents = false)
      (isName : token.kind = .tagName)
      (foreign : token.value ∉ ending.context.allowed.map Tag.name) :
      Refuses ending token
        (.unexpectedTag token.value ending.context token.position)
  | contents {ending : Ending} {token : Token} (atItem : ending.awaitsContents = false)
      (isContents : token.kind = .tagContents) :
      Refuses ending token
        (.unexpectedToken .tagContents token.value .textOrTag ending.context
          token.position)
  | other {ending : Ending} {token : Token} (behindName : ending.awaitsContents = true)
      (notContents : token.kind ≠ .tagContents) :
      Refuses ending token
        (.unexpectedToken token.kind token.value (.token .tagContents) ending.context
          token.position)
  | signature {name : Position} {token : Token} {cause : SignatureError}
      (isContents : token.kind = .tagContents)
      (splits : Signature.split token.value = .error cause)
      (quoted : cause.raw = token.value) :
      Refuses (.func name) token (.signature cause token.position)

theorem Tag.ofName?_eq_none_iff {value : Text} :
    Tag.ofName? value = none ↔ ∀ tag : Tag, value ≠ tag.name := by
  constructor
  · intro missing tag same
    rw [Tag.ofName?_eq_some_iff.mpr same] at missing
    cases missing
  · intro foreign
    cases found : Tag.ofName? value with
    | none => rfl
    | some tag => exact absurd (Tag.ofName?_eq_some_iff.mp found) (foreign tag)

theorem Tag.name_injective : Function.Injective Tag.name := by
  intro first second same
  have found := Tag.ofName?_eq_some_iff.mpr same
  exact Option.some.inj ((Tag.ofName?_eq_some_iff.mpr rfl).symm.trans found)

theorem Block.behindName_eq_none_iff (block : Block) (value : Text) (name : Position) :
    block.behindName (Tag.ofName? value) name = none ↔
      value ∉ block.context.allowed.map Tag.name := by
  cases found : Tag.ofName? value with
  | none =>
      have foreign := Tag.ofName?_eq_none_iff.mp found
      constructor
      · intro _ member
        obtain ⟨tag, _, same⟩ := List.mem_map.mp member
        exact foreign tag same.symm
      · intro _
        cases block <;> rfl
  | some tag =>
      rw [Tag.ofName?_eq_some_iff.mp found, List.mem_map_of_injective Tag.name_injective]
      cases block <;> cases tag <;>
        simp [Block.behindName, Block.context, BlockContext.allowed]

theorem Block.begin_eq_error_iff (block : Block) (token : Token) (error : CompileError) :
    block.begin token = .error error ↔
      (token.kind = .tagName ∧ token.value ∉ block.context.allowed.map Tag.name ∧
        error = .unexpectedTag token.value block.context token.position) ∨
      (token.kind = .tagContents ∧
        error = .unexpectedToken .tagContents token.value .textOrTag block.context
          token.position) := by
  have names := block.behindName_eq_none_iff token.value token.position
  unfold Block.begin
  cases kind : token.kind with
  | text => simp
  | tagContents => simp [eq_comm]
  | tagName =>
      cases behind : block.behindName (Tag.ofName? token.value) token.position with
      | none => simp [names.mp behind, eq_comm]
      | some stage =>
          constructor
          · intro steps
            cases steps
          · intro refused
            rcases refused with ⟨_, foreign, _⟩ | ⟨impossible, _⟩
            · rw [names.mpr foreign] at behind
              cases behind
            · cases impossible

theorem Token.asContents_eq_error_iff (token : Token) (context : BlockContext)
    (accepted : Except CompileError (Text × Stage)) (error : CompileError) :
    token.asContents context accepted = .error error ↔
      (token.kind ≠ .tagContents ∧
        error = .unexpectedToken token.kind token.value (.token .tagContents) context
          token.position) ∨
      (token.kind = .tagContents ∧ accepted = .error error) := by
  unfold Token.asContents
  by_cases isContents : token.kind = .tagContents
  · simp [isContents]
  · simp [isContents, eq_comm]

theorem Signature.raw_of_split {value : Text} {cause : SignatureError}
    (splits : split value = .error cause) : cause.raw = value := by
  unfold split at splits
  split at splits
  · cases splits
    rfl
  · split at splits
    · cases splits
      rfl
    · cases splits

theorem openBlock_eq_error_iff (runtime : Text) (token : Token) (error : CompileError) :
    openBlock runtime token = .error error ↔
      ∃ cause, Signature.split token.value = .error cause ∧
        error = .signature cause token.position := by
  unfold openBlock
  cases Signature.split token.value with
  | error cause => simp [eq_comm]
  | ok signature => simp

namespace Ending

/-- The step behind a beginning fails with a fault exactly when the token is refused
for it. -/
theorem step_eq_error_iff (runtime : Text) (ending : Ending) (token : Token)
    (error : CompileError) :
    ending.stage.step runtime token = .error error ↔ Refuses ending token error := by
  constructor
  · intro steps
    cases ending with
    | outside | inside =>
        rcases (Block.begin_eq_error_iff _ _ _).mp steps with
          ⟨isName, foreign, rfl⟩ | ⟨isContents, rfl⟩
        · exact .tag rfl isName foreign
        · exact .contents rfl isContents
    | func =>
        rcases (Token.asContents_eq_error_iff _ _ _ _).mp steps with
          ⟨notContents, rfl⟩ | ⟨isContents, opens⟩
        · exact .other rfl notContents
        · obtain ⟨cause, splits, rfl⟩ := (openBlock_eq_error_iff _ _ _).mp opens
          exact .signature isContents splits (Signature.raw_of_split splits)
    | code | inline | endfunc =>
        rcases (Token.asContents_eq_error_iff _ _ _ _).mp steps with
          ⟨notContents, rfl⟩ | ⟨_, given⟩
        · exact .other rfl notContents
        · cases given
  · intro refuses
    cases refuses with
    | tag atItem isName foreign =>
        cases ending with
        | outside | inside =>
            exact (Block.begin_eq_error_iff _ _ _).mpr (Or.inl ⟨isName, foreign, rfl⟩)
        | _ => cases atItem
    | contents atItem isContents =>
        cases ending with
        | outside | inside =>
            exact (Block.begin_eq_error_iff _ _ _).mpr (Or.inr ⟨isContents, rfl⟩)
        | _ => cases atItem
    | other behindName notContents =>
        have refused := fun context accepted =>
          (Token.asContents_eq_error_iff token context accepted _).mpr
            (Or.inl ⟨notContents, rfl⟩)
        cases ending with
        | outside | inside => cases behindName
        | _ => exact refused _ _
    | signature isContents splits quoted =>
        exact (Token.asContents_eq_error_iff _ _ _ _).mpr (Or.inr ⟨isContents,
          (openBlock_eq_error_iff _ _ _).mpr ⟨_, splits, rfl⟩⟩)

end Ending

theorem Stage.exists_fault_of_run {runtime code : Text} {stage : Stage}
    {tokens : List Token} {error : CompileError}
    (runs : stage.run runtime tokens = (code, .error error)) :
    ∃ (first : List Token) (token : Token) (rest : List Token) (middle : Stage),
      tokens = first ++ token :: rest ∧ stage.Passes runtime first code middle ∧
        middle.step runtime token = .error error := by
  induction tokens generalizing stage code with
  | nil => cases runs
  | cons token rest ih =>
      cases steps : stage.step runtime token with
      | error earlier =>
          rw [run_cons_of_fault steps] at runs
          cases runs
          exact ⟨[], token, rest, stage, rfl, rfl, steps⟩
      | ok given =>
          obtain ⟨piece, next⟩ := given
          rw [run_cons_of_step steps] at runs
          injection runs with codes faults
          obtain ⟨first, refused, later, middle, rfl, passes, fails⟩ :=
            ih (Prod.ext rfl faults)
          refine ⟨token :: first, refused, later, middle, rfl, ?_, fails⟩
          rw [← codes]
          exact (Stage.Passes.one steps).append passes

theorem Beginning.not_viable_iff (runtime : Text) (beginning : Beginning) (token : Token) :
    ¬ Viable (beginning.tokens ++ [token]) ↔
      ∃ error, beginning.ending.stage.step runtime token = .error error := by
  constructor
  · intro notViable
    cases steps : beginning.ending.stage.step runtime token with
    | error error => exact ⟨error, rfl⟩
    | ok given =>
        apply absurd _ notViable
        rw [viable_iff_beginning]
        exact beginning.exists_longer steps
  · intro refused viable
    obtain ⟨error, steps⟩ := refused
    obtain ⟨longer, spelled⟩ := (viable_iff_beginning _).mp viable
    have passes := longer.passes runtime
    rw [spelled] at passes
    obtain ⟨_, tokenPasses⟩ := (beginning.passes runtime).of_append passes
    obtain ⟨_, _, _, goesOn, _⟩ := tokenPasses.of_cons
    rw [steps] at goesOn
    cases goesOn

theorem viable_or_refused (tokens : List Token) :
    Viable tokens ∨
      ∃ (beginning : Beginning) (token : Token) (rest : List Token),
        tokens = beginning.tokens ++ token :: rest ∧
          ¬ Viable (beginning.tokens ++ [token]) := by
  cases ran : (Stage.item .topLevel).run [] tokens with
  | mk code result =>
      cases result with
      | ok stage => exact Or.inl ((viable_iff_beginning _).mpr (Beginning.exists_of_passes ran))
      | error error =>
          obtain ⟨first, token, rest, middle, rfl, passes, fails⟩ :=
            Stage.exists_fault_of_run ran
          obtain ⟨beginning, rfl⟩ := Beginning.exists_of_passes passes
          obtain ⟨_, rfl⟩ := passes.unique (beginning.passes [])
          refine Or.inr ⟨beginning, token, rest, rfl, ?_⟩
          exact (beginning.not_viable_iff [] token).mpr ⟨error, fails⟩

/-- The longest beginning of the tokens determines how a compilation ends.  If a token
behind it is refused, the fault is the one refusal of that token, whatever follows and
whatever fault the source holds; if there is none, the ending calls for the result, and
the fault of the source comes first.  Either way the code is that of the beginning. -/
theorem compileTokens_stops_behind_beginning (runtime : Text) (tokens : List Token) :
    (∀ read, Viable read ↔ ∃ beginning : Beginning, beginning.tokens = read) ∧
    (Viable tokens ∨
      ∃ (beginning : Beginning) (token : Token) (rest : List Token),
        tokens = beginning.tokens ++ token :: rest ∧
          ¬ Viable (beginning.tokens ++ [token])) ∧
    (∀ (beginning : Beginning) (token : Token) (rest : List Token),
      tokens = beginning.tokens ++ token :: rest →
      ¬ Viable (beginning.tokens ++ [token]) →
        ∃ error, (∀ other, Refuses beginning.ending token other ↔ other = error) ∧
          ∀ fault,
            let outcome :=
              compileTokens runtime (TokenFeed.ofTokens tokens fault) (Sink.empty none)
            outcome.result = .error error ∧
              outcome.progress.sink.contents = beginning.written runtime) ∧
    ∀ (beginning : Beginning) (fault : Option ScanError), tokens = beginning.tokens →
      let outcome :=
        compileTokens runtime (TokenFeed.ofTokens tokens fault) (Sink.empty none)
      outcome.result = beginning.ending.atEnd fault ∧
        outcome.progress.sink.contents = beginning.written runtime := by
  refine ⟨viable_iff_beginning, viable_or_refused tokens, ?_, ?_⟩
  · intro beginning token rest same notViable
    subst same
    obtain ⟨error, steps⟩ := (beginning.not_viable_iff runtime token).mp notViable
    refine ⟨error, ?_, ?_⟩
    · intro other
      rw [← beginning.ending.step_eq_error_iff runtime, steps]
      constructor
      · intro same
        exact (Except.error.inj same).symm
      · intro same
        rw [same]
    · intro fault outcome
      obtain ⟨result, contents⟩ :=
        compileTokens_of_feed runtime (beginning.tokens ++ token :: rest) fault
      rw [Stage.run_append_of_ok (beginning.passes runtime),
        Stage.run_cons_of_fault steps] at result contents
      exact ⟨result, contents.trans (List.append_nil _)⟩
  · intro beginning fault same
    subst same
    exact beginning.compileTokens runtime fault

end Stencil
