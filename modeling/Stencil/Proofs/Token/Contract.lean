/-
Asking a token source.

A source may be advanced and asked for its token and its fault in any order.  While it goes
on it should report no fault, and once it has been advanced in vain it should give the same
answers for ever.  A lexer keeps to this.  A feed keeps to it from its first advance on, but
before that it shows no token and so reports the fault that it has.
-/

import Stencil.Proofs.Token.Delivery

namespace Stencil

inductive SourceCall where
  | advance
  | current
  | lastError
deriving DecidableEq

def SourceCall.early (calls : List SourceCall) : List SourceCall :=
  calls.takeWhile (· != .advance)

def SourceCall.late (calls : List SourceCall) : List SourceCall :=
  calls.dropWhile (· != .advance)

inductive SourceAnswer where
  | more (more : Bool)
  | token (token : Option Token)
  | fault (fault : Option ScanError)
deriving DecidableEq

namespace TokenSource

variable {σ : Type} [TokenSource σ]

def call (source : σ) : SourceCall → SourceAnswer × σ
  | .advance => (.more (advance source).1, (advance source).2)
  | .current => (.token (current source), source)
  | .lastError => (.fault (lastError source), source)

def answers (source : σ) : List SourceCall → List SourceAnswer
  | [] => []
  | next :: calls => (call source next).1 :: answers (call source next).2 calls

end TokenSource

def SourceAnswer.Final (fault : Option ScanError) (answer : SourceAnswer) : Prop :=
  answer = .more false ∨ answer = .token none ∨ answer = .fault fault

namespace TokenSource

/-- No fault is reported until an advance is in vain, and from then on all answers are
final. -/
structure Contract (fault : Option ScanError) (log : List SourceAnswer) : Prop where
  silent : ∀ earlier told later, log = earlier ++ .fault told :: later →
    .more false ∉ earlier → told = none
  final : ∀ earlier answer later, log = earlier ++ answer :: later →
    .more false ∈ earlier → answer.Final fault

namespace Contract

variable {fault : Option ScanError} {answer : SourceAnswer} {log : List SourceAnswer}

theorem nil : Contract fault [] where
  silent _ _ _ split := absurd split.symm (List.append_ne_nil_of_right_ne_nil _ nofun)
  final _ _ _ split := absurd split.symm (List.append_ne_nil_of_right_ne_nil _ nofun)

theorem cons (goesOn : answer ≠ .more false) (quiet : ∀ told, answer = .fault told → told = none)
    (contract : Contract fault log) : Contract fault (answer :: log) where
  silent := by
    intro earlier told later split notEnded
    cases earlier with
    | nil =>
        cases split
        exact quiet told rfl
    | cons first earlier =>
        cases split
        exact contract.silent _ _ _ rfl (List.not_mem_of_not_mem_cons notEnded)
  final := by
    intro earlier other later split ended
    cases earlier with
    | nil => cases ended
    | cons first earlier =>
        cases split
        exact contract.final _ _ _ rfl (List.mem_of_ne_of_mem goesOn.symm ended)

theorem of_cons (contract : Contract fault (answer :: log)) (goesOn : answer ≠ .more false) :
    Contract fault log where
  silent earlier told later split notEnded := by
    refine contract.silent (answer :: earlier) told later (congrArg _ split) ?_
    exact List.not_mem_cons_of_ne_of_not_mem goesOn.symm notEnded
  final earlier other later split ended :=
    contract.final (answer :: earlier) other later (congrArg _ split)
      (List.mem_cons_of_mem answer ended)

theorem ended (final : ∀ answer ∈ log, answer.Final fault) :
    Contract fault (.more false :: log) where
  silent := by
    intro earlier told later split notEnded
    cases earlier with
    | nil => cases split
    | cons first earlier =>
        cases split
        exact absurd List.mem_cons_self notEnded
  final := by
    intro earlier answer later split ended
    cases earlier with
    | nil => cases ended
    | cons first earlier =>
        cases split
        exact final answer (List.mem_append_right _ List.mem_cons_self)

end Contract

section Sources

variable {σ : Type} [TokenSource σ] {source : σ} {running : σ → Prop} {fault : Option ScanError}

structure Exhausted (fault : Option ScanError) (source : σ) : Prop where
  stays : advance source = (false, source)
  shows : current source = none
  reports : lastError source = fault

theorem Exhausted.final (exhausted : Exhausted fault source) (calls : List SourceCall) :
    ∀ answer ∈ answers source calls, answer.Final fault := by
  induction calls with
  | nil => nofun
  | cons next calls ih =>
      have stays : (call source next).2 = source := by
        cases next with
        | advance => exact congrArg Prod.snd exhausted.stays
        | current => rfl
        | lastError => rfl
      have first : (call source next).1.Final fault := by
        cases next with
        | advance => exact .inl (congrArg SourceAnswer.more (congrArg Prod.fst exhausted.stays))
        | current => exact .inr (.inl (congrArg SourceAnswer.token exhausted.shows))
        | lastError => exact .inr (.inr (congrArg SourceAnswer.fault exhausted.reports))
      rw [answers, stays]
      exact List.forall_mem_cons.mpr ⟨first, ih⟩

/-- An advance leaves a source running, or it was in vain and the source has ended. -/
structure Steps (running : σ → Prop) (fault : Option ScanError) (source : σ) : Prop where
  onward : (advance source).1 = true → running (advance source).2
  ends : (advance source).1 = false → Exhausted fault (advance source).2

structure Runs (running : σ → Prop) (fault : Option ScanError) : Prop where
  silent : ∀ {source}, running source → lastError source = none
  steps : ∀ {source}, running source → Steps running fault source

theorem Steps.contract {calls : List SourceCall} (steps : Steps running fault source)
    (later : ∀ source, running source → Contract fault (answers source calls)) :
    Contract fault (answers source (.advance :: calls)) := by
  change Contract fault (.more _ :: answers _ calls)
  cases more : (advance source).1 with
  | true => exact .cons nofun nofun (later _ (steps.onward more))
  | false => exact .ended ((steps.ends more).final calls)

theorem Runs.contract (runs : Runs running fault) (calls : List SourceCall) :
    ∀ source, running source → Contract fault (answers source calls) := by
  induction calls with
  | nil => exact fun _ _ => .nil
  | cons next calls ih =>
      intro source isRunning
      cases next with
      | advance => exact (runs.steps isRunning).contract ih
      | current => exact .cons nofun nofun (ih source isRunning)
      | lastError =>
          refine .cons nofun ?_ (ih source isRunning)
          rintro told ⟨⟩
          exact runs.silent isRunning

end Sources

end TokenSource

open TokenSource (answers Contract Steps Runs)

namespace Lexer

theorem current_of_ended (lexer : Lexer) (ended : lexer.advance.1 = false) :
    lexer.advance.2.current = none := by
  revert ended
  fun_cases Lexer.advance lexer with
  | case1 => exact fun _ => rfl
  | case2 => exact nofun
  | case3 => exact fun _ => rfl
  | case4 => exact fun _ => rfl
  | case5 => exact nofun
  | case6 => exact nofun

def Running (fault : Option ScanError) (lexer : Lexer) : Prop :=
  lexer.lastError = none ∧ ∃ tokens, Delivers lexer tokens fault

theorem runs (fault : Option ScanError) : Runs (Running fault) fault where
  silent isRunning := isRunning.1
  steps := by
    rintro lexer ⟨-, tokens, delivers⟩
    constructor
    · intro more
      obtain ⟨⟨token, shows⟩, silent⟩ := lexer.shows_of_more more
      have comes : (TokenSource.next lexer).1 = some token := (if_pos more).trans shows
      cases delivers with
      | ended stops reported =>
          rw [stops] at comes
          cases comes
      | pulled comes later => exact ⟨silent, _, later⟩
    · intro ended
      have stops : (TokenSource.next lexer).1 = none := if_neg (Bool.eq_false_iff.mp ended)
      cases delivers with
      | ended stops reported =>
          exact ⟨lexer.advance_advance_of_ended ended, lexer.current_of_ended ended, reported⟩
      | pulled comes later =>
          rw [stops] at comes
          cases comes

theorem contract (text : Text) (calls : List SourceCall) :
    Contract (TokenSource.drain (ofText text)).2.lastError (answers (ofText text) calls) := by
  obtain ⟨tokens, fault, delivers⟩ := Delivers.total (ofText text)
  rw [(drain_of_delivers delivers).2]
  exact (runs fault).contract calls _ ⟨rfl, tokens, delivers⟩

end Lexer

namespace TokenFeed

/-- A feed in which only tokens are left, and which shows a token unless it has no fault. -/
def Running (fault : Option ScanError) (feed : TokenFeed) : Prop :=
  feed.fault = fault ∧ (feed.current = none → fault = none) ∧
    ∃ tokens : List Token, feed.entries = tokens.map some

theorem steps (tokens : List Token) (current : Option Token) (fault : Option ScanError) :
    Steps (Running fault) fault (⟨tokens.map some, current, fault⟩ : TokenFeed) := by
  cases tokens with
  | nil => exact ⟨nofun, fun _ => ⟨rfl, rfl, rfl⟩⟩
  | cons token tokens => exact ⟨fun _ => ⟨rfl, nofun, tokens, rfl⟩, nofun⟩

theorem runs (fault : Option ScanError) : Runs (Running fault) fault where
  silent := by
    rintro ⟨entries, current, fault⟩ ⟨rfl, shows, -⟩
    cases current with
    | none => exact shows rfl
    | some token => rfl
  steps := by
    rintro ⟨_, current, _⟩ ⟨rfl, -, tokens, rfl⟩
    exact steps tokens current _

theorem contract_of_advance (tokens : List Token) (fault : Option ScanError)
    (calls : List SourceCall) :
    Contract fault (answers (ofTokens tokens fault) (.advance :: calls)) :=
  (steps tokens none fault).contract ((runs fault).contract calls)

theorem contract_of_no_fault (tokens : List Token) (calls : List SourceCall) :
    Contract none (answers (ofTokens tokens none) calls) :=
  (runs none).contract calls _ ⟨rfl, fun _ => rfl, tokens, rfl⟩

theorem contract_of_quiet (tokens : List Token) (fault : Option ScanError)
    {calls : List SourceCall} (quiet : .lastError ∉ SourceCall.early calls) :
    Contract fault (answers (ofTokens tokens fault) calls) := by
  induction calls with
  | nil => exact .nil
  | cons next calls ih =>
      cases next with
      | advance => exact contract_of_advance tokens fault calls
      | current => exact .cons nofun nofun (ih (List.not_mem_of_not_mem_cons quiet))
      | lastError => exact absurd List.mem_cons_self quiet

/-- Asked for its fault before it is advanced, a feed reports the fault that it has. -/
theorem no_fault_of_contract (tokens : List Token) (fault : Option ScanError)
    {fixed : Option ScanError} {calls : List SourceCall}
    (contract : Contract fixed (answers (ofTokens tokens fault) calls))
    (asked : .lastError ∈ SourceCall.early calls) : fault = none := by
  induction calls with
  | nil => cases asked
  | cons next calls ih =>
      cases next with
      | advance => cases asked
      | current =>
          cases asked with
          | tail _ later => exact ih (contract.of_cons nofun) later
      | lastError => exact contract.silent [] _ _ rfl nofun

theorem answers_early (tokens : List Token) (fault : Option ScanError)
    (calls : List SourceCall) :
    answers (ofTokens tokens fault) calls =
      ((SourceCall.early calls).map fun call =>
          if call = .lastError then .fault fault else .token none) ++
        answers (ofTokens tokens fault) (SourceCall.late calls) := by
  induction calls with
  | nil => rfl
  | cons next calls ih =>
      cases next with
      | advance => rfl
      | current => exact congrArg (SourceAnswer.token none :: ·) ih
      | lastError => exact congrArg (SourceAnswer.fault fault :: ·) ih

theorem contract_of_late (tokens : List Token) (fault : Option ScanError)
    (calls : List SourceCall) :
    Contract fault (answers (ofTokens tokens fault) (SourceCall.late calls)) := by
  induction calls with
  | nil => exact .nil
  | cons next calls ih =>
      cases next with
      | advance => exact contract_of_advance tokens fault calls
      | current => exact ih
      | lastError => exact ih

end TokenFeed

/-- The answers of a lexer keep to the contract.  Those of a feed do so just if it has no fault
or is not asked for one before it is advanced, and then it gives its own fault in the end.  In
any case a feed answers with its fault, and shows no token, before it is advanced, and keeps to
the contract from then on. -/
theorem sources_keep_contract (text : Text) (tokens : List Token) (fault : Option ScanError)
    (calls : List SourceCall) :
    let feed := TokenFeed.ofTokens tokens fault
    let meets := fault = none ∨ .lastError ∉ SourceCall.early calls
    Contract (TokenSource.drain (Lexer.ofText text)).2.lastError
        (answers (Lexer.ofText text) calls) ∧
      ((∃ fixed, Contract fixed (answers feed calls)) ↔ meets) ∧
      (meets → Contract fault (answers feed calls)) ∧
      answers feed calls =
        ((SourceCall.early calls).map fun call =>
            if call = .lastError then .fault fault else .token none) ++
          answers feed (SourceCall.late calls) ∧
      Contract fault (answers feed (SourceCall.late calls)) := by
  intro feed meets
  have keeps (isMet : meets) : Contract fault (answers feed calls) := by
    rcases isMet with rfl | quiet
    · exact TokenFeed.contract_of_no_fault tokens calls
    · exact TokenFeed.contract_of_quiet tokens fault quiet
  refine ⟨Lexer.contract text calls, ⟨?_, fun isMet => ⟨fault, keeps isMet⟩⟩, keeps,
    TokenFeed.answers_early tokens fault calls, TokenFeed.contract_of_late tokens fault calls⟩
  rintro ⟨fixed, contract⟩
  by_cases asked : .lastError ∈ SourceCall.early calls
  · exact Or.inl (TokenFeed.no_fault_of_contract tokens fault contract asked)
  · exact Or.inr asked

/-- Asked for its fault before its first advance, a feed reports it, and denies it while it
shows its token. -/
theorem feed_reports_fault_early :
    let fault : Option ScanError := some (.unterminatedTag ⟨1, 1⟩)
    let feed := TokenFeed.ofTokens [⟨.text, ['x'], ⟨1, 1⟩⟩] fault
    answers feed [.lastError, .advance, .lastError] = [.fault fault, .more true, .fault none] ∧
      ¬ ∃ fixed, Contract fixed (answers feed [.lastError, .advance, .lastError]) := by
  intro fault feed
  refine ⟨rfl, ?_⟩
  rintro ⟨fixed, contract⟩
  cases contract.silent [] _ _ rfl nofun

end Stencil
