/-
Repeated compilations of one source.

A compilation looks at its source only through what pulling gives.  So two sources in
lockstep give the same results into sinks that hold the same, run after run, and they are
in lockstep again where the runs leave them.  A lexer is thus interchangeable with a feed of
its tokens.

A compilation reads the entries of its source in order and stops at a place that its result
tells: behind the token that a refusal names, or behind the first gap, which is the end of
the source for this compilation only.  What it has left is what the next compilation reads,
and nothing else of it is kept.
-/

import Stencil.Proofs.Compilation.Refusal

namespace Stencil

/-- Sinks with the same contents and the same room, whatever the pieces are. -/
structure Sink.Alike (sink other : Sink) : Prop where
  contents : sink.contents = other.contents
  room : sink.room = other.room

namespace Sink.Alike

variable {sink other : Sink}

theorem write_fst (alike : sink.Alike other) (text : Text) :
    (sink.write text).1 = (other.write text).1 := by
  apply Bool.eq_iff_iff.mpr
  rw [Sink.write_fst_eq_true_iff, Sink.write_fst_eq_true_iff, alike.room]

theorem write_snd (alike : sink.Alike other) (text : Text) :
    (sink.write text).2.Alike (other.write text).2 := by
  obtain ⟨room, pieces⟩ := sink
  obtain ⟨_, others⟩ := other
  obtain ⟨contents, rfl⟩ := alike
  constructor
  · rw [Sink.contents_write, Sink.contents_write, contents]
  · cases room with
    | none => rfl
    | some room =>
        unfold Sink.write
        by_cases fits : text.length ≤ room
        · simp only [if_pos fits]
        · simp only [if_neg fits]

theorem cleared_eq (alike : sink.Alike other) : sink.cleared = other.cleared := by
  unfold Sink.cleared
  rw [alike.room]

end Sink.Alike

section Lockstep

variable {σ τ : Type} [TokenSource σ] [TokenSource τ] {related : σ → τ → Prop}

structure Outcome.Agrees (related : σ → τ → Prop) (outcome : Outcome σ Unit)
    (other : Outcome τ Unit) : Prop where
  result : outcome.result = other.result
  sinks : outcome.progress.sink.Alike other.progress.sink
  sources : related outcome.progress.source other.progress.source
  reported : TokenSource.lastError outcome.progress.source =
    TokenSource.lastError other.progress.source

theorem Progress.Behind.agrees (lockstep : Lockstep related)
    {progress behind : Progress σ} {other otherBehind : Progress τ} {code : Text}
    (sources : related progress.source other.source) (sinks : progress.sink.Alike other.sink)
    (isBehind : progress.Behind behind code) (otherIsBehind : other.Behind otherBehind code)
    (result : Except CompileError Unit) :
    Outcome.Agrees related ⟨result, behind⟩ ⟨result, otherBehind⟩ where
  result := rfl
  sinks := by
    have written := sinks.write_snd code
    constructor
    · exact isBehind.contents.trans (written.contents.trans otherIsBehind.contents.symm)
    · exact isBehind.room.trans (written.room.trans otherIsBehind.room.symm)
  sources := by
    rw [isBehind.source, otherIsBehind.source]
    exact lockstep.later sources
  reported := by
    rw [isBehind.source, otherIsBehind.source]
    exact lockstep.fault sources

/-- Resumed at one stage, compilations of sources in lockstep agree. -/
theorem Stage.resume_agrees (lockstep : Lockstep related) (runtime : Text) (stage : Stage)
    {progress : Progress σ} {other : Progress τ}
    (sources : related progress.source other.source)
    (sinks : progress.sink.Alike other.sink) :
    Outcome.Agrees related (stage.resume runtime progress) (stage.resume runtime other) := by
  -- The induction is on what the source of one side delivers; the other side delivers it too.
  obtain ⟨tokens, fault, delivers⟩ := Delivers.total progress.source
  generalize hSource : progress.source = source at delivers
  have same : progress.pull.1 = other.pull.1 := lockstep.token sources
  induction delivers generalizing stage progress other with
  | ended stops reported =>
      subst hSource
      rw [resume_of_end runtime stage stops, resume_of_end runtime stage (same.symm.trans stops)]
      have faults : TokenSource.lastError progress.pull.2.source =
          TokenSource.lastError other.pull.2.source := lockstep.fault sources
      rw [faults]
      exact Progress.Behind.agrees lockstep sources sinks (behind_of_silence progress)
        (behind_of_silence other) _
  | @pulled source token tokens fault comes later ih =>
      subst hSource
      have otherComes : other.pull.1 = some token := same.symm.trans comes
      cases steps : stage.step runtime token with
      | error fault =>
          rw [resume_of_fault comes steps, resume_of_fault otherComes steps]
          exact Progress.Behind.agrees lockstep sources sinks (behind_of_silence progress)
            (behind_of_silence other) _
      | ok given =>
          obtain ⟨code, next⟩ := given
          obtain ⟨behind, isBehind, resumed⟩ := resume_of_step comes steps
          obtain ⟨otherBehind, otherIsBehind, otherResumed⟩ := resume_of_step otherComes steps
          have agrees := Progress.Behind.agrees lockstep sources sinks isBehind otherIsBehind
          rw [resumed, otherResumed, sinks.write_fst code]
          by_cases fits : (other.sink.write code).1 = true
          · rw [if_pos fits, if_pos fits]
            have here := agrees (.ok ())
            exact ih next here.sources here.sinks isBehind.source
              (lockstep.token here.sources)
          · rw [if_neg fits, if_neg fits]
            exact agrees _

theorem compileTokens_agrees (lockstep : Lockstep related) (runtime : Text)
    {source : σ} {other : τ} (sources : related source other) (sink : Sink) :
    Outcome.Agrees related (compileTokens runtime source sink)
      (compileTokens runtime other sink) :=
  Stage.resume_agrees lockstep runtime (.item .topLevel) sources ⟨rfl, rfl⟩

/-- Runs over sources in lockstep give the same records and leave the sources in lockstep;
the sources report the same fault as soon as something has been pulled. -/
theorem compileRuns_of_lockstep (lockstep : Lockstep related) (runtime : Text) (runs : Nat)
    {source : σ} {other : τ} {sink otherSink : Sink} (sources : related source other)
    (sinks : sink.Alike otherSink) :
    (compileRuns runtime runs source sink).1 = (compileRuns runtime runs other otherSink).1 ∧
      related (compileRuns runtime runs source sink).2
        (compileRuns runtime runs other otherSink).2 ∧
      (runs ≠ 0 → TokenSource.lastError (compileRuns runtime runs source sink).2 =
        TokenSource.lastError (compileRuns runtime runs other otherSink).2) := by
  induction runs generalizing source other sink otherSink with
  | zero => exact ⟨rfl, sources, fun more => absurd rfl more⟩
  | succ runs ih =>
      have first := compileTokens_agrees lockstep runtime sources sink.cleared
      obtain ⟨records, left, reported⟩ := ih first.sources first.sinks
      simp only [compileRuns]
      rw [← sinks.cleared_eq]
      refine ⟨?_, left, fun _ => ?_⟩
      · rw [first.result, first.sinks.contents, records]
      · cases runs with
        | zero => exact first.reported
        | succ runs => exact reported (Nat.succ_ne_zero runs)

/-- A lexer and a feed of the tokens that the lexer drains, with the lexer's fault, are
interchangeable: any number of runs into a sink of any room give the same results and add
the same text, the same tokens are left, and the same fault is reported behind them, and
also where the runs end. -/
theorem compileRuns_lexer_eq_feed (source : Text) :
    let drained := TokenSource.drain (Lexer.ofText source)
    ∃ tokens, drained.1 = tokens.map some ∧
      ∀ (runtime : Text) (room : Option Nat) (runs : Nat),
        let overText := compileRuns runtime runs (Lexer.ofText source) (Sink.empty room)
        let overTokens := compileRuns runtime runs
          (TokenFeed.ofTokens tokens drained.2.lastError) (Sink.empty room)
        overText.1 = overTokens.1 ∧
          (TokenSource.drain overText.2).1 = (TokenSource.drain overTokens.2).1 ∧
          (TokenSource.drain overText.2).2.lastError =
            (TokenSource.drain overTokens.2).2.lastError ∧
          (runs ≠ 0 → overText.2.lastError = overTokens.2.lastError) := by
  obtain ⟨tokens, fault, delivers⟩ := Delivers.total (Lexer.ofText source)
  obtain ⟨drained, reported⟩ := Lexer.drain_of_delivers delivers
  refine ⟨tokens, drained, fun runtime room runs => ?_⟩
  rw [reported]
  have start : (Lexer.ofText source).Matches (TokenFeed.ofTokens tokens fault) :=
    ⟨tokens, rfl, delivers⟩
  obtain ⟨records, left, faults⟩ := compileRuns_of_lockstep Lexer.lockstep_matches runtime runs
    start (⟨rfl, rfl⟩ : (Sink.empty room).Alike (Sink.empty room))
  obtain ⟨tokensLeft, faultBehind⟩ := Lexer.drain_of_matches left
  exact ⟨records, tokensLeft, faultBehind, faults⟩

end Lockstep

/-! ### What the runs read -/

def ReadsTo (token : Token) (read : List (Option Token)) : Prop :=
  ∃ earlier : List Token, read = earlier.map some ++ [some token]

/-- Everything up to the first gap was read, and the gap; or everything there was. -/
def ReadsToGap (read left : List (Option Token)) : Prop :=
  ∃ tokens : List Token,
    read = tokens.map some ++ [none] ∨ (read = tokens.map some ∧ left = [])

/-- Which entries a compilation with a given result has read, and which it has left. -/
def Stops (result : Except CompileError Unit) (read left : List (Option Token)) : Prop :=
  match result with
  | .ok () => ReadsToGap read left
  | .error (.missingToken _ _) => ReadsToGap read left
  | .error (.unclosedFunc _ _) => ReadsToGap read left
  | .error (.scan _) => ReadsToGap read left
  | .error (.unexpectedTag tag _ position) => ReadsTo ⟨.tagName, tag, position⟩ read
  | .error (.unexpectedToken kind value _ _ position) => ReadsTo ⟨kind, value, position⟩ read
  | .error (.signature cause position) => ReadsTo ⟨.tagContents, cause.raw, position⟩ read
  | .error .emit => ∃ tokens : List Token, read = tokens.map some

theorem ReadsTo.cons {token : Token} {read : List (Option Token)} (first : Token)
    (reads : ReadsTo token read) : ReadsTo token (some first :: read) := by
  obtain ⟨earlier, rfl⟩ := reads
  exact ⟨first :: earlier, rfl⟩

theorem ReadsToGap.cons {read left : List (Option Token)} (first : Token)
    (reads : ReadsToGap read left) : ReadsToGap (some first :: read) left := by
  obtain ⟨tokens, rfl | ⟨rfl, nothingLeft⟩⟩ := reads
  · exact ⟨first :: tokens, Or.inl rfl⟩
  · exact ⟨first :: tokens, Or.inr ⟨rfl, nothingLeft⟩⟩

theorem Stops.cons {result : Except CompileError Unit} {read left : List (Option Token)}
    (first : Token) (stops : Stops result read left) :
    Stops result (some first :: read) left := by
  cases result with
  | ok done => exact ReadsToGap.cons first stops
  | error fault =>
      cases fault with
      | unexpectedTag tag context position => exact ReadsTo.cons first stops
      | unexpectedToken found value expected context position =>
          exact ReadsTo.cons first stops
      | missingToken expected after => exact ReadsToGap.cons first stops
      | unclosedFunc name position => exact ReadsToGap.cons first stops
      | signature cause position => exact ReadsTo.cons first stops
      | scan fault => exact ReadsToGap.cons first stops
      | emit =>
          obtain ⟨tokens, rfl⟩ := stops
          exact ⟨first :: tokens, rfl⟩

namespace Stage

theorem stops_finish (stage : Stage) (fault : Option ScanError)
    {read left : List (Option Token)} (reads : ReadsToGap read left) :
    Stops (stage.finish fault) read left := by
  cases fault with
  | some fault =>
      cases stage with
      | item block => cases block <;> exact reads
      | _ => exact reads
  | none =>
      cases stage with
      | item block => cases block <;> exact reads
      | _ => exact reads

theorem stops_of_fault {runtime : Text} {stage : Stage} {token : Token}
    {fault : CompileError} (steps : stage.step runtime token = .error fault)
    (left : List (Option Token)) : Stops (.error fault) [some token] left := by
  obtain ⟨kind, value, position⟩ := token
  have here : ReadsTo ⟨kind, value, position⟩ [some ⟨kind, value, position⟩] := ⟨[], rfl⟩
  cases stage with
  | item block =>
      rcases (Block.begin_eq_error_iff _ _ _).mp steps with
        ⟨rfl, _, rfl⟩ | ⟨rfl, rfl⟩
      · exact here
      · exact here
  | inline block tag name =>
      rcases (Token.asContents_eq_error_iff _ _ _ _).mp steps with
        ⟨_, rfl⟩ | ⟨_, accepted⟩
      · exact here
      · cases accepted
  | opening name =>
      rcases (Token.asContents_eq_error_iff _ _ _ _).mp steps with
        ⟨_, rfl⟩ | ⟨isContents, refused⟩
      · exact here
      · obtain ⟨cause, splits, rfl⟩ := (openBlock_eq_error_iff _ _ _).mp refused
        cases isContents
        cases Signature.raw_of_split splits
        exact here
  | closing signature name =>
      rcases (Token.asContents_eq_error_iff _ _ _ _).mp steps with
        ⟨_, rfl⟩ | ⟨_, accepted⟩
      · exact here
      · cases accepted

end Stage

structure TokenFeed.Reads (before after : TokenFeed) (read : List (Option Token)) : Prop where
  entries : before.entries = read ++ after.entries
  fault : after.fault = before.fault

theorem TokenFeed.Reads.cons {token : Token} {rest : List (Option Token)}
    {current : Option Token} {fault : Option ScanError} {after : TokenFeed}
    {read : List (Option Token)}
    (later : (TokenFeed.mk rest (some token) fault).Reads after read) :
    (TokenFeed.mk (some token :: rest) current fault).Reads after (some token :: read) where
  entries := congrArg (some token :: ·) later.entries
  fault := later.fault

/-- What a compilation of a feed has read, wherever it is resumed, ends where its result
says. -/
theorem Stage.resume_reads (runtime : Text) (stage : Stage) (progress : Progress TokenFeed) :
    let outcome := stage.resume runtime progress
    ∃ read, progress.source.Reads outcome.progress.source read ∧
      Stops outcome.result read outcome.progress.source.entries := by
  obtain ⟨⟨entries, current, fault⟩, sink, openings⟩ := progress
  induction entries generalizing stage current sink openings with
  | nil =>
      rw [resume_of_end runtime stage rfl]
      exact ⟨[], ⟨rfl, rfl⟩, stage.stops_finish _ ⟨[], Or.inr ⟨rfl, rfl⟩⟩⟩
  | cons entry rest ih =>
      cases entry with
      | none =>
          rw [resume_of_end runtime stage rfl]
          exact ⟨[none], ⟨rfl, rfl⟩, stage.stops_finish _ ⟨[], Or.inl rfl⟩⟩
      | some token =>
          cases steps : stage.step runtime token with
          | error error =>
              rw [resume_of_fault rfl steps]
              exact ⟨[some token], ⟨rfl, rfl⟩, stops_of_fault steps _⟩
          | ok given =>
              obtain ⟨code, next⟩ := given
              let before : Progress TokenFeed :=
                ⟨⟨some token :: rest, current, fault⟩, sink, openings⟩
              have comes : before.pull.1 = some token := rfl
              obtain ⟨⟨source, taken, opened⟩, isBehind, resumed⟩ := resume_of_step comes steps
              cases isBehind.source
              rw [resumed]
              by_cases fits : (sink.write code).1 = true
              · rw [if_pos fits]
                obtain ⟨read, reads, stops⟩ := ih next taken opened (some token)
                exact ⟨some token :: read, reads.cons, stops.cons token⟩
              · rw [if_neg fits]
                exact ⟨[some token], ⟨rfl, rfl⟩, [token], rfl⟩

theorem compileTokens_reads (runtime : Text) (feed : TokenFeed) (sink : Sink) :
    let outcome := compileTokens runtime feed sink
    ∃ read, feed.Reads outcome.progress.source read ∧
      Stops outcome.result read outcome.progress.source.entries :=
  Stage.resume_reads runtime (.item .topLevel) ⟨feed, sink, []⟩

/-- The entry that a feed has delivered last is gone for a compilation of what is left. -/
theorem compileTokens_eq_fresh (runtime : Text) (feed : TokenFeed) (sink : Sink) :
    compileTokens runtime feed sink =
      compileTokens runtime (TokenFeed.ofEntries feed.entries feed.fault) sink := by
  obtain ⟨entries, current, fault⟩ := feed
  unfold compileTokens
  cases entries with
  | nil => rw [compileBlock_of_end rfl, compileBlock_of_end rfl]; rfl
  | cons entry rest =>
      cases entry with
      | none => rw [compileBlock_of_end rfl, compileBlock_of_end rfl]; rfl
      | some token => rw [compileBlock_of_next rfl, compileBlock_of_next rfl]; rfl

/-- Records of compilations that take turns on the entries of one source.  Each is the
first compilation over what the earlier ones left, with no more than the room that they
left in the sink, and reads the entries of its turn. -/
inductive TakeTurns (runtime : Text) (fault : Option ScanError) (left : List (Option Token)) :
    Option Nat → List (List (Option Token)) → List RunRecord → Prop
  | done (room : Option Nat) : TakeTurns runtime fault left room [] []
  | turn {room : Option Nat} {read : List (Option Token)} {reads : List (List (Option Token))}
      {records : List RunRecord} {outcome : Outcome TokenFeed Unit}
      (fresh : outcome = compileTokens runtime
        (TokenFeed.ofEntries (read ++ (reads.flatten ++ left)) fault) (Sink.empty room))
      (stops : Stops outcome.result read (reads.flatten ++ left))
      (later : TakeTurns runtime fault left outcome.progress.sink.room reads records) :
      TakeTurns runtime fault left room (read :: reads)
        (⟨outcome.result, outcome.progress.sink.contents⟩ :: records)

/-- Some compilations of a source take turns on its entries.  After the first few of them the
source still delivers the turns of the others, and then the entries that all of them leave. -/
structure TurnsOver {σ : Type} [TokenSource σ] (runtime : Text) (runs : Nat) (source : σ)
    (sink : Sink) (reads : List (List (Option Token))) (left : List (Option Token)) : Prop where
  entries : (TokenSource.drain source).1 = reads.flatten ++ left
  later : ∀ count ≤ runs,
    (TokenSource.drain (compileRuns runtime count source sink).2).1 =
      (reads.drop count).flatten ++ left
  turns : TakeTurns runtime (TokenSource.lastError (TokenSource.drain source).2) left sink.room
    reads (compileRuns runtime runs source sink).1

theorem TokenFeed.drain_entries (feed : TokenFeed) :
    (TokenSource.drain feed).1 = feed.entries := by
  rw [TokenFeed.drain_eq]

theorem TokenFeed.drain_fault (feed : TokenFeed) :
    TokenSource.lastError (TokenSource.drain feed).2 = feed.fault := by
  rw [TokenFeed.drain_eq]
  rfl

theorem TokenFeed.turnsOver (runtime : Text) (runs : Nat) (feed : TokenFeed) (sink : Sink) :
    ∃ reads, TurnsOver runtime runs feed sink reads
      (compileRuns runtime runs feed sink).2.entries := by
  induction runs generalizing feed sink with
  | zero =>
      refine ⟨[], feed.drain_entries, ?_, .done _⟩
      intro count few
      cases Nat.le_zero.mp few
      exact feed.drain_entries
  | succ runs ih =>
      let outcome := compileTokens runtime feed sink.cleared
      let left := (compileRuns runtime runs outcome.progress.source outcome.progress.sink).2.entries
      change ∃ reads, TurnsOver runtime (runs + 1) feed sink reads left
      obtain ⟨read, reads, stops⟩ := compileTokens_reads runtime feed sink.cleared
      obtain ⟨others, turns⟩ := ih outcome.progress.source outcome.progress.sink
      have behind : outcome.progress.source.entries = others.flatten ++ left :=
        outcome.progress.source.drain_entries.symm.trans turns.entries
      have all : feed.entries = read ++ (others.flatten ++ left) :=
        reads.entries.trans (congrArg (read ++ ·) behind)
      refine ⟨read :: others, ?_, ?_, ?_⟩
      · rw [feed.drain_entries, List.flatten_cons, List.append_assoc]
        exact all
      · intro count few
        cases count with
        | zero =>
            rw [List.drop_zero, List.flatten_cons, List.append_assoc]
            exact feed.drain_entries.trans all
        | succ count => exact turns.later count (Nat.le_of_succ_le_succ few)
      · have rest := turns.turns
        have fault : outcome.progress.source.fault = feed.fault := reads.fault
        rw [TokenFeed.drain_fault] at rest ⊢
        rw [fault] at rest
        have fresh := compileTokens_eq_fresh runtime feed sink.cleared
        rw [all] at fresh
        have here : Stops outcome.result read (others.flatten ++ left) := behind ▸ stops
        exact TakeTurns.turn fresh here rest

/-- No entry of a source is lost, skipped or read twice by repeated compilations of it:
what they read in turn, followed by what is still delivered behind them, is what the source
delivers.  Each of them stops where its result tells, and is the first compilation over what
it finds. -/
theorem compileRuns_take_turns (runtime : Text) (runs : Nat) (sink : Sink) :
    (∀ lexer : Lexer, ∃ reads, TurnsOver runtime runs lexer sink reads
      (TokenSource.drain (compileRuns runtime runs lexer sink).2).1) ∧
    ∀ feed : TokenFeed, ∃ reads, TurnsOver runtime runs feed sink reads
      (TokenSource.drain (compileRuns runtime runs feed sink).2).1 := by
  constructor
  · intro lexer
    obtain ⟨tokens, fault, delivers⟩ := Delivers.total lexer
    have start : lexer.Matches (TokenFeed.ofTokens tokens fault) := ⟨tokens, rfl, delivers⟩
    obtain ⟨reads, turns⟩ := (TokenFeed.ofTokens tokens fault).turnsOver runtime runs sink
    have same := fun count =>
      compileRuns_of_lockstep Lexer.lockstep_matches runtime count start
        (⟨rfl, rfl⟩ : sink.Alike sink)
    have delivered := fun count => (Lexer.drain_of_matches (same count).2.1).1
    obtain ⟨entries, reported⟩ := Lexer.drain_of_matches start
    have left := (delivered runs).trans (TokenFeed.drain_entries _)
    refine ⟨reads, entries.trans ?_, ?_, ?_⟩
    · rw [left]
      exact turns.entries
    · intro count few
      rw [left]
      exact (delivered count).trans (turns.later count few)
    · rw [left, (same runs).1]
      have faults : TokenSource.lastError (TokenSource.drain lexer).2 =
          TokenSource.lastError (TokenSource.drain (TokenFeed.ofTokens tokens fault)).2 :=
        reported
      rw [faults]
      exact turns.turns
  · intro feed
    rw [TokenFeed.drain_entries]
    exact feed.turnsOver runtime runs sink

end Stencil
