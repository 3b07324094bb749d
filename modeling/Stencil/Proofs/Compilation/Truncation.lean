/-
Compilations into sinks with bounded room.

Each token gives a piece of code, and the pieces are written one after another.  While they
fit into the room, a compilation goes on as it would with an unbounded sink.  The first piece
that does not fit ends it: the sink is full, and the source stands behind the token of that
piece, from where the other compilation reads on.
-/

import Mathlib.Data.List.Basic
import Stencil.Proofs.Compilation.Acceptance

namespace Stencil

/-- Advancing a source gives some entries and takes it to another state.  At its end a source
may be advanced in vain. -/
inductive TokenSource.Gives {σ : Type} [TokenSource σ] :
    σ → List (Option Token) → σ → Prop
  | nothing (source : σ) : Gives source [] source
  | entry {source last : σ} {entries : List (Option Token)}
      (more : (TokenSource.advance source).1 = true)
      (later : Gives (TokenSource.advance source).2 entries last) :
      Gives source (TokenSource.current (TokenSource.advance source).2 :: entries) last
  | vain {source last : σ} {entries : List (Option Token)}
      (noMore : (TokenSource.advance source).1 = false)
      (later : Gives (TokenSource.advance source).2 entries last) :
      Gives source entries last

namespace TokenSource

variable {σ : Type} [TokenSource σ] {source middle last : σ}
  {entries others : List (Option Token)}

theorem Gives.append (first : Gives source entries middle) (second : Gives middle others last) :
    Gives source (entries ++ others) last := by
  induction first with
  | nothing source => exact second
  | entry more later ih => exact .entry more (ih second)
  | vain noMore later ih => exact .vain noMore (ih second)

theorem Gives.of_next {token : Token} (comes : (next source).1 = some token)
    (later : Gives (next source).2 entries last) : Gives source (some token :: entries) last := by
  have more := more_of_next comes
  have shown : current (advance source).2 = some token := by
    rw [← comes]
    exact (if_pos more).symm
  rw [← shown]
  exact .entry more later

theorem Gives.of_pull (source : σ) : ∃ entries, Gives source entries (next source).2 := by
  cases more : (advance source).1 with
  | true => exact ⟨_, .entry more (.nothing _)⟩
  | false => exact ⟨[], .vain more (.nothing _)⟩

end TokenSource

open TokenSource (Gives)

variable {σ : Type} [TokenSource σ]

theorem Stage.resume_gives (runtime : Text) (stage : Stage) (progress : Progress σ) :
    ∃ entries, Gives progress.source entries (stage.resume runtime progress).progress.source := by
  obtain ⟨tokens, fault, delivers⟩ := Delivers.total progress.source
  generalize hSource : progress.source = source at delivers
  induction delivers generalizing stage progress with
  | ended stops =>
      subst hSource
      rw [resume_of_end runtime stage stops]
      exact Gives.of_pull _
  | @pulled source token tokens fault comes later ih =>
      subst hSource
      have one : Gives progress.source [some token] (TokenSource.next progress.source).2 :=
        .of_next comes (.nothing _)
      cases steps : stage.step runtime token with
      | error fault =>
          rw [resume_of_fault comes steps]
          exact ⟨[some token], one⟩
      | ok given =>
          obtain ⟨code, next⟩ := given
          obtain ⟨behind, isBehind, resumed⟩ := resume_of_step comes steps
          have source : behind.source = (TokenSource.next progress.source).2 := isBehind.source
          rw [resumed]
          by_cases fits : (progress.sink.write code).1 = true
          · rw [if_pos fits]
            obtain ⟨entries, gives⟩ := ih next behind source
            exact ⟨some token :: entries, one.append gives⟩
          · rw [if_neg fits, source]
            exact ⟨[some token], one⟩

/-- The code for some tokens fits into a room, and no longer with one more token. -/
structure Stage.Crosses (runtime : Text) (stage : Stage) (room : Nat) (tokens : List Token)
    (crossing : Token) : Prop where
  early : (stage.run runtime tokens).1.length ≤ room
  late : room < (stage.run runtime (tokens ++ [crossing])).1.length

namespace Stage

section Steps

variable {runtime code : Text} {stage next : Stage} {token : Token} {room : Nat}

theorem Crosses.cons {tokens : List Token} {crossing : Token}
    (steps : stage.step runtime token = .ok (code, next)) (fits : code.length ≤ room)
    (crosses : next.Crosses runtime (room - code.length) tokens crossing) :
    stage.Crosses runtime room (token :: tokens) crossing := by
  obtain ⟨early, late⟩ := crosses
  constructor
  · rw [run_cons_of_step steps, List.length_append]
    omega
  · rw [List.cons_append, run_cons_of_step steps, List.length_append]
    omega

theorem Crosses.here (steps : stage.step runtime token = .ok (code, next))
    (tooLong : room < code.length) : stage.Crosses runtime room [] token where
  early := Nat.zero_le room
  late := by
    rw [List.nil_append, run_cons_of_step steps, List.length_append]
    exact Nat.lt_of_lt_of_le tooLong (Nat.le_add_right _ _)

theorem code_of_name (steps : stage.step runtime token = .ok (code, next)) :
    (token.kind = .tagName → code = []) ∧
      (token.kind ≠ .tagName → ∃ block, next = .item block) := by
  have notName (isContents : token.kind = .tagContents) : token.kind ≠ .tagName := by
    rw [isContents]
    decide
  cases stage with
  | item block =>
      simp only [step, Block.begin] at steps
      cases kind : token.kind with
      | text =>
          rw [kind] at steps
          cases steps
          exact ⟨fun isName => absurd isName (by decide), fun _ => ⟨block, rfl⟩⟩
      | tagContents =>
          rw [kind] at steps
          cases steps
      | tagName =>
          rw [kind] at steps
          cases behind : block.behindName (Tag.ofName? token.value) token.position with
          | none =>
              rw [behind] at steps
              cases steps
          | some stage =>
              rw [behind] at steps
              cases steps
              exact ⟨fun _ => rfl, fun notName => absurd rfl notName⟩
  | inline block tag name =>
      obtain ⟨isContents, accepted⟩ := Token.asContents_eq_ok steps
      cases accepted
      exact ⟨fun isName => absurd isName (notName isContents), fun _ => ⟨_, rfl⟩⟩
  | opening name =>
      obtain ⟨isContents, accepted⟩ := Token.asContents_eq_ok steps
      obtain ⟨signature, -, opened⟩ := openBlock_eq_ok accepted
      cases opened
      exact ⟨fun isName => absurd isName (notName isContents), fun _ => ⟨_, rfl⟩⟩
  | closing signature name =>
      obtain ⟨isContents, accepted⟩ := Token.asContents_eq_ok steps
      cases accepted
      exact ⟨fun isName => absurd isName (notName isContents), fun _ => ⟨_, rfl⟩⟩

theorem not_contents_of_item {block : Block}
    (steps : (item block).step runtime token = .ok (code, next)) : token.kind ≠ .tagContents := by
  intro isContents
  simp only [step, Block.begin, isContents] at steps
  cases steps

end Steps

theorem exists_stage_of_run {runtime code : Text} {stage last : Stage} {first : List Token}
    {token : Token} (runs : stage.run runtime (first ++ [token]) = (code, .ok last)) :
    ∃ before middle given, stage.run runtime first = (before, .ok middle) ∧
      middle.step runtime token = .ok (given, last) := by
  cases ran : stage.run runtime first with
  | mk before result =>
      cases result with
      | error fault =>
          rw [run_append_of_fault ran] at runs
          cases runs
      | ok middle =>
          rw [run_append_of_ok ran] at runs
          cases steps : middle.step runtime token with
          | error fault =>
              rw [run_cons_of_fault steps] at runs
              cases runs
          | ok given =>
              obtain ⟨code, next⟩ := given
              rw [run_cons_of_step steps] at runs
              cases runs
              exact ⟨before, middle, code, rfl, steps⟩

theorem exists_name_of_contents {runtime before code : Text} {block : Block} {last next : Stage}
    {tokens : List Token} {token : Token}
    (runs : (item block).run runtime tokens = (before, .ok last))
    (steps : last.step runtime token = .ok (code, next)) (isContents : token.kind = .tagContents) :
    ∃ earlier name, tokens = earlier ++ [name] ∧ name.kind = .tagName := by
  rcases List.eq_nil_or_concat' tokens with rfl | ⟨earlier, name, rfl⟩
  · cases runs
    exact absurd isContents (not_contents_of_item steps)
  · refine ⟨earlier, name, rfl, ?_⟩
    by_contra notName
    obtain ⟨_, middle, _, _, stepped⟩ := exists_stage_of_run runs
    obtain ⟨inner, rfl⟩ := (code_of_name stepped).2 notName
    exact absurd isContents (not_contents_of_item steps)

/-- The token with which the room ends is literal text, or the contents of a tag behind its
name. -/
theorem Crosses.kind {runtime : Text} {block : Block} {room : Nat} {tokens : List Token}
    {crossing : Token} (crosses : (item block).Crosses runtime room tokens crossing) :
    crossing.kind = .text ∨
      (crossing.kind = .tagContents ∧
        ∃ earlier name, tokens = earlier ++ [name] ∧ name.kind = .tagName) := by
  obtain ⟨early, late⟩ := crosses
  cases ran : (item block).run runtime tokens with
  | mk before result =>
      rw [ran] at early
      cases result with
      | error fault =>
          rw [run_append_of_fault ran] at late
          exact absurd late (Nat.not_lt.mpr early)
      | ok last =>
          rw [run_append_of_ok ran, List.length_append] at late
          cases steps : last.step runtime crossing with
          | error fault =>
              rw [run_cons_of_fault steps] at late
              exact absurd late (Nat.not_lt.mpr early)
          | ok given =>
              obtain ⟨code, next⟩ := given
              cases kind : crossing.kind with
              | text => exact Or.inl rfl
              | tagContents => exact Or.inr ⟨rfl, exists_name_of_contents ran steps kind⟩
              | tagName =>
                  rw [run_cons_of_step steps, (code_of_name steps).1 kind] at late
                  exact absurd late (Nat.not_lt.mpr early)

end Stage

/-- A compilation into a sink without a bound and one into a sink with some room, at the same
place of their source. -/
structure Progress.Limited (progress bounded : Progress σ) (room : Nat) : Prop where
  source : bounded.source = progress.source
  unbounded : progress.sink.room = none
  limited : bounded.sink.room = some room

namespace Progress.Limited

variable {progress bounded behind cutBehind : Progress σ} {room : Nat} {code : Text}

theorem pull (limited : progress.Limited bounded room) :
    bounded.pull.1 = progress.pull.1 ∧ bounded.pull.2.source = progress.pull.2.source := by
  unfold Progress.pull
  rw [limited.source]
  exact ⟨rfl, rfl⟩

omit [TokenSource σ] in
theorem fits (limited : progress.Limited bounded room) (code : Text) :
    (progress.sink.write code).1 = true ∧
      ((bounded.sink.write code).1 = true ↔ code.length ≤ room) := by
  rw [Sink.write_fst_eq_true_iff, Sink.write_fst_eq_true_iff, limited.unbounded, limited.limited]
  refine ⟨nofun, fun fitting => fitting room rfl, ?_⟩
  rintro short _ ⟨⟩
  exact short

theorem contents (limited : progress.Limited bounded room) (isBehind : progress.Behind behind code)
    (isCutBehind : bounded.Behind cutBehind code) :
    behind.sink.contents = progress.sink.contents ++ code ∧
      cutBehind.sink.contents = bounded.sink.contents ++ code.take room := by
  rw [isBehind.contents, isCutBehind.contents, Sink.contents_write, Sink.contents_write,
    limited.unbounded, limited.limited]
  exact ⟨rfl, rfl⟩

theorem sources (limited : progress.Limited bounded room) (isBehind : progress.Behind behind code)
    (isCutBehind : bounded.Behind cutBehind code) : cutBehind.source = behind.source := by
  rw [isCutBehind.source, isBehind.source]
  exact limited.pull.2

theorem onward (limited : progress.Limited bounded room) (isBehind : progress.Behind behind code)
    (isCutBehind : bounded.Behind cutBehind code) (short : code.length ≤ room) :
    behind.Limited cutBehind (room - code.length) where
  source := limited.sources isBehind isCutBehind
  unbounded := by rw [isBehind.room, Sink.write, limited.unbounded]
  limited := by
    rw [isCutBehind.room, Sink.write, limited.limited]
    simp only [short, if_true]

end Progress.Limited

/-- How the two compilations end when they are resumed at a stage, if the first writes some
text.  The second holds as much of the text as there is room for.  If that is all, it ends
like the first; otherwise it stops behind the token with which the room ends. -/
structure Stage.Truncates (runtime : Text) (stage : Stage) (room : Nat)
    (progress bounded : Progress σ) (full cut : Outcome σ Unit) (written : Text) : Prop where
  all : full.progress.sink.contents = progress.sink.contents ++ written
  kept : cut.progress.sink.contents = bounded.sink.contents ++ written.take room
  whole : written.length ≤ room →
    cut.result = full.result ∧ cut.progress.source = full.progress.source
  stopped : room < written.length → cut.result = .error .emit ∧
    ∃ tokens crossing more, stage.Crosses runtime room tokens crossing ∧
      Gives progress.source (tokens.map some ++ [some crossing]) cut.progress.source ∧
      Gives cut.progress.source more full.progress.source

namespace Stage

section Truncates

variable {runtime code : Text} {stage next : Stage} {token : Token} {room : Nat}
  {progress bounded behind cutBehind : Progress σ}

theorem Truncates.silent (limited : progress.Limited bounded room)
    (result : Except CompileError Unit) :
    stage.Truncates runtime room progress bounded ⟨result, progress.pull.2⟩
      ⟨result, bounded.pull.2⟩ [] where
  all := (List.append_nil _).symm
  kept := by
    rw [List.take_nil, List.append_nil]
    rfl
  whole _ := ⟨rfl, limited.pull.2⟩
  stopped := nofun

theorem Truncates.cons {full cut : Outcome σ Unit} {written : Text}
    (limited : progress.Limited bounded room) (comes : progress.pull.1 = some token)
    (steps : stage.step runtime token = .ok (code, next))
    (isBehind : progress.Behind behind code) (isCutBehind : bounded.Behind cutBehind code)
    (short : code.length ≤ room)
    (later : next.Truncates runtime (room - code.length) behind cutBehind full cut written) :
    stage.Truncates runtime room progress bounded full cut (code ++ written) where
  all := by
    rw [later.all, (limited.contents isBehind isCutBehind).1, List.append_assoc]
  kept := by
    rw [later.kept, (limited.contents isBehind isCutBehind).2, List.take_append,
      List.take_of_length_le short, List.append_assoc]
  whole enough := by
    rw [List.length_append] at enough
    exact later.whole (by omega)
  stopped tooLong := by
    rw [List.length_append] at tooLong
    obtain ⟨failed, tokens, crossing, more, crosses, reads, onward⟩ :=
      later.stopped (by omega)
    rw [isBehind.source] at reads
    exact ⟨failed, token :: tokens, crossing, more, crosses.cons steps short,
      Gives.of_next comes reads, onward⟩

theorem Truncates.here {written : Text} (limited : progress.Limited bounded room)
    (comes : progress.pull.1 = some token) (steps : stage.step runtime token = .ok (code, next))
    (isBehind : progress.Behind behind code) (isCutBehind : bounded.Behind cutBehind code)
    (tooLong : room < code.length)
    (later : (next.resume runtime behind).progress.sink.contents =
      behind.sink.contents ++ written) :
    stage.Truncates runtime room progress bounded (next.resume runtime behind)
      ⟨.error .emit, cutBehind⟩ (code ++ written) where
  all := by
    rw [later, (limited.contents isBehind isCutBehind).1, List.append_assoc]
  kept := by
    rw [(limited.contents isBehind isCutBehind).2,
      List.take_append_of_le_length (Nat.le_of_lt tooLong)]
  whole enough := by
    rw [List.length_append] at enough
    omega
  stopped _ := by
    obtain ⟨more, onward⟩ := resume_gives runtime next behind
    have sources := limited.sources isBehind isCutBehind
    refine ⟨rfl, [], token, more, .here steps tooLong, Gives.of_next comes ?_, ?_⟩
    · change Gives progress.pull.2.source [] cutBehind.source
      rw [sources, isBehind.source]
      exact .nothing _
    · change Gives cutBehind.source more _
      rw [sources]
      exact onward

end Truncates

theorem resume_truncates (runtime : Text) (stage : Stage) {progress bounded : Progress σ}
    {room : Nat} (limited : progress.Limited bounded room) :
    ∃ written, stage.Truncates runtime room progress bounded (stage.resume runtime progress)
      (stage.resume runtime bounded) written := by
  obtain ⟨tokens, fault, delivers⟩ := Delivers.total progress.source
  generalize hSource : progress.source = source at delivers
  induction delivers generalizing stage progress bounded room with
  | ended stops =>
      subst hSource
      have cutStops : bounded.pull.1 = none := limited.pull.1.trans stops
      rw [resume_of_end runtime stage stops, resume_of_end runtime stage cutStops,
        limited.pull.2]
      exact ⟨[], .silent limited _⟩
  | @pulled source token tokens fault comes later ih =>
      subst hSource
      have cutComes : bounded.pull.1 = some token := limited.pull.1.trans comes
      cases steps : stage.step runtime token with
      | error fault =>
          rw [resume_of_fault comes steps, resume_of_fault cutComes steps]
          exact ⟨[], .silent limited _⟩
      | ok given =>
          obtain ⟨code, next⟩ := given
          obtain ⟨behind, isBehind, resumed⟩ := resume_of_step comes steps
          obtain ⟨cutBehind, isCutBehind, cutResumed⟩ := resume_of_step cutComes steps
          obtain ⟨fits, cutFits⟩ := limited.fits code
          rw [resumed, if_pos fits, cutResumed]
          by_cases short : code.length ≤ room
          · have left := limited.onward isBehind isCutBehind short
            obtain ⟨written, truncates⟩ := ih next left isBehind.source
            rw [if_pos (cutFits.mpr short)]
            exact ⟨code ++ written, .cons limited comes steps isBehind isCutBehind short truncates⟩
          · have delivered : Delivers behind.source tokens fault := by
              rw [isBehind.source]
              exact later
            have unbounded : behind.sink.room = none := by
              rw [isBehind.room, Sink.write, limited.unbounded]
            obtain ⟨-, written⟩ := resume_of_delivers delivered unbounded next
            rw [if_neg fun cutFitting => short (cutFits.mp cutFitting)]
            exact ⟨_, .here limited comes steps isBehind isCutBehind (Nat.lt_of_not_le short)
              written⟩

end Stage

def codeFor (runtime : Text) (tokens : List Token) : Text :=
  (compileTokens runtime (TokenFeed.ofTokens tokens none)
    (Sink.empty none)).progress.sink.contents

theorem codeFor_eq_run (runtime : Text) (tokens : List Token) :
    codeFor runtime tokens = ((Stage.item .topLevel).run runtime tokens).1 :=
  (compileTokens_of_feed runtime tokens none).2

/-- With one token more, the code for some tokens outgrows a room.  The token is literal
text or the contents of a tag, and contents stand right behind a name. -/
structure RoomEndsAt (runtime : Text) (room : Nat) (tokens : List Token) (crossing : Token) :
    Prop where
  early : (codeFor runtime tokens).length ≤ room
  late : room < (codeFor runtime (tokens ++ [crossing])).length
  kind : crossing.kind = .text ∨
    (crossing.kind = .tagContents ∧
      ∃ earlier name, tokens = earlier ++ [name] ∧ name.kind = .tagName)

theorem Stage.Crosses.roomEndsAt {runtime : Text} {room : Nat} {tokens : List Token}
    {crossing : Token}
    (crosses : (Stage.item .topLevel).Crosses runtime room tokens crossing) :
    RoomEndsAt runtime room tokens crossing where
  early := by
    rw [codeFor_eq_run]
    exact crosses.early
  late := by
    rw [codeFor_eq_run]
    exact crosses.late
  kind := crosses.kind

/-- A sink with bounded room holds the beginning of the code for which it has room.  If that
is all of the code, a compilation into it gives what it gives without the bound.  Otherwise
it fails for want of room, and it has read the tokens up to the one with which the room
ends, of all that it would have read without the bound. -/

theorem compileTokens_truncated (runtime : Text) (source : σ) (room : Nat) :
    let full := compileTokens runtime source (Sink.empty none)
    let cut := compileTokens runtime source (Sink.empty (some room))
    let written := full.progress.sink.contents
    cut.progress.sink.contents = written.take room ∧
      if written.length ≤ room then
        cut.result = full.result ∧ cut.progress.source = full.progress.source
      else
        cut.result = .error .emit ∧
          ∃ tokens crossing more,
            Gives source (tokens.map some ++ [some crossing]) cut.progress.source ∧
            Gives source (tokens.map some ++ [some crossing] ++ more) full.progress.source ∧
            RoomEndsAt runtime room tokens crossing := by
  intro full cut written
  have start : Progress.Limited ⟨source, Sink.empty none, []⟩ ⟨source, Sink.empty (some room), []⟩
      room := ⟨rfl, rfl, rfl⟩
  obtain ⟨added, truncates⟩ := Stage.resume_truncates runtime (.item .topLevel) start
  obtain rfl : written = added := truncates.all
  refine ⟨truncates.kept, ?_⟩
  by_cases enough : written.length ≤ room
  · rw [if_pos enough]
    exact truncates.whole enough
  · rw [if_neg enough]
    obtain ⟨failed, tokens, crossing, more, crosses, reads, onward⟩ :=
      truncates.stopped (Nat.lt_of_not_le enough)
    exact ⟨failed, tokens, crossing, more, reads, reads.append onward, crosses.roomEndsAt⟩

end Stencil
