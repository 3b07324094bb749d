/-
What a token source delivers.

Pulling tokens until none comes gives a list of tokens and then, perhaps, a fault.
The relation is stated through single pulls, so that it covers every source: two sources
with the same delivery cannot be told apart by pulling.

Two sources are in lockstep when they pull the same tokens, report the same fault behind
each pull and stay in lockstep, also behind the end of their tokens.  A lexer is in
lockstep with a feed of the tokens that it delivers.
-/

import Stencil.Token

namespace Stencil

/-- Pulling gives these tokens and then none; the source reports the fault there. -/
inductive Delivers {σ : Type} [TokenSource σ] : σ → List Token → Option ScanError → Prop
  | ended {source : σ} {fault : Option ScanError}
      (none : (TokenSource.next source).1 = none)
      (reported : TokenSource.lastError (TokenSource.next source).2 = fault) :
      Delivers source [] fault
  | pulled {source : σ} {token : Token} {tokens : List Token} {fault : Option ScanError}
      (some : (TokenSource.next source).1 = some token)
      (later : Delivers (TokenSource.next source).2 tokens fault) :
      Delivers source (token :: tokens) fault

namespace Delivers

variable {σ : Type} [TokenSource σ]

theorem unique {source : σ} {tokens others : List Token} {fault other : Option ScanError}
    (first : Delivers source tokens fault) (second : Delivers source others other) :
    tokens = others ∧ fault = other := by
  induction first generalizing others with
  | ended stops reported =>
      cases second with
      | ended _ otherReported => exact ⟨rfl, reported.symm.trans otherReported⟩
      | pulled comes _ =>
          rw [stops] at comes
          cases comes
  | pulled comes _ ih =>
      cases second with
      | ended stops _ =>
          rw [stops] at comes
          cases comes
      | pulled otherComes otherLater =>
          have tokenEq := Option.some.inj (comes.symm.trans otherComes)
          have rest := ih otherLater
          rw [tokenEq, rest.1]
          exact ⟨rfl, rest.2⟩

/-- Every source delivers something, since each pull uses up some of its bound. -/
theorem total (source : σ) : ∃ tokens fault, Delivers source tokens fault := by
  induction size : TokenSource.remaining source using Nat.strongRecOn generalizing source with
  | ind bound ih =>
      subst size
      cases comes : (TokenSource.next source).1 with
      | none => exact ⟨[], _, .ended comes rfl⟩
      | some token =>
          have shrinks := TokenSource.remaining_next comes
          obtain ⟨tokens, fault, later⟩ := ih _ shrinks (TokenSource.next source).2 rfl
          exact ⟨token :: tokens, fault, .pulled comes later⟩

end Delivers

theorem TokenFeed.delivers_of_entries (tokens : List Token) (current : Option Token)
    (fault : Option ScanError) :
    Delivers (⟨tokens.map some, current, fault⟩ : TokenFeed) tokens fault := by
  induction tokens generalizing current with
  | nil => exact .ended rfl rfl
  | cons token rest ih => exact .pulled rfl (ih (some token))

theorem TokenFeed.delivers_ofTokens (tokens : List Token) (fault : Option ScanError) :
    Delivers (TokenFeed.ofTokens tokens fault) tokens fault :=
  TokenFeed.delivers_of_entries tokens none fault

theorem TokenSource.more_of_next {σ : Type} [TokenSource σ] {source : σ} {token : Token}
    (comes : (TokenSource.next source).1 = some token) :
    (TokenSource.advance source).1 = true := by
  by_cases more : (TokenSource.advance source).1 = true
  · exact more
  · have nothing : (TokenSource.next source).1 = none := if_neg more
    rw [nothing] at comes
    cases comes

theorem Lexer.shows_of_more (lexer : Lexer) (more : lexer.advance.1 = true) :
    (∃ token, lexer.advance.2.current = some token) ∧
      lexer.advance.2.lastError = none := by
  obtain ⟨cursor, current, phase⟩ := lexer
  cases phase with
  | finished fault => cases more
  | named contents => exact ⟨⟨contents, rfl⟩, rfl⟩
  | between =>
      unfold Lexer.advance at more ⊢
      dsimp only at more ⊢
      by_cases atEnd : cursor.rest.isEmpty = true
      · rw [if_pos atEnd] at more
        cases more
      · rw [if_neg atEnd] at more ⊢
        by_cases opens : cursor.opensTag = true
        · rw [if_pos opens] at more ⊢
          cases hTag : cursor.scanTag with
          | error fault =>
              rw [hTag] at more
              cases more
          | ok tag => exact ⟨⟨tag.name, rfl⟩, rfl⟩
        · rw [if_neg opens]
          exact ⟨⟨Lexer.textToken cursor, rfl⟩, rfl⟩

theorem Lexer.ends_of_next {lexer : Lexer} (stops : (TokenSource.next lexer).1 = none) :
    lexer.advance.1 = false := by
  cases more : lexer.advance.1 with
  | false => rfl
  | true =>
      obtain ⟨⟨token, shows⟩, _⟩ := lexer.shows_of_more more
      have comes : (TokenSource.next lexer).1 = lexer.advance.2.current := if_pos more
      rw [stops, shows] at comes
      cases comes

/-- The entries that a lexer drains are the tokens that it delivers, for a lexer
leaves no gaps. -/
theorem Lexer.drain_of_delivers {lexer : Lexer} {tokens : List Token}
    {fault : Option ScanError} (delivered : Delivers lexer tokens fault) :
    (TokenSource.drain lexer).1 = tokens.map some ∧
      (TokenSource.drain lexer).2.lastError = fault := by
  induction delivered with
  | @ended lexer fault stops reported =>
      have noMore : ¬ (TokenSource.advance lexer).1 = true :=
        Bool.eq_false_iff.mp (Lexer.ends_of_next stops)
      rw [TokenSource.drain, dif_neg noMore]
      exact ⟨rfl, reported⟩
  | @pulled lexer token tokens fault comes later ih =>
      have more := TokenSource.more_of_next comes
      simp only [TokenSource.next, more, if_true] at comes ih
      rw [TokenSource.drain, dif_pos more, List.map_cons, ← ih.1, comes]
      exact ⟨rfl, ih.2⟩

theorem tokenize_of_delivers {source : Text} {tokens : List Token}
    {fault : Option ScanError} (delivered : Delivers (Lexer.ofText source) tokens fault) :
    tokenize source = fault.elim (.ok tokens) .error := by
  obtain ⟨entries, reported⟩ := Lexer.drain_of_delivers delivered
  unfold tokenize
  dsimp only
  rw [reported, entries]
  cases fault with
  | none => simp
  | some fault => rfl

theorem tokenize_eq_ok_iff_delivers (source : Text) (tokens : List Token) :
    tokenize source = .ok tokens ↔ Delivers (Lexer.ofText source) tokens none := by
  constructor
  · intro tokenized
    obtain ⟨delivered, fault, delivers⟩ := Delivers.total (Lexer.ofText source)
    rw [tokenize_of_delivers delivers] at tokenized
    cases fault with
    | none =>
        cases tokenized
        exact delivers
    | some fault => cases tokenized
  · intro delivers
    exact tokenize_of_delivers delivers

/-! ### Lockstep -/

/-- A relation between sources that pulling keeps, and that pulling cannot tell apart. -/
structure Lockstep {σ τ : Type} [TokenSource σ] [TokenSource τ]
    (related : σ → τ → Prop) : Prop where
  token : ∀ {source other}, related source other →
    (TokenSource.next source).1 = (TokenSource.next other).1
  fault : ∀ {source other}, related source other →
    TokenSource.lastError (TokenSource.next source).2 =
      TokenSource.lastError (TokenSource.next other).2
  later : ∀ {source other}, related source other →
    related (TokenSource.next source).2 (TokenSource.next other).2

namespace Lexer

theorem advance_advance_of_ended (lexer : Lexer) (ended : lexer.advance.1 = false) :
    lexer.advance.2.advance = (false, lexer.advance.2) := by
  obtain ⟨cursor, current, phase⟩ := lexer
  cases phase with
  | finished fault => rfl
  | named contents => cases ended
  | between =>
      unfold Lexer.advance at ended ⊢
      dsimp only at ended ⊢
      by_cases atEnd : cursor.rest.isEmpty = true
      · rw [if_pos atEnd]
      · rw [if_neg atEnd] at ended ⊢
        by_cases opens : cursor.opensTag = true
        · rw [if_pos opens] at ended ⊢
          cases hTag : cursor.scanTag with
          | error fault => rfl
          | ok tag =>
              rw [hTag] at ended
              cases ended
        · rw [if_neg opens] at ended
          cases ended

theorem delivers_next_of_ended {lexer : Lexer} {fault : Option ScanError}
    (stops : (TokenSource.next lexer).1 = none)
    (reported : TokenSource.lastError (TokenSource.next lexer).2 = fault) :
    Delivers (TokenSource.next lexer).2 [] fault := by
  have again := lexer.advance_advance_of_ended (ends_of_next stops)
  have pulled : TokenSource.next (TokenSource.next lexer).2 =
      (none, (TokenSource.next lexer).2) := by
    change (if lexer.advance.2.advance.1 then _ else none, lexer.advance.2.advance.2) = _
    rw [again]
    rfl
  apply Delivers.ended
  · rw [pulled]
  · rw [pulled]
    exact reported

theorem lastError_next_of_some {lexer : Lexer} {token : Token}
    (comes : (TokenSource.next lexer).1 = some token) :
    TokenSource.lastError (TokenSource.next lexer).2 = none :=
  (lexer.shows_of_more (TokenSource.more_of_next comes)).2

end Lexer

/-- A lexer delivers the tokens that a feed still has, and then the fault of the feed. -/
def Lexer.Matches (lexer : Lexer) (feed : TokenFeed) : Prop :=
  ∃ tokens, feed.entries = tokens.map some ∧ Delivers lexer tokens feed.fault

theorem Lexer.lockstep_matches : Lockstep Lexer.Matches where
  token := by
    rintro lexer feed ⟨tokens, entries, delivers⟩
    obtain ⟨_, current, fault⟩ := feed
    subst entries
    cases delivers with
    | ended stops reported => exact stops
    | pulled comes later => exact comes
  fault := by
    rintro lexer feed ⟨tokens, entries, delivers⟩
    obtain ⟨_, current, fault⟩ := feed
    subst entries
    cases delivers with
    | ended stops reported => exact reported
    | pulled comes later => exact lastError_next_of_some comes
  later := by
    rintro lexer feed ⟨tokens, entries, delivers⟩
    obtain ⟨_, current, fault⟩ := feed
    subst entries
    cases delivers with
    | ended stops reported => exact ⟨[], rfl, delivers_next_of_ended stops reported⟩
    | pulled comes later => exact ⟨_, rfl, later⟩

theorem TokenFeed.drain_eq (feed : TokenFeed) :
    TokenSource.drain feed = (feed.entries, ⟨[], none, feed.fault⟩) := by
  obtain ⟨entries, current, fault⟩ := feed
  induction entries generalizing current with
  | nil =>
      rw [TokenSource.drain]
      exact dif_neg Bool.false_ne_true
  | cons entry rest ih =>
      rw [TokenSource.drain]
      refine (dif_pos rfl).trans ?_
      exact congrArg (fun later => (entry :: later.1, later.2)) (ih entry)

theorem Lexer.drain_of_matches {lexer : Lexer} {feed : TokenFeed}
    (isMatch : lexer.Matches feed) :
    (TokenSource.drain lexer).1 = (TokenSource.drain feed).1 ∧
      (TokenSource.drain lexer).2.lastError = (TokenSource.drain feed).2.lastError := by
  obtain ⟨tokens, entries, delivers⟩ := isMatch
  obtain ⟨drained, reported⟩ := Lexer.drain_of_delivers delivers
  rw [TokenFeed.drain_eq]
  exact ⟨drained.trans entries.symm, reported⟩

end Stencil
