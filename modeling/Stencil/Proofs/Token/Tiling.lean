/-
Tokens as spans of their source.

The spans of the tokens lie in the source one behind the other, and what they leave out are
the delimiters of tags and the blanks at the inner ends of tags.  So a token is what the
source has at the offset of its span, and the position of a token counts the newlines up to
there and the characters behind the last of them.  Up to a broken tag this holds as well; the
rest of the source then gives no token.
-/

import Stencil.Proofs.Token.Reading

namespace Stencil

namespace Position

def Before (first second : Position) : Prop :=
  first.line < second.line ∨ (first.line = second.line ∧ first.col < second.col)

theorem Before.trans {first second third : Position} (before : first.Before second)
    (later : second.Before third) : first.Before third := by
  unfold Before at before later ⊢
  omega

theorem before_next (position : Position) (c : Char) : position.Before (position.next c) := by
  unfold next
  split
  · exact Or.inl (Nat.lt_succ_self _)
  · exact Or.inr ⟨rfl, Nat.lt_succ_self _⟩

theorem before_after (position : Position) {text : Text} (nonempty : text ≠ []) :
    position.Before (position.after text) := by
  induction text generalizing position with
  | nil => exact absurd rfl nonempty
  | cons c rest ih =>
      have here := before_next position c
      by_cases ends : rest = []
      · rw [ends]
        exact here
      · exact here.trans (ih (position.next c) ends)

end Position

/-- The position of the place in front of which a text has so many characters: one more than
the newlines there, and one more than the characters behind the last of these. -/
def Text.positionAt (source : Text) (offset : Nat) : Position :=
  let before := source.take offset
  ⟨1 + before.count '\n', 1 + (before.reverse.takeWhile fun c => c != '\n').length⟩

theorem Position.start_after (before : Text) :
    start.after before =
      ⟨1 + before.count '\n', 1 + (before.reverse.takeWhile fun c => c != '\n').length⟩ := by
  induction reversed : before.reverse generalizing before with
  | nil =>
      rw [List.reverse_eq_nil_iff.mp reversed]
      rfl
  | cons c earlier ih =>
      obtain rfl : before = earlier.reverse ++ [c] := by
        rw [← List.reverse_cons, ← reversed, List.reverse_reverse]
      rw [after_append, ih earlier.reverse (List.reverse_reverse earlier)]
      change next _ c = _
      unfold next
      by_cases newline : c = '\n'
      · rw [if_pos newline, newline]
        simp [Nat.add_assoc]
      · rw [if_neg newline]
        simp [newline, Nat.add_comm]

theorem Text.positionAt_append (before behind : Text) :
    Text.positionAt (before ++ behind) before.length = Position.start.after before := by
  rw [Position.start_after, positionAt, List.take_left]

theorem Text.positionAt_before {source : Text} {first second : Nat} (earlier : first < second)
    (inside : second ≤ source.length) :
    (source.positionAt first).Before (source.positionAt second) := by
  have between : (source.take second).drop first ≠ [] := by
    apply List.ne_nil_of_length_pos
    rw [List.length_drop, List.length_take]
    omega
  have cut : source.take first ++ (source.take second).drop first = source.take second := by
    have whole := List.take_append_drop first (source.take second)
    rw [List.take_take, Nat.min_eq_left (Nat.le_of_lt earlier)] at whole
    exact whole
  have grows := Position.before_after (Position.start.after (source.take first)) between
  rw [← Position.after_append, cut, Position.start_after, Position.start_after] at grows
  exact grows

structure Span where
  offset : Nat
  token : Token

namespace Span

def stop (span : Span) : Nat :=
  span.offset + span.token.value.length

/-- The source has the token at the offset of the span, and the position of the token is the
one of this offset. -/
structure Exact (source : Text) (span : Span) : Prop where
  inside : span.stop ≤ source.length
  value : (source.drop span.offset).take span.token.value.length = span.token.value
  position : span.token.position = source.positionAt span.offset

def Precedes (first second : Span) : Prop :=
  first.stop ≤ second.offset

def behind (before : Text) (kind : TokenKind) (value : Text) : Span :=
  ⟨before.length, ⟨kind, value, Position.start.after before⟩⟩

theorem exact_behind (before : Text) (kind : TokenKind) (value rest : Text) :
    (behind before kind value).Exact (before ++ value ++ rest) where
  inside := by
    simp only [stop, behind, List.length_append]
    omega
  value := by
    simp only [behind]
    rw [List.append_assoc, List.drop_left, List.take_left]
  position := by
    rw [List.append_assoc]
    exact (Text.positionAt_append before (value ++ rest)).symm

end Span

/-- A text, behind another one, consists of the characters of some spans and, around the
names and the contents of tags, of `{%`, blanks and `%}`. -/
inductive Tiled : Text → Text → List Span → Prop
  | empty (before : Text) : Tiled before [] []
  | text {before value rest : Text} {spans : List Span} (nonempty : value ≠ [])
      (later : Tiled (before ++ value) rest spans) :
      Tiled before (value ++ rest) (Span.behind before .text value :: spans)
  | tag {before lead name gap contents trail rest : Text} {spans : List Span}
      (leadBlank : ∀ c ∈ lead, Text.isBlank c = true) (nonempty : name ≠ [])
      (gapBlank : ∀ c ∈ gap, Text.isBlank c = true)
      (trailBlank : ∀ c ∈ trail, Text.isBlank c = true)
      (later : Tiled
        (before ++ (['{', '%'] ++ lead ++ name ++ gap ++ contents ++ trail ++ ['%', '}']))
        rest spans) :
      Tiled before
        (['{', '%'] ++ lead ++ name ++ gap ++ contents ++ trail ++ ['%', '}'] ++ rest)
        (Span.behind (before ++ (['{', '%'] ++ lead)) .tagName name ::
          Span.behind (before ++ (['{', '%'] ++ lead ++ name ++ gap)) .tagContents contents ::
            spans)

namespace Tiled

variable {before text : Text} {spans : List Span}

theorem exact (tiled : Tiled before text spans) (rest : Text) :
    ∀ span ∈ spans, span.Exact (before ++ text ++ rest) := by
  induction tiled with
  | empty before => exact fun span member => absurd member List.not_mem_nil
  | @text before value later spans nonempty tiled ih =>
      intro span member
      rcases List.mem_cons.mp member with rfl | member
      · have here := Span.exact_behind before .text value (later ++ rest)
        simp only [List.append_assoc] at here ⊢
        exact here
      · have there := ih span member
        simp only [List.append_assoc] at there ⊢
        exact there
  | @tag before lead name gap contents trail later spans _ _ _ _ tiled ih =>
      intro span member
      rcases List.mem_cons.mp member with rfl | member
      · have here := Span.exact_behind (before ++ (['{', '%'] ++ lead)) .tagName name
          (gap ++ contents ++ trail ++ ['%', '}'] ++ later ++ rest)
        simp only [List.append_assoc] at here ⊢
        exact here
      · rcases List.mem_cons.mp member with rfl | member
        · have here := Span.exact_behind (before ++ (['{', '%'] ++ lead ++ name ++ gap))
            .tagContents contents (trail ++ ['%', '}'] ++ later ++ rest)
          simp only [List.append_assoc] at here ⊢
          exact here
        · have there := ih span member
          simp only [List.append_assoc] at there ⊢
          exact there

theorem length_le_offset (tiled : Tiled before text spans) :
    ∀ span ∈ spans, before.length ≤ span.offset := by
  induction tiled with
  | empty before => exact fun span member => absurd member List.not_mem_nil
  | text nonempty tiled ih =>
      intro span member
      rcases List.mem_cons.mp member with rfl | member
      · exact Nat.le_refl _
      · have there := ih span member
        rw [List.length_append] at there
        omega
  | tag _ _ _ _ tiled ih =>
      intro span member
      rcases List.mem_cons.mp member with rfl | member
      · simp only [Span.behind, List.length_append]
        omega
      · rcases List.mem_cons.mp member with rfl | member
        · simp only [Span.behind, List.length_append]
          omega
        · have there := ih span member
          rw [List.length_append] at there
          omega

theorem ordered (tiled : Tiled before text spans) :
    spans.Pairwise fun first second =>
      first.Precedes second ∧ first.offset < second.offset := by
  induction tiled with
  | empty before => exact List.Pairwise.nil
  | @text before value later spans nonempty tiled ih =>
      refine List.pairwise_cons.mpr ⟨?_, ih⟩
      intro span member
      have there := tiled.length_le_offset span member
      have filled := List.length_pos_iff.mpr nonempty
      rw [List.length_append] at there
      simp only [Span.Precedes, Span.stop, Span.behind]
      omega
  | @tag before lead name gap contents trail later spans _ nonempty _ _ tiled ih =>
      have filled := List.length_pos_iff.mpr nonempty
      have beyond : ∀ span ∈ spans,
          (before ++ (['{', '%'] ++ lead ++ name ++ gap)).length + contents.length + 2 ≤
            span.offset := by
        intro span member
        have there := tiled.length_le_offset span member
        simp only [List.length_append, List.length_cons, List.length_nil] at there ⊢
        omega
      refine List.pairwise_cons.mpr ⟨?_, List.pairwise_cons.mpr ⟨?_, ih⟩⟩
      · intro span member
        rcases List.mem_cons.mp member with rfl | member
        · simp only [Span.Precedes, Span.stop, Span.behind, List.length_append]
          omega
        · have there := beyond span member
          simp only [List.length_append] at there
          simp only [Span.Precedes, Span.stop, Span.behind, List.length_append]
          omega
      · intro span member
        have there := beyond span member
        simp only [Span.Precedes, Span.stop, Span.behind]
        omega

end Tiled

theorem Tiled.plainText (plain : PlainText) {before rest : Text} {spans : List Span}
    (later : Tiled (before ++ plain.text) rest spans) :
    ∃ more : List Span, Tiled before (plain.text ++ rest) (more ++ spans) ∧
      more.map Span.token = plain.tokens (Position.start.after before) := by
  unfold PlainText.tokens
  by_cases empty : plain.text = []
  · rw [empty, List.append_nil] at later
    rw [empty, if_pos rfl]
    exact ⟨[], later, rfl⟩
  · rw [if_neg empty]
    exact ⟨[Span.behind before .text plain.text], .text empty later, rfl⟩

theorem Tiled.tagSpelling (tag : TagSpelling) {before rest : Text} {spans : List Span}
    (later : Tiled (before ++ tag.spelling) rest spans) :
    ∃ more : List Span, Tiled before (tag.spelling ++ rest) (more ++ spans) ∧
      more.map Span.token = [tag.nameToken (Position.start.after before),
        tag.contentsToken (Position.start.after before)] := by
  obtain ⟨trail, trailBlank, trimmed⟩ :=
    Text.exists_trimEnd_append Text.isBlank (tag.body.dropWhile Text.isBlank)
  have body : tag.body.takeWhile Text.isBlank ++ (tag.contents ++ trail) = tag.body := by
    rw [TagSpelling.contents, Text.strip, trimmed, List.takeWhile_append_dropWhile]
  have spelled : tag.spelling = ['{', '%'] ++ tag.lead ++ tag.name ++
      (tag.gap ++ tag.body.takeWhile Text.isBlank) ++ tag.contents ++ trail ++
        ['%', '}'] :=
    calc tag.spelling
        = ['{', '%'] ++ tag.lead ++ tag.name ++ tag.gap ++
            (tag.body.takeWhile Text.isBlank ++ (tag.contents ++ trail)) ++ ['%', '}'] := by
          rw [body, TagSpelling.spelling]
      _ = _ := by simp only [List.append_assoc]
  have gapBlank : ∀ c ∈ tag.gap ++ tag.body.takeWhile Text.isBlank,
      Text.isBlank c = true := by
    intro c member
    rcases List.mem_append.mp member with inGap | inBody
    · exact tag.gapBlank c inGap
    · exact List.mem_takeWhile_imp inBody
  rw [spelled] at later
  rw [spelled]
  refine ⟨[_, _], Tiled.tag tag.leadBlank tag.nameNonempty gapBlank trailBlank later, ?_⟩
  simp only [List.map_cons, List.map_nil, Span.behind, TagSpelling.nameToken,
    TagSpelling.contentsToken, Position.after_append, List.append_assoc]

theorem TemplateSpelling.exists_tiled (template : TemplateSpelling) (before : Text) :
    ∃ spans : List Span, Tiled before template.spelling spans ∧
      spans.map Span.token = template.tokensAt (Position.start.after before) := by
  obtain ⟨segments, last⟩ := template
  induction segments generalizing before with
  | nil =>
      obtain ⟨spans, tiled, tokens⟩ := Tiled.plainText last (.empty (before ++ last.text))
      rw [List.append_nil, List.append_nil] at tiled
      exact ⟨spans, tiled, tokens⟩
  | cons segment segments ih =>
      obtain ⟨later, tiled, tokens⟩ := ih (before ++ segment.spelling)
      rw [Segment.spelling, ← List.append_assoc] at tiled
      obtain ⟨inTag, tagTiled, tagTokens⟩ := Tiled.tagSpelling segment.tag tiled
      obtain ⟨inText, textTiled, textTokens⟩ := Tiled.plainText segment.text tagTiled
      refine ⟨inText ++ (inTag ++ later), ?_, ?_⟩
      · rw [spelling_cons, Segment.spelling, List.append_assoc]
        exact textTiled
      · rw [List.map_append, List.map_append, textTokens, tagTokens, tokens, tokensAt_cons,
          Segment.tokens, List.append_assoc]
        simp only [Position.after_append]

/-- The tokens that a lexer delivers are what the source has at their spans, at positions
counted from its start, also in front of a faulty tag.  The spans are disjoint, and the
positions increase.  What they leave out of the source are delimiters and blanks of tags,
unless a fault ends the delivery before the source. -/
theorem lexer_tokens_tile_source (source : Text) :
    let delivered := TokenSource.drain (Lexer.ofText source)
    ∃ (spans : List Span) (covered rest : Text),
      delivered.1 = spans.map (fun span => some span.token) ∧
      covered ++ rest = source ∧ Tiled [] covered spans ∧
      (delivered.2.lastError = none → rest = []) ∧
      (∀ span ∈ spans, span.Exact source) ∧
      spans.Pairwise Span.Precedes ∧
      spans.Pairwise fun first second =>
        first.token.position.Before second.token.position := by
  intro delivered
  obtain ⟨⟨template, broken⟩, rfl⟩ := Reading.exists_text_eq source
  obtain ⟨entries, reported⟩ := Lexer.drain_of_delivers
    (Lexer.delivers_reading ⟨template, broken⟩ Position.start none)
  obtain ⟨spans, tiled, tokens⟩ := template.exists_tiled []
  have exact := tiled.exact (broken.elim [] BrokenTag.spelling)
  refine ⟨spans, template.spelling, broken.elim [] BrokenTag.spelling, ?_, rfl, tiled, ?_,
    exact, tiled.ordered.imp And.left, ?_⟩
  · refine entries.trans ?_
    change (template.tokensAt (Position.start.after [])).map some = _
    rw [← tokens, List.map_map]
    rfl
  · intro noFault
    have faultless := reported.symm.trans noFault
    cases broken with
    | none => rfl
    | some broken => cases faultless
  · refine tiled.ordered.imp_of_mem ?_
    intro first second inFirst inSecond ordered
    rw [(exact first inFirst).position, (exact second inSecond).position]
    refine Text.positionAt_before ordered.2 ?_
    exact Nat.le_trans (Nat.le_add_right _ _) (exact second inSecond).inside

end Stencil
