/-
Every text is read in one way.

A reading is a template and, perhaps, a broken tag behind it: one without a name, or one
that nothing closes, so that it reaches to the end of its source.  Each text has a reading,
and the reading fixes what the lexer delivers: the tokens of the template, and then the
fault of the broken tag.

Where a text begins decides the positions of its tokens and nothing more: on the first line
the columns are counted from the column of the origin, and on the later lines only the line
changes.
-/

import Stencil.Proofs.Token.Spelling

namespace Stencil

/-- A tag in which something other than a name stands behind the blanks. -/
structure UnnamedTag where
  lead : Text
  rest : Text
  leadBlank : ∀ c ∈ lead, Text.isBlank c = true
  leadMaximal : ∀ c ∈ rest.head?, Text.isBlank c = false
  nameless : ∀ c ∈ rest.head?, isNameChar c = false

structure UnclosedTag where
  lead : Text
  name : Text
  rest : Text
  leadBlank : ∀ c ∈ lead, Text.isBlank c = true
  nameNonempty : name ≠ []
  nameChars : ∀ c ∈ name, isNameChar c = true
  nameMaximal : ∀ c ∈ rest.head?, isNameChar c = false
  restOpen : ¬ ['%', '}'] <:+: rest

inductive BrokenTag where
  | unnamed (tag : UnnamedTag)
  | unclosed (tag : UnclosedTag)

def UnnamedTag.spelling (tag : UnnamedTag) : Text :=
  ['{', '%'] ++ tag.lead ++ tag.rest

def UnclosedTag.spelling (tag : UnclosedTag) : Text :=
  ['{', '%'] ++ tag.lead ++ tag.name ++ tag.rest

namespace BrokenTag

def spelling : BrokenTag → Text
  | unnamed tag => tag.spelling
  | unclosed tag => tag.spelling

def fault (position : Position) : BrokenTag → ScanError
  | unnamed tag =>
      .invalidTagName (misnamed tag.rest) (position.after (['{', '%'] ++ tag.lead))
  | unclosed _ => .unterminatedTag position

theorem exists_spelling_eq_cons (broken : BrokenTag) :
    ∃ behind, broken.spelling = '{' :: '%' :: behind := by
  cases broken with
  | unnamed tag => exact ⟨tag.lead ++ tag.rest, rfl⟩
  | unclosed tag => exact ⟨tag.lead ++ tag.name ++ tag.rest, rfl⟩

end BrokenTag

/-- What is quoted where a name is missing is what stands there. -/
theorem misnamed_prefix (text : Text) : misnamed text <+: text := by
  have cut : (Text.cutAtPair '%' '}' text).1 <+: text :=
    ⟨(Text.cutAtPair '%' '}' text).2, Text.cutAtPair_append '%' '}' text⟩
  exact (List.takeWhile_prefix _).trans cut

theorem UnnamedTag.scanTag_spelling (tag : UnnamedTag) (position : Position) :
    Cursor.scanTag ⟨tag.spelling, position⟩ =
      .error ((BrokenTag.unnamed tag).fault position) := by
  have named := Cursor.skip_lead tag.leadBlank tag.leadMaximal position
  have unnamed : ([] ++ tag.rest).takeWhile isNameChar = [] :=
    Text.takeWhile_append_of_ends tag.nameless
  rw [List.nil_append] at unnamed
  have whole : tag.spelling = '{' :: '%' :: (tag.lead ++ tag.rest) := rfl
  unfold Cursor.scanTag
  dsimp only
  rw [whole, named]
  dsimp only
  rw [unnamed]
  rfl

theorem UnclosedTag.scanTag_spelling (tag : UnclosedTag) (position : Position) :
    Cursor.scanTag ⟨tag.spelling, position⟩ =
      .error ((BrokenTag.unclosed tag).fault position) := by
  have atName := head?_not_blank_of_name tag.nameNonempty tag.nameChars tag.rest
  have named := Cursor.skip_lead tag.leadBlank atName position
  have inner := Cursor.skipWhile_append tag.nameChars tag.nameMaximal
    (position.after (['{', '%'] ++ tag.lead))
  have name : (tag.name ++ tag.rest).takeWhile isNameChar = tag.name := by
    rw [Text.takeWhile_append_of_ends tag.nameMaximal]
    exact List.takeWhile_eq_self_iff.mpr tag.nameChars
  have nonempty : tag.name.isEmpty = false := by
    simpa using tag.nameNonempty
  have body : Text.cutAtPair '%' '}' (tag.rest.dropWhile Text.isBlank) =
      (tag.rest.dropWhile Text.isBlank, []) := by
    apply Text.cutAtPair_of_free
    intro inside
    exact tag.restOpen (inside.trans (List.dropWhile_suffix _).isInfix)
  have whole : tag.spelling = '{' :: '%' :: (tag.lead ++ (tag.name ++ tag.rest)) := by
    simp [spelling]
  unfold Cursor.scanTag
  dsimp only
  rw [whole, named]
  dsimp only
  rw [name, nonempty, inner]
  simp only [Cursor.skipWhile, Cursor.skip, body, List.drop_length]
  rfl

theorem BrokenTag.scanTag_spelling (broken : BrokenTag) (position : Position) :
    Cursor.scanTag ⟨broken.spelling, position⟩ = .error (broken.fault position) := by
  cases broken with
  | unnamed tag => exact tag.scanTag_spelling position
  | unclosed tag => exact tag.scanTag_spelling position

theorem not_closed_of_cut {rest : Text}
    (neverCloses : (Text.cutAtPair '%' '}' (rest.dropWhile Text.isBlank)).2 = []) :
    ¬ ['%', '}'] <:+: rest := by
  have whole := Text.cutAtPair_append '%' '}' (rest.dropWhile Text.isBlank)
  have inner := Text.not_infix_cutAtPair_fst '%' '}' (rest.dropWhile Text.isBlank)
  rw [neverCloses, List.append_nil] at whole
  rw [whole] at inner
  have noPercent : '%' ∉ rest.takeWhile Text.isBlank := by
    intro member
    have blank := List.mem_takeWhile_imp member
    revert blank
    decide
  rw [← List.takeWhile_append_dropWhile (p := Text.isBlank) (l := rest)]
  apply Text.not_infix_append _ inner
  · intro divided
    exact noPercent (List.mem_of_getLast? divided.1)
  · intro inside
    exact noPercent (inside.subset List.mem_cons_self)

/-- Where a tag opens and none can be read, a broken tag stands. -/
theorem BrokenTag.exists_of_scanTag {opening : Cursor} {fault : ScanError}
    (opens : opening.opensTag = true) (hTag : opening.scanTag = .error fault) :
    ∃ broken : BrokenTag, opening.rest = broken.spelling := by
  obtain ⟨behind, hRest⟩ := (Text.startsWithPair_eq_true_iff _ _ _).mp opens
  simp only [Cursor.scanTag, Cursor.skip, Cursor.skipWhile, hRest, List.drop_succ_cons,
    List.drop_zero, Text.drop_length_cutAtPair, List.isEmpty_iff] at hTag
  have leadEq := List.takeWhile_append_dropWhile (p := Text.isBlank) (l := behind)
  split at hTag
  · rename_i nameless
    refine ⟨.unnamed
      { lead := behind.takeWhile Text.isBlank
        rest := behind.dropWhile Text.isBlank
        leadBlank := fun _ member => List.mem_takeWhile_imp member
        leadMaximal := Text.head?_dropWhile behind
        nameless := ?_ }, ?_⟩
    · have stops : ∀ c ∈ ((behind.dropWhile Text.isBlank).dropWhile isNameChar).head?,
          isNameChar c = false := Text.head?_dropWhile _
      have nameEq := List.takeWhile_append_dropWhile (p := isNameChar)
        (l := behind.dropWhile Text.isBlank)
      rw [nameless, List.nil_append] at nameEq
      rw [nameEq] at stops
      exact stops
    · simp only [spelling, UnnamedTag.spelling, hRest, List.append_assoc, leadEq]
      rfl
  · rename_i named
    split at hTag
    · rename_i neverCloses
      have nameEq := List.takeWhile_append_dropWhile (p := isNameChar)
        (l := behind.dropWhile Text.isBlank)
      refine ⟨.unclosed
        { lead := behind.takeWhile Text.isBlank
          name := (behind.dropWhile Text.isBlank).takeWhile isNameChar
          rest := (behind.dropWhile Text.isBlank).dropWhile isNameChar
          leadBlank := fun _ member => List.mem_takeWhile_imp member
          nameNonempty := named
          nameChars := fun _ member => List.mem_takeWhile_imp member
          nameMaximal := Text.head?_dropWhile _
          restOpen := ?_ }, ?_⟩
      · exact not_closed_of_cut neverCloses
      · simp only [spelling, UnclosedTag.spelling, hRest, List.append_assoc, nameEq, leadEq]
        rfl
    · cases hTag

/-! ### Readings -/

structure Reading where
  template : TemplateSpelling
  broken : Option BrokenTag

namespace Reading

def text (reading : Reading) : Text :=
  reading.template.spelling ++ reading.broken.elim [] BrokenTag.spelling

def faultAt (reading : Reading) (position : Position) : Option ScanError :=
  reading.broken.map (BrokenTag.fault (position.after reading.template.spelling))

def behind (segments : List Segment) (reading : Reading) : Reading :=
  ⟨⟨segments ++ reading.template.segments, reading.template.last⟩, reading.broken⟩

theorem text_behind (segments : List Segment) (reading : Reading) :
    (reading.behind segments).text = segments.flatMap Segment.spelling ++ reading.text := by
  simp only [text, behind, TemplateSpelling.spelling, List.flatMap_append, List.append_assoc]

theorem exists_text_eq (text : Text) : ∃ reading : Reading, reading.text = text := by
  -- One text and one tag are cut off the front, and the rest is shorter.
  induction size : text.length using Nat.strongRecOn generalizing text with
  | ind bound ih =>
      subst size
      have whole := Text.cutAtPair_append '{' '%' text
      let plain : PlainText := ⟨(Text.cutAtPair '{' '%' text).1,
        Text.not_infix_cutAtPair_fst '{' '%' text⟩
      by_cases ends : (Text.cutAtPair '{' '%' text).2 = []
      · refine ⟨⟨⟨[], plain⟩, none⟩, ?_⟩
        rw [ends] at whole
        exact whole
      · obtain ⟨behind, opened⟩ := Text.cutAtPair_snd_eq_cons ends
        rw [opened] at whole
        cases hTag : Cursor.scanTag ⟨'{' :: '%' :: behind, Position.start⟩ with
        | error fault =>
            obtain ⟨broken, spelled⟩ := BrokenTag.exists_of_scanTag rfl hTag
            refine ⟨⟨⟨[], plain⟩, some broken⟩, ?_⟩
            rw [← whole]
            exact congrArg (plain.text ++ ·) spelled.symm
        | ok scanned =>
            obtain ⟨tag, rest, spelled⟩ := TagSpelling.exists_of_scanTag rfl hTag
            dsimp only at spelled
            rw [spelled] at whole
            have shorter : rest.length < text.length := by
              have nonempty := List.length_pos_iff.mpr tag.spelling_ne_nil
              rw [← whole, List.length_append, List.length_append]
              omega
            obtain ⟨later, laterText⟩ := ih _ shorter rest rfl
            refine ⟨later.behind [⟨plain, tag⟩], ?_⟩
            rw [text_behind, laterText, ← whole, List.flatMap_singleton]
            exact List.append_assoc _ _ _

end Reading

namespace Lexer

/-- A lexer in front of a text delivers the tokens of its reading and then the fault of
the broken tag, if there is one. -/
theorem delivers_reading (reading : Reading) (position : Position) (shown : Option Token) :
    Delivers (⟨⟨reading.text, position⟩, shown, .between⟩ : Lexer)
      (reading.template.tokensAt position) (reading.faultAt position) := by
  obtain ⟨template, broken⟩ := reading
  have complete : template.tokensAt position ++ [] = template.tokensAt position :=
    List.append_nil _
  rw [← complete]
  cases broken with
  | none => exact delivers_template template (Or.inl rfl) (delivers_empty _ _)
  | some broken =>
      have opens := broken.exists_spelling_eq_cons
      apply delivers_template template (Or.inr opens)
      exact delivers_faulty ((Text.startsWithPair_eq_true_iff _ _ _).mpr opens)
        (broken.scanTag_spelling _)

theorem delivers_spelling (template : TemplateSpelling) (position : Position)
    (shown : Option Token) :
    Delivers (⟨⟨template.spelling, position⟩, shown, .between⟩ : Lexer)
      (template.tokensAt position) none := by
  have read := delivers_reading ⟨template, none⟩ position shown
  rw [show Reading.text ⟨template, none⟩ = template.spelling from List.append_nil _] at read
  exact read

theorem exists_spelling_of_delivers {tokens : List Token} (text : Text) (position : Position)
    (delivered : Delivers (⟨⟨text, position⟩, none, .between⟩ : Lexer) tokens none) :
    ∃ template : TemplateSpelling, template.spelling = text := by
  obtain ⟨⟨template, broken⟩, rfl⟩ := Reading.exists_text_eq text
  have faults := (delivered.unique (delivers_reading _ position none)).2
  cases broken with
  | none => exact ⟨template, (List.append_nil _).symm⟩
  | some broken => cases faults

end Lexer

/-! ### Other origins -/

namespace Position

/-- A position of a text, when the text begins at an origin and not at the start. -/
def rebase (origin position : Position) : Position :=
  if position.line = 1 then
    ⟨origin.line, origin.col + position.col - 1⟩
  else
    ⟨origin.line + position.line - 1, position.col⟩

/-- Moving over a text and changing all positions can be done in either order. -/
def Follows (move : Position → Position) (position : Position) : Prop :=
  ∀ text, (move position).after text = move (position.after text)

variable {move : Position → Position} {position : Position}

theorem Follows.after (follows : Follows move position) (text : Text) :
    Follows move (position.after text) := by
  intro more
  rw [← follows text, ← after_append, follows, after_append]

theorem rebase_start (origin : Position) : origin.rebase start = origin :=
  rfl

theorem rebase_next (origin : Position) (counted : 1 ≤ position.line ∧ 1 ≤ position.col)
    (c : Char) : (origin.rebase position).next c = origin.rebase (position.next c) := by
  obtain ⟨line, col⟩ := position
  obtain ⟨lineCounted, colCounted⟩ := counted
  dsimp only at lineCounted colCounted
  have lineBehind : line + 1 ≠ 1 := by omega
  unfold next
  by_cases newline : c = '\n'
  · have lines : origin.line + (line + 1) - 1 = origin.line + line - 1 + 1 := by omega
    rw [if_pos newline, if_pos newline, rebase, rebase]
    dsimp only
    rw [if_neg lineBehind, lines]
    by_cases first : line = 1
    · rw [if_pos first, first]
      rfl
    · rw [if_neg first]
  · rw [if_neg newline, if_neg newline, rebase, rebase]
    dsimp only
    by_cases first : line = 1
    · have cols : origin.col + (col + 1) - 1 = origin.col + col - 1 + 1 := by omega
      rw [if_pos first, if_pos first, cols]
    · rw [if_neg first, if_neg first]

theorem follows_rebase (origin : Position) : Follows origin.rebase start := by
  have counted (text : Text) (position : Position)
      (here : 1 ≤ position.line ∧ 1 ≤ position.col) :
      (origin.rebase position).after text = origin.rebase (position.after text) := by
    induction text generalizing position with
    | nil => rfl
    | cons c rest ih =>
        have behind : 1 ≤ (position.next c).line ∧ 1 ≤ (position.next c).col := by
          unfold next
          split
          · exact ⟨Nat.le_add_left 1 _, Nat.le_refl 1⟩
          · exact ⟨here.1, Nat.le_add_left 1 _⟩
        change ((origin.rebase position).next c).after rest = _
        rw [rebase_next origin here, ih _ behind]
        rfl
  intro text
  exact counted text start ⟨Nat.le_refl 1, Nat.le_refl 1⟩

end Position

def Token.mapPosition (move : Position → Position) (token : Token) : Token :=
  { token with position := move token.position }

def ScanError.mapPosition (move : Position → Position) : ScanError → ScanError
  | .unterminatedTag position => .unterminatedTag (move position)
  | .invalidTagName found position => .invalidTagName found (move position)

variable {move : Position → Position} {position : Position}

theorem TagSpelling.nameToken_move (tag : TagSpelling)
    (follows : Position.Follows move position) :
    tag.nameToken (move position) = (tag.nameToken position).mapPosition move := by
  unfold TagSpelling.nameToken
  rw [follows]
  rfl

theorem TagSpelling.contentsToken_move (tag : TagSpelling)
    (follows : Position.Follows move position) :
    tag.contentsToken (move position) = (tag.contentsToken position).mapPosition move := by
  unfold TagSpelling.contentsToken
  rw [follows]
  rfl

theorem PlainText.tokens_move (plain : PlainText) (move : Position → Position)
    (position : Position) :
    plain.tokens (move position) = (plain.tokens position).map (Token.mapPosition move) := by
  unfold PlainText.tokens
  split
  · rfl
  · rfl

theorem Segment.tokens_move (segment : Segment)
    (follows : Position.Follows move position) :
    segment.tokens (move position) =
      (segment.tokens position).map (Token.mapPosition move) := by
  have behind := follows.after segment.text.text
  unfold Segment.tokens
  dsimp only
  rw [follows, segment.text.tokens_move, segment.tag.nameToken_move behind,
    segment.tag.contentsToken_move behind, List.map_append]
  rfl

theorem Segment.tokensFrom_move (segments : List Segment)
    (follows : Position.Follows move position) :
    tokensFrom (move position) segments =
      (tokensFrom position segments).map (Token.mapPosition move) := by
  induction segments generalizing position with
  | nil => rfl
  | cons segment rest ih =>
      rw [tokensFrom, tokensFrom, segment.tokens_move follows, follows,
        ih (follows.after _), List.map_append]

theorem TemplateSpelling.tokensAt_move (template : TemplateSpelling)
    (follows : Position.Follows move position) :
    template.tokensAt (move position) =
      (template.tokensAt position).map (Token.mapPosition move) := by
  rw [tokensAt, tokensAt, Segment.tokensFrom_move _ follows, follows,
    template.last.tokens_move, List.map_append]

theorem BrokenTag.fault_move (broken : BrokenTag)
    (follows : Position.Follows move position) :
    broken.fault (move position) = (broken.fault position).mapPosition move := by
  cases broken with
  | unclosed tag => rfl
  | unnamed tag => exact congrArg (ScanError.invalidTagName (misnamed tag.rest)) (follows _)

theorem Reading.faultAt_move (reading : Reading)
    (follows : Position.Follows move position) :
    reading.faultAt (move position) =
      (reading.faultAt position).map (ScanError.mapPosition move) := by
  obtain ⟨template, broken⟩ := reading
  cases broken with
  | none => rfl
  | some broken =>
      unfold Reading.faultAt
      rw [follows]
      exact congrArg some (broken.fault_move (follows.after _))

end Stencil
