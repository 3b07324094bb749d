/-
How a template is spelled, and that the lexer reads it so.

A spelling is what a template can be cut into, whatever its tags mean: texts in which no
tag opens, and tags between them.  It fixes the tokens of the template, with their
positions, without reference to the lexer.

A tag is read back from its spelling, whatever stands behind it, and nothing else is read
as a tag.  From single tags the delivery of a whole template follows text by text and tag
by tag; at a tag that cannot be read it ends.
-/

import Stencil.Proofs.Text.Pair
import Stencil.Proofs.Token.Delivery

namespace Stencil

structure PlainText where
  text : Text
  plain : ¬ ['{', '%'] <:+: text

/-- A tag: blanks, the longest run of characters of names, blanks, and a body that
ends in front of the first `%}`. -/

structure TagSpelling where
  lead : Text
  name : Text
  gap : Text
  body : Text
  leadBlank : ∀ c ∈ lead, Text.isBlank c = true
  nameNonempty : name ≠ []
  nameChars : ∀ c ∈ name, isNameChar c = true
  nameMaximal : ∀ c ∈ (gap ++ body).head?, isNameChar c = false
  gapBlank : ∀ c ∈ gap, Text.isBlank c = true
  bodyOpen : ¬ ['%', '}'] <:+: body

structure Segment where
  text : PlainText
  tag : TagSpelling

/-- A template: texts with a tag behind each, and a last text. -/
structure TemplateSpelling where
  segments : List Segment
  last : PlainText

theorem isBlank_of_isNameChar {c : Char} (named : isNameChar c = true) :
    Text.isBlank c = false := by
  change (decide (c.val ≥ 'A'.val ∧ c.val ≤ 'Z'.val) || c.val ≥ 'a'.val && c.val ≤ 'z'.val ||
    c.val ≥ '0'.val && c.val ≤ '9'.val || c == '_') = true at named
  simp only [Bool.or_eq_true, Bool.and_eq_true, decide_eq_true_eq, beq_iff_eq,
    ge_iff_le, UInt32.le_iff_toNat_le] at named
  have bounded : 48 ≤ c.toNat ∧ c.toNat ≤ 122 := by
    rcases named with ((upper | lower) | digit) | rfl
    · exact ⟨Nat.le_trans (by decide) upper.1, Nat.le_trans upper.2 (by decide)⟩
    · exact ⟨Nat.le_trans (by decide) lower.1, Nat.le_trans lower.2 (by decide)⟩
    · exact ⟨Nat.le_trans (by decide) digit.1, Nat.le_trans digit.2 (by decide)⟩
    · decide
  simp only [Text.isBlank, Text.inRanges, Text.blankRanges, List.any_cons, List.any_nil,
    Bool.or_false, Bool.or_eq_false_iff, Bool.and_eq_false_iff, decide_eq_false_iff_not]
  omega

theorem head?_not_blank_of_name {name : Text} (nonempty : name ≠ [])
    (nameChars : ∀ c ∈ name, isNameChar c = true) (rest : Text) :
    ∀ c ∈ (name ++ rest).head?, Text.isBlank c = false := by
  intro c first
  obtain ⟨d, later, rfl⟩ := List.exists_cons_of_ne_nil nonempty
  obtain rfl : d = c := Option.some.inj first
  exact isBlank_of_isNameChar (nameChars d List.mem_cons_self)

namespace TagSpelling

def spelling (tag : TagSpelling) : Text :=
  ['{', '%'] ++ tag.lead ++ tag.name ++ tag.gap ++ tag.body ++ ['%', '}']

def contents (tag : TagSpelling) : Text :=
  Text.strip Text.isBlank tag.body

def nameToken (tag : TagSpelling) (position : Position) : Token :=
  ⟨.tagName, tag.name, position.after (['{', '%'] ++ tag.lead)⟩

def contentsToken (tag : TagSpelling) (position : Position) : Token :=
  ⟨.tagContents, tag.contents,
    position.after (['{', '%'] ++ tag.lead ++ tag.name ++ tag.gap ++
      tag.body.takeWhile Text.isBlank)⟩

theorem spelling_ne_nil (tag : TagSpelling) : tag.spelling ≠ [] := by
  simp [spelling]

end TagSpelling

def PlainText.tokens (plain : PlainText) (position : Position) : List Token :=
  if plain.text = [] then [] else [⟨.text, plain.text, position⟩]

namespace Segment

def spelling (segment : Segment) : Text :=
  segment.text.text ++ segment.tag.spelling

def tokens (segment : Segment) (position : Position) : List Token :=
  let behind := position.after segment.text.text
  segment.text.tokens position ++
    [segment.tag.nameToken behind, segment.tag.contentsToken behind]

def tokensFrom (position : Position) : List Segment → List Token
  | [] => []
  | segment :: rest =>
      segment.tokens position ++ tokensFrom (position.after segment.spelling) rest

theorem tokensFrom_append (position : Position) (first second : List Segment) :
    tokensFrom position (first ++ second) =
      tokensFrom position first ++
        tokensFrom (position.after (first.flatMap spelling)) second := by
  induction first generalizing position with
  | nil => rfl
  | cons segment rest ih =>
      simp only [List.cons_append, tokensFrom, ih, List.append_assoc, List.flatMap_cons,
        Position.after_append]

end Segment

namespace TemplateSpelling

def spelling (template : TemplateSpelling) : Text :=
  template.segments.flatMap Segment.spelling ++ template.last.text

def tokensAt (template : TemplateSpelling) (position : Position) : List Token :=
  Segment.tokensFrom position template.segments ++
    template.last.tokens (position.after (template.segments.flatMap Segment.spelling))

def tokens (template : TemplateSpelling) : List Token :=
  template.tokensAt Position.start

def texts (template : TemplateSpelling) : List Text :=
  template.segments.map (·.text.text) ++ [template.last.text]

def names (template : TemplateSpelling) : List Text :=
  template.segments.map (·.tag.name)

def extents (template : TemplateSpelling) : List Text :=
  template.segments.map (·.tag.spelling)

theorem spelling_cons (segment : Segment) (rest : List Segment) (last : PlainText) :
    spelling ⟨segment :: rest, last⟩ = segment.spelling ++ spelling ⟨rest, last⟩ := by
  simp [spelling]

theorem tokensAt_cons (segment : Segment) (rest : List Segment) (last : PlainText)
    (position : Position) :
    tokensAt ⟨segment :: rest, last⟩ position =
      segment.tokens position ++
        tokensAt ⟨rest, last⟩ (position.after segment.spelling) := by
  simp only [tokensAt, Segment.tokensFrom, List.append_assoc, List.flatMap_cons,
    Position.after_append]

end TemplateSpelling

/-! ### Reading a tag -/

namespace Cursor

theorem skipWhile_append {inClass : Char → Bool} {run behind : Text}
    (belongs : ∀ c ∈ run, inClass c = true)
    (ends : ∀ c ∈ behind.head?, inClass c = false) (position : Position) :
    Cursor.skipWhile ⟨run ++ behind, position⟩ inClass = ⟨behind, position.after run⟩ := by
  have kept := List.takeWhile_eq_self_iff.mpr belongs
  have gone := List.dropWhile_eq_nil_iff.mpr belongs
  simp only [skipWhile]
  rw [Text.takeWhile_append_of_ends ends, Text.dropWhile_append_of_ends ends, kept, gone]
  rfl

theorem skip_lead {lead behind : Text} (blank : ∀ c ∈ lead, Text.isBlank c = true)
    (ends : ∀ c ∈ behind.head?, Text.isBlank c = false) (position : Position) :
    (Cursor.skip ⟨'{' :: '%' :: (lead ++ behind), position⟩ 2).skipWhile Text.isBlank =
      ⟨behind, position.after (['{', '%'] ++ lead)⟩ := by
  rw [Position.after_append]
  exact skipWhile_append blank ends (position.after ['{', '%'])

end Cursor

namespace TagSpelling

theorem head?_behind_name (tag : TagSpelling) (rest : Text) :
    ∀ c ∈ (tag.gap ++ tag.body ++ '%' :: '}' :: rest).head?, isNameChar c = false := by
  intro c first
  cases hRest : tag.gap ++ tag.body with
  | nil =>
      rw [hRest] at first
      cases first
      decide
  | cons d later =>
      rw [hRest] at first
      cases first
      apply tag.nameMaximal
      rw [hRest]
      rfl

theorem bodyOpen_dropWhile (tag : TagSpelling) :
    ¬ ['%', '}'] <:+: tag.body.dropWhile Text.isBlank := by
  intro inside
  exact tag.bodyOpen (inside.trans (List.dropWhile_suffix _).isInfix)

theorem takeWhile_gap_body (tag : TagSpelling) (rest : Text) :
    (tag.gap ++ tag.body ++ '%' :: '}' :: rest).takeWhile Text.isBlank =
      tag.gap ++ tag.body.takeWhile Text.isBlank := by
  have ends : ∀ c ∈ ('%' :: '}' :: rest).head?, Text.isBlank c = false := by
    intro c first
    cases first
    decide
  rw [Text.takeWhile_append_of_ends ends, List.takeWhile_append_of_pos tag.gapBlank]

theorem dropWhile_gap_body (tag : TagSpelling) (rest : Text) :
    (tag.gap ++ tag.body ++ '%' :: '}' :: rest).dropWhile Text.isBlank =
      tag.body.dropWhile Text.isBlank ++ '%' :: '}' :: rest := by
  have ends : ∀ c ∈ ('%' :: '}' :: rest).head?, Text.isBlank c = false := by
    intro c first
    cases first
    decide
  rw [Text.dropWhile_append_of_ends ends, List.dropWhile_append_of_pos tag.gapBlank]

/-- A tag is read back from its spelling. -/
theorem scanTag_spelling (tag : TagSpelling) (rest : Text) (position : Position) :
    Cursor.scanTag ⟨tag.spelling ++ rest, position⟩ =
      .ok ⟨tag.nameToken position, tag.contentsToken position,
        ⟨rest, position.after tag.spelling⟩⟩ := by
  have name := List.takeWhile_eq_self_iff.mpr tag.nameChars
  have whole : tag.spelling ++ rest =
      '{' :: '%' :: (tag.lead ++ (tag.name ++
        (tag.gap ++ tag.body ++ '%' :: '}' :: rest))) := by
    simp [spelling]
  have atName := head?_not_blank_of_name tag.nameNonempty tag.nameChars
    (tag.gap ++ tag.body ++ '%' :: '}' :: rest)
  have named := Cursor.skip_lead tag.leadBlank atName position
  have behind := tag.head?_behind_name rest
  have inner : (Cursor.skipWhile
        ⟨tag.name ++ (tag.gap ++ tag.body ++ '%' :: '}' :: rest),
          position.after (['{', '%'] ++ tag.lead)⟩ isNameChar).skipWhile Text.isBlank =
      ⟨tag.body.dropWhile Text.isBlank ++ '%' :: '}' :: rest,
        (tag.contentsToken position).position⟩ := by
    rw [Cursor.skipWhile_append tag.nameChars behind]
    simp only [Cursor.skipWhile, takeWhile_gap_body, dropWhile_gap_body]
    simp only [contentsToken, Position.after_append, List.append_assoc]
  have body := Text.cutAtPair_append_pair (by decide) tag.bodyOpen_dropWhile rest
  have nonempty : tag.name.isEmpty = false := by
    simpa using tag.nameNonempty
  have closing : position.after tag.spelling =
      (((tag.contentsToken position).position.after
        (tag.body.dropWhile Text.isBlank)).after ['%', '}']) := by
    have bodyEq := List.takeWhile_append_dropWhile (p := Text.isBlank) (l := tag.body)
    simp only [contentsToken, ← Position.after_append, spelling, List.append_assoc]
    rw [← List.append_assoc (tag.body.takeWhile _), bodyEq]
  unfold Cursor.scanTag
  dsimp only
  rw [whole, named, inner, body]
  dsimp only
  rw [Text.takeWhile_append_of_ends behind, name, nonempty, closing]
  simp only [Cursor.skip, List.drop_left, List.take_left]
  rfl

/-- The tag that is cut out of the text behind `{%`, when there is a name and the tag
is closed. -/
def ofCuts (behind : Text)
    (named : (behind.dropWhile Text.isBlank).takeWhile isNameChar ≠ []) : TagSpelling :=
  let unnamed := (behind.dropWhile Text.isBlank).dropWhile isNameChar
  { lead := behind.takeWhile Text.isBlank
    name := (behind.dropWhile Text.isBlank).takeWhile isNameChar
    gap := unnamed.takeWhile Text.isBlank
    body := (Text.cutAtPair '%' '}' (unnamed.dropWhile Text.isBlank)).1
    leadBlank := fun _ member => List.mem_takeWhile_imp member
    nameNonempty := named
    nameChars := fun _ member => List.mem_takeWhile_imp member
    nameMaximal := by
      intro c first
      apply Text.head?_dropWhile (behind.dropWhile Text.isBlank)
      have gapEq := List.takeWhile_append_dropWhile (p := Text.isBlank) (l := unnamed)
      have bodyEq := Text.cutAtPair_append '%' '}' (unnamed.dropWhile Text.isBlank)
      change c ∈ unnamed.head?
      rw [← gapEq, ← bodyEq, ← List.append_assoc, List.head?_append,
        Option.mem_def.mp first]
      rfl
    gapBlank := fun _ member => List.mem_takeWhile_imp member
    bodyOpen := Text.not_infix_cutAtPair_fst _ _ _ }

/-- Whatever is read as a tag is the spelling of one. -/
theorem exists_of_scanTag {opening : Cursor} {scanned : ScannedTag}
    (opens : opening.opensTag = true) (hTag : opening.scanTag = .ok scanned) :
    ∃ (tag : TagSpelling) (rest : Text), opening.rest = tag.spelling ++ rest := by
  obtain ⟨behind, hRest⟩ := (Text.startsWithPair_eq_true_iff _ _ _).mp opens
  simp only [Cursor.scanTag, Cursor.skip, Cursor.skipWhile, hRest, List.drop_succ_cons,
    List.drop_zero, Text.drop_length_cutAtPair, List.isEmpty_iff] at hTag
  split at hTag
  · cases hTag
  · rename_i named
    split at hTag
    · cases hTag
    · rename_i closes
      obtain ⟨rest, closed⟩ := Text.cutAtPair_snd_eq_cons closes
      refine ⟨ofCuts behind named, rest, ?_⟩
      have whole : behind =
          (ofCuts behind named).lead ++ ((ofCuts behind named).name ++
            ((ofCuts behind named).gap ++ ((ofCuts behind named).body ++
              '%' :: '}' :: rest))) := by
        rw [← closed]
        simp only [ofCuts, Text.cutAtPair_append, List.takeWhile_append_dropWhile]
      rw [hRest]
      simp only [spelling, List.append_assoc, List.cons_append, List.nil_append]
      exact congrArg (fun text => '{' :: '%' :: text) whole

/-- The spelling of a tag ends by itself: with anything behind it, it is read alike. -/
theorem spelling_append_inj {first second : TagSpelling} {rest otherRest : Text}
    (same : first.spelling ++ rest = second.spelling ++ otherRest) :
    first.name = second.name ∧ first.spelling = second.spelling ∧ rest = otherRest := by
  have firstRead := first.scanTag_spelling rest Position.start
  rw [same, second.scanTag_spelling otherRest Position.start] at firstRead
  injection firstRead with scanned
  injection scanned with names _ behind
  injection names with _ nameEq _
  injection behind with restEq _
  rw [restEq] at same
  exact ⟨nameEq.symm, List.append_cancel_right same, restEq.symm⟩

end TagSpelling

/-! ### Delivery of a template -/

namespace Lexer

/-- What a lexer delivers does not depend on the token that it shows. -/
theorem delivers_of_current {cursor : Cursor} {phase : LexerPhase}
    {shown other : Option Token} {tokens : List Token} {fault : Option ScanError}
    (delivered : Delivers (⟨cursor, shown, phase⟩ : Lexer) tokens fault) :
    Delivers (⟨cursor, other, phase⟩ : Lexer) tokens fault := by
  cases delivered with
  | ended stops reported => exact .ended stops reported
  | pulled comes later => exact .pulled comes later

theorem next_text {plain : PlainText} (nonempty : plain.text ≠ []) {rest : Text}
    (stops : rest = [] ∨ ∃ behind, rest = '{' :: '%' :: behind) (position : Position)
    (shown : Option Token) :
    TokenSource.next (⟨⟨plain.text ++ rest, position⟩, shown, .between⟩ : Lexer) =
      (some ⟨.text, plain.text, position⟩,
        ⟨⟨rest, position.after plain.text⟩, some ⟨.text, plain.text, position⟩,
          .between⟩) := by
  have cut : Text.cutAtPair '{' '%' (plain.text ++ rest) = (plain.text, rest) := by
    rcases stops with rfl | ⟨behind, rfl⟩
    · rw [List.append_nil]
      exact Text.cutAtPair_of_free plain.plain
    · exact Text.cutAtPair_append_pair (by decide) plain.plain behind
  have notEmpty : (plain.text ++ rest).isEmpty = false := by
    simp [nonempty]
  have notOpen : Cursor.opensTag ⟨plain.text ++ rest, position⟩ = false := by
    apply Bool.eq_false_iff.mpr
    intro opens
    obtain ⟨behind, whole⟩ := (Text.startsWithPair_eq_true_iff _ _ _).mp opens
    rw [show plain.text ++ rest = '{' :: '%' :: behind from whole] at cut
    simp only [Text.cutAtPair, Text.startsWithPair, beq_self_eq_true, Bool.and_self,
      if_true, Prod.mk.injEq] at cut
    exact nonempty cut.1.symm
  have step : Lexer.advance ⟨⟨plain.text ++ rest, position⟩, shown, .between⟩ =
      (true, ⟨⟨rest, position.after plain.text⟩, some ⟨.text, plain.text, position⟩,
        .between⟩) := by
    unfold Lexer.advance Lexer.textToken
    dsimp only
    rw [notEmpty, notOpen, cut]
    simp [Cursor.skip]
  change (if (Lexer.advance _).1 then (Lexer.advance _).2.current else none,
    (Lexer.advance _).2) = _
  rw [step]
  rfl

theorem next_tag (tag : TagSpelling) (rest : Text) (position : Position)
    (shown : Option Token) :
    TokenSource.next (⟨⟨tag.spelling ++ rest, position⟩, shown, .between⟩ : Lexer) =
      (some (tag.nameToken position),
        ⟨⟨rest, position.after tag.spelling⟩, some (tag.nameToken position),
          .named (tag.contentsToken position)⟩) := by
  have notEmpty : (tag.spelling ++ rest).isEmpty = false := by
    simp [tag.spelling_ne_nil]
  have opens : Cursor.opensTag ⟨tag.spelling ++ rest, position⟩ = true := rfl
  have step : Lexer.advance ⟨⟨tag.spelling ++ rest, position⟩, shown, .between⟩ =
      (true, ⟨⟨rest, position.after tag.spelling⟩, some (tag.nameToken position),
        .named (tag.contentsToken position)⟩) := by
    unfold Lexer.advance
    dsimp only
    rw [notEmpty, opens, tag.scanTag_spelling]
    rfl
  change (if (Lexer.advance _).1 then (Lexer.advance _).2.current else none,
    (Lexer.advance _).2) = _
  rw [step]
  rfl

variable {rest : Text} {position : Position} {shown : Option Token}
  {tokens : List Token} {fault : Option ScanError}

theorem delivers_text (plain : PlainText)
    (stops : rest = [] ∨ ∃ behind, rest = '{' :: '%' :: behind)
    (later : Delivers (⟨⟨rest, position.after plain.text⟩, none, .between⟩ : Lexer)
      tokens fault) :
    Delivers (⟨⟨plain.text ++ rest, position⟩, shown, .between⟩ : Lexer)
      (plain.tokens position ++ tokens) fault := by
  by_cases empty : plain.text = []
  · simp only [PlainText.tokens, empty, if_true, List.nil_append] at later ⊢
    exact delivers_of_current later
  · have comes := next_text empty stops position shown
    rw [PlainText.tokens, if_neg empty, List.singleton_append]
    apply Delivers.pulled (by rw [comes])
    rw [comes]
    exact delivers_of_current later

theorem delivers_tag (tag : TagSpelling)
    (later : Delivers (⟨⟨rest, position.after tag.spelling⟩, none, .between⟩ : Lexer)
      tokens fault) :
    Delivers (⟨⟨tag.spelling ++ rest, position⟩, shown, .between⟩ : Lexer)
      (tag.nameToken position :: tag.contentsToken position :: tokens) fault := by
  have comes := next_tag tag rest position shown
  apply Delivers.pulled (by rw [comes])
  rw [comes]
  refine Delivers.pulled ?_ (delivers_of_current later)
  rfl

theorem delivers_segment (segment : Segment)
    (later : Delivers (⟨⟨rest, position.after segment.spelling⟩, none, .between⟩ : Lexer)
      tokens fault) :
    Delivers (⟨⟨segment.spelling ++ rest, position⟩, shown, .between⟩ : Lexer)
      (segment.tokens position ++ tokens) fault := by
  rw [Segment.spelling, Position.after_append] at later
  rw [Segment.spelling, Segment.tokens, List.append_assoc, List.append_assoc]
  exact delivers_text segment.text (Or.inr ⟨_, rfl⟩) (delivers_tag segment.tag later)

theorem delivers_segments (segments : List Segment)
    (later : Delivers
      (⟨⟨rest, position.after (segments.flatMap Segment.spelling)⟩, none, .between⟩ : Lexer)
      tokens fault) :
    Delivers
      (⟨⟨segments.flatMap Segment.spelling ++ rest, position⟩, shown, .between⟩ : Lexer)
      (Segment.tokensFrom position segments ++ tokens) fault := by
  induction segments generalizing position shown with
  | nil => exact delivers_of_current later
  | cons segment segments ih =>
      rw [List.flatMap_cons, Position.after_append] at later
      rw [List.flatMap_cons, List.append_assoc, Segment.tokensFrom, List.append_assoc]
      exact delivers_segment segment (ih later)

theorem delivers_template (template : TemplateSpelling)
    (stops : rest = [] ∨ ∃ behind, rest = '{' :: '%' :: behind)
    (later : Delivers
      (⟨⟨rest, position.after template.spelling⟩, none, .between⟩ : Lexer) tokens fault) :
    Delivers (⟨⟨template.spelling ++ rest, position⟩, shown, .between⟩ : Lexer)
      (template.tokensAt position ++ tokens) fault := by
  obtain ⟨segments, last⟩ := template
  rw [TemplateSpelling.spelling, Position.after_append] at later
  rw [TemplateSpelling.spelling, TemplateSpelling.tokensAt, List.append_assoc,
    List.append_assoc]
  exact delivers_segments segments (delivers_text last stops later)

theorem delivers_empty (position : Position) (shown : Option Token) :
    Delivers (⟨⟨[], position⟩, shown, .between⟩ : Lexer) [] none :=
  .ended rfl rfl

theorem delivers_faulty {cursor : Cursor} {fault : ScanError}
    (opens : cursor.opensTag = true) (hTag : cursor.scanTag = .error fault) :
    Delivers (⟨cursor, shown, .between⟩ : Lexer) [] (some fault) := by
  obtain ⟨behind, hRest⟩ := (Text.startsWithPair_eq_true_iff _ _ _).mp opens
  have step : Lexer.advance ⟨cursor, shown, .between⟩ =
      (false, ⟨cursor, none, .finished (some fault)⟩) := by
    unfold Lexer.advance
    dsimp only
    rw [opens, hTag, hRest]
    rfl
  apply Delivers.ended
  · change (if (Lexer.advance _).1 then _ else none) = none
    rw [step]
    rfl
  · change Lexer.lastError (Lexer.advance _).2 = some fault
    rw [step]
    rfl

end Lexer
end Stencil
