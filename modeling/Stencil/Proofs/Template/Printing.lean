/-
Templates printed anew.

What is printed is a list of texts and tags, and for each tag any blanks at the three places
where a tag may have some.  The lexer reads the list back: no delimiter arises where two
parts meet, for the longest name ends where its gap or its contents begin, blanks take no
part in `%}`, and a text is cut off only by a tag.

What a template is compiled to is decided by the kinds and the characters of its tokens, so
a template may be replaced by what is printed of its tokens.
-/

import Mathlib.Data.List.Chain
import Stencil.Proofs.Compilation.Relabeling

namespace Stencil

def Token.unplaced (token : Token) : TokenKind × Text :=
  (token.kind, token.value)

/-- A tag to be printed.  Its contents can be told from the blanks around them, and they do
not run into the name. -/
structure PaddedTag where
  lead : Text
  name : Text
  gap : Text
  contents : Text
  trail : Text
  leadBlank : ∀ c ∈ lead, Text.isBlank c = true
  nameNonempty : name ≠ []
  nameChars : ∀ c ∈ name, isNameChar c = true
  gapBlank : ∀ c ∈ gap, Text.isBlank c = true
  apart : ∀ c ∈ contents.head?, isNameChar c = true → gap ≠ []
  contentsOpen : ¬ ['%', '}'] <:+: contents
  contentsBegin : ∀ c ∈ contents.head?, Text.isBlank c = false
  contentsEnd : ∀ c ∈ contents.getLast?, Text.isBlank c = false
  trailBlank : ∀ c ∈ trail, Text.isBlank c = true

theorem isNameChar_of_isBlank {c : Char} (blank : Text.isBlank c = true) :
    isNameChar c = false := by
  cases named : isNameChar c with
  | false => rfl
  | true =>
      rw [isBlank_of_isNameChar named] at blank
      cases blank

namespace PaddedTag

def print (tag : PaddedTag) : Text :=
  ['{', '%'] ++ tag.lead ++ tag.name ++ tag.gap ++ tag.contents ++ tag.trail ++ ['%', '}']

def unplaced (tag : PaddedTag) : List (TokenKind × Text) :=
  [(.tagName, tag.name), (.tagContents, tag.contents)]

theorem head?_behind_name (tag : PaddedTag) :
    ∀ c ∈ (tag.gap ++ (tag.contents ++ tag.trail)).head?, isNameChar c = false := by
  intro c first
  rw [List.head?_append] at first
  cases gap : tag.gap.head? with
  | some d =>
      rw [gap] at first
      cases first
      exact isNameChar_of_isBlank (tag.gapBlank c (List.mem_of_head? gap))
  | none =>
      rw [gap, Option.none_or, List.head?_append] at first
      cases contents : tag.contents.head? with
      | some d =>
          rw [contents] at first
          cases first
          cases named : isNameChar c with
          | false => rfl
          | true => exact absurd (List.head?_eq_none_iff.mp gap) (tag.apart c contents named)
      | none =>
          rw [contents, Option.none_or] at first
          exact isNameChar_of_isBlank (tag.trailBlank c (List.mem_of_head? first))

theorem bodyOpen (tag : PaddedTag) : ¬ ['%', '}'] <:+: tag.contents ++ tag.trail := by
  apply Text.not_infix_append tag.contentsOpen
  · intro inside
    have blank := tag.trailBlank '%' (inside.subset List.mem_cons_self)
    revert blank
    decide
  · intro divided
    have blank := tag.trailBlank '}' (List.mem_of_head? divided.2)
    revert blank
    decide

def spelled (tag : PaddedTag) : TagSpelling where
  lead := tag.lead
  name := tag.name
  gap := tag.gap
  body := tag.contents ++ tag.trail
  leadBlank := tag.leadBlank
  nameNonempty := tag.nameNonempty
  nameChars := tag.nameChars
  nameMaximal := tag.head?_behind_name
  gapBlank := tag.gapBlank
  bodyOpen := tag.bodyOpen

theorem spelling_spelled (tag : PaddedTag) : tag.spelled.spelling = tag.print := by
  simp only [TagSpelling.spelling, spelled, print, List.append_assoc]

theorem contents_spelled (tag : PaddedTag) : tag.spelled.contents = tag.contents := by
  change Text.trimEnd Text.isBlank ((tag.contents ++ tag.trail).dropWhile Text.isBlank) = _
  cases contents : tag.contents with
  | nil =>
      have gone : ([] ++ tag.trail).dropWhile Text.isBlank = [] :=
        List.dropWhile_eq_nil_iff.mpr tag.trailBlank
      rw [gone]
      rfl
  | cons c rest =>
      have ends := tag.contentsEnd
      have begins : ∀ d ∈ (c :: rest ++ tag.trail).head?, Text.isBlank d = false := by
        intro d first
        cases first
        apply tag.contentsBegin
        rw [contents]
        rfl
      rw [contents] at ends
      rw [Text.dropWhile_eq_self begins, Text.trimEnd_append_of_ends ends tag.trailBlank]

end PaddedTag

inductive PrintedItem where
  | text (plain : PlainText) (nonempty : plain.text ≠ [])
  | tag (padded : PaddedTag)

namespace PrintedItem

def isText : PrintedItem → Bool
  | text _ _ => true
  | tag _ => false

def print : PrintedItem → Text
  | text plain _ => plain.text
  | tag padded => padded.print

def unplaced : PrintedItem → List (TokenKind × Text)
  | text plain _ => [(.text, plain.text)]
  | tag padded => padded.unplaced

/-- Two texts next to each other would be read as one. -/
def Separated (items : List PrintedItem) : Prop :=
  items.IsChain fun item next => ¬ (item.isText = true ∧ next.isText = true)

theorem stops_behind_text {plain : PlainText} {nonempty : plain.text ≠ []}
    {items : List PrintedItem} (separated : Separated (text plain nonempty :: items)) :
    items.flatMap print = [] ∨ ∃ behind, items.flatMap print = '{' :: '%' :: behind := by
  cases items with
  | nil => exact Or.inl rfl
  | cons next items =>
      cases next with
      | text other otherNonempty =>
          exact absurd ⟨rfl, rfl⟩ (List.isChain_cons_cons.mp separated).1
      | tag tag =>
          refine Or.inr ⟨tag.lead ++ tag.name ++ tag.gap ++ tag.contents ++ tag.trail ++
            ['%', '}'] ++ items.flatMap print, ?_⟩
          rw [List.flatMap_cons]
          simp only [print, PaddedTag.print, List.append_assoc, List.cons_append,
            List.nil_append]

/-- A lexer in front of printed items delivers their tokens. -/
theorem exists_delivers {items : List PrintedItem} (separated : Separated items)
    (position : Position) (shown : Option Token) :
    ∃ tokens, Delivers (⟨⟨items.flatMap print, position⟩, shown, .between⟩ : Lexer) tokens none ∧
      tokens.map Token.unplaced = items.flatMap unplaced := by
  induction items generalizing position shown with
  | nil => exact ⟨[], Lexer.delivers_empty position shown, rfl⟩
  | cons item items ih =>
      have later := ih separated.tail
      cases item with
      | text plain nonempty =>
          obtain ⟨tokens, delivered, same⟩ := later (position.after plain.text) none
          refine ⟨plain.tokens position ++ tokens,
            Lexer.delivers_text plain (stops_behind_text separated) delivered, ?_⟩
          rw [PlainText.tokens, if_neg nonempty, List.map_append, same]
          rfl
      | tag tag =>
          obtain ⟨tokens, delivered, same⟩ :=
            later (position.after tag.spelled.spelling) none
          refine ⟨tag.spelled.nameToken position :: tag.spelled.contentsToken position ::
            tokens, ?_, ?_⟩
          · rw [List.flatMap_cons, print, ← tag.spelling_spelled]
            exact Lexer.delivers_tag tag.spelled delivered
          · rw [List.map_cons, List.map_cons, same, Token.unplaced, Token.unplaced,
              TagSpelling.contentsToken, tag.contents_spelled]
            rfl

end PrintedItem

def Token.print (token : Token) : Text :=
  match token.kind with
  | .text => token.value
  | .tagName => "\x7b% ".toList ++ token.value
  | .tagContents => ' ' :: token.value ++ " %\x7d".toList

namespace TagSpelling

theorem contents_infix (tag : TagSpelling) : tag.contents <:+: tag.body :=
  (Text.trimEnd_prefix _ _).isInfix.trans (List.dropWhile_suffix _).isInfix

theorem contents_not_blank (tag : TagSpelling) :
    (∀ c ∈ tag.contents.head?, Text.isBlank c = false) ∧
      ∀ c ∈ tag.contents.getLast?, Text.isBlank c = false := by
  constructor
  · intro c first
    obtain ⟨more, whole⟩ :=
      Text.trimEnd_prefix Text.isBlank (tag.body.dropWhile Text.isBlank)
    apply Text.head?_dropWhile tag.body
    rw [← whole, List.head?_append]
    exact congrArg (Option.or · more.head?) first
  · exact Text.getLast?_trimEnd Text.isBlank (tag.body.dropWhile Text.isBlank)

theorem isBlank_of_mem_space : ∀ c ∈ [' '], Text.isBlank c = true := by
  intro c member
  rw [List.mem_singleton.mp member]
  decide

def spaced (tag : TagSpelling) : PaddedTag where
  lead := [' ']
  name := tag.name
  gap := [' ']
  contents := tag.contents
  trail := [' ']
  leadBlank := isBlank_of_mem_space
  nameNonempty := tag.nameNonempty
  nameChars := tag.nameChars
  gapBlank := isBlank_of_mem_space
  apart := fun _ _ _ => List.cons_ne_nil _ _
  contentsOpen := fun inside => tag.bodyOpen (inside.trans tag.contents_infix)
  contentsBegin := tag.contents_not_blank.1
  contentsEnd := tag.contents_not_blank.2
  trailBlank := isBlank_of_mem_space

end TagSpelling

def PlainText.items (plain : PlainText) : List PrintedItem :=
  if nonempty : plain.text ≠ [] then [.text plain nonempty] else []

def Segment.items (segment : Segment) : List PrintedItem :=
  segment.text.items ++ [.tag segment.tag.spaced]

/-- The texts and tags of a template, with single blanks. -/
def TemplateSpelling.items (template : TemplateSpelling) : List PrintedItem :=
  template.segments.flatMap Segment.items ++ template.last.items

theorem PlainText.print_tokens (plain : PlainText) (position : Position) :
    (plain.tokens position).flatMap Token.print = plain.items.flatMap PrintedItem.print ∧
      (plain.tokens position).map Token.unplaced =
        plain.items.flatMap PrintedItem.unplaced := by
  unfold PlainText.tokens PlainText.items
  by_cases empty : plain.text = []
  · rw [if_pos empty, dif_neg (not_not_intro empty)]
    exact ⟨rfl, rfl⟩
  · rw [if_neg empty, dif_pos empty]
    exact ⟨rfl, rfl⟩

theorem Segment.print_tokens (segment : Segment) (position : Position) :
    (segment.tokens position).flatMap Token.print =
        segment.items.flatMap PrintedItem.print ∧
      (segment.tokens position).map Token.unplaced =
        segment.items.flatMap PrintedItem.unplaced := by
  obtain ⟨printed, same⟩ := segment.text.print_tokens position
  constructor
  · rw [Segment.tokens, Segment.items, List.flatMap_append, List.flatMap_append, printed]
    simp [Token.print, TagSpelling.nameToken, TagSpelling.contentsToken, PrintedItem.print,
      PaddedTag.print, TagSpelling.spaced]
  · rw [Segment.tokens, Segment.items, List.map_append, List.flatMap_append, same]
    rfl

namespace TemplateSpelling

theorem print_tokensAt (template : TemplateSpelling) (position : Position) :
    (template.tokensAt position).flatMap Token.print =
        template.items.flatMap PrintedItem.print ∧
      (template.tokensAt position).map Token.unplaced =
        template.items.flatMap PrintedItem.unplaced := by
  obtain ⟨segments, last⟩ := template
  induction segments generalizing position with
  | nil => exact last.print_tokens position
  | cons segment segments ih =>
      obtain ⟨printed, same⟩ := segment.print_tokens position
      obtain ⟨laterPrinted, laterSame⟩ := ih (position.after segment.spelling)
      have items : items ⟨segment :: segments, last⟩ =
          segment.items ++ TemplateSpelling.items ⟨segments, last⟩ := by
        simp only [TemplateSpelling.items, List.flatMap_cons, List.append_assoc]
      rw [tokensAt_cons, items, List.flatMap_append, List.flatMap_append, List.map_append,
        List.flatMap_append, printed, same, laterPrinted, laterSame]
      exact ⟨rfl, rfl⟩

theorem separated_tag (tag : PaddedTag) {items : List PrintedItem}
    (separated : PrintedItem.Separated items) :
    PrintedItem.Separated (.tag tag :: items) := by
  refine List.isChain_cons.mpr ⟨?_, separated⟩
  rintro next _ ⟨isText, _⟩
  cases isText

theorem separated_text (plain : PlainText) {tag : PaddedTag} {items : List PrintedItem}
    (separated : PrintedItem.Separated (.tag tag :: items)) :
    PrintedItem.Separated (plain.items ++ .tag tag :: items) := by
  unfold PlainText.items
  split
  · refine List.isChain_cons_cons.mpr ⟨?_, separated⟩
    rintro ⟨_, isText⟩
    cases isText
  · exact separated

theorem items_separated (template : TemplateSpelling) :
    PrintedItem.Separated template.items := by
  obtain ⟨segments, last⟩ := template
  induction segments with
  | nil =>
      change PrintedItem.Separated last.items
      unfold PlainText.items
      split
      · exact List.isChain_singleton _
      · exact List.IsChain.nil
  | cons segment segments ih =>
      have whole := separated_text segment.text (separated_tag segment.tag.spaced ih)
      simpa only [items, List.flatMap_cons, Segment.items, List.append_assoc,
        List.cons_append, List.nil_append] using whole

end TemplateSpelling

/-! ### Compiling what is printed -/

theorem Token.map_mapPosition_of_unplaced {first second : List Token}
    (same : first.map unplaced = second.map unplaced) (position : Position) :
    first.map (mapPosition fun _ => position) = second.map (mapPosition fun _ => position) := by
  let placed (word : TokenKind × Text) : Token := ⟨word.1, word.2, position⟩
  have split (tokens : List Token) :
      tokens.map (mapPosition fun _ => position) = (tokens.map unplaced).map placed := by
    rw [List.map_map]
    rfl
  rw [split, split, same]

theorem Stage.runToEnd_of_unplaced {runtime code : Text} {first second : List Token}
    (same : first.map Token.unplaced = second.map Token.unplaced)
    (runs : (item .topLevel).runToEnd runtime first none = .ok code) :
    (item .topLevel).runToEnd runtime second none = .ok code := by
  let forget (_ : Position) : Position := Position.start
  have firstMoved := runToEnd_mapPosition forget runtime (item .topLevel) first none
  have secondMoved := runToEnd_mapPosition forget runtime (item .topLevel) second none
  have alike : first.map (Token.mapPosition forget) = second.map (Token.mapPosition forget) :=
    Token.map_mapPosition_of_unplaced same Position.start
  rw [alike, secondMoved, runs] at firstMoved
  cases result : (item .topLevel).runToEnd runtime second none with
  | error error =>
      rw [result] at firstMoved
      cases firstMoved
  | ok other =>
      rw [result] at firstMoved
      cases firstMoved
      rfl

/-- Texts and tags that are printed with any blanks are read back as they are.  So the
tokens of a template can be printed with single blanks: what is read then are the same
tokens at other places, and it is compiled to the same code. -/
theorem tokenize_print :
    (∀ items, PrintedItem.Separated items →
      ∃ tokens, tokenize (items.flatMap PrintedItem.print) = .ok tokens ∧
        tokens.map Token.unplaced = items.flatMap PrintedItem.unplaced) ∧
    ∀ source tokens, tokenize source = .ok tokens →
      ∃ again, tokenize (tokens.flatMap Token.print) = .ok again ∧
        again.map Token.unplaced = tokens.map Token.unplaced ∧
        ∀ runtime code, compile runtime source = .ok code →
          compile runtime (tokens.flatMap Token.print) = .ok code := by
  constructor
  · intro items separated
    obtain ⟨tokens, delivered, same⟩ :=
      PrintedItem.exists_delivers separated Position.start none
    exact ⟨tokens, (tokenize_eq_ok_iff_delivers _ _).mpr delivered, same⟩
  · intro source tokens tokenized
    have delivered := (tokenize_eq_ok_iff_delivers _ _).mp tokenized
    obtain ⟨template, rfl⟩ := Lexer.exists_spelling_of_delivers _ _ delivered
    obtain ⟨rfl, _⟩ :=
      delivered.unique (Lexer.delivers_spelling template Position.start none)
    obtain ⟨printed, words⟩ := template.print_tokensAt Position.start
    obtain ⟨again, redelivered, same⟩ :=
      PrintedItem.exists_delivers template.items_separated Position.start none
    rw [← printed] at redelivered
    have alike := same.trans words.symm
    refine ⟨again, (tokenize_eq_ok_iff_delivers _ _).mpr redelivered, alike, ?_⟩
    intro runtime code compiled
    rw [compile_of_delivers delivered] at compiled
    rw [compile_of_delivers redelivered]
    exact Stage.runToEnd_of_unplaced alike.symm compiled

end Stencil
