/-
Tokenizing a template.

The sources that can be tokenized are the spellings of templates.  A source has one
division into texts and tags only, and its tokens come in the order of that division:
a text is never empty and never next to a text, and a name comes with its contents.

In all other sources the lexer stops at one tag: the texts and tags in front of it give the
tokens delivered until then, and no other tag of the source opens behind exactly these
tokens.  A name that does not begin there is reported, whether or not the tag is closed; a
name that begins there is in a tag that is never closed.
-/

import Mathlib.Data.List.Chain
import Stencil.Proofs.Token.Tiling

namespace Stencil

namespace TemplateSpelling

theorem not_plain_segment (plain : PlainText) (segment : Segment) (rest : Text) :
    plain.text ≠ segment.spelling ++ rest := by
  intro same
  apply plain.plain
  rw [same]
  refine ⟨segment.text.text, segment.tag.lead ++ segment.tag.name ++ segment.tag.gap ++
    segment.tag.body ++ ['%', '}'] ++ rest, ?_⟩
  simp [Segment.spelling, TagSpelling.spelling]

theorem segment_append_inj {first second : Segment} {rest otherRest : Text}
    (same : first.spelling ++ rest = second.spelling ++ otherRest) :
    first.text.text = second.text.text ∧ first.tag.name = second.tag.name ∧
      first.tag.spelling = second.tag.spelling ∧ rest = otherRest := by
  simp only [Segment.spelling, TagSpelling.spelling, List.append_assoc, List.cons_append,
    List.nil_append] at same
  obtain ⟨texts, behind⟩ :=
    Text.append_pair_inj (by decide) first.text.plain second.text.plain same
  have tags : first.tag.spelling ++ rest = second.tag.spelling ++ otherRest := by
    simp [TagSpelling.spelling, behind]
  exact ⟨texts, TagSpelling.spelling_append_inj tags⟩

/-- The texts, the names and the tags of a source do not depend on its spelling. -/
theorem parts_unique (first second : TemplateSpelling)
    (same : first.spelling = second.spelling) :
    first.texts = second.texts ∧ first.names = second.names ∧
      first.extents = second.extents := by
  obtain ⟨segments, last⟩ := first
  obtain ⟨others, otherLast⟩ := second
  induction segments generalizing others with
  | nil =>
      cases others with
      | nil =>
          simp only [spelling, List.flatMap_nil, List.nil_append] at same
          simp [texts, names, extents, same]
      | cons other others =>
          rw [spelling_cons] at same
          exact absurd same (not_plain_segment last other _)
  | cons segment segments ih =>
      cases others with
      | nil =>
          rw [spelling_cons] at same
          exact absurd same.symm (not_plain_segment otherLast segment _)
      | cons other others =>
          rw [spelling_cons, spelling_cons] at same
          obtain ⟨textEq, nameEq, tagEq, restEq⟩ := segment_append_inj same
          obtain ⟨texts, names, extents⟩ := ih others restEq
          simp only [TemplateSpelling.texts, TemplateSpelling.names,
            TemplateSpelling.extents] at texts names extents ⊢
          simp only [List.map_cons, List.cons_append, textEq, nameEq, tagEq, texts, names,
            extents, and_self]

/-- Which kind of token may come next: a name behind a text, contents behind a name,
and behind contents anything but contents. -/
def Precedes (token next : Token) : Prop :=
  match token.kind with
  | .text => next.kind = .tagName
  | .tagName => next.kind = .tagContents
  | .tagContents => next.kind ≠ .tagContents

theorem plain_tokens_chain (plain : PlainText) (position : Position) {later : List Token}
    (chain : later.IsChain Precedes) (first : ∀ token ∈ later.head?, token.kind = .tagName) :
    (plain.tokens position ++ later).IsChain Precedes := by
  unfold PlainText.tokens
  split
  · exact chain
  · cases later with
    | nil => exact List.isChain_singleton _
    | cons next later =>
        apply List.isChain_cons_cons.mpr
        exact ⟨first next rfl, chain⟩

theorem plain_tokens_last (plain : PlainText) (position : Position) :
    ∀ token ∈ (plain.tokens position).getLast?, token.kind = .text := by
  intro token member
  unfold PlainText.tokens at member
  split at member
  · cases member
  · cases member
    rfl

theorem head?_tokensAt_kind (template : TemplateSpelling) (position : Position) :
    ∀ token ∈ (template.tokensAt position).head?, token.kind ≠ .tagContents := by
  obtain ⟨segments, last⟩ := template
  intro token member contents
  cases segments with
  | nil =>
      simp only [tokensAt, Segment.tokensFrom, PlainText.tokens, List.nil_append] at member
      split at member
      · cases member
      · cases member
        cases contents
  | cons segment segments =>
      simp only [tokensAt_cons, Segment.tokens, PlainText.tokens] at member
      split at member
      · cases member
        cases contents
      · cases member
        cases contents

theorem tokensAt_chain (template : TemplateSpelling) (position : Position) :
    (template.tokensAt position).IsChain Precedes := by
  obtain ⟨segments, last⟩ := template
  induction segments generalizing position with
  | nil =>
      have chain := plain_tokens_chain last
        (position.after (([] : List Segment).flatMap Segment.spelling))
        List.IsChain.nil (by simp)
      rw [List.append_nil] at chain
      exact chain
  | cons segment segments ih =>
      rw [tokensAt_cons, Segment.tokens, List.append_assoc]
      refine plain_tokens_chain _ _ ?_ (by simp [TagSpelling.nameToken])
      have behind := head?_tokensAt_kind ⟨segments, last⟩ (position.after segment.spelling)
      have later := ih (position.after segment.spelling)
      generalize tokensAt ⟨segments, last⟩ (position.after segment.spelling) = tokens
        at behind later
      apply List.isChain_cons_cons.mpr
      refine ⟨rfl, ?_⟩
      cases tokens with
      | nil => exact List.isChain_singleton _
      | cons next tokens => exact List.isChain_cons_cons.mpr ⟨behind next rfl, later⟩

theorem getLast?_tokensAt_kind (template : TemplateSpelling) (position : Position) :
    ∀ token ∈ (template.tokensAt position).getLast?, token.kind ≠ .tagName := by
  obtain ⟨segments, last⟩ := template
  induction segments generalizing position with
  | nil =>
      intro token member named
      rw [plain_tokens_last last _ token member] at named
      cases named
  | cons segment segments ih =>
      intro token member
      rw [tokensAt_cons, List.getLast?_append] at member
      cases hLast : (tokensAt ⟨segments, last⟩ (position.after segment.spelling)).getLast? with
      | some final =>
          rw [hLast] at member
          cases member
          exact ih _ _ hLast
      | none =>
          rw [hLast] at member
          simp only [Segment.tokens, List.getLast?_append, Option.none_or] at member
          cases member
          intro named
          cases named

theorem value_ne_nil_of_mem (template : TemplateSpelling) (position : Position) :
    ∀ token ∈ template.tokensAt position, token.kind = .text → token.value ≠ [] := by
  have ofPlain : ∀ (plain : PlainText) (position : Position),
      ∀ token ∈ plain.tokens position, token.value ≠ [] := by
    intro plain position token member
    unfold PlainText.tokens at member
    split at member
    · cases member
    · rename_i nonempty
      rw [List.mem_singleton.mp member]
      exact nonempty
  obtain ⟨segments, last⟩ := template
  induction segments generalizing position with
  | nil => exact fun token member _ => ofPlain last _ token member
  | cons segment segments ih =>
      intro token member isText
      rw [tokensAt_cons, Segment.tokens, List.append_assoc] at member
      rcases List.mem_append.mp member with inText | behind
      · exact ofPlain _ _ token inText
      · rcases List.mem_append.mp behind with inTag | later
        · simp only [List.mem_cons, List.not_mem_nil, or_false] at inTag
          rcases inTag with rfl | rfl
          · cases isText
          · cases isText
        · exact ih _ token later isText

end TemplateSpelling

theorem tokenize_eq_ok_iff_spelling (source : Text) (tokens : List Token) :
    tokenize source = .ok tokens ↔
      ∃ template : TemplateSpelling, template.spelling = source ∧
        template.tokens = tokens := by
  rw [tokenize_eq_ok_iff_delivers]
  constructor
  · intro delivered
    obtain ⟨template, spelled⟩ := Lexer.exists_spelling_of_delivers _ _ delivered
    refine ⟨template, spelled, ?_⟩
    have read := Lexer.delivers_spelling template Position.start none
    rw [spelled] at read
    exact (read.unique delivered).1
  · intro spelled
    obtain ⟨template, rfl, rfl⟩ := spelled
    exact Lexer.delivers_spelling template Position.start none

/-- Tokenizing succeeds exactly on the spellings of templates, with the tokens of the
spelling.  Texts, names and tags are determined by the source.  No text among the tokens
is empty or next to another text, and each name is followed by its contents. -/
theorem tokenize_accepts_spellings (source : Text) :
    (∀ tokens, tokenize source = .ok tokens ↔
      ∃ template : TemplateSpelling, template.spelling = source ∧
        template.tokens = tokens) ∧
    (∀ first second : TemplateSpelling,
      first.spelling = source → second.spelling = source →
        first.texts = second.texts ∧ first.names = second.names ∧
          first.extents = second.extents) ∧
    ∀ tokens, tokenize source = .ok tokens →
      (∀ token ∈ tokens, token.kind = .text → token.value ≠ []) ∧
      tokens.IsChain (fun token next => token.kind = .text → next.kind ≠ .text) ∧
      tokens.IsChain (fun token next => token.kind = .tagName → next.kind = .tagContents) ∧
      ∀ token ∈ tokens.getLast?, token.kind ≠ .tagName := by
  refine ⟨tokenize_eq_ok_iff_spelling source, ?_, ?_⟩
  · intro first second firstSpelled secondSpelled
    exact first.parts_unique second (firstSpelled.trans secondSpelled.symm)
  · intro tokens tokenized
    obtain ⟨template, _, rfl⟩ := (tokenize_eq_ok_iff_spelling source tokens).mp tokenized
    have chain := template.tokensAt_chain Position.start
    refine ⟨template.value_ne_nil_of_mem _, chain.imp ?_, chain.imp ?_,
      template.getLast?_tokensAt_kind _⟩
    · intro token next precedes isText
      simp only [TemplateSpelling.Precedes, isText] at precedes
      rw [precedes]
      decide
    · intro token next precedes isName
      simpa only [TemplateSpelling.Precedes, isName] using precedes

/-! ### Sources that cannot be tokenized -/

namespace Text

structure LongestPrefix (Good : Text → Prop) (text front : Text) : Prop where
  isPrefix : front <+: text
  good : Good front
  longest : ∀ other, other <+: text → Good other → other.length ≤ front.length

structure QuotedOf (text front : Text) : Prop where
  unblank : ∀ c ∈ front, isBlank c = false
  inFront : ∀ before, before ++ ['%', '}'] <+: text → front.length ≤ before.length

theorem length_cutAtPair_fst_le (first second : Char) (before rest : Text) :
    (cutAtPair first second (before ++ first :: second :: rest)).1.length ≤ before.length := by
  induction before with
  | nil => simp [cutAtPair, startsWithPair]
  | cons c tail ih =>
      rw [List.cons_append, cutAtPair]
      split
      · exact Nat.zero_le _
      · exact Nat.succ_le_succ ih

theorem length_le_length_takeWhile {inClass : Char → Bool} {front text : Text}
    (isPrefix : front <+: text) (belongs : ∀ c ∈ front, inClass c = true) :
    front.length ≤ (text.takeWhile inClass).length := by
  obtain ⟨rest, rfl⟩ := isPrefix
  rw [List.takeWhile_append_of_pos belongs, List.length_append]
  exact Nat.le_add_right _ _

end Text

/-- What is quoted where a name is missing is the longest text without blanks that ends in
front of the end of the tag. -/
theorem longestPrefix_misnamed (text : Text) :
    text.LongestPrefix text.QuotedOf (misnamed text) where
  isPrefix := misnamed_prefix text
  good := by
    constructor
    · intro c member
      have unblank := List.mem_takeWhile_imp member
      simpa using unblank
    · rintro before ⟨rest, rfl⟩
      have cut := Text.length_cutAtPair_fst_le '%' '}' before rest
      rw [List.append_assoc]
      exact Nat.le_trans (List.takeWhile_prefix _).length_le cut
  longest := by
    intro other isPrefix good
    have whole := Text.cutAtPair_append '%' '}' text
    have ends : other.length ≤ (Text.cutAtPair '%' '}' text).1.length := by
      by_cases unclosed : (Text.cutAtPair '%' '}' text).2 = []
      · rw [unclosed, List.append_nil] at whole
        rw [whole]
        exact isPrefix.length_le
      · obtain ⟨rest, closes⟩ := Text.cutAtPair_snd_eq_cons unclosed
        rw [closes] at whole
        apply good.inFront
        exact ⟨rest, by rw [List.append_assoc]; exact whole⟩
    have inCut : other <+: (Text.cutAtPair '%' '}' text).1 :=
      List.prefix_of_prefix_length_le isPrefix ⟨_, whole⟩ ends
    exact Text.length_le_length_takeWhile inCut fun c member => by
      rw [good.unblank c member]
      rfl

def Text.behindOpening (source : Text) (offset : Nat) : Text :=
  (source.drop (offset + 2)).dropWhile Text.isBlank

def Text.BeginsName (text : Text) : Prop :=
  ∃ c ∈ text.head?, isNameChar c = true

/-- A tag opens at an offset, and the texts and tags in front of it give some tokens. -/
structure OpensBehind (source : Text) (tokens : List Token) (offset : Nat) : Prop where
  opens : ['{', '%'] <+: source.drop offset
  tokenized : tokenize (source.take offset) = .ok tokens

theorem OpensBehind.exists_append {source : Text} {tokens : List Token} {offset : Nat}
    (opened : OpensBehind source tokens offset) :
    ∃ before behind, source = before ++ '{' :: '%' :: behind ∧ before.length = offset ∧
      tokenize before = .ok tokens := by
  obtain ⟨behind, atTag⟩ := opened.opens
  have filled : 0 < (source.drop offset).length := by
    rw [← atTag]
    exact Nat.succ_pos _
  rw [List.length_drop] at filled
  refine ⟨source.take offset, behind, ?_, ?_, opened.tokenized⟩
  · rw [show '{' :: '%' :: behind = source.drop offset from atTag, List.take_append_drop]
  · exact List.length_take_of_le (by omega)

theorem opensBehind_length {before : Text} {tokens : List Token}
    (tokenized : tokenize before = .ok tokens) (behind : Text) :
    OpensBehind (before ++ '{' :: '%' :: behind) tokens before.length where
  opens := by
    rw [List.drop_left]
    exact ⟨behind, rfl⟩
  tokenized := by
    rw [List.take_left]
    exact tokenized

theorem Lexer.delivers_behind {before behind : Text} {tokens later : List Token}
    {fault : Option ScanError} (tokenized : tokenize before = .ok tokens)
    (atTag : Delivers (⟨⟨'{' :: '%' :: behind, Position.start.after before⟩, none,
      .between⟩ : Lexer) later fault) :
    Delivers (Lexer.ofText (before ++ '{' :: '%' :: behind)) (tokens ++ later) fault := by
  obtain ⟨template, rfl, rfl⟩ := (tokenize_eq_ok_iff_spelling _ _).mp tokenized
  exact Lexer.delivers_template template (Or.inr ⟨behind, rfl⟩) atTag

theorem Lexer.ne_nil_of_delivers_tag {behind : Text} {position : Position}
    {tokens : List Token}
    (atTag : Delivers (⟨⟨'{' :: '%' :: behind, position⟩, none, .between⟩ : Lexer) tokens none) :
    tokens ≠ [] := by
  cases hTag : Cursor.scanTag ⟨'{' :: '%' :: behind, position⟩ with
  | error fault =>
      have faulty := (atTag.unique (Lexer.delivers_faulty rfl hTag)).2
      cases faulty
  | ok scanned =>
      obtain ⟨tag, rest, spelled⟩ := TagSpelling.exists_of_scanTag rfl hTag
      dsimp only at spelled
      rw [spelled] at atTag
      obtain ⟨later, fault, atRest⟩ :=
        Delivers.total (⟨⟨rest, position.after tag.spelling⟩, none, .between⟩ : Lexer)
      rw [(atTag.unique (Lexer.delivers_tag tag atRest)).1]
      exact List.cons_ne_nil _ _

theorem eq_nil_of_tokenized {before between : Text} {tokens : List Token}
    (tokenized : tokenize before = .ok tokens)
    (further : tokenize (before ++ between) = .ok tokens)
    (opens : between = [] ∨ ∃ behind, between = '{' :: '%' :: behind) : between = [] := by
  rcases opens with rfl | ⟨behind, rfl⟩
  · rfl
  · obtain ⟨later, fault, atTag⟩ := Delivers.total
      (⟨⟨'{' :: '%' :: behind, Position.start.after before⟩, none, .between⟩ : Lexer)
    have delivered := (tokenize_eq_ok_iff_delivers _ _).mp further
    obtain ⟨same, rfl⟩ := (Lexer.delivers_behind tokenized atTag).unique delivered
    exact absurd (List.append_right_eq_self.mp same) (Lexer.ne_nil_of_delivers_tag atTag)

theorem between_openings {between behind otherBehind : Text}
    (whole : '{' :: '%' :: behind = between ++ '{' :: '%' :: otherBehind) :
    between = [] ∨ ∃ rest, between = '{' :: '%' :: rest := by
  match between, whole with
  | [], _ => exact Or.inl rfl
  | [c], whole =>
      have atSecond := (List.cons.inj (List.cons.inj whole).2).1
      exact absurd atSecond (by decide)
  | c :: d :: rest, whole =>
      obtain ⟨rfl, behindFirst⟩ := List.cons.inj whole
      obtain ⟨rfl, -⟩ := List.cons.inj behindFirst
      exact Or.inr ⟨rest, rfl⟩

theorem OpensBehind.unique {source : Text} {tokens : List Token} {offset other : Nat}
    (first : OpensBehind source tokens offset) (second : OpensBehind source tokens other) :
    offset = other := by
  obtain ⟨before, behind, rfl, rfl, tokenized⟩ := first.exists_append
  obtain ⟨otherBefore, otherBehind, whole, rfl, otherTokenized⟩ := second.exists_append
  -- In front of the later place stands the tag at the earlier one, with tokens of its own.
  rcases List.append_eq_append_iff.mp whole with ⟨between, rfl, rest⟩ | ⟨between, rfl, rest⟩
  · rw [eq_nil_of_tokenized tokenized otherTokenized (between_openings rest), List.append_nil]
  · rw [eq_nil_of_tokenized otherTokenized tokenized (between_openings rest), List.append_nil]

/-- What a fault tells about the tag that opens at an offset. -/
structure ClassifiedAt (source : Text) (offset : Nat) (fault : ScanError) : Prop where
  invalid_iff : (∃ found position, fault = .invalidTagName found position) ↔
    ¬ (source.behindOpening offset).BeginsName
  quoted : ∀ found position, fault = .invalidTagName found position →
    (source.behindOpening offset).LongestPrefix (source.behindOpening offset).QuotedOf found ∧
      position = source.positionAt (source.length - (source.behindOpening offset).length)
  unterminated_iff : fault = .unterminatedTag (source.positionAt offset) ↔
    (source.behindOpening offset).BeginsName
  unclosed : (source.behindOpening offset).BeginsName →
    ¬ ['%', '}'] <:+: source.behindOpening offset

theorem behindOpening_length (before lead : Text) {rest : Text}
    (leadBlank : ∀ c ∈ lead, Text.isBlank c = true)
    (leadMaximal : ∀ c ∈ rest.head?, Text.isBlank c = false) :
    Text.behindOpening (before ++ (['{', '%'] ++ lead ++ rest)) before.length = rest := by
  rw [Text.behindOpening, ← List.drop_drop, List.drop_left]
  change (lead ++ rest).dropWhile Text.isBlank = rest
  rw [List.dropWhile_append_of_pos leadBlank]
  exact Text.dropWhile_eq_self leadMaximal

theorem UnnamedTag.classifiedAt (tag : UnnamedTag) (before : Text) :
    ClassifiedAt (before ++ tag.spelling) before.length
      ((BrokenTag.unnamed tag).fault (Position.start.after before)) := by
  have behind : (before ++ tag.spelling).behindOpening before.length = tag.rest :=
    behindOpening_length before tag.lead tag.leadBlank tag.leadMaximal
  have nameless : ¬ tag.rest.BeginsName := by
    rintro ⟨c, first, named⟩
    rw [tag.nameless c first] at named
    cases named
  have place : Position.start.after (before ++ (['{', '%'] ++ tag.lead)) =
      (before ++ tag.spelling).positionAt
        ((before ++ tag.spelling).length - tag.rest.length) := by
    have cut := Text.positionAt_append (before ++ (['{', '%'] ++ tag.lead)) tag.rest
    rw [← cut, UnnamedTag.spelling]
    simp only [List.append_assoc, List.length_append]
    congr 1
    omega
  rw [Position.after_append] at place
  constructor
  · rw [behind]
    exact ⟨fun _ => nameless, fun _ => ⟨_, _, rfl⟩⟩
  · intro found position same
    cases same
    rw [behind]
    exact ⟨longestPrefix_misnamed tag.rest, place⟩
  · rw [behind]
    constructor
    · intro same
      cases same
    · intro begins
      exact absurd begins nameless
  · rw [behind]
    exact fun begins => absurd begins nameless

theorem UnclosedTag.classifiedAt (tag : UnclosedTag) (before : Text) :
    ClassifiedAt (before ++ tag.spelling) before.length
      ((BrokenTag.unclosed tag).fault (Position.start.after before)) := by
  have atName := head?_not_blank_of_name tag.nameNonempty tag.nameChars tag.rest
  have behind : (before ++ tag.spelling).behindOpening before.length = tag.name ++ tag.rest := by
    rw [spelling, List.append_assoc _ tag.name]
    exact behindOpening_length before tag.lead tag.leadBlank atName
  have named : (tag.name ++ tag.rest).BeginsName := by
    obtain ⟨c, later, spelled⟩ := List.exists_cons_of_ne_nil tag.nameNonempty
    refine ⟨c, ?_, tag.nameChars c ?_⟩
    · rw [spelled]
      rfl
    · rw [spelled]
      exact List.mem_cons_self
  have noPercent : '%' ∉ tag.name := fun member =>
    absurd (tag.nameChars '%' member) (by decide)
  have unclosed : ¬ ['%', '}'] <:+: tag.name ++ tag.rest := by
    apply Text.not_infix_append _ tag.restOpen
    · exact fun divided => noPercent (List.mem_of_getLast? divided.1)
    · exact fun inside => noPercent (inside.subset List.mem_cons_self)
  have place : Position.start.after before =
      (before ++ tag.spelling).positionAt before.length :=
    (Text.positionAt_append before tag.spelling).symm
  constructor
  · rw [behind]
    constructor
    · rintro ⟨found, position, same⟩
      cases same
    · intro nameless
      exact absurd named nameless
  · intro found position same
    cases same
  · rw [← place, behind]
    exact ⟨fun _ => named, fun _ => rfl⟩
  · rw [behind]
    exact fun _ => unclosed

theorem BrokenTag.classifiedAt (broken : BrokenTag) (before : Text) :
    ClassifiedAt (before ++ broken.spelling) before.length
      (broken.fault (Position.start.after before)) := by
  cases broken with
  | unnamed tag => exact tag.classifiedAt before
  | unclosed tag => exact tag.classifiedAt before

theorem Lexer.delivers_broken {before : Text} {tokens : List Token}
    (tokenized : tokenize before = .ok tokens) (broken : BrokenTag) :
    Delivers (Lexer.ofText (before ++ broken.spelling)) tokens
      (some (broken.fault (Position.start.after before))) := by
  obtain ⟨behind, spelled⟩ := broken.exists_spelling_eq_cons
  have scanned := broken.scanTag_spelling (Position.start.after before)
  rw [spelled] at scanned ⊢
  have delivered := Lexer.delivers_behind tokenized (Lexer.delivers_faulty rfl scanned)
  rw [List.append_nil] at delivered
  exact delivered

theorem BrokenTag.exists_of_behind {behind : Text}
    (unread : Text.BeginsName (behind.dropWhile Text.isBlank) →
      ¬ ['%', '}'] <:+: behind.dropWhile Text.isBlank) :
    ∃ broken : BrokenTag, '{' :: '%' :: behind = broken.spelling := by
  have leadEq := List.takeWhile_append_dropWhile (p := Text.isBlank) (l := behind)
  have blank : ∀ c ∈ behind.takeWhile Text.isBlank, Text.isBlank c = true :=
    fun _ member => List.mem_takeWhile_imp member
  by_cases named : Text.BeginsName (behind.dropWhile Text.isBlank)
  · have nameEq := List.takeWhile_append_dropWhile (p := isNameChar)
      (l := behind.dropWhile Text.isBlank)
    refine ⟨.unclosed
      { lead := behind.takeWhile Text.isBlank
        name := (behind.dropWhile Text.isBlank).takeWhile isNameChar
        rest := (behind.dropWhile Text.isBlank).dropWhile isNameChar
        leadBlank := blank
        nameNonempty := ?_
        nameChars := fun _ member => List.mem_takeWhile_imp member
        nameMaximal := Text.head?_dropWhile _
        restOpen := ?_ }, ?_⟩
    · obtain ⟨c, first, isName⟩ := named
      obtain ⟨later, begins⟩ := List.head?_eq_some_iff.mp first
      rw [begins, List.takeWhile_cons_of_pos isName]
      exact List.cons_ne_nil _ _
    · exact fun inside => unread named (inside.trans (List.dropWhile_suffix _).isInfix)
    · simp only [spelling, UnclosedTag.spelling, List.append_assoc, nameEq, leadEq]
      rfl
  · refine ⟨.unnamed
      { lead := behind.takeWhile Text.isBlank
        rest := behind.dropWhile Text.isBlank
        leadBlank := blank
        leadMaximal := Text.head?_dropWhile behind
        nameless := ?_ }, ?_⟩
    · intro c first
      exact Bool.eq_false_iff.mpr fun isName => named ⟨c, first, isName⟩
    · simp only [spelling, UnnamedTag.spelling, List.append_assoc, leadEq]
      rfl

theorem exists_broken_of_tokenize {source : Text} {fault : ScanError}
    (failed : tokenize source = .error fault) :
    ∃ (before : Text) (tokens : List Token) (broken : BrokenTag),
      source = before ++ broken.spelling ∧ tokenize before = .ok tokens ∧
        fault = broken.fault (Position.start.after before) := by
  obtain ⟨⟨template, broken⟩, rfl⟩ := Reading.exists_text_eq source
  have tokenized := tokenize_of_delivers
    (Lexer.delivers_reading ⟨template, broken⟩ Position.start none)
  rw [failed] at tokenized
  cases broken with
  | none => cases tokenized
  | some broken =>
      cases tokenized
      exact ⟨template.spelling, template.tokens, broken, rfl,
        (tokenize_eq_ok_iff_spelling _ _).mpr ⟨template, rfl, rfl⟩, rfl⟩

theorem OpensBehind.fails {source : Text} {tokens : List Token} {offset : Nat}
    (opened : OpensBehind source tokens offset)
    (unread : (source.behindOpening offset).BeginsName →
      ¬ ['%', '}'] <:+: source.behindOpening offset) :
    ∃ fault, tokenize source = .error fault ∧ ClassifiedAt source offset fault := by
  obtain ⟨before, behind, rfl, rfl, tokenized⟩ := opened.exists_append
  have cut : Text.behindOpening (before ++ '{' :: '%' :: behind) before.length =
      behind.dropWhile Text.isBlank := by
    rw [Text.behindOpening, ← List.drop_drop, List.drop_left]
    rfl
  rw [cut] at unread
  obtain ⟨broken, spelled⟩ := BrokenTag.exists_of_behind unread
  rw [spelled]
  exact ⟨_, tokenize_of_delivers (Lexer.delivers_broken tokenized broken),
    broken.classifiedAt before⟩

theorem Text.positionAt_inj {source : Text} {first second : Nat}
    (firstInside : first ≤ source.length) (secondInside : second ≤ source.length)
    (same : source.positionAt first = source.positionAt second) : first = second := by
  rcases Nat.lt_trichotomy first second with before | equal | behind
  · have grows := Text.positionAt_before before secondInside
    rw [same, Position.Before] at grows
    omega
  · exact equal
  · have grows := Text.positionAt_before behind firstInside
    rw [same, Position.Before] at grows
    omega

theorem OpensBehind.offset_le {source : Text} {tokens : List Token} {offset : Nat}
    (opened : OpensBehind source tokens offset) : offset ≤ source.length := by
  obtain ⟨before, behind, rfl, rfl, -⟩ := opened.exists_append
  rw [List.length_append]
  exact Nat.le_add_right _ _

theorem exists_classified_of_tokenize {source : Text} {fault : ScanError}
    (failed : tokenize source = .error fault) :
    ∃ tokens offset, (TokenSource.drain (Lexer.ofText source)).1 = tokens.map some ∧
      OpensBehind source tokens offset ∧ ClassifiedAt source offset fault := by
  obtain ⟨before, tokens, broken, rfl, tokenized, rfl⟩ := exists_broken_of_tokenize failed
  have delivered := Lexer.drain_of_delivers (Lexer.delivers_broken tokenized broken)
  obtain ⟨behind, spelled⟩ := broken.exists_spelling_eq_cons
  have opened := opensBehind_length tokenized behind
  rw [← spelled] at opened
  exact ⟨tokens, before.length, delivered.1, opened, broken.classifiedAt before⟩

/-- A source that cannot be tokenized has one place where a tag opens behind exactly the
tokens that are delivered, and the fault tells what stands there: no name, quoted with its
position, or a name in a tag without an end.  Wherever a tag opens behind whole texts and
tags, tokenizing fails at it if no name begins there; if one does, tokenizing fails for want
of an end of this tag exactly if there is none. -/
theorem tokenize_faults_classified (source : Text) :
    (∀ fault, tokenize source = .error fault →
      ∃ tokens offset, (TokenSource.drain (Lexer.ofText source)).1 = tokens.map some ∧
        (∀ other, OpensBehind source tokens other ↔ other = offset) ∧
        ClassifiedAt source offset fault) ∧
    ∀ tokens offset, OpensBehind source tokens offset →
      (¬ (source.behindOpening offset).BeginsName →
        ∃ fault, tokenize source = .error fault ∧ ClassifiedAt source offset fault) ∧
      ((source.behindOpening offset).BeginsName →
        (tokenize source = .error (.unterminatedTag (source.positionAt offset)) ↔
          ¬ ['%', '}'] <:+: source.behindOpening offset)) := by
  constructor
  · intro fault failed
    obtain ⟨tokens, offset, delivered, opened, classified⟩ := exists_classified_of_tokenize failed
    refine ⟨tokens, offset, delivered, fun other => ⟨fun found => found.unique opened, ?_⟩,
      classified⟩
    rintro rfl
    exact opened
  · intro tokens offset opened
    refine ⟨fun nameless => opened.fails fun named => absurd named nameless, fun named => ?_⟩
    constructor
    · intro failed
      obtain ⟨others, other, -, otherOpened, classified⟩ := exists_classified_of_tokenize failed
      have otherNamed : (source.behindOpening other).BeginsName := by
        by_contra nameless
        obtain ⟨found, position, same⟩ := classified.invalid_iff.mpr nameless
        cases same
      have place := classified.unterminated_iff.mpr otherNamed
      injection place with place
      rw [Text.positionAt_inj opened.offset_le otherOpened.offset_le place]
      exact classified.unclosed otherNamed
    · intro unclosed
      obtain ⟨fault, failed, classified⟩ := opened.fails fun _ => unclosed
      rw [failed, classified.unterminated_iff.mpr named]

end Stencil
