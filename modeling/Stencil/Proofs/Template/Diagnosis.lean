/-
Faults of templates point into their text.

A text stands at a position if the source has it there.  A tag of a source is one in front
of which only texts and whole tags stand, so that the lexer reads it as a tag.

A compilation fails at a tag of its source, or at the end with a broken tag or an open
function.  The tokens of a template come in pairs of a name and contents, so that no token
is ever out of place or missing.  A fault at a tag is found before anything behind the tag
is read, and stays whatever is put behind the source.
-/

import Stencil.Proofs.Compilation.Refusal
import Stencil.Proofs.Compilation.Relabeling
import Stencil.Proofs.Template.Meaning

namespace Stencil

def Text.ReadsAt (source : Text) (position : Position) (text : Text) : Prop :=
  ∃ before behind, before ++ text ++ behind = source ∧
    Position.start.after before = position

structure TagIn (source : Text) where
  before : TemplateSpelling
  tag : TagSpelling
  rest : Text
  whole : before.spelling ++ (tag.spelling ++ rest) = source

namespace TagIn

variable {source : Text}

def opening (found : TagIn source) : Position :=
  Position.start.after found.before.spelling

def nameToken (found : TagIn source) : Token :=
  found.tag.nameToken found.opening

def contentsToken (found : TagIn source) : Token :=
  found.tag.contentsToken found.opening

def tokens (found : TagIn source) : List Token :=
  found.before.tokens ++ [found.nameToken, found.contentsToken]

theorem reads_name (found : TagIn source) :
    source.ReadsAt found.nameToken.position found.tag.name := by
  refine ⟨found.before.spelling ++ (['{', '%'] ++ found.tag.lead),
    found.tag.gap ++ found.tag.body ++ ['%', '}'] ++ found.rest, ?_, ?_⟩
  · refine Eq.trans ?_ found.whole
    simp only [TagSpelling.spelling, List.append_assoc]
  · exact Position.after_append _ _ _

theorem reads_contents (found : TagIn source) :
    source.ReadsAt found.contentsToken.position found.tag.contents := by
  obtain ⟨blanks, trimmed⟩ := Text.trimEnd_prefix Text.isBlank
    (found.tag.body.dropWhile Text.isBlank)
  have body : found.tag.body.takeWhile Text.isBlank ++ (found.tag.contents ++ blanks) =
      found.tag.body := by
    rw [TagSpelling.contents, Text.strip, trimmed]
    exact List.takeWhile_append_dropWhile
  have spelled : found.tag.spelling = ['{', '%'] ++ found.tag.lead ++ found.tag.name ++
      found.tag.gap ++
        (found.tag.body.takeWhile Text.isBlank ++ (found.tag.contents ++ blanks)) ++
          ['%', '}'] := by
    rw [body]
    rfl
  refine ⟨found.before.spelling ++ (['{', '%'] ++ found.tag.lead ++ found.tag.name ++
    found.tag.gap ++ found.tag.body.takeWhile Text.isBlank),
    blanks ++ ['%', '}'] ++ found.rest, ?_, ?_⟩
  · refine Eq.trans ?_ found.whole
    rw [spelled]
    simp only [List.append_assoc]
  · exact Position.after_append _ _ _

def append (found : TagIn source) (more : Text) : TagIn (source ++ more) where
  before := found.before
  tag := found.tag
  rest := found.rest ++ more
  whole := by
    refine Eq.trans ?_ (congrArg (· ++ more) found.whole)
    simp only [List.append_assoc]

/-- The lexer delivers the tokens up to the end of a tag before it looks behind the tag. -/
theorem exists_delivers (found : TagIn source) :
    ∃ later fault, Delivers (Lexer.ofText source) (found.tokens ++ later) fault := by
  obtain ⟨before, tag, rest, rfl⟩ := found
  let behind := (Position.start.after before.spelling).after tag.spelling
  obtain ⟨later, fault, atRest⟩ :=
    Delivers.total (⟨⟨rest, behind⟩, none, .between⟩ : Lexer)
  refine ⟨later, fault, ?_⟩
  rw [tokens, List.append_assoc]
  exact Lexer.delivers_template before (Or.inr ⟨_, rfl⟩) (Lexer.delivers_tag tag atRest)

def ofSegments (segments : List Segment) (segment : Segment) (rest : Text)
    (whole : (segments ++ [segment]).flatMap Segment.spelling ++ rest = source) :
    TagIn source where
  before := ⟨segments, segment.text⟩
  tag := segment.tag
  rest := rest
  whole := by
    rw [← whole, List.flatMap_append, List.flatMap_singleton]
    simp only [TemplateSpelling.spelling, Segment.spelling, List.append_assoc]

theorem tokens_ofSegments (segments : List Segment) (segment : Segment) (rest : Text)
    (whole : (segments ++ [segment]).flatMap Segment.spelling ++ rest = source) :
    (ofSegments segments segment rest whole).tokens =
      Segment.tokensFrom Position.start (segments ++ [segment]) := by
  rw [Segment.tokensFrom_append, Segment.tokensFrom, Segment.tokensFrom, List.append_nil]
  simp only [tokens, nameToken, contentsToken, opening, ofSegments, Segment.tokens,
    TemplateSpelling.tokens, TemplateSpelling.tokensAt, TemplateSpelling.spelling,
    Position.after_append, List.append_assoc]

/-! ### Faults at tags -/

/-- Which blocks a tag can lead to from a block. -/
inductive Leads (found : TagIn source) (block : Block) : Block → Prop
  | stays : Leads found block block
  | closes : Leads found block .topLevel
  | opens {signature : Signature} (isFunc : found.tag.name = Tag.func.name)
      (splits : Signature.split found.tag.contents = .ok signature) :
      Leads found block (.func signature found.contentsToken.position)

inductive Refused (found : TagIn source) (block : Block) : CompileError → Prop
  | foreign (notAllowed : found.tag.name ∉ block.context.allowed.map Tag.name) :
      Refused found block
        (.unexpectedTag found.tag.name block.context found.nameToken.position)
  | signature {cause : SignatureError} (isFunc : found.tag.name = Tag.func.name)
      (splits : Signature.split found.tag.contents = .error cause) :
      Refused found block (.signature cause found.contentsToken.position)

def Decided (runtime : Text) (found : TagIn source) (block : Block) : Prop :=
  (∃ code next, (Stage.item block).Passes runtime
      [found.nameToken, found.contentsToken] code (.item next) ∧ found.Leads block next) ∨
    ∃ code error, (Stage.item block).run runtime
      [found.nameToken, found.contentsToken] = (code, .error error) ∧
        found.Refused block error

variable {runtime : Text} {found : TagIn source} {block : Block} {name : Position}

theorem decided_foreign {error : CompileError}
    (begins : block.begin found.nameToken = .error error) : found.Decided runtime block := by
  have fails : (Stage.item block).step runtime found.nameToken = .error error := begins
  refine Or.inr ⟨[], error, Stage.run_cons_of_fault fails _, ?_⟩
  rcases (Block.begin_eq_error_iff _ _ _).mp begins with
    ⟨_, notAllowed, rfl⟩ | ⟨isContents, _⟩
  · exact .foreign notAllowed
  · cases isContents

theorem decided_inline (tag : Inline)
    (names : (Stage.item block).step runtime found.nameToken =
      .ok ([], .inline block tag name)) :
    found.Decided runtime block := by
  have given := Stage.step_inline_contents runtime name
    ⟨found.tag.contents, found.contentsToken.position⟩ block tag
  exact Or.inl ⟨_, block, Stage.Passes.pair names given, .stays⟩

theorem decided_endfunc {signature : Signature}
    (names : (Stage.item block).step runtime found.nameToken =
      .ok ([], .closing signature name)) :
    found.Decided runtime block := by
  have given := Stage.step_closing_contents runtime name
    ⟨found.tag.contents, found.contentsToken.position⟩ signature
  exact Or.inl ⟨_, .topLevel, Stage.Passes.pair names given, .closes⟩

theorem decided_func (isFunc : found.tag.name = Tag.func.name)
    (names : (Stage.item block).step runtime found.nameToken = .ok ([], .opening name)) :
    found.Decided runtime block := by
  cases splits : Signature.split found.tag.contents with
  | ok signature =>
      have given := Stage.step_signature runtime
        ⟨name, ⟨found.tag.contents, found.contentsToken.position⟩, signature, splits⟩ name
      exact Or.inl ⟨_, _, Stage.Passes.pair names given, .opens isFunc splits⟩
  | error cause =>
      have fails : (Stage.opening name).step runtime found.contentsToken =
          .error (.signature cause found.contentsToken.position) :=
        (Token.asContents_eq_error_iff _ _ _ _).mpr (Or.inr ⟨rfl,
          (openBlock_eq_error_iff _ _ _).mpr ⟨cause, splits, rfl⟩⟩)
      refine Or.inr ⟨[], _, ?_, .signature isFunc splits⟩
      rw [Stage.run_cons_of_step names, Stage.run_cons_of_fault fails]
      rfl

theorem decided (runtime : Text) (found : TagIn source) (block : Block) :
    found.Decided runtime block := by
  have nameEq {tag : Tag} {name : Position} (same : found.nameToken = tag.token name) :
      found.tag.name = tag.name :=
    congrArg Token.value same
  cases begins : block.begin found.nameToken with
  | error error => exact decided_foreign begins
  | ok given =>
      cases block with
      | topLevel =>
          rcases Block.begin_topLevel_eq_ok begins with isText | isCode | isFunc
          · cases isText
          · apply decided_inline .code
            rw [isCode]
            exact Stage.step_code runtime _
          · apply decided_func (nameEq isFunc)
            rw [isFunc]
            exact Stage.step_func runtime _
      | func signature opened =>
          rcases Block.begin_func_eq_ok begins with isText | isEnd | ⟨tag, isInline⟩
          · cases isText
          · apply decided_endfunc
            rw [isEnd]
            rfl
          · apply decided_inline tag
            rw [isInline]
            exact Block.begin_inline signature opened _ tag

end TagIn

/-- A function that is open was opened by a `func` tag of the source. -/
def Block.OpenedIn (source : Text) : Block → Prop
  | .topLevel => True
  | .func signature position =>
      ∃ found : TagIn source, found.tag.name = Tag.func.name ∧
        Signature.split found.tag.contents = .ok signature ∧
          found.contentsToken.position = position

theorem TagIn.Leads.openedIn {source : Text} {found : TagIn source} {block next : Block}
    (leads : found.Leads block next) (opened : block.OpenedIn source) :
    next.OpenedIn source := by
  cases leads with
  | stays => exact opened
  | closes => trivial
  | opens isFunc splits => exact ⟨found, isFunc, splits, rfl⟩

/-- The tokens in front of a tag go through and leave the compilation in a block. -/
def TagIn.ReachedIn {source : Text} (runtime : Text) (found : TagIn source)
    (block : Block) : Prop :=
  ∃ code, (Stage.item .topLevel).Passes runtime found.before.tokens code (.item block)

/-- The first tags of a source all go through, or one of them is refused. -/
theorem Segment.run_cases (runtime source : Text) (segments : List Segment) (rest : Text)
    (whole : segments.flatMap Segment.spelling ++ rest = source) :
    (∃ code block, (Stage.item .topLevel).Passes runtime
        (tokensFrom Position.start segments) code (.item block) ∧ block.OpenedIn source) ∨
      ∃ (found : TagIn source) (block : Block) (code : Text) (error : CompileError),
        found.ReachedIn runtime block ∧ found.Refused block error ∧
          (Stage.item .topLevel).run runtime found.tokens = (code, .error error) := by
  -- Each tag is looked at in the block that the tags in front of it lead to.
  induction segments using List.reverseRecOn generalizing rest with
  | nil => exact Or.inl ⟨[], .topLevel, rfl, trivial⟩
  | append_singleton segments segment ih =>
      have shorter : segments.flatMap Segment.spelling ++ (segment.spelling ++ rest) =
          source := by
        rw [← whole, List.flatMap_append, List.flatMap_singleton, List.append_assoc]
      rcases ih (segment.spelling ++ rest) shorter with
        ⟨code, block, passes, opened⟩ | refused
      · let found := TagIn.ofSegments segments segment rest whole
        have reached : (Stage.item .topLevel).Passes runtime found.before.tokens
            (code ++ block.literal segment.text.text) (.item block) :=
          passes.append (segment.text.passes runtime block _)
        rcases found.decided runtime block with
          ⟨piece, next, goesOn, leads⟩ | ⟨piece, error, fails, isRefused⟩
        · have through : (Stage.item .topLevel).Passes runtime found.tokens
              (code ++ block.literal segment.text.text ++ piece) (.item next) :=
            reached.append goesOn
          rw [TagIn.tokens_ofSegments] at through
          exact Or.inl ⟨_, next, through, leads.openedIn opened⟩
        · have stops := Stage.run_append_of_ok reached
            [found.nameToken, found.contentsToken]
          rw [fails] at stops
          exact Or.inr ⟨found, block, _, error, ⟨_, reached⟩, isRefused, stops⟩
      · exact Or.inr refused

/-- A compilation that fails was stopped by a tag, whatever stands behind it, or came to
the end of its source. -/
theorem compile_eq_error_cases {runtime source : Text} {error : CompileError}
    (fails : compile runtime source = .error error) :
    (∃ (found : TagIn source) (block : Block) (code : Text),
        found.ReachedIn runtime block ∧ found.Refused block error ∧
          (Stage.item .topLevel).run runtime found.tokens = (code, .error error)) ∨
      ∃ (reading : Reading) (block : Block), reading.text = source ∧
        block.OpenedIn source ∧
          block.finish (reading.faultAt Position.start) = .error error := by
  obtain ⟨reading, read⟩ := Reading.exists_text_eq source
  obtain ⟨⟨segments, last⟩, broken⟩ := reading
  have divided : segments.flatMap Segment.spelling ++
      (last.text ++ broken.elim [] BrokenTag.spelling) = source := by
    rw [← read, Reading.text, TemplateSpelling.spelling, List.append_assoc]
  rcases Segment.run_cases runtime source segments _ divided with
    ⟨code, block, passes, opened⟩ | ⟨found, block, code, other, reached, refused, stops⟩
  · have through := passes.append (last.passes runtime block
      (Position.start.after (segments.flatMap Segment.spelling)))
    rw [← read, compile_text] at fails
    exact Or.inr ⟨_, block, read, opened, Stage.finish_of_runToEnd through fails⟩
  · obtain ⟨later, fault, delivers⟩ := found.exists_delivers
    rw [compile_of_delivers delivers runtime,
      Stage.runToEnd_append_of_fault stops] at fails
    cases fails
    exact Or.inl ⟨found, block, code, reached, refused, stops⟩

/-- The tokens in front of a tag are an unfinished template that ends in a context. -/
def TagIn.StandsIn {source : Text} (found : TagIn source) (context : BlockContext) : Prop :=
  ∃ beginning : Beginning, beginning.tokens = found.before.tokens ∧
    beginning.ending.context = context

theorem TagIn.ReachedIn.standsIn {runtime source : Text} {found : TagIn source}
    {block : Block} (reached : found.ReachedIn runtime block) :
    found.StandsIn block.context := by
  obtain ⟨code, passes⟩ := reached
  obtain ⟨beginning, same⟩ := Beginning.exists_of_passes passes
  have ends := beginning.passes runtime
  rw [same] at ends
  have stages := (passes.unique ends).2
  refine ⟨beginning, same, ?_⟩
  cases hEnding : beginning.ending with
  | outside =>
      rw [hEnding] at stages
      cases stages
      rfl
  | inside head body =>
      rw [hEnding] at stages
      cases stages
      rfl
  | _ =>
      rw [hEnding] at stages
      cases stages

/-- What a fault says of a source.  A refused tag is quoted by its full name where it
stands, and a function or a signature by the contents of its `func` tag; a broken tag by
its `{%`, or by what stands in the place of its name. -/
def CompileError.PointsInto (source : Text) : CompileError → Prop
  | .unexpectedTag name context position =>
      ∃ found : TagIn source, found.tag.name = name ∧ found.StandsIn context ∧
        name ∉ context.allowed.map Tag.name ∧
          found.nameToken.position = position ∧ source.ReadsAt position name
  | .unclosedFunc name position =>
      ∃ (found : TagIn source) (signature : Signature), found.tag.name = Tag.func.name ∧
        Signature.split found.tag.contents = .ok signature ∧ signature.name = name ∧
          found.contentsToken.position = position ∧
            source.ReadsAt position found.tag.contents
  | .signature cause position =>
      ∃ found : TagIn source, found.tag.name = Tag.func.name ∧
        Signature.split found.tag.contents = .error cause ∧ cause.raw = found.tag.contents ∧
          found.contentsToken.position = position ∧
            source.ReadsAt position found.tag.contents
  | .scan (.unterminatedTag position) =>
      ∃ (before : TemplateSpelling) (tag : UnclosedTag),
        before.spelling ++ tag.spelling = source ∧
          Position.start.after before.spelling = position
  | .scan (.invalidTagName quoted position) =>
      ∃ (before : TemplateSpelling) (tag : UnnamedTag),
        before.spelling ++ tag.spelling = source ∧
          Position.start.after (before.spelling ++ ['{', '%'] ++ tag.lead) = position ∧
            misnamed tag.rest = quoted ∧ source.ReadsAt position quoted
  | .unexpectedToken _ _ _ _ _ => False
  | .missingToken _ _ => False
  | .emit => False

namespace CompileError.PointsInto

variable {source : Text} {block : Block}

theorem of_refused {runtime : Text} {found : TagIn source} {error : CompileError}
    (reached : found.ReachedIn runtime block) (refused : found.Refused block error) :
    error.PointsInto source := by
  cases refused with
  | foreign notAllowed =>
      exact ⟨found, rfl, reached.standsIn, notAllowed, rfl, found.reads_name⟩
  | signature isFunc splits =>
      exact ⟨found, isFunc, splits, Signature.raw_of_split splits, rfl,
        found.reads_contents⟩

theorem of_broken (before : TemplateSpelling) (broken : BrokenTag)
    (whole : before.spelling ++ broken.spelling = source) :
    PointsInto source (.scan (broken.fault (Position.start.after before.spelling))) := by
  cases broken with
  | unclosed tag => exact ⟨before, tag, whole, rfl⟩
  | unnamed tag =>
      obtain ⟨behind, quoted⟩ := misnamed_prefix tag.rest
      have place : Position.start.after (before.spelling ++ ['{', '%'] ++ tag.lead) =
          (Position.start.after before.spelling).after (['{', '%'] ++ tag.lead) := by
        rw [List.append_assoc, Position.after_append]
      refine ⟨before, tag, whole, place, rfl, _, behind, ?_, place⟩
      rw [← whole, BrokenTag.spelling, UnnamedTag.spelling, List.append_assoc, quoted]
      simp only [List.append_assoc]

theorem of_finish {reading : Reading} {error : CompileError} (read : reading.text = source)
    (opened : block.OpenedIn source)
    (ends : block.finish (reading.faultAt Position.start) = .error error) :
    error.PointsInto source := by
  obtain ⟨before, broken⟩ := reading
  cases broken with
  | some broken =>
      cases ends
      exact of_broken before broken read
  | none =>
      cases block with
      | topLevel => cases ends
      | func signature position =>
          cases ends
          obtain ⟨found, isFunc, splits, place⟩ := opened
          refine ⟨found, signature, isFunc, splits, rfl, place, ?_⟩
          rw [← place]
          exact found.reads_contents

end CompileError.PointsInto

/-- A compilation of a template fails in four ways only, and its fault points to what it
is about. -/
theorem compile_error_points_into_source {runtime source : Text} {error : CompileError}
    (fails : compile runtime source = .error error) : error.PointsInto source := by
  rcases compile_eq_error_cases fails with
    ⟨found, block, _, reached, refused, _⟩ | ⟨reading, block, read, opened, ends⟩
  · exact .of_refused reached refused
  · exact .of_finish read opened ends

/-- The place of a name is told by lines and characters, blanks and wide characters
included. -/
theorem compile_error_points_at_name :
    compile [] "\né\x7b%\n s x %\x7d".toList =
        .error (.unexpectedTag "s".toList .topLevel ⟨3, 2⟩) ∧
      (CompileError.unexpectedTag "s".toList .topLevel ⟨3, 2⟩).PointsInto
        "\né\x7b%\n s x %\x7d".toList := by
  have fails : compile [] "\né\x7b%\n s x %\x7d".toList =
      .error (.unexpectedTag "s".toList .topLevel ⟨3, 2⟩) := by
    decide +kernel
  exact ⟨fails, compile_error_points_into_source fails⟩

def CompileError.isRefusal : CompileError → Bool
  | .unexpectedTag _ _ _ => true
  | .signature _ _ => true
  | _ => false

theorem Block.isRefusal_of_finish {block : Block} {fault : Option ScanError}
    {error : CompileError} (ends : block.finish fault = .error error) :
    error.isRefusal = false := by
  cases fault with
  | some fault =>
      cases ends
      rfl
  | none =>
      cases block with
      | topLevel => cases ends
      | func signature position =>
          cases ends
          rfl

/-- The refusal of a tag stays the result whatever is put behind the source. -/
theorem compile_append_of_refusal {runtime source : Text} {error : CompileError}
    (fails : compile runtime source = .error error) (refusal : error.isRefusal = true)
    (more : Text) : compile runtime (source ++ more) = .error error := by
  rcases compile_eq_error_cases fails with
    ⟨found, block, code, _, _, stops⟩ | ⟨reading, block, _, _, ends⟩
  · obtain ⟨later, fault, delivers⟩ := (found.append more).exists_delivers
    rw [compile_of_delivers delivers runtime]
    exact Stage.runToEnd_append_of_fault stops later fault
  · rw [Block.isRefusal_of_finish ends] at refusal
    cases refusal

/-- The last text goes on and an unterminated tag follows, but a tag in front of them is
refused. -/
theorem compile_append_of_refusal_in_func :
    compile [] "\x7b% func A() %\x7da\x7b% if x %\x7db".toList =
        .error (.unexpectedTag "if".toList .func ⟨1, 19⟩) ∧
      compile [] ("\x7b% func A() %\x7da\x7b% if x %\x7db".toList ++
          "c\x7b% open".toList) =
        .error (.unexpectedTag "if".toList .func ⟨1, 19⟩) := by
  have fails : compile [] "\x7b% func A() %\x7da\x7b% if x %\x7db".toList =
      .error (.unexpectedTag "if".toList .func ⟨1, 19⟩) := by
    decide +kernel
  exact ⟨fails, compile_append_of_refusal fails rfl _⟩

end Stencil
