/-
The documents of the template language, and what they are compiled to.

A document has texts in which no tag opens, and between them `code` tags and whole
functions; in a function there are texts and the tags that give one statement.  It is
spelled as a template and stands for Go code; neither refers to the lexer or to the
compilation.

The sources that can be compiled are the spellings of documents, and what is put out is
the code that the document stands for.
-/

import Stencil.Proofs.Compilation.Acceptance
import Stencil.Proofs.Go.Statements
import Stencil.Proofs.Token.Reading

namespace Stencil

/-- What stands in a template for a tag. -/
def Tag.word : Tag → Text
  | .func => "func".toList
  | .endfunc => "endfunc".toList
  | .code => "code".toList
  | .string => "s".toList
  | .decimal => "d".toList
  | .float => "f".toList

theorem Tag.word_eq_name (tag : Tag) : tag.word = tag.name := by
  cases tag <;> rfl

structure SpelledTag (tag : Tag) where
  spelled : TagSpelling
  named : spelled.name = tag.word

/-- In a function: a text, and a tag behind it that gives a statement. -/
structure Insertion where
  text : PlainText
  kind : Inline
  tag : SpelledTag kind.tag

structure FuncBlock where
  opening : SpelledTag .func
  signature : Signature
  splits : Signature.split opening.spelled.contents = .ok signature
  body : List Insertion
  last : PlainText
  closing : SpelledTag .endfunc

/-- Outside of functions: a text, and a `code` tag or a function behind it. -/
inductive DocumentEntry where
  | code (text : PlainText) (tag : SpelledTag .code)
  | func (text : PlainText) (block : FuncBlock)

structure Document where
  entries : List DocumentEntry
  last : PlainText

def Insertion.spelling (insertion : Insertion) : Text :=
  insertion.text.text ++ insertion.tag.spelled.spelling

def FuncBlock.spelling (block : FuncBlock) : Text :=
  block.opening.spelled.spelling ++ block.body.flatMap Insertion.spelling ++
    block.last.text ++ block.closing.spelled.spelling

def DocumentEntry.spelling : DocumentEntry → Text
  | code text tag => text.text ++ tag.spelled.spelling
  | func text block => text.text ++ block.spelling

def Document.spelling (document : Document) : Text :=
  document.entries.flatMap DocumentEntry.spelling ++ document.last.text

def Insertion.statement (insertion : Insertion) : Text :=
  let contents := insertion.tag.spelled.contents
  match insertion.kind with
  | .code => contents ++ "\n".toList
  | .string => "w.E.S(".toList ++ contents ++ ")\n".toList
  | .decimal => "w.D(".toList ++ contents ++ ")\n".toList
  | .float => "w.F(".toList ++ contents ++ ")\n".toList

def Insertion.written (insertion : Insertion) : Text :=
  Go.text insertion.text.text ++ insertion.statement

def FuncBlock.front (runtime : Text) (block : FuncBlock) : List Text :=
  [[],
    "func ".toList ++ block.signature.name ++ "Stream(w *".toList ++ runtime ++
      ".Writer, ".toList ++ block.signature.args ++ ") \x7b".toList]

def FuncBlock.back (runtime : Text) (block : FuncBlock) : List Text :=
  ["\x7d".toList,
    [],
    "func ".toList ++ block.signature.name ++ "(".toList ++ block.signature.args ++
      ") string \x7b".toList,
    "\tw := ".toList ++ runtime ++ ".AcquireWriter()".toList,
    "\t".toList ++ block.signature.name ++ "Stream(w, ".toList ++ block.signature.argNames ++
      ")".toList,
    "\ts := w.String()".toList,
    "\t".toList ++ runtime ++ ".ReleaseWriter(w)".toList,
    "\treturn s".toList,
    "\x7d".toList]

def FuncBlock.written (runtime : Text) (block : FuncBlock) : Text :=
  (block.front runtime).flatMap (· ++ "\n".toList) ++ block.body.flatMap Insertion.written ++
    Go.text block.last.text ++ (block.back runtime).flatMap (· ++ "\n".toList)

/-- The code for an entry; the text outside of functions is dropped. -/
def DocumentEntry.written (runtime : Text) : DocumentEntry → Text
  | code _ tag => tag.spelled.contents ++ "\n".toList
  | func _ block => block.written runtime

def Document.written (runtime : Text) (document : Document) : Text :=
  document.entries.flatMap (DocumentEntry.written runtime)

theorem Insertion.render_contents (insertion : Insertion) :
    insertion.kind.render insertion.tag.spelled.contents = insertion.statement := by
  obtain ⟨text, kind, tag⟩ := insertion
  cases kind with
  | code => rfl
  | string => rfl
  | decimal => rfl
  | float => rfl

theorem FuncBlock.funcStart_signature (runtime : Text) (block : FuncBlock) :
    Go.funcStart runtime block.signature =
      (block.front runtime).flatMap (· ++ "\n".toList) := by
  unfold Go.funcStart front
  simp

theorem FuncBlock.funcEnd_signature (runtime : Text) (block : FuncBlock) :
    Go.funcEnd runtime block.signature =
      (block.back runtime).flatMap (· ++ "\n".toList) := by
  unfold Go.funcEnd back
  simp

def Insertion.segments (insertion : Insertion) : List Segment :=
  [⟨insertion.text, insertion.tag.spelled⟩]

/-- What stands in a template behind the `func` tag, up to the `endfunc` tag. -/
def FuncBlock.inner (block : FuncBlock) : List Segment :=
  block.body.flatMap Insertion.segments ++ [⟨block.last, block.closing.spelled⟩]

def DocumentEntry.segments : DocumentEntry → List Segment
  | code text tag => [⟨text, tag.spelled⟩]
  | func text block => [⟨text, block.opening.spelled⟩] ++ block.inner

def Document.template (document : Document) : TemplateSpelling :=
  ⟨document.entries.flatMap DocumentEntry.segments, document.last⟩

theorem Insertion.spelling_segments (insertion : Insertion) :
    insertion.segments.flatMap Segment.spelling = insertion.spelling :=
  List.append_nil _

theorem DocumentEntry.spelling_segments (entry : DocumentEntry) :
    entry.segments.flatMap Segment.spelling = entry.spelling := by
  cases entry with
  | code text tag => exact List.append_nil _
  | func text block =>
      simp only [segments, FuncBlock.inner, List.flatMap_append, List.flatMap_assoc,
        Insertion.spelling_segments, List.flatMap_singleton, Segment.spelling, spelling,
        FuncBlock.spelling, List.append_assoc]

theorem Document.spelling_template (document : Document) :
    document.template.spelling = document.spelling := by
  simp only [TemplateSpelling.spelling, template, List.flatMap_assoc,
    DocumentEntry.spelling_segments, spelling]

/-! ### Compiling a document -/

variable {runtime code : Text} {stage middle next last : Stage} {position : Position}

def TagSpelling.lexeme (spelled : TagSpelling) (position : Position) : Lexeme :=
  ⟨spelled.contents, (spelled.contentsToken position).position⟩

def TagSpelling.place (spelled : TagSpelling) (position : Position) : Position :=
  (spelled.nameToken position).position

theorem SpelledTag.nameToken {tag : Tag} (spelled : SpelledTag tag) (position : Position) :
    spelled.spelled.nameToken position = tag.token (spelled.spelled.place position) := by
  simp only [TagSpelling.place, TagSpelling.nameToken, Tag.token, spelled.named, tag.word_eq_name]

def SpelledTag.ofNameToken {tag : Tag} {spelled : TagSpelling} {name : Position}
    (same : spelled.nameToken position = tag.token name) : SpelledTag tag :=
  ⟨spelled, (congrArg Token.value same).trans tag.word_eq_name.symm⟩

theorem PlainText.passes (runtime : Text) (block : Block) (plain : PlainText)
    (position : Position) :
    (Stage.item block).Passes runtime (plain.tokens position) (block.literal plain.text)
      (.item block) := by
  unfold PlainText.tokens
  split
  · rename_i empty
    have silent : block.literal [] = [] := by
      cases block <;> rfl
    rw [empty, silent]
    rfl
  · exact Stage.Passes.one rfl

theorem Segment.passes {block : Block} {segment : Segment}
    (name : (Stage.item block).step runtime
      (segment.tag.nameToken (position.after segment.text.text)) = .ok ([], middle))
    (contents : middle.step runtime
      (segment.tag.contentsToken (position.after segment.text.text)) = .ok (code, next)) :
    (Stage.item block).Passes runtime (tokensFrom position [segment])
      (block.literal segment.text.text ++ code) next := by
  rw [tokensFrom, tokensFrom, List.append_nil]
  exact (segment.text.passes runtime block position).append
    (Stage.Passes.pair name contents)

theorem Segment.passes_append {first second : List Segment} {more : Text}
    (passesFirst : stage.Passes runtime (tokensFrom position first) code middle)
    (passesSecond : ∀ behind, middle.Passes runtime (tokensFrom behind second) more next) :
    stage.Passes runtime (tokensFrom position (first ++ second)) (code ++ more) next := by
  rw [tokensFrom_append]
  exact passesFirst.append (passesSecond _)

theorem Segment.passes_flatMap {α : Type} {parts : List α} {spell : α → List Segment}
    {give : α → Text}
    (each : ∀ part position,
      stage.Passes runtime (tokensFrom position (spell part)) (give part) stage)
    (position : Position) :
    stage.Passes runtime (tokensFrom position (parts.flatMap spell)) (parts.flatMap give)
      stage := by
  induction parts generalizing position with
  | nil => rfl
  | cons part parts ih =>
      rw [List.flatMap_cons, List.flatMap_cons]
      exact passes_append (each part position) ih

theorem Insertion.passes (runtime : Text) (head : FuncHead) (insertion : Insertion)
    (position : Position) :
    (Stage.item head.block).Passes runtime
      (Segment.tokensFrom position insertion.segments) insertion.written
      (.item head.block) := by
  apply Segment.passes
  · rw [insertion.tag.nameToken]
    exact Stage.step_inline runtime head _ insertion.kind
  · rw [← insertion.render_contents]
    exact Stage.step_inline_contents runtime _ (insertion.tag.spelled.lexeme _) _ _

def FuncBlock.head (block : FuncBlock) (position : Position) : FuncHead :=
  ⟨block.opening.spelled.place position,
    block.opening.spelled.lexeme position, block.signature, block.splits⟩

theorem FuncBlock.passes_inner (runtime : Text) (block : FuncBlock)
    (opened position : Position) :
    (Stage.item (block.head opened).block).Passes runtime
      (Segment.tokensFrom position block.inner)
      (block.body.flatMap Insertion.written ++
        (Go.text block.last.text ++ Go.funcEnd runtime block.signature))
      (.item .topLevel) := by
  refine Segment.passes_append
    (Segment.passes_flatMap (Insertion.passes runtime (block.head opened)) position) ?_
  intro behind
  have name : (Stage.item (block.head opened).block).step runtime
      (block.closing.spelled.nameToken (behind.after block.last.text)) =
        .ok ([], .closing block.signature
          (block.closing.spelled.place (behind.after block.last.text))) := by
    rw [block.closing.nameToken]
    exact Stage.step_endfunc runtime (block.head opened) _
  exact Segment.passes name
    (Stage.step_closing_contents runtime _ (block.closing.spelled.lexeme _) _)

theorem FuncBlock.passes_opening (runtime : Text) (text : PlainText) (block : FuncBlock)
    (position : Position) :
    (Stage.item .topLevel).Passes runtime
      (Segment.tokensFrom position [⟨text, block.opening.spelled⟩])
      (Go.funcStart runtime block.signature)
      (.item (block.head (position.after text.text)).block) := by
  apply Segment.passes
  · rw [block.opening.nameToken]
    exact Stage.step_func runtime _
  · exact Stage.step_signature runtime (block.head _) _

theorem DocumentEntry.passes (runtime : Text) (entry : DocumentEntry) (position : Position) :
    (Stage.item .topLevel).Passes runtime (Segment.tokensFrom position entry.segments)
      (entry.written runtime) (.item .topLevel) := by
  cases entry with
  | code text tag =>
      apply Segment.passes
      · rw [tag.nameToken]
        exact Stage.step_code runtime _
      · exact Stage.step_inline_contents runtime _ (tag.spelled.lexeme _) _ .code
  | func text block =>
      rw [segments, written, FuncBlock.written, ← block.funcStart_signature,
        ← block.funcEnd_signature, List.append_assoc, List.append_assoc]
      exact Segment.passes_append (block.passes_opening runtime text position)
        (block.passes_inner runtime _)

/-- The run over the tokens of a document gives its code. -/
theorem Document.passes (runtime : Text) (document : Document) (position : Position) :
    (Stage.item .topLevel).Passes runtime (document.template.tokensAt position)
      (document.written runtime) (.item .topLevel) := by
  obtain ⟨entries, last⟩ := document
  have passed : (Stage.item .topLevel).Passes runtime
      (Segment.tokensFrom position (entries.flatMap DocumentEntry.segments))
      (entries.flatMap (DocumentEntry.written runtime)) (.item .topLevel) :=
    Segment.passes_flatMap (DocumentEntry.passes runtime) position
  have whole := passed.append (last.passes runtime .topLevel
    (position.after ((entries.flatMap DocumentEntry.segments).flatMap Segment.spelling)))
  rw [Block.literal, List.append_nil] at whole
  exact whole

def Segment.Outside (segments : List Segment) : Prop :=
  ∃ entries : List DocumentEntry, entries.flatMap DocumentEntry.segments = segments

def Segment.Inside (segments : List Segment) : Prop :=
  ∃ (body : List Insertion) (last : PlainText) (closing : SpelledTag .endfunc)
    (rest : List Segment),
    Segment.Outside rest ∧
      body.flatMap Insertion.segments ++ [⟨last, closing.spelled⟩] ++ rest = segments

namespace Segment

variable {segment : Segment} {rest : List Segment} {name : Position}

theorem Outside.codeTag
    (same : segment.tag.nameToken position = Tag.code.token name) (outside : Outside rest) :
    Outside (segment :: rest) := by
  obtain ⟨entries, rfl⟩ := outside
  exact ⟨.code segment.text (.ofNameToken same) :: entries, rfl⟩

theorem Outside.funcTag {signature : Signature}
    (same : segment.tag.nameToken position = Tag.func.token name)
    (splits : Signature.split segment.tag.contents = .ok signature)
    (inside : Inside rest) : Outside (segment :: rest) := by
  obtain ⟨body, last, closing, behind, ⟨entries, rfl⟩, rfl⟩ := inside
  exact ⟨.func segment.text ⟨.ofNameToken same, signature, splits, body, last, closing⟩ ::
    entries, rfl⟩

theorem Inside.insertion (kind : Inline)
    (same : segment.tag.nameToken position = kind.tag.token name) (inside : Inside rest) :
    Inside (segment :: rest) := by
  obtain ⟨body, last, closing, behind, outside, rfl⟩ := inside
  exact ⟨⟨segment.text, kind, .ofNameToken same⟩ :: body, last, closing, behind, outside,
    rfl⟩

theorem Inside.endfuncTag
    (same : segment.tag.nameToken position = Tag.endfunc.token name)
    (outside : Outside rest) : Inside (segment :: rest) :=
  ⟨[], segment.text, .ofNameToken same, rest, outside, rfl⟩

theorem exists_of_passes {block : Block} {final : PlainText}
    (passes : (Stage.item block).Passes runtime
      (TemplateSpelling.tokensAt ⟨segment :: rest, final⟩ position) code last) :
    let place := position.after segment.text.text
    ∃ silence middle piece next later,
      block.begin (segment.tag.nameToken place) = .ok (silence, middle) ∧
        middle.step runtime (segment.tag.contentsToken place) = .ok (piece, next) ∧
          next.Passes runtime
            (TemplateSpelling.tokensAt ⟨rest, final⟩ (position.after segment.spelling))
            later last := by
  intro place
  rw [TemplateSpelling.tokensAt_cons, tokens, List.append_assoc] at passes
  obtain ⟨_, atName⟩ := (segment.text.passes runtime block position).of_append passes
  obtain ⟨silence, middle, _, named, atContents⟩ := Stage.Passes.of_cons atName
  obtain ⟨piece, next, later, given, behind⟩ := Stage.Passes.of_cons atContents
  exact ⟨silence, middle, piece, next, later, named, given, behind⟩

/-- What goes through is a document: what starts outside of functions by the entries,
and what starts inside of one by the rest of its body.  Which of the two holds behind a
segment is decided by its tag. -/
theorem outside_and_inside (segments : List Segment) (final : PlainText) :
    (∀ position code, (Stage.item .topLevel).Passes runtime
        (TemplateSpelling.tokensAt ⟨segments, final⟩ position) code (.item .topLevel) →
      Outside segments) ∧
    ∀ signature opened position code, (Stage.item (.func signature opened)).Passes runtime
        (TemplateSpelling.tokensAt ⟨segments, final⟩ position) code (.item .topLevel) →
      Inside segments := by
  induction segments with
  | nil =>
      refine ⟨fun _ _ _ => ⟨[], rfl⟩, ?_⟩
      intro signature opened position code passes
      have kept := final.passes runtime (.func signature opened) position
      cases kept.symm.trans passes
  | cons segment rest ih =>
      obtain ⟨ihOutside, ihInside⟩ := ih
      constructor
      · intro position code passes
        obtain ⟨silence, middle, piece, next, later, named, given, behind⟩ :=
          exists_of_passes passes
        rcases Block.begin_topLevel_eq_ok named with isText | isCode | isFunc
        · cases isText
        · rw [isCode] at named
          cases named
          cases given
          exact .codeTag isCode (ihOutside _ _ behind)
        · rw [isFunc] at named
          cases named
          obtain ⟨_, opens⟩ := Token.asContents_eq_ok given
          obtain ⟨signature, splits, same⟩ := openBlock_eq_ok opens
          cases same
          exact .funcTag isFunc splits (ihInside _ _ _ _ behind)
      · intro signature opened position code passes
        obtain ⟨silence, middle, piece, next, later, named, given, behind⟩ :=
          exists_of_passes passes
        rcases Block.begin_func_eq_ok named with isText | isEnd | ⟨kind, isInline⟩
        · cases isText
        · rw [isEnd] at named
          cases named
          cases given
          exact .endfuncTag isEnd (ihOutside _ _ behind)
        · rw [isInline, Block.begin_inline] at named
          cases named
          cases given
          exact .insertion kind isInline (ihInside _ _ _ _ behind)

end Segment

/-- A spelling that is compiled spells a document. -/
theorem Document.exists_of_passes {template : TemplateSpelling}
    (passes : (Stage.item .topLevel).Passes runtime (template.tokensAt position) code
      (.item .topLevel)) :
    ∃ document : Document, document.template = template := by
  obtain ⟨segments, last⟩ := template
  obtain ⟨entries, same⟩ := (Segment.outside_and_inside segments last).1 _ _ passes
  refine ⟨⟨entries, last⟩, ?_⟩
  rw [template, same]

theorem compile_eq_ok_iff_run {source : Text} {tokens : List Token}
    {fault : Option ScanError} (delivers : Delivers (Lexer.ofText source) tokens fault) :
    compile runtime source = .ok code ↔
      fault = none ∧ (Stage.item .topLevel).Passes runtime tokens code (.item .topLevel) := by
  rw [← compileTokens_eq_ok_iff delivers, compile, compilation]
  cases (compileTokens runtime (Lexer.ofText source) (Sink.empty none)).result with
  | error cause => simp
  | ok done => simp

/-- Compiling succeeds exactly on the spellings of documents, with the code that the
document stands for.  The statements for a text in it put out that text and nothing
else. -/
theorem compile_accepts_documents (runtime source : Text) :
    (∀ code, compile runtime source = .ok code ↔
      ∃ document : Document, document.spelling = source ∧
        document.written runtime = code) ∧
    ∀ text output, Go.Prints (Go.text text) output ↔ output = text := by
  refine ⟨?_, Go.prints_text_iff⟩
  intro code
  constructor
  · intro compiled
    obtain ⟨tokens, fault, delivers⟩ := Delivers.total (Lexer.ofText source)
    obtain ⟨rfl, passes⟩ := (compile_eq_ok_iff_run delivers).mp compiled
    obtain ⟨template, spelled⟩ := Lexer.exists_spelling_of_delivers _ _ delivers
    have read := Lexer.delivers_spelling template Position.start none
    rw [spelled] at read
    rw [(delivers.unique read).1] at passes
    obtain ⟨document, rfl⟩ := Document.exists_of_passes passes
    refine ⟨document, document.spelling_template.symm.trans spelled, ?_⟩
    exact ((document.passes runtime _).unique passes).1
  · intro spelled
    obtain ⟨document, rfl, rfl⟩ := spelled
    rw [← document.spelling_template]
    exact (compile_eq_ok_iff_run
      (Lexer.delivers_spelling document.template Position.start none)).mpr
        ⟨rfl, document.passes runtime _⟩

end Stencil
