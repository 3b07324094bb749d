/-
Compiling one template behind another, and under another name of the runtime.

Behind a source that is compiled the compilation is outside of all functions again, as at
the start.  The last text of the source and the first text behind it are read as one text,
which is dropped.  So the second source is compiled as it is on its own; only the positions
in its faults are counted from the end of the first source.  This fails when a tag opens
between the two sources.

No decision of the compiler depends on the name of the package with the writer.  The code
has it at places that the template alone fixes: one where a function starts and two where
it ends.
-/

import Stencil.Proofs.Compilation.Relabeling
import Stencil.Proofs.Template.Meaning

namespace Stencil

namespace Reading

variable {runtime code : Text} {position : Position}

/-- Where a text begins decides the positions in its faults, and nothing more. -/
theorem compileAt_rebase (runtime : Text) (reading : Reading) (origin : Position) :
    reading.compileAt runtime origin =
      (reading.compileAt runtime Position.start).mapError
        (CompileError.mapPosition origin.rebase) := by
  have follows := Position.follows_rebase origin
  have tokens := reading.template.tokensAt_move follows
  have fault := reading.faultAt_move follows
  rw [Position.rebase_start] at tokens fault
  unfold compileAt
  rw [tokens, fault]
  exact (Stage.item .topLevel).runToEnd_mapPosition origin.rebase runtime _ _

theorem compileAt_behind {segments : List Segment} (reading : Reading)
    (passes : (Stage.item .topLevel).Passes runtime
      (Segment.tokensFrom position segments) code (.item .topLevel)) :
    (reading.behind segments).compileAt runtime position =
      (reading.compileAt runtime
        (position.after (segments.flatMap Segment.spelling))).map (code ++ ·) := by
  have tokens : (reading.behind segments).template.tokensAt position =
      Segment.tokensFrom position segments ++
        reading.template.tokensAt (position.after (segments.flatMap Segment.spelling)) := by
    simp only [behind, TemplateSpelling.tokensAt, Segment.tokensFrom_append,
      List.flatMap_append, Position.after_append, List.append_assoc]
  have fault : (reading.behind segments).faultAt position =
      reading.faultAt (position.after (segments.flatMap Segment.spelling)) := by
    simp only [behind, faultAt, TemplateSpelling.spelling, List.flatMap_append,
      Position.after_append, List.append_assoc]
  unfold compileAt
  rw [tokens, fault, Stage.runToEnd_append_of_passes passes]

theorem runToEnd_plain (plain : PlainText) (later : List Token) (fault : Option ScanError) :
    (Stage.item .topLevel).runToEnd runtime (plain.tokens position ++ later) fault =
      (Stage.item .topLevel).runToEnd runtime later fault := by
  rw [Stage.runToEnd_append_of_passes (plain.passes runtime .topLevel position)]
  cases (Stage.item .topLevel).runToEnd runtime later fault <;> rfl

theorem compileAt_plain (plain : PlainText) (broken : Option BrokenTag) :
    compileAt runtime ⟨⟨[], plain⟩, broken⟩ position =
      (Stage.item .topLevel).runToEnd runtime []
        (broken.map (BrokenTag.fault (position.after plain.text))) := by
  rw [← runToEnd_plain plain, List.append_nil]
  rfl

theorem compileAt_segment (plain : PlainText) (tag : TagSpelling) (rest : List Segment)
    (last : PlainText) (broken : Option BrokenTag) :
    let opening := position.after plain.text
    let later : Reading := ⟨⟨rest, last⟩, broken⟩
    compileAt runtime ⟨⟨⟨plain, tag⟩ :: rest, last⟩, broken⟩ position =
      (Stage.item .topLevel).runToEnd runtime
        ([tag.nameToken opening, tag.contentsToken opening] ++
          later.template.tokensAt (opening.after tag.spelling))
        (later.faultAt (opening.after tag.spelling)) := by
  intro opening later
  have behind : position.after (Segment.spelling ⟨plain, tag⟩) =
      opening.after tag.spelling := Position.after_append _ _ _
  unfold compileAt faultAt
  rw [TemplateSpelling.tokensAt_cons, TemplateSpelling.spelling_cons, Position.after_append,
    behind, Segment.tokens, List.append_assoc]
  exact runToEnd_plain plain _ _

theorem exists_prepend (plain : PlainText) (reading : Reading)
    (undivided : ¬ (plain.text.getLast? = some '{' ∧ reading.text.head? = some '%')) :
    ∃ merged : Reading, merged.text = plain.text ++ reading.text ∧
      ∀ runtime position, merged.compileAt runtime position =
        reading.compileAt runtime (position.after plain.text) := by
  have apart {first rest : Text} (begins : reading.text = first ++ rest) :
      ¬ (plain.text.getLast? = some '{' ∧ first.head? = some '%') := by
    rintro ⟨atEnd, atStart⟩
    apply undivided
    rw [begins, List.head?_append, atStart]
    exact ⟨atEnd, rfl⟩
  obtain ⟨⟨segments, last⟩, broken⟩ := reading
  cases segments with
  | nil =>
      let joined : PlainText := ⟨plain.text ++ last.text,
        Text.not_infix_append plain.plain last.plain (apart rfl)⟩
      refine ⟨⟨⟨[], joined⟩, broken⟩, ?_, ?_⟩
      · simp only [text, TemplateSpelling.spelling, List.flatMap_nil, List.nil_append,
          List.append_assoc, joined]
      · intro runtime position
        rw [compileAt_plain, compileAt_plain, Position.after_append]
  | cons segment rest =>
      obtain ⟨first, tag⟩ := segment
      have begins : Reading.text ⟨⟨⟨first, tag⟩ :: rest, last⟩, broken⟩ =
          first.text ++ (tag.spelling ++ Reading.text ⟨⟨rest, last⟩, broken⟩) := by
        simp only [text, TemplateSpelling.spelling_cons, Segment.spelling, List.append_assoc]
      let joined : PlainText := ⟨plain.text ++ first.text,
        Text.not_infix_append plain.plain first.plain (apart begins)⟩
      refine ⟨⟨⟨⟨joined, tag⟩ :: rest, last⟩, broken⟩, ?_, ?_⟩
      · simp only [text, TemplateSpelling.spelling_cons, Segment.spelling, List.append_assoc,
          joined]
      · intro runtime position
        rw [compileAt_segment, compileAt_segment, Position.after_append]

end Reading

theorem Document.exists_of_compile {runtime source code : Text}
    (compiled : compile runtime source = .ok code) :
    ∃ document : Document, document.template.spelling = source ∧
      document.written runtime = code := by
  obtain ⟨⟨template, broken⟩, rfl⟩ := Reading.exists_text_eq source
  have delivers := Lexer.delivers_reading ⟨template, broken⟩ Position.start none
  obtain ⟨noFault, passes⟩ := (compile_eq_ok_iff_run delivers).mp compiled
  cases broken with
  | some broken => cases noFault
  | none =>
      obtain ⟨document, rfl⟩ := Document.exists_of_passes passes
      refine ⟨document, (List.append_nil _).symm, ?_⟩
      exact ((document.passes runtime Position.start).unique passes).1

/-- Behind a source that is compiled, a second one is compiled as it is on its own, with
the code of the first in front; the positions in a fault are counted from the end of the
first source. -/
theorem compile_append {runtime first code : Text}
    (compiled : compile runtime first = .ok code) (second : Text)
    (undivided : ¬ (first.getLast? = some '{' ∧ second.head? = some '%')) :
    compile runtime (first ++ second) =
      match compile runtime second with
      | .ok more => .ok (code ++ more)
      | .error error => .error (error.mapPosition (Position.start.after first).rebase) := by
  obtain ⟨⟨entries, last⟩, rfl, rfl⟩ := Document.exists_of_compile compiled
  obtain ⟨reading, rfl⟩ := Reading.exists_text_eq second
  let segments := entries.flatMap DocumentEntry.segments
  have undividedLast : ¬ (last.text.getLast? = some '{' ∧ reading.text.head? = some '%') := by
    rintro ⟨atEnd, atStart⟩
    apply undivided
    rw [Document.template, TemplateSpelling.spelling, List.getLast?_append, atEnd]
    exact ⟨rfl, atStart⟩
  obtain ⟨merged, mergedText, mergedCompiles⟩ :=
    Reading.exists_prepend last reading undividedLast
  have whole : (merged.behind segments).text =
      TemplateSpelling.spelling ⟨segments, last⟩ ++ reading.text := by
    rw [Reading.text_behind, mergedText, TemplateSpelling.spelling, List.append_assoc]
  have passes : (Stage.item .topLevel).Passes runtime
      (Segment.tokensFrom Position.start segments)
      (entries.flatMap (DocumentEntry.written runtime)) (.item .topLevel) :=
    Segment.passes_flatMap (DocumentEntry.passes runtime) Position.start
  have place : (Position.start.after (segments.flatMap Segment.spelling)).after last.text =
      Position.start.after (TemplateSpelling.spelling ⟨segments, last⟩) :=
    (Position.after_append _ _ _).symm
  change compile runtime (TemplateSpelling.spelling ⟨segments, last⟩ ++ reading.text) = _
  rw [← whole, compile_text, merged.compileAt_behind passes, mergedCompiles, place,
    reading.compileAt_rebase, ← compile_text]
  cases compile runtime reading.text with
  | ok more => rfl
  | error error => rfl

/-- A line end and a brace stand between the tags: the fault of the second source is told
on the second line. -/
theorem compile_append_behind_brace :
    compile [] "\x7b% code a %\x7d\n\x7b".toList = .ok (Go.code "a".toList) ∧
      compile [] "\x7b% s x %\x7d".toList =
        .error (.unexpectedTag "s".toList .topLevel ⟨1, 4⟩) ∧
      compile [] ("\x7b% code a %\x7d\n\x7b".toList ++ "\x7b% s x %\x7d".toList) =
        .error (.unexpectedTag "s".toList .topLevel ⟨2, 5⟩) := by
  have first : compile [] "\x7b% code a %\x7d\n\x7b".toList = .ok (Go.code "a".toList) := by
    decide +kernel
  have second : compile [] "\x7b% s x %\x7d".toList =
      .error (.unexpectedTag "s".toList .topLevel ⟨1, 4⟩) := by
    decide +kernel
  have joined := compile_append first "\x7b% s x %\x7d".toList (by decide)
  rw [second] at joined
  exact ⟨first, second, joined⟩

/-! ### The name of the package with the writer -/

/-- A text has a value at some places, and all else in it is fixed. -/
def Text.Holes (holes : Nat) (fill : Text → Text) : Prop :=
  ∃ pieces : List Text, pieces.length = holes + 1 ∧
    ∀ value : Text, fill value = value.intercalate pieces

namespace Text

theorem intercalate_append_joined (value first second : Text) (before after : List Text) :
    value.intercalate (before ++ [first]) ++ value.intercalate (second :: after) =
      value.intercalate (before ++ (first ++ second) :: after) := by
  induction before with
  | nil =>
      cases after with
      | nil => simp only [List.nil_append, List.intercalate_singleton]
      | cons next rest =>
          simp only [List.nil_append, List.intercalate_singleton, List.intercalate_cons_cons,
            List.append_assoc]
  | cons piece rest ih =>
      cases rest with
      | nil =>
          simp only [List.nil_append, List.cons_append, List.intercalate_cons_cons,
            List.append_assoc] at ih ⊢
          rw [ih]
      | cons next rest =>
          simp only [List.cons_append, List.intercalate_cons_cons, List.append_assoc] at ih ⊢
          rw [ih]

namespace Holes

theorem fixed (text : Text) : Holes 0 fun _ => text :=
  ⟨[text], rfl, fun _ => List.intercalate_singleton.symm⟩

theorem value : Holes 1 fun value => value := by
  refine ⟨[[], []], rfl, ?_⟩
  intro value
  rw [List.intercalate_cons_cons, List.intercalate_singleton, List.nil_append, List.append_nil]

/-- Where two texts meet, the last piece of one and the first piece of the other become one
piece. -/
theorem append {holes more : Nat} {fill later : Text → Text} (first : Holes holes fill)
    (second : Holes more later) : Holes (holes + more) fun value => fill value ++ later value := by
  obtain ⟨pieces, count, filled⟩ := first
  obtain ⟨others, otherCount, otherFilled⟩ := second
  cases others with
  | nil => cases otherCount
  | cons head rest =>
      have nonempty : pieces ≠ [] := by
        rintro rfl
        cases count
      have split := List.dropLast_concat_getLast nonempty
      refine ⟨pieces.dropLast ++ (pieces.getLast nonempty ++ head) :: rest, ?_, ?_⟩
      · simp only [List.length_append, List.length_cons, List.length_dropLast] at otherCount ⊢
        omega
      · intro value
        dsimp only
        rw [filled, otherFilled, ← intercalate_append_joined, split]

end Holes
end Text

open Text

theorem Go.funcStart_holes (signature : Signature) :
    Holes 1 fun runtime => Go.funcStart runtime signature := by
  let before := "\nfunc ".toList ++ signature.name ++ "Stream(w *".toList
  let after := ".Writer, ".toList ++ signature.args ++ ") \x7b\n".toList
  refine ⟨[before, after], rfl, fun runtime => ?_⟩
  simp only [List.intercalate_cons_cons, List.intercalate_singleton, before, after]
  unfold Go.funcStart
  simp only [List.append_assoc]

theorem Go.funcEnd_holes (signature : Signature) :
    Holes 2 fun runtime => Go.funcEnd runtime signature := by
  let before := "\x7d\n\nfunc ".toList ++ signature.name ++ "(".toList ++ signature.args ++
    ") string \x7b\n\tw := ".toList
  let between := ".AcquireWriter()\n\t".toList ++ signature.name ++ "Stream(w, ".toList ++
    signature.argNames ++ ")\n\ts := w.String()\n\t".toList
  let after := ".ReleaseWriter(w)\n\treturn s\n\x7d\n".toList
  refine ⟨[before, between, after], rfl, fun runtime => ?_⟩
  simp only [List.intercalate_cons_cons, List.intercalate_singleton, before, between, after]
  unfold Go.funcEnd
  simp only [List.append_assoc]

theorem FuncBlock.written_holes (block : FuncBlock) :
    Holes 3 fun runtime => block.written runtime := by
  have body := Holes.fixed (block.body.flatMap Insertion.written)
  have last := Holes.fixed (Go.text block.last.text)
  unfold FuncBlock.written
  simp only [← block.funcStart_signature, ← block.funcEnd_signature]
  exact (((Go.funcStart_holes block.signature).append body).append last).append
    (Go.funcEnd_holes block.signature)

def DocumentEntry.function? : DocumentEntry → Option FuncBlock
  | code _ _ => none
  | func _ block => some block

def Document.functions (document : Document) : List FuncBlock :=
  document.entries.filterMap DocumentEntry.function?

theorem DocumentEntry.written_holes (entries : List DocumentEntry) :
    Holes (3 * (entries.filterMap function?).length) fun runtime =>
      entries.flatMap (written runtime) := by
  induction entries with
  | nil => exact Holes.fixed []
  | cons entry rest ih =>
      simp only [List.flatMap_cons]
      cases entry with
      | code text tag =>
          have joined := (Holes.fixed (tag.spelled.contents ++ "\n".toList)).append ih
          rw [Nat.zero_add] at joined
          exact joined
      | func text block =>
          have joined := block.written_holes.append ih
          rw [Nat.add_comm] at joined
          exact joined

theorem Token.asContents_stage (token : Token) (context : BlockContext)
    {accepted other : Except CompileError (Text × Stage)}
    (same : accepted.map Prod.snd = other.map Prod.snd) :
    (token.asContents context accepted).map Prod.snd =
      (token.asContents context other).map Prod.snd := by
  unfold Token.asContents
  by_cases isContents : token.kind = .tagContents
  · rw [if_pos isContents, if_pos isContents, same]
  · rw [if_neg isContents, if_neg isContents]

theorem openBlock_stage (runtime other : Text) (token : Token) :
    (openBlock runtime token).map Prod.snd = (openBlock other token).map Prod.snd := by
  unfold openBlock
  cases Signature.split token.value with
  | error cause => rfl
  | ok signature => rfl

namespace Stage

theorem step_stage (runtime other : Text) (stage : Stage) (token : Token) :
    (stage.step runtime token).map Prod.snd = (stage.step other token).map Prod.snd := by
  cases stage with
  | item block => rfl
  | inline block tag name => rfl
  | opening name => exact token.asContents_stage _ (openBlock_stage runtime other token)
  | closing signature name =>
      simp only [step]
      generalize Go.funcEnd runtime signature = code
      generalize Go.funcEnd other signature = otherCode
      exact token.asContents_stage _ rfl

theorem run_stage (runtime other : Text) (stage : Stage) (tokens : List Token) :
    (stage.run runtime tokens).2 = (stage.run other tokens).2 := by
  induction tokens generalizing stage with
  | nil => rfl
  | cons token rest ih =>
      have same := stage.step_stage runtime other token
      cases steps : stage.step runtime token with
      | error fault =>
          cases otherSteps : stage.step other token with
          | error otherFault =>
              rw [steps, otherSteps] at same
              cases same
              rw [run_cons_of_fault steps, run_cons_of_fault otherSteps]
          | ok given =>
              rw [steps, otherSteps] at same
              cases same
      | ok given =>
          cases otherSteps : stage.step other token with
          | error otherFault =>
              rw [steps, otherSteps] at same
              cases same
          | ok otherGiven =>
              rw [steps, otherSteps] at same
              have sameNext : given.2 = otherGiven.2 := Except.ok.inj same
              rw [run_cons_of_step steps, run_cons_of_step otherSteps, sameNext]
              exact ih otherGiven.2

theorem runToEnd_fault {runtime : Text} {stage : Stage} {tokens : List Token}
    {fault : Option ScanError} {error : CompileError}
    (fails : stage.runToEnd runtime tokens fault = .error error) (other : Text) :
    stage.runToEnd other tokens fault = .error error := by
  unfold runToEnd at fails ⊢
  rw [run_stage other runtime]
  cases ends : (stage.run runtime tokens).2.bind fun last => last.finish fault with
  | error earlier =>
      rw [ends] at fails
      exact fails
  | ok done =>
      rw [ends] at fails
      cases fails

end Stage

theorem Document.compile_spelling (runtime : Text) (document : Document) :
    compile runtime document.spelling = .ok (document.written runtime) := by
  rw [← document.spelling_template]
  exact (compile_eq_ok_iff_run
    (Lexer.delivers_spelling document.template Position.start none)).mpr
      ⟨rfl, document.passes runtime _⟩

/-- A template gives one and the same fault under every name, or it is a document with some
functions, and its code consists of fixed pieces with the name between them, three times
for each function. -/
theorem compile_inserts_runtime (template : Text) :
    (∃ error, ∀ runtime, compile runtime template = .error error) ∨
      ∃ document : Document, document.spelling = template ∧
        ∃ pieces : List Text, pieces.length = 3 * document.functions.length + 1 ∧
          ∀ runtime : Text, compile runtime template = .ok (runtime.intercalate pieces) := by
  cases compiled : compile [] template with
  | error error =>
      refine Or.inl ⟨error, ?_⟩
      intro runtime
      obtain ⟨tokens, fault, delivers⟩ := Delivers.total (Lexer.ofText template)
      rw [compile_of_delivers delivers] at compiled ⊢
      exact Stage.runToEnd_fault compiled runtime
  | ok code =>
      obtain ⟨document, spelled, -⟩ := Document.exists_of_compile compiled
      rw [document.spelling_template] at spelled
      obtain ⟨pieces, count, filled⟩ := DocumentEntry.written_holes document.entries
      refine Or.inr ⟨document, spelled, pieces, count, ?_⟩
      intro runtime
      rw [← spelled, document.compile_spelling, ← filled runtime]
      rfl

end Stencil
