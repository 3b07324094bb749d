/-
What Go reads from the statements for literal text.

A raw literal ends at its next backtick and loses its carriage returns; of the interpreted
literals only those of a backtick and of a carriage return are considered.  Statements that
write literals can be taken apart into literals in one way only, so that what they put out is
unique, and from the statements for a text it is that text.

Each backtick and each carriage return is a literal of its own, and so is each longest run
without them, unless it is empty.
-/

import Mathlib.Data.List.Basic
import Stencil.Go
import Stencil.Proofs.Text.Pair

namespace Stencil
namespace Go

/-- A literal as it is spelled, and the characters that it denotes. -/
inductive Denotes : Text → Text → Prop
  | raw {run : Text} (unbroken : '\x60' ∉ run) :
      Denotes (['\x60'] ++ run ++ ['\x60']) (run.filter (· != '\r'))
  | backtick : Denotes "\"\x60\"".toList ['\x60']
  | carriageReturn : Denotes "\"\\r\"".toList ['\r']

inductive Prints : Text → Text → Prop
  | done : Prints [] []
  | statement {literal value code output : Text} (denotes : Denotes literal value)
      (later : Prints code output) :
      Prints ("w.E.S(".toList ++ literal ++ ")\n".toList ++ code) (value ++ output)

/-- Statements that write one literal each: the literals as they are spelled, with the
characters that they denote. -/
inductive Itemizes : Text → List (Text × Text) → Prop
  | done : Itemizes [] []
  | statement {literal value code : Text} {items : List (Text × Text)}
      (denotes : Denotes literal value) (later : Itemizes code items) :
      Itemizes ("w.E.S(".toList ++ literal ++ ")\n".toList ++ code) ((literal, value) :: items)

theorem Itemizes.prints {code : Text} {items : List (Text × Text)}
    (itemizes : Itemizes code items) : Prints code (items.flatMap Prod.snd) := by
  induction itemizes with
  | done => exact .done
  | statement denotes later ih => exact .statement denotes ih

theorem Prints.itemizes {code output : Text} (prints : Prints code output) :
    ∃ items, Itemizes code items ∧ items.flatMap Prod.snd = output := by
  induction prints with
  | done => exact ⟨[], .done, rfl⟩
  | @statement literal value code output denotes later ih =>
      obtain ⟨items, itemizes, rfl⟩ := ih
      exact ⟨(literal, value) :: items, .statement denotes itemizes, rfl⟩

/-- A literal ends by itself, whatever stands behind it. -/
theorem Denotes.unique {literal other value otherValue rest otherRest : Text}
    (first : Denotes literal value) (second : Denotes other otherValue)
    (same : literal ++ rest = other ++ otherRest) :
    literal = other ∧ value = otherValue ∧ rest = otherRest := by
  cases first with
  | raw unbroken =>
      cases second with
      | raw otherUnbroken =>
          simp only [List.append_assoc, List.cons_append, List.nil_append,
            List.cons.injEq, true_and] at same
          obtain ⟨runs, rests⟩ :=
            Text.append_cons_inj_of_free unbroken otherUnbroken same
          rw [runs]
          exact ⟨rfl, rfl, rests⟩
      | backtick => cases (List.cons.inj same).1
      | carriageReturn => cases (List.cons.inj same).1
  | backtick =>
      cases second with
      | raw otherUnbroken => cases (List.cons.inj same).1
      | backtick => exact ⟨rfl, rfl, List.append_cancel_left same⟩
      | carriageReturn => cases (List.cons.inj (List.cons.inj same).2).1
  | carriageReturn =>
      cases second with
      | raw otherUnbroken => cases (List.cons.inj same).1
      | backtick => cases (List.cons.inj (List.cons.inj same).2).1
      | carriageReturn => exact ⟨rfl, rfl, List.append_cancel_left same⟩

theorem Itemizes.unique {code : Text} {items others : List (Text × Text)}
    (first : Itemizes code items) (second : Itemizes code others) : items = others := by
  induction first generalizing others with
  | done =>
      generalize hCode : ([] : Text) = code at second
      cases second with
      | done => rfl
      | statement denotes later => cases hCode
  | @statement literal value code items denotes later ih =>
      generalize hCode :
        "w.E.S(".toList ++ literal ++ ")\n".toList ++ code = whole at second
      cases second with
      | done => cases hCode
      | @statement otherLiteral otherValue otherCode otherItems otherDenotes otherLater =>
          simp only [List.append_assoc] at hCode
          obtain ⟨literals, values, codes⟩ :=
            denotes.unique otherDenotes (List.append_cancel_left hCode)
          have codeEq := List.append_cancel_left codes
          rw [← codeEq] at otherLater
          rw [literals, values, ih otherLater]

theorem Prints.unique {code output other : Text} (first : Prints code output)
    (second : Prints code other) : output = other := by
  obtain ⟨items, itemizes, rfl⟩ := first.itemizes
  obtain ⟨others, otherItemizes, rfl⟩ := second.itemizes
  rw [itemizes.unique otherItemizes]

namespace Literal

/-- A literal that can be spelled as it is: a run is not empty, and nothing in it ends the
literal or gets lost. -/
def Sound : Literal → Prop
  | raw run => run ≠ [] ∧ '\x60' ∉ run ∧ '\r' ∉ run
  | _ => True

theorem sound_push {c : Char} {literals : List Literal}
    (sound : ∀ literal ∈ literals, literal.Sound) :
    ∀ literal ∈ push c literals, literal.Sound := by
  intro literal member
  unfold push at member
  split at member
  · rcases List.mem_cons.mp member with rfl | inside
    · trivial
    · exact sound literal inside
  · rename_i notBacktick
    split at member
    · rcases List.mem_cons.mp member with rfl | inside
      · trivial
      · exact sound literal inside
    · rename_i notReturn
      split at member
      · rename_i run rest
        have runSound := sound (raw run) List.mem_cons_self
        rcases List.mem_cons.mp member with rfl | inside
        · refine ⟨List.cons_ne_nil c run, ?_, ?_⟩
          · rw [List.mem_cons, not_or]
            exact ⟨Ne.symm notBacktick, runSound.2.1⟩
          · rw [List.mem_cons, not_or]
            exact ⟨Ne.symm notReturn, runSound.2.2⟩
        · exact sound literal (List.mem_cons_of_mem _ inside)
      · rcases List.mem_cons.mp member with rfl | inside
        · refine ⟨List.cons_ne_nil c [], ?_, ?_⟩
          · simpa using Ne.symm notBacktick
          · simpa using Ne.symm notReturn
        · exact sound literal inside

theorem sound_ofText (text : Text) : ∀ literal ∈ ofText text, literal.Sound := by
  induction text with
  | nil =>
      intro literal member
      cases member
  | cons c rest ih => exact sound_push ih

theorem value_push (c : Char) (literals : List Literal) :
    (push c literals).flatMap value = c :: literals.flatMap value := by
  unfold push
  split
  · rename_i isBacktick
    rw [isBacktick]
    rfl
  · split
    · rename_i isReturn
      rw [isReturn]
      rfl
    · split
      · rfl
      · rfl

theorem value_ofText (text : Text) : (ofText text).flatMap value = text := by
  induction text with
  | nil => rfl
  | cons c rest ih =>
      change (push c (ofText rest)).flatMap value = c :: rest
      rw [value_push, ih]

theorem Sound.denotes {literal : Literal} (sound : literal.Sound) :
    Denotes literal.spelling literal.value := by
  cases literal with
  | raw run =>
      have kept : run.filter (· != '\r') = run := by
        rw [List.filter_eq_self]
        intro c member
        simp only [bne_iff_ne, ne_eq]
        rintro rfl
        exact sound.2.2 member
      have read := Denotes.raw sound.2.1
      rw [kept] at read
      exact read
  | backtick => exact .backtick
  | carriageReturn => exact .carriageReturn

theorem itemizes_of_sound {literals : List Literal}
    (sound : ∀ literal ∈ literals, literal.Sound) :
    Itemizes (literals.flatMap fun literal => string literal.spelling)
      (literals.map fun literal => (literal.spelling, literal.value)) := by
  induction literals with
  | nil => exact .done
  | cons literal rest ih =>
      have later := ih fun other member => sound other (List.mem_cons_of_mem _ member)
      rw [List.flatMap_cons, List.map_cons]
      exact .statement (sound literal List.mem_cons_self).denotes later

end Literal

/-- The statements for a text put out that text and nothing else. -/
theorem prints_text_iff (contents output : Text) :
    Prints (text contents) output ↔ output = contents := by
  have read : Prints (text contents) contents := by
    have printed := (Literal.itemizes_of_sound (Literal.sound_ofText contents)).prints
    rw [List.flatMap_map, Literal.value_ofText] at printed
    exact printed
  constructor
  · intro other
    exact other.unique read
  · intro same
    rw [same]
    exact read

/-! ### How many statements -/

def breaksRaw (c : Char) : Bool :=
  c == '\x60' || c == '\r'

/-- The longest runs of a text that raw literals can hold, without the empty ones. -/
def rawRuns (contents : Text) : List Text :=
  (contents.splitOnP breaksRaw).filter fun run => run != []

theorem exists_splitOnP_cons (contents : Text) :
    ∃ first pieces, contents.splitOnP breaksRaw = first :: pieces :=
  List.exists_cons_of_ne_nil (List.splitOnP_ne_nil breaksRaw contents)

theorem length_splitOnP (contents : Text) :
    (contents.splitOnP breaksRaw).length = contents.countP breaksRaw + 1 := by
  induction contents with
  | nil => rfl
  | cons c rest ih =>
      rw [List.splitOnP_cons_eq_if_modifyHead]
      by_cases breaks : breaksRaw c = true
      · rw [if_pos breaks, List.length_cons, ih, List.countP_cons_of_pos breaks]
      · rw [if_neg breaks, List.length_modifyHead, ih, List.countP_cons_of_neg breaks]

theorem length_rawRuns_le (contents : Text) :
    (rawRuns contents).length ≤ contents.countP breaksRaw + 1 := by
  rw [← length_splitOnP]
  exact List.length_filter_le _ _

theorem rawRuns_of_break {c : Char} (breaks : breaksRaw c = true) (rest : Text) :
    rawRuns (c :: rest) = rawRuns rest := by
  unfold rawRuns
  rw [List.splitOnP_cons_eq_if_modifyHead, if_pos breaks]
  rfl

theorem length_rawRuns_of_last {c : Char} (plain : breaksRaw c = false) {rest : Text}
    (ends : ∀ d ∈ rest.head?, breaksRaw d = true) :
    (rawRuns (c :: rest)).length = (rawRuns rest).length + 1 := by
  have noBreak : ¬ breaksRaw c = true := Bool.eq_false_iff.mp plain
  cases rest with
  | nil =>
      unfold rawRuns
      rw [List.splitOnP_cons_eq_if_modifyHead, if_neg noBreak]
      rfl
  | cons d rest =>
      have breaks : breaksRaw d = true := ends d rfl
      unfold rawRuns
      rw [List.splitOnP_cons_eq_if_modifyHead, if_neg noBreak,
        List.splitOnP_cons_eq_if_modifyHead, if_pos breaks]
      rfl

theorem length_rawRuns_of_more {c d : Char} (plain : breaksRaw c = false)
    (plainNext : breaksRaw d = false) (rest : Text) :
    (rawRuns (c :: d :: rest)).length = (rawRuns (d :: rest)).length := by
  have noBreak : ¬ breaksRaw c = true := Bool.eq_false_iff.mp plain
  have noBreakNext : ¬ breaksRaw d = true := Bool.eq_false_iff.mp plainNext
  obtain ⟨first, pieces, split⟩ := exists_splitOnP_cons rest
  unfold rawRuns
  rw [List.splitOnP_cons_eq_if_modifyHead c, if_neg noBreak,
    List.splitOnP_cons_eq_if_modifyHead, if_neg noBreakNext, split]
  rfl

namespace Literal

theorem length_push_of_break {c : Char} (breaks : breaksRaw c = true)
    (literals : List Literal) : (push c literals).length = literals.length + 1 := by
  unfold push
  by_cases isBacktick : c = '\x60'
  · rw [if_pos isBacktick, List.length_cons]
  · have isReturn : c = '\r' := by simpa [breaksRaw, isBacktick] using breaks
    rw [if_neg isBacktick, if_pos isReturn, List.length_cons]

theorem push_of_plain {c : Char} (plain : breaksRaw c = false) (literals : List Literal) :
    push c literals =
      match literals with
      | raw run :: rest => raw (c :: run) :: rest
      | _ => raw [c] :: literals := by
  have neither : c ≠ '\x60' ∧ c ≠ '\r' := by simpa [breaksRaw] using plain
  exact (if_neg neither.1).trans (if_neg neither.2)

theorem ofText_cons (c : Char) (rest : Text) : ofText (c :: rest) = push c (ofText rest) := rfl

/-- What is written for a text starts with a run exactly if the text does. -/
theorem ofText_of_plain {c : Char} (plain : breaksRaw c = false) (rest : Text) :
    ∃ run others, ofText (c :: rest) = raw (c :: run) :: others := by
  rw [ofText_cons, push_of_plain plain]
  split
  · exact ⟨_, _, rfl⟩
  · exact ⟨_, _, rfl⟩

theorem ofText_no_raw {rest : Text} (ends : ∀ d ∈ rest.head?, breaksRaw d = true)
    (run : Text) (others : List Literal) : ofText rest ≠ raw run :: others := by
  cases rest with
  | nil => exact nofun
  | cons d rest =>
      have breaks : breaksRaw d = true := ends d rfl
      rw [ofText_cons]
      unfold push
      by_cases isBacktick : d = '\x60'
      · rw [if_pos isBacktick]
        exact nofun
      · have isReturn : d = '\r' := by simpa [breaksRaw, isBacktick] using breaks
        rw [if_neg isBacktick, if_pos isReturn]
        exact nofun

theorem length_ofText_of_last {c : Char} (plain : breaksRaw c = false) {rest : Text}
    (ends : ∀ d ∈ rest.head?, breaksRaw d = true) :
    (ofText (c :: rest)).length = (ofText rest).length + 1 := by
  rw [ofText_cons, push_of_plain plain]
  split
  · rename_i run others startsRaw
    exact absurd startsRaw (ofText_no_raw ends run others)
  · rfl

theorem length_ofText_of_more {c d : Char} (plain : breaksRaw c = false)
    (plainNext : breaksRaw d = false) (rest : Text) :
    (ofText (c :: d :: rest)).length = (ofText (d :: rest)).length := by
  obtain ⟨run, others, startsRaw⟩ := ofText_of_plain plainNext rest
  rw [ofText_cons, startsRaw, push_of_plain plain]
  rfl

/-- There is a literal for each break and one for each run. -/
theorem length_ofText (contents : Text) :
    (ofText contents).length = contents.countP breaksRaw + (rawRuns contents).length := by
  induction contents with
  | nil => rfl
  | cons c rest ih =>
      cases kind : breaksRaw c with
      | true =>
          rw [ofText_cons, length_push_of_break kind, ih, rawRuns_of_break kind,
            List.countP_cons_of_pos kind]
          omega
      | false =>
          rw [List.countP_cons_of_neg (Bool.eq_false_iff.mp kind)]
          by_cases ends : ∀ d ∈ rest.head?, breaksRaw d = true
          · rw [length_ofText_of_last kind ends, length_rawRuns_of_last kind ends, ih]
            omega
          · cases rest with
            | nil => simp at ends
            | cons d rest =>
                have plainNext : breaksRaw d = false := by simpa using ends
                rw [length_ofText_of_more kind plainNext, ih,
                  length_rawRuns_of_more kind plainNext]

theorem Sound.clean {literal : Literal} (sound : literal.Sound) :
    '\r' ∉ literal.spelling ∧ literal.value ≠ [] := by
  cases literal with
  | raw run =>
      obtain ⟨nonempty, -, noReturn⟩ := sound
      refine ⟨?_, nonempty⟩
      simpa [spelling] using noReturn
  | backtick => exact ⟨by decide, by decide⟩
  | carriageReturn => exact ⟨by decide, by decide⟩

end Literal

theorem text_without_return (contents : Text) : '\r' ∉ text contents := by
  intro present
  obtain ⟨literal, member, inStatement⟩ := List.mem_flatMap.mp present
  have clean := (Literal.sound_ofText contents literal member).clean.1
  rcases List.mem_append.mp inStatement with inFront | atEnd
  · rcases List.mem_append.mp inFront with called | inLiteral
    · exact absurd called (by decide)
    · exact clean inLiteral
  · exact absurd atEnd (by decide)

/-- The statements for a text can be taken apart into literals in exactly one way.  What the
literals denote makes up the text, none of them is empty, and there is one for each
backtick and carriage return and one for each run between them.  No carriage return is
written. -/
theorem text_itemized (contents : Text) :
    ∃ items, (∀ others, Itemizes (text contents) others ↔ others = items) ∧
      items.flatMap Prod.snd = contents ∧
      '\r' ∉ text contents ∧
      (∀ item ∈ items, item.2 ≠ []) ∧
      items.length = contents.countP breaksRaw + (rawRuns contents).length ∧
      items.length ≤ 2 * contents.countP breaksRaw + 1 ∧
      (items = [] ↔ contents = []) := by
  have sound := Literal.sound_ofText contents
  let items := (Literal.ofText contents).map fun literal => (literal.spelling, literal.value)
  have itemized : Itemizes (text contents) items := Literal.itemizes_of_sound sound
  have values : items.flatMap Prod.snd = contents := by
    rw [List.flatMap_map]
    exact Literal.value_ofText contents
  have nonempty : ∀ item ∈ items, item.2 ≠ [] :=
    List.forall_mem_map.mpr fun literal member => (sound literal member).clean.2
  have count : items.length = contents.countP breaksRaw + (rawRuns contents).length := by
    rw [List.length_map]
    exact Literal.length_ofText contents
  refine ⟨items, ?_, values, text_without_return contents, nonempty, count, ?_, ?_, ?_⟩
  · intro others
    constructor
    · intro other
      exact other.unique itemized
    · rintro rfl
      exact itemized
  · have runs := length_rawRuns_le contents
    omega
  · intro none
    rw [← values, none]
    rfl
  · rintro rfl
    rfl

/-- A text that looks like the end of one statement and the start of the next. -/
example :
    (Literal.ofText "a\x60)\nw.E.S(\x60\r".toList).map Literal.spelling =
      ["\x60a\x60".toList, "\"\x60\"".toList, "\x60)\nw.E.S(\x60".toList, "\"\x60\"".toList,
        "\"\\r\"".toList] := by
  decide

end Go
end Stencil
