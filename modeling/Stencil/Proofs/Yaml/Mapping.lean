/-
Texts with a mapping that is written line by line.

Each line holds an entry, a comment or nothing.  Names and values are plain scalars, a value may
go on over further lines, and a name starts at the margin.  Every line takes the reader from the
end of one line to the end of another, so that by induction a text of such lines gives the tokens
of its entries, and these give a mapping.  Comments and blank lines leave no trace.
-/

import Stencil.Proofs.Yaml.Reads
import Stencil.Yaml.Document

namespace Stencil
namespace Yaml

/-- An entry with its name at the margin.  The name is on one line, is not longer than a key may
be and does not start like a marker; blanks stand in front of the value and may stand behind. -/
structure Entry where
  name : Text
  gap : Text
  value : Text
  trail : Text
  plainName : IsPlain name [':']
  inlineName : ∀ c ∈ name, isBreak c = false
  boundedName : Text.byteLength name ≤ keyLimit
  unmarkedName : (Input.ofText (name ++ [':'])).atMarker = false
  blankGap : Run isBlank gap
  plainValue : IsPlain value []
  blankTrail : ∀ c ∈ trail, isBlank c = true

/-- A line, and any lines that the value of its entry goes on over.  A blank line holds spaces
only: where a key may start, a tab is not white space. -/
inductive Line where
  | item (entry : Entry)
  | blank (width : Nat)
  | comment (indent : Nat) (text : Text)
      (inline : ∀ c ∈ text, isKept c = true ∧ isBreak c = false)

def Entry.spelling (entry : Entry) : Text :=
  entry.name ++ ':' :: (entry.gap ++ (entry.value ++ entry.trail))

namespace Line

def spelling : Line → Text
  | .item entry => entry.spelling
  | .blank width => List.replicate width ' '
  | .comment indent text _ => List.replicate indent ' ' ++ '#' :: text

def text (lines : List Line) : Text :=
  ['\n'].intercalate (lines.map spelling)

def behind (lines : List Line) : Text :=
  lines.flatMap fun line => '\n' :: line.spelling

def entry? : Line → Option Entry
  | .item entry => some entry
  | _ => none

def entries (lines : List Line) : List Entry :=
  lines.filterMap entry?

theorem text_cons (line : Line) (lines : List Line) :
    text (line :: lines) = line.spelling ++ behind lines := by
  induction lines generalizing line with
  | nil => rw [text, List.map_singleton, List.intercalate_singleton, behind, List.flatMap_nil,
      List.append_nil]
  | cons next lines ih =>
      rw [text, List.map_cons, List.map_cons, List.intercalate_cons_cons, ← List.map_cons,
        ← text, ih, List.append_assoc]
      rfl

theorem endsLine_behind (lines : List Line) : endsLine (behind lines) = true := by
  cases lines <;> rfl

end Line

theorem isKept_of_flows {text behind : Text} (goesOn : flows behind text = true) :
    ∀ c ∈ text, isKept c = true := by
  induction text with
  | nil => exact List.forall_mem_nil _
  | cons c text ih =>
      simp only [flows, Bool.and_eq_true] at goesOn
      exact List.forall_mem_cons.mpr ⟨goesOn.1.1.1, ih goesOn.2⟩

theorem isKept_of_isBlank {c : Char} (blank : isBlank c = true) : isKept c = true := by
  simp only [isBlank, Bool.or_eq_true, beq_iff_eq] at blank
  rcases blank with rfl | rfl <;> decide

theorem Line.isKept (line : Line) : ∀ c ∈ line.spelling, isKept c = true := by
  cases line with
  | item entry =>
      refine List.forall_mem_append.mpr ⟨isKept_of_flows entry.plainName.goesOn, ?_⟩
      refine List.forall_mem_cons.mpr ⟨by decide, List.forall_mem_append.mpr ⟨?_, ?_⟩⟩
      · exact fun c present => isKept_of_isBlank (entry.blankGap.each c present)
      · exact List.forall_mem_append.mpr ⟨isKept_of_flows entry.plainValue.goesOn,
          fun c present => isKept_of_isBlank (entry.blankTrail c present)⟩
  | blank width =>
      exact fun c present => isKept_of_isBlank (blank_of_mem_replicate present)
  | comment indent text inline =>
      exact List.forall_mem_append.mpr
        ⟨fun c present => isKept_of_isBlank (blank_of_mem_replicate present),
          List.forall_mem_cons.mpr ⟨by decide, fun c present => (inline c present).1⟩⟩

theorem Line.isKept_text (lines : List Line) : ∀ c ∈ Line.text lines, Yaml.isKept c = true := by
  cases lines with
  | nil => nofun
  | cons line lines =>
      rw [text_cons]
      refine List.forall_mem_append.mpr ⟨line.isKept, fun c present => ?_⟩
      obtain ⟨other, -, inLine⟩ := List.mem_flatMap.mp present
      exact List.forall_mem_cons.mpr ⟨by decide, other.isKept⟩ c inLine

theorem unifyBreaks_of_isKept {text : Text} (kept : ∀ c ∈ text, isKept c = true) :
    unifyBreaks text = text := by
  induction text with
  | nil => rfl
  | cons c text ih =>
      obtain ⟨here, later⟩ := List.forall_mem_cons.mp kept
      simp only [isKept, Bool.and_eq_true, bne_iff_ne] at here
      rw [unifyBreaks, if_neg (by simp [here]), ih later]
      rintro rest rfl
      exact absurd rfl here.1.2

theorem last_append {kind : Char → Bool} {front text : Text}
    (last : text.getLast?.any kind = true) : (front ++ text).getLast?.any kind = true := by
  cases text with
  | nil => cases last
  | cons c text => rwa [List.getLast?_append_of_ne_nil front (List.cons_ne_nil c text)]

/-- Behind a line stands white space without tabs, and then nothing, a comment or a name at the
margin. -/
theorem exists_run (lines : List Line) :
    ∃ run after, Line.behind lines = run ++ after ∧
      (∀ c ∈ run, c = ' ' ∨ c = '\n') ∧ (∀ c ∈ after.head?, isWhite c = false) ∧
      (run = [] → after = []) ∧
      (after = [] ∨ after.head? = some '#' ∨ run.getLast?.any isBreak = true) := by
  induction lines with
  | nil =>
      exact ⟨[], [], rfl, List.forall_mem_nil _, by simp, fun _ => rfl, .inl rfl⟩
  | cons line lines ih =>
      cases line with
      | item entry =>
          refine ⟨['\n'], entry.spelling ++ Line.behind lines, rfl, by simp, ?_,
            (absurd · (List.cons_ne_nil _ _)), .inr (.inr rfl)⟩
          obtain ⟨d, more, isName⟩ := List.exists_cons_of_ne_nil entry.plainName.nonempty
          have start := entry.plainName.head
          rw [isName] at start
          rw [Entry.spelling, isName]
          exact start
      | comment indent text inline =>
          refine ⟨'\n' :: List.replicate indent ' ', '#' :: (text ++ Line.behind lines), ?_, ?_,
            ?_, (absurd · (List.cons_ne_nil _ _)), .inr (.inl rfl)⟩
          · rw [Line.behind, List.flatMap_cons, Line.spelling, Line.behind]
            simp only [List.cons_append, List.append_assoc]
          · exact List.forall_mem_cons.mpr
              ⟨.inr rfl, fun c present => .inl (List.eq_of_mem_replicate present)⟩
          · rintro c ⟨⟩
            decide
      | blank width =>
          obtain ⟨run, after, split, chars, start, apart, ends⟩ := ih
          refine ⟨'\n' :: List.replicate width ' ' ++ run, after, ?_, ?_, start,
            (absurd · (List.cons_ne_nil _ _)), ends.imp_right (Or.imp_right last_append)⟩
          · rw [Line.behind, List.flatMap_cons, ← Line.behind, split, Line.spelling,
              List.append_assoc]
          · exact List.forall_mem_append.mpr ⟨List.forall_mem_cons.mpr
              ⟨.inr rfl, fun c present => .inl (List.eq_of_mem_replicate present)⟩, chars⟩

theorem untabbed_append {trail run : Text} (inline : ∀ c ∈ trail, isBreak c = false)
    (noTab : ∀ c ∈ run, c ≠ '\t') : Untabbed (trail ++ run) := by
  induction trail with
  | nil =>
      induction run with
      | nil => exact .nil
      | cons c run ih =>
          obtain ⟨-, later⟩ := List.forall_mem_cons.mp noTab
          exact List.isChain_cons.mpr
            ⟨fun next isNext _ => later next (List.mem_of_mem_head? isNext), ih later⟩
  | cons c trail ih =>
      obtain ⟨here, later⟩ := List.forall_mem_cons.mp inline
      refine List.isChain_cons.mpr ⟨fun next _ atBreak => ?_, ih later⟩
      rw [here] at atBreak
      cases atBreak

theorem exists_stop {trail : Text} (blank : ∀ c ∈ trail, isBlank c = true) (lines : List Line) :
    ∃ run after, Line.behind lines = run ++ after ∧
      (∀ c ∈ run, isWhite c = true ∧ c ≠ '\t') ∧ endsWord (trail ++ run ++ after) = true ∧
      Stops 1 (trail ++ run) after := by
  obtain ⟨run, after, split, chars, start, apart, ends⟩ := exists_run lines
  have runWhite : ∀ c ∈ run, isWhite c = true ∧ c ≠ '\t' := by
    intro c present
    rcases chars c present with rfl | rfl <;> decide
  have white : ∀ c ∈ trail ++ run, isWhite c = true :=
    List.forall_mem_append.mpr
      ⟨fun c present => isWhite_of_isBlank (blank c present),
        fun c present => (runWhite c present).1⟩
  have empty : trail ++ run = [] → after = [] :=
    fun none => apart (List.append_eq_nil_iff.mp none).2
  refine ⟨run, after, split, runWhite, ?_, stops_of_white white ?_ start empty ?_⟩
  · cases whole : trail ++ run with
    | nil => rw [empty whole]; rfl
    | cons c rest =>
        rw [whole] at white
        exact white c List.mem_cons_self
  · exact untabbed_append (inline_of_isBlank blank) fun c present => (runWhite c present).2
  · exact ends.imp_right (Or.imp_right last_append)

def Entry.tokens (entry : Entry) : List Token :=
  [.key, .scalar .plain entry.name, .value, .scalar .plain (flowed [] entry.value)]

/-- The tokens of lines behind others, which have opened the mapping or not. -/
def Line.tokens (opened : Bool) : List Line → List Token
  | [] => if opened then [.blockEnd] else []
  | .item entry :: lines =>
      (if opened then [] else [.blockMapping]) ++ (entry.tokens ++ tokens true lines)
  | .blank _ :: lines => tokens opened lines
  | .comment _ _ _ :: lines => tokens opened lines

namespace Reader

variable {opened : Bool} {reader : Reader} {line : Line} {lines : List Line}

structure AtEnd (opened : Bool) (lines : List Line) (reader : Reader) : Prop where
  margin : reader.AtMargin opened
  free : reader.key = none
  rest : reader.input.rest = Line.behind lines

structure AtStart (opened : Bool) (line : Line) (lines : List Line) (reader : Reader) : Prop where
  margin : reader.AtMargin opened
  free : reader.key = none
  allowed : reader.keyAllowed = true
  column : reader.input.column = 0
  rest : reader.input.rest = line.spelling ++ Line.behind lines

def ReadsLines (opened : Bool) (lines : List Line) (reader : Reader) : Prop :=
  reader.Reads (reader.tokens.reverse ++ Line.tokens opened lines)

theorem AtEnd.reads_nil (place : reader.AtEnd opened []) : reader.ReadsLines opened [] := by
  have part : reader.nextPart? = some reader := by
    refine nextPart?_at_margin place.margin ?_ ?_
    · rw [place.rest]
      rfl
    · rw [place.free]
      rfl
  have closed : (reader.closeBlocks fun _ => true).dropKey? =
      some { reader with
        tokens := (Line.tokens opened []).reverse ++ reader.tokens
        indents := [] } := by
    obtain ⟨input, tokens, indents, key, outerKeys, keyAllowed⟩ := reader
    obtain ⟨⟨rfl, rfl⟩, rfl, -⟩ := place
    cases opened <;> rfl
  have gives := Reads.ends part place.rest closed
  dsimp only at gives
  rwa [List.reverse_append, List.reverse_reverse] at gives

theorem atMarker_of_name {input : Input} {name behind : Text} (atStart : input.column = 0)
    (rest : input.rest = name ++ ':' :: behind)
    (unmarked : (Input.ofText (name ++ [':'])).atMarker = false) : input.atMarker = false := by
  have same : ∀ c, c ≠ ':' →
      input.isMarker c = (Input.ofText (name ++ [':'])).isMarker c := by
    intro c apart
    rw [Input.isMarker, Input.isMarker, atStart, rest]
    obtain _ | ⟨first, _ | ⟨second, _ | ⟨third, _ | ⟨fourth, more⟩⟩⟩⟩ := name
    · simp [Input.ofText, apart.symm]
    · simp [Input.ofText, apart.symm]
    · simp [Input.ofText, beq_false_of_ne apart.symm]
    · rfl
    · rfl
  rwa [Input.atMarker, same '-' (by decide), same '.' (by decide)]

/-- The value of an entry is read with the white space behind it, which reaches over blank lines.
It would be passed over just as well. -/
theorem reads_value_of_entry {entry : Entry} (margin : reader.AtMargin true)
    (free : reader.key = none) (forbidden : reader.keyAllowed = false)
    (inside : 0 < reader.input.column)
    (rest : reader.input.rest = entry.value ++ (entry.trail ++ Line.behind lines))
    (later : ∀ other : Reader, other.AtEnd true lines → other.ReadsLines true lines) :
    reader.Reads ((reader.push (.scalar .plain (flowed [] entry.value))).tokens.reverse ++
      Line.tokens true lines) := by
  obtain ⟨run, after, split, runWhite, ends, stops⟩ := exists_stop entry.blankTrail lines
  rw [split, ← List.append_assoc entry.trail] at rest
  refine reads_value margin free forbidden inside (entry.plainValue.of_endsWord ends) stops rest ?_
  have restRun : ((reader.push (.scalar .plain (flowed [] entry.value))).pass
      (entry.value ++ entry.trail).length false).input.rest = run ++ after :=
    Input.rest_skip_length (by rw [push, rest]; simp only [List.append_assoc])
  have passed := nextPart?_pass_white restRun margin.unbracketed
    (fun c present => (runWhite c present).1) fun isTab => absurd rfl (runWhite '\t' isTab).2
  rw [pass_pass, ← List.length_append, List.append_assoc] at passed
  rw [List.any_append, any_isBreak_of_isBlank entry.blankTrail]
  exact (later _ ⟨(margin.push _).pass _ _, free, restRun.trans split.symm⟩).of_nextPart?_eq
    passed.symm

theorem AtStart.reads_entry {entry : Entry} (place : reader.AtStart opened (.item entry) lines)
    (later : ∀ other : Reader, other.AtEnd true lines → other.ReadsLines true lines) :
    reader.ReadsLines opened (.item entry :: lines) := by
  obtain ⟨following, isFollowing⟩ : ∃ following,
      entry.gap ++ (entry.value ++ (entry.trail ++ Line.behind lines)) = following := ⟨_, rfl⟩
  have rest : reader.input.rest = entry.name ++ ':' :: following := by
    rw [place.rest, Line.spelling, Entry.spelling, ← isFollowing]
    simp only [List.append_assoc, List.cons_append]
  have gapEnds : endsWord following = true := by
    obtain ⟨c, more, isGap⟩ := List.exists_cons_of_ne_nil entry.blankGap.nonempty
    have blank := entry.blankGap.each
    rw [isGap] at isFollowing blank
    rw [← isFollowing]
    exact isWhite_of_isBlank (blank c List.mem_cons_self)
  have plain : IsPlain entry.name (':' :: following) := entry.plainName.of_endsWord rfl
  refine reads_name place.margin place.free place.allowed place.column
    (atMarker_of_name place.column rest entry.unmarkedName) plain entry.inlineName
    entry.boundedName gapEnds rest ?_
  have margin : (reader.behindKey opened entry.name).AtMargin true :=
    ⟨place.margin.unbracketed, rfl⟩
  have restGap : (reader.behindKey opened entry.name).input.rest =
      entry.gap ++ (entry.value ++ (entry.trail ++ Line.behind lines)) :=
    (rest_behindKey rest).trans isFollowing.symm
  have gapBreaks := any_isBreak_of_isBlank entry.blankGap.each
  have passed := nextPart?_pass_white restGap margin.unbracketed
    (fun c present => isWhite_of_isBlank (entry.blankGap.each c present))
    fun _ => ⟨rfl, gapBreaks⟩
  rw [gapBreaks] at passed
  have inside := Input.column_skip_pos restGap (.inl (column_behindKey_pos rest))
    (last_of_forall (inline_of_isBlank entry.blankGap.each))
  have value := reads_value_of_entry (margin.pass entry.gap.length false) rfl rfl inside
    (Input.rest_skip_length restGap) later
  have tokens : reader.tokens.reverse ++ Line.tokens opened (.item entry :: lines) =
      (((reader.behindKey opened entry.name).pass entry.gap.length false).push
        (.scalar .plain (flowed [] entry.value))).tokens.reverse ++ Line.tokens true lines := by
    cases opened <;> simp [push, pass, behindKey, Line.tokens, Entry.tokens]
  rw [tokens]
  exact value.of_nextPart?_eq passed

theorem AtStart.reads (place : reader.AtStart opened line lines)
    (later : ∀ opened (other : Reader), other.AtEnd opened lines → other.ReadsLines opened lines) :
    reader.ReadsLines opened (line :: lines) := by
  cases line with
  | item entry => exact place.reads_entry (later true)
  | blank width =>
      have restBehind : (reader.pass width reader.keyAllowed).input.rest = Line.behind lines := by
        rw [pass, Input.rest_skip, place.rest, Line.spelling]
        exact List.drop_left' List.length_replicate
      exact (later opened _ ⟨place.margin.pass _ _, place.free, restBehind⟩).of_nextPart?_eq
        (nextPart?_pass_spaces place.rest place.margin.unbracketed)
  | comment indent text inline =>
      have rest : reader.input.rest = List.replicate indent ' ' ++
          '#' :: (text ++ Line.behind lines) := by
        rw [place.rest, Line.spelling, List.append_assoc]
        rfl
      have restComment : (reader.pass indent reader.keyAllowed).input.rest =
          '#' :: (text ++ Line.behind lines) := by
        rw [pass, Input.rest_skip, rest]
        exact List.drop_left' List.length_replicate
      have passed := (nextPart?_pass_comment restComment (fun c present => (inline c present).2)
        (Line.endsLine_behind lines)).trans
        (nextPart?_pass_spaces rest place.margin.unbracketed)
      refine (later opened _ ⟨(place.margin.pass _ _).pass _ _, place.free, ?_⟩).of_nextPart?_eq
        passed
      rw [pass, Input.rest_skip, restComment, List.drop_succ_cons, List.drop_left]

theorem AtEnd.reads (place : reader.AtEnd opened lines) : reader.ReadsLines opened lines := by
  induction lines generalizing opened reader with
  | nil => exact place.reads_nil
  | cons line lines ih =>
      have rest : reader.input.rest = ['\n'] ++ (line.spelling ++ Line.behind lines) := place.rest
      have passed := nextPart?_pass_white rest place.margin.unbracketed
        (List.forall_mem_singleton.mpr rfl) (absurd · (by decide))
      have column := (Input.column_skip_eq_zero_iff rest (by decide)).mpr (by decide)
      have start : (reader.pass 1 (reader.keyAllowed || true)).AtStart opened line lines :=
        ⟨place.margin.pass _ _, place.free, Bool.or_true _, column, Input.rest_skip_length rest⟩
      exact (start.reads fun opened other => ih).of_nextPart?_eq passed

end Reader

theorem tokens?_text (lines : List Line) :
    tokens? (Line.text lines) = some (Line.tokens false lines) := by
  have reads : (Reader.ofText (Line.text lines)).ReadsLines false lines := by
    cases lines with
    | nil => exact Reader.AtEnd.reads ⟨⟨rfl, rfl⟩, rfl, rfl⟩
    | cons line lines =>
        refine Reader.AtStart.reads ⟨⟨rfl, rfl⟩, rfl, rfl, rfl, Line.text_cons line lines⟩ ?_
        exact fun opened other place => place.reads
  have allowed : (Line.text lines).all isAllowed = true := by
    rw [List.all_eq_true]
    intro c present
    have kept := Line.isKept_text lines c present
    simp only [isKept, Bool.and_eq_true] at kept
    exact kept.1.1
  rw [tokens?, if_pos allowed, unifyBreaks_of_isKept (Line.isKept_text lines)]
  exact reads.readAll (Nat.lt_succ_self _)

def Entry.node (entry : Entry) : Node × Node :=
  (.scalar ⟨.plain, none, entry.name⟩, .scalar ⟨.plain, none, flowed [] entry.value⟩)

section

variable {shorthands : Shorthands} {fuel : Nat} {setting : Setting} {text : Text}
  {rest : List Token} {anchors : Anchors}

theorem parseNode_plain :
    parseNode shorthands (fuel + 1) setting (.scalar .plain text :: rest) anchors =
      some ⟨.scalar ⟨.plain, none, text⟩, rest, anchors⟩ := by
  rw [parseNode]
  · rfl
  · nofun

theorem endsPart_scalar {style : Style} : endsPart (.scalar style text :: rest) = false := rfl

theorem parseNode_mapping (setting : Bool) :
    parseNode shorthands (fuel + 1) ⟨true, setting⟩ (.blockMapping :: rest) anchors =
      (parseBlockPairs shorthands fuel rest anchors).map fun pairs =>
        pairs.withValue (.mapping pairs.value) := by
  rw [parseNode]
  · rfl
  · nofun

theorem parseBlockPairs_entry (entry : Entry) :
    parseBlockPairs shorthands (fuel + 2) (entry.tokens ++ rest) anchors =
      (parseBlockPairs shorthands (fuel + 1) rest anchors).map fun pairs =>
        pairs.withValue (entry.node :: pairs.value) := by
  change parseBlockPairs shorthands (fuel + 2)
    (.key :: .scalar .plain entry.name :: .value :: .scalar .plain (flowed [] entry.value) :: rest)
    anchors = _
  rw [parseBlockPairs]
  dsimp only
  rw [endsPart_scalar, if_neg Bool.false_ne_true, parseNode_plain]
  dsimp only
  rw [endsPart_scalar, if_neg Bool.false_ne_true, parseNode_plain]
  dsimp only
  cases parseBlockPairs shorthands (fuel + 1) rest anchors <;> rfl

theorem parseBlockPairs_lines (lines : List Line)
    (enough : (Line.tokens true lines).length < fuel) :
    parseBlockPairs shorthands fuel (Line.tokens true lines) anchors =
      some ⟨(Line.entries lines).map Entry.node, [], anchors⟩ := by
  induction lines generalizing fuel with
  | nil =>
      obtain ⟨fuel, rfl⟩ := Nat.exists_eq_add_one.mpr (Nat.zero_lt_of_lt enough)
      rfl
  | cons line lines ih =>
      cases line with
      | item entry =>
          have shorter : (Line.tokens true lines).length + 2 ≤ fuel := by
            simp only [Line.tokens, Entry.tokens, if_true, List.length_append, List.length_cons]
              at enough
            omega
          obtain ⟨fuel, rfl⟩ := Nat.exists_eq_add_of_le' (Nat.le_of_add_left_le shorter)
          rw [show Line.tokens true (.item entry :: lines) =
            entry.tokens ++ Line.tokens true lines from rfl, parseBlockPairs_entry,
            ih (by omega)]
          rfl
      | blank width => exact ih enough
      | comment indent text inline => exact ih enough

theorem tokens_of_unopened (lines : List Line) :
    Line.tokens false lines =
      if Line.entries lines = [] then [] else .blockMapping :: Line.tokens true lines := by
  induction lines with
  | nil => rfl
  | cons line lines ih =>
      cases line with
      | item entry => rfl
      | blank width => exact ih
      | comment indent text inline => exact ih

end

/-- A text of lines is a mapping of its entries; without entries it has no value. -/
theorem read?_text (lines : List Line) :
    read? (Line.text lines) =
      some ⟨if Line.entries lines = [] then none
        else some (.mapping ((Line.entries lines).map Entry.node)), .empty⟩ := by
  rw [read?, tokens?_text, Option.bind_some, tokens_of_unopened]
  split
  · rfl
  · have enough : (Line.tokens true lines).length <
        2 * (Token.blockMapping :: Line.tokens true lines).length + 1 := by
      rw [List.length_cons]
      omega
    have other : (Token.blockMapping != .documentEnd &&
        endsDocument (.blockMapping :: Line.tokens true lines)) = false := rfl
    rw [Document.ofTokens?]
    dsimp only
    rw [other, if_neg Bool.false_ne_true, parseNode_mapping, parseBlockPairs_lines lines enough]
    rfl

end Yaml
end Stencil
