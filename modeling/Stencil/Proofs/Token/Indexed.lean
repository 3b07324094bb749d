/-
A lexer that reads its text character by character.

It keeps an index into the text and the position that was counted on the way there, asks for
the character at the index or takes it, and fails where there is none.  A loop that asks for
the end in front of every character never fails, and takes what is cut from the rest of the
text there.  So the lexer never fails either.  It stands where the lexer over the rest of the
text stands and answers alike, so that what is said of its index, of the token it holds back
and of its end holds of that lexer as well.
-/

import Stencil.Proofs.Token.Tiling

namespace Stencil

namespace Text

/-- The first part of a text, as long as a test holds of what is left of the text. -/
def initial (goesOn : Text → Bool) : Text → Text
  | [] => []
  | c :: rest => if goesOn (c :: rest) then c :: initial goesOn rest else []

def startsIn (inClass : Char → Bool) (text : Text) : Bool :=
  text.head?.any inClass

theorem initial_startsIn (inClass : Char → Bool) (text : Text) :
    initial (startsIn inClass) text = text.takeWhile inClass := by
  induction text with
  | nil => rfl
  | cons c rest ih =>
      have test : startsIn inClass (c :: rest) = inClass c := rfl
      rw [initial, test, ih, List.takeWhile_cons]

theorem initial_notAtPair (first second : Char) (text : Text) :
    initial (fun rest => !startsWithPair first second rest) text =
      (cutAtPair first second text).1 := by
  induction text with
  | nil => rfl
  | cons c rest ih =>
      rw [initial, cutAtPair, ih]
      cases startsWithPair first second (c :: rest) with
      | true => rfl
      | false => rfl

theorem initial_misnamed (text : Text) :
    initial (fun rest => startsIn (fun c => !isBlank c) rest && !startsWithPair '%' '}' rest)
      text = misnamed text := by
  induction text with
  | nil => rfl
  | cons c rest ih =>
      have test : startsIn (fun c => !isBlank c) (c :: rest) = !isBlank c := rfl
      rw [initial, test, ih, misnamed, misnamed, cutAtPair]
      cases startsWithPair '%' '}' (c :: rest) with
      | true => simp
      | false => simp [List.takeWhile_cons]

theorem initial_prefix (goesOn : Text → Bool) (text : Text) : initial goesOn text <+: text := by
  induction text with
  | nil => exact List.prefix_rfl
  | cons c rest ih =>
      rw [initial]
      split
      · exact (List.prefix_cons_inj c).mpr ih
      · exact List.nil_prefix

end Text

/-- An index into a text, and the position that was counted on the way there. -/
structure Pointer where
  index : Nat
  position : Position

namespace Pointer

def start : Pointer := ⟨0, Position.start⟩

def peek? (pointer : Pointer) (text : Text) : Option Char :=
  text[pointer.index]?

def bump? (pointer : Pointer) (text : Text) : Option (Char × Pointer) :=
  (pointer.peek? text).map fun c => (c, ⟨pointer.index + 1, pointer.position.next c⟩)

def isAtEnd (pointer : Pointer) (text : Text) : Bool :=
  decide (text.length ≤ pointer.index)

def isAtPair (pointer : Pointer) (text : Text) (first second : Char) : Bool :=
  text[pointer.index]? == some first && text[pointer.index + 1]? == some second

def behind (pointer : Pointer) (taken : Text) : Pointer :=
  ⟨pointer.index + taken.length, pointer.position.after taken⟩

theorem behind_append (pointer : Pointer) (first second : Text) :
    pointer.behind (first ++ second) = (pointer.behind first).behind second := by
  simp only [behind, List.length_append, Nat.add_assoc, Position.after_append]

theorem peek?_isSome_iff (pointer : Pointer) (text : Text) :
    (pointer.peek? text).isSome ↔ pointer.index < text.length := by
  rw [peek?, Option.isSome_iff_ne_none, ne_eq, List.getElem?_eq_none_iff, Nat.not_le]

theorem index_of_bump? {pointer next : Pointer} {text : Text} {c : Char}
    (bumped : pointer.bump? text = some (c, next)) :
    pointer.index < text.length ∧ next.index = pointer.index + 1 := by
  obtain ⟨found, peeked, same⟩ := Option.map_eq_some_iff.mp bumped
  cases same
  exact ⟨(pointer.peek?_isSome_iff text).mp (Option.isSome_of_mem peeked), rfl⟩

/-- Takes characters as long as the end is not reached and a test holds.  The test may ask for
the character at the pointer. -/
def bumpWhile? (text : Text) (test : Pointer → Option Bool) (pointer : Pointer) :
    Option (Text × Pointer) :=
  if pointer.isAtEnd text then
    some ([], pointer)
  else
    match test pointer with
    | none => none
    | some false => some ([], pointer)
    | some true =>
        match _ : pointer.bump? text with
        | none => none
        | some (c, next) =>
            (bumpWhile? text test next).map fun taken => (c :: taken.1, taken.2)
termination_by text.length - pointer.index
decreasing_by
  obtain ⟨inside, later⟩ := index_of_bump? ‹pointer.bump? text = some (c, next)›
  omega

def peeksIn? (text : Text) (inClass : Char → Bool) (pointer : Pointer) : Option Bool :=
  (pointer.peek? text).map inClass

def bumpPair? (pointer : Pointer) (text : Text) : Option Pointer := do
  let (_, between) ← pointer.bump? text
  let (_, behind) ← between.bump? text
  return behind

section Inside

variable {text : Text} {pointer : Pointer}

theorem bump?_eq {c : Char} {rest : Text} (here : text.drop pointer.index = c :: rest) :
    pointer.bump? text = some (c, pointer.behind [c]) := by
  have peeked : pointer.peek? text = some c := by
    have first := congrArg List.head? here
    rwa [List.head?_drop] at first
  rw [bump?, peeked]
  rfl

theorem drop_behind {taken rest : Text} (here : text.drop pointer.index = taken ++ rest) :
    text.drop (pointer.behind taken).index = rest := by
  rw [behind, ← List.drop_drop, here, List.drop_left]

theorem isAtPair_eq (first second : Char) :
    pointer.isAtPair text first second =
      Text.startsWithPair first second (text.drop pointer.index) := by
  rw [isAtPair, ← List.head?_drop, ← List.head?_drop, ← List.drop_drop]
  match text.drop pointer.index with
  | [] => rfl
  | [c] => simp [Text.startsWithPair]
  | c :: d :: rest => simp [Text.startsWithPair]

theorem isAtEnd_eq : pointer.isAtEnd text = (text.drop pointer.index).isEmpty := by
  rw [Bool.eq_iff_iff, isAtEnd, decide_eq_true_eq, List.isEmpty_iff, List.drop_eq_nil_iff]

theorem bumpWhile?_eq {test : Pointer → Option Bool} {goesOn : Text → Bool}
    (tests : ∀ pointer : Pointer, pointer.index < text.length →
      test pointer = some (goesOn (text.drop pointer.index))) (pointer : Pointer) :
    pointer.bumpWhile? text test =
      let taken := Text.initial goesOn (text.drop pointer.index)
      some (taken, pointer.behind taken) := by
  induction here : text.drop pointer.index generalizing pointer with
  | nil =>
      rw [bumpWhile?, isAtEnd_eq, here]
      rfl
  | cons c rest ih =>
      have inside : pointer.index < text.length := by
        apply Nat.lt_of_not_le
        intro outside
        rw [List.drop_of_length_le outside] at here
        cases here
      rw [bumpWhile?, isAtEnd_eq, here, if_neg (by simp), tests pointer inside, here]
      cases goes : goesOn (c :: rest) with
      | false =>
          rw [Text.initial, goes]
          rfl
      | true =>
          have later := ih (pointer.behind [c]) (drop_behind here)
          dsimp only
          split
          · rename_i refused
            cases refused.symm.trans (bump?_eq here)
          · rename_i bumped
            cases bumped.symm.trans (bump?_eq here)
            rw [later, Text.initial, goes, if_pos rfl, Option.map_some, ← behind_append]
            rfl

theorem bumpPair?_eq {first second : Char} {rest : Text}
    (here : text.drop pointer.index = first :: second :: rest) :
    pointer.bumpPair? text = some (pointer.behind [first, second]) := by
  have between : text.drop (pointer.behind [first]).index = second :: rest := drop_behind here
  rw [bumpPair?, bump?_eq here]
  simp only [Option.bind_eq_bind, Option.bind_some, bump?_eq between]
  rfl

theorem peeksIn?_eq (inClass : Char → Bool) (inside : pointer.index < text.length) :
    pointer.peeksIn? text inClass = some (Text.startsIn inClass (text.drop pointer.index)) := by
  rw [peeksIn?, peek?, Text.startsIn, List.head?_drop, List.getElem?_eq_getElem inside]
  rfl

def cursor (pointer : Pointer) (text : Text) : Cursor :=
  ⟨text.drop pointer.index, pointer.position⟩

theorem cursor_behind {taken rest : Text} (here : text.drop pointer.index = taken ++ rest) :
    (pointer.behind taken).cursor text = ⟨rest, pointer.position.after taken⟩ := by
  rw [cursor, drop_behind here]
  rfl

theorem skip_cursor {taken rest : Text} (here : text.drop pointer.index = taken ++ rest) :
    (pointer.cursor text).skip taken.length = (pointer.behind taken).cursor text := by
  rw [cursor_behind here, cursor, here, Cursor.skip, List.drop_left, List.take_left]

end Inside

def Onward (text : Text) (pointer later : Pointer) : Prop :=
  ∃ taken, taken <+: text.drop pointer.index ∧ later = pointer.behind taken

/-- A pointer stands in the text or at its end, at the position that is counted there. -/
structure StandsIn (text : Text) (pointer : Pointer) : Prop where
  inside : pointer.index ≤ text.length
  counted : pointer.position = text.positionAt pointer.index

theorem Onward.trans {text : Text} {first second third : Pointer}
    (onward : Onward text first second) (further : Onward text second third) :
    Onward text first third := by
  obtain ⟨taken, ⟨rest, whole⟩, rfl⟩ := onward
  obtain ⟨more, more_prefix, rfl⟩ := further
  rw [drop_behind whole.symm] at more_prefix
  refine ⟨taken ++ more, ?_, (behind_append _ _ _).symm⟩
  rw [← whole]
  exact (List.prefix_append_right_inj taken).mpr more_prefix

theorem standsIn_start (text : Text) : StandsIn text start :=
  ⟨Nat.zero_le _, rfl⟩

theorem StandsIn.onward {text : Text} {pointer later : Pointer} (stands : StandsIn text pointer)
    (onward : Onward text pointer later) : StandsIn text later := by
  obtain ⟨taken, ⟨rest, whole⟩, rfl⟩ := onward
  have divided := List.take_append_drop pointer.index text
  rw [← whole, ← List.append_assoc] at divided
  have length : (text.take pointer.index ++ taken).length = (pointer.behind taken).index := by
    rw [List.length_append, List.length_take, Nat.min_eq_left stands.inside]
    rfl
  constructor
  · have bounded := congrArg List.length divided
    rw [List.length_append, length] at bounded
    omega
  · have there := Text.positionAt_append (text.take pointer.index ++ taken) rest
    rw [divided, length, Position.after_append, Position.start_after] at there
    rw [there, behind, stands.counted]
    rfl

section Loops

variable (text : Text) (pointer : Pointer)

theorem bumpWhile?_peeksIn (inClass : Char → Bool) :
    ∃ later, pointer.bumpWhile? text (peeksIn? text inClass) =
        some ((text.drop pointer.index).takeWhile inClass, later) ∧
      (pointer.cursor text).skipWhile inClass = later.cursor text ∧
      Onward text pointer later := by
  have cut := List.takeWhile_append_dropWhile (p := inClass) (l := text.drop pointer.index)
  refine ⟨_, ?_, (cursor_behind cut.symm).symm, _, List.takeWhile_prefix inClass, rfl⟩
  rw [bumpWhile?_eq fun _ inside => peeksIn?_eq inClass inside, Text.initial_startsIn]

theorem bumpWhile?_notAtPair (first second : Char) :
    ∃ later, (pointer.bumpWhile? text fun pointer =>
        some (!pointer.isAtPair text first second)) =
        some ((Text.cutAtPair first second (text.drop pointer.index)).1, later) ∧
      (pointer.cursor text).skip
        (Text.cutAtPair first second (text.drop pointer.index)).1.length = later.cursor text ∧
      Onward text pointer later := by
  have cut := Text.cutAtPair_append first second (text.drop pointer.index)
  refine ⟨_, ?_, skip_cursor cut.symm, _, ⟨_, cut⟩, rfl⟩
  rw [← Text.initial_notAtPair]
  apply bumpWhile?_eq
  intro pointer _
  rw [isAtPair_eq]

theorem bumpWhile?_misnamed :
    ∃ later, (pointer.bumpWhile? text fun pointer =>
        (pointer.peeksIn? text fun c => !Text.isBlank c).map fun goesOn =>
          goesOn && !pointer.isAtPair text '%' '}') =
        some (misnamed (text.drop pointer.index), later) ∧
      Onward text pointer later := by
  rw [← Text.initial_misnamed]
  refine ⟨_, bumpWhile?_eq ?_ pointer, _, Text.initial_prefix _ _, rfl⟩
  intro pointer inside
  rw [peeksIn?_eq _ inside, isAtPair_eq]
  rfl

end Loops

end Pointer

/-! ### The indexed lexer -/

/-- A lexer over an index: the place that it has reached, the token delivered last, contents
that come next, the fault that it has met, and whether it has come to its end. -/
structure IndexedLexer where
  pointer : Pointer
  current : Option Token
  pending : Option Token
  fault : Option ScanError
  done : Bool

namespace Pointer

/-- Reads the tag that opens at a pointer: the tokens of its name and its contents, or a fault,
and the pointer at which the reading ends. -/
def scanTag? (opening : Pointer) (text : Text) :
    Option (Except ScanError (Token × Token) × Pointer) := do
  let lead ← opening.bumpPair? text
  let (_, named) ← lead.bumpWhile? text (peeksIn? text Text.isBlank)
  let (name, unnamed) ← named.bumpWhile? text (peeksIn? text isNameChar)
  if name.isEmpty then
    let (found, last) ← unnamed.bumpWhile? text fun pointer =>
      (pointer.peeksIn? text fun c => !Text.isBlank c).map fun goesOn =>
        goesOn && !pointer.isAtPair text '%' '}'
    return (.error (.invalidTagName found named.position), last)
  else
    let (_, inner) ← unnamed.bumpWhile? text (peeksIn? text Text.isBlank)
    let (body, closing) ← inner.bumpWhile? text fun pointer =>
      some (!pointer.isAtPair text '%' '}')
    if closing.isAtEnd text then
      return (.error (.unterminatedTag opening.position), closing)
    else
      let last ← closing.bumpPair? text
      return (.ok (⟨.tagName, name, named.position⟩,
        ⟨.tagContents, Text.trimEnd Text.isBlank body, inner.position⟩), last)

end Pointer

namespace IndexedLexer

def start : IndexedLexer := ⟨Pointer.start, none, none, none, false⟩

def read? (lexer : IndexedLexer) (text : Text) : Option (Bool × IndexedLexer) :=
  if lexer.pointer.isAtEnd text then
    some (false, { lexer with current := none, done := true })
  else if lexer.pointer.isAtPair text '{' '%' then
    (lexer.pointer.scanTag? text).map fun scanned =>
      match scanned with
      | (.error fault, last) =>
          (false,
            { lexer with pointer := last, current := none, fault := some fault, done := true })
      | (.ok (name, contents), last) =>
          (true, { lexer with pointer := last, current := some name, pending := some contents })
  else
    (lexer.pointer.bumpWhile? text fun pointer => some (!pointer.isAtPair text '{' '%')).map
      fun (value, last) =>
        (true, { lexer with
          pointer := last, current := some ⟨.text, value, lexer.pointer.position⟩ })

def advance? (lexer : IndexedLexer) (text : Text) : Option (Bool × IndexedLexer) :=
  if lexer.done then
    some (false, { lexer with current := none })
  else
    match lexer.pending with
    | some contents => some (true, { lexer with current := some contents, pending := none })
    | none => lexer.read? text

/-- The state behind some advances, if no character was asked for where there is none. -/
def afterCalls? (text : Text) : Nat → Option IndexedLexer
  | 0 => some start
  | calls + 1 => ((afterCalls? text calls).bind (·.advance? text)).map Prod.snd

end IndexedLexer

def Lexer.afterCalls (text : Text) : Nat → Lexer
  | 0 => Lexer.ofText text
  | calls + 1 => (Lexer.afterCalls text calls).advance.2

namespace Pointer

variable {text : Text} {opening : Pointer}

/-- A tag is read without failing, and the reading ends where that of the lexer does. -/
theorem scanTag?_eq {rest : Text} (here : text.drop opening.index = '{' :: '%' :: rest) :
    ∃ last, Onward text (opening.behind ['{', '%']) last ∧
      match (opening.cursor text).scanTag with
      | .error fault => opening.scanTag? text = some (.error fault, last)
      | .ok tag => opening.scanTag? text = some (.ok (tag.name, tag.contents), last) ∧
          tag.after = last.cursor text := by
  have divided : text.drop opening.index = ['{', '%'] ++ rest := here
  have lead_eq : (opening.cursor text).skip 2 = (opening.behind ['{', '%']).cursor text :=
    skip_cursor divided
  have opened := bumpPair?_eq here
  generalize opening.behind ['{', '%'] = lead at *
  obtain ⟨named, readLead, named_eq, toNamed⟩ := lead.bumpWhile?_peeksIn text Text.isBlank
  obtain ⟨unnamed, readName, unnamed_eq, toUnnamed⟩ := named.bumpWhile?_peeksIn text isNameChar
  have name_eq : (named.cursor text).rest = text.drop named.index := rfl
  rw [Cursor.scanTag, scanTag?, opened]
  simp only [lead_eq, named_eq, name_eq, unnamed_eq, Option.bind_eq_bind, Option.bind_some,
    readLead, readName]
  by_cases nameless : ((text.drop named.index).takeWhile isNameChar).isEmpty = true
  · obtain ⟨last, readFound, toLast⟩ := unnamed.bumpWhile?_misnamed text
    have stays : text.drop named.index = text.drop unnamed.index := by
      have whole := List.takeWhile_append_dropWhile (p := isNameChar) (l := text.drop named.index)
      rw [List.isEmpty_iff.mp nameless] at whole
      exact whole.symm.trans (congrArg Cursor.rest unnamed_eq)
    rw [if_pos nameless, if_pos nameless, readFound, stays]
    exact ⟨last, (toNamed.trans toUnnamed).trans toLast, rfl⟩
  · obtain ⟨inner, readGap, inner_eq, toInner⟩ := unnamed.bumpWhile?_peeksIn text Text.isBlank
    obtain ⟨closing, readBody, closing_eq, toClosing⟩ := inner.bumpWhile?_notAtPair text '%' '}'
    have body_eq : (inner.cursor text).rest = text.drop inner.index := rfl
    have closing_rest : (closing.cursor text).rest = text.drop closing.index := rfl
    have toClosing := ((toNamed.trans toUnnamed).trans toInner).trans toClosing
    rw [if_neg nameless, if_neg nameless]
    simp only [inner_eq, readGap, Option.bind_some, readBody, body_eq, closing_eq, closing_rest,
      ← isAtEnd_eq]
    cases closed : closing.isAtEnd text with
    | true => exact ⟨closing, toClosing, rfl⟩
    | false =>
        have ending : text.drop closing.index =
            (Text.cutAtPair '%' '}' (text.drop inner.index)).2 := by
          rw [← Text.drop_length_cutAtPair]
          exact congrArg Cursor.rest closing_eq.symm
        have nonempty : (Text.cutAtPair '%' '}' (text.drop inner.index)).2 ≠ [] := by
          rw [isAtEnd_eq, ending] at closed
          exact List.isEmpty_eq_false_iff.mp closed
        obtain ⟨rest, closes⟩ := Text.cutAtPair_snd_eq_cons nonempty
        have divided : text.drop closing.index = ['%', '}'] ++ rest := ending.trans closes
        rw [bumpPair?_eq divided]
        exact ⟨closing.behind ['%', '}'], toClosing.trans ⟨_, ⟨rest, divided.symm⟩, rfl⟩, rfl,
          skip_cursor divided⟩

end Pointer

theorem Cursor.kinds_of_scanTag {opening : Cursor} {tag : ScannedTag}
    (scanned : opening.scanTag = .ok tag) :
    tag.name.kind = .tagName ∧ tag.contents.kind = .tagContents := by
  simp only [Cursor.scanTag] at scanned
  split at scanned
  · cases scanned
  · split at scanned
    · cases scanned
    · cases scanned
      exact ⟨rfl, rfl⟩

namespace IndexedLexer

/-- What holds of the parts of an indexed lexer, whatever it has read. -/
structure Sound (text : Text) (lexer : IndexedLexer) : Prop where
  stands : lexer.pointer.StandsIn text
  pending_iff : lexer.pending.isSome ↔ ∃ name, lexer.current = some name ∧ name.kind = .tagName
  isContents : ∀ contents ∈ lexer.pending, contents.kind = .tagContents
  done_of_fault : lexer.fault.isSome → lexer.done = true
  ended : lexer.done = true → lexer.current = none

/-- An indexed lexer is where a lexer is.  A fault that ends the reading has moved it on. -/
structure Follows (text : Text) (indexed : IndexedLexer) (lexer : Lexer) : Prop where
  current : indexed.current = lexer.current
  fault : indexed.fault = lexer.lastError
  phase : match lexer.phase with
    | .between => indexed.done = false ∧ indexed.pending = none ∧
        lexer.cursor = indexed.pointer.cursor text
    | .named contents => indexed.done = false ∧ indexed.pending = some contents ∧
        lexer.cursor = indexed.pointer.cursor text
    | .finished _ => indexed.done = true

structure Steps (text : Text) (indexed : IndexedLexer) (lexer : Lexer) (next : IndexedLexer) :
    Prop where
  answers : indexed.advance? text = some (lexer.advance.1, next)
  sound : next.Sound text
  follows : next.Follows text lexer.advance.2

section Steps

variable {text : Text} {indexed : IndexedLexer} {cursor : Cursor} {shown : Option Token}

theorem steps_finished {fault : Option ScanError} (sound : indexed.Sound text)
    (follows : indexed.Follows text ⟨cursor, shown, .finished fault⟩) :
    Steps text indexed ⟨cursor, shown, .finished fault⟩ indexed := by
  obtain ⟨current, reported, done⟩ := follows
  have hidden := sound.ended done
  have same : { indexed with current := none } = indexed := by rw [← hidden]
  refine ⟨?_, sound, ⟨hidden, reported, done⟩⟩
  rw [advance?, if_pos done, same]
  rfl

theorem steps_named {contents : Token} (sound : indexed.Sound text)
    (follows : indexed.Follows text ⟨cursor, shown, .named contents⟩) :
    Steps text indexed ⟨cursor, shown, .named contents⟩
      { indexed with current := some contents, pending := none } := by
  obtain ⟨current, reported, running, held, here⟩ := follows
  have isContents := sound.isContents contents held
  refine ⟨?_, ⟨sound.stands, ?_, nofun, sound.done_of_fault, ?_⟩,
    ⟨rfl, reported, running, rfl, here⟩⟩
  · rw [advance?, if_neg (Bool.eq_false_iff.mp running), held]
    rfl
  · constructor
    · nofun
    · rintro ⟨name, same, isName⟩
      cases same
      cases isContents.symm.trans isName
  · intro done
    cases running.symm.trans done

theorem advance?_of_running (running : indexed.done = false) (nothing : indexed.pending = none) :
    indexed.advance? text = indexed.read? text := by
  rw [advance?, if_neg (Bool.eq_false_iff.mp running), nothing]

theorem steps_at_end (sound : indexed.Sound text)
    (follows : indexed.Follows text ⟨cursor, shown, .between⟩) (atEnd : cursor.rest = []) :
    Steps text indexed ⟨cursor, shown, .between⟩
      { indexed with current := none, done := true } := by
  obtain ⟨current, reported, running, nothing, rfl⟩ := follows
  have noMore : (text.drop indexed.pointer.index).isEmpty = true := List.isEmpty_iff.mpr atEnd
  have lexed : Lexer.advance ⟨indexed.pointer.cursor text, shown, .between⟩ =
      (false, ⟨indexed.pointer.cursor text, none, .finished none⟩) := if_pos noMore
  constructor
  · rw [lexed, advance?_of_running running nothing, read?, Pointer.isAtEnd_eq, if_pos noMore]
  · exact ⟨sound.stands, by simp [nothing], sound.isContents, fun _ => rfl, fun _ => rfl⟩
  · rw [lexed]
    exact ⟨rfl, reported, rfl⟩

theorem steps_at_text (sound : indexed.Sound text)
    (follows : indexed.Follows text ⟨cursor, shown, .between⟩) (more : cursor.rest ≠ [])
    (plain : cursor.opensTag = false) :
    ∃ next, Steps text indexed ⟨cursor, shown, .between⟩ next := by
  obtain ⟨current, reported, running, nothing, rfl⟩ := follows
  obtain ⟨later, taken, later_eq, onward⟩ :=
    indexed.pointer.bumpWhile?_notAtPair text '{' '%'
  have someMore : ¬ (text.drop indexed.pointer.index).isEmpty = true :=
    mt List.isEmpty_iff.mp more
  have notOpen : ¬ Text.startsWithPair '{' '%' (text.drop indexed.pointer.index) = true :=
    Bool.eq_false_iff.mp plain
  have lexed : Lexer.advance ⟨indexed.pointer.cursor text, shown, .between⟩ =
      (true, ⟨later.cursor text, some (Lexer.textToken (indexed.pointer.cursor text)),
        .between⟩) := by
    rw [← later_eq]
    exact (if_neg someMore).trans (if_neg notOpen)
  refine ⟨{ indexed with
    pointer := later
    current := some (Lexer.textToken (indexed.pointer.cursor text)) }, ?_, ?_, ?_⟩
  · rw [lexed, advance?_of_running running nothing, read?, Pointer.isAtEnd_eq, if_neg someMore,
      Pointer.isAtPair_eq, if_neg notOpen, taken]
    rfl
  · refine ⟨sound.stands.onward onward, by simp [nothing, Lexer.textToken], sound.isContents,
      sound.done_of_fault, ?_⟩
    intro done
    cases running.symm.trans done
  · rw [lexed]
    exact ⟨rfl, reported, running, nothing, rfl⟩

theorem steps_at_tag (sound : indexed.Sound text)
    (follows : indexed.Follows text ⟨cursor, shown, .between⟩) (opens : cursor.opensTag = true) :
    ∃ next, Steps text indexed ⟨cursor, shown, .between⟩ next := by
  obtain ⟨current, reported, running, nothing, rfl⟩ := follows
  obtain ⟨rest, here⟩ := (Text.startsWithPair_eq_true_iff _ _ _).mp opens
  obtain ⟨last, onward, scanned⟩ := Pointer.scanTag?_eq here
  have someMore : ¬ (text.drop indexed.pointer.index).isEmpty = true := by
    rw [show text.drop indexed.pointer.index = _ from here]
    exact Bool.false_ne_true
  have stands := sound.stands.onward
    (Pointer.Onward.trans ⟨['{', '%'], ⟨rest, here.symm⟩, rfl⟩ onward)
  have isOpen : Text.startsWithPair '{' '%' (text.drop indexed.pointer.index) = true := opens
  have lexed : Lexer.advance ⟨indexed.pointer.cursor text, shown, .between⟩ =
      match (indexed.pointer.cursor text).scanTag with
      | .error fault =>
          (false, ⟨indexed.pointer.cursor text, none, .finished (some fault)⟩)
      | .ok tag => (true, ⟨tag.after, some tag.name, .named tag.contents⟩) :=
    (if_neg someMore).trans (if_pos opens)
  cases hTag : (indexed.pointer.cursor text).scanTag with
  | error fault =>
      rw [hTag] at scanned lexed
      refine ⟨{ indexed with
        pointer := last, current := none, fault := some fault, done := true }, ?_, ?_, ?_⟩
      · rw [lexed, advance?_of_running running nothing, read?, Pointer.isAtEnd_eq,
          if_neg someMore, Pointer.isAtPair_eq, if_pos isOpen, scanned]
        rfl
      · exact ⟨stands, by simp [nothing], sound.isContents, fun _ => rfl, fun _ => rfl⟩
      · rw [lexed]
        exact ⟨rfl, rfl, rfl⟩
  | ok tag =>
      rw [hTag] at scanned lexed
      obtain ⟨scanned, behind⟩ := scanned
      obtain ⟨isName, isContents⟩ := Cursor.kinds_of_scanTag hTag
      refine ⟨{ indexed with
        pointer := last, current := some tag.name, pending := some tag.contents }, ?_, ?_, ?_⟩
      · rw [lexed, advance?_of_running running nothing, read?, Pointer.isAtEnd_eq,
          if_neg someMore, Pointer.isAtPair_eq, if_pos isOpen, scanned]
        rfl
      · refine ⟨stands, by simp [isName], ?_, sound.done_of_fault, ?_⟩
        · rintro contents ⟨⟩
          exact isContents
        · intro done
          cases running.symm.trans done
      · rw [lexed]
        exact ⟨rfl, reported, running, rfl, behind⟩

theorem exists_steps (sound : indexed.Sound text) {lexer : Lexer}
    (follows : indexed.Follows text lexer) : ∃ next, Steps text indexed lexer next := by
  obtain ⟨cursor, shown, phase⟩ := lexer
  cases phase with
  | finished fault => exact ⟨_, steps_finished sound follows⟩
  | named contents => exact ⟨_, steps_named sound follows⟩
  | between =>
      by_cases atEnd : cursor.rest = []
      · exact ⟨_, steps_at_end sound follows atEnd⟩
      · cases opens : cursor.opensTag with
        | true => exact steps_at_tag sound follows opens
        | false => exact steps_at_text sound follows atEnd opens

/-- While a lexer shows a token, what is left of the text bounds what it has still to deliver. -/
theorem Follows.length_le_remaining {lexer : Lexer} {token : Token} (sound : indexed.Sound text)
    (follows : indexed.Follows text lexer) (shows : lexer.current = some token) :
    (text.drop indexed.pointer.index).length ≤ lexer.remaining := by
  obtain ⟨cursor, shown, phase⟩ := lexer
  obtain ⟨current, -, here⟩ := follows
  cases phase with
  | finished fault => cases (sound.ended here).symm.trans (current.trans shows)
  | named contents =>
      obtain ⟨-, -, rfl⟩ := here
      exact Nat.le_succ _
  | between =>
      obtain ⟨-, -, rfl⟩ := here
      exact Nat.le_refl _

theorem Steps.moves_on {lexer : Lexer} {next : IndexedLexer} (steps : Steps text indexed lexer next)
    (follows : indexed.Follows text lexer) (more : lexer.advance.1 = true)
    (nothing : indexed.pending = none) : indexed.pointer.index < next.pointer.index := by
  have shrinks := lexer.remaining_advance more
  obtain ⟨⟨token, shows⟩, -⟩ := lexer.shows_of_more more
  have bounded := steps.follows.length_le_remaining steps.sound shows
  have whole : lexer.remaining = (text.drop indexed.pointer.index).length := by
    obtain ⟨cursor, shown, phase⟩ := lexer
    obtain ⟨-, -, here⟩ := follows
    cases phase with
    | finished fault => cases more
    | named contents => cases nothing.symm.trans here.2.1
    | between =>
        obtain ⟨-, -, rfl⟩ := here
        rfl
  rw [List.length_drop] at bounded whole
  omega

theorem Steps.rests {lexer : Lexer} {next : IndexedLexer} (steps : Steps text indexed lexer next)
    (sound : indexed.Sound text) (done : indexed.done = true) :
    lexer.advance.1 = false ∧ next = indexed := by
  have hidden := sound.ended done
  have answers := steps.answers
  rw [advance?, if_pos done] at answers
  obtain ⟨refused, same⟩ := Prod.mk.inj (Option.some.inj answers)
  refine ⟨refused.symm, ?_⟩
  rw [← same, ← hidden]

end Steps

theorem start_sound (text : Text) : start.Sound text where
  stands := Pointer.standsIn_start text
  pending_iff := by simp [start]
  isContents := nofun
  done_of_fault := nofun
  ended := nofun

theorem start_follows (text : Text) : start.Follows text (Lexer.ofText text) where
  current := rfl
  fault := rfl
  phase := ⟨rfl, rfl, rfl⟩

theorem exists_afterCalls (text : Text) (calls : Nat) :
    ∃ indexed, afterCalls? text calls = some indexed ∧ indexed.Sound text ∧
      indexed.Follows text (Lexer.afterCalls text calls) := by
  induction calls with
  | zero => exact ⟨start, rfl, start_sound text, start_follows text⟩
  | succ calls ih =>
      obtain ⟨indexed, reached, sound, follows⟩ := ih
      obtain ⟨next, steps⟩ := exists_steps sound follows
      refine ⟨next, ?_, steps.sound, steps.follows⟩
      rw [afterCalls?, reached, Option.bind_some, steps.answers]
      rfl

end IndexedLexer

theorem TokenSource.length_drain_le {σ : Type} [TokenSource σ] (source : σ) :
    (TokenSource.drain source).1.length ≤ TokenSource.remaining source := by
  induction size : TokenSource.remaining source using Nat.strongRecOn generalizing source with
  | ind bound ih =>
      subst size
      rw [TokenSource.drain]
      split
      · rename_i more
        have shrinks := TokenSource.remaining_advance source more
        have later := ih _ shrinks (TokenSource.advance source).2 rfl
        rw [List.length_cons]
        omega
      · exact Nat.zero_le _

theorem length_le_of_tokenize {text : Text} {tokens : List Token}
    (tokenized : tokenize text = .ok tokens) : tokens.length ≤ text.length := by
  have bounded := TokenSource.length_drain_le (Lexer.ofText text)
  have delivered := Lexer.drain_of_delivers ((tokenize_eq_ok_iff_delivers text tokens).mp tokenized)
  rw [delivered.1, List.length_map] at bounded
  exact bounded

/-- Behind any number of advances the indexed lexer, which fails where it asks for a character
that is not there, has not failed, its parts agree, and it is where the lexer is.  Its next
advance answers as that of the lexer, moves on if it reads a token, and changes nothing behind
the end.  So no more tokens come than the text has characters. -/
theorem indexed_lexer_sound (text : Text) :
    (∀ calls, ∃ indexed, IndexedLexer.afterCalls? text calls = some indexed ∧
      indexed.Sound text ∧
      let lexer := Lexer.afterCalls text calls
      indexed.Follows text lexer ∧
      ∃ next, indexed.advance? text = some (lexer.advance.1, next) ∧
        (lexer.advance.1 = true → indexed.pending = none →
          indexed.pointer.index < next.pointer.index) ∧
        (indexed.done = true → lexer.advance.1 = false ∧ next = indexed)) ∧
    (TokenSource.drain (Lexer.ofText text)).1.length ≤ text.length ∧
    ∀ tokens, tokenize text = .ok tokens → tokens.length ≤ text.length := by
  refine ⟨?_, TokenSource.length_drain_le (Lexer.ofText text), fun _ => length_le_of_tokenize⟩
  intro calls
  obtain ⟨indexed, reached, sound, follows⟩ := IndexedLexer.exists_afterCalls text calls
  obtain ⟨next, steps⟩ := IndexedLexer.exists_steps sound follows
  exact ⟨indexed, reached, sound, follows, next, steps.answers, steps.moves_on follows,
    steps.rests sound⟩

end Stencil
