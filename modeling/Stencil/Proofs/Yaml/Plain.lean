/-
Plain scalars, and that they are read as a whole.

A reader that has passed over white space or a comment finds the same next part as before.
Apart from its place, only line breaks change it: behind one a key may start.

A plain scalar starts with a character that has no other meaning, holds no colon that ends a
word and no hash behind white space, and goes on over lines that are indented.  Its value is its
text with the line breaks folded, which is the text itself on a single line.  The scan takes it
word by word: a word ends at white space only, and what follows the scalar ends the last one.
-/

import Mathlib.Data.List.Chain
import Stencil.Proofs.Text.Pair
import Stencil.Yaml.Token

namespace Stencil
namespace Yaml

namespace Input

variable {input : Input} {text behind : Text} {c : Char}

theorem rest_behind : (input.behind c behind).rest = behind := by
  rw [Input.behind]
  cases isBreak c <;> rfl

theorem column_behind :
    (input.behind c behind).column = if isBreak c then 0 else input.column + 1 := by
  rw [Input.behind]
  cases isBreak c <;> rfl

theorem skip_of_rest_nil (rest : input.rest = []) (count : Nat) : input.skip count = input := by
  cases count with
  | zero => rfl
  | succ count => rw [skip, rest]

theorem skip_of_rest_cons (rest : input.rest = c :: behind) (count : Nat) :
    input.skip (count + 1) = (input.behind c behind).skip count := by
  rw [skip, rest]

theorem skip_skip (first second : Nat) :
    (input.skip first).skip second = input.skip (first + second) := by
  induction first generalizing input with
  | zero => rw [Nat.zero_add, skip]
  | succ first ih =>
      cases rest : input.rest with
      | nil => rw [skip_of_rest_nil rest, skip_of_rest_nil rest, skip_of_rest_nil rest]
      | cons c behind =>
          rw [skip_of_rest_cons rest, ih, Nat.add_right_comm, skip_of_rest_cons rest]

theorem rest_skip (count : Nat) : (input.skip count).rest = input.rest.drop count := by
  induction count generalizing input with
  | zero => rfl
  | succ count ih =>
      cases rest : input.rest with
      | nil => rw [skip_of_rest_nil rest, rest, List.drop_nil]
      | cons c behind => rw [skip_of_rest_cons rest, ih, rest_behind, List.drop_succ_cons]

theorem rest_skip_length (rest : input.rest = text ++ behind) :
    (input.skip text.length).rest = behind := by
  rw [rest_skip, rest, List.drop_left]

theorem skip_concat (rest : input.rest = text ++ c :: behind) :
    input.skip (text.length + 1) = (input.skip text.length).behind c behind := by
  rw [← skip_skip, skip_of_rest_cons (rest_skip_length rest), skip]

/-- Only behind a break does a line start. -/
theorem column_skip_eq_zero_iff (rest : input.rest = text ++ behind) (nonempty : text ≠ []) :
    (input.skip text.length).column = 0 ↔ text.getLast?.any isBreak = true := by
  obtain ⟨front, c, rfl⟩ := (List.eq_nil_or_concat text).resolve_left nonempty
  rw [List.concat_eq_append, List.append_assoc, List.singleton_append] at rest
  rw [List.concat_eq_append, List.length_append, List.length_singleton, skip_concat rest,
    column_behind, List.getLast?_concat, Option.any_some]
  cases isBreak c with
  | true => exact iff_of_true rfl rfl
  | false => exact iff_of_false (Nat.succ_ne_zero _) nofun

theorem column_skip_pos (rest : input.rest = text ++ behind)
    (moved : 0 < input.column ∨ text ≠ []) (last : text.getLast?.any isBreak = false) :
    0 < (input.skip text.length).column := by
  by_cases empty : text = []
  · rw [empty]
    exact moved.resolve_right (absurd empty)
  · refine Nat.pos_of_ne_zero fun atStart => ?_
    rw [(column_skip_eq_zero_iff rest empty).mp atStart] at last
    cases last

theorem line_offset_skip (rest : input.rest = text ++ behind)
    (inline : ∀ c ∈ text, isBreak c = false) :
    (input.skip text.length).line = input.line ∧
      (input.skip text.length).offset = input.offset + Text.byteLength text := by
  induction text generalizing input with
  | nil => exact ⟨rfl, rfl⟩
  | cons c text ih =>
      obtain ⟨here, later⟩ := List.forall_mem_cons.mp inline
      have moved : input.behind c (text ++ behind) =
          ⟨text ++ behind, input.line, input.column + 1, input.offset + c.utf8Size⟩ := by
        rw [Input.behind, here]
        rfl
      rw [List.cons_append] at rest
      rw [List.length_cons, skip_of_rest_cons rest, moved, ← List.singleton_append,
        Text.byteLength_append, Text.byteLength_singleton, ← Nat.add_assoc]
      exact ih rfl later

theorem atMarker_of_column_pos (inside : 0 < input.column) : input.atMarker = false := by
  have column : (input.column == 0) = false := beq_false_of_ne (Nat.ne_of_gt inside)
  rw [atMarker, isMarker, isMarker, column]
  rfl

end Input

theorem isWhite_of_isBlank {c : Char} (blank : isBlank c = true) : isWhite c = true :=
  Bool.or_eq_true_iff.mpr (.inl blank)

theorem blank_of_mem_replicate {c : Char} {count : Nat} (present : c ∈ List.replicate count ' ') :
    isBlank c = true := by
  rw [List.eq_of_mem_replicate present]
  decide

theorem inline_of_isBlank {text : Text} (blank : ∀ c ∈ text, isBlank c = true) :
    ∀ c ∈ text, isBreak c = false := by
  intro c present
  have isBlank := blank c present
  simp only [Yaml.isBlank, Bool.or_eq_true, beq_iff_eq] at isBlank
  rcases isBlank with rfl | rfl <;> decide

theorem any_isBreak_of_isBlank {text : Text} (blank : ∀ c ∈ text, isBlank c = true) :
    text.any isBreak = false :=
  List.any_eq_false.mpr fun c present => Bool.eq_false_iff.mp (inline_of_isBlank blank c present)

def endsLine : Text → Bool
  | [] => true
  | c :: _ => isBreak c

theorem gapLength_comment {bracketed keyAllowed : Bool} {text behind : Text}
    (inline : ∀ c ∈ text, isBreak c = false) (ends : endsLine behind = true)
    (lineStart other : Bool) :
    gapLength bracketed keyAllowed true lineStart (text ++ behind) =
      (text.length + (gapLength bracketed keyAllowed false other behind).1,
        (gapLength bracketed keyAllowed false other behind).2) := by
  induction text generalizing lineStart with
  | nil =>
      cases behind with
      | nil => rfl
      | cons c rest =>
          rw [endsLine] at ends
          rw [List.nil_append, List.length_nil, Nat.zero_add, gapLength, gapLength, if_pos ends,
            if_pos ends]
  | cons c text ih =>
      obtain ⟨here, later⟩ := List.forall_mem_cons.mp inline
      have notBreak : ¬ isBreak c = true := by rw [here]; nofun
      rw [List.cons_append, gapLength, if_neg notBreak, if_pos rfl, ih later, List.length_cons,
        Nat.add_right_comm]

theorem gapLength_of_part {bracketed keyAllowed lineStart : Bool} {c : Char} {behind : Text}
    (notWhite : isWhite c = false)
    (notComment : c ≠ '#') (notMark : c ≠ byteOrderMark) :
    gapLength bracketed keyAllowed false lineStart (c :: behind) = (0, keyAllowed) := by
  obtain ⟨notBlank, notBreak⟩ := Bool.or_eq_false_iff.mp notWhite
  obtain ⟨notSpace, notTab⟩ := Bool.or_eq_false_iff.mp notBlank
  simp only [beq_eq_false_iff_ne] at notSpace notTab
  simp [gapLength, notBreak, notSpace, notTab, notMark, notComment]

namespace Reader

variable {reader : Reader} {text behind : Text} {c : Char}

def pass (reader : Reader) (count : Nat) (allowed : Bool) : Reader :=
  { reader with input := reader.input.skip count, keyAllowed := allowed }

theorem pass_pass (first second : Nat) (allowed other : Bool) :
    (reader.pass first allowed).pass second other = reader.pass (first + second) other := by
  rw [pass, pass, pass, Input.skip_skip]

/-- The next part is the same behind what the gap starts with. -/
theorem nextPart?_pass {count : Nat} {allowed : Bool}
    (gap : gapLength reader.bracketed reader.keyAllowed false (reader.input.column == 0)
        reader.input.rest =
      (count + (gapLength reader.bracketed allowed false ((reader.input.skip count).column == 0)
          (reader.input.skip count).rest).1,
        (gapLength reader.bracketed allowed false ((reader.input.skip count).column == 0)
          (reader.input.skip count).rest).2)) :
    (reader.pass count allowed).nextPart? = reader.nextPart? := by
  rw [nextPart?, nextPart?, gap, ← Input.skip_skip]
  rfl

theorem nextPart?_pass_of_isWhite (rest : reader.input.rest = c :: behind)
    (unbracketed : reader.outerKeys = []) (white : isWhite c = true)
    (tab : c = '\t' → reader.keyAllowed = false) :
    (reader.pass 1 (reader.keyAllowed || isBreak c)).nextPart? = reader.nextPart? := by
  have notBracketed : reader.bracketed = false := by rw [bracketed, unbracketed]; rfl
  apply nextPart?_pass
  rw [Input.skip_of_rest_cons rest 0, Input.skip, Input.rest_behind, Input.column_behind, rest,
    gapLength, notBracketed]
  cases atBreak : isBreak c with
  | true => simp [Nat.add_comm]
  | false =>
      have passed : c = ' ' ∨ (c = '\t' ∧ (false || !reader.keyAllowed) = true) ∨
          (c = byteOrderMark ∧ (reader.input.column == 0) = true) := by
        simp only [isWhite, isBlank, atBreak, Bool.or_false, Bool.or_eq_true, beq_iff_eq] at white
        rcases white with space | isTab
        · exact .inl space
        · exact .inr (.inl ⟨isTab, by rw [tab isTab]; rfl⟩)
      dsimp only
      rw [if_neg Bool.false_ne_true, if_neg Bool.false_ne_true, if_pos passed, Bool.or_false,
        Nat.add_comm]
      rfl

theorem nextPart?_pass_white (rest : reader.input.rest = text ++ behind)
    (unbracketed : reader.outerKeys = []) (white : ∀ c ∈ text, isWhite c = true)
    (tabs : '\t' ∈ text → reader.keyAllowed = false ∧ text.any isBreak = false) :
    (reader.pass text.length (reader.keyAllowed || text.any isBreak)).nextPart? =
      reader.nextPart? := by
  induction text generalizing reader with
  | nil => rw [List.any_nil, Bool.or_false]; rfl
  | cons c text ih =>
      obtain ⟨here, later⟩ := List.forall_mem_cons.mp white
      have tab : c = '\t' → reader.keyAllowed = false := by
        rintro rfl
        exact (tabs List.mem_cons_self).1
      have restBehind : (reader.pass 1 (reader.keyAllowed || isBreak c)).input.rest =
          text ++ behind := by
        rw [pass, Input.rest_skip, rest]
        rfl
      have laterTabs : '\t' ∈ text →
          (reader.keyAllowed || isBreak c) = false ∧ text.any isBreak = false := by
        intro present
        obtain ⟨forbidden, inline⟩ := tabs (List.mem_cons_of_mem c present)
        rw [List.any_cons, Bool.or_eq_false_iff] at inline
        rw [forbidden, inline.1]
        exact ⟨rfl, inline.2⟩
      rw [← nextPart?_pass_of_isWhite rest unbracketed here tab,
        ← ih restBehind unbracketed later laterTabs, pass_pass, Nat.add_comm, List.length_cons,
        List.any_cons, ← Bool.or_assoc]
      rfl

theorem nextPart?_pass_spaces {count : Nat}
    (rest : reader.input.rest = List.replicate count ' ' ++ behind)
    (unbracketed : reader.outerKeys = []) :
    (reader.pass count reader.keyAllowed).nextPart? = reader.nextPart? := by
  have blank : ∀ c ∈ List.replicate count ' ', isBlank c = true := fun c => blank_of_mem_replicate
  have passed := nextPart?_pass_white rest unbracketed
    (fun c present => isWhite_of_isBlank (blank c present))
    fun isTab => absurd (List.eq_of_mem_replicate isTab) (by decide)
  rwa [any_isBreak_of_isBlank blank, Bool.or_false, List.length_replicate] at passed

theorem nextPart?_pass_comment (rest : reader.input.rest = '#' :: (text ++ behind))
    (inline : ∀ c ∈ text, isBreak c = false) (ends : endsLine behind = true) :
    (reader.pass (text.length + 1) reader.keyAllowed).nextPart? = reader.nextPart? := by
  have notBlank : ¬ ('#' = ' ' ∨ ('#' = '\t' ∧ (reader.bracketed || !reader.keyAllowed) = true) ∨
      ('#' = byteOrderMark ∧ (reader.input.column == 0) = true)) := by
    simp [byteOrderMark]
  have passed : reader.input.rest.drop (text.length + 1) = behind := by
    rw [rest, List.drop_succ_cons, List.drop_left]
  apply nextPart?_pass
  rw [Input.rest_skip, passed, rest, gapLength, if_neg (by decide), if_neg Bool.false_ne_true,
    if_neg notBlank, if_pos rfl,
    gapLength_comment inline ends _ ((reader.input.skip (text.length + 1)).column == 0),
    Nat.add_right_comm]

end Reader

/-! ### Plain scalars -/

/-- The characters that a text may hold and that are not changed when it is read. -/
def isKept (c : Char) : Bool :=
  isAllowed c && c != '\r' && c != '\u0085'

def indicators : Text := ",[]\x7b\x7d#&*!|>'\"%@\x60".toList

def beginsPlain : Text → Bool
  | [] => false
  | c :: rest =>
      if c = '-' ∨ c = '?' ∨ c = ':' then !endsWord rest
      else !isWhite c && !indicators.contains c

/-- Whether a character within a plain scalar may stand directly in front of a text: a break in
front of a break or an indented line, other white space not in front of a comment, and a colon
not at the end of a word. -/
def joins (c : Char) (following : Text) : Bool :=
  if isBreak c then following.head?.any fun next => next == ' ' || isBreak next
  else if isBlank c then following.head? != some '#'
  else c != ':' || !endsWord following

def flows (behind : Text) : Text → Bool
  | [] => true
  | c :: rest =>
      isKept c && c != byteOrderMark && joins c (rest ++ behind) && flows behind rest

/-- A text that is a plain scalar in front of another text. -/
structure IsPlain (text behind : Text) : Prop where
  nonempty : text ≠ []
  begins : beginsPlain (text ++ behind) = true
  goesOn : flows behind text = true
  trimmed : text.getLast?.any isWhite = false

/-- The value of a plain scalar, behind some white space: line breaks are folded. -/
def flowed (white : Text) : Text → Text
  | [] => folded white
  | c :: rest =>
      if isWhite c then flowed (white ++ [c]) rest else folded white ++ c :: flowed [] rest

section

variable {text behind first second white word : Text} {c : Char}

theorem flows_append :
    flows behind (first ++ second) = (flows (second ++ behind) first && flows behind second) := by
  induction first with
  | nil => rfl
  | cons c first ih =>
      rw [List.cons_append, flows, flows, ih, List.append_assoc]
      simp only [Bool.and_assoc]

theorem beginsPlain_cons (begins : beginsPlain (c :: text) = true) :
    isWhite c = false ∧ c ∉ indicators ∧
      (c = '-' ∨ c = '?' ∨ c = ':' → endsWord text = false) := by
  rw [beginsPlain] at begins
  split at begins
  · next atWord =>
      have apart : isWhite c = false ∧ c ∉ indicators := by
        rcases atWord with rfl | rfl | rfl <;> decide
      exact ⟨apart.1, apart.2, fun _ => Bool.not_inj begins⟩
  · next others =>
      obtain ⟨notWhite, apart⟩ := Bool.and_eq_true_iff.mp begins
      exact ⟨Bool.not_inj notWhite, fun present => by simp [present] at apart,
        fun atWord => absurd atWord others⟩

theorem IsPlain.head (plain : IsPlain text behind) : ∀ c ∈ text.head?, isWhite c = false := by
  intro c isHead
  obtain ⟨rest, rfl⟩ := List.head?_eq_some_iff.mp isHead
  exact (beginsPlain_cons plain.begins).1

theorem gapLength_of_isPlain {bracketed keyAllowed lineStart : Bool}
    (plain : IsPlain text behind) :
    gapLength bracketed keyAllowed false lineStart (text ++ behind) = (0, keyAllowed) := by
  obtain ⟨c, more, rfl⟩ := List.exists_cons_of_ne_nil plain.nonempty
  obtain ⟨notWhite, apart, -⟩ := beginsPlain_cons plain.begins
  have goesOn := plain.goesOn
  simp only [flows, Bool.and_eq_true, bne_iff_ne] at goesOn
  refine gapLength_of_part notWhite ?_ goesOn.1.1.2
  rintro rfl
  exact apart (by decide)

theorem endsWord_append_congr {other : Text} (same : endsWord other = endsWord behind) :
    endsWord (text ++ other) = endsWord (text ++ behind) := by
  cases text with
  | nil => exact same
  | cons c text => rfl

theorem flows_congr {other : Text} (same : endsWord other = endsWord behind)
    (trimmed : text.getLast?.any isWhite = false) : flows other text = flows behind text := by
  induction text with
  | nil => rfl
  | cons c text ih =>
      cases text with
      | nil =>
          obtain ⟨notBlank, notBreak⟩ : isBlank c = false ∧ isBreak c = false :=
            Bool.or_eq_false_iff.mp trimmed
          simp only [flows, joins, List.nil_append, notBlank, notBreak, same, Bool.false_eq_true,
            if_false]
      | cons d text =>
          rw [List.getLast?_cons_cons] at trimmed
          exact congrArg (isKept c && c != byteOrderMark && joins c (d :: text) && ·) (ih trimmed)

/-- What is behind a plain scalar matters only as to whether a word ends there. -/
theorem IsPlain.of_endsWord {other : Text} (plain : IsPlain text behind)
    (same : endsWord other = endsWord behind) : IsPlain text other := by
  refine ⟨plain.nonempty, ?_, ?_, plain.trimmed⟩
  · have begins := plain.begins
    obtain ⟨c, rest, rfl⟩ := List.exists_cons_of_ne_nil plain.nonempty
    rw [List.cons_append, beginsPlain] at begins ⊢
    rwa [endsWord_append_congr same]
  · rw [flows_congr same plain.trimmed]
    exact plain.goesOn

theorem flowed_white (isWhite : ∀ c ∈ second, isWhite c = true) :
    flowed white (second ++ text) = flowed (white ++ second) text := by
  induction second generalizing white with
  | nil => rw [List.nil_append, List.append_nil]
  | cons c second ih =>
      obtain ⟨here, later⟩ := List.forall_mem_cons.mp isWhite
      rw [List.cons_append, flowed, if_pos here, ih later, List.append_assoc]
      rfl

theorem flowed_word (inWord : ∀ c ∈ word, isWhite c = false) (nonempty : word ≠ []) :
    flowed white (word ++ text) = folded white ++ word ++ flowed [] text := by
  induction word generalizing white with
  | nil => exact absurd rfl nonempty
  | cons c word ih =>
      obtain ⟨here, later⟩ := List.forall_mem_cons.mp inWord
      have notWhite : ¬ isWhite c = true := by rw [here]; nofun
      rw [List.cons_append, flowed, if_neg notWhite]
      by_cases last : word = []
      · rw [last, List.nil_append, List.append_assoc]
        rfl
      · rw [ih later last, List.append_assoc, List.append_assoc]
        rfl

theorem folded_inline (inline : ∀ c ∈ white, isBreak c = false) : folded white = white := by
  have none : white.filter isBreak = [] := by
    rw [List.filter_eq_nil_iff]
    intro c present isBreak
    rw [inline c present] at isBreak
    cases isBreak
  rw [folded, none]
  rfl

theorem flowed_inline (before : ∀ c ∈ white, isBreak c = false)
    (inline : ∀ c ∈ text, isBreak c = false) : flowed white text = white ++ text := by
  induction text generalizing white with
  | nil => rw [flowed, folded_inline before, List.append_nil]
  | cons c text ih =>
      obtain ⟨here, later⟩ := List.forall_mem_cons.mp inline
      rw [flowed]
      split
      · have grown : ∀ d ∈ white ++ [c], isBreak d = false :=
          List.forall_mem_append.mpr ⟨before, List.forall_mem_singleton.mpr here⟩
        rw [ih grown later, List.append_assoc]
        rfl
      · rw [folded_inline before, ih (List.forall_mem_nil _) later]
        rfl

end

section

variable {text behind white word : Text}

theorem plainWord_append (inWord : ∀ c ∈ word, isWhite c = false)
    (goesOn : flows behind word = true) (ends : endsPlain false behind = true) :
    plainWord false (word ++ behind) = word := by
  induction word with
  | nil =>
      cases behind with
      | nil => rfl
      | cons c behind => rw [List.nil_append, plainWord, if_pos ends]
  | cons c word ih =>
      obtain ⟨here, later⟩ := List.forall_mem_cons.mp inWord
      rw [flows, Bool.and_eq_true, Bool.and_eq_true] at goesOn
      obtain ⟨⟨-, joined⟩, goesOn⟩ := goesOn
      rw [isWhite, Bool.or_eq_false_iff] at here
      rw [joins, here.1, here.2, if_neg Bool.false_ne_true, if_neg Bool.false_ne_true] at joined
      have stays : endsPlain false (c :: (word ++ behind)) = false := by
        rw [endsPlain, isWhite, here.1, here.2]
        cases isColon : c == ':' with
        | false => rfl
        | true =>
            rw [bne, isColon] at joined
            simpa using joined
      rw [List.cons_append, plainWord, stays, if_neg Bool.false_ne_true, ih later goesOn]

def Untabbed (white : Text) : Prop :=
  white.IsChain fun c next => isBreak c = true → next ≠ '\t'

theorem lines_of_untabbed (untabbed : Untabbed white) :
    ∃ first lines, white.splitOnP isBreak = first :: lines ∧
      (first.head? = some '\t' → white.head? = some '\t') ∧
      ∀ line ∈ lines, line.head? ≠ some '\t' := by
  induction white with
  | nil => exact ⟨[], [], rfl, nofun, nofun⟩
  | cons c white ih =>
      obtain ⟨joint, rest⟩ := List.isChain_cons.mp untabbed
      obtain ⟨first, lines, split, starts, untabbed⟩ := ih rest
      rw [List.splitOnP_cons_eq_if_modifyHead, split]
      cases atBreak : isBreak c with
      | true =>
          refine ⟨[], first :: lines, rfl, nofun, List.forall_mem_cons.mpr ⟨?_, untabbed⟩⟩
          exact fun tabbed => joint '\t' (starts tabbed) atBreak rfl
      | false => exact ⟨c :: first, lines, rfl, id, untabbed⟩

theorem indentsByTab_of_untabbed {least : Nat} (margin : least ≤ 1) (untabbed : Untabbed white) :
    indentsByTab least white = false := by
  obtain ⟨first, lines, split, -, untabbed⟩ := lines_of_untabbed untabbed
  rw [indentsByTab, split, List.tail_cons, List.any_eq_false]
  intro line present tabbed
  have atStart := untabbed line present
  cases line with
  | nil => simp at tabbed
  | cons c line =>
      have front : (c :: line).take least <+: [c] := by
        exact List.prefix_of_prefix_length_le (List.take_prefix least _)
          (List.prefix_append [c] line) (by simp; omega)
      have isTab := front.subset (List.contains_iff_mem.mp tabbed)
      rw [List.mem_singleton.mp isTab] at atStart
      exact atStart rfl

theorem untabbed_of_flows (goesOn : flows behind white = true) : Untabbed white := by
  induction white with
  | nil => exact .nil
  | cons c white ih =>
      rw [flows, Bool.and_eq_true, Bool.and_eq_true] at goesOn
      obtain ⟨⟨-, joined⟩, goesOn⟩ := goesOn
      refine List.isChain_cons.mpr ⟨?_, ih goesOn⟩
      rintro next isNext atBreak rfl
      cases white with
      | nil => cases isNext
      | cons d white =>
          cases isNext
          rw [joins, if_pos atBreak] at joined
          simp [isBreak] at joined

theorem inline_of_flows (nonempty : white ≠ []) (isWhite : ∀ c ∈ white, isWhite c = true)
    (goesOn : flows behind white = true) (next : ∀ c ∈ behind.head?, Yaml.isWhite c = false) :
    white.getLast?.any isBreak = false ∧ (behind.head? == some '#') = false := by
  obtain ⟨front, c, rfl⟩ := (List.eq_nil_or_concat white).resolve_left nonempty
  rw [List.concat_eq_append] at goesOn isWhite ⊢
  rw [flows_append, Bool.and_eq_true, flows, flows, List.nil_append, Bool.and_true,
    Bool.and_eq_true] at goesOn
  obtain ⟨-, -, joined⟩ := goesOn
  rw [List.getLast?_concat, Option.any_some]
  cases atBreak : isBreak c with
  | true =>
      rw [joins, if_pos atBreak, Option.any_eq_true] at joined
      obtain ⟨d, isNext, white⟩ := joined
      have notWhite := next d isNext
      simp only [Bool.or_eq_true, beq_iff_eq] at white
      rcases white with rfl | atBreak
      · exact absurd notWhite (by decide)
      · rw [Yaml.isWhite, atBreak, Bool.or_true] at notWhite
        cases notWhite
  | false =>
      have blank : isBlank c = true := by
        have white := isWhite c (List.mem_append_right _ (List.mem_singleton_self c))
        rwa [Yaml.isWhite, atBreak, Bool.or_false] at white
      rw [joins, atBreak, if_neg Bool.false_ne_true, if_pos blank] at joined
      exact ⟨rfl, beq_false_of_ne (bne_iff_ne.mp joined)⟩

end

structure Run (kind : Char → Bool) (text : Text) : Prop where
  nonempty : text ≠ []
  each : ∀ c ∈ text, kind c = true

def isInWord (c : Char) : Bool := !isWhite c

inductive Words : Text → Prop
  | nil : Words []
  | cons {gap word more : Text} (isGap : Run isWhite gap) (isWord : Run isInWord word)
      (words : Words more) : Words (gap ++ (word ++ more))

section

variable {kind : Char → Bool} {text behind gap word more : Text}

theorem Run.head (run : Run kind text) : ∀ c ∈ (text ++ behind).head?, kind c = true := by
  intro c isHead
  cases text with
  | nil => exact absurd rfl run.nonempty
  | cons d text =>
      cases isHead
      exact run.each c List.mem_cons_self

theorem Run.endsPlain (isGap : Run isWhite gap) : endsPlain false (gap ++ behind) = true := by
  obtain ⟨c, gap, rfl⟩ := List.exists_cons_of_ne_nil isGap.nonempty
  rw [List.cons_append, Yaml.endsPlain, isGap.each c List.mem_cons_self]
  rfl

theorem Words.endsPlain (words : Words text) (ends : endsPlain false behind = true) :
    Yaml.endsPlain false (text ++ behind) = true := by
  cases words with
  | nil => exact ends
  | cons isGap isWord words =>
      rw [List.append_assoc]
      exact isGap.endsPlain

theorem Run.notWhite (isWord : Run isInWord word) : ∀ c ∈ word, isWhite c = false :=
  fun c present => Bool.not_inj (isWord.each c present)

theorem exists_span (kind : Char → Bool) (text : Text) :
    ∃ front rest, text = front ++ rest ∧ (∀ c ∈ front, kind c = true) ∧
      ∀ c ∈ rest.head?, kind c = false := by
  exact ⟨text.takeWhile kind, text.dropWhile kind, List.takeWhile_append_dropWhile.symm,
    fun c => List.mem_takeWhile_imp, Text.head?_dropWhile text⟩

theorem last_of_forall (none : ∀ c ∈ text, kind c = false) : text.getLast?.any kind = false := by
  rw [Option.any_eq_false]
  intro c isLast
  rw [none c (List.mem_of_getLast? isLast)]

theorem Run.inline (isWord : Run isInWord word) : word.getLast?.any isBreak = false :=
  last_of_forall fun c present => (Bool.or_eq_false_iff.mp (isWord.notWhite c present)).2

theorem last_of_append {front : Text} (last : (front ++ text).getLast?.any kind = false) :
    text.getLast?.any kind = false := by
  by_cases empty : text = []
  · rw [empty]
    rfl
  · rwa [List.getLast?_append_of_ne_nil front empty] at last

/-- A text that starts within a word and ends within one is a word with words behind it. -/
theorem exists_word (nonempty : text ≠ []) (start : ∀ c ∈ text.head?, isWhite c = false)
    (last : text.getLast?.any isWhite = false) :
    ∃ word more, text = word ++ more ∧ Run isInWord word ∧ Words more := by
  induction size : text.length using Nat.strong_induction_on generalizing text with
  | _ length ih =>
  obtain ⟨word, behind, rfl, inWord, behindStart⟩ := exists_span isInWord text
  have isWord : Run isInWord word := by
    refine ⟨?_, inWord⟩
    rintro rfl
    obtain ⟨c, rest, rfl⟩ := List.exists_cons_of_ne_nil nonempty
    have isWhite := behindStart c rfl
    rw [isInWord, start c rfl] at isWhite
    cases isWhite
  obtain ⟨gap, later, rfl, gapWhite, laterStart⟩ := exists_span isWhite behind
  have laterLast := last_of_append (last_of_append last)
  by_cases empty : later = []
  · subst empty
    rw [List.append_nil] at last ⊢
    obtain rfl | ⟨front, c, rfl⟩ := List.eq_nil_or_concat gap
    · exact ⟨word, [], rfl, isWord, .nil⟩
    · rw [List.concat_eq_append] at last gapWhite
      have notWhite := last_of_append last
      rw [List.getLast?_concat, Option.any_some, gapWhite c (by simp)] at notWhite
      cases notWhite
  · have isGap : Run isWhite gap := by
      refine ⟨?_, gapWhite⟩
      rintro rfl
      obtain ⟨c, rest, rfl⟩ := List.exists_cons_of_ne_nil empty
      have isWhite := behindStart c rfl
      rw [isInWord, laterStart c rfl] at isWhite
      cases isWhite
    have shorter : later.length < length := by
      have wordLength := List.length_pos_of_ne_nil isWord.nonempty
      rw [← size, List.length_append, List.length_append]
      omega
    obtain ⟨next, more, rfl, isNext, words⟩ := ih _ shorter empty laterStart laterLast rfl
    exact ⟨word, _, rfl, isWord, .cons isGap isNext words⟩

end

section

variable {text white after behind gap word : Text} {least fuel : Nat} {place : Input}

theorem plainMore_step (margin : least ≤ 1) (isGap : Run isWhite gap) (isWord : Run isInWord word)
    (gapFlows : flows (word ++ behind) gap = true) (wordFlows : flows behind word = true)
    (ends : endsPlain false behind = true) (rest : place.rest = gap ++ (word ++ behind))
    (inside : 0 < place.column) :
    0 < (place.skip (gap ++ word).length).column ∧ ∀ fuel,
      plainMore false least (fuel + 1) place =
        (plainMore false least fuel (place.skip (gap ++ word).length)).map fun more =>
          { more with text := folded gap ++ word ++ more.text } := by
  have start : ∀ c ∈ (word ++ behind).head?, isWhite c = false :=
    fun c isHead => Bool.not_inj (isWord.head c isHead)
  have gapLine := inline_of_flows isGap.nonempty isGap.each gapFlows start
  have restNext := Input.rest_skip_length rest
  have insideNext := Input.column_skip_pos rest (.inl inside) gapLine.1
  have insideBehind : 0 < (place.skip (gap ++ word).length).column := by
    rw [List.length_append, ← Input.skip_skip]
    exact Input.column_skip_pos restNext (.inl insideNext) isWord.inline
  refine ⟨insideBehind, fun fuel => ?_⟩
  have isWhiteGap : place.rest.takeWhile isWhite = gap := by
    rw [rest, Text.takeWhile_append_of_ends start]
    exact List.takeWhile_eq_self_iff.mpr isGap.each
  have goesOn : ((!false && decide ((place.skip gap.length).column < least)) ||
      (place.skip gap.length).atMarker ||
      (place.skip gap.length).rest.head? == some '#') = false := by
    rw [Input.atMarker_of_column_pos insideNext, restNext, gapLine.2]
    simp
    omega
  have isNextWord : plainWord false (place.skip gap.length).rest = word := by
    rw [restNext]
    exact plainWord_append isWord.notWhite wordFlows ends
  rw [plainMore, isWhiteGap, List.isEmpty_eq_false_iff.mpr isGap.nonempty,
    if_neg Bool.false_ne_true, indentsByTab_of_untabbed margin (untabbed_of_flows gapFlows),
    if_neg Bool.false_ne_true]
  dsimp only
  rw [goesOn, isNextWord, if_neg Bool.false_ne_true, Bool.false_and, if_neg Bool.false_ne_true,
    List.isEmpty_eq_false_iff.mpr isWord.nonempty, if_neg Bool.false_ne_true, Input.skip_skip,
    List.length_append]
  cases plainMore false least fuel (place.skip (gap.length + word.length)) <;> rfl

/-- The text behind a plain scalar, in two parts: the scan passes over white space, and ends. -/
structure Stops (least : Nat) (white after : Text) : Prop where
  ends : endsPlain false (white ++ after) = true
  rests : ∀ (fuel : Nat) (place : Input), place.rest = white ++ after → 0 < place.column →
    plainMore false least (fuel + 1) place =
      some ⟨[], place.skip white.length, white.any isBreak⟩

theorem stops_of_colon (ends : endsWord after = true) : Stops least [] (':' :: after) := by
  refine ⟨?_, fun fuel place rest inside => ?_⟩
  · rw [List.nil_append, endsPlain, ends]
    rfl
  · have none : place.rest.takeWhile isWhite = [] := by
      rw [rest]
      rfl
    rw [plainMore, none]
    rfl

/-- White space ends a value at the end of the text, before a comment and before a line at the
margin. -/
theorem stops_of_white (each : ∀ c ∈ white, isWhite c = true) (untabbed : Untabbed white)
    (start : ∀ c ∈ after.head?, isWhite c = false) (apart : white = [] → after = [])
    (ends : after = [] ∨ after.head? = some '#' ∨ white.getLast?.any isBreak = true) :
    Stops 1 white after := by
  by_cases empty : white = []
  · rw [empty, apart empty]
    refine ⟨rfl, fun fuel place rest inside => ?_⟩
    rw [plainMore, rest]
    rfl
  refine ⟨Run.endsPlain ⟨empty, each⟩, fun fuel place rest inside => ?_⟩
  have isWhiteRun : place.rest.takeWhile isWhite = white := by
    rw [rest, Text.takeWhile_append_of_ends start]
    exact List.takeWhile_eq_self_iff.mpr each
  have restNext := Input.rest_skip_length rest
  rw [plainMore, isWhiteRun, List.isEmpty_eq_false_iff.mpr empty, if_neg Bool.false_ne_true,
    indentsByTab_of_untabbed le_rfl untabbed, if_neg Bool.false_ne_true]
  dsimp only
  split
  · rfl
  · next goesOn =>
      have atEnd : after = [] := by
        refine ends.resolve_right fun ends => goesOn ?_
        rcases ends with comment | atBreak
        · rw [restNext, comment]
          simp
        · have column := (Input.column_skip_eq_zero_iff rest empty).mpr atBreak
          simp [column]
      rw [if_neg (by rw [Bool.false_and]; nofun), restNext, atEnd]
      rfl

theorem plainMore_of_words (margin : least ≤ 1) (stops : Stops least white after)
    (words : Words text) (goesOn : flows (white ++ after) text = true)
    (rest : place.rest = text ++ (white ++ after)) (inside : 0 < place.column)
    (enough : text.length < fuel) :
    plainMore false least fuel place =
      some ⟨flowed [] text, place.skip (text ++ white).length, white.any isBreak⟩ := by
  induction words generalizing place fuel with
  | nil =>
      obtain ⟨fuel, rfl⟩ := Nat.exists_eq_add_one.mpr enough
      exact stops.rests fuel place rest inside
  | @cons gap word more isGap isWord words ih =>
      obtain ⟨fuel, rfl⟩ := Nat.exists_eq_add_one.mpr (Nat.zero_lt_of_lt enough)
      rw [flows_append, flows_append, Bool.and_eq_true, Bool.and_eq_true, List.append_assoc]
        at goesOn
      obtain ⟨gapFlows, wordFlows, moreFlows⟩ := goesOn
      rw [List.append_assoc, List.append_assoc] at rest
      obtain ⟨insideNext, step⟩ := plainMore_step margin isGap isWord gapFlows wordFlows
        (words.endsPlain stops.ends) rest inside
      have restNext : (place.skip (gap ++ word).length).rest = more ++ (white ++ after) :=
        Input.rest_skip_length (by rw [rest, List.append_assoc])
      have enoughNext : more.length < fuel := by
        have gapLength := List.length_pos_of_ne_nil isGap.nonempty
        rw [List.length_append, List.length_append] at enough
        omega
      rw [step fuel, ih moreFlows restNext insideNext enoughNext, Option.map_some,
        flowed_white isGap.each, List.nil_append, flowed_word isWord.notWhite isWord.nonempty,
        Input.skip_skip, ← List.length_append]
      simp only [List.append_assoc]

/-- A plain scalar is read as a whole, with the white space behind it. -/
theorem scanPlain_of_isPlain (margin : least ≤ 1) (stops : Stops least white after)
    (plain : IsPlain text (white ++ after)) (rest : place.rest = text ++ (white ++ after)) :
    scanPlain false least place =
      some ⟨flowed [] text, place.skip (text ++ white).length, white.any isBreak⟩ := by
  have goesOn := plain.goesOn
  obtain ⟨word, more, rfl, isWord, words⟩ := exists_word plain.nonempty plain.head plain.trimmed
  rw [flows_append, Bool.and_eq_true] at goesOn
  obtain ⟨wordFlows, moreFlows⟩ := goesOn
  rw [List.append_assoc] at rest
  have inside := Input.column_skip_pos rest (.inr isWord.nonempty) isWord.inline
  have isWordHere : plainWord false place.rest = word := by
    rw [rest]
    exact plainWord_append isWord.notWhite wordFlows (words.endsPlain stops.ends)
  have enough : more.length < place.rest.length + 1 := by
    rw [rest, List.length_append, List.length_append]
    omega
  rw [scanPlain, isWordHere, Bool.false_and, if_neg Bool.false_ne_true,
    plainMore_of_words margin stops words moreFlows (Input.rest_skip_length rest) inside enough,
    flowed_word isWord.notWhite isWord.nonempty, Input.skip_skip, ← List.length_append]
  simp only [List.append_assoc]
  rfl

end

end Yaml
end Stencil
