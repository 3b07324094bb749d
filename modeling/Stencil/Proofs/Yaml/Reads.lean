/-
Readers at the margin of a YAML text, step by step.

At the start of a part the reader takes its token and goes on behind it; what it gives in the
end depends on that next part only, so that white space in front changes nothing.  A plain
scalar in front of a colon becomes a key, and opens the mapping unless it is open already.
-/

import Stencil.Proofs.Yaml.Plain

namespace Stencil
namespace Yaml
namespace Reader

/-- A reader gives tokens in the end, however many steps it may take beyond those it needs. -/
def Reads (reader : Reader) (tokens : List Token) : Prop :=
  ∃ next, reader.nextPart? = some next ∧
    ∀ fuel, next.input.rest.length < fuel → readAll fuel reader = some tokens

section

variable {reader other next after : Reader} {tokens : List Token} {c : Char} {following : Text}

theorem length_of_nextPart? (part : reader.nextPart? = some next) :
    next.input.rest.length ≤ reader.input.rest.length := by
  obtain ⟨kept, dropped, rfl⟩ := Option.map_eq_some_iff.mp part
  have sameInput : ∀ deeper, (kept.closeBlocks deeper).input = kept.input := by
    intro deeper
    rw [closeBlocks]
    cases kept.bracketed <;> rfl
  rw [dropOldKeys?] at dropped
  split at dropped
  · cases dropped
  · cases dropped
    rw [sameInput, Input.rest_skip, List.length_drop]
    exact Nat.sub_le _ _

theorem Reads.readAll {fuel : Nat} (reads : reader.Reads tokens)
    (enough : reader.input.rest.length < fuel) : readAll fuel reader = some tokens := by
  obtain ⟨next, part, gives⟩ := reads
  exact gives fuel (Nat.lt_of_le_of_lt (length_of_nextPart? part) enough)

theorem Reads.of_nextPart?_eq (reads : other.Reads tokens)
    (same : other.nextPart? = reader.nextPart?) : reader.Reads tokens := by
  obtain ⟨next, part, gives⟩ := reads
  refine ⟨next, same.symm.trans part, fun fuel enough => ?_⟩
  have given := gives fuel enough
  cases fuel with
  | zero => exact absurd enough (Nat.not_lt_zero _)
  | succ fuel =>
      rw [Reader.readAll] at given ⊢
      rwa [← same]

theorem Reads.step (part : reader.nextPart? = some reader)
    (rest : reader.input.rest = c :: following)
    (token : reader.readToken c following = some after)
    (shorter : after.input.rest.length ≤ following.length) (reads : after.Reads tokens) :
    reader.Reads tokens := by
  refine ⟨reader, part, fun fuel enough => ?_⟩
  rw [rest, List.length_cons] at enough
  obtain ⟨fuel, rfl⟩ := Nat.exists_eq_add_one.mpr (Nat.zero_lt_of_lt enough)
  rw [Reader.readAll, part]
  dsimp only
  rw [rest]
  dsimp only
  rw [token]
  exact reads.readAll (by omega)

theorem Reads.ends (part : reader.nextPart? = some reader) (rest : reader.input.rest = [])
    (closed : (reader.closeBlocks fun _ => true).dropKey? = some after) :
    reader.Reads after.tokens.reverse := by
  refine ⟨reader, part, fun fuel enough => ?_⟩
  obtain ⟨fuel, rfl⟩ := Nat.exists_eq_add_one.mpr (Nat.zero_lt_of_lt enough)
  rw [Reader.readAll, part]
  dsimp only
  rw [rest]
  dsimp only
  rw [closed, Option.map_some]

end

/-- A reader outside of brackets, with a mapping at the margin open or with no collection. -/
structure AtMargin (opened : Bool) (reader : Reader) : Prop where
  unbracketed : reader.outerKeys = []
  indents : reader.indents = if opened then [0] else []

section

variable {opened : Bool} {reader : Reader} {c : Char} {text behind following white : Text}

theorem AtMargin.bracketed (margin : reader.AtMargin opened) : reader.bracketed = false := by
  rw [Reader.bracketed, margin.unbracketed]
  rfl

theorem AtMargin.closeBlocks (margin : reader.AtMargin opened) :
    (reader.closeBlocks fun indent => decide (reader.input.column < indent)) = reader := by
  rw [Reader.closeBlocks, margin.bracketed, if_neg Bool.false_ne_true]
  obtain ⟨input, tokens, indents, key, outerKeys, keyAllowed⟩ := reader
  obtain ⟨-, rfl⟩ := margin
  cases opened with
  | false => rfl
  | true => simp

theorem AtMargin.dropOldKeys? (margin : reader.AtMargin opened)
    (young : reader.key.any (·.isOver reader.input) = false) :
    reader.dropOldKeys? = some reader := by
  obtain ⟨input, tokens, indents, key, outerKeys, keyAllowed⟩ := reader
  obtain ⟨rfl, -⟩ := margin
  simp [Reader.dropOldKeys?, young]

theorem nextPart?_at_margin (margin : reader.AtMargin opened)
    (gap : gapLength reader.bracketed reader.keyAllowed false (reader.input.column == 0)
      reader.input.rest = (0, reader.keyAllowed))
    (young : reader.key.any (·.isOver reader.input) = false) :
    reader.nextPart? = some reader := by
  rw [nextPart?, gap]
  change reader.dropOldKeys?.map _ = _
  rw [margin.dropOldKeys? young, Option.map_some, margin.closeBlocks]

theorem startsPlain_of_beginsPlain (begins : beginsPlain (c :: following) = true) :
    startsPlain false (c :: following) = true := by
  obtain ⟨notWhite, apart, goesOn⟩ := beginsPlain_cons begins
  rw [startsPlain]
  split
  · next isDash =>
      have goesOn := goesOn (.inl isDash)
      cases following with
      | nil => cases goesOn
      | cons d following =>
          have notBlank : isBlank d = false := (Bool.or_eq_false_iff.mp goesOn).1
          rw [List.head?_cons, Option.any_some, notBlank]
          rfl
  · split
    · next atWord =>
        rw [goesOn (.inr atWord)]
        rfl
    · have kinds : indicators = ",[]\x7b\x7d".toList ++ "#&*!|>'\"%@\x60".toList := by decide
      rw [kinds, List.mem_append, not_or] at apart
      have noBracket : isBracketIndicator c = false := by
        simpa [isBracketIndicator, and_assoc] using apart.1
      rw [notWhite, noBracket, Bool.eq_false_iff.mpr fun present =>
        apart.2 (List.contains_iff_mem.mp present)]
      rfl

theorem readToken_plain (margin : reader.AtMargin opened)
    (begins : beginsPlain (c :: following) = true) (unmarked : reader.input.atMarker = false) :
    reader.readToken c following = reader.readPlain := by
  obtain ⟨noStart, noEnd⟩ := Bool.or_eq_false_iff.mp unmarked
  obtain ⟨notWhite, apart, goesOn⟩ := beginsPlain_cons begins
  have ne : ∀ d ∈ indicators, c ≠ d := fun d present => (ne_of_mem_of_not_mem present apart).symm
  have inWord : c = '-' ∨ c = '?' ∨ c = ':' → ¬ endsWord following = true := by
    intro atWord ends
    rw [goesOn atWord] at ends
    cases ends
  have starts := startsPlain_of_beginsPlain begins
  rw [readToken, noStart, noEnd, margin.bracketed,
    if_neg fun directive => ne '%' (by decide) directive.1, if_neg Bool.false_ne_true,
    if_neg Bool.false_ne_true, if_neg (ne '[' (by decide)), if_neg (ne '\x7b' (by decide)),
    if_neg (ne ']' (by decide)), if_neg (ne '\x7d' (by decide)), if_neg (ne ',' (by decide)),
    if_neg fun entry => inWord (.inl entry.1) entry.2,
    if_neg fun key => inWord (.inr (.inl key.1)) key.2,
    if_neg fun value => inWord (.inr (.inr value.1)) value.2,
    if_neg (ne '*' (by decide)), if_neg (ne '&' (by decide)), if_neg (ne '!' (by decide)),
    if_neg fun literal => ne '|' (by decide) literal.1,
    if_neg fun folded => ne '>' (by decide) folded.1, if_neg (ne '\'' (by decide)),
    if_neg (ne '"' (by decide)), if_pos starts]

def behindName (reader : Reader) (name : Text) : Reader :=
  { reader with
    input := reader.input.skip name.length
    tokens := .scalar .plain name :: reader.tokens
    key := some {
      required := !reader.bracketed && reader.indents.head? == some reader.input.column
      tokens := reader.tokens.length
      input := reader.input }
    keyAllowed := false }

theorem readPlain_name {name : Text} (margin : reader.AtMargin opened) (free : reader.key = none)
    (allowed : reader.keyAllowed = true) (plain : IsPlain name (':' :: behind))
    (inline : ∀ c ∈ name, isBreak c = false) (ends : endsWord behind = true)
    (rest : reader.input.rest = name ++ ':' :: behind) :
    reader.readPlain = some (reader.behindName name) := by
  have least : reader.least ≤ 1 := by
    rw [Reader.least, margin.indents]
    cases opened <;> decide
  have scanned := scanPlain_of_isPlain least (stops_of_colon ends) plain rest
  rw [flowed_inline (List.forall_mem_nil _) inline, List.append_nil] at scanned
  rw [readPlain, noteKey?, if_pos allowed, dropKey?, free, Option.any_none,
    if_neg Bool.false_ne_true, Option.map_some]
  change (scanPlain reader.bracketed reader.least reader.input).map _ = _
  rw [margin.bracketed, scanned]
  rfl

def behindKey (opened : Bool) (reader : Reader) (name : Text) : Reader :=
  { reader with
    input := reader.input.skip (name.length + 1)
    tokens := .value :: .scalar .plain name :: .key ::
      ((if opened then [] else [.blockMapping]) ++ reader.tokens)
    indents := [0]
    key := none
    keyAllowed := false }

theorem rest_behindKey {name : Text} (rest : reader.input.rest = name ++ ':' :: following) :
    (reader.behindKey opened name).input.rest = following := by
  rw [behindKey, Input.rest_skip, rest, List.drop_length_add_append]
  rfl

theorem column_behindKey_pos {name : Text} (rest : reader.input.rest = name ++ ':' :: following) :
    0 < (reader.behindKey opened name).input.column := by
  rw [behindKey, Input.skip_concat rest, Input.column_behind]
  exact Nat.succ_pos _

theorem readValue_name {name : Text} (margin : reader.AtMargin opened)
    (atStart : reader.input.column = 0) :
    (reader.behindName name).readValue = some (reader.behindKey opened name) := by
  have taken : (reader.tokens.length + 1) - reader.tokens.length = 1 := Nat.add_sub_cancel_left ..
  have opens : (reader.behindName name).opensBlock reader.input.column = !opened := by
    rw [opensBlock, atStart]
    change (!reader.bracketed && reader.indents.head?.all _) = _
    rw [margin.bracketed, margin.indents]
    cases opened <;> rfl
  have tokens : (reader.behindName name).tokens = .scalar .plain name :: reader.tokens := rfl
  rw [readValue]
  change some (((reader.behindName name).confirmKey _).take 1 .value) = _
  rw [confirmKey]
  dsimp only
  rw [opens, tokens, List.length_cons, taken]
  have place : (reader.input.skip name.length).skip 1 = reader.input.skip (name.length + 1) :=
    Input.skip_skip _ _
  have indents := margin.indents
  cases opened <;> simp [take, push, behindKey, behindName, atStart, indents, place]

theorem readToken_colon (unbracketed : reader.bracketed = false)
    (unmarked : reader.input.atMarker = false) (ends : endsWord following = true) :
    reader.readToken ':' following = reader.readValue := by
  obtain ⟨noStart, noEnd⟩ := Bool.or_eq_false_iff.mp unmarked
  rw [readToken, noStart, noEnd, unbracketed, ends]
  simp

theorem readPlain_value {value after : Text} (margin : reader.AtMargin true)
    (forbidden : reader.keyAllowed = false) (plain : IsPlain value (white ++ after))
    (stops : Stops 1 white after) (rest : reader.input.rest = value ++ (white ++ after)) :
    reader.readPlain =
      some ((reader.push (.scalar .plain (flowed [] value))).pass (value ++ white).length
        (white.any isBreak)) := by
  have least : reader.least = 1 := by
    rw [Reader.least, margin.indents]
    rfl
  have scanned := scanPlain_of_isPlain le_rfl stops plain rest
  rw [readPlain, noteKey?, forbidden, if_neg Bool.false_ne_true]
  dsimp only
  rw [margin.bracketed, least, scanned]
  rfl

theorem AtMargin.push (margin : reader.AtMargin opened) (token : Token) :
    (reader.push token).AtMargin opened :=
  ⟨margin.unbracketed, margin.indents⟩

theorem AtMargin.pass (margin : reader.AtMargin opened) (count : Nat) (allowed : Bool) :
    (reader.pass count allowed).AtMargin opened :=
  ⟨margin.unbracketed, margin.indents⟩

theorem reads_name {name : Text} {tokens : List Token} (margin : reader.AtMargin opened)
    (free : reader.key = none) (allowed : reader.keyAllowed = true)
    (atStart : reader.input.column = 0) (unmarked : reader.input.atMarker = false)
    (plain : IsPlain name (':' :: following)) (inline : ∀ c ∈ name, isBreak c = false)
    (bounded : Text.byteLength name ≤ keyLimit) (ends : endsWord following = true)
    (rest : reader.input.rest = name ++ ':' :: following)
    (reads : (reader.behindKey opened name).Reads tokens) : reader.Reads tokens := by
  have restColon : (reader.behindName name).input.rest = ':' :: following :=
    Input.rest_skip_length rest
  obtain ⟨line, offset⟩ := Input.line_offset_skip rest inline
  have atColon : (reader.behindName name).Reads tokens := by
    have marginColon : (reader.behindName name).AtMargin opened :=
      ⟨margin.unbracketed, margin.indents⟩
    have inside : 0 < (reader.behindName name).input.column :=
      Input.column_skip_pos rest (.inr plain.nonempty) (last_of_forall inline)
    have young : (reader.behindName name).key.any (·.isOver (reader.behindName name).input) =
        false := by
      rw [behindName, Option.any_some, KeyStart.isOver, line, offset]
      simp
      omega
    refine .step (nextPart?_at_margin marginColon ?_ young) restColon ?_ ?_ reads
    · rw [restColon]
      exact gapLength_of_part (by decide) (by decide) (by decide)
    · rw [readToken_colon marginColon.bracketed (Input.atMarker_of_column_pos inside) ends]
      exact readValue_name margin atStart
    · rw [rest_behindKey rest]
  obtain ⟨c, more, rfl⟩ := List.exists_cons_of_ne_nil plain.nonempty
  refine .step (nextPart?_at_margin margin ?_ ?_) rest ?_ ?_ atColon
  · rw [rest]
    exact gapLength_of_isPlain plain
  · rw [free]
    rfl
  · rw [readToken_plain margin plain.begins unmarked]
    exact readPlain_name margin free allowed plain inline ends rest
  · change _ ≤ (more ++ ':' :: following).length
    rw [restColon, List.length_append]
    exact Nat.le_add_left _ _

theorem reads_value {value after : Text} {tokens : List Token} (margin : reader.AtMargin true)
    (free : reader.key = none) (forbidden : reader.keyAllowed = false)
    (inside : 0 < reader.input.column) (plain : IsPlain value (white ++ after))
    (stops : Stops 1 white after) (rest : reader.input.rest = value ++ (white ++ after))
    (reads : ((reader.push (.scalar .plain (flowed [] value))).pass (value ++ white).length
      (white.any isBreak)).Reads tokens) :
    reader.Reads tokens := by
  have token := readPlain_value margin forbidden plain stops rest
  have restAfter : (reader.input.skip (value ++ white).length).rest = after :=
    Input.rest_skip_length (by rw [rest, List.append_assoc])
  obtain ⟨c, more, rfl⟩ := List.exists_cons_of_ne_nil plain.nonempty
  refine .step (nextPart?_at_margin margin ?_ ?_) rest ?_ ?_ reads
  · rw [rest]
    exact gapLength_of_isPlain plain
  · rw [free]
    rfl
  · rw [readToken_plain margin plain.begins (Input.atMarker_of_column_pos inside)]
    exact token
  · change _ ≤ (more ++ (white ++ after)).length
    rw [pass, push, restAfter, ← List.append_assoc, List.length_append]
    exact Nat.le_add_left _ _

end

end Reader
end Yaml
end Stencil
