/-
Different faults are told differently.

The words at the start of a chain tell what kind of fault it is, since those of no kind
begin with those of another.  Behind them the parts of a chain come in a fixed order, and
each can be taken off: a quoted text ends at its last quote, whatever follows it, a
position ends in front of the first character that is no digit, and all else is one of a
few words.  A part of a template cannot be mistaken for the words around it, as it is
quoted.
-/

import Stencil.Compilation
import Stencil.Proofs.Text.Encoding
import Stencil.Proofs.Text.Pair

namespace Stencil
namespace Text

def ofLetter? (letter : Char) : Option Char :=
  match letter with
  | '0' => some '\x00'
  | 't' => some '\t'
  | 'r' => some '\r'
  | 'n' => some '\n'
  | '"' => some '"'
  | '\\' => some '\\'
  | _ => none

/-- The first character in the inside of a quoted text, and what follows it there.  A double
quote is the end of the inside. -/
def readQuoted? : Text → Option (Char × Text)
  | [] => none
  | '"' :: _ => none
  | '\\' :: 'u' :: '\x7b' :: rest =>
      (charOfHex? (rest.takeWhile fun c => c != '\x7d')).map fun c =>
        (c, (rest.dropWhile fun c => c != '\x7d').drop 1)
  | '\\' :: letter :: rest => (ofLetter? letter).map fun c => (c, rest)
  | c :: rest => some (c, rest)

theorem brace_not_mem_hex (number : Nat) : '\x7d' ∉ hex number := by
  intro member
  exact absurd (isSome_hexDigit?_of_mem_hex _ member) (by decide)

theorem readQuoted?_spellCodePoint (c : Char) (rest : Text) :
    readQuoted? (spellCodePoint c ++ rest) = some (c, rest) := by
  have spelled : spellCodePoint c ++ rest =
      '\\' :: 'u' :: '\x7b' :: (hex c.toNat ++ '\x7d' :: rest) := by
    rw [spellCodePoint, List.append_assoc, List.append_assoc]
    rfl
  have digits := takeWhile_ne_append (brace_not_mem_hex c.toNat) rest
  have behind := dropWhile_ne_append (brace_not_mem_hex c.toNat) rest
  rw [spelled, readQuoted?, digits, behind, charOfHex?_of_hexValue? (hexValue?_hex c.toNat)]
  rfl

theorem readQuoted?_plain {c : Char} (noQuote : c ≠ '"') (noBackslash : c ≠ '\\')
    (rest : Text) : readQuoted? (c :: rest) = some (c, rest) := by
  simp [readQuoted?, noBackslash]

theorem readQuoted?_quoteChar (c : Char) (rest : Text) :
    readQuoted? (quoteChar c ++ rest) = some (c, rest) := by
  unfold quoteChar
  split
  case h_7 noNul noTab noReturn noNewline noQuote noBackslash =>
    split
    · exact readQuoted?_spellCodePoint c rest
    · exact readQuoted?_plain noQuote noBackslash rest
  all_goals rfl

theorem quotedInside_append_inj {text other rest otherRest : Text}
    (same : text.flatMap quoteChar ++ '"' :: rest = other.flatMap quoteChar ++ '"' :: otherRest) :
    text = other ∧ rest = otherRest := by
  induction text generalizing other with
  | nil =>
      cases other with
      | nil => exact ⟨rfl, (List.cons.inj same).2⟩
      | cons d other =>
          have read := congrArg readQuoted? same
          rw [List.flatMap_cons, List.append_assoc, readQuoted?_quoteChar] at read
          cases read
  | cons c text ih =>
      have read := congrArg readQuoted? same
      rw [List.flatMap_cons, List.append_assoc, readQuoted?_quoteChar] at read
      cases other with
      | nil => cases read
      | cons d other =>
          rw [List.flatMap_cons, List.append_assoc, readQuoted?_quoteChar] at read
          obtain ⟨sameFirst, sameRest⟩ := Prod.mk.inj (Option.some.inj read)
          obtain ⟨rfl, sameEnd⟩ := ih sameRest
          exact ⟨by rw [sameFirst], sameEnd⟩

/-- Texts that begin with a quoted text agree only in it and behind it. -/
theorem quoted_append_inj {text other rest otherRest : Text}
    (same : quoted text ++ rest = quoted other ++ otherRest) :
    text = other ∧ rest = otherRest := by
  rw [quoted, quoted, List.cons_append, List.cons_append, List.append_assoc,
    List.append_assoc] at same
  exact quotedInside_append_inj (List.cons.inj same).2

theorem quoted_injective : Function.Injective quoted := by
  intro text other same
  have ended : quoted text ++ [] = quoted other ++ [] := by rw [same]
  exact (quoted_append_inj ended).1

theorem ofNat_injective : Function.Injective ofNat := by
  intro number other same
  have read := congrArg (fun digits => Nat.ofDigitChars 10 digits 0) same
  simpa only [ofNat, Nat.ofDigitChars_ten_toDigits] using read

theorem not_mem_ofNat {stop : Char} (noDigit : stop.isDigit = false) (number : Nat) :
    stop ∉ ofNat number := by
  intro member
  have isDigit : stop.isDigit = true :=
    Nat.isDigit_of_mem_toDigits (by decide) (by decide) member
  rw [noDigit] at isDigit
  cases isDigit

end Text

theorem Position.render_cons_inj {position other : Position} {stop : Char}
    {rest otherRest : Text} (noDigit : stop.isDigit = false)
    (same : position.render ++ stop :: rest = other.render ++ stop :: otherRest) :
    position = other ∧ rest = otherRest := by
  have colon (position : Position) (rest : Text) : position.render ++ rest =
      Text.ofNat position.line ++ ':' :: (Text.ofNat position.col ++ rest) := by
    rw [render, List.append_assoc, List.cons_append]
  rw [colon, colon] at same
  obtain ⟨sameLine, behind⟩ := Text.append_cons_inj_of_free
    (Text.not_mem_ofNat rfl position.line) (Text.not_mem_ofNat rfl other.line) same
  obtain ⟨sameCol, sameRest⟩ := Text.append_cons_inj_of_free
    (Text.not_mem_ofNat noDigit position.col) (Text.not_mem_ofNat noDigit other.col) behind
  exact ⟨congrArg₂ mk (Text.ofNat_injective sameLine) (Text.ofNat_injective sameCol), sameRest⟩

theorem Position.render_injective : Function.Injective Position.render := by
  intro position other same
  have ended : position.render ++ [' '] = other.render ++ [' '] := by rw [same]
  exact (render_cons_inj rfl ended).1

/-! ### Chains -/

theorem TokenKind.render_append_inj {kind other : TokenKind} {rest otherRest : Text}
    (same : kind.render ++ ' ' :: rest = other.render ++ ' ' :: otherRest) :
    kind = other ∧ rest = otherRest := by
  have oneWord (kind : TokenKind) : ' ' ∉ kind.render := by
    cases kind <;> decide
  obtain ⟨sameWord, sameRest⟩ := Text.append_cons_inj_of_free (oneWord kind) (oneWord other) same
  refine ⟨?_, sameRest⟩
  revert sameWord
  cases kind <;> cases other <;> decide

theorem BlockContext.render_append_inj {context other : BlockContext} {rest otherRest : Text}
    (same : context.render ++ rest = other.render ++ otherRest) :
    context = other ∧ rest = otherRest := by
  cases context with
  | topLevel =>
      cases other with
      | topLevel => exact ⟨rfl, List.append_cancel_left same⟩
      | func => cases (List.cons.inj same).1
  | func =>
      cases other with
      | topLevel => cases (List.cons.inj same).1
      | func => exact ⟨rfl, List.append_cancel_left same⟩

theorem Expected.render_injective : Function.Injective Expected.render := by
  have apart (kind : TokenKind) : (token kind).render ≠ textOrTag.render := by
    cases kind <;> decide
  intro expected other same
  cases expected with
  | token kind =>
      cases other with
      | token otherKind =>
          have spaced : kind.render ++ [' '] = otherKind.render ++ [' '] :=
            congrArg (fun word => word ++ [' ']) same
          rw [(TokenKind.render_append_inj spaced).1]
      | textOrTag => exact absurd same (apart kind)
  | textOrTag =>
      cases other with
      | token otherKind => exact absurd same.symm (apart otherKind)
      | textOrTag => rfl

theorem SignatureError.message_injective : Function.Injective SignatureError.message := by
  intro cause other same
  unfold message at same
  cases cause with
  | missingOpenParen raw =>
      cases other with
      | missingOpenParen otherRaw =>
          rw [Text.quoted_injective (List.append_cancel_left same)]
      | missingCloseParen otherRaw => simp at same
  | missingCloseParen raw =>
      cases other with
      | missingOpenParen otherRaw => simp at same
      | missingCloseParen otherRaw =>
          rw [Text.quoted_injective (List.append_cancel_left same)]

theorem Token.render_injective : Function.Injective Token.render := by
  rintro ⟨kind, value, position⟩ ⟨otherKind, otherValue, otherPosition⟩ same
  simp only [render, List.append_assoc, List.cons_append] at same
  obtain ⟨sameKind, same⟩ := TokenKind.render_append_inj same
  obtain ⟨sameValue, same⟩ := Text.quoted_append_inj same
  have samePosition := Position.render_injective (List.append_cancel_left same)
  rw [sameKind, sameValue, samePosition]

/-- The kinds of faults by how they are told, those of tags by themselves. -/
inductive Complaint where
  | unexpectedTag
  | unexpectedToken
  | missingToken
  | unclosedFunc
  | signature
  | unterminatedTag
  | invalidTagName
  | emit
deriving DecidableEq

def Complaint.words : Complaint → Text
  | unexpectedTag => "unexpected tag ".toList
  | unexpectedToken => "unexpected token ".toList
  | missingToken => "cannot find token ".toList
  | unclosedFunc => "func ".toList
  | signature => "malformed func signature at ".toList
  | unterminatedTag => "tag opened at ".toList
  | invalidTagName => "invalid tag name at ".toList
  | emit => "cannot write generated code".toList

theorem Complaint.eq_of_words_prefix {complaint other : Complaint}
    (begins : complaint.words <+: other.words) : complaint = other := by
  revert begins
  unfold words
  cases complaint <;> cases other <;> simp

namespace CompileError

/-- A fault is told by the words of a complaint and by what stands behind them. -/
inductive Told : CompileError → Complaint → Text → Prop
  | unexpectedTag (tag : Text) (context : BlockContext) (position : Position) :
      Told (.unexpectedTag tag context position) .unexpectedTag
        (Text.quoted tag ++ (" found ".toList ++ (context.render ++ (" at ".toList ++
          position.render))))
  | unexpectedToken (found : TokenKind) (value : Text) (expected : Expected)
      (context : BlockContext) (position : Position) :
      Told (.unexpectedToken found value expected context position) .unexpectedToken
        (found.render ++ ' ' :: (Text.quoted value ++ ' ' :: (context.render ++
          (" at ".toList ++ (position.render ++ ',' :: (" expecting ".toList ++
            expected.render))))))
  | missingToken (expected : TokenKind) (after : Position) :
      Told (.missingToken expected after) .missingToken
        (expected.render ++ ' ' :: ("after ".toList ++ (after.render ++
          ':' :: " input ended".toList)))
  | unclosedFunc (name : Text) (position : Position) :
      Told (.unclosedFunc name position) .unclosedFunc
        (Text.quoted name ++ (" opened at ".toList ++ (position.render ++
          ' ' :: "is never closed with endfunc".toList)))
  | signature (cause : SignatureError) (position : Position) :
      Told (.signature cause position) .signature
        (position.render ++ ':' :: ' ' :: cause.message)
  | unterminatedTag (position : Position) :
      Told (.scan (.unterminatedTag position)) .unterminatedTag
        (position.render ++ ' ' :: "is not closed with %\x7d".toList)
  | invalidTagName (found : Text) (position : Position) :
      Told (.scan (.invalidTagName found position)) .invalidTagName
        (position.render ++ ':' :: ' ' :: Text.quoted found)
  | emit :
      Told .emit .emit
        (": ".toList ++ "an error occurred when formatting an argument".toList)

theorem exists_told (error : CompileError) :
    ∃ complaint details, Told error complaint details := by
  cases error with
  | scan fault =>
      cases fault with
      | unterminatedTag position => exact ⟨_, _, .unterminatedTag position⟩
      | invalidTagName found position => exact ⟨_, _, .invalidTagName found position⟩
  | unexpectedTag tag context position => exact ⟨_, _, .unexpectedTag tag context position⟩
  | unexpectedToken found value expected context position =>
      exact ⟨_, _, .unexpectedToken found value expected context position⟩
  | missingToken expected after => exact ⟨_, _, .missingToken expected after⟩
  | unclosedFunc name position => exact ⟨_, _, .unclosedFunc name position⟩
  | signature cause position => exact ⟨_, _, .signature cause position⟩
  | emit => exact ⟨_, _, .emit⟩

theorem Told.chain_eq {error : CompileError} {complaint : Complaint} {details : Text}
    (told : Told error complaint details) : error.chain = complaint.words ++ details := by
  unfold chain cause? message ScanError.message
  cases told with
  | _ => simp only [List.append_assoc]; rfl

theorem Told.unique {error other : CompileError} {complaint : Complaint} {details : Text}
    (told : Told error complaint details) (otherTold : Told other complaint details) :
    error = other := by
  generalize same : details = otherDetails at otherTold
  cases told with
  | unexpectedTag tag context position =>
      cases otherTold with
      | unexpectedTag otherTag otherContext otherPosition =>
          obtain ⟨sameTag, behind⟩ := Text.quoted_append_inj same
          obtain ⟨sameContext, behind⟩ :=
            BlockContext.render_append_inj (List.append_cancel_left behind)
          have samePosition := Position.render_injective (List.append_cancel_left behind)
          rw [sameTag, sameContext, samePosition]
  | unexpectedToken found value expected context position =>
      cases otherTold with
      | unexpectedToken otherFound otherValue otherExpected otherContext otherPosition =>
          obtain ⟨sameFound, behind⟩ := TokenKind.render_append_inj same
          obtain ⟨sameValue, behind⟩ := Text.quoted_append_inj behind
          obtain ⟨sameContext, behind⟩ := BlockContext.render_append_inj (List.cons.inj behind).2
          obtain ⟨samePosition, behind⟩ :=
            Position.render_cons_inj rfl (List.append_cancel_left behind)
          have sameExpected := Expected.render_injective (List.append_cancel_left behind)
          rw [sameFound, sameValue, sameContext, samePosition, sameExpected]
  | missingToken expected after =>
      cases otherTold with
      | missingToken otherExpected otherAfter =>
          obtain ⟨sameExpected, behind⟩ := TokenKind.render_append_inj same
          obtain ⟨sameAfter, -⟩ := Position.render_cons_inj rfl (List.append_cancel_left behind)
          rw [sameExpected, sameAfter]
  | unclosedFunc name position =>
      cases otherTold with
      | unclosedFunc otherName otherPosition =>
          obtain ⟨sameName, behind⟩ := Text.quoted_append_inj same
          obtain ⟨samePosition, -⟩ :=
            Position.render_cons_inj rfl (List.append_cancel_left behind)
          rw [sameName, samePosition]
  | signature cause position =>
      cases otherTold with
      | signature otherCause otherPosition =>
          obtain ⟨samePosition, behind⟩ := Position.render_cons_inj rfl same
          rw [samePosition, SignatureError.message_injective (List.cons.inj behind).2]
  | unterminatedTag position =>
      cases otherTold with
      | unterminatedTag otherPosition => rw [(Position.render_cons_inj rfl same).1]
  | invalidTagName found position =>
      cases otherTold with
      | invalidTagName otherFound otherPosition =>
          obtain ⟨samePosition, behind⟩ := Position.render_cons_inj rfl same
          rw [samePosition, Text.quoted_injective (List.cons.inj behind).2]
  | emit =>
      cases otherTold with
      | emit => rfl

theorem chain_injective : Function.Injective chain := by
  intro error other same
  obtain ⟨complaint, details, told⟩ := error.exists_told
  obtain ⟨otherComplaint, otherDetails, otherTold⟩ := other.exists_told
  rw [told.chain_eq, otherTold.chain_eq] at same
  have sameComplaint : complaint = otherComplaint := by
    rcases List.append_eq_append_iff.mp same with ⟨more, longer, -⟩ | ⟨more, longer, -⟩
    · exact Complaint.eq_of_words_prefix ⟨more, longer.symm⟩
    · exact (Complaint.eq_of_words_prefix ⟨more, longer.symm⟩).symm
  subst sameComplaint
  obtain rfl := List.append_cancel_left same
  exact told.unique otherTold

end CompileError

/-- What is told of a fault with its causes determines the fault, with all texts and positions
in it, and how a token is shown determines the token. -/
theorem diagnostics_determine_faults :
    (∀ error other : CompileError, error.chain = other.chain ↔ error = other) ∧
      ∀ token other : Token, token.render = other.render ↔ token = other :=
  ⟨fun _ _ => CompileError.chain_injective.eq_iff, fun _ _ => Token.render_injective.eq_iff⟩

end Stencil
