/-
What Go reads from a quoted text.

An interpreted literal ends at its first double quote that no backslash escapes, and its
escapes denote bytes or code points.  A quoted text is read character by character, whatever
stands behind it: each character is written so that its own bytes are read, and none of them
is a quote by itself, a newline or another control character.
-/

import Stencil.Go
import Stencil.Proofs.Text.Encoding

namespace Stencil
namespace Go

def letterEscape? (c : Char) : Option Char :=
  match c with
  | '"' => some '"'
  | '\\' => some '\\'
  | 'n' => some '\n'
  | 'r' => some '\r'
  | 't' => some '\t'
  | _ => none

def putBefore (bytes : Option (List UInt8)) (later : Option (List UInt8 × Text)) :
    Option (List UInt8 × Text) :=
  bytes.bind fun first => later.map fun read => (first ++ read.1, read.2)

/-- The bytes of a literal behind its opening quote, and what stands behind the closing one. -/
def readInside? : Text → Option (List UInt8 × Text)
  | [] => none
  | '"' :: rest => some ([], rest)
  | '\n' :: _ => none
  | '\\' :: 'x' :: a :: b :: rest =>
      putBefore ((Text.hexValue? [a, b]).map fun value => [UInt8.ofNat value]) (readInside? rest)
  | '\\' :: 'u' :: a :: b :: c :: d :: rest =>
      putBefore ((Text.charOfHex? [a, b, c, d]).map String.utf8EncodeChar) (readInside? rest)
  | '\\' :: c :: rest => putBefore ((letterEscape? c).map String.utf8EncodeChar) (readInside? rest)
  | c :: rest => putBefore (some (String.utf8EncodeChar c)) (readInside? rest)

def readInterpreted? : Text → Option (List UInt8 × Text)
  | '"' :: rest => readInside? rest
  | _ => none

section

variable (rest : Text)

theorem readInside?_letter {letter c : Char} (denotes : letterEscape? letter = some c) :
    readInside? ('\\' :: letter :: rest) =
      putBefore (some (String.utf8EncodeChar c)) (readInside? rest) := by
  have notByte : letter ≠ 'x' := by
    rintro rfl
    cases denotes
  have notPoint : letter ≠ 'u' := by
    rintro rfl
    cases denotes
  simp [readInside?, notByte, notPoint, denotes]

theorem readInside?_byte {digits : Text} {value : Nat} (length : digits.length = 2)
    (denotes : Text.hexValue? digits = some value) :
    readInside? ('\\' :: 'x' :: digits ++ rest) =
      putBefore (some [UInt8.ofNat value]) (readInside? rest) := by
  obtain ⟨a, b, rfl⟩ := List.length_eq_two.mp length
  simp [readInside?, denotes]

theorem readInside?_point {digits : Text} {c : Char} (length : digits.length = 4)
    (denotes : Text.charOfHex? digits = some c) :
    readInside? ('\\' :: 'u' :: digits ++ rest) =
      putBefore (some (String.utf8EncodeChar c)) (readInside? rest) := by
  match digits, length with
  | [first, second, third, fourth], _ => simp [readInside?, denotes]

theorem readInside?_plain {c : Char} (noQuote : c ≠ '"') (noBackslash : c ≠ '\\')
    (noNewline : c ≠ '\n') :
    readInside? (c :: rest) = putBefore (some (String.utf8EncodeChar c)) (readInside? rest) := by
  simp [readInside?, noBackslash]

end

/-- Every double quote is escaped by a backslash that is not escaped itself. -/
inductive QuotesEscaped : Text → Prop
  | nil : QuotesEscaped []
  | plain {c : Char} {rest : Text} (noQuote : c ≠ '"') (noBackslash : c ≠ '\\')
      (later : QuotesEscaped rest) : QuotesEscaped (c :: rest)
  | escape {c : Char} {rest : Text} (later : QuotesEscaped rest) :
      QuotesEscaped ('\\' :: c :: rest)

def IsControl (c : Char) : Prop :=
  c.toNat < 0x20 ∨ 0x7f ≤ c.toNat ∧ c.toNat ≤ 0x9f

inductive Quotes : Char → Text → Prop
  | letter {c letter : Char} (denotes : letterEscape? letter = some c) :
      Quotes c ['\\', letter]
  | byte {c : Char} (control : c.toNat < 0x20 ∨ c.toNat = 0x7f) :
      Quotes c ('\\' :: 'x' :: Text.hexPadded 2 c.toNat)
  | point {c : Char} (control : 0x80 ≤ c.toNat ∧ c.toNat ≤ 0x9f) :
      Quotes c ('\\' :: 'u' :: Text.hexPadded 4 c.toNat)
  | plain {c : Char} (noQuote : c ≠ '"') (noBackslash : c ≠ '\\') (visible : ¬ IsControl c) :
      Quotes c [c]

theorem quotes_quoteChar (c : Char) : Quotes c (quoteChar c) := by
  unfold quoteChar
  split
  · exact .letter rfl
  · exact .letter rfl
  · exact .letter rfl
  · exact .letter rfl
  · exact .letter rfl
  · rename_i noQuote noBackslash _ _ _
    split
    · rename_i control
      exact .byte control
    · rename_i noByte
      split
      · rename_i control
        exact .point control
      · rename_i noPoint
        refine .plain noQuote noBackslash ?_
        unfold IsControl
        omega

namespace Quotes

variable {c : Char} {piece : Text}

theorem utf8EncodeChar_of_ascii (ascii : c.toNat < 0x80) :
    String.utf8EncodeChar c = [UInt8.ofNat c.toNat] := by
  rw [String.utf8EncodeChar, Char.toNat_val]
  exact if_pos (Nat.le_of_lt_succ ascii)

theorem reads (quotes : Quotes c piece) (rest : Text) :
    readInside? (piece ++ rest) =
      putBefore (some (String.utf8EncodeChar c)) (readInside? rest) := by
  cases quotes with
  | letter denotes => exact readInside?_letter rest denotes
  | byte control =>
      have ascii : c.toNat < 0x80 := by omega
      rw [utf8EncodeChar_of_ascii ascii]
      apply readInside?_byte rest
      · exact Text.length_hexPadded (by decide) (by omega)
      · exact Text.hexValue?_hexPadded 2 c.toNat
  | point control =>
      apply readInside?_point rest
      · exact Text.length_hexPadded (by decide) (by omega)
      · exact Text.charOfHex?_of_hexValue? (Text.hexValue?_hexPadded 4 c.toNat)
  | plain noQuote noBackslash visible =>
      refine readInside?_plain rest noQuote noBackslash ?_
      rintro rfl
      exact visible (Or.inl (by decide))

theorem visible_of_hexDigit? (isDigit : (Text.hexDigit? c).isSome = true) :
    c ≠ '"' ∧ c ≠ '\\' ∧ ¬ IsControl c := by
  refine ⟨?_, ?_, ?_⟩
  · rintro rfl
    revert isDigit
    decide
  · rintro rfl
    revert isDigit
    decide
  · have zero : '0'.toNat = 0x30 := rfl
    have last : 'f'.toNat = 0x66 := rfl
    have bounds := Text.bounds_of_hexDigit? isDigit
    unfold IsControl
    omega

theorem letter_visible {letter : Char} (denotes : letterEscape? letter = some c) :
    ¬ IsControl letter := by
  unfold letterEscape? at denotes
  unfold IsControl
  split at denotes
  case h_6 => cases denotes
  all_goals decide

theorem visible (quotes : Quotes c piece) : ∀ d ∈ piece, ¬ IsControl d := by
  have backslash : ¬ IsControl '\\' := by
    unfold IsControl
    decide
  have digits (width number : Nat) : ∀ d ∈ Text.hexPadded width number, ¬ IsControl d :=
    fun d member => (visible_of_hexDigit? (Text.isSome_hexDigit?_of_mem_hexPadded d member)).2.2
  cases quotes with
  | letter denotes =>
      simp only [List.forall_mem_cons]
      exact ⟨backslash, letter_visible denotes, List.forall_mem_nil _⟩
  | byte control =>
      simp only [List.forall_mem_cons]
      exact ⟨backslash, by unfold IsControl; decide, digits _ _⟩
  | point control =>
      simp only [List.forall_mem_cons]
      exact ⟨backslash, by unfold IsControl; decide, digits _ _⟩
  | plain noQuote noBackslash visible =>
      simp only [List.forall_mem_cons]
      exact ⟨visible, List.forall_mem_nil _⟩

theorem escaped_hexPadded (width number : Nat) {rest : Text} (later : QuotesEscaped rest) :
    QuotesEscaped (Text.hexPadded width number ++ rest) := by
  have digits := @Text.isSome_hexDigit?_of_mem_hexPadded width number
  generalize Text.hexPadded width number = run at digits ⊢
  induction run with
  | nil => exact later
  | cons d run ih =>
      rw [List.forall_mem_cons] at digits
      have plain := visible_of_hexDigit? digits.1
      exact .plain plain.1 plain.2.1 (ih digits.2)

theorem escaped (quotes : Quotes c piece) {rest : Text} (later : QuotesEscaped rest) :
    QuotesEscaped (piece ++ rest) := by
  cases quotes with
  | letter denotes => exact .escape later
  | byte control => exact .escape (escaped_hexPadded 2 c.toNat later)
  | point control => exact .escape (escaped_hexPadded 4 c.toNat later)
  | plain noQuote noBackslash visible => exact .plain noQuote noBackslash later

end Quotes

theorem readInside?_flatMap (text rest : Text) :
    readInside? (text.flatMap quoteChar ++ '"' :: rest) = some (text.utf8, rest) := by
  induction text with
  | nil => rfl
  | cons c text ih =>
      rw [List.flatMap_cons, List.append_assoc, (quotes_quoteChar c).reads, ih]
      rfl

theorem readInterpreted?_quoted (text rest : Text) :
    readInterpreted? (quoted text ++ rest) = some (text.utf8, rest) := by
  have inside := readInside?_flatMap text rest
  rw [quoted, List.cons_append, List.append_assoc]
  exact inside

theorem quotesEscaped_flatMap (text : Text) : QuotesEscaped (text.flatMap quoteChar) := by
  induction text with
  | nil => exact .nil
  | cons c text ih => exact (quotes_quoteChar c).escaped ih

theorem visible_flatMap (text : Text) : ∀ c ∈ text.flatMap quoteChar, ¬ IsControl c := by
  intro c member
  obtain ⟨d, -, inPiece⟩ := List.mem_flatMap.mp member
  exact (quotes_quoteChar d).visible c inPiece

/-- A quoted text stands between two double quotes, and between them are neither newlines
nor other control characters nor quotes that are not escaped.  As a literal it denotes the
bytes of the text and ends at its last quote, whatever follows, so that different texts are
quoted differently. -/
theorem quoted_denotes_text (text : Text) :
    (∃ inside, quoted text = '"' :: (inside ++ ['"']) ∧ QuotesEscaped inside ∧
      '\n' ∉ inside ∧ ∀ c ∈ inside, ¬ IsControl c) ∧
    (∀ rest, ∃ bytes, readInterpreted? (quoted text ++ rest) = some (bytes, rest) ∧
      bytes.toByteArray = encodeText text) ∧
    ∀ other, quoted other = quoted text → other = text := by
  refine ⟨⟨text.flatMap quoteChar, rfl, quotesEscaped_flatMap text, ?_, visible_flatMap text⟩,
    fun rest => ⟨text.utf8, readInterpreted?_quoted text rest,
      (Text.encodeText_eq_utf8 text).symm⟩, ?_⟩
  · intro newline
    exact visible_flatMap text '\n' newline (Or.inl (by decide))
  · intro other same
    have read := readInterpreted?_quoted other []
    rw [same, readInterpreted?_quoted] at read
    injection read with read
    injection read with bytes
    exact (Text.utf8_injective bytes).symm

end Go
end Stencil
