/-
Numbers in hexadecimal digits, and the bytes of a text.

A number is read back from its digits, also when zeros stand in front of them.

The bytes of a character are its number in base 64 behind a lead, and characters with
more digits have a greater lead.  So of two characters the smaller one has the smaller
bytes, whatever follows, and texts are ordered by their bytes as they are by their
characters.
-/

import Mathlib.Algebra.Group.Nat.Defs
import Mathlib.Data.List.Basic
import Mathlib.Data.Nat.Digits.Defs
import Mathlib.Tactic.SplitIfs
import Stencil.Files.Workspace

namespace Stencil
namespace Text

theorem hexDigit?_digitChar : ∀ digit < 16, hexDigit? digit.digitChar = some digit := by
  decide

theorem hexValue?_concat {digits : Text} {value digit : Nat} {c : Char}
    (read : hexValue? digits = some value) (isDigit : hexDigit? c = some digit) :
    hexValue? (digits ++ [c]) = some (16 * value + digit) := by
  unfold hexValue? at read ⊢
  rw [List.foldl_append, read]
  simp only [List.foldl_cons, List.foldl_nil, isDigit]

theorem hex_of_lt {number : Nat} (single : number < 16) : hex number = [number.digitChar] :=
  Nat.toDigits_of_lt_base single

theorem hex_of_le {number : Nat} (more : 16 ≤ number) :
    hex number = hex (number / 16) ++ [(number % 16).digitChar] :=
  Nat.toDigits_of_base_le (by decide) more

theorem hexValue?_hex (number : Nat) : hexValue? (hex number) = some number := by
  induction number using Nat.strongRecOn with
  | ind number ih =>
      by_cases single : number < 16
      · rw [hex_of_lt single]
        have read := @hexValue?_concat [] 0 number _ rfl (hexDigit?_digitChar number single)
        rw [Nat.mul_zero, Nat.zero_add] at read
        exact read
      · have more : 16 ≤ number := Nat.le_of_not_lt single
        have earlier := ih (number / 16) (Nat.div_lt_self (by omega) (by decide))
        have digit := hexDigit?_digitChar (number % 16) (Nat.mod_lt number (by decide))
        rw [hex_of_le more, hexValue?_concat earlier digit, Nat.div_add_mod]

theorem hexPadded_eq (width number : Nat) :
    hexPadded width number =
      List.replicate (width - (hex number).length) '0' ++ hex number := rfl

theorem hexValue?_hexPadded (width number : Nat) :
    hexValue? (hexPadded width number) = some number := by
  have zeros (count : Nat) : hexValue? (List.replicate count '0') = some 0 := by
    induction count with
    | zero => rfl
    | succ count ih =>
        rw [List.replicate_succ']
        exact hexValue?_concat ih (hexDigit?_digitChar 0 (by decide))
  rw [hexPadded_eq, hexValue?, List.foldl_append]
  have skipped := zeros (width - (hex number).length)
  rw [hexValue?] at skipped
  rw [skipped]
  exact hexValue?_hex number

/-- A character is read back from the digits of its code point. -/
theorem charOfHex?_of_hexValue? {digits : Text} {c : Char}
    (read : hexValue? digits = some c.toNat) : charOfHex? digits = some c := by
  rw [charOfHex?, read]
  dsimp only
  rw [if_pos (show c.toNat.isValidChar from c.valid), Char.ofNat_toNat]

theorem length_hexPadded {width number : Nat} (positive : 0 < width)
    (fits : number < 16 ^ width) : (hexPadded width number).length = width := by
  have short : (hex number).length ≤ width :=
    (Nat.length_toDigits_le_iff (by decide) positive).mpr fits
  rw [hexPadded_eq, List.length_append, List.length_replicate]
  omega

theorem bounds_of_hexDigit? {c : Char} (isDigit : (hexDigit? c).isSome = true) :
    '0'.toNat ≤ c.toNat ∧ c.toNat ≤ 'f'.toNat := by
  simp only [hexDigit?, Char.isDigit, Char.le_def, UInt32.le_iff_toNat_le, Char.toNat_val]
    at isDigit
  grind

theorem isSome_hexDigit?_of_mem_hex {number : Nat} :
    ∀ c ∈ hex number, (hexDigit? c).isSome = true := by
  induction number using Nat.strongRecOn with
  | ind number ih =>
      intro c member
      by_cases single : number < 16
      · rw [hex_of_lt single, List.mem_singleton] at member
        rw [member, hexDigit?_digitChar number single]
        rfl
      · have more : 16 ≤ number := Nat.le_of_not_lt single
        rw [hex_of_le more] at member
        rcases List.mem_append.mp member with earlier | last
        · exact ih (number / 16) (Nat.div_lt_self (by omega) (by decide)) c earlier
        · rw [List.mem_singleton.mp last,
            hexDigit?_digitChar (number % 16) (Nat.mod_lt number (by decide))]
          rfl

theorem isSome_hexDigit?_of_mem_hexPadded {width number : Nat} :
    ∀ c ∈ hexPadded width number, (hexDigit? c).isSome = true := by
  intro c member
  rcases List.mem_append.mp member with zero | digit
  · rw [List.eq_of_mem_replicate zero]
    rfl
  · exact isSome_hexDigit?_of_mem_hex c digit

end Text

/-! ### Bytes -/

/-- How a character is written in bytes: the lead of its first byte, what that byte can hold
besides, and how many digits of base 64 follow. -/
structure ScalarForm where
  lead : Nat
  width : Nat
  digits : Nat
  positive : 0 < width
  byte : lead + width ≤ 256

namespace ScalarForm

def ofNumber (number : Nat) : ScalarForm :=
  if number ≤ 0x7f then ⟨0, 0x80, 0, by decide, by decide⟩
  else if number ≤ 0x7ff then ⟨0xc0, 0x20, 1, by decide, by decide⟩
  else if number ≤ 0xffff then ⟨0xe0, 0x10, 2, by decide, by decide⟩
  else ⟨0xf0, 0x8, 3, by decide, by decide⟩

def bytes (lead width : Nat) : (digits number : Nat) → List UInt8
  | 0, number => [UInt8.ofNat (number % width + lead)]
  | digits + 1, number =>
      bytes lead width digits (number / 64) ++ [UInt8.ofNat (number % 64 + 128)]

def write (form : ScalarForm) (number : Nat) : List UInt8 :=
  bytes form.lead form.width form.digits number

theorem utf8EncodeChar_eq_write (c : Char) :
    String.utf8EncodeChar c = (ofNumber c.toNat).write c.toNat := by
  unfold ofNumber String.utf8EncodeChar
  simp only [Char.toNat_val]
  split_ifs
  · have byte : c.toNat < 0x80 := by omega
    rw [write, bytes, Nat.mod_eq_of_lt byte, Nat.add_zero]
  · rfl
  · simp only [write, bytes, Nat.div_div_eq_div_mul, List.cons_append, List.nil_append]
  · simp only [write, bytes, Nat.div_div_eq_div_mul, List.cons_append, List.nil_append]

theorem fits_ofNumber {number : Nat} (scalar : number < 0x110000) :
    number < (ofNumber number).width * 64 ^ (ofNumber number).digits := by
  unfold ofNumber
  split_ifs <;> dsimp only <;> omega

theorem ofNumber_eq_or_apart {number other : Nat} (before : number < other) :
    ofNumber number = ofNumber other ∨
      (ofNumber number).lead + (ofNumber number).width ≤ (ofNumber other).lead := by
  grind [ofNumber]

theorem cons_ofNat_lt {first second : Nat} (before : first < second) (byte : second < 256)
    (rest other : List UInt8) : UInt8.ofNat first :: rest < UInt8.ofNat second :: other := by
  rw [List.cons_lt_cons_iff, UInt8.lt_iff_toNat_lt, UInt8.toNat_ofNat', UInt8.toNat_ofNat']
  left
  omega

theorem bytes_eq_cons (lead : Nat) {width : Nat} (positive : 0 < width)
    (digits number : Nat) :
    ∃ first rest, bytes lead width digits number = UInt8.ofNat first :: rest ∧
      lead ≤ first ∧ first < lead + width := by
  induction digits generalizing number with
  | zero =>
      have below := Nat.mod_lt number positive
      exact ⟨number % width + lead, [], rfl, by omega, by omega⟩
  | succ digits ih =>
      obtain ⟨first, rest, spelled, bounds⟩ := ih (number / 64)
      exact ⟨first, rest ++ _, by rw [bytes, spelled, List.cons_append], bounds⟩

theorem write_append_lt_of_apart {form other : ScalarForm}
    (apart : form.lead + form.width ≤ other.lead) (number otherNumber : Nat)
    (rest otherRest : List UInt8) :
    form.write number ++ rest < other.write otherNumber ++ otherRest := by
  obtain ⟨first, tail, spelled, bounds⟩ :=
    bytes_eq_cons form.lead form.positive form.digits number
  obtain ⟨second, otherTail, otherSpelled, otherBounds⟩ :=
    bytes_eq_cons other.lead other.positive other.digits otherNumber
  have byte := other.byte
  rw [write, write, spelled, otherSpelled]
  exact cons_ofNat_lt (by omega) (by omega) _ _

theorem bytes_append_lt {lead width : Nat} (byte : lead + width ≤ 256)
    {digits number other : Nat} (before : number < other) (fits : other < width * 64 ^ digits)
    (rest otherRest : List UInt8) :
    bytes lead width digits number ++ rest < bytes lead width digits other ++ otherRest := by
  induction digits generalizing number other rest otherRest with
  | zero =>
      rw [Nat.pow_zero, Nat.mul_one] at fits
      rw [bytes, bytes, Nat.mod_eq_of_lt fits, Nat.mod_eq_of_lt (Nat.lt_trans before fits)]
      exact cons_ofNat_lt (by omega) (by omega) _ _
  | succ digits ih =>
      rw [Nat.pow_succ, ← Nat.mul_assoc] at fits
      rw [bytes, bytes, List.append_assoc, List.append_assoc]
      have above : number / 64 ≤ other / 64 := Nat.div_le_div_right (Nat.le_of_lt before)
      rcases Nat.lt_or_eq_of_le above with smaller | same
      · exact ih smaller (Nat.div_lt_of_lt_mul (by omega)) _ _
      · rw [same]
        apply List.append_left_lt
        exact cons_ofNat_lt (by omega) (by omega) _ _

end ScalarForm

/-- A smaller character has smaller bytes, whatever follows. -/
theorem utf8EncodeChar_append_lt {c d : Char} (before : c < d) (rest other : List UInt8) :
    String.utf8EncodeChar c ++ rest < String.utf8EncodeChar d ++ other := by
  have smaller : c.toNat < d.toNat := before
  have scalar : d.toNat < 0x110000 := by
    rcases d.valid with low | high
    · exact Nat.lt_trans low (by decide)
    · exact high.2
  rw [ScalarForm.utf8EncodeChar_eq_write, ScalarForm.utf8EncodeChar_eq_write]
  rcases ScalarForm.ofNumber_eq_or_apart smaller with same | apart
  · rw [same]
    exact ScalarForm.bytes_append_lt (ScalarForm.byte _) smaller
      (ScalarForm.fits_ofNumber scalar) rest other
  · exact ScalarForm.write_append_lt_of_apart apart _ _ rest other

namespace Text

def utf8 (text : Text) : List UInt8 :=
  text.flatMap String.utf8EncodeChar

theorem encodeText_eq_utf8 (text : Text) : encodeText text = text.utf8.toByteArray := rfl

theorem utf8_lt {first second : Text} (before : first < second) : first.utf8 < second.utf8 := by
  induction before with
  | @nil c rest =>
      have filled : String.utf8EncodeChar c ++ utf8 rest ≠ [] := by
        simp [String.utf8EncodeChar_ne_nil]
      obtain ⟨byte, bytes, spelled⟩ := List.exists_cons_of_ne_nil filled
      change [] < String.utf8EncodeChar c ++ utf8 rest
      rw [spelled]
      exact List.Lex.nil
  | rel smaller => exact utf8EncodeChar_append_lt smaller _ _
  | cons later ih => exact List.append_left_lt ih

theorem lt_of_utf8_lt {first second : Text} (before : first.utf8 < second.utf8) :
    first < second := by
  rcases Std.Trichotomous.rel_or_eq_or_rel_swap
      (r := fun (first second : Text) => first < second) (a := first) (b := second) with
    smaller | same | greater
  · exact smaller
  · rw [same] at before
    exact absurd before (List.lt_irrefl _)
  · exact absurd (List.lt_trans before (utf8_lt greater)) (List.lt_irrefl _)

theorem utf8_injective {first second : Text} (same : first.utf8 = second.utf8) :
    first = second := by
  rcases Std.Trichotomous.rel_or_eq_or_rel_swap
      (r := fun (first second : Text) => first < second) (a := first) (b := second) with
    before | equal | behind
  · have smaller := utf8_lt before
    rw [same] at smaller
    exact absurd smaller (List.lt_irrefl _)
  · exact equal
  · have smaller := utf8_lt behind
    rw [same] at smaller
    exact absurd smaller (List.lt_irrefl _)

end Text
end Stencil
