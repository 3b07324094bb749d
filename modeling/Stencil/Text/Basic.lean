/-
Texts as lists of characters, and what the library does with them beyond the
operations on lists: cutting a text before the first occurrence of two adjacent
characters, trimming its end, writing and reading numbers, and telling lines apart.

Cutting before a pair loses nothing, and what remains, if anything, starts with the
pair.  Blank characters are the white space of Unicode: line breaks, tabs, the
no-break space and the typographic spaces all count.
-/

namespace Stencil

abbrev Text := List Char

namespace Text

def startsWithPair (first second : Char) : Text → Bool
  | c :: d :: _ => c == first && d == second
  | _ => false

/-- Cuts a text in front of the first place where `first` is directly followed
by `second`; the second part is empty when there is no such place. -/
def cutAtPair (first second : Char) : Text → Text × Text
  | [] => ([], [])
  | c :: rest =>
      if startsWithPair first second (c :: rest) then
        ([], c :: rest)
      else
        let cut := cutAtPair first second rest
        (c :: cut.1, cut.2)

theorem cutAtPair_append (first second : Char) (text : Text) :
    (cutAtPair first second text).1 ++ (cutAtPair first second text).2 = text := by
  induction text with
  | nil => rfl
  | cons c rest ih =>
      by_cases atPair : startsWithPair first second (c :: rest) = true
      · simp [cutAtPair, atPair]
      · simp [cutAtPair, atPair, ih]

theorem cutAtPair_snd (first second : Char) (text : Text) :
    (cutAtPair first second text).2 = [] ∨
      startsWithPair first second (cutAtPair first second text).2 = true := by
  induction text with
  | nil => exact Or.inl rfl
  | cons c rest ih =>
      by_cases atPair : startsWithPair first second (c :: rest) = true
      · exact Or.inr (by simp [cutAtPair, atPair])
      · simpa [cutAtPair, atPair] using ih

theorem length_cutAtPair_snd_le (first second : Char) (text : Text) :
    (cutAtPair first second text).2.length ≤ text.length := by
  have whole := congrArg List.length (cutAtPair_append first second text)
  rw [List.length_append] at whole
  omega

theorem length_cutAtPair_snd_lt (first second : Char) (text : Text)
    (nonempty : text ≠ [])
    (notAtPair : startsWithPair first second text = false) :
    (cutAtPair first second text).2.length < text.length := by
  cases text with
  | nil => exact absurd rfl nonempty
  | cons c rest =>
      have shorter := length_cutAtPair_snd_le first second rest
      simp only [cutAtPair, notAtPair, List.length_cons]
      simp
      omega

def trimEnd (drop : Char → Bool) (text : Text) : Text :=
  (text.reverse.dropWhile drop).reverse

def strip (drop : Char → Bool) (text : Text) : Text :=
  trimEnd drop (text.dropWhile drop)

def byteLength (text : Text) : Nat :=
  (String.ofList text).utf8ByteSize

theorem byteLength_append (first second : Text) :
    byteLength (first ++ second) = byteLength first + byteLength second := by
  simp [byteLength, String.ofList_append]

theorem byteLength_singleton (c : Char) : byteLength [c] = c.utf8Size := by
  simp [byteLength]

theorem ascii_of_isAlphanum {c : Char} (alphanum : c.isAlphanum = true) :
    0x20 ≤ c.toNat ∧ c.toNat ≤ 0x7e := by
  change (decide (c.val ≥ 'A'.val ∧ c.val ≤ 'Z'.val) ||
    (decide (c.val ≥ 'a'.val) && decide (c.val ≤ 'z'.val)) ||
    (decide (c.val ≥ '0'.val) && decide (c.val ≤ '9'.val))) = true at alphanum
  simp only [Bool.or_eq_true, Bool.and_eq_true, decide_eq_true_eq, UInt32.le_iff_toNat_le,
    ge_iff_le] at alphanum
  change ((65 ≤ c.toNat ∧ c.toNat ≤ 90) ∨ (97 ≤ c.toNat ∧ c.toNat ≤ 122)) ∨
    (48 ≤ c.toNat ∧ c.toNat ≤ 57) at alphanum
  omega

theorem byteLength_of_isAlphanum {text : Text} (plain : ∀ c ∈ text, c.isAlphanum = true) :
    byteLength text = text.length := by
  induction text with
  | nil => rfl
  | cons c rest ih =>
      obtain ⟨-, low⟩ := ascii_of_isAlphanum (plain c List.mem_cons_self)
      have oneByte : c.utf8Size = 1 := by
        rw [Char.utf8Size_eq_one_iff, UInt32.le_iff_toNat_le, Char.toNat_val]
        exact Nat.le_trans low (by decide)
      have split := byteLength_append [c] rest
      rw [List.singleton_append, byteLength_singleton, oneByte,
        ih fun d member => plain d (List.mem_cons_of_mem c member)] at split
      rw [split, List.length_cons, Nat.add_comm]

def ofNat (number : Nat) : Text :=
  Nat.toDigits 10 number

def lastDigits : (width number : Nat) → Text
  | 0, _ => []
  | width + 1, number => lastDigits width (number / 10) ++ [(number % 10).digitChar]

theorem isDigit_lastDigit (number : Nat) : (number % 10).digitChar.isDigit = true := by
  rw [Nat.isDigit_digitChar]
  exact decide_eq_true (Nat.mod_lt number (by omega))

theorem isDigit_of_mem_lastDigits {width number : Nat} {c : Char}
    (present : c ∈ lastDigits width number) : c.isDigit = true := by
  induction width generalizing number with
  | zero => simp [lastDigits] at present
  | succ width ih =>
      rcases List.mem_append.mp present with early | last
      · exact ih early
      · rw [List.mem_singleton.mp last]
        exact isDigit_lastDigit number

theorem length_lastDigits (width number : Nat) : (lastDigits width number).length = width := by
  induction width generalizing number with
  | zero => rfl
  | succ width ih => rw [lastDigits, List.length_append, ih, List.length_singleton]

def hex (number : Nat) : Text :=
  Nat.toDigits 16 number

def hexPadded (width : Nat) (number : Nat) : Text :=
  (hex number).leftpad width '0'

def hexDigit? (c : Char) : Option Nat :=
  if c.isDigit then some (c.toNat - '0'.toNat)
  else if 'a' ≤ c ∧ c ≤ 'f' then some (c.toNat - 'a'.toNat + 10)
  else if 'A' ≤ c ∧ c ≤ 'F' then some (c.toNat - 'A'.toNat + 10)
  else none

def hexValue? (digits : Text) : Option Nat :=
  digits.foldl (fun value c =>
    match value, hexDigit? c with
    | some value, some digit => some (16 * value + digit)
    | _, _ => none) (some 0)

def charOfHex? (digits : Text) : Option Char :=
  match hexValue? digits with
  | none => none
  | some value => if value.isValidChar then some (Char.ofNat value) else none

/-- The lines of a text; a newline at its end starts no further line, and a carriage
return in front of a newline belongs to it. -/
def lines (text : Text) : List Text :=
  let pieces := text.splitOn '\n'
  let ended := pieces.dropLast.map fun line =>
    if line.getLast? = some '\r' then line.dropLast else line
  ended ++ (pieces.getLast?.filter (· != [])).toList

def inRanges (ranges : List (Nat × Nat)) (number : Nat) : Bool :=
  ranges.any fun range => decide (range.1 ≤ number) && decide (number ≤ range.2)

/-! ### Blank characters -/

/-- The code points with the property White_Space, as closed ranges. -/
def blankRanges : List (Nat × Nat) :=
  [(0x9, 0xd), (0x20, 0x20), (0x85, 0x85), (0xa0, 0xa0), (0x1680, 0x1680),
    (0x2000, 0x200a), (0x2028, 0x2029), (0x202f, 0x202f), (0x205f, 0x205f),
    (0x3000, 0x3000)]

def isBlank (c : Char) : Bool :=
  inRanges blankRanges c.toNat

def isSpace (c : Char) : Bool :=
  c == ' ' || c == '\t' || c == '\n' || c == '\r'

end Text
end Stencil
