/-
Where a text is cut: in front of a pair of characters, at such pairs, behind the longest
run of characters of a class, and in front of such a run at its end.

A text without the pair, with the pair behind it, is cut exactly there, so that the
place of the cut is fixed by what stands on both sides of it.  The two characters
must differ; otherwise the pair could begin with the last character of the text.
-/

import Mathlib.Data.List.TakeWhile
import Stencil.Text.Basic

namespace Stencil
namespace Text

theorem startsWithPair_eq_true_iff (first second : Char) (text : Text) :
    startsWithPair first second text = true ↔
      ∃ rest, text = first :: second :: rest := by
  constructor
  · intro starts
    match text, starts with
    | c :: d :: rest, starts =>
        simp only [startsWithPair, Bool.and_eq_true, beq_iff_eq] at starts
        exact ⟨rest, by rw [starts.1, starts.2]⟩
  · intro starts
    obtain ⟨rest, rfl⟩ := starts
    simp [startsWithPair]

theorem startsWithPair_iff_prefix (first second : Char) (text : Text) :
    startsWithPair first second text = true ↔ [first, second] <+: text := by
  rw [startsWithPair_eq_true_iff]
  constructor
  · intro starts
    obtain ⟨rest, rfl⟩ := starts
    exact ⟨rest, rfl⟩
  · intro starts
    obtain ⟨rest, same⟩ := starts
    exact ⟨rest, same.symm⟩

theorem pair_infix_cons_iff (first second c : Char) (rest : Text) :
    [first, second] <:+: c :: rest ↔
      startsWithPair first second (c :: rest) = true ∨ [first, second] <:+: rest := by
  rw [List.infix_cons_iff, startsWithPair_iff_prefix]

/-- Two texts free of the pair stay free of it behind one another, unless the pair is
divided between them. -/
theorem not_infix_append {first second : Char} {text rest : Text}
    (free : ¬ [first, second] <:+: text) (restFree : ¬ [first, second] <:+: rest)
    (undivided : ¬ (text.getLast? = some first ∧ rest.head? = some second)) :
    ¬ [first, second] <:+: text ++ rest := by
  induction text with
  | nil => exact restFree
  | cons c tail ih =>
      rw [pair_infix_cons_iff, not_or] at free
      rw [List.cons_append, pair_infix_cons_iff, not_or]
      cases tail with
      | nil =>
          refine ⟨?_, restFree⟩
          intro starts
          obtain ⟨later, same⟩ := (startsWithPair_eq_true_iff _ _ _).mp starts
          obtain ⟨rfl, behind⟩ := List.cons.inj same
          rw [List.nil_append] at behind
          apply undivided
          rw [behind]
          exact ⟨rfl, rfl⟩
      | cons d deeper =>
          have undividedTail :
              ¬ ((d :: deeper).getLast? = some first ∧ rest.head? = some second) := by
            rw [List.getLast?_cons_cons] at undivided
            exact undivided
          exact ⟨free.1, ih free.2 undividedTail⟩

theorem not_infix_cutAtPair_fst (first second : Char) (text : Text) :
    ¬ [first, second] <:+: (cutAtPair first second text).1 := by
  induction text with
  | nil =>
      intro inside
      simp [cutAtPair] at inside
  | cons c rest ih =>
      by_cases atPair : startsWithPair first second (c :: rest) = true
      · intro inside
        simp [cutAtPair, atPair] at inside
      · have cut : (cutAtPair first second (c :: rest)).1 =
            c :: (cutAtPair first second rest).1 := by
          simp [cutAtPair, atPair]
        rw [cut, pair_infix_cons_iff]
        rintro (starts | inside)
        · obtain ⟨tail, same⟩ := (startsWithPair_eq_true_iff _ _ _).mp starts
          have whole := cutAtPair_append first second rest
          rw [(List.cons.inj same).2] at whole
          apply atPair
          rw [← whole, (List.cons.inj same).1]
          simp [startsWithPair]
        · exact ih inside

theorem cutAtPair_of_free {first second : Char} {text : Text}
    (free : ¬ [first, second] <:+: text) :
    cutAtPair first second text = (text, []) := by
  induction text with
  | nil => rfl
  | cons c rest ih =>
      rw [pair_infix_cons_iff, not_or] at free
      simp [cutAtPair, free.1, ih free.2]

theorem cutAtPair_append_pair {first second : Char} (different : first ≠ second)
    {text : Text} (free : ¬ [first, second] <:+: text) (rest : Text) :
    cutAtPair first second (text ++ first :: second :: rest) =
      (text, first :: second :: rest) := by
  induction text with
  | nil => simp [cutAtPair, startsWithPair]
  | cons c tail ih =>
      rw [pair_infix_cons_iff, not_or] at free
      have notHere :
          ¬ startsWithPair first second (c :: (tail ++ first :: second :: rest)) = true := by
        intro starts
        obtain ⟨later, same⟩ := (startsWithPair_eq_true_iff _ _ _).mp starts
        cases tail with
        | nil => exact different (List.cons.inj (List.cons.inj same).2).1
        | cons d deeper =>
            apply free.1
            rw [(List.cons.inj same).1, (List.cons.inj (List.cons.inj same).2).1]
            simp [startsWithPair]
      have notHere := Bool.eq_false_iff.mpr notHere
      rw [List.cons_append, cutAtPair, notHere, ih free.2]
      rfl

theorem cutAtPair_snd_eq_cons {first second : Char} {text : Text}
    (left : (cutAtPair first second text).2 ≠ []) :
    ∃ rest, (cutAtPair first second text).2 = first :: second :: rest := by
  rcases cutAtPair_snd first second text with empty | starts
  · exact absurd empty left
  · exact (startsWithPair_eq_true_iff _ _ _).mp starts

theorem drop_length_cutAtPair (first second : Char) (text : Text) :
    text.drop (cutAtPair first second text).1.length = (cutAtPair first second text).2 := by
  have whole := cutAtPair_append first second text
  calc
    text.drop (cutAtPair first second text).1.length
        = ((cutAtPair first second text).1 ++ (cutAtPair first second text).2).drop
            (cutAtPair first second text).1.length := by rw [whole]
    _ = (cutAtPair first second text).2 := List.drop_left

theorem append_pair_inj {first second : Char} (different : first ≠ second)
    {text other rest otherRest : Text}
    (free : ¬ [first, second] <:+: text) (otherFree : ¬ [first, second] <:+: other)
    (same : text ++ first :: second :: rest = other ++ first :: second :: otherRest) :
    text = other ∧ rest = otherRest := by
  have cut := cutAtPair_append_pair different free rest
  rw [same, cutAtPair_append_pair different otherFree otherRest] at cut
  injection cut with texts rests
  injection rests with _ rests
  injection rests with _ rests
  exact ⟨texts.symm, rests.symm⟩

theorem free_of_mem_splitOn {stop : Char} {text : Text} :
    ∀ piece ∈ text.splitOn stop, stop ∉ piece := by
  induction text with
  | nil =>
      intro piece member
      rw [List.splitOn_nil, List.mem_singleton] at member
      rw [member]
      exact List.not_mem_nil
  | cons c rest ih =>
      intro piece member
      rw [List.splitOn_cons_eq_if_modifyHead] at member
      by_cases atStop : (c == stop) = true
      · rw [if_pos atStop] at member
        rcases List.mem_cons.mp member with rfl | later
        · exact List.not_mem_nil
        · exact ih piece later
      · obtain ⟨first, others, split⟩ := List.exists_cons_of_ne_nil (List.splitOn_ne_nil stop rest)
        rw [if_neg atStop, split, List.modifyHead_cons] at member
        rw [split, List.forall_mem_cons] at ih
        rcases List.mem_cons.mp member with rfl | later
        · rw [List.mem_cons, not_or]
          exact ⟨fun same => atStop (beq_iff_eq.mpr same.symm), ih.1⟩
        · exact ih.2 piece later

/-- The pieces of a text between the places, from left to right, where `first` is directly
followed by `second`. -/
def splitOnPair (first second : Char) : Text → List Text
  | [] => [[]]
  | [c] => [[c]]
  | c :: d :: rest =>
      if c = first ∧ d = second then
        [] :: splitOnPair first second rest
      else
        (splitOnPair first second (d :: rest)).modifyHead (c :: ·)

theorem splitOnPair_cons_of_ne {first c : Char} (second : Char) (other : c ≠ first)
    (rest : Text) :
    splitOnPair first second (c :: rest) =
      (splitOnPair first second rest).modifyHead (c :: ·) := by
  cases rest with
  | nil => rfl
  | cons d later =>
      have notHere : ¬ (c = first ∧ d = second) := fun here => other here.1
      rw [splitOnPair, if_neg notHere]

theorem splitOnPair_append_pair {first : Char} (second : Char) {piece : Text}
    (free : first ∉ piece) (rest : Text) :
    splitOnPair first second (piece ++ first :: second :: rest) =
      piece :: splitOnPair first second rest := by
  induction piece with
  | nil => exact if_pos ⟨rfl, rfl⟩
  | cons c tail ih =>
      rw [List.mem_cons, not_or] at free
      rw [List.cons_append, splitOnPair_cons_of_ne second (Ne.symm free.1), ih free.2]
      rfl

theorem splitOnPair_of_free {first : Char} (second : Char) {piece : Text}
    (free : first ∉ piece) : splitOnPair first second piece = [piece] := by
  induction piece with
  | nil => rfl
  | cons c tail ih =>
      rw [List.mem_cons, not_or] at free
      rw [splitOnPair_cons_of_ne second (Ne.symm free.1), ih free.2]
      rfl

/-- Pieces that are joined by the pair are found again if its first character is in none of
them. -/
theorem splitOnPair_intercalate {first : Char} (second : Char) {pieces : List Text}
    (nonempty : pieces ≠ []) (free : ∀ piece ∈ pieces, first ∉ piece) :
    splitOnPair first second ([first, second].intercalate pieces) = pieces := by
  induction pieces with
  | nil => exact absurd rfl nonempty
  | cons piece others ih =>
      rw [List.forall_mem_cons] at free
      cases others with
      | nil =>
          rw [List.intercalate_singleton]
          exact splitOnPair_of_free second free.1
      | cons next more =>
          rw [List.intercalate_cons_cons, List.append_assoc, List.cons_append, List.cons_append,
            List.nil_append, splitOnPair_append_pair second free.1,
            ih (List.cons_ne_nil next more) free.2]

variable {inClass : Char → Bool} {run rest : Text}

theorem takeWhile_append_of_ends (ends : ∀ c ∈ rest.head?, inClass c = false) :
    (run ++ rest).takeWhile inClass = run.takeWhile inClass := by
  induction run with
  | nil =>
      cases rest with
      | nil => rfl
      | cons c tail => simp [ends c rfl]
  | cons c tail ih =>
      by_cases belongs : inClass c = true
      · simp [belongs, ih]
      · simp [belongs]

theorem dropWhile_append_of_ends (ends : ∀ c ∈ rest.head?, inClass c = false) :
    (run ++ rest).dropWhile inClass = run.dropWhile inClass ++ rest := by
  induction run with
  | nil =>
      cases rest with
      | nil => rfl
      | cons c tail => simp [ends c rfl]
  | cons c tail ih =>
      by_cases belongs : inClass c = true
      · simp [belongs, ih]
      · simp [belongs]

theorem head?_dropWhile (text : Text) :
    ∀ c ∈ (text.dropWhile inClass).head?, inClass c = false := by
  intro c first
  have stops := List.head?_dropWhile_not inClass text
  rw [Option.mem_def.mp first] at stops
  exact stops

theorem takeWhile_ne_append {stop : Char} {text : Text} (free : stop ∉ text) (rest : Text) :
    (text ++ stop :: rest).takeWhile (fun c => c != stop) = text := by
  rw [takeWhile_append_of_ends (by simp), List.takeWhile_eq_self_iff]
  intro c member
  simp only [bne_iff_ne, ne_eq]
  rintro rfl
  exact free member

theorem dropWhile_ne_append {stop : Char} {text : Text} (free : stop ∉ text) (rest : Text) :
    (text ++ stop :: rest).dropWhile (fun c => c != stop) = stop :: rest := by
  have parts := List.takeWhile_append_dropWhile (p := fun c => c != stop)
    (l := text ++ stop :: rest)
  rw [takeWhile_ne_append free] at parts
  exact List.append_cancel_left parts

theorem dropWhile_ne_of_free {stop : Char} {text : Text} (free : stop ∉ text) :
    text.dropWhile (fun c => c != stop) = [] := by
  rw [List.dropWhile_eq_nil_iff]
  intro c member
  simp only [bne_iff_ne, ne_eq]
  rintro rfl
  exact free member

theorem append_cons_inj_of_free {stop : Char} {text other rest otherRest : Text}
    (free : stop ∉ text) (otherFree : stop ∉ other)
    (same : text ++ stop :: rest = other ++ stop :: otherRest) :
    text = other ∧ rest = otherRest := by
  have texts : text = other := by
    rw [← takeWhile_ne_append free rest, same, takeWhile_ne_append otherFree]
  rw [texts] at same
  exact ⟨texts, (List.cons.inj (List.append_cancel_left same)).2⟩

theorem exists_last_of_mem {stop : Char} {text : Text} (present : stop ∈ text) :
    ∃ front tail, text = front ++ stop :: tail ∧ stop ∉ tail := by
  obtain ⟨tail, front, turned, free⟩ := List.eq_append_cons_of_mem (List.mem_reverse.mpr present)
  refine ⟨front.reverse, tail.reverse, ?_, fun inTail => free (List.mem_reverse.mp inTail)⟩
  have whole := congrArg List.reverse turned
  rw [List.reverse_reverse] at whole
  rw [whole]
  simp

theorem dropWhile_eq_self {text : Text} (begins : ∀ c ∈ text.head?, inClass c = false) :
    text.dropWhile inClass = text := by
  cases text with
  | nil => rfl
  | cons c rest => simp [begins c rfl]

variable {drop : Char → Bool} {text trail : Text}

theorem trimEnd_prefix (drop : Char → Bool) (text : Text) : trimEnd drop text <+: text := by
  have shorter : text.reverse.dropWhile drop <:+ text.reverse := List.dropWhile_suffix drop
  have turned := List.reverse_prefix.mpr shorter
  rw [List.reverse_reverse] at turned
  exact turned

theorem exists_trimEnd_append (drop : Char → Bool) (text : Text) :
    ∃ trail, (∀ c ∈ trail, drop c = true) ∧ trimEnd drop text ++ trail = text := by
  refine ⟨(text.reverse.takeWhile drop).reverse, ?_, ?_⟩
  · intro c member
    exact List.mem_takeWhile_imp (List.mem_reverse.mp member)
  · rw [trimEnd, ← List.reverse_append, List.takeWhile_append_dropWhile, List.reverse_reverse]

theorem getLast?_trimEnd (drop : Char → Bool) (text : Text) :
    ∀ c ∈ (trimEnd drop text).getLast?, drop c = false := by
  intro c last
  apply head?_dropWhile text.reverse
  rw [trimEnd, List.getLast?_reverse] at last
  exact last

/-- A text that ends with no character of the class is what trimming leaves of it with such
characters behind it. -/
theorem trimEnd_append_of_ends (ends : ∀ c ∈ text.getLast?, drop c = false)
    (dropped : ∀ c ∈ trail, drop c = true) : trimEnd drop (text ++ trail) = text := by
  have stops : ∀ c ∈ text.reverse.head?, drop c = false := by
    rw [List.head?_reverse]
    exact ends
  have gone : trail.reverse.dropWhile drop = [] :=
    List.dropWhile_eq_nil_iff.mpr fun c member => dropped c (List.mem_reverse.mp member)
  rw [trimEnd, List.reverse_append, dropWhile_append_of_ends stops, gone, List.nil_append,
    List.reverse_reverse]

end Text
end Stencil
