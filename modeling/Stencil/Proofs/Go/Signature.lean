/-
The parts of a signature.

A signature is spelled as a name, spaces, an argument list in parentheses, and anything that
has no closing parenthesis.  The first opening and the last closing parenthesis tell these
parts apart.  Splitting finds the name and the argument list of each text that is spelled in
this way; the other texts lack one of the two parentheses, and a closing one in front of the
first opening one does not count.

Of each piece between two commas of an argument list the first word is taken as a name.  A
word holds neither a comma nor a space, so the names can be told apart again where they are
joined.
-/

import Mathlib.Data.List.Forall2
import Stencil.Go
import Stencil.Proofs.Text.Pair

namespace Stencil

/-- A signature with all that stands around its parts. -/
@[ext]
structure SignatureSpelling where
  name : Text
  gap : Text
  args : Text
  tail : Text
  nameOpen : '(' ∉ name
  nameEnds : ∀ c ∈ name.getLast?, Text.isSpace c = false
  gapSpace : ∀ c ∈ gap, Text.isSpace c = true
  tailOpen : ')' ∉ tail

namespace SignatureSpelling

def spelling (spelled : SignatureSpelling) : Text :=
  spelled.name ++ spelled.gap ++ '(' :: (spelled.args ++ ')' :: spelled.tail)

def signature (spelled : SignatureSpelling) : Signature where
  name := spelled.name
  args := spelled.args
  argNames := ", ".toList.intercalate (Signature.namesOf spelled.args)

theorem front_open (spelled : SignatureSpelling) : '(' ∉ spelled.name ++ spelled.gap := by
  intro present
  rcases List.mem_append.mp present with inName | inGap
  · exact spelled.nameOpen inName
  · have space := spelled.gapSpace '(' inGap
    revert space
    decide

end SignatureSpelling

namespace Signature

theorem beforeLastClose?_append {tail : Text} (args : Text) (tailOpen : ')' ∉ tail) :
    beforeLastClose? (args ++ ')' :: tail) = some args := by
  have turned : (args ++ ')' :: tail).reverse = tail.reverse ++ ')' :: args.reverse := by simp
  have last := Text.dropWhile_ne_append
    (fun inTail => tailOpen (List.mem_reverse.mp inTail)) args.reverse
  rw [beforeLastClose?, turned, last]
  dsimp only
  rw [List.reverse_reverse]

theorem beforeLastClose?_of_open {rest : Text} (restOpen : ')' ∉ rest) :
    beforeLastClose? rest = none := by
  rw [beforeLastClose?, Text.dropWhile_ne_of_free
    fun turned => restOpen (List.mem_reverse.mp turned)]

theorem split_of_no_open {raw : Text} (free : '(' ∉ raw) :
    split raw = .error (.missingOpenParen raw) := by
  rw [split, Text.dropWhile_ne_of_free free]

theorem split_of_no_close {front rest : Text} (frontOpen : '(' ∉ front) (restOpen : ')' ∉ rest) :
    split (front ++ '(' :: rest) = .error (.missingCloseParen (front ++ '(' :: rest)) := by
  rw [split, Text.dropWhile_ne_append frontOpen]
  dsimp only
  rw [beforeLastClose?_of_open restOpen]

theorem split_spelling (spelled : SignatureSpelling) :
    split spelled.spelling = .ok spelled.signature := by
  rw [split, SignatureSpelling.spelling, Text.dropWhile_ne_append spelled.front_open,
    Text.takeWhile_ne_append spelled.front_open]
  dsimp only
  rw [beforeLastClose?_append spelled.args spelled.tailOpen,
    Text.trimEnd_append_of_ends spelled.nameEnds spelled.gapSpace]
  rfl

theorem lacks_or_spelled (raw : Text) :
    '(' ∉ raw ∨
      (∃ front rest, raw = front ++ '(' :: rest ∧ '(' ∉ front ∧ ')' ∉ rest) ∨
        ∃ spelled : SignatureSpelling, spelled.spelling = raw := by
  by_cases opens : '(' ∈ raw
  · obtain ⟨front, rest, rfl, frontOpen⟩ := List.eq_append_cons_of_mem opens
    by_cases closes : ')' ∈ rest
    · obtain ⟨args, tail, rfl, tailOpen⟩ := Text.exists_last_of_mem closes
      obtain ⟨gap, gapSpace, trimmed⟩ := Text.exists_trimEnd_append Text.isSpace front
      have nameOpen : '(' ∉ Text.trimEnd Text.isSpace front := fun inName =>
        frontOpen ((Text.trimEnd_prefix Text.isSpace front).subset inName)
      refine Or.inr (Or.inr ⟨⟨_, gap, args, tail, nameOpen, Text.getLast?_trimEnd _ _,
        gapSpace, tailOpen⟩, ?_⟩)
      rw [SignatureSpelling.spelling, trimmed]
    · exact Or.inr (Or.inl ⟨front, rest, rfl, frontOpen, closes⟩)
  · exact Or.inl opens

theorem exists_of_split {raw : Text} {signature : Signature}
    (splits : split raw = .ok signature) :
    ∃ spelled : SignatureSpelling, spelled.spelling = raw ∧ spelled.signature = signature := by
  rcases lacks_or_spelled raw with lacks | ⟨front, rest, rfl, frontOpen, restOpen⟩ |
    ⟨spelled, rfl⟩
  · rw [split_of_no_open lacks] at splits
    cases splits
  · rw [split_of_no_close frontOpen restOpen] at splits
    cases splits
  · rw [split_spelling] at splits
    exact ⟨spelled, rfl, Except.ok.inj splits⟩

end Signature

theorem SignatureSpelling.spelling_inj {first second : SignatureSpelling}
    (same : first.spelling = second.spelling) : first = second := by
  have split := Signature.split_spelling first
  rw [same, Signature.split_spelling second] at split
  injection split with signatures
  have names : first.name = second.name := congrArg Signature.name signatures.symm
  have args : first.args = second.args := congrArg Signature.args signatures.symm
  obtain ⟨fronts, rests⟩ :=
    Text.append_cons_inj_of_free first.front_open second.front_open same
  rw [names] at fronts
  rw [args] at rests
  have tails := List.append_cancel_left rests
  exact SignatureSpelling.ext names (List.append_cancel_left fronts) args
    (List.cons.inj tails).2

namespace Signature

theorem split_eq_missingOpenParen_iff (raw : Text) :
    split raw = .error (.missingOpenParen raw) ↔ '(' ∉ raw := by
  refine ⟨?_, split_of_no_open⟩
  intro fails
  rcases lacks_or_spelled raw with lacks | ⟨front, rest, rfl, frontOpen, restOpen⟩ |
    ⟨spelled, rfl⟩
  · exact lacks
  · rw [split_of_no_close frontOpen restOpen] at fails
    cases fails
  · rw [split_spelling] at fails
    cases fails

theorem split_eq_missingCloseParen_iff (raw : Text) :
    split raw = .error (.missingCloseParen raw) ↔
      ∃ front rest, raw = front ++ '(' :: rest ∧ '(' ∉ front ∧ ')' ∉ rest := by
  constructor
  · intro fails
    rcases lacks_or_spelled raw with lacks | closeless | ⟨spelled, rfl⟩
    · rw [split_of_no_open lacks] at fails
      cases fails
    · exact closeless
    · rw [split_spelling] at fails
      cases fails
  · rintro ⟨front, rest, rfl, frontOpen, restOpen⟩
    exact split_of_no_close frontOpen restOpen

/-- Splitting fails just for want of an opening parenthesis or of a closing one behind it.
Any other text is spelled in exactly one way, and gives the name and the arguments of its
spelling; the spaces between them and what stands behind the list have no part in it. -/
theorem split_decomposes (raw : Text) :
    (split raw = .error (.missingOpenParen raw) ↔ '(' ∉ raw) ∧
      (split raw = .error (.missingCloseParen raw) ↔
        ∃ front rest, raw = front ++ '(' :: rest ∧ '(' ∉ front ∧ ')' ∉ rest) ∧
      (split raw = .error (.missingOpenParen raw) ∨
        split raw = .error (.missingCloseParen raw) ∨
          ∃ spelled : SignatureSpelling,
            spelled.spelling = raw ∧ split raw = .ok spelled.signature) ∧
      ∀ first second : SignatureSpelling,
        (first.spelling = second.spelling ↔ first = second) ∧
          (split first.spelling = split second.spelling ↔
            first.name = second.name ∧ first.args = second.args) := by
  refine ⟨split_eq_missingOpenParen_iff raw, split_eq_missingCloseParen_iff raw, ?_, ?_⟩
  · rcases lacks_or_spelled raw with lacks | closeless | ⟨spelled, whole⟩
    · exact Or.inl (split_of_no_open lacks)
    · exact Or.inr (Or.inl ((split_eq_missingCloseParen_iff raw).mpr closeless))
    · refine Or.inr (Or.inr ⟨spelled, whole, ?_⟩)
      rw [← whole, split_spelling]
  · intro first second
    refine ⟨⟨SignatureSpelling.spelling_inj, congrArg _⟩, ?_⟩
    rw [split_spelling, split_spelling]
    constructor
    · intro same
      injection same with signatures
      exact ⟨congrArg Signature.name signatures, congrArg Signature.args signatures⟩
    · rintro ⟨names, args⟩
      rw [SignatureSpelling.signature, SignatureSpelling.signature, names, args]

/-- Closing parentheses in front of the list do not end it, and those inside belong to it. -/
example : split "F) (f func(), g T) error".toList =
    .ok ⟨"F)".toList, "f func(), g T".toList, "f, g".toList⟩ := by
  decide

end Signature

/-! ### The names of parameters -/

/-- The first longest run of characters that are not spaces; it is empty only if there are
none. -/
inductive FirstWord : Text → Text → Prop
  | missing {text : Text} (spaces : ∀ c ∈ text, Text.isSpace c = true) : FirstWord text []
  | run {lead word rest : Text} (leadSpace : ∀ c ∈ lead, Text.isSpace c = true)
      (nonempty : word ≠ []) (spaceless : ∀ c ∈ word, Text.isSpace c = false)
      (ends : ∀ c ∈ rest.head?, Text.isSpace c = true) :
      FirstWord (lead ++ (word ++ rest)) word

namespace Signature

theorem firstWord_of_spaces {text : Text} (spaces : ∀ c ∈ text, Text.isSpace c = true) :
    firstWord text = [] := by
  rw [firstWord, List.dropWhile_eq_nil_iff.mpr spaces]
  rfl

theorem firstWord_of_run {lead word rest : Text} (leadSpace : ∀ c ∈ lead, Text.isSpace c = true)
    (nonempty : word ≠ []) (spaceless : ∀ c ∈ word, Text.isSpace c = false)
    (ends : ∀ c ∈ rest.head?, Text.isSpace c = true) :
    firstWord (lead ++ (word ++ rest)) = word := by
  have begins : ∀ c ∈ (word ++ rest).head?, Text.isSpace c = false := by
    intro c first
    obtain ⟨d, later, rfl⟩ := List.exists_cons_of_ne_nil nonempty
    obtain rfl : d = c := Option.some.inj first
    exact spaceless d List.mem_cons_self
  have kept : word.takeWhile (fun c => !Text.isSpace c) = word := by
    rw [List.takeWhile_eq_self_iff]
    intro c member
    rw [spaceless c member]
    rfl
  have stops : ∀ c ∈ rest.head?, (!Text.isSpace c) = false := by
    intro c first
    rw [ends c first]
    rfl
  rw [firstWord, List.dropWhile_append_of_pos leadSpace, Text.dropWhile_eq_self begins,
    Text.takeWhile_append_of_ends stops, kept]

theorem firstWord_eq_iff (text word : Text) : firstWord text = word ↔ FirstWord text word := by
  constructor
  · rintro rfl
    have parts := List.takeWhile_append_dropWhile (p := Text.isSpace) (l := text)
    cases behind : text.dropWhile Text.isSpace with
    | nil =>
        have spaces := List.dropWhile_eq_nil_iff.mp behind
        rw [firstWord_of_spaces spaces]
        exact .missing spaces
    | cons c later =>
        have begins : Text.isSpace c = false := by
          apply Text.head?_dropWhile text
          rw [behind]
          rfl
        have word : firstWord text = c :: later.takeWhile fun d => !Text.isSpace d := by
          rw [firstWord, behind, List.takeWhile_cons_of_pos (by rw [begins]; rfl)]
        rw [word]
        have run : FirstWord (text.takeWhile Text.isSpace ++
            ((c :: later.takeWhile fun d => !Text.isSpace d) ++
              later.dropWhile fun d => !Text.isSpace d))
            (c :: later.takeWhile fun d => !Text.isSpace d) := by
          refine .run (fun d => List.mem_takeWhile_imp) (List.cons_ne_nil _ _) ?_ ?_
          · intro d member
            rcases List.mem_cons.mp member with rfl | inRun
            · exact begins
            · simpa using List.mem_takeWhile_imp inRun
          · intro d first
            simpa using Text.head?_dropWhile later d first
        rw [List.cons_append, List.takeWhile_append_dropWhile, ← behind, parts] at run
        exact run
  · intro first
    cases first with
    | missing spaces => exact firstWord_of_spaces spaces
    | run leadSpace nonempty spaceless ends =>
        exact firstWord_of_run leadSpace nonempty spaceless ends

theorem free_of_firstWord {c : Char} {text : Text} (free : c ∉ text) : c ∉ firstWord text :=
  fun member => free ((List.dropWhile_suffix _).subset ((List.takeWhile_prefix _).subset member))

theorem namesOf_of_unbroken {piece : Text} (unbroken : ',' ∉ piece) :
    namesOf piece = [firstWord piece] := by
  rw [namesOf, List.splitOn_eq_singleton unbroken, List.map_singleton]

theorem intercalate_namesOf_append {piece : Text} (unbroken : ',' ∉ piece) (rest : Text) :
    ", ".toList.intercalate (namesOf (piece ++ ',' :: rest)) =
      firstWord piece ++ ',' :: ' ' :: ", ".toList.intercalate (namesOf rest) := by
  obtain ⟨next, others, pieces⟩ := List.exists_cons_of_ne_nil (List.splitOn_ne_nil ',' rest)
  rw [namesOf, namesOf, List.splitOn_append_cons_self_of_not_mem unbroken, pieces, List.map_cons,
    List.map_cons, List.intercalate_cons_cons, List.append_assoc]
  rfl

theorem splitOnPair_argNames (args : Text) :
    Text.splitOnPair ',' ' ' (", ".toList.intercalate (namesOf args)) = namesOf args := by
  apply Text.splitOnPair_intercalate
  · rw [namesOf, ne_eq, List.map_eq_nil_iff]
    exact List.splitOn_ne_nil ',' args
  · rw [namesOf, List.forall_mem_map]
    intro piece member
    exact free_of_firstWord (Text.free_of_mem_splitOn piece member)

theorem argNames_of_split {raw : Text} {signature : Signature}
    (splits : split raw = .ok signature) :
    signature.argNames = ", ".toList.intercalate (namesOf signature.args) := by
  obtain ⟨spelled, -, rfl⟩ := exists_of_split splits
  rfl

end Signature

/-- A parameter as it is written: a name and a type, with spaces in front of both. -/
structure Parameter where
  lead : Text
  name : Text
  gap : Text
  type : Text
  leadSpace : ∀ c ∈ lead, Text.isSpace c = true
  nameNonempty : name ≠ []
  nameWord : ∀ c ∈ name, c ≠ ',' ∧ Text.isSpace c = false
  gapNonempty : gap ≠ []
  gapSpace : ∀ c ∈ gap, Text.isSpace c = true
  typeUnbroken : ',' ∉ type

namespace Parameter

def print (parameter : Parameter) : Text :=
  parameter.lead ++ (parameter.name ++ (parameter.gap ++ parameter.type))

def printList (parameters : List Parameter) : Text :=
  [','].intercalate (parameters.map print)

theorem firstWord_print (parameter : Parameter) :
    FirstWord parameter.print parameter.name := by
  refine .run parameter.leadSpace parameter.nameNonempty
    (fun c member => (parameter.nameWord c member).2) ?_
  intro c first
  obtain ⟨d, later, gap⟩ := List.exists_cons_of_ne_nil parameter.gapNonempty
  rw [gap] at first
  obtain rfl : d = c := Option.some.inj first
  apply parameter.gapSpace
  rw [gap]
  exact List.mem_cons_self

theorem print_unbroken (parameter : Parameter) : ',' ∉ parameter.print := by
  have comma : Text.isSpace ',' = false := by decide
  intro present
  rcases List.mem_append.mp present with inLead | present
  · rw [parameter.leadSpace ',' inLead] at comma
    cases comma
  · rcases List.mem_append.mp present with inName | present
    · exact (parameter.nameWord ',' inName).1 rfl
    · rcases List.mem_append.mp present with inGap | inType
      · rw [parameter.gapSpace ',' inGap] at comma
        cases comma
      · exact parameter.typeUnbroken inType

theorem namesOf_printList {parameters : List Parameter} (nonempty : parameters ≠ []) :
    Signature.namesOf (printList parameters) = parameters.map name := by
  have unbroken : ∀ piece ∈ parameters.map print, ',' ∉ piece :=
    List.forall_mem_map.mpr fun parameter _ => parameter.print_unbroken
  have pieces : parameters.map print ≠ [] := by
    rw [ne_eq, List.map_eq_nil_iff]
    exact nonempty
  rw [Signature.namesOf, printList, List.splitOn_intercalate ',' unbroken pieces, List.map_map]
  refine List.map_congr_left fun parameter _ => ?_
  exact (Signature.firstWord_eq_iff _ _).mpr parameter.firstWord_print

def spaced (name type : Text) (nonempty : name ≠ [])
    (word : ∀ c ∈ name, c ≠ ',' ∧ Text.isSpace c = false) (unbroken : ',' ∉ type) :
    Parameter where
  lead := []
  name := name
  gap := [' ']
  type := type
  leadSpace := nofun
  nameNonempty := nonempty
  nameWord := word
  gapNonempty := List.cons_ne_nil ' ' []
  gapSpace := List.forall_mem_singleton.mpr rfl
  typeUnbroken := unbroken

def pageParameters : List Parameter :=
  [ spaced "title".toList "string".toList (by decide) (by simp [Text.isSpace]) (by decide),
    { lead := "\n\t".toList
      name := "label".toList
      gap := "  ".toList
      type := "func() (string)".toList
      leadSpace := by simp [Text.isSpace]
      nameNonempty := by decide
      nameWord := by simp [Text.isSpace]
      gapNonempty := by decide
      gapSpace := by simp [Text.isSpace]
      typeUnbroken := by decide }]

end Parameter

namespace Signature

/-- There is a name for each piece between two commas, the first word of the piece, and
splitting the joined names gives exactly these.  Printed parameters give their names. -/
theorem split_names_parameters :
    (∀ raw signature, split raw = .ok signature →
      List.Forall₂ FirstWord (signature.args.splitOn ',')
        (Text.splitOnPair ',' ' ' signature.argNames)) ∧
      ∀ (function : Text) (parameters : List Parameter), '(' ∉ function →
        (∀ c ∈ function.getLast?, Text.isSpace c = false) → parameters ≠ [] →
          split (function ++ "(".toList ++ Parameter.printList parameters ++ ")".toList) =
            .ok {
              name := function
              args := Parameter.printList parameters
              argNames := ", ".toList.intercalate (parameters.map Parameter.name) } := by
  constructor
  · intro raw signature splits
    rw [argNames_of_split splits, splitOnPair_argNames, namesOf, List.forall₂_map_right_iff,
      List.forall₂_same]
    intro piece _
    exact (firstWord_eq_iff _ _).mp rfl
  · intro function parameters nameOpen nameEnds nonempty
    let spelled : SignatureSpelling := {
      name := function
      gap := []
      args := Parameter.printList parameters
      tail := []
      nameOpen := nameOpen
      nameEnds := nameEnds
      gapSpace := nofun
      tailOpen := List.not_mem_nil }
    have whole : function ++ "(".toList ++ Parameter.printList parameters ++ ")".toList =
        spelled.spelling := by
      simp [SignatureSpelling.spelling, spelled]
    rw [whole, split_spelling, SignatureSpelling.signature, Parameter.namesOf_printList nonempty]

theorem split_names_page_parameters :
    split "Page(title string,\n\tlabel  func() (string))".toList =
        .ok {
          name := "Page".toList
          args := "title string,\n\tlabel  func() (string)".toList
          argNames := "title, label".toList } ∧
      List.Forall₂ FirstWord ["title string".toList, "\n\tlabel  func() (string)".toList]
        ["title".toList, "label".toList] := by
  have splits := split_names_parameters.2 "Page".toList Parameter.pageParameters (by decide)
    (by simp [Text.isSpace]) (by decide)
  exact ⟨splits, split_names_parameters.1 _ _ splits⟩

end Signature
end Stencil
