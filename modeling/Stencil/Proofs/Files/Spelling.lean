/-
How the spelling of a path gives its steps.

What stands in front of the last name of a path is empty or ends with a slash.  The
steps of the path are then those of the front and the name, so that a longer last name,
or one more name behind a slash, changes the last step only.

A step on the spot or to the directory above ends at a directory.  So a path that leads
anywhere else ends with a name of its own, and where that name is not followed as a link,
it is the name of the place.
-/

import Stencil.Generation
import Stencil.Proofs.Files.Walk
import Stencil.Proofs.Text.Pair

namespace Stencil
namespace FilePath

/-- The pieces of a path between its slashes, without the empty ones. -/
def pieces (path : Text) : List Text :=
  (path.splitOn '/').filter (· != [])

/-- What can stand in front of the last name of a path. -/
def IsFront (front : Text) : Prop :=
  front = [] ∨ ∃ start, front = start ++ ['/']

theorem pieces_append {front : Text} (isFront : IsFront front) (rest : Text) :
    pieces (front ++ rest) = pieces front ++ pieces rest := by
  rcases isFront with rfl | ⟨start, rfl⟩
  · rfl
  · have frontPieces : pieces (start ++ ['/']) = pieces start := by
      rw [pieces, List.splitOn_append_cons_self, List.splitOn_nil, List.filter_append]
      simp [pieces]
    rw [frontPieces, List.append_assoc, List.singleton_append, pieces,
      List.splitOn_append_cons_self, List.filter_append]
    rfl

theorem pieces_eq_filter {text : Text} (noSlash : '/' ∉ text) :
    pieces text = [text].filter (· != []) := by
  rw [pieces, List.splitOn_eq_singleton noSlash]

theorem pieces_name {name : Text} (nonempty : name ≠ []) (noSlash : '/' ∉ name) :
    pieces name = [name] := by
  rw [pieces_eq_filter noSlash]
  simp [nonempty]

theorem steps_eq (path : Text) :
    steps path = pieces path ++ if path.getLast? == some '/' then [here] else [] := rfl

theorem names_eq_filter (path : Text) : names path = (pieces path).filter (· != here) := by
  rw [names, pieces, List.filter_filter]
  congr 1
  funext name
  exact Bool.and_comm _ _

theorem absolute_eq (directory : Place) (path : Text) :
    absolute directory path = origin directory path ++ names path := by
  unfold absolute origin
  cases isAbsolute path with
  | true => rfl
  | false => rfl

section LastName

variable {front name : Text} (isFront : IsFront front) (nonempty : name ≠ [])
  (noSlash : '/' ∉ name)

include isFront nonempty noSlash

theorem pieces_front_name : pieces (front ++ name) = pieces front ++ [name] := by
  rw [pieces_append isFront, pieces_name nonempty noSlash]

theorem steps_front_name : steps (front ++ name) = pieces front ++ [name] := by
  have notAtEnd : (front ++ name).getLast? ≠ some '/' := by
    rw [List.getLast?_append, List.getLast?_eq_some_getLast nonempty]
    intro atEnd
    exact noSlash (Option.some.inj atEnd ▸ List.getLast_mem nonempty)
  have notEnded : ((front ++ name).getLast? == some '/') = false :=
    beq_eq_false_iff_ne.mpr notAtEnd
  rw [steps_eq, notEnded, pieces_front_name isFront nonempty noSlash]
  exact List.append_nil _

theorem names_front_name (notHere : name ≠ here) :
    names (front ++ name) = names front ++ [name] := by
  rw [names_eq_filter, pieces_front_name isFront nonempty noSlash, List.filter_append,
    ← names_eq_filter]
  simp [notHere]

theorem isAbsolute_front_name : isAbsolute (front ++ name) = isAbsolute front := by
  rcases isFront with rfl | ⟨start, rfl⟩
  · cases name with
    | nil => exact absurd rfl nonempty
    | cons c rest =>
        have different : c ≠ '/' := by
          rintro rfl
          exact noSlash List.mem_cons_self
        simp [isAbsolute, different]
  · cases start with
    | nil => rfl
    | cons c start => rfl

theorem origin_front_name (directory : Place) :
    origin directory (front ++ name) = origin directory front := by
  rw [origin, isAbsolute_front_name isFront nonempty noSlash, origin]

theorem absolute_front_name (notHere : name ≠ here) (directory : Place) :
    (absolute directory (front ++ name)).dropLast = absolute directory front := by
  rw [absolute_eq, absolute_eq, origin_front_name isFront nonempty noSlash,
    names_front_name isFront nonempty noSlash notHere, ← List.append_assoc,
    List.dropLast_concat]

theorem fileName?_front_name (notHere : name ≠ here) (notAbove : name ≠ above) :
    fileName? (front ++ name) = some name := by
  rw [fileName?, names_front_name isFront nonempty noSlash notHere]
  simp [notAbove]

end LastName

/-- Every path has a last piece, which may be empty. -/
theorem exists_front_name (path : Text) :
    ∃ front name, path = front ++ name ∧ IsFront front ∧ '/' ∉ name := by
  induction path with
  | nil => exact ⟨[], [], rfl, Or.inl rfl, by simp⟩
  | cons c rest ih =>
      obtain ⟨front, name, rfl, isFront, noSlash⟩ := ih
      rcases isFront with rfl | ⟨start, rfl⟩
      · by_cases atSlash : c = '/'
        · exact ⟨['/'], name, by simp [atSlash], Or.inr ⟨[], rfl⟩, noSlash⟩
        · refine ⟨[], c :: name, rfl, Or.inl rfl, ?_⟩
          rw [List.mem_cons, not_or]
          exact ⟨Ne.symm atSlash, noSlash⟩
      · exact ⟨c :: start ++ ['/'], name, by simp, Or.inr ⟨c :: start, rfl⟩, noSlash⟩

def frontOf (base : Text) : Text :=
  if base.isEmpty || base.getLast? == some '/' then base else base ++ ['/']

theorem join_eq (base name : Text) : join base name = frontOf base ++ name := by
  rw [join, frontOf]
  split
  · rfl
  · simp

theorem isFront_frontOf (base : Text) : IsFront (frontOf base) := by
  unfold frontOf
  split
  · rename_i ended
    rcases Bool.or_eq_true_iff.mp ended with isEmpty | slash
    · exact Or.inl (List.isEmpty_iff.mp isEmpty)
    · obtain ⟨start, rfl⟩ := List.getLast?_eq_some_iff.mp (beq_iff_eq.mp slash)
      exact Or.inr ⟨start, rfl⟩
  · exact Or.inr ⟨base, rfl⟩

theorem pieces_frontOf (base : Text) : pieces (frontOf base) = pieces base := by
  unfold frontOf
  split
  · rfl
  · rw [pieces, List.splitOn_append_cons_self, List.splitOn_nil, List.filter_append]
    simp [pieces]

theorem isAbsolute_frontOf (base : Text) : isAbsolute (frontOf base) = isAbsolute base := by
  unfold frontOf
  split
  · rfl
  · rename_i notEnded
    cases base with
    | nil => simp at notEnded
    | cons c rest => rfl

theorem pieces_extend {names : List Text} (named : ∀ name ∈ names, IsName name)
    (base : Text) : pieces (extend base names) = pieces base ++ names := by
  induction names generalizing base with
  | nil => exact (List.append_nil _).symm
  | cons name rest ih =>
      have isName := named name List.mem_cons_self
      have others : ∀ other ∈ rest, IsName other := fun other present =>
        named other (List.mem_cons_of_mem name present)
      show pieces (extend (join base name) rest) = _
      rw [ih others, join_eq,
        pieces_front_name (isFront_frontOf base) isName.nonempty isName.noSlash,
        pieces_frontOf, List.append_assoc]
      rfl

theorem isAbsolute_extend {names : List Text} (named : ∀ name ∈ names, IsName name)
    (base : Text) : isAbsolute (extend base names) = isAbsolute base := by
  induction names generalizing base with
  | nil => rfl
  | cons name rest ih =>
      have isName := named name List.mem_cons_self
      have others : ∀ other ∈ rest, IsName other := fun other present =>
        named other (List.mem_cons_of_mem name present)
      show isAbsolute (extend (join base name) rest) = _
      rw [ih others, join_eq,
        isAbsolute_front_name (isFront_frontOf base) isName.nonempty isName.noSlash,
        isAbsolute_frontOf]

theorem extend_concat (base : Text) (names : List Text) (name : Text) :
    extend base (names ++ [name]) = frontOf (extend base names) ++ name := by
  rw [← join_eq, extend, List.foldl_append]
  rfl

theorem extension?_extend (root : Text) (names : List Text) {name : Text}
    (isName : IsName name) : extension? (extend root (names ++ [name])) = extensionOf? name := by
  rw [extend_concat, extension?, fileName?_front_name (isFront_frontOf _) isName.nonempty
    isName.noSlash isName.notHere isName.notAbove]
  rfl

/-- The extension stands behind the last dot of a name, and something in front of it. -/
def HasExtension (extension name : Text) : Prop :=
  ∃ stem ≠ [], name = stem ++ '.' :: extension ∧ '.' ∉ extension

theorem extensionOf?_append {stem tail : Text} (nonempty : stem ≠ []) (free : '.' ∉ tail) :
    extensionOf? (stem ++ '.' :: tail) = some tail := by
  have turned : (stem ++ '.' :: tail).reverse = tail.reverse ++ '.' :: stem.reverse := by simp
  have freeTurned : '.' ∉ tail.reverse := fun present => free (List.mem_reverse.mp present)
  obtain ⟨last, others, spelled⟩ :=
    List.exists_cons_of_ne_nil (List.reverse_ne_nil_iff.mpr nonempty)
  rw [extensionOf?, turned, Text.dropWhile_ne_append freeTurned,
    Text.takeWhile_ne_append freeTurned, spelled]
  dsimp only
  rw [List.reverse_reverse]

theorem extensionOf?_eq_some_iff {extension name : Text} :
    extensionOf? name = some extension ↔ HasExtension extension name := by
  constructor
  · intro found
    by_cases dotted : '.' ∈ name
    · obtain ⟨stem, tail, rfl, free⟩ := Text.exists_last_of_mem dotted
      have nonempty : stem ≠ [] := by
        rintro rfl
        have freeTurned : '.' ∉ tail.reverse := fun present => free (List.mem_reverse.mp present)
        rw [extensionOf?, List.nil_append, List.reverse_cons,
          Text.dropWhile_ne_append freeTurned] at found
        cases found
      rw [extensionOf?_append nonempty free] at found
      obtain rfl := Option.some.inj found
      exact ⟨stem, nonempty, rfl, free⟩
    · rw [extensionOf?, Text.dropWhile_ne_of_free fun present =>
        dotted (List.mem_reverse.mp present)] at found
      cases found
  · rintro ⟨stem, nonempty, rfl, free⟩
    exact extensionOf?_append nonempty free

theorem outputPath_append (front name : Text) :
    outputPath (front ++ name) = front ++ outputPath name := by
  rw [outputPath, List.append_assoc, outputPath]

theorem outputPath_ne_nil (name : Text) : outputPath name ≠ [] := by
  simp [outputPath]

theorem outputPath_ne_here (name : Text) : outputPath name ≠ here := by
  intro same
  have length := congrArg List.length same
  simp [outputPath, here] at length

theorem outputPath_ne_above (name : Text) : outputPath name ≠ above := by
  intro same
  have length := congrArg List.length same
  simp [outputPath, above] at length

theorem noSlash_outputPath {name : Text} (noSlash : '/' ∉ name) : '/' ∉ outputPath name := by
  intro present
  rcases List.mem_append.mp present with inName | inEnding
  · exact noSlash inName
  · exact absurd inEnding (by decide)

theorem not_go_suffix_of_extensionOf? {name extension : Text}
    (found : extensionOf? name = some extension) (different : extension ≠ "go".toList) :
    ¬ ".go".toList <:+ name := by
  rintro ⟨stem, rfl⟩
  by_cases isEmpty : stem = []
  · subst isEmpty
    revert found
    simp [extensionOf?]
  · have isGo : extensionOf? (stem ++ ".go".toList) = some "go".toList :=
      extensionOf?_append isEmpty (by decide)
    rw [isGo] at found
    exact different (Option.some.inj found).symm

/-! ### The last name -/

/-- A step that stays among the directories already passed. -/
def Stays (step : Text) : Prop :=
  step = here ∨ step = above

section

variable {tree : FileTree} {follow : Bool} {step : Text} (stays : Stays step)

include stays

theorem directory_of_walkTo_stays {jump : Jump} {place target : Place} {first : List Text}
    (afterJump : ∀ place steps, jump place (steps ++ [step]) = .ok target →
      tree.find? target = some .directory)
    (walked : walkTo tree follow jump place (first ++ [step]) = .ok target) :
    tree.find? target = some .directory := by
  fun_induction walkTo tree follow jump place first
  case case1 place =>
    have inDirectory := start_of_walkTo walked
    rcases stays with rfl | rfl
    · rw [List.nil_append, walkTo_here inDirectory, walkTo] at walked
      cases walked
      exact inDirectory
    · rw [List.nil_append, walkTo_above inDirectory, walkTo] at walked
      cases walked
      exact tree.parent_of_found inDirectory
  case case2 place others inDirectory ih =>
    rw [List.cons_append, walkTo_here inDirectory] at walked
    exact ih walked
  case case3 place others inDirectory notHere ih =>
    rw [List.cons_append, walkTo_above inDirectory] at walked
    exact ih walked
  case case4 place next others inDirectory notHere notAbove long =>
    rw [List.cons_append, walkTo_long inDirectory notHere notAbove long] at walked
    cases walked
  case case5 place next others inDirectory notHere notAbove short absent _ |
      case6 place next others inDirectory notHere notAbove short absent _ =>
    rw [List.cons_append, walkTo_free inDirectory notHere notAbove short absent,
      if_neg (by simp)] at walked
    cases walked
  case case7 place next others inDirectory notHere notAbove short text isLink _ |
      case8 place next others inDirectory notHere notAbove short text isLink _ =>
    rw [List.cons_append, walkTo_link inDirectory notHere notAbove short isLink,
      if_neg (by simp), ← List.append_assoc] at walked
    exact afterJump _ _ walked
  case case9 place next others inDirectory notHere notAbove short entry noLink found ih =>
    rw [List.cons_append, walkTo_entry inDirectory notHere notAbove short found noLink] at walked
    exact ih walked
  case case10 outside =>
    rw [List.cons_append, walkTo_outside outside] at walked
    cases walked

theorem directory_of_walk_stays {links : Nat} {place target : Place} {first : List Text}
    (walked : walk tree follow links place (first ++ [step]) = .ok target) :
    tree.find? target = some .directory := by
  induction links generalizing place first with
  | zero =>
      refine directory_of_walkTo_stays stays ?_ walked
      intro place steps jumped
      cases jumped
  | succ links ih =>
      exact directory_of_walkTo_stays stays (fun place steps jumped => ih jumped) walked

end

structure EndsWith (path front name : Text) : Prop where
  spelled : path = front ++ name
  isFront : IsFront front
  nonempty : name ≠ []
  noSlash : '/' ∉ name
  notHere : name ≠ here
  notAbove : name ≠ above

namespace EndsWith

variable {path front name : Text} (ends : EndsWith path front name)

include ends

theorem steps_eq : steps path = pieces front ++ [name] := by
  rw [ends.spelled, steps_front_name ends.isFront ends.nonempty ends.noSlash]

theorem fileName? : fileName? path = some name := by
  rw [ends.spelled, fileName?_front_name ends.isFront ends.nonempty ends.noSlash ends.notHere
    ends.notAbove]

theorem start_of_locate {tree : FileTree} {follow : Bool} {directory place : Place}
    {entry : Entry} (located : locate tree follow directory path = .ok (place, entry)) :
    tree.find? (origin directory path) = some .directory := by
  obtain ⟨resolved, -⟩ := locate_eq_ok_iff.mp located
  have walked := (resolve_eq_ok_iff.mp resolved).2
  obtain ⟨step, rest, spelled⟩ := List.exists_cons_of_ne_nil
    (List.append_ne_nil_of_right_ne_nil (pieces front) (List.cons_ne_nil name []))
  rw [ends.steps_eq, spelled, walk_eq] at walked
  exact start_of_walkTo walked

end EndsWith

variable {tree : FileTree} {follow : Bool} {directory place : Place} {path : Text}
  {entry : Entry} (located : locate tree follow directory path = .ok (place, entry))
  (notDirectory : entry ≠ .directory)

include located notDirectory

theorem exists_endsWith_of_locate : ∃ front name, EndsWith path front name := by
  obtain ⟨resolved, found⟩ := locate_eq_ok_iff.mp located
  obtain ⟨noFault, walked⟩ := resolve_eq_ok_iff.mp resolved
  have moves {first : List Text} {step : Text} (spelled : steps path = first ++ [step]) :
      ¬ Stays step := by
    intro stays
    rw [spelled] at walked
    have inDirectory := directory_of_walk_stays stays walked
    rw [found] at inDirectory
    exact notDirectory (Option.some.inj inDirectory)
  obtain ⟨front, name, rfl, isFront, noSlash⟩ := exists_front_name path
  have nonempty : name ≠ [] := by
    rintro rfl
    rcases isFront with rfl | ⟨start, rfl⟩
    · exact path_nonempty noFault rfl
    · have spelled : steps (start ++ ['/'] ++ []) = pieces (start ++ ['/']) ++ [here] := by
        simp [FilePath.steps_eq]
      exact moves spelled (Or.inl rfl)
  have last := moves (steps_front_name isFront nonempty noSlash)
  exact ⟨front, name, rfl, isFront, nonempty, noSlash, fun same => last (Or.inl same),
    fun same => last (Or.inr same)⟩

end FilePath
end Stencil
