/-
Walks through a tree.

Steps through directories alone lead to the same place in every tree that has these
directories, however many links may be followed.

A walk visits an entry and, if it is a directory, walks through what is in it, name by name
in the order of the bytes.  Links are visited but not entered.  By induction on the walk, the
entries visited are those that can be found below the start, and they come in the order of
the names that lead to them: what is below a name begins with that name and so stands between
the name and the next one.
-/

import Stencil.Proofs.Files.Walk
import Stencil.Proofs.Text.Encoding

namespace Stencil
namespace FilePath

/-- Some steps lead from a directory to a directory and meet nothing but directories. -/
inductive Reaches (tree : FileTree) : Place → List Text → Place → Prop where
  | stop {place : Place} (inDirectory : tree.find? place = some .directory) :
      Reaches tree place [] place
  | stay {place last : Place} {rest : List Text}
      (inDirectory : tree.find? place = some .directory) (onward : Reaches tree place rest last) :
      Reaches tree place (here :: rest) last
  | leave {place last : Place} {rest : List Text}
      (inDirectory : tree.find? place = some .directory)
      (onward : Reaches tree place.dropLast rest last) :
      Reaches tree place (above :: rest) last
  | enter {place last : Place} {step : Text} {rest : List Text}
      (inDirectory : tree.find? place = some .directory)
      (notHere : step ≠ here) (notAbove : step ≠ above)
      (short : ¬ nameLimit < Text.byteLength step)
      (onward : Reaches tree (place ++ [step]) rest last) :
      Reaches tree place (step :: rest) last

namespace Reaches

variable {tree : FileTree} {place last : Place} {steps : List Text}

theorem start_directory (reaches : Reaches tree place steps last) :
    tree.find? place = some .directory := by
  cases reaches with
  | stop inDirectory => exact inDirectory
  | stay inDirectory onward => exact inDirectory
  | leave inDirectory onward => exact inDirectory
  | enter inDirectory notHere notAbove short onward => exact inDirectory

theorem last_directory (reaches : Reaches tree place steps last) :
    tree.find? last = some .directory := by
  induction reaches with
  | stop inDirectory => exact inDirectory
  | stay inDirectory onward ih => exact ih
  | leave inDirectory onward ih => exact ih
  | enter inDirectory notHere notAbove short onward ih => exact ih

theorem walkTo_append (reaches : Reaches tree place steps last) (follow : Bool)
    (jump : Jump) (rest : List Text) :
    walkTo tree follow jump place (steps ++ rest) = walkTo tree follow jump last rest := by
  induction reaches with
  | stop inDirectory => rfl
  | stay inDirectory onward ih => rw [List.cons_append, walkTo_here inDirectory, ih]
  | leave inDirectory onward ih => rw [List.cons_append, walkTo_above inDirectory, ih]
  | enter inDirectory notHere notAbove short onward ih =>
      rw [List.cons_append, walkTo_entry inDirectory notHere notAbove short
        onward.start_directory (by simp), ih]

theorem walk_append (reaches : Reaches tree place steps last) (follow : Bool) (links : Nat)
    (rest : List Text) :
    walk tree follow links place (steps ++ rest) = walk tree follow links last rest := by
  rw [walk_eq, reaches.walkTo_append]

theorem walk_eq_ok (reaches : Reaches tree place steps last) (follow : Bool) (links : Nat) :
    walk tree follow links place steps = .ok last := by
  have walked := reaches.walk_append follow links []
  rw [List.append_nil] at walked
  rw [walked, walk_eq, walkTo]

theorem mono {other : FileTree} (reaches : Reaches tree place steps last)
    (kept : ∀ place, tree.find? place = some .directory →
      other.find? place = some .directory) :
    Reaches other place steps last := by
  induction reaches with
  | stop inDirectory => exact .stop (kept _ inDirectory)
  | stay inDirectory onward ih => exact .stay (kept _ inDirectory) ih
  | leave inDirectory onward ih => exact .leave (kept _ inDirectory) ih
  | enter inDirectory notHere notAbove short onward ih =>
      exact .enter (kept _ inDirectory) notHere notAbove short ih

theorem append {middle : Place} {others : List Text} (reaches : Reaches tree place steps middle)
    (onward : Reaches tree middle others last) :
    Reaches tree place (steps ++ others) last := by
  induction reaches with
  | stop inDirectory => exact onward
  | stay inDirectory _ ih => exact .stay inDirectory (ih onward)
  | leave inDirectory _ ih => exact .leave inDirectory (ih onward)
  | enter inDirectory notHere notAbove short _ ih =>
      exact .enter inDirectory notHere notAbove short (ih onward)

theorem of_append_here (reaches : Reaches tree place (steps ++ [here]) last) :
    Reaches tree place steps last := by
  induction steps generalizing place with
  | nil =>
      cases reaches with
      | stay inDirectory onward => exact onward
      | enter inDirectory notHere notAbove short onward => exact absurd rfl notHere
  | cons step rest ih =>
      cases reaches with
      | stay inDirectory onward => exact .stay inDirectory (ih onward)
      | leave inDirectory onward => exact .leave inDirectory (ih onward)
      | enter inDirectory notHere notAbove short onward =>
          exact .enter inDirectory notHere notAbove short (ih onward)

theorem filter_here (reaches : Reaches tree place steps last) :
    Reaches tree place (steps.filter (· != here)) last := by
  induction reaches with
  | stop inDirectory => exact .stop inDirectory
  | stay inDirectory onward ih => simpa using ih
  | leave inDirectory onward ih =>
      rw [List.filter_cons_of_pos (by decide)]
      exact .leave inDirectory ih
  | enter inDirectory notHere notAbove short onward ih =>
      rw [List.filter_cons_of_pos (by simpa using notHere)]
      exact .enter inDirectory notHere notAbove short ih

theorem down {below : List Text} (found : tree.find? (place ++ below) = some .directory) :
    Reaches tree place below (place ++ below) := by
  induction below generalizing place with
  | nil =>
      rw [List.append_nil] at found ⊢
      exact .stop found
  | cons name rest ih =>
      have regroup : place ++ name :: rest = (place ++ [name]) ++ rest := by simp
      have isName := tree.named_of_found found name (by simp)
      rw [regroup] at found ⊢
      have onward := ih found
      have inDirectory : tree.find? place = some .directory := by
        simpa using tree.parent_of_found onward.start_directory
      exact .enter inDirectory isName.notHere isName.notAbove
        (Nat.not_lt.mpr isName.short) onward

end Reaches

theorem reaches_of_walkTo {tree : FileTree} {place target : Place} {steps : List Text}
    (walked : walkTo tree true noJump place steps = .ok target)
    (atEnd : tree.find? target = some .directory) : Reaches tree place steps target := by
  fun_induction walkTo tree true noJump place steps
  case case1 =>
    cases walked
    exact .stop atEnd
  case case2 place rest inDirectory ih => exact .stay inDirectory (ih walked)
  case case3 place rest inDirectory notHere ih => exact .leave inDirectory (ih walked)
  case case5 place step rest inDirectory notHere notAbove short absent last =>
    cases walked
    rw [absent] at atEnd
    cases atEnd
  case case7 last => simp at last
  case case9 place step rest inDirectory notHere notAbove short entry noLink found ih =>
    exact .enter inDirectory notHere notAbove short (ih walked)
  case case4 | case6 | case8 | case10 => cases walked

/-- Steps that end elsewhere than at a directory go through directories to a last name. -/
theorem reaches_front_of_walkTo {tree : FileTree} {place target : Place} {steps : List Text}
    (walked : walkTo tree true noJump place steps = .ok target)
    (start : tree.find? place = some .directory)
    (atEnd : tree.find? target ≠ some .directory) :
    ∃ front name directory, steps = front ++ [name] ∧ Reaches tree place front directory ∧
      target = directory ++ [name] := by
  fun_induction walkTo tree true noJump place steps
  case case1 =>
    cases walked
    exact absurd start atEnd
  case case2 place rest inDirectory ih =>
    obtain ⟨front, name, directory, rfl, reaches, rfl⟩ := ih walked start
    exact ⟨here :: front, name, directory, rfl, .stay start reaches, rfl⟩
  case case3 place rest inDirectory notHere ih =>
    obtain ⟨front, name, directory, rfl, reaches, rfl⟩ :=
      ih walked (tree.parent_of_found start)
    exact ⟨above :: front, name, directory, rfl, .leave start reaches, rfl⟩
  case case5 place step rest inDirectory notHere notAbove short absent last =>
    cases walked
    exact ⟨[], step, place, by simpa using last, .stop start, rfl⟩
  case case7 last => simp at last
  case case9 place step rest inDirectory notHere notAbove short entry noLink found ih =>
    by_cases inNext : tree.find? (place ++ [step]) = some .directory
    · obtain ⟨front, name, directory, rfl, reaches, rfl⟩ := ih walked inNext
      exact ⟨step :: front, name, directory, rfl,
        .enter start notHere notAbove short reaches, rfl⟩
    · cases rest with
      | nil =>
          rw [walkTo] at walked
          cases walked
          exact ⟨[], step, place, rfl, .stop start, rfl⟩
      | cons next rest =>
          rw [walkTo_outside inNext] at walked
          cases walked
  case case4 | case6 | case8 | case10 => cases walked

/-- Where no link is met, it does not matter what becomes of one. -/
theorem walkTo_of_linkless {tree : FileTree} {place : Place} {steps : List Text}
    (linkless : walkTo tree true noJump place steps ≠ .error .tooManyLinks) (follow : Bool)
    (jump : Jump) :
    walkTo tree follow jump place steps = walkTo tree true noJump place steps := by
  fun_induction walkTo tree true noJump place steps
  case case1 => rw [walkTo]
  case case2 place rest inDirectory ih =>
    rw [walkTo_here inDirectory]
    exact ih linkless
  case case3 place rest inDirectory notHere ih =>
    rw [walkTo_above inDirectory]
    exact ih linkless
  case case4 place step rest inDirectory notHere notAbove long =>
    exact walkTo_long inDirectory notHere notAbove long follow jump rest
  case case5 place step rest inDirectory notHere notAbove short absent last =>
    rw [walkTo_free inDirectory notHere notAbove short absent, if_pos last]
  case case6 place step rest inDirectory notHere notAbove short absent notLast =>
    rw [walkTo_free inDirectory notHere notAbove short absent, if_neg notLast]
  case case7 last => simp at last
  case case8 => exact absurd rfl linkless
  case case9 place step rest inDirectory notHere notAbove short entry noLink found ih =>
    rw [walkTo_entry inDirectory notHere notAbove short found noLink]
    exact ih linkless
  case case10 place step rest outside => exact walkTo_outside outside follow jump step rest

end FilePath

/-! ### Walks -/

namespace FileTree

variable {tree : FileTree} {place : Place}

/-- The names in a directory in the order of their bytes. -/
structure Listing (tree : FileTree) (place : Place) (names : List Text) : Prop where
  found : ∀ name, name ∈ names ↔ ∃ entry, tree.find? (place ++ [name]) = some entry
  ordered : names.Pairwise fun first second => first.utf8 < second.utf8

def behind (name : Text) (visited : List (List Text × Entry)) : List (List Text × Entry) :=
  visited.map fun item => (name :: item.1, item.2)

mutual

/-- A walk from a place visits some entries, each with the names that lead to it. -/
inductive Walk (tree : FileTree) : Place → List (List Text × Entry) → Prop where
  | leaf {place : Place} {entry : Entry} (found : tree.find? place = some entry)
      (isLeaf : entry ≠ .directory) : Walk tree place [([], entry)]
  | directory {place : Place} {names : List Text} {visited : List (List Text × Entry)}
      (found : tree.find? place = some .directory) (listing : tree.Listing place names)
      (inside : WalkEach tree place names visited) :
      Walk tree place (([], .directory) :: visited)

inductive WalkEach (tree : FileTree) : Place → List Text → List (List Text × Entry) → Prop where
  | done {place : Place} : WalkEach tree place [] []
  | next {place : Place} {name : Text} {names : List Text}
      {first others : List (List Text × Entry)} (walk : Walk tree (place ++ [name]) first)
      (onward : WalkEach tree place names others) :
      WalkEach tree place (name :: names) (behind name first ++ others)

end

theorem directory_of_found_below {names : List Text} {entry : Entry}
    (found : tree.find? (place ++ names) = some entry) (nonempty : names ≠ []) :
    tree.find? place = some .directory := by
  have parent := tree.parent_of_found found
  rw [List.dropLast_append_of_ne_nil nonempty] at parent
  exact (FilePath.Reaches.down parent).start_directory

theorem first_of_found_below {name : Text} {rest : List Text} {entry : Entry}
    (found : tree.find? (place ++ name :: rest) = some entry) :
    ∃ first, tree.find? (place ++ [name]) = some first := by
  by_cases isLast : rest = []
  · exact ⟨entry, by rw [← found, isLast]⟩
  · rw [List.append_cons] at found
    exact ⟨.directory, directory_of_found_below found isLast⟩

mutual

theorem Walk.mem_iff {place : Place} {visited : List (List Text × Entry)}
    (walk : tree.Walk place visited) (item : List Text × Entry) :
    item ∈ visited ↔ tree.find? (place ++ item.1) = some item.2 := by
  obtain ⟨names, entry⟩ := item
  match walk with
  | .leaf found isLeaf =>
      rw [List.mem_singleton, Prod.mk.injEq]
      constructor
      · rintro ⟨rfl, rfl⟩
        rwa [List.append_nil]
      · intro there
        have atStart : names = [] := by
          by_contra nonempty
          rw [directory_of_found_below there nonempty] at found
          exact isLeaf (Option.some.inj found).symm
        subst atStart
        rw [List.append_nil, found] at there
        exact ⟨rfl, (Option.some.inj there).symm⟩
  | .directory found listing inside =>
      rw [List.mem_cons, Prod.mk.injEq, inside.mem_iff]
      cases names with
      | nil => simp [found, eq_comm]
      | cons name rest =>
          simp only [reduceCtorEq, false_and, false_or]
          constructor
          · rintro ⟨_, _, _, _, there⟩
            exact there
          · intro there
            exact ⟨name, (listing.found name).mpr (first_of_found_below there), rest, rfl, there⟩

theorem WalkEach.mem_iff {place : Place} {names : List Text}
    {visited : List (List Text × Entry)} (walks : tree.WalkEach place names visited)
    (item : List Text × Entry) :
    item ∈ visited ↔ ∃ name ∈ names, ∃ rest, item.1 = name :: rest ∧
      tree.find? (place ++ item.1) = some item.2 := by
  obtain ⟨way, entry⟩ := item
  match walks with
  | .done => simp
  | @WalkEach.next _ _ name names first others walk onward =>
      have first_iff := walk.mem_iff
      rw [List.mem_append, onward.mem_iff]
      constructor
      · rintro (inFirst | ⟨next, inNames, isThere⟩)
        · obtain ⟨⟨rest, _⟩, visited, same⟩ := List.mem_map.mp inFirst
          cases same
          have there := (first_iff _).mp visited
          rw [← List.append_cons] at there
          exact ⟨name, List.mem_cons_self, rest, rfl, there⟩
        · exact ⟨next, List.mem_cons_of_mem _ inNames, isThere⟩
      · rintro ⟨next, listed, rest, rfl, there⟩
        rcases List.mem_cons.mp listed with rfl | inNames
        · rw [List.append_cons] at there
          exact Or.inl (List.mem_map.mpr ⟨(rest, entry), (first_iff _).mpr there, rfl⟩)
        · exact Or.inr ⟨next, inNames, rest, rfl, there⟩

end

abbrev InOrder (visited : List (List Text × Entry)) : Prop :=
  visited.Pairwise fun first second => first.1 < second.1

theorem inOrder_behind {name : Text} {visited : List (List Text × Entry)}
    (ordered : InOrder visited) : InOrder (behind name visited) :=
  List.pairwise_map.mpr (ordered.imp List.Lex.cons)

mutual

theorem Walk.inOrder {place : Place} {visited : List (List Text × Entry)}
    (walk : tree.Walk place visited) : InOrder visited := by
  match walk with
  | .leaf found isLeaf => exact List.pairwise_singleton _ _
  | .directory found listing inside =>
      refine List.pairwise_cons.mpr ⟨fun item present => ?_, inside.inOrder listing.ordered⟩
      obtain ⟨name, _, rest, spelled, _⟩ := (inside.mem_iff item).mp present
      rw [spelled]
      exact List.Lex.nil

theorem WalkEach.inOrder {place : Place} {names : List Text}
    {visited : List (List Text × Entry)} (walks : tree.WalkEach place names visited)
    (ordered : names.Pairwise fun first second => first.utf8 < second.utf8) :
    InOrder visited := by
  match walks with
  | .done => exact List.Pairwise.nil
  | @WalkEach.next _ _ name names first others walk onward =>
      obtain ⟨before, ordered⟩ := List.pairwise_cons.mp ordered
      refine List.pairwise_append.mpr
        ⟨inOrder_behind walk.inOrder, onward.inOrder ordered, ?_⟩
      intro item inFirst other inOthers
      obtain ⟨earlier, _, rfl⟩ := List.mem_map.mp inFirst
      obtain ⟨next, inNames, rest, spelled, _⟩ := (onward.mem_iff other).mp inOthers
      rw [spelled]
      exact List.Lex.rel (Text.lt_of_utf8_lt (before next inNames))

end

theorem isBelow_iff {place other : Place} :
    (place.isPrefixOf other && other != place) = true ↔ ∃ names ≠ [], other = place ++ names := by
  rw [Bool.and_eq_true_iff, List.isPrefixOf_iff_prefix, bne_iff_ne]
  constructor
  · rintro ⟨⟨names, rfl⟩, different⟩
    exact ⟨names, fun isEmpty => different (by rw [isEmpty, List.append_nil]), rfl⟩
  · rintro ⟨names, nonempty, rfl⟩
    have different : place ++ names ≠ place := fun same =>
      nonempty (List.append_right_eq_self.mp same)
    exact ⟨List.prefix_append place names, different⟩

theorem mem_below_iff (tree : FileTree) (place : Place) (item : List Text × Entry) :
    item ∈ tree.below place ↔ item.1 ≠ [] ∧ tree.find? (place ++ item.1) = some item.2 := by
  obtain ⟨names, entry⟩ := item
  unfold below
  simp only [List.mem_map, List.mem_filter, isBelow_iff, Prod.mk.injEq, Prod.exists]
  constructor
  · rintro ⟨_, _, ⟨listed, names, nonempty, rfl⟩, rfl, rfl⟩
    rw [List.drop_left]
    exact ⟨nonempty, (tree.find?_eq_some_iff (tree.rooted _ listed).1).mpr listed⟩
  · rintro ⟨nonempty, found⟩
    have notRoot : place ++ names ≠ [] := List.append_ne_nil_of_right_ne_nil place nonempty
    have listed := (tree.find?_eq_some_iff notRoot).mp found
    exact ⟨place ++ names, entry, ⟨listed, names, nonempty, rfl⟩, List.drop_left, rfl⟩

theorem lt_of_append_lt {place first second : List Text}
    (before : place ++ first < place ++ second) : first < second := by
  induction place with
  | nil => exact before
  | cons name rest ih => exact ih (List.cons_lt_cons_self.mp before)

theorem below_inOrder (tree : FileTree) (place : Place) : InOrder (tree.below place) := by
  refine List.pairwise_map.mpr ((tree.sorted.filter _).imp_of_mem ?_)
  intro first second inFirst inSecond before
  obtain ⟨names, _, sameFirst⟩ := isBelow_iff.mp (List.mem_filter.mp inFirst).2
  obtain ⟨others, _, sameSecond⟩ := isBelow_iff.mp (List.mem_filter.mp inSecond).2
  rw [sameFirst, sameSecond] at before ⊢
  rw [List.drop_left, List.drop_left]
  exact lt_of_append_lt before

/-- A walk visits its start and then what is listed below it, in the order of that list. -/
theorem Walk.eq_cons_below {visited : List (List Text × Entry)}
    (walk : tree.Walk place visited) {entry : Entry} (found : tree.find? place = some entry) :
    visited = ([], entry) :: tree.below place := by
  have listed : InOrder (([], entry) :: tree.below place) := by
    refine List.pairwise_cons.mpr ⟨fun item present => ?_, tree.below_inOrder place⟩
    obtain ⟨name, rest, spelled⟩ :=
      List.exists_cons_of_ne_nil ((tree.mem_below_iff place item).mp present).1
    rw [spelled]
    exact List.Lex.nil
  refine Entries.eq_of_mem_iff walk.inOrder listed fun item => ?_
  rw [walk.mem_iff, List.mem_cons, mem_below_iff]
  obtain ⟨names, other⟩ := item
  cases names with
  | nil => simp [found, eq_comm]
  | cons name rest => simp

def ownName? (item : List Text × Entry) : Option Text :=
  if item.1.length = 1 then item.1.head? else none

theorem ownName?_eq_some_iff {item : List Text × Entry} {name : Text} :
    ownName? item = some name ↔ item.1 = [name] := by
  unfold ownName?
  constructor
  · intro own
    split at own
    · rename_i single
      obtain ⟨other, spelled⟩ := List.length_eq_one_iff.mp single
      rw [spelled] at own
      rw [spelled, Option.some.inj own]
    · cases own
  · intro spelled
    rw [spelled]
    rfl

theorem exists_listing (tree : FileTree) (place : Place) : ∃ names, tree.Listing place names := by
  refine ⟨(tree.below place).filterMap ownName?, fun name => ?_, ?_⟩
  · simp only [List.mem_filterMap, mem_below_iff, ownName?_eq_some_iff]
    constructor
    · rintro ⟨⟨_, entry⟩, ⟨_, found⟩, rfl⟩
      exact ⟨entry, found⟩
    · rintro ⟨entry, found⟩
      exact ⟨([name], entry), ⟨List.cons_ne_nil _ _, found⟩, rfl⟩
  · refine (tree.below_inOrder place).filterMap ownName? ?_
    intro first second before name atFirst other atSecond
    rw [ownName?_eq_some_iff.mp atFirst, ownName?_eq_some_iff.mp atSecond] at before
    rcases List.cons_lt_cons_iff.mp before with smaller | ⟨_, behindEnd⟩
    · exact Text.utf8_lt smaller
    · exact absurd behindEnd (List.lt_irrefl _)

theorem exists_walkEach {names : List Text}
    (walks : ∀ name ∈ names, ∃ visited, tree.Walk (place ++ [name]) visited) :
    ∃ visited, tree.WalkEach place names visited := by
  induction names with
  | nil => exact ⟨[], .done⟩
  | cons name names ih =>
      obtain ⟨first, walk⟩ := walks name List.mem_cons_self
      obtain ⟨others, onward⟩ := ih fun other inNames =>
        walks other (List.mem_cons_of_mem name inNames)
      exact ⟨behind name first ++ others, .next walk onward⟩

theorem exists_depth (tree : FileTree) :
    ∃ depth, ∀ place entry, tree.find? place = some entry → place.length ≤ depth := by
  let depths := tree.entries.map fun item => item.1.length
  refine ⟨depths.max?.getD 0, fun place entry found => ?_⟩
  by_cases atRoot : place = []
  · simp [atRoot]
  · have listed := (tree.find?_eq_some_iff atRoot).mp found
    exact List.le_max?_getD_of_mem (List.mem_map_of_mem listed)

theorem exists_walk {entry : Entry} (found : tree.find? place = some entry) :
    ∃ visited, tree.Walk place visited := by
  obtain ⟨depth, bound⟩ := tree.exists_depth
  -- the induction is on how much deeper than the place a tree can be
  have within (levels : Nat) : ∀ (place : Place) (entry : Entry), tree.find? place = some entry →
      depth < place.length + levels → ∃ visited, tree.Walk place visited := by
    induction levels with
    | zero =>
        intro place entry found deep
        exact absurd (bound place entry found) (Nat.not_le.mpr deep)
    | succ levels ih =>
        intro place entry found deep
        by_cases isDirectory : entry = .directory
        · subst isDirectory
          obtain ⟨names, listing⟩ := tree.exists_listing place
          have walks : ∀ name ∈ names, ∃ visited, tree.Walk (place ++ [name]) visited := by
            intro name inNames
            obtain ⟨first, there⟩ := (listing.found name).mp inNames
            exact ih _ first there (by simp; omega)
          obtain ⟨visited, inside⟩ := exists_walkEach walks
          exact ⟨_, .directory found listing inside⟩
        · exact ⟨_, .leaf found isDirectory⟩
  exact within (depth + 1) place entry found (by omega)

end FileTree
end Stencil
