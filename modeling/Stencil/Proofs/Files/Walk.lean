/-
How a path is followed, step by step, and in trees with other files.

What a step does depends on where it starts and on what stands under its name, and there is
one equation for each case.  A path whose last name is not followed leads to that name in a
directory, or nowhere.

A file that is added to a tree ends every path that meets it, so a path that led to some
place still leads there, and the only new place is that of the file itself.  Files that are
laid over a tree stand at places where the tree had no directory; a path that leads somewhere
now has led there before.
-/

import Stencil.Files.Workspace

namespace Stencil
namespace FilePath

abbrev Jump : Type := Place → List Text → Except FileFault Place

def noJump : Jump := fun _ _ => .error .tooManyLinks

/-- What becomes of the first link, by the number of links that may be followed. -/
def jump (tree : FileTree) (follow : Bool) : Nat → Jump
  | 0 => noJump
  | links + 1 => walk tree follow links

theorem walk_eq (tree : FileTree) (follow : Bool) (links : Nat) :
    walk tree follow links = walkTo tree follow (jump tree follow links) := by
  cases links with
  | zero => rfl
  | succ links => rfl

section Step

variable {tree : FileTree} {place : Place}

theorem walkTo_here (inDirectory : tree.find? place = some .directory) (follow : Bool)
    (jump : Jump) (rest : List Text) :
    walkTo tree follow jump place (here :: rest) = walkTo tree follow jump place rest := by
  rw [walkTo, if_pos inDirectory, if_pos rfl]

theorem walkTo_above (inDirectory : tree.find? place = some .directory) (follow : Bool)
    (jump : Jump) (rest : List Text) :
    walkTo tree follow jump place (above :: rest) =
      walkTo tree follow jump place.dropLast rest := by
  rw [walkTo, if_pos inDirectory, if_neg (by decide), if_pos rfl]

theorem walkTo_outside (outside : tree.find? place ≠ some .directory) (follow : Bool)
    (jump : Jump) (step : Text) (rest : List Text) :
    walkTo tree follow jump place (step :: rest) = .error .notDirectory := by
  rw [walkTo, if_neg outside]

theorem start_of_walkTo {follow : Bool} {jump : Jump} {step : Text} {rest : List Text}
    {target : Place} (walked : walkTo tree follow jump place (step :: rest) = .ok target) :
    tree.find? place = some .directory := by
  by_cases inDirectory : tree.find? place = some .directory
  · exact inDirectory
  · rw [walkTo_outside inDirectory] at walked
    cases walked

variable {step : Text} (inDirectory : tree.find? place = some .directory)
  (notHere : step ≠ here) (notAbove : step ≠ above)

include inDirectory notHere notAbove

theorem walkTo_long (long : nameLimit < Text.byteLength step) (follow : Bool) (jump : Jump)
    (rest : List Text) :
    walkTo tree follow jump place (step :: rest) = .error .nameTooLong := by
  rw [walkTo, if_pos inDirectory, if_neg notHere, if_neg notAbove, if_pos long]

variable (short : ¬ nameLimit < Text.byteLength step)

include short

theorem walkTo_free (found : tree.find? (place ++ [step]) = none) (follow : Bool)
    (jump : Jump) (rest : List Text) :
    walkTo tree follow jump place (step :: rest) =
      if rest.isEmpty then .ok (place ++ [step]) else .error .noSuchEntry := by
  rw [walkTo, if_pos inDirectory, if_neg notHere, if_neg notAbove, if_neg short, found]

theorem walkTo_link {target : Text} (found : tree.find? (place ++ [step]) = some (.link target))
    (follow : Bool) (jump : Jump) (rest : List Text) :
    walkTo tree follow jump place (step :: rest) =
      if rest.isEmpty && !follow then .ok (place ++ [step])
      else jump (origin place target) (steps target ++ rest) := by
  rw [walkTo, if_pos inDirectory, if_neg notHere, if_neg notAbove, if_neg short, found]

theorem walkTo_entry {entry : Entry} (found : tree.find? (place ++ [step]) = some entry)
    (noLink : ∀ target, entry ≠ .link target) (follow : Bool) (jump : Jump)
    (rest : List Text) :
    walkTo tree follow jump place (step :: rest) =
      walkTo tree follow jump (place ++ [step]) rest := by
  rw [walkTo, if_pos inDirectory, if_neg notHere, if_neg notAbove, if_neg short, found]
  cases entry with
  | link target => exact absurd rfl (noLink target)
  | directory => rfl
  | file mode content => rfl

/-- A last name that is not followed leads to its own place, whatever stands there. -/
theorem walkTo_last (jump : Jump) :
    walkTo tree false jump place [step] = .ok (place ++ [step]) := by
  cases found : tree.find? (place ++ [step]) with
  | none =>
      rw [walkTo_free inDirectory notHere notAbove short found]
      rfl
  | some entry =>
      by_cases isLink : ∃ target, entry = .link target
      · obtain ⟨target, rfl⟩ := isLink
        rw [walkTo_link inDirectory notHere notAbove short found]
        rfl
      · rw [walkTo_entry inDirectory notHere notAbove short found (not_exists.mp isLink),
          walkTo]

end Step

theorem resolve_eq_ok_iff {tree : FileTree} {follow : Bool} {directory place : Place}
    {path : Text} :
    resolve tree follow directory path = .ok place ↔
      fault? path = none ∧
        walk tree follow linkLimit (origin directory path) (steps path) = .ok place := by
  unfold resolve
  cases fault? path with
  | some fault => simp
  | none => simp

theorem locate_eq_ok_iff {tree : FileTree} {follow : Bool} {directory place : Place}
    {path : Text} {entry : Entry} :
    locate tree follow directory path = .ok (place, entry) ↔
      resolve tree follow directory path = .ok place ∧ tree.find? place = some entry := by
  unfold locate
  cases resolve tree follow directory path with
  | error fault => simp
  | ok target =>
      dsimp only
      cases found : tree.find? target with
      | none =>
          constructor
          · simp
          · rintro ⟨same, present⟩
            cases same
            rw [found] at present
            cases present
      | some there =>
          constructor
          · intro same
            cases same
            exact ⟨rfl, found⟩
          · rintro ⟨same, present⟩
            cases same
            rw [Option.some.inj (found.symm.trans present)]

theorem path_nonempty {path : Text} (noFault : fault? path = none) : path ≠ [] := by
  rintro rfl
  simp [fault?] at noFault

/-- A place is that of a name in a directory. -/
def EndsIn (tree : FileTree) (name : Text) (target : Place) : Prop :=
  ∃ directory, tree.find? directory = some .directory ∧
    ¬ nameLimit < Text.byteLength name ∧ target = directory ++ [name]

theorem walkTo_endsIn {tree : FileTree} {jump : Jump} {name : Text} (notHere : name ≠ here)
    (notAbove : name ≠ above)
    (afterJump : ∀ place steps target, steps.getLast? = some name →
      jump place steps = .ok target → EndsIn tree name target)
    {place target : Place} {steps : List Text} (last : steps.getLast? = some name)
    (walked : walkTo tree false jump place steps = .ok target) : EndsIn tree name target := by
  fun_induction walkTo tree false jump place steps
  case case1 => cases last
  case case2 place rest inDirectory ih =>
    cases rest with
    | nil => exact absurd (Option.some.inj last).symm notHere
    | cons next rest => exact ih last walked
  case case3 place rest inDirectory _ ih =>
    cases rest with
    | nil => exact absurd (Option.some.inj last).symm notAbove
    | cons next rest => exact ih last walked
  case case5 place step rest inDirectory _ _ short absent isLast =>
    obtain rfl := List.isEmpty_iff.mp isLast
    cases last
    cases walked
    exact ⟨place, inDirectory, short, rfl⟩
  case case7 place step rest inDirectory _ _ short text isLink isLast =>
    obtain rfl : rest = [] := by simpa using isLast
    cases last
    cases walked
    exact ⟨place, inDirectory, short, rfl⟩
  case case8 place step rest inDirectory _ _ short text isLink notLast =>
    cases rest with
    | nil => exact absurd rfl notLast
    | cons next rest =>
        refine afterJump _ _ target ?_ walked
        rw [List.getLast?_append, show (next :: rest).getLast? = some name from last]
        rfl
  case case9 place step rest inDirectory _ _ short entry noLink found ih =>
    cases rest with
    | nil =>
        cases last
        rw [walkTo] at walked
        cases walked
        exact ⟨place, inDirectory, short, rfl⟩
    | cons next rest => exact ih last walked
  case case4 | case6 | case10 => cases walked

theorem walk_endsIn {tree : FileTree} {name : Text} (notHere : name ≠ here)
    (notAbove : name ≠ above) {links : Nat} {place target : Place} {steps : List Text}
    (last : steps.getLast? = some name)
    (walked : walk tree false links place steps = .ok target) : EndsIn tree name target := by
  induction links generalizing place steps target with
  | zero =>
      refine walkTo_endsIn notHere notAbove ?_ last walked
      intro place steps target _ jumped
      cases jumped
  | succ links ih =>
      exact walkTo_endsIn notHere notAbove (fun _ _ _ last jumped => ih last jumped) last walked

section GoingOn

variable {tree : FileTree} {target : Place} (atEnd : tree.find? target = some .directory)

include atEnd

theorem walkTo_append_of_directory {links : Nat} {ending : Bool}
    (afterJump : ∀ place steps, jump tree ending links place steps = .ok target →
      ∃ left, ∀ follow rest, rest ≠ [] →
        jump tree follow links place (steps ++ rest) = walk tree follow left target rest)
    {place : Place} {first : List Text}
    (walked : walkTo tree ending (jump tree ending links) place first = .ok target) :
    ∃ left, ∀ follow rest, rest ≠ [] →
      walkTo tree follow (jump tree follow links) place (first ++ rest) =
        walk tree follow left target rest := by
  fun_induction walkTo tree ending (jump tree ending links) place first
  case case1 =>
    cases walked
    exact ⟨links, fun follow rest _ => by rw [walk_eq, List.nil_append]⟩
  case case2 place others inDirectory ih =>
    simp only [List.cons_append, walkTo_here inDirectory]
    exact ih walked
  case case3 place others inDirectory notHere ih =>
    simp only [List.cons_append, walkTo_above inDirectory]
    exact ih walked
  case case5 absent last =>
    cases walked
    rw [absent] at atEnd
    cases atEnd
  case case7 isLink last =>
    cases walked
    rw [isLink] at atEnd
    cases atEnd
  case case8 place step others inDirectory notHere notAbove short text isLink notLast =>
    obtain ⟨left, onward⟩ := afterJump _ _ walked
    refine ⟨left, fun follow rest notEmpty => ?_⟩
    have between : ¬ ((others ++ rest).isEmpty && !follow) = true := by simp [notEmpty]
    rw [List.cons_append, walkTo_link inDirectory notHere notAbove short isLink, if_neg between,
      ← List.append_assoc, onward follow rest notEmpty]
  case case9 place step others inDirectory notHere notAbove short entry noLink found ih =>
    simp only [List.cons_append, walkTo_entry inDirectory notHere notAbove short found noLink]
    exact ih walked
  case case4 | case6 | case10 => cases walked

/-- Steps that lead to a directory lead all steps behind them on from there, with the links
that are left to follow. -/
theorem walk_append_of_directory {links : Nat} {ending : Bool} {place : Place}
    {first : List Text} (walked : walk tree ending links place first = .ok target) :
    ∃ left, ∀ follow rest, rest ≠ [] →
      walk tree follow links place (first ++ rest) = walk tree follow left target rest := by
  simp only [walk_eq tree _ links] at walked ⊢
  induction links generalizing place first with
  | zero =>
      refine walkTo_append_of_directory atEnd ?_ walked
      intro place steps jumped
      cases jumped
  | succ links ih =>
      refine walkTo_append_of_directory atEnd (fun place steps jumped => ?_) walked
      simp only [jump, walk_eq tree _ links] at jumped ⊢
      exact ih jumped

end GoingOn

theorem walkTo_of_append_here {tree : FileTree} {ending : Bool} {jump onward : Jump}
    {target : Place}
    (afterJump : ∀ place steps, onward place (steps ++ [here]) = .ok target →
      jump place steps = .ok target)
    {place : Place} {first : List Text}
    (walked : walkTo tree ending onward place (first ++ [here]) = .ok target) :
    walkTo tree true jump place first = .ok target := by
  fun_induction walkTo tree true jump place first
  case case1 place =>
    rw [List.nil_append] at walked
    rw [walkTo_here (start_of_walkTo walked), walkTo] at walked
    exact walked
  case case2 place others inDirectory ih =>
    rw [List.cons_append, walkTo_here inDirectory] at walked
    exact ih walked
  case case3 place others inDirectory notHere ih =>
    rw [List.cons_append, walkTo_above inDirectory] at walked
    exact ih walked
  case case4 place step others inDirectory notHere notAbove long =>
    rw [List.cons_append, walkTo_long inDirectory notHere notAbove long] at walked
    cases walked
  case case5 place step others inDirectory notHere notAbove short absent last =>
    rw [List.cons_append, walkTo_free inDirectory notHere notAbove short absent,
      if_neg (by simp)] at walked
    cases walked
  case case6 place step others inDirectory notHere notAbove short absent notLast =>
    rw [List.cons_append, walkTo_free inDirectory notHere notAbove short absent,
      if_neg (by simp)] at walked
    cases walked
  case case7 last => simp at last
  case case8 place step others inDirectory notHere notAbove short text isLink notLast =>
    rw [List.cons_append, walkTo_link inDirectory notHere notAbove short isLink,
      if_neg (by simp), ← List.append_assoc] at walked
    exact afterJump _ _ walked
  case case9 place step others inDirectory notHere notAbove short entry noLink found ih =>
    rw [List.cons_append, walkTo_entry inDirectory notHere notAbove short found noLink] at walked
    exact ih walked
  case case10 outside =>
    rw [List.cons_append, walkTo_outside outside] at walked
    cases walked

/-- A step on the spot at the end of a way can be left out, if a link there is followed. -/
theorem walk_of_append_here {tree : FileTree} {ending : Bool} {links : Nat}
    {place target : Place} {first : List Text}
    (walked : walk tree ending links place (first ++ [here]) = .ok target) :
    walk tree true links place first = .ok target := by
  simp only [walk_eq tree _ links] at walked ⊢
  induction links generalizing place first with
  | zero =>
      refine walkTo_of_append_here ?_ walked
      intro place steps jumped
      cases jumped
  | succ links ih =>
      refine walkTo_of_append_here (fun place steps jumped => ?_) walked
      simp only [jump, walk_eq tree _ links] at jumped ⊢
      exact ih jumped

end FilePath

/-! ### One more file -/

/-- Another tree has one more file, at a place that is free in this one. -/
structure FileTree.Gains (tree other : FileTree) (place : Place) : Prop where
  free : tree.find? place = none
  isFile : ∃ mode content, other.find? place = some (.file mode content)
  elsewhere : ∀ place', place' ≠ place → other.find? place' = tree.find? place'

namespace FileTree.Gains

variable {tree other : FileTree} {new : Place}

theorem directory_iff (gains : tree.Gains other new) (place : Place) :
    other.find? place = some .directory ↔ tree.find? place = some .directory := by
  by_cases atNew : place = new
  · obtain ⟨mode, content, isFile⟩ := gains.isFile
    rw [atNew, gains.free, isFile]
    simp
  · rw [gains.elsewhere place atNew]

theorem find?_of_some (gains : tree.Gains other new) {place : Place} {entry : Entry}
    (found : tree.find? place = some entry) : other.find? place = some entry := by
  have old : place ≠ new := by
    rintro rfl
    rw [gains.free] at found
    cases found
  rw [gains.elsewhere place old, found]

end FileTree.Gains

def FileTree.GainsTemporary (tree other : FileTree) : Prop :=
  ∃ directory, ∃ name : TemporaryName, tree.Gains other (directory ++ [name.text])

namespace FilePath

theorem walkTo_eq_ok_iff_of_gains {tree other : FileTree} {new : Place}
    (gains : tree.Gains other new) {jump otherJump : Jump}
    (sameJump : ∀ place steps target,
      otherJump place steps = .ok target ↔ jump place steps = .ok target)
    (follow : Bool) (place : Place) (steps : List Text) (target : Place) :
    walkTo other follow otherJump place steps = .ok target ↔
      walkTo tree follow jump place steps = .ok target := by
  fun_induction walkTo tree follow jump place steps
  case case1 => rw [walkTo]
  case case2 place rest inDirectory ih =>
    rw [walkTo_here ((gains.directory_iff place).mpr inDirectory)]
    exact ih
  case case3 place rest inDirectory notHere ih =>
    rw [walkTo_above ((gains.directory_iff place).mpr inDirectory)]
    exact ih
  case case4 place step rest inDirectory notHere notAbove long =>
    rw [walkTo_long ((gains.directory_iff place).mpr inDirectory) notHere notAbove long]
  case case5 place step rest inDirectory notHere notAbove short absent last =>
    have inOther := (gains.directory_iff place).mpr inDirectory
    rw [List.isEmpty_iff.mp last]
    by_cases atNew : place ++ [step] = new
    · obtain ⟨mode, content, isFile⟩ := gains.isFile
      rw [walkTo_entry inOther notHere notAbove short (atNew ▸ isFile) (by simp), walkTo]
    · rw [walkTo_free inOther notHere notAbove short
        ((gains.elsewhere _ atNew).trans absent)]
      rfl
  case case6 place step rest inDirectory notHere notAbove short absent notLast =>
    have inOther := (gains.directory_iff place).mpr inDirectory
    by_cases atNew : place ++ [step] = new
    · obtain ⟨mode, content, isFile⟩ := gains.isFile
      rw [walkTo_entry inOther notHere notAbove short (atNew ▸ isFile) (by simp)]
      cases rest with
      | nil => exact absurd rfl notLast
      | cons next rest =>
          rw [walkTo_outside (by simp [atNew, isFile])]
          simp
    · rw [walkTo_free inOther notHere notAbove short
        ((gains.elsewhere _ atNew).trans absent), if_neg notLast]
  case case7 place step rest inDirectory notHere notAbove short text isLink last =>
    rw [walkTo_link ((gains.directory_iff place).mpr inDirectory) notHere notAbove short
      (gains.find?_of_some isLink), if_pos last]
  case case8 place step rest inDirectory notHere notAbove short text isLink notLast =>
    rw [walkTo_link ((gains.directory_iff place).mpr inDirectory) notHere notAbove short
      (gains.find?_of_some isLink), if_neg notLast]
    exact sameJump _ _ _
  case case9 place step rest inDirectory notHere notAbove short entry noLink found ih =>
    rw [walkTo_entry ((gains.directory_iff place).mpr inDirectory) notHere notAbove short
      (gains.find?_of_some found) noLink]
    exact ih
  case case10 place step rest outside =>
    rw [walkTo_outside (mt (gains.directory_iff place).mp outside)]

theorem walk_eq_ok_iff_of_gains {tree other : FileTree} {new : Place}
    (gains : tree.Gains other new) (follow : Bool) (links : Nat) (place : Place)
    (steps : List Text) (target : Place) :
    walk other follow links place steps = .ok target ↔
      walk tree follow links place steps = .ok target := by
  induction links generalizing place steps target with
  | zero => exact walkTo_eq_ok_iff_of_gains gains (fun _ _ _ => Iff.rfl) follow _ _ _
  | succ links ih => exact walkTo_eq_ok_iff_of_gains gains ih follow _ _ _

theorem resolve_eq_ok_iff_of_gains {tree other : FileTree} {new : Place}
    (gains : tree.Gains other new) (follow : Bool) (directory : Place) (path : Text)
    (target : Place) :
    resolve other follow directory path = .ok target ↔
      resolve tree follow directory path = .ok target := by
  rw [resolve_eq_ok_iff, resolve_eq_ok_iff, walk_eq_ok_iff_of_gains gains]

/-- A further file does not change where a path to an entry leads. -/
theorem locate_of_gains {tree other : FileTree} {new : Place} (gains : tree.Gains other new)
    {follow : Bool} {directory place : Place} {path : Text} {entry : Entry}
    (located : locate tree follow directory path = .ok (place, entry)) :
    locate other follow directory path = .ok (place, entry) := by
  obtain ⟨resolved, found⟩ := locate_eq_ok_iff.mp located
  exact locate_eq_ok_iff.mpr
    ⟨(resolve_eq_ok_iff_of_gains gains follow directory path place).mpr resolved,
      gains.find?_of_some found⟩

end FilePath

/-! ### Files laid over a tree -/

/-- Another tree has the same directories, and where it differs it has a file. -/
structure FileTree.Overlaid (tree other : FileTree) : Prop where
  directories : ∀ place,
    other.find? place = some .directory ↔ tree.find? place = some .directory
  changed : ∀ place, other.find? place = tree.find? place ∨
    ∃ mode content, other.find? place = some (.file mode content)

namespace FileTree

variable {tree middle other : FileTree}

theorem Overlaid.refl (tree : FileTree) : tree.Overlaid tree where
  directories := fun _ => Iff.rfl
  changed := fun _ => Or.inl rfl

theorem Overlaid.trans (first : tree.Overlaid middle) (second : middle.Overlaid other) :
    tree.Overlaid other where
  directories place := (second.directories place).trans (first.directories place)
  changed place := by
    rcases second.changed place with same | isFile
    · rw [same]
      exact first.changed place
    · exact Or.inr isFile

theorem Gains.overlaid {new : Place} (gains : tree.Gains other new) : tree.Overlaid other where
  directories := gains.directory_iff
  changed place := by
    by_cases atNew : place = new
    · rw [atNew]
      exact Or.inr gains.isFile
    · exact Or.inl (gains.elsewhere place atNew)

end FileTree

namespace FilePath

variable {tree other : FileTree}

theorem walkTo_of_overlaid (overlaid : tree.Overlaid other) {jump otherJump : Jump}
    (before : ∀ place steps target,
      otherJump place steps = .ok target → jump place steps = .ok target)
    {place target : Place} {steps : List Text}
    (walked : walkTo other false otherJump place steps = .ok target) :
    walkTo tree false jump place steps = .ok target := by
  induction steps generalizing place with
  | nil => exact walked
  | cons step rest ih =>
      have inOther := start_of_walkTo walked
      have inDirectory := (overlaid.directories place).mp inOther
      by_cases isHere : step = here
      · rw [isHere, walkTo_here inOther] at walked
        rw [isHere, walkTo_here inDirectory]
        exact ih walked
      by_cases isAbove : step = above
      · rw [isAbove, walkTo_above inOther] at walked
        rw [isAbove, walkTo_above inDirectory]
        exact ih walked
      by_cases long : nameLimit < Text.byteLength step
      · rw [walkTo_long inOther isHere isAbove long] at walked
        cases walked
      cases rest with
      | nil =>
          rw [walkTo_last inOther isHere isAbove long] at walked
          rw [walkTo_last inDirectory isHere isAbove long]
          exact walked
      | cons next rest =>
          rcases overlaid.changed (place ++ [step]) with same | ⟨mode, content, isFile⟩
          · cases found : tree.find? (place ++ [step]) with
            | none =>
                rw [walkTo_free inOther isHere isAbove long (same.trans found)] at walked
                cases walked
            | some entry =>
                by_cases isLink : ∃ text, entry = .link text
                · obtain ⟨text, rfl⟩ := isLink
                  rw [walkTo_link inOther isHere isAbove long (same.trans found)] at walked
                  rw [walkTo_link inDirectory isHere isAbove long found]
                  exact before _ _ _ walked
                · have noLink := not_exists.mp isLink
                  rw [walkTo_entry inOther isHere isAbove long (same.trans found) noLink] at walked
                  rw [walkTo_entry inDirectory isHere isAbove long found noLink]
                  exact ih walked
          · rw [walkTo_entry inOther isHere isAbove long isFile (by simp),
              walkTo_outside (by simp [isFile])] at walked
            cases walked

theorem walk_of_overlaid (overlaid : tree.Overlaid other) {links : Nat}
    {place target : Place} {steps : List Text}
    (walked : walk other false links place steps = .ok target) :
    walk tree false links place steps = .ok target := by
  induction links generalizing place target steps with
  | zero => exact walkTo_of_overlaid overlaid (fun _ _ _ jumped => jumped) walked
  | succ links ih => exact walkTo_of_overlaid overlaid (fun _ _ _ jumped => ih jumped) walked

theorem resolve_of_overlaid (overlaid : tree.Overlaid other) {directory target : Place}
    {path : Text} (resolved : resolve other false directory path = .ok target) :
    resolve tree false directory path = .ok target := by
  obtain ⟨noFault, walked⟩ := resolve_eq_ok_iff.mp resolved
  exact resolve_eq_ok_iff.mpr ⟨noFault, walk_of_overlaid overlaid walked⟩

end FilePath
end Stencil
