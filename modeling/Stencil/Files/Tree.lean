/-
Trees of files, and the spelling of the paths to them.

A tree holds directories, regular files with their permissions and bytes, and
symbolic links.  Its entries are kept by their places, in the order of the names
on the way to them, so that a directory stands in front of all that is below it.
Every entry lies in a directory and has a name that entries can have, and the root
is always a directory.

The main statements say what can be found after an entry was put into a tree or
taken out of it, and that a tree is known by what can be found in it.
-/

import Stencil.Text.Basic

namespace Stencil

/-- The names on the way from the root of the file system to a place in it. -/
abbrev Place := List Text

namespace FilePath

def here : Text := ".".toList

def above : Text := "..".toList

def nameLimit : Nat := 255

/-- What an entry of a directory can be called. -/
structure IsName (name : Text) : Prop where
  nonempty : name ≠ []
  noSlash : '/' ∉ name
  noNul : '\x00' ∉ name
  notHere : name ≠ here
  notAbove : name ≠ above
  short : Text.byteLength name ≤ nameLimit

instance (name : Text) : Decidable (IsName name) :=
  decidable_of_iff
    (name ≠ [] ∧ '/' ∉ name ∧ '\x00' ∉ name ∧ name ≠ here ∧ name ≠ above ∧
      Text.byteLength name ≤ nameLimit)
    ⟨fun ⟨nonempty, noSlash, noNul, notHere, notAbove, short⟩ =>
        ⟨nonempty, noSlash, noNul, notHere, notAbove, short⟩,
      fun isName => ⟨isName.nonempty, isName.noSlash, isName.noNul, isName.notHere,
        isName.notAbove, isName.short⟩⟩

def names (path : Text) : List Text :=
  (path.splitOn '/').filter fun name => name != [] && name != here

def isAbsolute (path : Text) : Bool :=
  path.head? == some '/'

/-- The names from the root on, for a path that is spelled in a directory.  Names of
the directory above are kept as they are. -/
def absolute (directory : Place) (path : Text) : List Text :=
  if isAbsolute path then names path else directory ++ names path

/-- The last name in a path, unless it is that of the directory above. -/
def fileName? (path : Text) : Option Text :=
  match (names path).getLast? with
  | none => none
  | some name => if name = above then none else some name

/-- A path without its last name and without what divides it from that name; a single
name lies here. -/
def parent (path : Text) : Text :=
  match (path.splitOn '/').dropLast with
  | [] => here
  | first :: others =>
      let kept := (others.reverse.dropWhile fun name => name == [] || name == here).reverse
      if first.isEmpty && kept.isEmpty then ['/'] else ['/'].intercalate (first :: kept)

/-- What follows the last dot of a name, if something stands before that dot. -/
def extensionOf? (name : Text) : Option Text :=
  match name.reverse.dropWhile fun c => c != '.' with
  | [] => none
  | [_] => none
  | _ => some (name.reverse.takeWhile fun c => c != '.').reverse

def extension? (path : Text) : Option Text :=
  (fileName? path).bind extensionOf?

def join (directory name : Text) : Text :=
  if directory.isEmpty || directory.getLast? == some '/' then
    directory ++ name
  else
    directory ++ '/' :: name

def extend (path : Text) (names : List Text) : Text :=
  names.foldl join path

end FilePath

/-! ### Trees -/

inductive Entry where
  | directory
  | file (mode : Nat) (content : ByteArray)
  | link (target : Text)

instance Entry.decidableEqDirectory (entry : Entry) : Decidable (entry = .directory) :=
  match entry with
  | .directory => isTrue rfl
  | .file _ _ => isFalse nofun
  | .link _ => isFalse nofun

instance Entry.decidableFoundDirectory (found : Option Entry) :
    Decidable (found = some .directory) :=
  match found with
  | none => isFalse nofun
  | some entry => decidable_of_iff (entry = .directory) (by simp)

namespace Entries

def put (place : Place) (entry : Entry) : List (Place × Entry) → List (Place × Entry)
  | [] => [(place, entry)]
  | head :: rest =>
      if place < head.1 then (place, entry) :: head :: rest
      else if place = head.1 then (place, entry) :: rest
      else head :: put place entry rest

abbrev Sorted (entries : List (Place × Entry)) : Prop :=
  entries.Pairwise fun first second => first.1 < second.1

private theorem place_lt_of_not {place other : Place} (notBefore : ¬ place < other)
    (different : place ≠ other) : other < place := by
  rcases Std.Trichotomous.rel_or_eq_or_rel_swap
      (r := fun (first second : Place) => first < second) (a := place) (b := other) with
    before | same | after
  · exact absurd before notBefore
  · exact absurd same different
  · exact after

theorem mem_put {place : Place} {entry : Entry} {entries : List (Place × Entry)}
    (sorted : Sorted entries) (item : Place × Entry) :
    item ∈ put place entry entries ↔
      item = (place, entry) ∨ (item ∈ entries ∧ item.1 ≠ place) := by
  induction entries with
  | nil => simp [put]
  | cons head rest ih =>
      have parts := List.pairwise_cons.mp sorted
      by_cases before : place < head.1
      · have elsewhere : ∀ other ∈ head :: rest, other.1 ≠ place := by
          intro other hOther same
          rcases List.mem_cons.mp hOther with rfl | inRest
          · exact absurd before (by rw [same]; exact List.lt_irrefl _)
          · have later := List.lt_trans before (parts.1 other inRest)
            exact absurd later (by rw [same]; exact List.lt_irrefl _)
        simp only [put, before, if_true, List.mem_cons]
        constructor
        · rintro (same | old)
          · exact Or.inl same
          · exact Or.inr ⟨old, elsewhere item (List.mem_cons.mpr old)⟩
        · rintro (same | ⟨old, _⟩)
          · exact Or.inl same
          · exact Or.inr old
      · by_cases same : place = head.1
        · have elsewhere : ∀ other ∈ rest, other.1 ≠ place := by
            intro other hOther equal
            have later := parts.1 other hOther
            exact absurd later (by rw [equal, same]; exact List.lt_irrefl _)
          rw [put, if_neg before, if_pos same]
          simp only [List.mem_cons]
          constructor
          · rintro (new | old)
            · exact Or.inl new
            · exact Or.inr ⟨Or.inr old, elsewhere item old⟩
          · rintro (new | ⟨rfl | old, different⟩)
            · exact Or.inl new
            · exact absurd same.symm different
            · exact Or.inr old
        · simp only [put, before, same, if_false, List.mem_cons, ih parts.2]
          constructor
          · rintro (rfl | new | ⟨old, different⟩)
            · exact Or.inr ⟨Or.inl rfl, fun equal => same equal.symm⟩
            · exact Or.inl new
            · exact Or.inr ⟨Or.inr old, different⟩
          · rintro (new | ⟨rfl | old, different⟩)
            · exact Or.inr (Or.inl new)
            · exact Or.inl rfl
            · exact Or.inr (Or.inr ⟨old, different⟩)

theorem sorted_put {place : Place} {entry : Entry} {entries : List (Place × Entry)}
    (sorted : Sorted entries) : Sorted (put place entry entries) := by
  induction entries with
  | nil => simp [put]
  | cons head rest ih =>
      have parts := List.pairwise_cons.mp sorted
      by_cases before : place < head.1
      · simp only [put, before, if_true]
        refine List.pairwise_cons.mpr ⟨?_, sorted⟩
        intro other hOther
        rcases List.mem_cons.mp hOther with rfl | inRest
        · exact before
        · exact List.lt_trans before (parts.1 other inRest)
      · by_cases same : place = head.1
        · rw [put, if_neg before, if_pos same]
          refine List.pairwise_cons.mpr ⟨?_, parts.2⟩
          intro other hOther
          rw [same]
          exact parts.1 other hOther
        · simp only [put, before, same, if_false]
          refine List.pairwise_cons.mpr ⟨?_, ih parts.2⟩
          intro other hOther
          rcases (mem_put parts.2 other).mp hOther with rfl | ⟨old, _⟩
          · exact place_lt_of_not before same
          · exact parts.1 other old

theorem unique {entries : List (Place × Entry)} (sorted : Sorted entries)
    {first second : Place × Entry} (hFirst : first ∈ entries) (hSecond : second ∈ entries)
    (same : first.1 = second.1) : first = second := by
  induction entries with
  | nil => cases hFirst
  | cons head rest ih =>
      have parts := List.pairwise_cons.mp sorted
      rcases List.mem_cons.mp hFirst with rfl | inFirst
      · rcases List.mem_cons.mp hSecond with rfl | inSecond
        · rfl
        · have before := parts.1 second inSecond
          rw [same] at before
          exact absurd before (List.lt_irrefl _)
      · rcases List.mem_cons.mp hSecond with rfl | inSecond
        · have before := parts.1 first inFirst
          rw [same] at before
          exact absurd before (List.lt_irrefl _)
        · exact ih parts.2 inFirst inSecond

theorem nodup {entries : List (Place × Entry)} (sorted : Sorted entries) : entries.Nodup := by
  refine List.Pairwise.imp ?_ sorted
  rintro first second before rfl
  exact List.lt_irrefl _ before

theorem eq_of_mem_iff {first second : List (Place × Entry)} (hFirst : Sorted first)
    (hSecond : Sorted second) (same : ∀ item, item ∈ first ↔ item ∈ second) :
    first = second := by
  have permuted : first.Perm second :=
    (List.perm_ext_iff_of_nodup (nodup hFirst) (nodup hSecond)).mpr same
  refine List.Perm.eq_of_pairwise ?_ hFirst hSecond permuted
  intro item other _ _ before after
  exact absurd (List.lt_trans before after) (List.lt_irrefl _)

end Entries

/-- A tree of files below the root of a file system. -/
structure FileTree where
  entries : List (Place × Entry)
  sorted : Entries.Sorted entries
  rooted : ∀ item ∈ entries, item.1 ≠ [] ∧
    (item.1.dropLast = [] ∨ (item.1.dropLast, Entry.directory) ∈ entries)
  named : ∀ item ∈ entries, ∀ name ∈ item.1, FilePath.IsName name

namespace FileTree

def empty : FileTree where
  entries := []
  sorted := List.Pairwise.nil
  rooted := by simp
  named := by simp

/-- The entry at a place; the root is a directory. -/
def find? (tree : FileTree) (place : Place) : Option Entry :=
  if place = [] then
    some .directory
  else
    (tree.entries.find? fun item => decide (item.1 = place)).map Prod.snd

theorem find?_eq_some_iff (tree : FileTree) {place : Place} {entry : Entry}
    (notRoot : place ≠ []) :
    tree.find? place = some entry ↔ (place, entry) ∈ tree.entries := by
  simp only [find?, notRoot, if_false, Option.map_eq_some_iff]
  constructor
  · rintro ⟨⟨other, found⟩, hFound, rfl⟩
    have same := List.find?_some hFound
    have present := List.mem_of_find?_eq_some hFound
    simp only [decide_eq_true_eq] at same
    rw [← same]
    exact present
  · intro present
    cases hFound : tree.entries.find? fun item => decide (item.1 = place) with
    | none =>
        have absent := List.find?_eq_none.mp hFound (place, entry) present
        simp at absent
    | some item =>
        have same := List.find?_some hFound
        have found := List.mem_of_find?_eq_some hFound
        simp only [decide_eq_true_eq] at same
        refine ⟨item, rfl, ?_⟩
        rw [Entries.unique tree.sorted found present same]

theorem parent_of_found (tree : FileTree) {place : Place} {entry : Entry}
    (found : tree.find? place = some entry) :
    tree.find? place.dropLast = some .directory := by
  by_cases atRoot : place.dropLast = []
  · simp [find?, atRoot]
  · have notRoot : place ≠ [] := by
      rintro rfl
      exact atRoot rfl
    have listed := (find?_eq_some_iff tree notRoot).mp found
    rcases (tree.rooted _ listed).2 with parentAtRoot | parentListed
    · exact absurd parentAtRoot atRoot
    · exact (find?_eq_some_iff tree atRoot).mpr parentListed

theorem named_of_found (tree : FileTree) {place : Place} {entry : Entry}
    (found : tree.find? place = some entry) : ∀ name ∈ place, FilePath.IsName name := by
  by_cases atRoot : place = []
  · simp [atRoot]
  · exact tree.named _ ((find?_eq_some_iff tree atRoot).mp found)

theorem mem_entries_iff_of_find?_eq {first second : FileTree}
    (same : ∀ place, first.find? place = second.find? place) (item : Place × Entry) :
    item ∈ first.entries ↔ item ∈ second.entries := by
  constructor
  · intro present
    have notRoot := (first.rooted item present).1
    rw [← find?_eq_some_iff second notRoot, ← same, find?_eq_some_iff first notRoot]
    exact present
  · intro present
    have notRoot := (second.rooted item present).1
    rw [← find?_eq_some_iff first notRoot, same, find?_eq_some_iff second notRoot]
    exact present

/-- Two trees in which the same can be found everywhere are the same. -/
theorem eq_of_find?_eq {first second : FileTree}
    (same : ∀ place, first.find? place = second.find? place) : first = second := by
  have sameEntries : first.entries = second.entries :=
    Entries.eq_of_mem_iff first.sorted second.sorted (mem_entries_iff_of_find?_eq same)
  cases first
  cases second
  congr

/-- An entry may be put at a place that lies in a directory, unless a directory
would be replaced by something else. -/
structure Admits (tree : FileTree) (place : Place) (entry : Entry) : Prop where
  notRoot : place ≠ []
  named : ∀ name ∈ place, FilePath.IsName name
  inDirectory : tree.find? place.dropLast = some .directory
  keepsDirectory : tree.find? place = some .directory → entry = .directory

instance (tree : FileTree) (place : Place) (entry : Entry) :
    Decidable (tree.Admits place entry) :=
  decidable_of_iff
    (place ≠ [] ∧ (∀ name ∈ place, FilePath.IsName name) ∧
      tree.find? place.dropLast = some .directory ∧
      (tree.find? place = some .directory → entry = .directory))
    ⟨fun ⟨notRoot, named, inDirectory, keepsDirectory⟩ =>
        ⟨notRoot, named, inDirectory, keepsDirectory⟩,
      fun admitted => ⟨admitted.notRoot, admitted.named, admitted.inDirectory,
        admitted.keepsDirectory⟩⟩

def put (tree : FileTree) (place : Place) (entry : Entry)
    (admitted : tree.Admits place entry) : FileTree where
  entries := Entries.put place entry tree.entries
  sorted := Entries.sorted_put tree.sorted
  rooted := by
    intro item hItem
    have parentStays (parent : Place)
        (hParent : parent = [] ∨ (parent, Entry.directory) ∈ tree.entries) :
        parent = [] ∨ (parent, Entry.directory) ∈ Entries.put place entry tree.entries := by
      rcases hParent with atRoot | listed
      · exact Or.inl atRoot
      · refine Or.inr ((Entries.mem_put tree.sorted _).mpr ?_)
        by_cases same : parent = place
        · left
          have found := (find?_eq_some_iff tree admitted.notRoot).mpr (same ▸ listed)
          rw [admitted.keepsDirectory found, same]
        · exact Or.inr ⟨listed, same⟩
    rcases (Entries.mem_put tree.sorted item).mp hItem with rfl | ⟨old, _⟩
    · refine ⟨admitted.notRoot, parentStays _ ?_⟩
      by_cases atRoot : place.dropLast = []
      · exact Or.inl atRoot
      · exact Or.inr ((find?_eq_some_iff tree atRoot).mp admitted.inDirectory)
    · exact ⟨(tree.rooted item old).1, parentStays _ (tree.rooted item old).2⟩
  named := by
    intro item hItem
    rcases (Entries.mem_put tree.sorted item).mp hItem with rfl | ⟨old, _⟩
    · exact admitted.named
    · exact tree.named item old

/-- After an entry was put, it is found at its place, and elsewhere nothing has changed. -/
theorem find?_put (tree : FileTree) {place : Place} {entry : Entry}
    (admitted : tree.Admits place entry) (other : Place) :
    (tree.put place entry admitted).find? other =
      if other = place then some entry else tree.find? other := by
  by_cases atRoot : other = []
  · have different : ¬ ([] : Place) = place := fun same => admitted.notRoot same.symm
    simp [find?, atRoot, different]
  · apply Option.ext
    intro found
    rw [find?_eq_some_iff _ atRoot]
    simp only [put, Entries.mem_put tree.sorted]
    by_cases same : other = place
    · simp [same, eq_comm]
    · simp [same, find?_eq_some_iff tree atRoot]

theorem admits_of_file (tree : FileTree) {place : Place} {mode : Nat} {content : ByteArray}
    (present : tree.find? place = some (.file mode content)) (entry : Entry) :
    tree.Admits place entry := by
  have notRoot : place ≠ [] := by
    rintro rfl
    simp [find?] at present
  refine ⟨notRoot, tree.named_of_found present, tree.parent_of_found present, ?_⟩
  intro directory
  simp [present] at directory

theorem admits_of_free (tree : FileTree) {directory : Place} {name : Text}
    (inDirectory : tree.find? directory = some .directory) (isName : FilePath.IsName name)
    (free : tree.find? (directory ++ [name]) = none) (entry : Entry) :
    tree.Admits (directory ++ [name]) entry where
  notRoot := by simp
  named := by
    intro other hOther
    rcases List.mem_append.mp hOther with inDirectoryNames | isLast
    · exact tree.named_of_found inDirectory other inDirectoryNames
    · rw [List.mem_singleton.mp isLast]
      exact isName
  inDirectory := by simpa using inDirectory
  keepsDirectory := by simp [free]

def put? (tree : FileTree) (place : Place) (entry : Entry) : Option FileTree :=
  if admitted : tree.Admits place entry then some (tree.put place entry admitted) else none

def remove (tree : FileTree) (place : Place)
    (noDirectory : tree.find? place ≠ some .directory) : FileTree where
  entries := tree.entries.filter fun item => decide (item.1 ≠ place)
  sorted := tree.sorted.filter _
  rooted := by
    intro item hItem
    have old := (List.mem_filter.mp hItem).1
    refine ⟨(tree.rooted item old).1, ?_⟩
    rcases (tree.rooted item old).2 with atRoot | listed
    · exact Or.inl atRoot
    · refine Or.inr (List.mem_filter.mpr ⟨listed, ?_⟩)
      simp only [decide_eq_true_eq]
      intro same
      have parentNotRoot : item.1.dropLast ≠ [] := (tree.rooted _ listed).1
      exact noDirectory (same ▸ (find?_eq_some_iff tree parentNotRoot).mpr listed)
  named := fun item hItem => tree.named item (List.mem_filter.mp hItem).1

theorem find?_remove (tree : FileTree) {place : Place}
    (noDirectory : tree.find? place ≠ some .directory) (other : Place) :
    (tree.remove place noDirectory).find? other =
      if other = place then none else tree.find? other := by
  by_cases atRoot : other = []
  · have different : ¬ ([] : Place) = place := by
      rintro rfl
      exact noDirectory (by simp [find?])
    simp [find?, atRoot, different]
  · apply Option.ext
    intro found
    rw [find?_eq_some_iff _ atRoot]
    simp only [remove, List.mem_filter, decide_eq_true_eq]
    by_cases same : other = place
    · simp [same]
    · simp [same, find?_eq_some_iff tree atRoot]

def remove? (tree : FileTree) (place : Place) : Option FileTree :=
  if noDirectory : tree.find? place ≠ some .directory then
    some (tree.remove place noDirectory)
  else
    none

/-- The entries below a place, with the names that lead to them from there: a
directory comes in front of all that is in it, and the entries of a directory come
in the order of their names. -/
def below (tree : FileTree) (place : Place) : List (List Text × Entry) :=
  (tree.entries.filter fun item => place.isPrefixOf item.1 && item.1 != place).map
    fun item => (item.1.drop place.length, item.2)

end FileTree
end Stencil
