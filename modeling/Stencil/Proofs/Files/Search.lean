/-
What a search finds.

A search is a walk from its start, of which the files with the extension are kept.  The walk
visits all that can be found below the start, so the ways that are kept are those by which
directories lead to such a file, and they come in the order of the walk.  If the start is a
file itself, its path ends with its name.

The extension of a name stands behind the last dot.  So of the files that end in a dot and
the wanted extension a search keeps all or none: an extension with a dot of its own is never
that of a name.
-/

import Stencil.Proofs.Files.Discovery

namespace Stencil

open FilePath

inductive LeadsToFile (tree : FileTree) : Place → List Text → Prop where
  | here {place : Place} {mode : Nat} {content : ByteArray}
      (isFile : tree.find? place = some (.file mode content)) : LeadsToFile tree place []
  | enter {place : Place} {name : Text} {rest : List Text}
      (inDirectory : tree.find? place = some .directory)
      (onward : LeadsToFile tree (place ++ [name]) rest) :
      LeadsToFile tree place (name :: rest)

/-- Some names lead to a file, and the last name on the way from the root to it has the
extension. -/
structure LeadsToTemplate (tree : FileTree) (extension : Text) (place : Place)
    (names : List Text) : Prop where
  leads : LeadsToFile tree place names
  extended : ∃ name, (place ++ names).getLast? = some name ∧ HasExtension extension name

theorem leadsToFile_iff {tree : FileTree} {place : Place} {names : List Text} :
    LeadsToFile tree place names ↔
      ∃ mode content, tree.find? (place ++ names) = some (.file mode content) := by
  induction names generalizing place with
  | nil =>
      rw [List.append_nil]
      constructor
      · rintro ⟨isFile⟩
        exact ⟨_, _, isFile⟩
      · rintro ⟨mode, content, isFile⟩
        exact .here isFile
  | cons name rest ih =>
      rw [List.append_cons, ← ih]
      constructor
      · rintro (_ | ⟨inDirectory, onward⟩)
        exact onward
      · intro onward
        obtain ⟨mode, content, isFile⟩ := ih.mp onward
        rw [← List.append_cons] at isFile
        exact .enter (FileTree.directory_of_found_below isFile (List.cons_ne_nil _ _)) onward

namespace FilePath

/-- One path comes before another when its names do, which are compared by their bytes. -/
def ComesBefore (first second : Text) : Prop :=
  (names first).map Text.utf8 < (names second).map Text.utf8

instance (first second : Text) : Decidable (ComesBefore first second) :=
  inferInstanceAs (Decidable ((names first).map Text.utf8 < (names second).map Text.utf8))

theorem names_extend {below : List Text} (named : ∀ name ∈ below, IsName name) (root : Text) :
    names (extend root below) = names root ++ below := by
  rw [names_eq_filter, pieces_extend named, List.filter_append, ← names_eq_filter]
  congr 1
  exact List.filter_eq_self.mpr fun name present => bne_iff_ne.mpr (named name present).notHere

theorem comesBefore_extend {first second : List Text} (root : Text)
    (firstNamed : ∀ name ∈ first, IsName name) (secondNamed : ∀ name ∈ second, IsName name)
    (before : first < second) : ComesBefore (extend root first) (extend root second) := by
  rw [ComesBefore, names_extend firstNamed, names_extend secondNamed]
  exact List.map_lt (fun _ _ smaller => Text.utf8_lt smaller) (List.append_left_lt before)

/-- A dot comes before a slash, but what is in a directory comes before its longer neighbours. -/
example : ComesBefore "a/x.e".toList "a.e".toList ∧ "a.e".toList < "a/x.e".toList := by
  decide +kernel

end FilePath

namespace Workspace

/-- A search from a path starts at a place: a directory, also when the path ends with a link to
it, or a file. -/
inductive StartsAt (workspace : Workspace) (root : Text) : Place → Prop where
  | directory {place : Place}
      (located : locate workspace.tree false workspace.directory root = .ok (place, .directory)) :
      workspace.StartsAt root place
  | link {place linkPlace : Place} {target : Text}
      (isLink : locate workspace.tree false workspace.directory root =
        .ok (linkPlace, .link target))
      (located : locate workspace.tree true workspace.directory root = .ok (place, .directory)) :
      workspace.StartsAt root place
  | file {place : Place} {mode : Nat} {content : ByteArray}
      (located : locate workspace.tree false workspace.directory root =
        .ok (place, .file mode content)) :
      workspace.StartsAt root place

variable {workspace : Workspace} {root : Text} {place : Place}

theorem extension?_of_located {mode : Nat} {content : ByteArray}
    (located : locate workspace.tree false workspace.directory root =
      .ok (place, .file mode content)) :
    ∃ name, place.getLast? = some name ∧ extension? root = extensionOf? name := by
  obtain ⟨front, name, ends⟩ := exists_endsWith_of_locate located (by simp)
  obtain ⟨resolved, -⟩ := locate_eq_ok_iff.mp located
  have walked := (resolve_eq_ok_iff.mp resolved).2
  rw [ends.steps_eq] at walked
  obtain ⟨directory, -, -, rfl⟩ :=
    walk_endsIn ends.notHere ends.notAbove List.getLast?_concat walked
  refine ⟨name, List.getLast?_concat, ?_⟩
  rw [extension?, ends.fileName?]
  rfl

theorem templatesBelow_eq_walk {visited : List (List Text × Entry)}
    (walk : workspace.tree.Walk place visited)
    (inDirectory : workspace.tree.find? place = some .directory) {extension : Text} :
    templatesBelow workspace.tree place root extension =
      (templateWays root extension visited).map (extend root) := by
  rw [walk.eq_cons_below inDirectory, templatesBelow_eq_ways]
  rfl

namespace StartsAt

variable (start : workspace.StartsAt root place)

include start

theorem directory_or_file :
    workspace.tree.find? place = some .directory ∨
      ∃ mode content, locate workspace.tree false workspace.directory root =
        .ok (place, .file mode content) := by
  cases start with
  | directory located => exact Or.inl (locate_eq_ok_iff.mp located).2
  | link isLink located => exact Or.inl (locate_eq_ok_iff.mp located).2
  | file located => exact Or.inr ⟨_, _, located⟩

theorem exists_found : ∃ entry, workspace.tree.find? place = some entry := by
  rcases start.directory_or_file with inDirectory | ⟨mode, content, located⟩
  · exact ⟨_, inDirectory⟩
  · exact ⟨_, (locate_eq_ok_iff.mp located).2⟩

theorem extension?_extend {names : List Text} (leads : LeadsToFile workspace.tree place names) :
    ∃ name, (place ++ names).getLast? = some name ∧
      extension? (extend root names) = extensionOf? name := by
  obtain ⟨mode, content, isFile⟩ := leadsToFile_iff.mp leads
  rcases List.eq_nil_or_concat' names with rfl | ⟨front, name, rfl⟩
  · rw [List.append_nil] at isFile ⊢
    rcases start.directory_or_file with inDirectory | ⟨_, _, located⟩
    · rw [inDirectory] at isFile
      cases isFile
    · exact extension?_of_located located
  · have isName := workspace.tree.named_of_found isFile name (by simp)
    refine ⟨name, ?_, FilePath.extension?_extend root front isName⟩
    rw [← List.append_assoc, List.getLast?_concat]

theorem discover_eq_ways {visited : List (List Text × Entry)}
    (walk : workspace.tree.Walk place visited) (extension : Text) :
    workspace.discover root extension =
      .ok ((templateWays root extension visited).map (extend root)) := by
  unfold discover
  cases start with
  | directory located =>
      rw [located, ← templatesBelow_eq_walk walk (locate_eq_ok_iff.mp located).2]
  | link isLink located =>
      rw [isLink, located, ← templatesBelow_eq_walk walk (locate_eq_ok_iff.mp located).2]
  | @file mode content located =>
      have isFile := (locate_eq_ok_iff.mp located).2
      have alone := (walk.eq_cons_below isFile).trans
        ((FileTree.Walk.leaf isFile (by simp)).eq_cons_below isFile).symm
      rw [located, alone]
      cases template : isTemplate extension root (.file mode content) with
      | true => simp [templateWays, extend, template]
      | false => simp [templateWays, extend, template]

theorem mem_ways_iff {visited : List (List Text × Entry)}
    (walk : workspace.tree.Walk place visited) (extension : Text) (names : List Text) :
    names ∈ templateWays root extension visited ↔
      LeadsToTemplate workspace.tree extension place names := by
  have leads_iff : (∃ mode content, (names, .file mode content) ∈ visited) ↔
      LeadsToFile workspace.tree place names := by
    simp only [walk.mem_iff, leadsToFile_iff]
  rw [mem_templateWays_iff, leads_iff]
  constructor
  · rintro ⟨leads, extended⟩
    obtain ⟨name, last, same⟩ := start.extension?_extend leads
    rw [same] at extended
    exact ⟨leads, name, last, extensionOf?_eq_some_iff.mp extended⟩
  · rintro ⟨leads, name, last, extended⟩
    obtain ⟨other, otherLast, same⟩ := start.extension?_extend leads
    obtain rfl := Option.some.inj (last.symm.trans otherLast)
    exact ⟨leads, same.trans (extensionOf?_eq_some_iff.mpr extended)⟩

end StartsAt

/-- A search finds the files with the extension that directories lead to from its start, each
once and in the order of their paths, and leaves the tree as it is. -/
theorem discover_finds_templates (start : workspace.StartsAt root place) (extension : Text) :
    ∃ (visited : List (List Text × Entry)) (ways : List (List Text)),
      workspace.tree.Walk place visited ∧
      ways.Sublist (visited.map Prod.fst) ∧
      workspace.discover root extension = .ok (ways.map (extend root)) ∧
      (∀ names, names ∈ ways ↔ LeadsToTemplate workspace.tree extension place names) ∧
      ways.Nodup ∧
      (ways.map (extend root)).Pairwise ComesBefore ∧
      ∀ config, config.extension = extension →
        (workspace.compileDirectory config root).tree =
          (workspace.compileFiles config (ways.map (extend root))).tree := by
  obtain ⟨entry, found⟩ := start.exists_found
  obtain ⟨visited, walk⟩ := FileTree.exists_walk found
  let ways := templateWays root extension visited
  have answer : workspace.discover root extension = .ok (ways.map (extend root)) :=
    start.discover_eq_ways walk extension
  have exact : ∀ names, names ∈ ways ↔ LeadsToTemplate workspace.tree extension place names :=
    start.mem_ways_iff walk extension
  have inOrder : ways.Pairwise (· < ·) := templateWays_inOrder walk.inOrder
  have named : ∀ names ∈ ways, ∀ name ∈ names, IsName name := by
    intro names present name inNames
    obtain ⟨mode, content, isFile⟩ := leadsToFile_iff.mp ((exact names).mp present).leads
    exact workspace.tree.named_of_found isFile name (List.mem_append_right place inNames)
  refine ⟨visited, ways, walk, List.filter_sublist.map Prod.fst, answer, exact, ?_, ?_, ?_⟩
  · refine inOrder.imp ?_
    rintro first second before rfl
    exact List.lt_irrefl _ before
  · refine List.pairwise_map.mpr (inOrder.imp_of_mem ?_)
    intro first second inFirst inSecond before
    exact comesBefore_extend root (named first inFirst) (named second inSecond) before
  · rintro config rfl
    rw [compileDirectory, answer]

/-- A directory with a template, one called like a template, and a link called so. -/
def lookalikes : Workspace :=
  .ofTree
    (((((FileTree.empty.put ["a".toList] .directory (by decide)).put
      ["a".toList, "x.e".toList] (.file 0o644 ByteArray.empty) (by decide)).put
      ["a.e".toList] .directory (by decide)).put
      ["a.e".toList, "y.e".toList] (.file 0o644 ByteArray.empty) (by decide)).put
      ["l.e".toList] (.link "a/x.e".toList) (by decide))
    []

theorem discover_finds_no_lookalikes :
    let found := ["./a/x.e".toList, "./a.e/y.e".toList]
    lookalikes.StartsAt here [] ∧
      lookalikes.discover here "e".toList = .ok found ∧
      found.Pairwise ComesBefore ∧
      ∀ path ∈ found, ∃ names, path = extend here names ∧
        LeadsToTemplate lookalikes.tree "e".toList [] names := by
  intro found
  have start : lookalikes.StartsAt here [] := .directory rfl
  have answer : lookalikes.discover here "e".toList = .ok found := by decide +kernel
  obtain ⟨_, ways, _, _, same, isFound, _, ordered, _⟩ :=
    discover_finds_templates start "e".toList
  rw [answer] at same
  have paths : found = ways.map (extend here) := Except.ok.inj same
  refine ⟨start, answer, paths ▸ ordered, fun path present => ?_⟩
  rw [paths] at present
  obtain ⟨names, listed, rfl⟩ := List.mem_map.mp present
  exact ⟨names, rfl, (isFound names).mp listed⟩

end Workspace

/-! ### Suffixes -/

namespace FilePath

def EndsAtOrLinks (tree : FileTree) (target : Place) (answer : Except FileFault Place) : Prop :=
  answer = .ok target ∨
    ∃ linkPlace text, answer = .ok linkPlace ∧ tree.find? linkPlace = some (.link text)

variable {tree : FileTree} {target : Place}

theorem walkTo_of_followed {jump onward : Jump}
    (afterJump : ∀ place steps, jump place steps = .ok target →
      EndsAtOrLinks tree target (onward place steps))
    {place : Place} {steps : List Text} (walked : walkTo tree true jump place steps = .ok target) :
    EndsAtOrLinks tree target (walkTo tree false onward place steps) := by
  fun_induction walkTo tree true jump place steps
  case case1 =>
    rw [walkTo]
    exact Or.inl walked
  case case2 place rest inDirectory ih =>
    rw [walkTo_here inDirectory]
    exact ih walked
  case case3 place rest inDirectory notHere ih =>
    rw [walkTo_above inDirectory]
    exact ih walked
  case case5 place step rest inDirectory notHere notAbove short absent last =>
    rw [walkTo_free inDirectory notHere notAbove short absent, if_pos last]
    exact Or.inl walked
  case case7 last => simp at last
  case case8 place step rest inDirectory notHere notAbove short text isLink notLast =>
    rw [walkTo_link inDirectory notHere notAbove short isLink]
    by_cases last : rest.isEmpty = true
    · rw [if_pos (by simpa using last)]
      exact Or.inr ⟨_, text, rfl, isLink⟩
    · rw [if_neg (by simpa using last)]
      exact afterJump _ _ walked
  case case9 place step rest inDirectory notHere notAbove short entry noLink found ih =>
    rw [walkTo_entry inDirectory notHere notAbove short found noLink]
    exact ih walked
  case case4 | case6 | case10 => cases walked

theorem walk_of_followed {links : Nat} {place : Place} {steps : List Text}
    (walked : walk tree true links place steps = .ok target) :
    EndsAtOrLinks tree target (walk tree false links place steps) := by
  simp only [walk_eq tree _ links] at walked ⊢
  induction links generalizing place steps with
  | zero =>
      refine walkTo_of_followed ?_ walked
      intro place steps jumped
      cases jumped
  | succ links ih =>
      refine walkTo_of_followed (fun place steps jumped => ?_) walked
      simp only [jump, walk_eq tree _ links] at jumped ⊢
      exact ih jumped

end FilePath

namespace Workspace

variable {workspace : Workspace} {root : Text} {place : Place}

theorem startsAt_of_located
    (located : locate workspace.tree true workspace.directory root = .ok (place, .directory)) :
    workspace.StartsAt root place := by
  obtain ⟨resolved, inDirectory⟩ := locate_eq_ok_iff.mp located
  obtain ⟨noFault, walked⟩ := resolve_eq_ok_iff.mp resolved
  rcases walk_of_followed walked with direct | ⟨linkPlace, text, stopped, isLink⟩
  · exact .directory (locate_eq_ok_iff.mpr
      ⟨resolve_eq_ok_iff.mpr ⟨noFault, direct⟩, inDirectory⟩)
  · exact .link (locate_eq_ok_iff.mpr ⟨resolve_eq_ok_iff.mpr ⟨noFault, stopped⟩, isLink⟩) located

/-- Whether a search keeps a file depends on the last name on the way to it alone. -/
theorem StartsAt.discover_keeps_iff (start : workspace.StartsAt root place)
    (extension : Text) {names : List Text} {name : Text} {mode : Nat} {content : ByteArray}
    (isFile : workspace.tree.find? (place ++ (names ++ [name])) = some (.file mode content)) :
    ∃ templates, workspace.discover root extension = .ok templates ∧
      (extend root (names ++ [name]) ∈ templates ↔ extensionOf? name = some extension) := by
  have isName := workspace.tree.named_of_found isFile name (by simp)
  obtain ⟨entry, found⟩ := start.exists_found
  obtain ⟨visited, walk⟩ := FileTree.exists_walk found
  refine ⟨_, start.discover_eq_ways walk extension, ?_⟩
  rw [← FilePath.extension?_extend root names isName]
  constructor
  · intro kept
    obtain ⟨others, present, same⟩ := List.mem_map.mp kept
    rw [← same]
    exact (mem_templateWays_iff.mp present).2
  · intro extended
    have wasVisited := (walk.mem_iff (names ++ [name], .file mode content)).mpr isFile
    exact List.mem_map_of_mem (mem_templateWays_iff.mpr ⟨⟨mode, content, wasVisited⟩, extended⟩)

theorem extensionOf?_suffixed_iff {stem extension : Text} (nonempty : stem ≠ []) :
    extensionOf? (stem ++ '.' :: extension) = some extension ↔ '.' ∉ extension := by
  constructor
  · intro found
    obtain ⟨_, _, _, free⟩ := extensionOf?_eq_some_iff.mp found
    exact free
  · intro free
    exact extensionOf?_append nonempty free

/-- A search from a directory finds a file whose name ends in a dot and the wanted extension
exactly if there is no dot in that extension.  The file may lie anywhere below the directory,
and its path is that of the directory with the names on the way behind it. -/
theorem discover_finds_suffixed_iff
    (located : locate workspace.tree true workspace.directory root = .ok (place, .directory))
    {names : List Text} {stem extension : Text} (nonempty : stem ≠ []) {mode : Nat}
    {content : ByteArray}
    (isFile : workspace.tree.find? (place ++ (names ++ [stem ++ '.' :: extension])) =
      some (.file mode content)) :
    ∃ templates, workspace.discover root extension = .ok templates ∧
      (extend root (names ++ [stem ++ '.' :: extension]) ∈ templates ↔ '.' ∉ extension) := by
  obtain ⟨templates, answer, keeps⟩ :=
    (startsAt_of_located located).discover_keeps_iff extension isFile
  exact ⟨templates, answer, keeps.trans (extensionOf?_suffixed_iff nonempty)⟩

def dotted : Workspace :=
  .ofTree
    ((((FileTree.empty.put ["a.tpl.html".toList]
      (.file 0o644 ByteArray.empty) (by decide)).put
      ["b".toList] .directory (by decide)).put
      ["b".toList, ".e.x".toList] (.file 0o644 ByteArray.empty) (by decide)).put
      ["l".toList] (.link "b".toList) (by decide))
    []

/-- Through the link, a name that begins with a dot is found by what stands behind the last. -/
theorem discover_finds_suffixed_through_link :
    let root := "l".toList
    locate dotted.tree true dotted.directory root = .ok (["b".toList], .directory) ∧
      ".e".toList ≠ [] ∧
      dotted.tree.find? (["b".toList] ++ ([] ++ [".e".toList ++ '.' :: "x".toList])) =
        some (.file 0o644 ByteArray.empty) ∧
      ∃ templates, dotted.discover root "x".toList = .ok templates ∧
        "l/.e.x".toList ∈ templates := by
  intro root
  have located : locate dotted.tree true dotted.directory root =
      .ok (["b".toList], .directory) := rfl
  have nonempty : ".e".toList ≠ [] := by decide
  have isFile : dotted.tree.find? (["b".toList] ++ ([] ++ [".e".toList ++ '.' :: "x".toList])) =
      some (.file 0o644 ByteArray.empty) := rfl
  obtain ⟨templates, answer, keeps⟩ := discover_finds_suffixed_iff located nonempty isFile
  exact ⟨located, nonempty, isFile, templates, answer, keeps.mpr (by decide)⟩

/-- A file that ends in a dot and the wanted extension is missed. -/
theorem discover_misses_dotted_extension :
    locate dotted.tree true dotted.directory here = .ok ([], .directory) ∧
      dotted.tree.find? ["a".toList ++ '.' :: "tpl.html".toList] =
        some (.file 0o644 ByteArray.empty) ∧
      dotted.discover here "tpl.html".toList = .ok [] :=
  ⟨rfl, rfl, by decide +kernel⟩

end Workspace
end Stencil
