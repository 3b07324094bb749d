/-
One template under several spellings of its path.

Where there are no links, a path to a file goes through directories to the file's own directory
and then takes the file's name.  So the name in front of the last one is that of the directory,
unless the path goes back up there: then the spelling does not tell the name, and the package is
called after no directory.  Nothing else in a generated file depends on the spelling.
-/

import Stencil.Proofs.Files.Discovery
import Stencil.Proofs.Generation.Header

namespace Stencil

open FilePath

namespace FilePath

theorem walkTo_ne_tooManyLinks {tree : FileTree}
    (noLinks : ∀ place target, tree.find? place ≠ some (.link target)) {jump : Jump}
    (place : Place) (steps : List Text) :
    walkTo tree true jump place steps ≠ .error .tooManyLinks := by
  fun_induction walkTo tree true jump place steps
  case case2 ih => exact ih
  case case3 ih => exact ih
  case case7 last => simp at last
  case case8 isLink _ => exact absurd isLink (noLinks _ _)
  case case9 ih => exact ih
  case case1 | case4 | case5 | case6 | case10 =>
    intro tooMany
    cases tooMany

/-- A path that goes back up right in front of its last name. -/
def StepsBack (path : Text) : Prop :=
  (names path).dropLast.getLast? = some above

instance (path : Text) : Decidable (StepsBack path) :=
  inferInstanceAs (Decidable ((names path).dropLast.getLast? = some above))

end FilePath

namespace Site.Within

variable {site : Site} {workspace : Workspace} (within : site.Within workspace)

include within

theorem directoryName?_path :
    Go.directoryName? (absolute workspace.directory site.path) =
      if StepsBack site.path then none else site.directory.getLast? := by
  have isName := within.isName
  have reaches := within.reaches_names
  have cut : (absolute workspace.directory site.path).dropLast =
      origin workspace.directory site.front ++ names site.front := by
    rw [path, absolute_front_name within.isFront isName.nonempty isName.noSlash isName.notHere,
      absolute_eq]
  have stepsBack : StepsBack site.path ↔ (names site.front).getLast? = some above := by
    rw [StepsBack, path, names_front_name within.isFront isName.nonempty isName.noSlash
      isName.notHere, List.dropLast_concat]
  rw [Go.directoryName?, cut]
  simp only [stepsBack]
  rcases List.eq_nil_or_concat' (names site.front) with isEmpty | ⟨front, last, spelled⟩
  · rw [isEmpty] at reaches ⊢
    have named := workspace.tree.named_of_found reaches.start_directory
    generalize origin workspace.directory site.front = start at reaches named ⊢
    cases reaches
    rw [List.append_nil, List.getLast?_nil, if_neg (Option.some_ne_none above).symm]
    cases isLast : site.directory.getLast? with
    | none => rfl
    | some name => exact if_neg (named name (List.mem_of_getLast? isLast)).notAbove
  · rw [spelled, ← List.append_assoc, List.getLast?_concat, List.getLast?_concat]
    by_cases back : last = above
    · simp [back]
    · have inNames : last ∈ names site.front := by
        rw [spelled]
        exact List.mem_append_right front List.mem_cons_self
      have notHere : last ≠ here := by
        have kept := (List.mem_filter.mp inNames).2
        simp only [Bool.and_eq_true, bne_iff_ne] at kept
        exact kept.2
      obtain ⟨directory, -, -, same⟩ := walk_endsIn notHere back List.getLast?_concat
        (spelled ▸ reaches.walk_eq_ok false linkLimit)
      simp [back, same]

end Site.Within

namespace Workspace

variable {workspace : Workspace} {config : Config}

theorem exists_site_of_located
    (noLinks : ∀ place target, workspace.tree.find? place ≠ some (.link target)) {path : Text}
    {place : Place} {mode : Nat} {content : ByteArray}
    (located : locate workspace.tree true workspace.directory path =
      .ok (place, .file mode content)) :
    ∃ site : Site, site.path = path ∧ site.place = place ∧ site.Within workspace := by
  have linkless : workspace.Linkless path := walkTo_ne_tooManyLinks noLinks _ _
  obtain ⟨resolved, isFile⟩ := locate_eq_ok_iff.mp located
  obtain ⟨noFault, walked⟩ := resolve_eq_ok_iff.mp resolved
  rw [walk_of_linkless linkless] at walked
  obtain ⟨site, rfl, within⟩ := root_within (path_nonempty noFault) walked isFile
  have same := within.resolve_path true
  rw [resolved, noFault] at same
  exact ⟨site, rfl, (Except.ok.inj same).symm, within⟩

/-- The name that the package of a file is to have: that of the directory the file lies in. -/
def homePackage (place : Place) : Text :=
  Go.identifier (place.dropLast.getLast?.getD "main".toList)

section Located

variable (noLinks : ∀ place target, workspace.tree.find? place ≠ some (.link target))
  {path : Text} {place : Place} {mode : Nat} {content : ByteArray}
  (located : locate workspace.tree true workspace.directory path = .ok (place, .file mode content))

include noLinks located

theorem packageName_of_located :
    Go.packageName (FilePath.absolute workspace.directory path) =
      if StepsBack path then "main".toList else homePackage place := by
  obtain ⟨site, rfl, rfl, within⟩ := exists_site_of_located noLinks located
  rw [Go.packageName, within.directoryName?_path, homePackage, Site.place, List.dropLast_concat]
  split
  · decide +kernel
  · rfl

theorem fileName?_of_located : fileName? path = place.getLast? := by
  obtain ⟨site, rfl, rfl, within⟩ := exists_site_of_located noLinks located
  have isName := within.isName
  rw [Site.path, Site.place, List.getLast?_concat, fileName?_front_name within.isFront
    isName.nonempty isName.noSlash isName.notHere isName.notAbove]

end Located

theorem read_eq_of_located {first second : Text} {found : Place × Entry}
    (firstLocated : locate workspace.tree true workspace.directory first = .ok found)
    (secondLocated : locate workspace.tree true workspace.directory second = .ok found) :
    workspace.read first = workspace.read second := by
  rw [read, read, firstLocated, secondLocated]

section Read

variable {first second : Text} (sameRead : workspace.read first = workspace.read second)
  (bothTold : workspace.Told first ↔ workspace.Told second)

include sameRead bothTold

theorem renders_iff_of_read_eq :
    (∃ text, workspace.render config first = .ok text) ↔
      ∃ text, workspace.render config second = .ok text := by
  simp only [render_eq_ok_iff, sameRead, bothTold]
  constructor
  · rintro ⟨_, file, code, isRead, compiled, told, -⟩
    exact ⟨_, file, code, isRead, compiled, told, rfl⟩
  · rintro ⟨_, file, code, isRead, compiled, told, -⟩
    exact ⟨_, file, code, isRead, compiled, told, rfl⟩

theorem render_eq_of_front_eq
    (sameFront : frontMatter config workspace.directory first =
      frontMatter config workspace.directory second) (text : Text) :
    workspace.render config first = .ok text ↔ workspace.render config second = .ok text := by
  rw [render_eq_ok_iff, render_eq_ok_iff, sameRead, sameFront, bothTold]

/-- The same file is rendered alike under two paths that end in the same name, exactly if they
give its package the same name or no name is put out. -/
theorem render_eq_iff_of_read_eq (sameName : fileName? first = fileName? second) :
    (∀ text, workspace.render config first = .ok text ↔
        workspace.render config second = .ok text) ↔
      (config.header = true → (∃ text, workspace.render config first = .ok text) →
        Go.packageName (FilePath.absolute workspace.directory first) =
          Go.packageName (FilePath.absolute workspace.directory second)) := by
  constructor
  · rintro alike headed ⟨text, rendered⟩
    have clause := packageOf?_of_render headed rendered
    have otherClause := packageOf?_of_render headed ((alike text).mp rendered)
    exact Option.some.inj (clause.symm.trans otherClause)
  · intro samePackage text
    by_cases renders : ∃ text, workspace.render config first = .ok text
    · refine render_eq_of_front_eq sameRead bothTold ?_ text
      unfold frontMatter headerText
      split
      · rename_i headed
        rw [sameName, samePackage headed renders]
      · rfl
    · have otherwise := mt (renders_iff_of_read_eq sameRead bothTold).mpr renders
      exact iff_of_false (not_exists.mp renders text) (not_exists.mp otherwise text)

end Read

/-- Two paths to one template, where there are no links.  The clause of the generated file names
the package after the directory of the template, unless the path goes back up right in front of
the last name, and then it is the main package.  So the two generated files are the same if both
paths go back up there or none does, and otherwise if no header is asked for, if nothing is
generated, or if the package of the directory happens to be called like the main one.  Either
the system can tell both paths from the root on or neither, as when both start at the root, none
does, or the path of the working directory can be told. -/
theorem render_respelled_iff
    (noLinks : ∀ place target, workspace.tree.find? place ≠ some (.link target)) (config : Config)
    {first second : Text} {place : Place} {mode : Nat} {content : ByteArray}
    (firstLocated : locate workspace.tree true workspace.directory first =
      .ok (place, .file mode content))
    (secondLocated : locate workspace.tree true workspace.directory second =
      .ok (place, .file mode content))
    (bothTold : workspace.Told first ↔ workspace.Told second) :
    (∀ text, config.header = true → workspace.render config first = .ok text →
      packageOf? text =
        some (if StepsBack first then "main".toList else homePackage place)) ∧
    ((∃ text, workspace.render config first = .ok text) ↔
      ∃ text, workspace.render config second = .ok text) ∧
    ((∀ text, workspace.render config first = .ok text ↔
        workspace.render config second = .ok text) ↔
      (config.header = true → (∃ text, workspace.render config first = .ok text) →
        (StepsBack first ↔ StepsBack second) ∨ homePackage place = "main".toList)) := by
  have sameRead := read_eq_of_located firstLocated secondLocated
  have sameName : fileName? first = fileName? second :=
    (fileName?_of_located noLinks firstLocated).trans
      (fileName?_of_located noLinks secondLocated).symm
  have firstPackage := packageName_of_located noLinks firstLocated
  have secondPackage := packageName_of_located noLinks secondLocated
  have samePackage_iff : Go.packageName (FilePath.absolute workspace.directory first) =
      Go.packageName (FilePath.absolute workspace.directory second) ↔
        (StepsBack first ↔ StepsBack second) ∨ homePackage place = "main".toList := by
    rw [firstPackage, secondPackage]
    by_cases firstBack : StepsBack first
    · by_cases secondBack : StepsBack second
      · simp [firstBack, secondBack]
      · simp [firstBack, secondBack, eq_comm]
    · by_cases secondBack : StepsBack second
      · simp [firstBack, secondBack]
      · simp [firstBack, secondBack]
  refine ⟨fun text headed rendered => ?_, renders_iff_of_read_eq sameRead bothTold, ?_⟩
  · rw [packageOf?_of_render headed rendered, firstPackage]
  · rw [render_eq_iff_of_read_eq sameRead bothTold sameName, samePackage_iff]

def besideTemplate : Workspace :=
  .ofTree
    (((FileTree.empty.put ["views".toList] .directory (by decide)).put
      ["views".toList, "page.qtpl".toList] (.file 0o644 ByteArray.empty) (by decide)).put
      ["views".toList, "sub".toList] .directory (by decide))
    ["views".toList]

theorem besideTemplate_noLinks (place : Place) (target : Text) :
    besideTemplate.tree.find? place ≠ some (.link target) := by
  have listed : besideTemplate.tree.entries.map Prod.snd =
      [.directory, .file 0o644 ByteArray.empty, .directory] := rfl
  intro isLink
  by_cases atRoot : place = []
  · simp [FileTree.find?, atRoot] at isLink
  · have present := List.mem_map_of_mem (f := Prod.snd)
      ((besideTemplate.tree.find?_eq_some_iff atRoot).mp isLink)
    rw [listed] at present
    simp at present

def besideTemplateCode (package : String) : Text :=
  ("// Code generated by qtc from \"page.qtpl\". DO NOT EDIT.\n\npackage " ++ package ++
    "\n\nimport \"github.com/valyala/quicktemplate\"\n").toList

/-- A path that leaves the directory and comes back by its name is as good as the shortest. -/
theorem render_respelled_around :
    let first := "page.qtpl".toList
    let second := "sub/../../views//./page.qtpl".toList
    let found := (["views".toList, "page.qtpl".toList], Entry.file 0o644 ByteArray.empty)
    (∀ place target, besideTemplate.tree.find? place ≠ some (.link target)) ∧
      locate besideTemplate.tree true besideTemplate.directory first = .ok found ∧
      locate besideTemplate.tree true besideTemplate.directory second = .ok found ∧
      (besideTemplate.Told first ↔ besideTemplate.Told second) ∧
      besideTemplate.render Config.default first = .ok (besideTemplateCode "views") ∧
      besideTemplate.render Config.default second = .ok (besideTemplateCode "views") := by
  intro first second found
  have firstLocated : locate besideTemplate.tree true besideTemplate.directory first =
      .ok found := rfl
  have secondLocated : locate besideTemplate.tree true besideTemplate.directory second =
      .ok found := rfl
  have bothTold : besideTemplate.Told first ↔ besideTemplate.Told second :=
    iff_of_true (Or.inr rfl) (Or.inr rfl)
  have rendered : besideTemplate.render Config.default first =
      .ok (besideTemplateCode "views") := by decide +kernel
  obtain ⟨-, -, alike_iff⟩ := render_respelled_iff besideTemplate_noLinks Config.default
    firstLocated secondLocated bothTold
  have alike := alike_iff.mpr fun _ _ => Or.inl (by decide)
  exact ⟨besideTemplate_noLinks, firstLocated, secondLocated, bothTold, rendered,
    (alike _).mp rendered⟩

/-- A path that goes back up right in front of the template is taken for one of the main
package. -/
theorem render_respelled_apart :
    let first := "page.qtpl".toList
    let second := "sub/../page.qtpl".toList
    let found := (["views".toList, "page.qtpl".toList], Entry.file 0o644 ByteArray.empty)
    (∀ place target, besideTemplate.tree.find? place ≠ some (.link target)) ∧
      locate besideTemplate.tree true besideTemplate.directory first = .ok found ∧
      locate besideTemplate.tree true besideTemplate.directory second = .ok found ∧
      besideTemplate.render Config.default first = .ok (besideTemplateCode "views") ∧
      besideTemplate.render Config.default second = .ok (besideTemplateCode "main") ∧
      besideTemplateCode "views" ≠ besideTemplateCode "main" := by
  refine ⟨besideTemplate_noLinks, rfl, rfl, ?_, ?_, ?_⟩
  · decide +kernel
  · decide +kernel
  · decide +kernel

end Workspace
end Stencil
