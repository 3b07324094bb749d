/-
Where templates lie.

A site is a path cut in front of its last name, together with the directory that the
front leads to.  In a workspace that has the site, the front goes through directories
only, so that the path and the name of the output lead to known places in every tree
that has these directories.  If no link is met on the way to where a search starts, every
template that it finds has a site, and the sites are all different.
-/

import Stencil.Proofs.Files.Spelling
import Stencil.Proofs.Files.Traversal

namespace Stencil

open FilePath

structure Site where
  front : Text
  name : Text
  directory : Place

namespace Site

def path (site : Site) : Text := site.front ++ site.name

def place (site : Site) : Place := site.directory ++ [site.name]

def output (site : Site) : Place := site.directory ++ [outputPath site.name]

structure Within (site : Site) (workspace : Workspace) : Prop where
  isFront : IsFront site.front
  isName : IsName site.name
  reaches : Reaches workspace.tree (origin workspace.directory site.front)
    (pieces site.front) site.directory
  isFile : ∃ mode content, workspace.tree.find? site.place = some (.file mode content)

theorem output_ne_of_place_ne {first second : Site} (different : first.place ≠ second.place) :
    first.output ≠ second.output := by
  intro same
  obtain ⟨sameDirectory, sameName⟩ := List.append_singleton_inj.mp same
  have sameBase : first.name = second.name := List.append_cancel_right sameName
  exact different (by rw [place, place, sameDirectory, sameBase])

theorem ne_output {directory : Place} {name : Text} (noOutput : ¬ ".go".toList <:+ name)
    (site : Site) : directory ++ [name] ≠ site.output := by
  intro same
  have sameName := (List.append_singleton_inj.mp same).2
  exact noOutput (sameName ▸ List.suffix_append site.name ".go".toList)

theorem outputPath_path (site : Site) :
    outputPath site.path = site.front ++ outputPath site.name :=
  outputPath_append site.front site.name

namespace Within

variable {site : Site} {workspace : Workspace} (within : site.Within workspace)

include within

theorem extension?_path : extension? site.path = extensionOf? site.name := by
  have isName := within.isName
  rw [extension?, path, fileName?_front_name within.isFront isName.nonempty isName.noSlash
    isName.notHere isName.notAbove]
  rfl

theorem resolve_path (follow : Bool) :
    resolve workspace.tree follow workspace.directory site.path =
      match fault? site.path with
      | some fault => .error fault
      | none => .ok site.place := by
  obtain ⟨mode, content, isFile⟩ := within.isFile
  have isName := within.isName
  unfold resolve
  cases fault? site.path with
  | some fault => rfl
  | none =>
      simp only [path]
      rw [origin_front_name within.isFront isName.nonempty isName.noSlash,
        steps_front_name within.isFront isName.nonempty isName.noSlash,
        within.reaches.walk_append, walk_eq,
        walkTo_entry within.reaches.last_directory isName.notHere isName.notAbove
          (Nat.not_lt.mpr isName.short) isFile (by simp), walkTo]
      rfl

theorem resolve_output :
    resolve workspace.tree false workspace.directory (outputPath site.path) =
      match fault? (outputPath site.path) with
      | some fault => .error fault
      | none =>
          if nameLimit < Text.byteLength (outputPath site.name) then .error .nameTooLong
          else .ok site.output := by
  unfold resolve
  cases fault? (outputPath site.path) with
  | some fault => rfl
  | none =>
      simp only [outputPath_path]
      have noSlash := noSlash_outputPath within.isName.noSlash
      rw [origin_front_name within.isFront (outputPath_ne_nil _) noSlash,
        steps_front_name within.isFront (outputPath_ne_nil _) noSlash,
        within.reaches.walk_append, walk_eq]
      have inDirectory := within.reaches.last_directory
      by_cases long : nameLimit < Text.byteLength (outputPath site.name)
      · rw [walkTo_long inDirectory (outputPath_ne_here _) (outputPath_ne_above _) long,
          if_pos long]
      · rw [walkTo_last inDirectory (outputPath_ne_here _) (outputPath_ne_above _) long,
          if_neg long]
        rfl

theorem reaches_names :
    Reaches workspace.tree (origin workspace.directory site.front) (names site.front)
      site.directory := by
  rw [names_eq_filter]
  exact within.reaches.filter_here

theorem enter_output :
    ∃ inDirectory,
      enter workspace.tree ((absolute workspace.directory (outputPath site.path)).dropLast) =
        .ok ⟨site.directory, inDirectory⟩ := by
  have inDirectory := within.reaches.last_directory
  refine ⟨inDirectory, ?_⟩
  have descended : Reaches workspace.tree []
      (absolute workspace.directory site.front) site.directory := by
    rw [absolute_eq]
    exact (Reaches.down within.reaches.start_directory).append within.reaches_names
  rw [outputPath_path, absolute_front_name within.isFront (outputPath_ne_nil _)
    (noSlash_outputPath within.isName.noSlash) (outputPath_ne_here _)]
  rw [enter, descended.walk_eq_ok]
  dsimp only
  split
  · rename_i absent
    rw [inDirectory] at absent
    cases absent
  · rfl
  · rename_i entry notDirectory found
    rw [inDirectory] at found
    cases found
    exact absurd rfl notDirectory

variable {other : Workspace}

/-- The site is in every tree that keeps the directories and has a file there. -/
theorem mono (sameDirectory : other.directory = workspace.directory)
    (directories : ∀ place, workspace.tree.find? place = some .directory →
      other.tree.find? place = some .directory)
    (isFile : ∃ mode content, other.tree.find? site.place = some (.file mode content)) :
    site.Within other where
  isFront := within.isFront
  isName := within.isName
  reaches := by
    rw [sameDirectory]
    exact within.reaches.mono directories
  isFile := isFile

theorem locate_eq (inOther : site.Within other)
    (same : other.tree.find? site.place = workspace.tree.find? site.place) (follow : Bool) :
    locate other.tree follow other.directory site.path =
      locate workspace.tree follow workspace.directory site.path := by
  rw [locate, locate, within.resolve_path follow, inOther.resolve_path follow]
  cases fault? site.path with
  | some fault => rfl
  | none => simp only [same]

end Within
end Site

/-! ### Searches -/

/-- The site of what some names lead to from a place, which a path is spelled for. -/
def siteBelow (place : Place) (root : Text) (names : List Text) : Site where
  front := frontOf (extend root names.dropLast)
  name := names.getLast?.getD []
  directory := place ++ names.dropLast

section SiteBelow

variable {place : Place} {root : Text} {names : List Text} (nonempty : names ≠ [])

include nonempty

private theorem dropLast_concat_last : names.dropLast ++ [names.getLast?.getD []] = names := by
  rw [List.getLast?_eq_some_getLast nonempty]
  exact List.dropLast_concat_getLast nonempty

theorem siteBelow_path : (siteBelow place root names).path = extend root names := by
  have split := extend_concat root names.dropLast (names.getLast?.getD [])
  rw [dropLast_concat_last nonempty] at split
  exact split.symm

theorem siteBelow_place : (siteBelow place root names).place = place ++ names := by
  rw [Site.place, siteBelow, List.append_assoc, dropLast_concat_last nonempty]

section InTree

variable {tree : FileTree} {mode : Nat} {content : ByteArray}
  (isFile : tree.find? (place ++ names) = some (.file mode content))

include isFile

theorem siteBelow_isName : IsName (siteBelow place root names).name := by
  apply tree.named_of_found isFile
  rw [siteBelow, List.getLast?_eq_some_getLast nonempty]
  exact List.mem_append_right place (List.getLast_mem nonempty)

theorem siteBelow_directory :
    tree.find? (siteBelow place root names).directory = some .directory := by
  have parent := tree.parent_of_found isFile
  rwa [List.dropLast_append_of_ne_nil nonempty] at parent

omit nonempty in
theorem pieces_siteBelow :
    pieces (siteBelow place root names).front = pieces root ++ names.dropLast := by
  have named : ∀ name ∈ names.dropLast, IsName name := fun name present =>
    tree.named_of_found isFile name
      (List.mem_append_right place (List.dropLast_subset names present))
  rw [siteBelow, pieces_frontOf, pieces_extend named]

omit nonempty in
theorem origin_siteBelow (directory : Place) :
    origin directory (siteBelow place root names).front = origin directory root := by
  have named : ∀ name ∈ names.dropLast, IsName name := fun name present =>
    tree.named_of_found isFile name
      (List.mem_append_right place (List.dropLast_subset names present))
  rw [siteBelow, origin, isAbsolute_frontOf, isAbsolute_extend named, ← origin]

theorem resolve_output_siteBelow {follow : Bool} {directory target : Place}
    (walked : walk tree follow linkLimit (origin directory root) (pieces root) = .ok place)
    (atEnd : tree.find? place = some .directory)
    (resolved : resolve tree false directory (outputPath (siteBelow place root names).path) =
      .ok target) : target = (siteBelow place root names).output := by
  let site := siteBelow place root names
  have isName : IsName site.name := siteBelow_isName nonempty isFile
  have inDirectory : tree.find? site.directory = some .directory :=
    siteBelow_directory nonempty isFile
  have isFront : IsFront site.front := isFront_frontOf _
  have noSlash := noSlash_outputPath isName.noSlash
  obtain ⟨noFault, walkedOn⟩ := resolve_eq_ok_iff.mp resolved
  rw [Site.outputPath_path, steps_front_name isFront (outputPath_ne_nil _) noSlash,
    origin_front_name isFront (outputPath_ne_nil _) noSlash, pieces_siteBelow isFile,
    origin_siteBelow isFile, List.append_assoc] at walkedOn
  obtain ⟨left, goesOn⟩ := walk_append_of_directory atEnd walked
  have down : Reaches tree place names.dropLast site.directory := Reaches.down inDirectory
  rw [goesOn false _ (by simp), down.walk_append, walk_eq] at walkedOn
  by_cases long : nameLimit < Text.byteLength (outputPath site.name)
  · rw [walkTo_long inDirectory (outputPath_ne_here _) (outputPath_ne_above _) long] at walkedOn
    cases walkedOn
  · rw [walkTo_last inDirectory (outputPath_ne_here _) (outputPath_ne_above _) long] at walkedOn
    exact (Except.ok.inj walkedOn).symm

end InTree

theorem siteBelow_within {workspace : Workspace}
    (reaches : Reaches workspace.tree (origin workspace.directory root) (pieces root) place)
    {mode : Nat} {content : ByteArray}
    (isFile : workspace.tree.find? (place ++ names) = some (.file mode content)) :
    (siteBelow place root names).Within workspace := by
  have inDirectory : workspace.tree.find? (siteBelow place root names).directory =
      some .directory := siteBelow_directory nonempty isFile
  refine ⟨isFront_frontOf _, siteBelow_isName nonempty isFile, ?_, mode, content, ?_⟩
  · rw [pieces_siteBelow isFile, origin_siteBelow isFile]
    exact reaches.append (Reaches.down inDirectory)
  · rw [siteBelow_place nonempty]
    exact isFile

end SiteBelow

namespace Workspace

/-- No link is met on the way that a path describes, its end included: the way does not
fail for want of links that may be followed. -/
def Linkless (workspace : Workspace) (path : Text) : Prop :=
  walk workspace.tree true 0 (origin workspace.directory path) (steps path) ≠
    .error .tooManyLinks

variable {workspace : Workspace} {root extension : Text}

/-- Sites of a list of templates with an extension, in their order and all different.  The
way to one directory is always spelled the same. -/
structure Sited (workspace : Workspace) (extension : Text) (templates : List Text)
    (sites : List Site) : Prop where
  paths : templates = sites.map Site.path
  within : ∀ site ∈ sites, site.Within workspace
  extended : ∀ site ∈ sites, extensionOf? site.name = some extension
  distinct : sites.Pairwise fun first second => first.place ≠ second.place
  fronts : ∀ first ∈ sites, ∀ second ∈ sites,
    first.directory = second.directory → first.front = second.front

def templateWays (root extension : Text) (visited : List (List Text × Entry)) :
    List (List Text) :=
  (visited.filter fun item => isTemplate extension (extend root item.1) item.2).map Prod.fst

theorem mem_templateWays_iff {visited : List (List Text × Entry)} {names : List Text} :
    names ∈ templateWays root extension visited ↔
      (∃ mode content, (names, .file mode content) ∈ visited) ∧
        extension? (extend root names) = some extension := by
  constructor
  · intro present
    obtain ⟨⟨_, entry⟩, isChosen, rfl⟩ := List.mem_map.mp present
    obtain ⟨wasVisited, template⟩ := List.mem_filter.mp isChosen
    cases entry with
    | directory => cases template
    | link target => cases template
    | file mode content => exact ⟨⟨mode, content, wasVisited⟩, beq_iff_eq.mp template⟩
  · rintro ⟨⟨mode, content, wasVisited⟩, extended⟩
    exact List.mem_map.mpr ⟨(names, .file mode content),
      List.mem_filter.mpr ⟨wasVisited, beq_iff_eq.mpr extended⟩, rfl⟩

theorem templateWays_inOrder {visited : List (List Text × Entry)}
    (inOrder : FileTree.InOrder visited) : (templateWays root extension visited).Pairwise (· < ·) :=
  List.pairwise_map.mpr (inOrder.filter _)

theorem templatesBelow_eq_ways (tree : FileTree) (place : Place) (root extension : Text) :
    templatesBelow tree place root extension =
      (templateWays root extension (tree.below place)).map (extend root) := by
  rw [templateWays, List.map_map, templatesBelow, ← List.filterMap_eq_map, List.filterMap_filter]
  rfl

/-- A template that a search finds below a place. -/
structure FoundBelow (tree : FileTree) (place : Place) (root extension : Text)
    (names : List Text) : Prop where
  nonempty : names ≠ []
  isFile : ∃ mode content, tree.find? (place ++ names) = some (.file mode content)
  extended : extension? (extend root names) = some extension

theorem templatesBelow_sites (tree : FileTree) (place : Place) (root extension : Text) :
    ∃ found : List (List Text),
      (∀ names ∈ found, FoundBelow tree place root extension names) ∧
      templatesBelow tree place root extension =
        (found.map (siteBelow place root)).map Site.path ∧
      (found.map (siteBelow place root)).Pairwise fun first second =>
        first.place ≠ second.place := by
  have isFound : ∀ names ∈ templateWays root extension (tree.below place),
      FoundBelow tree place root extension names := by
    intro names present
    obtain ⟨⟨mode, content, isBelow⟩, extended⟩ := mem_templateWays_iff.mp present
    obtain ⟨nonempty, found⟩ := (tree.mem_below_iff place _).mp isBelow
    exact ⟨nonempty, ⟨mode, content, found⟩, extended⟩
  refine ⟨templateWays root extension (tree.below place), isFound, ?_, ?_⟩
  · rw [templatesBelow_eq_ways, List.map_map]
    exact (List.map_congr_left fun names present =>
      siteBelow_path (isFound names present).nonempty).symm
  · refine List.pairwise_map.mpr ((templateWays_inOrder (tree.below_inOrder place)).imp_of_mem ?_)
    intro first second inFirst inSecond before same
    rw [siteBelow_place (isFound first inFirst).nonempty,
      siteBelow_place (isFound second inSecond).nonempty] at same
    rw [List.append_cancel_left same] at before
    exact List.lt_irrefl _ before

theorem templatesBelow_sited {place : Place}
    (reaches : Reaches workspace.tree (origin workspace.directory root) (pieces root) place) :
    ∃ sites, workspace.Sited extension
      (templatesBelow workspace.tree place root extension) sites := by
  obtain ⟨found, isFound, paths, distinct⟩ :=
    templatesBelow_sites workspace.tree place root extension
  have within : ∀ names ∈ found, (siteBelow place root names).Within workspace := by
    intro names present
    obtain ⟨nonempty, ⟨mode, content, isFile⟩, extended⟩ := isFound names present
    exact siteBelow_within nonempty reaches isFile
  refine ⟨found.map (siteBelow place root), paths, List.forall_mem_map.mpr within, ?_, distinct,
    ?_⟩
  · refine List.forall_mem_map.mpr fun names present => ?_
    rw [← (within names present).extension?_path, siteBelow_path (isFound names present).nonempty]
    exact (isFound names present).extended
  · refine List.forall_mem_map.mpr fun names _ => List.forall_mem_map.mpr fun others _ same => ?_
    have sameNames : names.dropLast = others.dropLast := List.append_cancel_left same
    rw [siteBelow, siteBelow, sameNames]

section Outputs

variable {templates : List Text} {sites : List Site}
  (sited : workspace.Sited extension templates sites)

include sited

/-- Where an output is put in the place of a template, its path is that of the template. -/
theorem Sited.outputPath_eq {first second : Site} (inFirst : first ∈ sites)
    (inSecond : second ∈ sites) (same : first.output = second.place) :
    outputPath first.path = second.path := by
  obtain ⟨sameDirectory, sameName⟩ := List.append_singleton_inj.mp same
  rw [first.outputPath_path, sited.fronts first inFirst second inSecond sameDirectory, sameName,
    Site.path]

/-- A template is in the place of an output only if it has the extension of outputs and the
output is called like it. -/
theorem Sited.output_ne_place {site : Site} (present : site ∈ sites)
    (spared : extension = "go".toList → site.path ∉ templates.map outputPath) :
    ∀ other ∈ sites, other.output ≠ site.place := by
  intro other inSites same
  by_cases isGo : extension = "go".toList
  · apply spared isGo
    rw [← sited.outputPath_eq inSites present same, sited.paths]
    exact List.mem_map_of_mem (List.mem_map_of_mem inSites)
  · have noOutput := not_go_suffix_of_extensionOf? (sited.extended site present) isGo
    exact Site.ne_output noOutput other same.symm

end Outputs

theorem root_within {place : Place} {mode : Nat} {content : ByteArray} (notEmpty : root ≠ [])
    (walked : walkTo workspace.tree true noJump (origin workspace.directory root) (steps root) =
      .ok place)
    (isFile : workspace.tree.find? place = some (.file mode content)) :
    ∃ site : Site, site.path = root ∧ site.Within workspace := by
  obtain ⟨front, name, rfl, isFront, noSlash⟩ := exists_front_name root
  have start {step : Text} {rest : List Text}
      (spelled : steps (front ++ name) = rest ++ [step]) :
      workspace.tree.find? (origin workspace.directory (front ++ name)) = some .directory := by
    rw [spelled] at walked
    cases rest with
    | nil => exact start_of_walkTo walked
    | cons first others => exact start_of_walkTo walked
  have atEnd : workspace.tree.find? place ≠ some .directory := by simp [isFile]
  by_cases isEmpty : name = []
  · subst isEmpty
    have spelled : steps (front ++ []) = pieces front ++ [here] := by
      rcases isFront with rfl | ⟨begin, rfl⟩
      · exact absurd rfl notEmpty
      · simp [steps_eq]
    obtain ⟨others, last, directory, spelling, -, rfl⟩ :=
      reaches_front_of_walkTo walked (start spelled) atEnd
    rw [spelled] at spelling
    obtain ⟨-, sameLast⟩ := List.append_inj' spelling rfl
    cases sameLast
    have isName := workspace.tree.named_of_found isFile here (by simp)
    exact absurd rfl isName.notHere
  · have spelled := steps_front_name isFront isEmpty noSlash
    obtain ⟨others, last, directory, spelling, reaches, rfl⟩ :=
      reaches_front_of_walkTo walked (start spelled) atEnd
    rw [spelled] at spelling
    obtain ⟨rfl, sameLast⟩ := List.append_inj' spelling rfl
    cases sameLast
    rw [origin_front_name isFront isEmpty noSlash] at reaches
    exact ⟨⟨front, name, directory⟩, rfl, isFront,
      workspace.tree.named_of_found isFile name (by simp), reaches, mode, content, isFile⟩

section Start

variable (linkless : workspace.Linkless root)

include linkless

theorem walk_of_linkless (follow : Bool) :
    walk workspace.tree follow linkLimit (origin workspace.directory root) (steps root) =
      walkTo workspace.tree true noJump (origin workspace.directory root) (steps root) := by
  rw [walk_eq, walkTo_of_linkless linkless]

theorem locate_of_linkless (follow : Bool) :
    locate workspace.tree follow workspace.directory root =
      locate workspace.tree false workspace.directory root := by
  rw [locate, locate, resolve, resolve, walk_of_linkless linkless follow,
    walk_of_linkless linkless false]

/-- A search from a path on which no link is met finds templates that have sites. -/
theorem discover_sited {templates : List Text}
    (found : workspace.discover root extension = .ok templates) :
    ∃ sites, workspace.Sited extension templates sites := by
  have nothing : workspace.Sited extension [] [] := ⟨rfl, by simp, by simp, .nil, by simp⟩
  unfold discover at found
  split at found
  · cases found
  · rename_i place located
    cases found
    obtain ⟨resolved, isDirectory⟩ := locate_eq_ok_iff.mp located
    have walked := (resolve_eq_ok_iff.mp resolved).2
    rw [walk_of_linkless linkless] at walked
    apply templatesBelow_sited
    have reaches := reaches_of_walkTo walked isDirectory
    rw [steps_eq] at reaches
    split at reaches
    · exact reaches.of_append_here
    · rwa [List.append_nil] at reaches
  · rename_i place mode content located
    cases found
    split
    · rename_i template
      obtain ⟨resolved, isFile⟩ := locate_eq_ok_iff.mp located
      obtain ⟨noFault, walked⟩ := resolve_eq_ok_iff.mp resolved
      rw [walk_of_linkless linkless] at walked
      obtain ⟨site, rfl, within⟩ := root_within (path_nonempty noFault) walked isFile
      refine ⟨[site], rfl, by simpa using within, ?_, List.pairwise_singleton _ _, by simp⟩
      intro other present
      rw [List.mem_singleton.mp present, ← within.extension?_path]
      exact beq_iff_eq.mp template
    · exact ⟨[], nothing⟩
  · rename_i located
    rw [locate_of_linkless linkless true, located] at found
    cases found
    exact ⟨[], nothing⟩

end Start

/-- No two templates of a list have an output at the same place. -/
def Apart (workspace : Workspace) (templates : List Text) : Prop :=
  templates.Pairwise fun first second => ∀ place,
    resolve workspace.tree false workspace.directory (outputPath first) = .ok place →
      resolve workspace.tree false workspace.directory (outputPath second) ≠ .ok place

theorem templatesBelow_apart {place : Place} {follow : Bool}
    (located : locate workspace.tree follow workspace.directory root = .ok (place, .directory)) :
    workspace.Apart (templatesBelow workspace.tree place root extension) := by
  obtain ⟨resolved, atEnd⟩ := locate_eq_ok_iff.mp located
  have walked : ∃ ending, walk workspace.tree ending linkLimit
      (origin workspace.directory root) (pieces root) = .ok place := by
    have whole := (resolve_eq_ok_iff.mp resolved).2
    rw [steps_eq] at whole
    split at whole
    · exact ⟨true, walk_of_append_here whole⟩
    · rw [List.append_nil] at whole
      exact ⟨follow, whole⟩
  obtain ⟨ending, walked⟩ := walked
  obtain ⟨found, isFound, paths, distinct⟩ :=
    templatesBelow_sites workspace.tree place root extension
  rw [paths]
  refine List.pairwise_map.mpr (distinct.imp_of_mem ?_)
  have atOutput : ∀ site ∈ found.map (siteBelow place root), ∀ target,
      resolve workspace.tree false workspace.directory (outputPath site.path) = .ok target →
        target = site.output := by
    refine List.forall_mem_map.mpr fun names present target resolved => ?_
    obtain ⟨nonempty, ⟨mode, content, isFile⟩, -⟩ := isFound names present
    exact resolve_output_siteBelow nonempty isFile walked atEnd resolved
  intro first second inFirst inSecond different target firstAt secondAt
  have same := (atOutput first inFirst target firstAt).symm.trans
    (atOutput second inSecond target secondAt)
  exact Site.output_ne_of_place_ne different same

/-- Whatever links there are, no two templates of a search have the same output. -/
theorem discover_apart {templates : List Text}
    (found : workspace.discover root extension = .ok templates) : workspace.Apart templates := by
  unfold discover at found
  split at found
  · cases found
  · rename_i place located
    cases found
    exact templatesBelow_apart located
  · cases found
    split
    · exact List.pairwise_singleton _ _
    · exact List.Pairwise.nil
  · split at found
    · cases found
    · rename_i place located
      cases found
      exact templatesBelow_apart located
    · cases found
      exact List.Pairwise.nil

end Workspace
end Stencil
