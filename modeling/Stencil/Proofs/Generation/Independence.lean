/-
Generating from a site in workspaces that are alike.

Workspaces are alike if they have the same working directory and trees with the same
directories, which differ only at names that may vary.  What is generated from a site is read
off directories, the template, the names that are drawn for a temporary file, and the question
whether a directory stands at the output.  So the answer is the same in every workspace that
is like the first, but for a drawn name that is refused; and whether the names that are drawn
run out has to be the same as well.
-/

import Stencil.Proofs.Files.Discovery
import Stencil.Proofs.Generation.Atomicity

namespace Stencil

open FilePath

/-- The fault without the name that was drawn. -/
def CreationFault.withoutDraw : CreationFault → CreationFault
  | refused directory _ fault => .refused directory (.ofNumber 0) fault
  | fault => fault

def WriteFault.withoutDraw : WriteFault → WriteFault
  | create directory fault => .create directory fault.withoutDraw
  | fault => fault

def GenerationFault.withoutDraw : GenerationFault → GenerationFault
  | write fault => .write fault.withoutDraw
  | fault => fault

/-- Another tree has the same directories, and differs only at some names. -/
structure FileTree.Alike (varies : Text → Prop) (tree other : FileTree) : Prop where
  directories : ∀ place,
    tree.find? place = some .directory ↔ other.find? place = some .directory
  elsewhere : ∀ directory name, ¬ varies name →
    other.find? (directory ++ [name]) = tree.find? (directory ++ [name])

def IsOutput (name : Text) : Prop := ".go".toList <:+ name

/-- The names of what a run makes: outputs and temporary files. -/
def IsProduct (name : Text) : Prop :=
  IsOutput name ∨ ∃ temporary : TemporaryName, name = temporary.text

namespace FileTree.Alike

variable {varies : Text → Prop} {tree other third : FileTree}

theorem refl (tree : FileTree) : tree.Alike varies tree :=
  ⟨fun _ => Iff.rfl, fun _ _ _ => rfl⟩

theorem symm (alike : tree.Alike varies other) : other.Alike varies tree where
  directories place := (alike.directories place).symm
  elsewhere directory name fixed := (alike.elsewhere directory name fixed).symm

theorem trans (first : tree.Alike varies other) (second : other.Alike varies third) :
    tree.Alike varies third where
  directories place := (first.directories place).trans (second.directories place)
  elsewhere directory name fixed :=
    (second.elsewhere directory name fixed).trans (first.elsewhere directory name fixed)

theorem mono {more : Text → Prop} (alike : tree.Alike varies other)
    (includes : ∀ name, varies name → more name) : tree.Alike more other where
  directories := alike.directories
  elsewhere directory name fixed :=
    alike.elsewhere directory name fun varied => fixed (includes name varied)

end FileTree.Alike

theorem FileTree.GainsTemporary.alike {tree other : FileTree}
    (gains : tree.GainsTemporary other) : tree.Alike IsProduct other := by
  obtain ⟨directory, temporary, gains⟩ := gains
  refine ⟨fun place => (gains.directory_iff place).symm, fun inside name fixed => ?_⟩
  refine gains.elsewhere _ fun same => fixed (Or.inr ⟨temporary, ?_⟩)
  exact (List.append_singleton_inj.mp same).2

structure Workspace.Alike (varies : Text → Prop) (workspace other : Workspace) : Prop where
  directory : other.directory = workspace.directory
  unnamed : other.unnamed = workspace.unnamed
  tree : workspace.tree.Alike varies other.tree

theorem TemporaryName.not_isOutput (name : TemporaryName) : ¬ IsOutput name.text := by
  intro output
  have inLetters : ".go".toList <:+ name.letters := by
    refine List.suffix_of_suffix_length_le output (List.suffix_append _ _) ?_
    rw [name.count]
    decide
  exact absurd (name.plain '.' (inLetters.subset List.mem_cons_self)) (by decide)

theorem FilePath.byteLength_join (base : Text) {first second : Text}
    (same : Text.byteLength first = Text.byteLength second) :
    Text.byteLength (join base first) = Text.byteLength (join base second) := by
  rw [join_eq, join_eq, Text.byteLength_append, Text.byteLength_append, same]

namespace Workspace

section Sites

variable {varies : Text → Prop} {site : Site} {workspace other : Workspace}
  (within : site.Within workspace) (alike : workspace.Alike varies other)
  (fixed : ¬ varies site.name)

section

include alike

theorem fromRoot_alike (path : Text) : other.fromRoot path = workspace.fromRoot path := by
  rw [fromRoot, fromRoot, alike.directory, alike.unnamed]

theorem headerFor_alike (config : Config) (path : Text) :
    other.headerFor config path = workspace.headerFor config path := by
  simp only [headerFor, packageName, absolute, fromRoot_alike alike, alike.directory]

end

include within alike fixed

theorem within_alike : site.Within other := by
  obtain ⟨mode, content, isFile⟩ := within.isFile
  refine within.mono alike.directory (fun place => (alike.tree.directories place).mp)
    ⟨mode, content, ?_⟩
  exact (alike.tree.elsewhere site.directory site.name fixed).trans isFile

theorem locate_alike (follow : Bool) :
    locate other.tree follow other.directory site.path =
      locate workspace.tree follow workspace.directory site.path :=
  within.locate_eq (within_alike within alike fixed)
    (alike.tree.elsewhere site.directory site.name fixed) follow

theorem read_alike : other.read site.path = workspace.read site.path := by
  rw [read, read, locate_alike within alike fixed]

theorem render_alike (config : Config) :
    other.render config site.path = workspace.render config site.path := by
  simp only [render, renderText, read_alike within alike fixed, headerFor_alike alike]

end Sites

def NamesTaken (workspace : Workspace) (site : Site) : Prop :=
  ∀ attempt < TemporaryFile.attemptLimit, workspace.tree.find?
    (site.directory ++ [(workspace.drawn (outputPath site.path) attempt).text]) ≠ none

theorem create?_eq_none_iff_namesTaken {workspace : Workspace} {site : Site}
    (inDirectory : workspace.tree.find? site.directory = some .directory) :
    TemporaryFile.create? workspace.tree site.directory inDirectory
        (workspace.drawn (outputPath site.path)) TemporaryFile.attemptLimit 0 = none ↔
      workspace.NamesTaken site := by
  rw [TemporaryFile.create?_eq_none_iff]
  simp only [Nat.zero_add, NamesTaken]

section Sites

variable {varies : Text → Prop} {site : Site} {workspace other : Workspace}
  (within : site.Within workspace) (alike : workspace.Alike varies other)
  (fixed : ¬ varies site.name)
  (sameRoom : other.NamesTaken site ↔ workspace.NamesTaken site)

include within alike fixed sameRoom

theorem createTemporary_alike :
    (∃ file otherFile, workspace.createTemporary (outputPath site.path) = .ok file ∧
      other.createTemporary (outputPath site.path) = .ok otherFile) ∨
    ∃ fault otherFault, workspace.createTemporary (outputPath site.path) = .error fault ∧
      other.createTemporary (outputPath site.path) = .error otherFault ∧
      otherFault.withoutDraw = fault.withoutDraw ∧
      (other.drawn = workspace.drawn → otherFault = fault) := by
  obtain ⟨inDirectory, entered⟩ := within.enter_output
  obtain ⟨inOther, enteredOther⟩ := (within_alike within alike fixed).enter_output
  rw [← create?_eq_none_iff_namesTaken inOther,
    ← create?_eq_none_iff_namesTaken inDirectory] at sameRoom
  simp only [createTemporary, entered, enteredOther, fromRoot_alike alike]
  cases workspace.fromRoot (parent (outputPath site.path)) with
  | error fault => exact Or.inr ⟨_, _, rfl, rfl, rfl, fun _ => rfl⟩
  | ok spelled =>
      have sameLength := byteLength_join spelled
        ((other.drawn (outputPath site.path) 0).byteLength_text.trans
          (workspace.drawn (outputPath site.path) 0).byteLength_text.symm)
      simp only [sameLength]
      split
      · refine Or.inr ⟨_, _, rfl, rfl, rfl, fun sameDraws => ?_⟩
        rw [sameDraws]
      · cases created : TemporaryFile.create? workspace.tree site.directory inDirectory
            (workspace.drawn (outputPath site.path)) TemporaryFile.attemptLimit 0 with
        | none =>
            rw [sameRoom.mpr created]
            exact Or.inr ⟨_, _, rfl, rfl, rfl, fun _ => rfl⟩
        | some file =>
            cases createdThere : TemporaryFile.create? other.tree site.directory inOther
                (other.drawn (outputPath site.path)) TemporaryFile.attemptLimit 0 with
            | none =>
                rw [sameRoom.mp createdThere] at created
                cases created
            | some otherFile => exact Or.inl ⟨file, otherFile, rfl, rfl⟩

end Sites

def renameFault? (workspace : Workspace) (path : Text) : Option FileFault :=
  match resolve workspace.tree false workspace.directory path with
  | .error fault => some fault
  | .ok place =>
      if workspace.tree.find? place = some .directory then some .isDirectory else none

def writeFault? (workspace : Workspace) (path : Text) : Option WriteFault :=
  match workspace.createTemporary path with
  | .error fault => some (.create (parent path) fault)
  | .ok _ => (workspace.renameFault? path).map (.rename path)

theorem place_ne_temporary {workspace : Workspace} {path : Text} {place : Place}
    (resolved : resolve workspace.tree false workspace.directory (outputPath path) = .ok place)
    (directory : Place) (name : TemporaryName) : place ≠ directory ++ [name.text] := by
  obtain ⟨inside, stem, -, -, rfl⟩ := resolve_output_name resolved
  intro same
  have sameName : outputPath stem = name.text :=
    (List.append_singleton_inj.mp same).2
  exact name.not_isOutput (sameName ▸ List.suffix_append stem _)

section Answer

variable {site : Site} {workspace : Workspace} (within : site.Within workspace)

include within

theorem resolve_output_eq {place : Place}
    (resolved : resolve workspace.tree false workspace.directory (outputPath site.path) =
      .ok place) : place = site.output := by
  rw [within.resolve_output] at resolved
  split at resolved
  · cases resolved
  · split at resolved
    · cases resolved
    · cases resolved
      rfl

theorem within_gains {tree : FileTree} {new : Place} (gains : workspace.tree.Gains tree new) :
    site.Within { workspace with tree := tree } := by
  obtain ⟨mode, content, isFile⟩ := within.isFile
  exact within.mono rfl (fun place => (gains.directory_iff place).mpr)
    ⟨mode, content, gains.find?_of_some isFile⟩

theorem persist_site {file : TemporaryFile}
    (gains : workspace.tree.Gains file.tree file.place) :
    match workspace.renameFault? (outputPath site.path) with
    | some fault => file.persist workspace.directory (outputPath site.path) = .error fault
    | none => ∃ written,
        file.persist workspace.directory (outputPath site.path) = .ok written := by
  have sameResolved : resolve file.tree false workspace.directory (outputPath site.path) =
      resolve workspace.tree false workspace.directory (outputPath site.path) := by
    rw [within.resolve_output]
    exact (within_gains within gains).resolve_output
  rw [renameFault?, TemporaryFile.persist, sameResolved,
    TemporaryFile.discard_eq_of_gains gains]
  cases resolved : resolve workspace.tree false workspace.directory (outputPath site.path) with
  | error fault => rfl
  | ok place =>
      obtain rfl := resolve_output_eq within resolved
      by_cases isDirectory : workspace.tree.find? site.output = some .directory
      · have refused : ¬ workspace.tree.Admits site.output (.file file.mode file.content) :=
          fun admitted => by cases admitted.keepsDirectory isDirectory
        simp only [if_pos isDirectory, FileTree.put?, dif_neg refused]
      · have admitted := admits_output resolved isDirectory file.mode file.content
        simp only [if_neg isDirectory, FileTree.put?, dif_pos admitted]
        exact ⟨_, rfl⟩

theorem save_site {place : Place} {entry : Entry}
    (located : locate workspace.tree true workspace.directory site.path = .ok (place, entry))
    (content : ByteArray) :
    match workspace.writeFault? (outputPath site.path) with
    | some fault => ∃ left,
        workspace.save site.path (outputPath site.path) content = .error ⟨fault, left⟩
    | none => ∃ written,
        workspace.save site.path (outputPath site.path) content = .ok written := by
  rw [writeFault?, save]
  cases created : workspace.createTemporary (outputPath site.path) with
  | error fault => exact ⟨none, rfl⟩
  | ok empty =>
      have filled := TemporaryFile.append_gains (createTemporary_gains created).1 content
      have persisted := persist_site within (TemporaryFile.setMode_gains filled entry.mode)
      simp only [locate_of_gains filled located]
      cases unmoved : workspace.renameFault? (outputPath site.path) with
      | some fault =>
          rw [unmoved] at persisted
          dsimp only at persisted ⊢
          rw [persisted]
          exact ⟨_, rfl⟩
      | none =>
          rw [unmoved] at persisted
          obtain ⟨written, moved⟩ := persisted
          rw [moved]
          exact ⟨written, rfl⟩

/-- Generating from a site fails with what rendering or else writing would fail with. -/
theorem compileFile_result (config : Config) :
    (workspace.compileFile config site.path).result =
      match workspace.render config site.path with
      | .error fault => .error fault
      | .ok _ =>
          match workspace.writeFault? (outputPath site.path) with
          | some fault => .error (.write fault)
          | none => .ok (outputPath site.path) := by
  cases isRead : workspace.read site.path with
  | error fault => simp [compileFile, render, isRead]
  | ok source =>
      cases rendered : (workspace.renderText config site.path source.text).result with
      | error fault => simp [compileFile, render, isRead, rendered]
      | ok code =>
          obtain ⟨template, content, located, -, -⟩ := read_eq_ok isRead
          have saved := save_site within located (encodeText code)
          cases unwritten : workspace.writeFault? (outputPath site.path) with
          | some fault =>
              rw [unwritten] at saved
              obtain ⟨left, failed⟩ := saved
              simp [compileFile, render, isRead, rendered, failed]
          | none =>
              rw [unwritten] at saved
              obtain ⟨written, done⟩ := saved
              simp [compileFile, render, isRead, rendered, done]

end Answer

section Sites

variable {varies : Text → Prop} {site : Site} {workspace other : Workspace}
  (within : site.Within workspace) (alike : workspace.Alike varies other)
  (fixed : ¬ varies site.name)

include within alike fixed

theorem renameFault?_alike :
    other.renameFault? (outputPath site.path) = workspace.renameFault? (outputPath site.path) := by
  rw [renameFault?, renameFault?, within.resolve_output,
    (within_alike within alike fixed).resolve_output]
  simp only [alike.tree.directories]

variable (sameRoom : other.NamesTaken site ↔ workspace.NamesTaken site)

include sameRoom

theorem writeFault?_alike :
    (other.writeFault? (outputPath site.path)).map WriteFault.withoutDraw =
        (workspace.writeFault? (outputPath site.path)).map WriteFault.withoutDraw ∧
      (other.drawn = workspace.drawn →
        other.writeFault? (outputPath site.path) =
          workspace.writeFault? (outputPath site.path)) := by
  have sameRename := renameFault?_alike within alike fixed
  rcases createTemporary_alike within alike fixed sameRoom with
    ⟨file, otherFile, created, createdOther⟩ |
      ⟨fault, otherFault, refused, refusedOther, same, exact⟩
  · simp only [writeFault?, created, createdOther, sameRename, implies_true, and_self]
  · simp only [writeFault?, refused, refusedOther]
    refine ⟨congrArg (fun fault => some (WriteFault.create _ fault)) same, fun sameDraws => ?_⟩
    rw [exact sameDraws]

/-- The answer is the same but for a drawn name, and it is the very same if the draws are. -/
theorem compileFile_result_alike (config : Config) :
    (other.compileFile config site.path).result.mapError GenerationFault.withoutDraw =
        (workspace.compileFile config site.path).result.mapError GenerationFault.withoutDraw ∧
      (other.drawn = workspace.drawn →
        (other.compileFile config site.path).result =
          (workspace.compileFile config site.path).result) := by
  obtain ⟨same, exact⟩ := writeFault?_alike within alike fixed sameRoom
  rw [compileFile_result within, compileFile_result (within_alike within alike fixed),
    render_alike within alike fixed]
  cases workspace.render config site.path with
  | error fault => exact ⟨rfl, fun _ => rfl⟩
  | ok code =>
      refine ⟨?_, fun sameDraws => by rw [exact sameDraws]⟩
      cases unwritten : workspace.writeFault? (outputPath site.path) with
      | none =>
          rw [unwritten] at same
          rw [Option.map_eq_none_iff.mp same]
      | some fault =>
          rw [unwritten] at same
          obtain ⟨otherFault, failed, alikeFault⟩ := Option.map_eq_some_iff.mp same
          rw [failed]
          exact congrArg (fun fault => Except.error (GenerationFault.write fault)) alikeFault

end Sites
end Workspace
end Stencil
