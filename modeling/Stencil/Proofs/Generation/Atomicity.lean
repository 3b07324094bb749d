/-
One template is generated as a whole or not at all.

While the temporary file exists, the tree has gained one file, at a place that was free, and
that is all.  So taking the file out again gives the tree back, and moving it changes the tree
at the place where the path leads.

A failure leaves the tree as it was, whichever step fails, once the fault and the temporary
file that it holds are dropped.  There is one only if the template does not render, no
temporary file can be made, or the output's name leads nowhere or to a directory.
-/

import Stencil.Proofs.Files.Spelling

namespace Stencil

namespace TemporaryFile

variable {tree : FileTree}

theorem create?_gains {directory : Place}
    {inDirectory : tree.find? directory = some .directory} {drawn : Nat → TemporaryName}
    {attempts attempt : Nat} {file : TemporaryFile}
    (created : create? tree directory inDirectory drawn attempts attempt = some file) :
    tree.Gains file.tree file.place ∧ file.content = ByteArray.empty := by
  fun_induction create? tree directory inDirectory drawn attempts attempt
  case case1 => cases created
  case case2 ih => exact ih created
  case case3 attempts attempt free =>
    cases created
    refine ⟨⟨free, ⟨0o600, ByteArray.empty, by simp [FileTree.find?_put]⟩, ?_⟩, rfl⟩
    intro place elsewhere
    rw [FileTree.find?_put, if_neg elsewhere]

theorem create?_place {directory : Place}
    {inDirectory : tree.find? directory = some .directory} {drawn : Nat → TemporaryName}
    {attempts attempt : Nat} {file : TemporaryFile}
    (created : create? tree directory inDirectory drawn attempts attempt = some file) :
    ∃ name : TemporaryName, file.place = directory ++ [name.text] := by
  fun_induction create? tree directory inDirectory drawn attempts attempt
  case case1 => cases created
  case case2 ih => exact ih created
  case case3 attempts attempt free =>
    cases created
    exact ⟨drawn attempt, rfl⟩

/-- Only when every name that may be tried is taken, there is no temporary file. -/
theorem create?_eq_none_iff {directory : Place}
    (inDirectory : tree.find? directory = some .directory) (drawn : Nat → TemporaryName)
    (attempts attempt : Nat) :
    create? tree directory inDirectory drawn attempts attempt = none ↔
      ∀ offset < attempts,
        tree.find? (directory ++ [(drawn (attempt + offset)).text]) ≠ none := by
  fun_induction create? tree directory inDirectory drawn attempts attempt
  case case1 => simp
  case case2 attempts attempt entry taken ih =>
    rw [ih]
    constructor
    · intro others offset bound
      cases offset with
      | zero => simp [taken]
      | succ offset =>
          have later := others offset (by omega)
          rwa [Nat.add_assoc, Nat.add_comm 1] at later
    · intro all offset bound
      have earlier := all (offset + 1) (by omega)
      rwa [Nat.add_assoc, Nat.add_comm 1]
  case case3 attempts attempt free =>
    simp only [reduceCtorEq, false_iff]
    intro all
    exact all 0 (by omega) free

theorem find?_replace (file : TemporaryFile) (mode : Nat) (content : ByteArray)
    (place : Place) :
    (file.replace mode content).tree.find? place =
      if place = file.place then some (.file mode content) else file.tree.find? place :=
  FileTree.find?_put file.tree (file.tree.admits_of_file file.present _) place

theorem replace_gains {file : TemporaryFile} (gains : tree.Gains file.tree file.place)
    (mode : Nat) (content : ByteArray) :
    tree.Gains (file.replace mode content).tree (file.replace mode content).place where
  free := gains.free
  isFile := ⟨mode, content, (file.replace mode content).present⟩
  elsewhere := by
    intro place elsewhere
    have unmoved : place ≠ file.place := elsewhere
    rw [find?_replace, if_neg unmoved, gains.elsewhere place unmoved]

theorem append_gains {file : TemporaryFile} (gains : tree.Gains file.tree file.place)
    (content : ByteArray) :
    tree.Gains (file.append content).tree (file.append content).place :=
  replace_gains gains file.mode (file.content ++ content)

theorem setMode_gains {file : TemporaryFile} (gains : tree.Gains file.tree file.place)
    (mode : Nat) : tree.Gains (file.setMode mode).tree (file.setMode mode).place :=
  replace_gains gains mode file.content

theorem discard_eq_of_gains {file : TemporaryFile}
    (gains : tree.Gains file.tree file.place) : file.discard = tree := by
  apply FileTree.eq_of_find?_eq
  intro place
  rw [discard, FileTree.find?_remove]
  by_cases atFile : place = file.place
  · rw [if_pos atFile, atFile, gains.free]
  · rw [if_neg atFile, gains.elsewhere place atFile]

theorem persist_eq_ok {file : TemporaryFile} (gains : tree.Gains file.tree file.place)
    {directory : Place} {path : Text} {written : FileTree}
    (persisted : file.persist directory path = .ok written) :
    ∃ place, FilePath.resolve tree false directory path = .ok place ∧
      tree.find? place ≠ some .directory ∧
      ∀ other, written.find? other =
        if other = place then some (.file file.mode file.content) else tree.find? other := by
  unfold persist at persisted
  cases resolved : FilePath.resolve file.tree false directory path with
  | error fault =>
      rw [resolved] at persisted
      cases persisted
  | ok place =>
      rw [resolved, discard_eq_of_gains gains] at persisted
      simp only [FileTree.put?] at persisted
      by_cases admitted : tree.Admits place (.file file.mode file.content)
      · rw [dif_pos admitted] at persisted
        cases persisted
        refine ⟨place, ?_, ?_, tree.find?_put admitted⟩
        · exact (FilePath.resolve_eq_ok_iff_of_gains gains false directory path place).mp
            resolved
        · intro isDirectory
          cases admitted.keepsDirectory isDirectory
      · rw [dif_neg admitted] at persisted
        cases persisted

theorem persist_of_admits {file : TemporaryFile} (gains : tree.Gains file.tree file.place)
    {directory place : Place} {path : Text}
    (resolved : FilePath.resolve tree false directory path = .ok place)
    (admitted : tree.Admits place (.file file.mode file.content)) :
    ∃ written, file.persist directory path = .ok written := by
  have moved := (FilePath.resolve_eq_ok_iff_of_gains gains false directory path place).mpr
    resolved
  refine ⟨tree.put place _ admitted, ?_⟩
  rw [persist, moved, discard_eq_of_gains gains]
  simp only [FileTree.put?, dif_pos admitted]

end TemporaryFile

namespace Workspace

variable {workspace : Workspace}

theorem createTemporary_eq_ok {path : Text} {file : TemporaryFile}
    (created : workspace.createTemporary path = .ok file) :
    ∃ directory inDirectory,
      TemporaryFile.create? workspace.tree directory inDirectory (workspace.drawn path)
        TemporaryFile.attemptLimit 0 = some file := by
  unfold createTemporary at created
  split at created
  · cases created
  · dsimp only at created
    split at created
    · cases created
    · split at created
      · cases created
      · split at created
        · cases created
        · rename_i found
          cases created
          exact ⟨_, _, found⟩

theorem createTemporary_gains {path : Text} {file : TemporaryFile}
    (created : workspace.createTemporary path = .ok file) :
    workspace.tree.Gains file.tree file.place ∧ file.content = ByteArray.empty := by
  obtain ⟨directory, inDirectory, found⟩ := createTemporary_eq_ok created
  exact TemporaryFile.create?_gains found

theorem createTemporary_place {path : Text} {file : TemporaryFile}
    (created : workspace.createTemporary path = .ok file) :
    ∃ directory, ∃ name : TemporaryName, file.place = directory ++ [name.text] := by
  obtain ⟨directory, inDirectory, found⟩ := createTemporary_eq_ok created
  exact ⟨directory, TemporaryFile.create?_place found⟩

variable {model output : Text} {content : ByteArray}

/-- A temporary file that a failure holds is all that the tree has gained. -/
theorem save_eq_error {failed : FailedWrite}
    (saved : workspace.save model output content = .error failed) {file : TemporaryFile}
    (left : failed.temporary = some file) :
    workspace.tree.Gains file.tree file.place ∧
      ∃ directory, ∃ name : TemporaryName, file.place = directory ++ [name.text] := by
  unfold save at saved
  split at saved
  · cases saved
    cases left
  · rename_i empty created
    have place := createTemporary_place created
    have filled := TemporaryFile.append_gains (createTemporary_gains created).1 content
    simp only at saved
    split at saved
    · cases saved
      cases left
      exact ⟨filled, place⟩
    · split at saved
      · cases saved
        cases left
        exact ⟨TemporaryFile.setMode_gains filled _, place⟩
      · cases saved

theorem save_eq_ok {written : FileTree}
    (saved : workspace.save model output content = .ok written) {place : Place} {mode : Nat}
    {old : ByteArray}
    (located : FilePath.locate workspace.tree true workspace.directory model =
      .ok (place, .file mode old)) :
    (∃ file, workspace.createTemporary output = .ok file) ∧
    ∃ target, FilePath.resolve workspace.tree false workspace.directory output = .ok target ∧
      workspace.tree.find? target ≠ some .directory ∧
      ∀ other, written.find? other =
        if other = target then some (.file mode content) else workspace.tree.find? other := by
  unfold save at saved
  split at saved
  · cases saved
  · rename_i empty created
    obtain ⟨gains, isEmpty⟩ := createTemporary_gains created
    have filled := TemporaryFile.append_gains gains content
    simp only [FilePath.locate_of_gains filled located] at saved
    split at saved
    · cases saved
    · rename_i persisted
      cases saved
      have sameContent : empty.content ++ content = content := by
        rw [isEmpty, ByteArray.empty_append]
      have done := TemporaryFile.persist_eq_ok (TemporaryFile.setMode_gains filled mode) persisted
      simp only [TemporaryFile.setMode, TemporaryFile.append, TemporaryFile.replace,
        sameContent] at done
      exact ⟨⟨empty, created⟩, done⟩

theorem save_of_admits (content : ByteArray) {place target : Place} {entry : Entry}
    {file : TemporaryFile} (created : workspace.createTemporary output = .ok file)
    (located : FilePath.locate workspace.tree true workspace.directory model =
      .ok (place, entry))
    (resolved : FilePath.resolve workspace.tree false workspace.directory output = .ok target)
    (admitted : ∀ mode content, workspace.tree.Admits target (.file mode content)) :
    ∃ written, workspace.save model output content = .ok written := by
  have filled := TemporaryFile.append_gains (createTemporary_gains created).1 content
  obtain ⟨written, moved⟩ := TemporaryFile.persist_of_admits
    (TemporaryFile.setMode_gains filled entry.mode) resolved (admitted _ _)
  refine ⟨written, ?_⟩
  simp only [save, created, FilePath.locate_of_gains filled located, moved]

end Workspace

/-! ### One template -/

namespace Workspace

/-- A template renders, a temporary file can be made beside its output, and the output's
name leads to where no directory stands. -/
structure Generates (workspace : Workspace) (config : Config) (path : Text) : Prop where
  renders : ∃ code, workspace.render config path = .ok code
  hasRoom : ∃ file, workspace.createTemporary (outputPath path) = .ok file
  placed : ∃ place,
    FilePath.resolve workspace.tree false workspace.directory (outputPath path) = .ok place ∧
      workspace.tree.find? place ≠ some .directory

variable {workspace : Workspace} {config : Config} {path : Text}

theorem read_eq_ok {file : TextFile} (isRead : workspace.read path = .ok file) :
    ∃ place content,
      FilePath.locate workspace.tree true workspace.directory path =
        .ok (place, .file file.mode content) ∧
      mayRead file.mode = true ∧ decodeText? content = some file.text := by
  unfold read at isRead
  split at isRead
  · cases isRead
  · rename_i place mode content located
    split at isRead
    · rename_i readable
      split at isRead
      · cases isRead
      · rename_i text decoded
        cases isRead
        exact ⟨place, content, located, readable, decoded⟩
    · cases isRead
  · cases isRead

theorem resolve_output_name {place : Place}
    (resolved : FilePath.resolve workspace.tree false workspace.directory (outputPath path) =
      .ok place) :
    ∃ directory name, workspace.tree.find? directory = some .directory ∧
      FilePath.IsName (outputPath name) ∧ place = directory ++ [outputPath name] := by
  obtain ⟨front, name, rfl, isFront, noSlash⟩ := FilePath.exists_front_name path
  obtain ⟨noFault, walked⟩ := FilePath.resolve_eq_ok_iff.mp resolved
  have noNul : '\x00' ∉ outputPath name := by
    intro present
    have inPath : '\x00' ∈ outputPath (front ++ name) := by
      rw [FilePath.outputPath_append]
      exact List.mem_append_right front present
    simp [FilePath.fault?, inPath] at noFault
  rw [FilePath.outputPath_append, FilePath.steps_front_name isFront
    (FilePath.outputPath_ne_nil name) (FilePath.noSlash_outputPath noSlash)] at walked
  obtain ⟨directory, inDirectory, short, rfl⟩ := FilePath.walk_endsIn
    (FilePath.outputPath_ne_here name) (FilePath.outputPath_ne_above name)
    List.getLast?_concat walked
  exact ⟨directory, name, inDirectory,
    ⟨FilePath.outputPath_ne_nil name, FilePath.noSlash_outputPath noSlash, noNul,
      FilePath.outputPath_ne_here name, FilePath.outputPath_ne_above name,
      Nat.not_lt.mp short⟩, rfl⟩

theorem admits_output {place : Place}
    (resolved : FilePath.resolve workspace.tree false workspace.directory (outputPath path) =
      .ok place)
    (noDirectory : workspace.tree.find? place ≠ some .directory) (mode : Nat)
    (content : ByteArray) : workspace.tree.Admits place (.file mode content) := by
  obtain ⟨directory, name, inDirectory, isName, rfl⟩ := resolve_output_name resolved
  refine ⟨by simp, ?_, by simpa using inDirectory, fun isDirectory =>
    absurd isDirectory noDirectory⟩
  intro other present
  rcases List.mem_append.mp present with inPlace | isLast
  · exact workspace.tree.named_of_found inDirectory other inPlace
  · rw [List.mem_singleton.mp isLast]
    exact isName

theorem compileFile_of_generates (generates : workspace.Generates config path) :
    (workspace.compileFile config path).result = .ok (outputPath path) := by
  obtain ⟨⟨code, rendered⟩, ⟨file, created⟩, place, resolved, noDirectory⟩ := generates
  cases isRead : workspace.read path with
  | error fault => simp [render, isRead] at rendered
  | ok source =>
      simp only [render, isRead] at rendered
      obtain ⟨template, content, located, -, -⟩ := read_eq_ok isRead
      obtain ⟨written, saved⟩ := save_of_admits (encodeText code) created located resolved
        (admits_output resolved noDirectory)
      simp only [compileFile, isRead, rendered, saved]

theorem compileFile_held {file : TemporaryFile}
    (held : (workspace.compileFile config path).held = some file) :
    workspace.tree.Gains file.tree file.place ∧
      ∃ directory, ∃ name : TemporaryName, file.place = directory ++ [name.text] := by
  cases isRead : workspace.read path with
  | error fault => simp [compileFile, isRead] at held
  | ok source =>
      cases rendered : (workspace.renderText config path source.text).result with
      | error fault => simp [compileFile, isRead, rendered] at held
      | ok code =>
          cases saved : workspace.save path (outputPath path) (encodeText code) with
          | ok tree => simp [compileFile, isRead, rendered, saved] at held
          | error write =>
              simp only [compileFile, isRead, rendered, saved] at held
              exact save_eq_error saved held

/-- Each step that can fail, in its order. -/
theorem compileFile_eq_error {fault : GenerationFault}
    (failed : (workspace.compileFile config path).result = .error fault) :
    ¬ workspace.Generates config path ∧
      (workspace.compileFile config path).tree = workspace.tree ∧
      ∀ file, (workspace.compileFile config path).held = some file →
        file.discard = workspace.tree := by
  refine ⟨?_, ?_, fun file held =>
    TemporaryFile.discard_eq_of_gains (compileFile_held held).1⟩
  · intro generates
    rw [compileFile_of_generates generates] at failed
    cases failed
  cases isRead : workspace.read path with
  | error fault => simp [compileFile, isRead]
  | ok source =>
      cases rendered : (workspace.renderText config path source.text).result with
      | error fault => simp [compileFile, isRead, rendered]
      | ok code =>
          cases saved : workspace.save path (outputPath path) (encodeText code) with
          | ok tree => simp [compileFile, isRead, rendered, saved] at failed
          | error write =>
              simp only [compileFile, isRead, rendered, saved]
              cases left : write.temporary with
              | none => rfl
              | some file =>
                  exact TemporaryFile.discard_eq_of_gains (save_eq_error saved left).1

theorem compileFile_eq_ok {output : Text}
    (done : (workspace.compileFile config path).result = .ok output) :
    workspace.Generates config path ∧
    output = outputPath path ∧ (workspace.compileFile config path).held = none ∧
      ∃ template mode content place code,
        FilePath.locate workspace.tree true workspace.directory path =
          .ok (template, .file mode content) ∧
        workspace.render config path = .ok code ∧
        FilePath.resolve workspace.tree false workspace.directory output = .ok place ∧
        workspace.tree.find? place ≠ some .directory ∧
        ∀ other, (workspace.compileFile config path).tree.find? other =
          if other = place then some (.file mode (String.ofList code).toUTF8)
          else workspace.tree.find? other := by
  cases isRead : workspace.read path with
  | error fault => simp [compileFile, isRead] at done
  | ok source =>
      cases rendered : (workspace.renderText config path source.text).result with
      | error fault => simp [compileFile, isRead, rendered] at done
      | ok code =>
          cases saved : workspace.save path (outputPath path) (encodeText code) with
          | error write => simp [compileFile, isRead, rendered, saved] at done
          | ok tree =>
              simp only [compileFile, isRead, rendered, saved, Except.ok.injEq] at done ⊢
              subst done
              obtain ⟨template, content, located, -, -⟩ := read_eq_ok isRead
              obtain ⟨hasRoom, place, resolved, noDirectory, changed⟩ := save_eq_ok saved located
              have renders : workspace.render config path = .ok code := by
                rw [render, isRead]
                exact rendered
              exact ⟨⟨⟨code, renders⟩, hasRoom, place, resolved, noDirectory⟩, rfl, trivial,
                template, source.mode, content, place, code, located, renders, resolved,
                noDirectory, changed⟩

/-- While a fault is held there may be a temporary file, but nothing else is new. -/
theorem compileFile_leaves (workspace : Workspace) (config : Config) (path : Text) :
    let report := workspace.compileFile config path
    report.heldTree = report.tree ∨
      (∃ fault, report.result = .error fault) ∧ report.tree.GainsTemporary report.heldTree := by
  intro report
  unfold Report.heldTree
  cases held : report.held with
  | none => exact Or.inl rfl
  | some file =>
      obtain ⟨gains, directory, name, place⟩ := compileFile_held held
      cases answer : report.result with
      | ok output =>
          have noneHeld : report.held = none := (compileFile_eq_ok answer).2.2.1
          rw [noneHeld] at held
          cases held
      | error fault =>
          have unchanged : report.tree = workspace.tree := (compileFile_eq_error answer).2.1
          rw [unchanged]
          exact Or.inr ⟨⟨fault, rfl⟩, directory, name, place ▸ gains⟩

theorem compileFiles_leaves (workspace : Workspace) (config : Config) (templates : List Text) :
    let report := workspace.compileFiles config templates
    report.heldTree = report.tree ∨
      (∃ fault, report.result = .error fault) ∧ report.tree.GainsTemporary report.heldTree := by
  induction templates generalizing workspace with
  | nil => exact Or.inl rfl
  | cons path rest ih =>
      cases answer : (workspace.compileFile config path).result with
      | error fault =>
          simp only [compileFiles, answer]
          exact (compileFile_leaves workspace config path).imp_right fun left =>
            ⟨⟨fault, rfl⟩, left.2⟩
      | ok output =>
          simp only [compileFiles, answer]
          have next := ih { workspace with tree := (workspace.compileFile config path).tree }
          refine next.imp_right ?_
          rintro ⟨⟨fault, failed⟩, gains⟩
          exact ⟨⟨fault, congrArg (Except.map (output :: ·)) failed⟩, gains⟩

theorem compileDirectory_of_fault {root : Text} {fault : FileFault}
    (found : workspace.discover root config.extension = .error fault) :
    let report := workspace.compileDirectory config root
    report.result = .error (.walk root fault) ∧ report.tree = workspace.tree ∧
      report.heldTree = workspace.tree := by
  simp only [compileDirectory, found, Report.heldTree, and_self]

theorem compileDirectory_of_discover {root : Text} {templates : List Text}
    (found : workspace.discover root config.extension = .ok templates) :
    let report := workspace.compileDirectory config root
    let files := workspace.compileFiles config templates
    report.result = files.result ∧ report.tree = files.tree ∧ report.heldTree = files.heldTree := by
  simp only [compileDirectory, found, Report.heldTree, and_self]

theorem compileDirectory_leaves {root : Text} {templates : List Text}
    (found : workspace.discover root config.extension = .ok templates) :
    let report := workspace.compileDirectory config root
    report.heldTree = report.tree ∨
      (∃ fault, report.result = .error fault) ∧ report.tree.GainsTemporary report.heldTree := by
  intro report
  obtain ⟨result, tree, heldTree⟩ := compileDirectory_of_discover found
  rw [result, tree, heldTree]
  exact compileFiles_leaves workspace config templates

/-- A template is generated all or nothing, and its output is the one entry that
changes. -/
theorem compileFile_all_or_nothing (workspace : Workspace) (config : Config)
    (path : Text) :
    let report := workspace.compileFile config path
    match report.result with
    | .error _ =>
        ¬ workspace.Generates config path ∧ report.tree = workspace.tree ∧
          ∀ file, report.held = some file → file.discard = workspace.tree
    | .ok output =>
        output = path ++ ".go".toList ∧ report.held = none ∧
        ∃ template mode content place code,
          FilePath.locate workspace.tree true workspace.directory path =
            .ok (template, .file mode content) ∧
          workspace.render config path = .ok code ∧
          FilePath.resolve workspace.tree false workspace.directory output = .ok place ∧
          workspace.tree.find? place ≠ some .directory ∧
          ∀ other, report.tree.find? other =
            if other = place then some (.file mode (String.ofList code).toUTF8)
            else workspace.tree.find? other := by
  intro report
  cases done : report.result with
  | error fault => exact compileFile_eq_error done
  | ok output => exact (compileFile_eq_ok done).2

end Workspace
end Stencil
