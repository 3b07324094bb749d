/-
A run over a directory is a batch on the tree that it starts from.

The templates are found before anything is written.  No output is a template, and
different templates have different outputs, so each template is generated as if the
others had not been, up to the first that would fail by itself.  What was generated
before stays, and nothing else changes.
-/

import Stencil.Proofs.Generation.Independence

namespace Stencil

open FilePath

namespace Workspace

/-- In a tree stands the output of a template as it is rendered in a workspace, with the
permissions of the template. -/
def Holds (workspace : Workspace) (config : Config) (tree : FileTree) (path : Text) : Prop :=
  ∃ template mode content place code,
    locate workspace.tree true workspace.directory path =
      .ok (template, .file mode content) ∧
    workspace.render config path = .ok code ∧
    resolve workspace.tree false workspace.directory (outputPath path) = .ok place ∧
    locate tree false workspace.directory (outputPath path) =
      .ok (place, .file mode (String.ofList code).toUTF8)

structure Writes (workspace : Workspace) (config : Config) (site : Site)
    (before after : FileTree) (mode : Nat) (code : Text) : Prop where
  template : ∃ place content,
    locate workspace.tree true workspace.directory site.path = .ok (place, .file mode content)
  rendered : workspace.render config site.path = .ok code
  noDirectory : before.find? site.output ≠ some .directory
  changed : ∀ place, after.find? place =
    if place = site.output then some (.file mode (String.ofList code).toUTF8)
    else before.find? place

section Run

variable {workspace : Workspace} {config : Config}

theorem Writes.alike {site : Site} {before after : FileTree} {mode : Nat} {code : Text}
    (writes : workspace.Writes config site before after mode code) :
    before.Alike IsOutput after where
  directories place := by
    rw [writes.changed place]
    by_cases atOutput : place = site.output
    · rw [if_pos atOutput, atOutput]
      exact ⟨fun isDirectory => absurd isDirectory writes.noDirectory, by simp⟩
    · rw [if_neg atOutput]
  elsewhere directory name noOutput := by
    rw [writes.changed, if_neg (site.ne_output noOutput)]

theorem namesTaken_iff_of_alike {tree : FileTree} (alike : workspace.tree.Alike IsOutput tree)
    (site : Site) :
    NamesTaken { workspace with tree := tree } site ↔ workspace.NamesTaken site := by
  simp only [NamesTaken, alike.elsewhere _ _ (TemporaryName.not_isOutput _)]

/-- In a tree that is like the first, a site is generated exactly if it would be in the
first, with the same answer. -/
theorem compileFile_step (config : Config) {site : Site} (within : site.Within workspace)
    (noOutput : ¬ IsOutput site.name) {tree : FileTree}
    (alike : workspace.tree.Alike IsOutput tree) :
    let report := compileFile { workspace with tree := tree } config site.path
    (¬ workspace.Generates config site.path ∧ ∃ fault,
      (workspace.compileFile config site.path).result = .error fault ∧
      report.result = .error fault ∧ report.tree = tree) ∨
    (workspace.Generates config site.path ∧ report.result = .ok (outputPath site.path) ∧
      ∃ mode code, workspace.Writes config site tree report.tree mode code) := by
  intro report
  have alikeThere : workspace.Alike IsOutput { workspace with tree := tree } := ⟨rfl, rfl, alike⟩
  have same : report.result = (workspace.compileFile config site.path).result :=
    (compileFile_result_alike within alikeThere noOutput
      (namesTaken_iff_of_alike alike site) config).2 rfl
  cases answer : (workspace.compileFile config site.path).result with
  | error fault =>
      have failed : report.result = .error fault := same.trans answer
      exact Or.inl ⟨(compileFile_eq_error answer).1, fault, rfl, failed,
        (compileFile_eq_error failed).2.1⟩
  | ok output =>
      have done : report.result = .ok output := same.trans answer
      obtain ⟨-, rfl, -, template, mode, content, place, code, located, rendered, resolved,
        noDirectory, changed⟩ := compileFile_eq_ok done
      have withinTree := within_alike within alikeThere noOutput
      obtain rfl := resolve_output_eq withinTree resolved
      refine Or.inr ⟨(compileFile_eq_ok answer).1, done, mode, code, ?_⟩
      refine ⟨⟨template, content, ?_⟩, ?_, noDirectory, changed⟩
      · exact (locate_alike within alikeThere noOutput true).symm.trans located
      · exact (render_alike within alikeThere noOutput config).symm.trans rendered

/-- What a run over sites has done to a tree. -/
structure Done (workspace : Workspace) (config : Config) (sites : List Site)
    (before after : FileTree) : Prop where
  generated : ∀ site ∈ sites, workspace.Generates config site.path
  alike : before.Alike IsOutput after
  written : ∀ site ∈ sites, ∃ mode code,
    (∃ place content, locate workspace.tree true workspace.directory site.path =
      .ok (place, .file mode content)) ∧
    workspace.render config site.path = .ok code ∧
    after.find? site.output = some (.file mode (String.ofList code).toUTF8)
  kept : ∀ place, (∀ site ∈ sites, site.output ≠ place) →
    after.find? place = before.find? place

theorem Done.nothing (tree : FileTree) : workspace.Done config [] tree tree :=
  ⟨by simp, .refl tree, by simp, fun _ _ => rfl⟩

theorem Done.cons {site : Site} {others : List Site} {before middle after : FileTree}
    {mode : Nat} {code : Text} (generates : workspace.Generates config site.path)
    (writes : workspace.Writes config site before middle mode code)
    (done : workspace.Done config others middle after)
    (distinct : ∀ other ∈ others, site.place ≠ other.place) :
    workspace.Done config (site :: others) before after where
  generated := by
    intro other present
    rcases List.mem_cons.mp present with rfl | later
    · exact generates
    · exact done.generated other later
  alike := writes.alike.trans done.alike
  written := by
    intro other present
    rcases List.mem_cons.mp present with rfl | later
    · refine ⟨mode, code, writes.template, writes.rendered, ?_⟩
      rw [done.kept, writes.changed, if_pos rfl]
      intro another inOthers
      exact (Site.output_ne_of_place_ne (distinct another inOthers)).symm
    · exact done.written other later
  kept := by
    intro place elsewhere
    have notHere : place ≠ site.output := (elsewhere site List.mem_cons_self).symm
    rw [done.kept place fun other present =>
      elsewhere other (List.mem_cons_of_mem site present), writes.changed, if_neg notHere]

/-- How a run over sites ends: with all outputs, or at the first site that would not be
generated in the first tree, with the fault that it has there. -/
def EndsAt (workspace : Workspace) (config : Config) (paths rest : List Text)
    (result : Except GenerationFault (List Text)) : Prop :=
  match rest with
  | [] => result = .ok (paths.map outputPath)
  | failing :: _ =>
      ¬ workspace.Generates config failing ∧
        ∃ fault, (workspace.compileFile config failing).result = .error fault ∧
          result = .error fault

theorem EndsAt.cons {paths rest : List Text} {result : Except GenerationFault (List Text)}
    (ends : workspace.EndsAt config paths rest result) (path : Text) :
    workspace.EndsAt config (path :: paths) rest (result.map (outputPath path :: ·)) := by
  cases rest with
  | nil =>
      have all : result = .ok (paths.map outputPath) := ends
      rw [all]
      rfl
  | cons failing others =>
      obtain ⟨fails, fault, answer, same⟩ := ends
      refine ⟨fails, fault, answer, ?_⟩
      rw [same]
      rfl

theorem compileFiles_run (config : Config) {sites : List Site}
    (within : ∀ site ∈ sites, site.Within workspace)
    (noOutput : ∀ site ∈ sites, ¬ IsOutput site.name)
    (distinct : sites.Pairwise fun first second => first.place ≠ second.place)
    {tree : FileTree} (alike : workspace.tree.Alike IsOutput tree) :
    let report := compileFiles { workspace with tree := tree } config (sites.map Site.path)
    ∃ done rest, sites = done ++ rest ∧
      workspace.Done config done tree report.tree ∧
      workspace.EndsAt config (sites.map Site.path) (rest.map Site.path) report.result := by
  induction sites generalizing tree with
  | nil => exact ⟨[], [], rfl, Done.nothing tree, rfl⟩
  | cons site others ih =>
      have parts := List.pairwise_cons.mp distinct
      rcases compileFile_step config (within site List.mem_cons_self)
          (noOutput site List.mem_cons_self) alike with
        ⟨fails, fault, answer, failed, unchanged⟩ | ⟨generates, succeeded, mode, code, writes⟩
      · refine ⟨[], site :: others, rfl, ?_, fails, fault, answer, ?_⟩
        · simp only [List.map_cons, compileFiles, failed, unchanged]
          exact Done.nothing tree
        · simp only [List.map_cons, compileFiles, failed]
      · obtain ⟨done, rest, rfl, doneOthers, ends⟩ := ih
          (fun other present => within other (List.mem_cons_of_mem site present))
          (fun other present => noOutput other (List.mem_cons_of_mem site present))
          parts.2 (alike.trans writes.alike)
        refine ⟨site :: done, rest, rfl, ?_, ?_⟩
        · simp only [List.map_cons, compileFiles, succeeded]
          exact Done.cons generates writes doneOthers fun other present =>
            parts.1 other (List.mem_append_left rest present)
        · simp only [List.map_cons, compileFiles, succeeded]
          exact ends.cons site.path

theorem Generates.resolve_output {site : Site} (generates : workspace.Generates config site.path)
    (within : site.Within workspace) :
    resolve workspace.tree false workspace.directory (outputPath site.path) =
      .ok site.output := by
  obtain ⟨place, resolved, -⟩ := generates.placed
  rw [resolved, resolve_output_eq within resolved]

theorem Done.holds {sites : List Site} {after : FileTree}
    (done : workspace.Done config sites workspace.tree after) {site : Site}
    (present : site ∈ sites) (within : site.Within workspace)
    (noOutput : ¬ IsOutput site.name) : workspace.Holds config after site.path := by
  obtain ⟨mode, code, ⟨template, content, located⟩, rendered, found⟩ :=
    done.written site present
  have resolved := (done.generated site present).resolve_output within
  have later : resolve after false workspace.directory (outputPath site.path) =
      .ok site.output := by
    rw [← resolved, within.resolve_output]
    have alike : workspace.Alike IsOutput { workspace with tree := after } :=
      ⟨rfl, rfl, done.alike⟩
    exact (within_alike within alike noOutput).resolve_output
  exact ⟨template, mode, content, site.output, code, located, rendered, resolved,
    locate_eq_ok_iff.mpr ⟨later, found⟩⟩

theorem Done.keeps_template {sites : List Site} {before after : FileTree}
    (done : workspace.Done config sites before after) {site : Site}
    (noOutput : ¬ IsOutput site.name) :
    after.find? site.place = before.find? site.place :=
  done.kept site.place fun other _ => (other.ne_output noOutput).symm

end Run

/-- In a tree stand the outputs of some templates, as they are generated in a workspace, and
those of others are as they were there; and so are all the templates. -/
structure Batched (workspace : Workspace) (config : Config) (done rest : List Text)
    (tree : FileTree) : Prop where
  holds : ∀ path ∈ done, workspace.Holds config tree path
  untouched : ∀ path ∈ rest, ∀ place,
    resolve workspace.tree false workspace.directory (outputPath path) = .ok place →
      tree.find? place = workspace.tree.find? place
  templates : ∀ path ∈ done ++ rest, ∀ place entry,
    locate workspace.tree true workspace.directory path = .ok (place, entry) →
      tree.find? place = some entry

theorem Batched.gains {workspace : Workspace} {config : Config} {done rest : List Text}
    {tree other : FileTree} (batched : workspace.Batched config done rest tree)
    (gains : tree.GainsTemporary other) : workspace.Batched config done rest other := by
  obtain ⟨directory, name, gains⟩ := gains
  refine ⟨fun path present => ?_, fun path present place resolved => ?_,
    fun path present place entry located => ?_⟩
  · obtain ⟨template, mode, content, place, code, located, rendered, resolved, stands⟩ :=
      batched.holds path present
    exact ⟨template, mode, content, place, code, located, rendered, resolved,
      locate_of_gains gains stands⟩
  · rw [gains.elsewhere place (place_ne_temporary resolved directory name),
      batched.untouched path present place resolved]
  · exact gains.find?_of_some (batched.templates path present place entry located)

theorem Done.batched {workspace : Workspace} {config : Config} {done rest : List Site}
    {after : FileTree} (ran : workspace.Done config done workspace.tree after)
    (within : ∀ site ∈ done ++ rest, site.Within workspace)
    (noOutput : ∀ site ∈ done ++ rest, ¬ IsOutput site.name)
    (distinct : (done ++ rest).Pairwise fun first second => first.place ≠ second.place) :
    workspace.Batched config (done.map Site.path) (rest.map Site.path) after := by
  refine ⟨List.forall_mem_map.mpr fun site present => ?_,
    List.forall_mem_map.mpr fun site present place resolved => ?_, ?_⟩
  · have listed := List.mem_append_left rest present
    exact ran.holds present (within site listed) (noOutput site listed)
  · obtain rfl := resolve_output_eq (within site (List.mem_append_right done present)) resolved
    refine ran.kept site.output fun other inDone => ?_
    exact Site.output_ne_of_place_ne
      ((List.pairwise_append.mp distinct).2.2 other inDone site present)
  · rw [← List.map_append]
    refine List.forall_mem_map.mpr fun site present place entry located => ?_
    obtain ⟨resolved, isThere⟩ := locate_eq_ok_iff.mp located
    rw [(within site present).resolve_path true] at resolved
    split at resolved
    · cases resolved
    · cases resolved
      rw [ran.keeps_template (noOutput site present), isThere]

/-- A run over a directory on the way to which there is no link, for templates that are
not called like outputs.  While a fault is held there may be one more file, which has a
temporary name. -/
theorem compileDirectory_batch (workspace : Workspace) (config : Config) (root : Text)
    (linkless : workspace.Linkless root) (noOutputs : config.extension ≠ "go".toList) :
    let report := workspace.compileDirectory config root
    match workspace.discover root config.extension with
    | .error fault =>
        report.result = .error (.walk root fault) ∧
          report.tree = workspace.tree ∧ report.heldTree = workspace.tree
    | .ok templates =>
        ∃ done rest, templates = done ++ rest ∧
          (∀ path ∈ done, workspace.Generates config path) ∧
          workspace.EndsAt config templates rest report.result ∧
          workspace.Batched config done rest report.tree ∧
          workspace.Batched config done rest report.heldTree ∧
          (∀ place, (∀ path ∈ done,
            resolve workspace.tree false workspace.directory (outputPath path) ≠ .ok place) →
            report.tree.find? place = workspace.tree.find? place) ∧
          (report.heldTree = report.tree ∨
            rest ≠ [] ∧ report.tree.GainsTemporary report.heldTree) := by
  intro report
  cases found : workspace.discover root config.extension with
  | error fault => exact compileDirectory_of_fault found
  | ok templates =>
      obtain ⟨sites, sited⟩ := discover_sited linkless found
      have noOutput : ∀ site ∈ sites, ¬ IsOutput site.name := fun site present =>
        not_go_suffix_of_extensionOf? (sited.extended site present) noOutputs
      obtain ⟨done, rest, rfl, ran, ends⟩ := compileFiles_run config sited.within
        noOutput sited.distinct (.refl workspace.tree)
      obtain rfl := sited.paths
      obtain ⟨sameResult, sameTree, -⟩ := compileDirectory_of_discover found
      rw [← sameTree] at ran
      rw [← sameResult] at ends
      have batched := ran.batched sited.within noOutput sited.distinct
      have elsewhere : ∀ place, (∀ path ∈ done.map Site.path,
          resolve workspace.tree false workspace.directory (outputPath path) ≠ .ok place) →
          report.tree.find? place = workspace.tree.find? place := by
        intro place elsewhere
        refine ran.kept place fun site present same => ?_
        have resolved := (ran.generated site present).resolve_output
          (sited.within site (List.mem_append_left rest present))
        exact elsewhere site.path (List.mem_map_of_mem present) (same ▸ resolved)
      have holding : report.heldTree = report.tree ∨
          rest.map Site.path ≠ [] ∧ report.tree.GainsTemporary report.heldTree := by
        refine (compileDirectory_leaves found).imp_right ?_
        rintro ⟨⟨fault, failed⟩, gains⟩
        refine ⟨fun nothingLeft => ?_, gains⟩
        rw [nothingLeft] at ends
        cases failed.symm.trans ends
      refine ⟨done.map Site.path, rest.map Site.path, List.map_append,
        List.forall_mem_map.mpr ran.generated, ends, batched, ?_, elsewhere, holding⟩
      rcases holding with same | ⟨-, gains⟩
      · rw [same]
        exact batched
      · exact batched.gains gains

def secondOpen : Workspace :=
  .ofTree
    ((FileTree.empty.put ["a.qtpl".toList]
    (.file 0o644 (encodeText "{% func A() %}x{% endfunc %}".toList)) (by decide)).put
      ["b.qtpl".toList] (.file 0o600 (encodeText "{% func B() %}x".toList)) (by decide))
    []

theorem compileDirectory_batch_second_open :
    secondOpen.Linkless here ∧ Config.default.extension ≠ "go".toList ∧
    let report := secondOpen.compileDirectory Config.default here
    secondOpen.Holds Config.default report.tree "./a.qtpl".toList ∧
    secondOpen.Holds Config.default report.heldTree "./a.qtpl".toList ∧
    ∃ fault, report.result = .error fault ∧
      (secondOpen.compileFile Config.default "./b.qtpl".toList).result = .error fault := by
  have linkless : secondOpen.Linkless here := by
    unfold Linkless
    decide
  have noOutputs : Config.default.extension ≠ "go".toList := by decide
  have found : secondOpen.discover here Config.default.extension =
      .ok ["./a.qtpl".toList, "./b.qtpl".toList] := by decide +kernel
  have first : (secondOpen.compileFile Config.default "./a.qtpl".toList).result =
      .ok "./a.qtpl.go".toList := by decide +kernel
  have second : (secondOpen.render Config.default "./b.qtpl".toList).isOk = false := by
    decide +kernel
  have batch := compileDirectory_batch secondOpen Config.default here linkless noOutputs
  rw [found] at batch
  obtain ⟨done, rest, split, generates, ends, batched, inHeld, -⟩ := batch
  refine ⟨linkless, noOutputs, ?_⟩
  match done, split with
  | [], split =>
      cases split
      obtain ⟨-, fault, answer, -⟩ := ends
      rw [first] at answer
      cases answer
  | [_], split =>
      cases split
      obtain ⟨-, fault, answer, same⟩ := ends
      exact ⟨batched.holds _ List.mem_cons_self, inHeld.holds _ List.mem_cons_self, fault, same,
        answer⟩
  | _ :: other :: _, split =>
      obtain rfl : "./b.qtpl".toList = other := (List.cons.inj (List.cons.inj split).2).1
      obtain ⟨code, rendered⟩ :=
        (generates _ (List.mem_cons_of_mem _ List.mem_cons_self)).renders
      rw [rendered] at second
      cases second

end Workspace
end Stencil
