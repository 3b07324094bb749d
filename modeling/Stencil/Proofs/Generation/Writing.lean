/-
What a run over templates writes.

Outputs are written one after another, each rendered in the tree that it finds and put where
its path leads there.  Since files are only laid over the tree, that is where the path has
led from the start; and since no two templates of a search have the same output, none is
written over.

A template can only be lost to the output of another one, and no output takes the place of a
template that is not called like an output.  If templates have the extension of outputs, one
of them may be, and then it is written over, even before it is read.
-/

import Stencil.Proofs.Generation.Independence

namespace Stencil

open FilePath

structure Output where
  template : Text
  place : Place
  mode : Nat
  code : Text

namespace Output

def entry (output : Output) : Entry :=
  .file output.mode (String.ofList output.code).toUTF8

def event (output : Output) : Event :=
  .generated (outputPath output.template)

/-- In a tree an output is rendered and put where its path leads, with the permissions of
the template.  That is the one change of the tree. -/
structure Written (config : Config) (workspace : Workspace) (before after : FileTree)
    (output : Output) : Prop where
  template : ∃ place content,
    locate before true workspace.directory output.template =
      .ok (place, .file output.mode content)
  rendered : Workspace.render { workspace with tree := before } config output.template =
    .ok output.code
  resolved : resolve before false workspace.directory (outputPath output.template) =
    .ok output.place
  noDirectory : before.find? output.place ≠ some .directory
  changed : ∀ place, after.find? place =
    if place = output.place then some output.entry else before.find? place

theorem Written.overlaid {config : Config} {workspace : Workspace} {before after : FileTree}
    {output : Output} (written : output.Written config workspace before after) :
    before.Overlaid after where
  directories place := by
    rw [written.changed]
    by_cases atOutput : place = output.place
    · rw [if_pos atOutput, atOutput]
      exact ⟨nofun, fun isDirectory => absurd isDirectory written.noDirectory⟩
    · rw [if_neg atOutput]
  changed place := by
    rw [written.changed]
    by_cases atOutput : place = output.place
    · rw [if_pos atOutput]
      exact Or.inr ⟨output.mode, _, rfl⟩
    · rw [if_neg atOutput]
      exact Or.inl rfl

end Output

/-- Outputs are written one after another, each to the tree that the one before has left. -/
inductive Writing (config : Config) (workspace : Workspace) :
    FileTree → List Output → FileTree → Prop
  | done (tree : FileTree) : Writing config workspace tree [] tree
  | next {before middle after : FileTree} {output : Output} {outputs : List Output}
      (written : output.Written config workspace before middle)
      (later : Writing config workspace middle outputs after) :
      Writing config workspace before (output :: outputs) after

namespace Writing

variable {config : Config} {workspace : Workspace} {before after : FileTree}
  {outputs : List Output}

theorem of_withTree {tree : FileTree}
    (writing : Writing config { workspace with tree := tree } before outputs after) :
    Writing config workspace before outputs after := by
  induction writing with
  | done last => exact .done last
  | next written later ih =>
      exact .next ⟨written.template, written.rendered, written.resolved, written.noDirectory,
        written.changed⟩ ih

theorem overlaid (writing : Writing config workspace before outputs after) :
    before.Overlaid after := by
  induction writing with
  | done tree => exact .refl tree
  | next written later ih => exact written.overlaid.trans ih

theorem resolved (writing : Writing config workspace before outputs after) :
    ∀ output ∈ outputs,
      resolve before false workspace.directory (outputPath output.template) =
        .ok output.place := by
  induction writing with
  | done tree => simp
  | next written later ih =>
      intro output present
      rcases List.mem_cons.mp present with rfl | inOthers
      · exact written.resolved
      · exact resolve_of_overlaid written.overlaid (ih output inOthers)

theorem elsewhere (writing : Writing config workspace before outputs after) {place : Place}
    (noOutput : ∀ output ∈ outputs, output.place ≠ place) :
    after.find? place = before.find? place := by
  induction writing with
  | done tree => rfl
  | @next before middle after output outputs written later ih =>
      have notHere : place ≠ output.place := (noOutput output List.mem_cons_self).symm
      rw [ih fun other present => noOutput other (List.mem_cons_of_mem output present),
        written.changed, if_neg notHere]

theorem holds (writing : Writing config workspace before outputs after)
    (distinct : outputs.Pairwise fun first second => first.place ≠ second.place) :
    ∀ output ∈ outputs, after.find? output.place = some output.entry := by
  induction writing with
  | done tree => simp
  | @next before middle after output outputs written later ih =>
      obtain ⟨notAgain, others⟩ := List.pairwise_cons.mp distinct
      intro other present
      rcases List.mem_cons.mp present with rfl | inOthers
      · rw [later.elsewhere fun another inOutputs => (notAgain another inOutputs).symm,
          written.changed, if_pos rfl]
      · exact ih others other inOthers

theorem distinct (writing : Writing config workspace before outputs after)
    {templates : List Text} (apart : Workspace.Apart { workspace with tree := before } templates)
    (inOrder : outputs.map Output.template <+: templates) :
    outputs.Pairwise fun first second => first.place ≠ second.place := by
  have pairs := List.pairwise_map.mp (apart.sublist inOrder.sublist)
  refine pairs.imp_of_mem fun {first second} inFirst inSecond different same => ?_
  have firstAt := writing.resolved first inFirst
  rw [same] at firstAt
  exact different _ firstAt (writing.resolved second inSecond)

theorem untouched (writing : Writing config workspace before outputs after)
    {templates : List Text} (apart : Workspace.Apart { workspace with tree := before } templates)
    (inOrder : outputs.map Output.template <+: templates) {path : Text}
    (requested : path ∈ templates) (notWritten : path ∉ outputs.map Output.template)
    {place : Place}
    (resolved : resolve before false workspace.directory (outputPath path) = .ok place) :
    ∀ output ∈ outputs, output.place ≠ place := by
  intro output present same
  obtain ⟨rest, rfl⟩ := inOrder
  have inRest := (List.mem_append.mp requested).resolve_left notWritten
  have different := (List.pairwise_append.mp apart).2.2 output.template
    (List.mem_map_of_mem present) path inRest
  exact different place (same ▸ writing.resolved output present) resolved

end Writing

namespace Workspace

/-- A report over some templates tells, behind a notice, of the outputs that were written.  A
failure comes behind the last of them. -/
structure Accounts {α : Type} (workspace : Workspace) (config : Config) (templates : List Text)
    (report : Report α) (notice : List Event) (outputs : List Output) (written : FileTree) :
    Prop where
  writing : Writing config workspace workspace.tree outputs written
  inOrder : outputs.map Output.template <+: templates
  told : report.events.filter LogFilter.default.admits = notice ++ outputs.map Output.event
  ends : match report.result with
    | .ok _ => outputs.map Output.template = templates ∧ report.tree = written
    | .error _ => report.heldTree = written ∨ written.GainsTemporary report.heldTree

theorem filter_silent {α : Type} {tell : α → Event}
    (silent : ∀ item, LogFilter.default.admits (tell item) = false) (items : List α) :
    (items.map tell).filter LogFilter.default.admits = [] := by
  refine List.filter_eq_nil_iff.mpr (List.forall_mem_map.mpr fun item _ => ?_)
  rw [silent item]
  exact Bool.false_ne_true

theorem compileFile_told (workspace : Workspace) (config : Config) (path : Text) :
    (workspace.compileFile config path).events.filter LogFilter.default.admits =
      match (workspace.compileFile config path).result with
      | .ok output => [.generated output]
      | .error _ => [] := by
  have opened := @filter_silent _ Event.opened fun _ => rfl
  cases isRead : workspace.read path with
  | error fault => simp [compileFile, isRead]
  | ok source =>
      cases rendered : (workspace.renderText config path source.text).result with
      | error fault => simp only [compileFile, isRead, rendered, opened]
      | ok code =>
          cases saved : workspace.save path (outputPath path) (encodeText code) with
          | error write => simp only [compileFile, isRead, rendered, saved, opened]
          | ok tree =>
              simp only [compileFile, isRead, rendered, saved, List.filter_append, opened]
              rfl

theorem compileFile_writes {workspace : Workspace} {config : Config} {path answer : Text}
    (done : (workspace.compileFile config path).result = .ok answer) :
    ∃ output : Output, output.template = path ∧ answer = outputPath path ∧
      output.Written config workspace workspace.tree
        (workspace.compileFile config path).tree := by
  obtain ⟨-, rfl, -, template, mode, content, place, code, located, rendered, resolved,
    noDirectory, changed⟩ := compileFile_eq_ok done
  exact ⟨⟨path, place, mode, code⟩, rfl, rfl, ⟨template, content, located⟩, rendered, resolved,
    noDirectory, changed⟩

theorem compileFile_accounts (workspace : Workspace) (config : Config) (path : Text) :
    let report := workspace.compileFile config path
    ∃ outputs, workspace.Accounts config [path] report [] outputs report.tree := by
  intro report
  have told := compileFile_told workspace config path
  have leaves := compileFile_leaves workspace config path
  cases answer : report.result with
  | error fault =>
      rw [answer] at told
      have unchanged : report.tree = workspace.tree := (compileFile_eq_error answer).2.1
      refine ⟨[], ?_, List.nil_prefix, told, ?_⟩
      · rw [unchanged]
        exact .done _
      · rw [answer]
        exact leaves.imp_right And.right
  | ok name =>
      rw [answer] at told
      obtain ⟨output, rfl, rfl, written⟩ := compileFile_writes answer
      refine ⟨[output], .next written (.done _), List.prefix_rfl, told, ?_⟩
      rw [answer]
      exact ⟨rfl, rfl⟩

theorem compileFiles_accounts (workspace : Workspace) (config : Config)
    (templates : List Text) :
    let report := workspace.compileFiles config templates
    ∃ outputs, workspace.Accounts config templates report [] outputs report.tree := by
  induction templates generalizing workspace with
  | nil => exact ⟨[], .done _, List.nil_prefix, rfl, rfl, rfl⟩
  | cons path rest ih =>
      have told := compileFile_told workspace config path
      cases answer : (workspace.compileFile config path).result with
      | error fault =>
          rw [answer] at told
          have unchanged := (compileFile_eq_error answer).2.1
          simp only [compileFiles, answer]
          refine ⟨[], ?_, List.nil_prefix, told,
            (compileFile_leaves workspace config path).imp_right And.right⟩
          rw [unchanged]
          exact .done _
      | ok name =>
          rw [answer] at told
          obtain ⟨output, rfl, rfl, writes⟩ := compileFile_writes answer
          obtain ⟨outputs, others⟩ :=
            ih { workspace with tree := (workspace.compileFile config output.template).tree }
          simp only [compileFiles, answer]
          refine ⟨output :: outputs, .next writes others.writing.of_withTree, ?_, ?_, ?_⟩
          · exact List.cons_prefix_cons.mpr ⟨rfl, others.inOrder⟩
          · simp only [List.filter_append, told, others.told]
            rfl
          · have ends := others.ends
            split at ends
            · rename_i all
              rw [all]
              exact ⟨congrArg (output.template :: ·) ends.1, rfl⟩
            · rename_i failed
              rw [failed]
              exact ends

section Directory

variable {workspace : Workspace} {config : Config} {root : Text} {templates : List Text}
  (found : workspace.discover root config.extension = .ok templates)

include found

theorem compileDirectory_accounts :
    let report := workspace.compileDirectory config root
    ∃ outputs, workspace.Accounts config templates report
      (if templates = [] then [.noTemplates config.extension root] else []) outputs
      report.tree := by
  have founds := @filter_silent _ Event.found fun _ => rfl
  obtain ⟨outputs, accounts⟩ := compileFiles_accounts workspace config templates
  simp only [compileDirectory, found]
  refine ⟨outputs, accounts.writing, accounts.inOrder, ?_, accounts.ends⟩
  simp only [List.filter_append, founds, accounts.told]
  cases templates with
  | nil => rfl
  | cons path rest => rfl

end Directory

end Workspace

/-! ### What becomes of the templates -/

namespace Workspace

/-- Another tree has the same file at a site, and its path still leads there. -/
structure Keeps (workspace : Workspace) (site : Site) (tree : FileTree) : Prop where
  entry : tree.find? site.place = workspace.tree.find? site.place
  path : ∀ follow, locate tree follow workspace.directory site.path =
    locate workspace.tree follow workspace.directory site.path

theorem keeps_of_overlaid {workspace : Workspace} {site : Site} (within : site.Within workspace)
    {tree : FileTree} (overlaid : workspace.tree.Overlaid tree)
    (left : tree.find? site.place = workspace.tree.find? site.place) :
    workspace.Keeps site tree := by
  obtain ⟨mode, content, isFile⟩ := within.isFile
  have other : site.Within { workspace with tree := tree } :=
    within.mono rfl (fun place => (overlaid.directories place).mpr)
      ⟨mode, content, left.trans isFile⟩
  exact ⟨left, within.locate_eq other left⟩

theorem Keeps.gains {workspace : Workspace} {site : Site} (within : site.Within workspace)
    {tree other : FileTree} (overlaid : workspace.tree.Overlaid tree)
    (keeps : workspace.Keeps site tree) {new : Place} (gains : tree.Gains other new) :
    workspace.Keeps site other := by
  obtain ⟨mode, content, isFile⟩ := within.isFile
  refine keeps_of_overlaid within (overlaid.trans gains.overlaid) ?_
  rw [isFile]
  exact gains.find?_of_some (keeps.entry.trans isFile)

/-- The file of a template that a run over a directory has found is what it was when the run
ends, and also while a fault is held, unless the template is called like the output of
another one.  That is possible only if templates have the extension of outputs. -/
theorem compileDirectory_keeps_templates {workspace : Workspace} {config : Config} {root : Text}
    (linkless : workspace.Linkless root) {templates : List Text}
    (found : workspace.discover root config.extension = .ok templates) {path : Text}
    (listed : path ∈ templates)
    (spared : config.extension = "go".toList → path ∉ templates.map outputPath) :
    let report := workspace.compileDirectory config root
    ∃ site : Site, site.path = path ∧ site.Within workspace ∧
      workspace.Keeps site report.tree ∧ workspace.Keeps site report.heldTree := by
  intro report
  obtain ⟨sites, sited⟩ := discover_sited linkless found
  obtain ⟨outputs, writing, inOrder, -, -⟩ := compileDirectory_accounts found
  have leaves := compileDirectory_leaves found
  obtain rfl := sited.paths
  obtain ⟨site, present, rfl⟩ := List.mem_map.mp listed
  have within := sited.within site present
  have elsewhere : ∀ output ∈ outputs, output.place ≠ site.place := by
    intro output inOutputs
    have requested := inOrder.subset (List.mem_map_of_mem inOutputs)
    obtain ⟨other, inSites, same⟩ := List.mem_map.mp requested
    have resolved := writing.resolved output inOutputs
    rw [← same] at resolved
    rw [resolve_output_eq (sited.within other inSites) resolved]
    exact sited.output_ne_place present spared other inSites
  have kept : workspace.Keeps site report.tree :=
    keeps_of_overlaid within writing.overlaid (writing.elsewhere elsewhere)
  refine ⟨site, rfl, within, kept, ?_⟩
  rcases leaves with same | ⟨-, directory, name, gains⟩
  · rw [same]
    exact kept
  · exact kept.gains within writing.overlaid gains

/-- Two templates with the extension of outputs, the second called like the output of the
first. -/
def outputAsTemplate : Workspace :=
  .ofTree
    ((FileTree.empty.put ["a.go".toList]
    (.file 0o644 (encodeText "\x7b% code x %\x7d".toList)) (by decide)).put
      ["a.go.go".toList] (.file 0o600 (encodeText "\x7b% code y %\x7d".toList)) (by decide))
    []

def goTemplates : Config :=
  { Config.default with extension := "go".toList, header := false }

/-- The first of the two templates is kept. -/
theorem compileDirectory_keeps_first_template :
    let report := outputAsTemplate.compileDirectory goTemplates here
    outputAsTemplate.Linkless here ∧
      outputAsTemplate.discover here goTemplates.extension =
        .ok ["./a.go".toList, "./a.go.go".toList] ∧
      ∃ place entry,
        locate outputAsTemplate.tree true [] "./a.go".toList = .ok (place, entry) ∧
        locate report.tree true [] "./a.go".toList = .ok (place, entry) := by
  have linkless : outputAsTemplate.Linkless here := by
    unfold Linkless
    decide
  have found : outputAsTemplate.discover here goTemplates.extension =
      .ok ["./a.go".toList, "./a.go.go".toList] := by decide +kernel
  have located : locate outputAsTemplate.tree true [] "./a.go".toList =
      .ok (["a.go".toList], .file 0o644 (encodeText "\x7b% code x %\x7d".toList)) := rfl
  obtain ⟨site, same, -, kept, -⟩ := compileDirectory_keeps_templates linkless found
    List.mem_cons_self (fun _ => by decide)
  have again := kept.path true
  rw [same] at again
  exact ⟨linkless, found, _, _, located, again.trans located⟩

/-- The second is not: it holds the code of the first, with its permissions. -/
theorem compileDirectory_overwrites_second_template :
    let report := outputAsTemplate.compileDirectory goTemplates here
    let before := outputAsTemplate.read "./a.go.go".toList
    let after := read { outputAsTemplate with tree := report.tree } "./a.go.go".toList
    outputAsTemplate.discover here goTemplates.extension =
        .ok ["./a.go".toList, "./a.go.go".toList] ∧
      report.result = .ok ["./a.go.go".toList, "./a.go.go.go".toList] ∧
      before.map TextFile.mode = .ok 0o600 ∧
      before.map TextFile.text = .ok "\x7b% code y %\x7d".toList ∧
      after.map TextFile.mode = .ok 0o644 ∧
      after.map TextFile.text = .ok "x\n".toList := by
  decide +kernel

end Workspace
end Stencil
