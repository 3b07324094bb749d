/-
Generating from a directory again, and in another order.

A run changes outputs only.  No output is a template, and no template is called like a
temporary file, so a second search finds the same templates, and each of them reads and renders
as before.  What a run leaves is known by which templates it has generated: at their outputs
stands what they render to, and nothing else has changed.  So neither a second run nor the
order of the templates makes a difference, and the names that are drawn for temporary files
show only in the fault for a name that is refused.
-/

import Mathlib.Data.List.Perm.Basic
import Stencil.Proofs.Generation.Batch

namespace Stencil

open FilePath

namespace FilePath

theorem not_isProduct_of_extensionOf? {name extension : Text}
    (found : extensionOf? name = some extension) (different : extension ≠ "go".toList) :
    ¬ IsProduct name := by
  rintro (isOutput | ⟨temporary, rfl⟩)
  · exact not_go_suffix_of_extensionOf? found different isOutput
  · obtain ⟨stem, nonempty, spelled, -⟩ := extensionOf?_eq_some_iff.mp found
    obtain ⟨c, rest, rfl⟩ := List.exists_cons_of_ne_nil nonempty
    have behind : "tmp".toList ++ temporary.letters = rest ++ '.' :: extension :=
      (List.cons.inj spelled).2
    have dotted : '.' ∈ "tmp".toList ++ temporary.letters := by
      rw [behind]
      exact List.mem_append_right rest List.mem_cons_self
    rcases List.mem_append.mp dotted with early | letter
    · exact absurd early (by decide)
    · exact absurd (temporary.plain '.' letter) (by decide)

end FilePath

namespace Workspace

section Search

variable {tree other : FileTree} {place : Place} {root extension : Text}

end Search

section Start

variable {workspace : Workspace} {root extension : Text} (linkless : workspace.Linkless root)

include linkless

end Start

/-- In every directory one of the names that are drawn for an output is free. -/
def HasNames (workspace : Workspace) : Prop :=
  ∀ output directory, workspace.tree.find? directory = some .directory →
    ∃ attempt < TemporaryFile.attemptLimit,
      workspace.tree.find? (directory ++ [(workspace.drawn output attempt).text]) = none

theorem HasNames.not_namesTaken {workspace : Workspace} (names : workspace.HasNames) {site : Site}
    (within : site.Within workspace) : ¬ workspace.NamesTaken site := by
  intro taken
  obtain ⟨attempt, bound, free⟩ :=
    names (outputPath site.path) site.directory within.reaches.last_directory
  exact taken attempt bound free

/-- Two workspaces are alike but for what runs make, and in both there are names for temporary
files. -/
structure Again (workspace other : Workspace) : Prop where
  alike : workspace.Alike IsProduct other
  names : workspace.HasNames
  namesThere : other.HasNames

section Again

variable {workspace other : Workspace} {config : Config} {site : Site}

theorem Again.result (again : workspace.Again other) (config : Config)
    (within : site.Within workspace) (fixed : ¬ IsProduct site.name) :
    (other.compileFile config site.path).result.mapError GenerationFault.withoutDraw =
        (workspace.compileFile config site.path).result.mapError GenerationFault.withoutDraw ∧
      (other.drawn = workspace.drawn →
        (other.compileFile config site.path).result =
          (workspace.compileFile config site.path).result) := by
  have notTaken := again.names.not_namesTaken within
  have notTakenThere :=
    again.namesThere.not_namesTaken (within_alike within again.alike fixed)
  exact compileFile_result_alike within again.alike fixed
    ⟨fun taken => absurd taken notTakenThere, fun taken => absurd taken notTaken⟩ config

theorem EndsAt.answers {paths rest : List Text} {result answer : Except GenerationFault (List Text)}
    (ends : workspace.EndsAt config paths rest result)
    (endsThere : other.EndsAt config paths rest answer) (same : GenerationFault → GenerationFault)
    (alike : ∀ failing ∈ rest.head?,
      (other.compileFile config failing).result.mapError same =
        (workspace.compileFile config failing).result.mapError same) :
    answer.mapError same = result.mapError same := by
  cases rest with
  | nil =>
      have all : result = .ok (paths.map outputPath) := ends
      have allThere : answer = .ok (paths.map outputPath) := endsThere
      rw [all, allThere]
  | cons failing others =>
      obtain ⟨-, fault, failed, isResult⟩ := ends
      obtain ⟨-, faultThere, failedThere, isAnswer⟩ := endsThere
      have sameFault := alike failing rfl
      rw [failed, failedThere] at sameFault
      rw [isResult, isAnswer]
      exact congrArg Except.error (Except.error.inj sameFault)

end Again

section Run

variable {workspace : Workspace} {sites : List Site}

structure Sources (workspace : Workspace) (sites : List Site) : Prop where
  within : ∀ site ∈ sites, site.Within workspace
  fixed : ∀ site ∈ sites, ¬ IsProduct site.name
  distinct : sites.Pairwise fun first second => first.place ≠ second.place

theorem Sited.sources {extension : Text} {templates : List Text}
    (sited : workspace.Sited extension templates sites) (noOutputs : extension ≠ "go".toList) :
    workspace.Sources sites where
  within := sited.within
  fixed site present := not_isProduct_of_extensionOf? (sited.extended site present) noOutputs
  distinct := sited.distinct

theorem Sources.noOutput (sources : workspace.Sources sites) :
    ∀ site ∈ sites, ¬ IsOutput site.name :=
  fun site present isOutput => sources.fixed site present (Or.inl isOutput)

theorem Sources.alike (sources : workspace.Sources sites) {other : Workspace}
    (alike : workspace.Alike IsProduct other) : other.Sources sites where
  within site present := within_alike (sources.within site present) alike
    (sources.fixed site present)
  fixed := sources.fixed
  distinct := sources.distinct

theorem Sources.run (sources : workspace.Sources sites) (config : Config) :
    let report := workspace.compileFiles config (sites.map Site.path)
    ∃ done rest, sites = done ++ rest ∧ workspace.Done config done workspace.tree report.tree ∧
      workspace.EndsAt config (sites.map Site.path) (rest.map Site.path) report.result :=
  compileFiles_run config sources.within sources.noOutput sources.distinct (.refl workspace.tree)

end Run

end Workspace
end Stencil
