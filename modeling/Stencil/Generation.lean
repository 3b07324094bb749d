/-
Generating files of Go code from the templates in a tree of files.

The output for a template stands next to it, under its name with an extension
added, and its package is named after their directory.  It is written only when the
whole template could be compiled, with the permissions of the template, and in the
place of whatever file or link stood there.  A run over a directory stops at the first
template that fails.
-/

import Stencil.Config
import Stencil.Log

namespace Stencil
namespace Go

/-- A name of a directory as an identifier: characters other than letters, numbers
and underscores become underscores, and a digit of ASCII at the start gets one in
front of it. -/
def identifier (name : Text) : Text :=
  let replaced := name.map fun c => if Text.isAlphanumeric c || c == '_' then c else '_'
  if replaced.head?.any Char.isDigit then '_' :: replaced else replaced

/-- The name in front of the last one, among the names of a path from the root on.  There
is none at the root and behind a step to the directory above. -/
def directoryName? (names : List Text) : Option Text :=
  match names.dropLast.getLast? with
  | none => none
  | some name => if name = FilePath.above then none else some name

def packageName (names : List Text) : Text :=
  identifier ((directoryName? names).getD "main".toList)

end Go

inductive GenerationFault where
  | walk (root : Text) (fault : FileFault)
  | read (path : Text) (fault : ReadFault)
  | compile (path : Text) (fault : CompileError)
  | resolve (path : Text) (fault : FileFault)
  | write (fault : WriteFault)
deriving DecidableEq

def GenerationFault.chain : GenerationFault → Text
  | .walk root fault =>
      "cannot walk ".toList ++ root ++ ": IO error for operation on ".toList ++ root ++
        ": ".toList ++ fault.message ++ ": ".toList ++ fault.message
  | .read path fault => "cannot read ".toList ++ path ++ ": ".toList ++ fault.message
  | .compile path fault => "cannot compile ".toList ++ path ++ ": ".toList ++ fault.chain
  | .resolve path fault => "cannot resolve ".toList ++ path ++ ": ".toList ++ fault.message
  | .write fault => fault.chain

def outputPath (path : Text) : Text :=
  path ++ ".go".toList

/-- The lines in front of the code: a notice that names the template, the package
clause, and the import of the package with the writer. -/
def fileHeader (fileName package runtimeImport : Text) : Text :=
  "// Code generated by qtc from ".toList ++ Go.quoted fileName ++
    ". DO NOT EDIT.\n\npackage ".toList ++ package ++ "\n\nimport ".toList ++
    Go.quoted runtimeImport ++ ['\n']

/-- The text of a generated file, or why there is none, and the functions that were
opened on the way. -/
structure Rendering where
  result : Except GenerationFault Text
  openings : List Opening

namespace Workspace

def packageName (workspace : Workspace) (path : Text) : Except FileFault Text :=
  (workspace.absolute path).map Go.packageName

def headerFor (workspace : Workspace) (config : Config) (path : Text) :
    Except GenerationFault Text :=
  match workspace.packageName path with
  | .error fault => .error (.resolve path fault)
  | .ok package =>
      .ok (fileHeader ((FilePath.fileName? path).getD []) package config.runtimeImport)

def renderText (workspace : Workspace) (config : Config) (path template : Text) : Rendering :=
  let compiled := compilation config.runtime template
  ⟨match compiled.result with
    | .error fault => .error (.compile path fault)
    | .ok code =>
        if config.header then (workspace.headerFor config path).map (· ++ code) else .ok code,
    compiled.openings⟩

def render (workspace : Workspace) (config : Config) (path : Text) :
    Except GenerationFault Text :=
  match workspace.read path with
  | .error fault => .error (.read path fault)
  | .ok file => (workspace.renderText config path file.text).result

end Workspace

/-- What an operation on a tree of files answers, the tree that it leaves, and what
it tells on the way.  A fault may still hold a temporary file; the tree is the one
without it, after the fault was dropped. -/
structure Report (α : Type) where
  result : Except GenerationFault α
  tree : FileTree
  held : Option TemporaryFile
  events : List Event

/-- The tree while a fault is not yet dropped. -/
def Report.heldTree {α : Type} (report : Report α) : FileTree :=
  match report.held with
  | some file => file.tree
  | none => report.tree

namespace Workspace

def compileFile (workspace : Workspace) (config : Config) (path : Text) : Report Text :=
  match workspace.read path with
  | .error fault => ⟨.error (.read path fault), workspace.tree, none, []⟩
  | .ok file =>
      let rendering := workspace.renderText config path file.text
      let opened := rendering.openings.map Event.opened
      match rendering.result with
      | .error fault => ⟨.error fault, workspace.tree, none, opened⟩
      | .ok code =>
          let output := outputPath path
          match workspace.save path output (encodeText code) with
          | .error failed =>
              ⟨.error (.write failed.fault),
                (failed.temporary.map TemporaryFile.discard).getD workspace.tree,
                failed.temporary, opened⟩
          | .ok tree => ⟨.ok output, tree, none, opened ++ [.generated output]⟩

/-- Generates the outputs for some templates, one after another, up to the first that
fails. -/
def compileFiles (workspace : Workspace) (config : Config) : List Text → Report (List Text)
  | [] => ⟨.ok [], workspace.tree, none, []⟩
  | path :: rest =>
      let first := workspace.compileFile config path
      match first.result with
      | .error fault => ⟨.error fault, first.tree, first.held, first.events⟩
      | .ok output =>
          let others := compileFiles { workspace with tree := first.tree } config rest
          ⟨others.result.map (output :: ·), others.tree, others.held,
            first.events ++ others.events⟩

def compileDirectory (workspace : Workspace) (config : Config) (root : Text) :
    Report (List Text) :=
  match workspace.discover root config.extension with
  | .error fault => ⟨.error (.walk root fault), workspace.tree, none, []⟩
  | .ok templates =>
      let report := workspace.compileFiles config templates
      let notice := if templates.isEmpty then [.noTemplates config.extension root] else []
      { report with events := templates.map Event.found ++ notice ++ report.events }

end Workspace
end Stencil
