/-
The command line program.

It takes a picture of the files that the arguments concern, runs on that picture,
and then writes the files that the run has changed.  A new file is written beside
its place, gets the permissions that the run has given to it and is moved there, so
that readers never see half of it.  In a picture a file has the permissions that are
usual for files, since those on the disk cannot be asked for here.
-/

import Stencil.Program

namespace Stencil
namespace Main

def pathOf (place : Place) : String :=
  String.ofList ('/' :: ['/'].intercalate place)

def realPlace? (path : String) : IO (Option Place) := do
  try
    let real ← IO.FS.realPath path
    return some (FilePath.names real.toString.toList)
  catch _ =>
    return none

/-- The entry at a place that is not a link.  A file that cannot be read has no
permissions. -/
def entryAt (place : Place) : IO Entry := do
  let real ← IO.FS.realPath (pathOf place)
  if ← real.isDir then
    return .directory
  else
    try
      return .file 0o644 (← IO.FS.readBinFile real)
    catch _ =>
      return .file 0 ByteArray.empty

partial def observe (tree : FileTree) (place : Place) (names : List Text) : IO FileTree := do
  match names with
  | [] => return tree
  | name :: rest =>
      if name = FilePath.above then
        observe tree place.dropLast rest
      else
        let next := place ++ [name]
        match ← realPlace? (pathOf next) with
        | none => return tree
        | some real =>
            if real = next then
              if (tree.find? next).isSome then
                observe tree next rest
              else
                observe ((tree.put? next (← entryAt next)).getD tree) next rest
            else
              let target ← observe tree [] real
              let linked := (target.put? next (.link (pathOf real).toList)).getD target
              observe linked real rest

partial def observeBelow (tree : FileTree) (place : Place) : IO FileTree := do
  let directory ← IO.FS.realPath (pathOf place)
  let mut seen := tree
  for item in ← directory.readDir do
    let name := item.fileName.toList
    seen ← observe seen place [name]
    if seen.find? (place ++ [name]) = some .directory then
      seen ← observeBelow seen (place ++ [name])
  return seen

def observePath (tree : FileTree) (directory : Place) (path : Text) : IO FileTree :=
  observe tree [] (FilePath.absolute directory path)

/-- Takes up what stands beside a path under a name like a temporary one. -/
def observeTemporary (tree : FileTree) (directory : Place) (path : Text) : IO FileTree := do
  match FilePath.enter tree (FilePath.absolute directory path).dropLast with
  | .error _ => return tree
  | .ok found =>
      let mut seen := tree
      for item in ← (← IO.FS.realPath (pathOf found.1)).readDir do
        if item.fileName.startsWith ".tmp" then
          seen ← observe seen found.1 [item.fileName.toList]
      return seen

def picture (directory : Place) (home : Option Text) (options : Options) : IO FileTree := do
  let mut tree ← observe FileTree.empty [] directory
  for path in options.config.toList ++ (home.map Workspace.homeConfigPath).toList do
    tree ← observePath tree directory path
  match options.file with
  | some path =>
      tree ← observePath tree directory path
      tree ← observePath tree directory (outputPath path)
      tree ← observeTemporary tree directory (outputPath path)
  | none =>
      tree ← observePath tree directory options.directory
      match FilePath.locate tree true directory options.directory with
      | .ok (place, .directory) => tree ← observeBelow tree place
      | .ok _ => tree ← observePath tree directory (outputPath options.directory)
      | .error _ => pure ()
  return tree

def rightOf (bits : Nat) : IO.AccessRight where
  read := bits.testBit 2
  write := bits.testBit 1
  execution := bits.testBit 0

def rightsOf (mode : Nat) : IO.FileRight where
  user := rightOf (mode >>> 6)
  group := rightOf (mode >>> 3)
  other := rightOf mode

def writeChanges (before after : FileTree) : IO Unit := do
  for (place, entry) in after.entries do
    if let .file mode content := entry then
      let same := match before.find? place with
        | some (.file oldMode old) => oldMode == mode && old.data == content.data
        | _ => false
      unless same do
        let path := pathOf place
        IO.FS.writeBinFile (path ++ ".part") content
        IO.setAccessRights (path ++ ".part") (rightsOf mode)
        IO.FS.rename (path ++ ".part") path

def optionsOf (arguments : List Text) : Options :=
  match Request.ofArguments arguments with
  | .ok (.act options) => options
  | _ => Options.none

def usageMessage : UsageFault → String
  | .argumentConflict => "error: an argument cannot be used with another one"
  | .invalidValue => "error: an argument has no valid value"
  | .tooManyValues => "error: an argument takes no value"
  | .unknownArgument => "error: unexpected argument found"

/-- Names for the temporary files of an output that differ from run to run. -/
def draws (seed : Nat) (output : Text) (attempt : Nat) : TemporaryName :=
  .ofNumber (seed + (hash (String.ofList output)).toNat + attempt)

def run (arguments : List Text) : IO UInt32 := do
  let directory := FilePath.names (← IO.currentDir).toString.toList
  let home := (← IO.getEnv "HOME").map String.toList
  let description := (← IO.getEnv "RUST_LOG").map String.toList
  let tree ← picture directory home (optionsOf arguments)
  let seed ← IO.rand 0 999999
  let workspace : Workspace := ⟨tree, directory, none, draws seed⟩
  let environment : Environment := ⟨workspace, home, fun _ => "it lists no settings".toList⟩
  let outcome := Run.ofArguments environment arguments
  match outcome with
  | .worked _ after _ => writeChanges tree after
  | _ => pure ()
  IO.eprint (String.ofList (LogFilter.log description ['['] outcome.events))
  match outcome with
  | .refused fault => IO.eprintln (usageMessage fault)
  | .shown text => IO.print (String.ofList text)
  | .worked .. => pure ()
  return outcome.exitCode.toUInt32

end Main
end Stencil

def main (arguments : List String) : IO UInt32 :=
  Stencil.Main.run (arguments.map String.toList)
