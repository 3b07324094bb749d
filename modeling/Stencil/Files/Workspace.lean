/-
A tree of files, seen from a working directory.

A path is followed name by name.  Every name but the last must lead to a directory;
a symbolic link on the way is replaced by its target, and only a bounded number of
links is followed.  A path that does not start at the root is followed from the
working directory; the system may still be unable to tell how that directory is
reached from the root.  A file is read as a text if its owner may read it and its
bytes are a text in UTF-8.

A new file is made under a temporary name in the directory of the one to be written.
The names are drawn at random: what is drawn is part of what a run finds, and each
output has names of its own that are tried one after another.  The file is filled, it
gets its permissions, and only then it is moved to the place of whatever file or link
stands there.  When a step fails, the temporary file is left to the fault, and it is
taken out of the tree when the fault is dropped.

A search starts at a path, where a link is followed, and goes through real
directories only.  It is assumed that every directory below the start can be listed:
its owner may read it, and its path is not too long for the system.
-/

import Stencil.Files.Tree
import Stencil.Text.Quoted

namespace Stencil

inductive FileFault where
  | noSuchEntry
  | permissionDenied
  | notDirectory
  | isDirectory
  | nameTooLong
  | tooManyLinks
  | nulCharacter
  | emptyPath
deriving DecidableEq

/-- The fault in words, which are those of the operating system if it is asked at all. -/
def FileFault.message : FileFault → Text
  | .noSuchEntry => "No such file or directory (os error 2)".toList
  | .permissionDenied => "Permission denied (os error 13)".toList
  | .notDirectory => "Not a directory (os error 20)".toList
  | .isDirectory => "Is a directory (os error 21)".toList
  | .nameTooLong => "File name too long (os error 36)".toList
  | .tooManyLinks => "Too many levels of symbolic links (os error 40)".toList
  | .nulCharacter => "file name contained an unexpected NUL byte".toList
  | .emptyPath => "cannot make an empty path absolute".toList

namespace FilePath

def pathLimit : Nat := 4095

def linkLimit : Nat := 40

/-- The steps that a path demands, from its directory or the root on: its names, and
one more step on the spot when it ends with a slash. -/
def steps (path : Text) : List Text :=
  (path.splitOn '/').filter (· != []) ++
    (if path.getLast? == some '/' then [here] else [])

def origin (directory : Place) (path : Text) : Place :=
  if isAbsolute path then [] else directory

/-- Takes the steps of a path.  The last of them need not lead to an entry; if it
leads to a link, `follow` tells whether that is followed too.  A link that is followed
is left to `jump`, with the place where its target starts and the steps from there. -/
def walkTo (tree : FileTree) (follow : Bool)
    (jump : Place → List Text → Except FileFault Place) (place : Place) :
    List Text → Except FileFault Place
  | [] => .ok place
  | step :: rest =>
      if tree.find? place = some .directory then
        if step = here then
          walkTo tree follow jump place rest
        else if step = above then
          walkTo tree follow jump place.dropLast rest
        else if nameLimit < Text.byteLength step then
          .error .nameTooLong
        else
          match tree.find? (place ++ [step]) with
          | none => if rest.isEmpty then .ok (place ++ [step]) else .error .noSuchEntry
          | some (.link target) =>
              if rest.isEmpty && !follow then
                .ok (place ++ [step])
              else
                jump (origin place target) (steps target ++ rest)
          | some _ => walkTo tree follow jump (place ++ [step]) rest
      else
        .error .notDirectory

/-- Takes the steps of a path and follows as many links as are granted. -/
def walk (tree : FileTree) (follow : Bool) :
    (links : Nat) → Place → List Text → Except FileFault Place
  | 0 => walkTo tree follow fun _ _ => .error .tooManyLinks
  | links + 1 => walkTo tree follow (walk tree follow links)

def fault? (path : Text) : Option FileFault :=
  if path.contains '\x00' then some .nulCharacter
  else if path.isEmpty then some .noSuchEntry
  else if pathLimit < Text.byteLength path then some .nameTooLong
  else none

/-- The place that a path leads to, whether or not there is an entry. -/
def resolve (tree : FileTree) (follow : Bool) (directory : Place) (path : Text) :
    Except FileFault Place :=
  match fault? path with
  | some fault => .error fault
  | none => walk tree follow linkLimit (origin directory path) (steps path)

def locate (tree : FileTree) (follow : Bool) (directory : Place) (path : Text) :
    Except FileFault (Place × Entry) :=
  match resolve tree follow directory path with
  | .error fault => .error fault
  | .ok place =>
      match tree.find? place with
      | none => .error .noSuchEntry
      | some entry => .ok (place, entry)

def enter (tree : FileTree) (names : List Text) :
    Except FileFault { place : Place // tree.find? place = some .directory } :=
  match walk tree true linkLimit [] names with
  | .error fault => .error fault
  | .ok place =>
      match found : tree.find? place with
      | none => .error .noSuchEntry
      | some .directory => .ok ⟨place, found⟩
      | some _ => .error .notDirectory

end FilePath

/-! ### Reading -/

inductive ReadFault where
  | file (fault : FileFault)
  | notText
deriving DecidableEq

def ReadFault.message : ReadFault → Text
  | .file fault => fault.message
  | .notText => "stream did not contain valid UTF-8".toList

structure TemporaryName where
  letters : Text
  count : letters.length = 6
  plain : ∀ c ∈ letters, c.isAlphanum = true
deriving DecidableEq

namespace TemporaryName

def text (name : TemporaryName) : Text :=
  ".tmp".toList ++ name.letters

theorem byteLength_text (name : TemporaryName) : Text.byteLength name.text = 10 := by
  rw [text, Text.byteLength_append, Text.byteLength_of_isAlphanum name.plain, name.count]
  rfl

theorem isName (name : TemporaryName) : FilePath.IsName name.text where
  nonempty := by simp [text]
  noSlash := by
    intro present
    rcases List.mem_append.mp present with early | letter
    · exact absurd early (by decide)
    · exact absurd (name.plain _ letter) (by decide)
  noNul := by
    intro present
    rcases List.mem_append.mp present with early | letter
    · exact absurd early (by decide)
    · exact absurd (name.plain _ letter) (by decide)
  notHere := by simp [text, FilePath.here]
  notAbove := by simp [text, FilePath.above]
  short := by
    rw [name.byteLength_text]
    decide

def ofNumber (number : Nat) : TemporaryName where
  letters := Text.lastDigits 6 number
  count := Text.length_lastDigits 6 number
  plain := by
    intro c digit
    rw [Char.isAlphanum, Text.isDigit_of_mem_lastDigits digit, Bool.or_true]

end TemporaryName

/-- `unnamed` is why the system cannot tell the path of the directory, and `drawn` are the
names that are tried for the temporary file of an output. -/
structure Workspace where
  tree : FileTree
  directory : Place
  unnamed : Option FileFault
  drawn : (output : Text) → (attempt : Nat) → TemporaryName

def Workspace.ofTree (tree : FileTree) (directory : Place) : Workspace where
  tree := tree
  directory := directory
  unnamed := none
  drawn _ attempt := .ofNumber attempt

structure TextFile where
  mode : Nat
  text : Text

def permissionBits (number : Nat) : Nat := number % 0o10000

def mayRead (mode : Nat) : Bool := mode.testBit 8

def mayWrite (mode : Nat) : Bool := mode.testBit 7

def Entry.isReadable : Entry → Bool
  | .file mode _ => mayRead mode
  | _ => true

def Entry.isWritable : Entry → Bool
  | .file mode _ => mayWrite mode
  | _ => false

/-- The permissions of an entry.  Those of directories and links are not kept. -/
def Entry.mode : Entry → Nat
  | .directory => 0o755
  | .file mode _ => mode
  | .link _ => 0o777

def encodeText (text : Text) : ByteArray :=
  (String.ofList text).toUTF8

def decodeText? (bytes : ByteArray) : Option Text :=
  (String.fromUTF8? bytes).map String.toList

namespace Workspace

/-- The path of the working directory in front of a path that does not start at the root. -/
def fromRoot (workspace : Workspace) (path : Text) : Except FileFault Text :=
  if FilePath.isAbsolute path then
    .ok path
  else
    match workspace.unnamed with
    | some fault => .error fault
    | none => .ok (FilePath.join (FilePath.extend ['/'] workspace.directory) path)

def absolute (workspace : Workspace) (path : Text) : Except FileFault (List Text) :=
  if path.isEmpty then
    .error .emptyPath
  else
    (workspace.fromRoot path).map fun _ => FilePath.absolute workspace.directory path

def read (workspace : Workspace) (path : Text) : Except ReadFault TextFile :=
  match FilePath.locate workspace.tree true workspace.directory path with
  | .error fault => .error (.file fault)
  | .ok (_, .file mode content) =>
      if mayRead mode then
        match decodeText? content with
        | none => .error .notText
        | some text => .ok ⟨mode, text⟩
      else
        .error (.file .permissionDenied)
  | .ok _ => .error (.file .isDirectory)

end Workspace

/-! ### Writing by way of a temporary file -/

structure TemporaryFile where
  tree : FileTree
  place : Place
  mode : Nat
  content : ByteArray
  present : tree.find? place = some (.file mode content)

namespace TemporaryFile

def attemptLimit : Nat := 65536

/-- Makes an empty file in a directory that only its owner may use, under the first of the
drawn names that is free, among as many as are asked for, counted from an attempt on. -/
def create? (tree : FileTree) (directory : Place)
    (inDirectory : tree.find? directory = some .directory) (drawn : Nat → TemporaryName) :
    (attempts attempt : Nat) → Option TemporaryFile
  | 0, _ => none
  | attempts + 1, attempt =>
      match free : tree.find? (directory ++ [(drawn attempt).text]) with
      | some _ => create? tree directory inDirectory drawn attempts (attempt + 1)
      | none =>
          some {
            tree := tree.put (directory ++ [(drawn attempt).text])
              (.file 0o600 ByteArray.empty)
              (tree.admits_of_free inDirectory (drawn attempt).isName free _)
            place := directory ++ [(drawn attempt).text]
            mode := 0o600
            content := ByteArray.empty
            present := by simp [FileTree.find?_put] }

def replace (file : TemporaryFile) (mode : Nat) (content : ByteArray) : TemporaryFile where
  tree := file.tree.put file.place (.file mode content)
    (file.tree.admits_of_file file.present _)
  place := file.place
  mode := mode
  content := content
  present := by simp [FileTree.find?_put]

def append (file : TemporaryFile) (content : ByteArray) : TemporaryFile :=
  file.replace file.mode (file.content ++ content)

def setMode (file : TemporaryFile) (mode : Nat) : TemporaryFile :=
  file.replace mode file.content

def discard (file : TemporaryFile) : FileTree :=
  file.tree.remove file.place (by simp [file.present])

def persist (file : TemporaryFile) (directory : Place) (path : Text) :
    Except FileFault FileTree :=
  match FilePath.resolve file.tree false directory path with
  | .error fault => .error fault
  | .ok place =>
      match file.discard.put? place (.file file.mode file.content) with
      | none => .error .isDirectory
      | some tree => .ok tree

end TemporaryFile

/-- Why there is no temporary file: the path of the working directory cannot be told, the
first name that was drawn is refused in a directory, or all that were drawn are taken. -/
inductive CreationFault where
  | unresolved (fault : FileFault)
  | refused (directory : Text) (name : TemporaryName) (fault : FileFault)
  | exhausted (directory : Text)
deriving DecidableEq

def CreationFault.message : CreationFault → Text
  | .unresolved fault => fault.message
  | .refused directory name fault =>
      fault.message ++ " at path ".toList ++ Text.quoted (FilePath.join directory name.text)
  | .exhausted directory =>
      "too many temporary files exist at path ".toList ++ Text.quoted directory

inductive WriteFault where
  | create (directory : Text) (fault : CreationFault)
  | permissions (path : Text) (fault : FileFault)
  | rename (path : Text) (fault : FileFault)
deriving DecidableEq

def WriteFault.chain : WriteFault → Text
  | .create directory fault =>
      "cannot create temp file in ".toList ++ directory ++ ": ".toList ++ fault.message
  | .permissions path fault => "cannot stat ".toList ++ path ++ ": ".toList ++ fault.message
  | .rename path fault =>
      "cannot write ".toList ++ path ++ ": failed to persist temporary file: ".toList ++
        fault.message ++ ": ".toList ++ fault.message

/-- A file that could not be written: why, and the temporary file if there is one by
then. -/
structure FailedWrite where
  fault : WriteFault
  temporary : Option TemporaryFile

namespace Workspace

def createTemporary (workspace : Workspace) (path : Text) :
    Except CreationFault TemporaryFile :=
  match workspace.fromRoot (FilePath.parent path) with
  | .error fault => .error (.unresolved fault)
  | .ok spelled =>
      let name := workspace.drawn path 0
      if FilePath.pathLimit < Text.byteLength (FilePath.join spelled name.text) then
        .error (.refused spelled name .nameTooLong)
      else
        match FilePath.enter workspace.tree
            (FilePath.absolute workspace.directory path).dropLast with
        | .error fault => .error (.refused spelled name fault)
        | .ok directory =>
            match TemporaryFile.create? workspace.tree directory.1 directory.2
                (workspace.drawn path) TemporaryFile.attemptLimit 0 with
            | none => .error (.exhausted spelled)
            | some file => .ok file

/-- Writes a file with the permissions of the one that another path leads to. -/
def save (workspace : Workspace) (model output : Text) (content : ByteArray) :
    Except FailedWrite FileTree :=
  match workspace.createTemporary output with
  | .error fault => .error ⟨.create (FilePath.parent output) fault, none⟩
  | .ok empty =>
      let filled := empty.append content
      match FilePath.locate filled.tree true workspace.directory model with
      | .error fault => .error ⟨.permissions model fault, some filled⟩
      | .ok (_, entry) =>
          let finished := filled.setMode entry.mode
          match finished.persist workspace.directory output with
          | .error fault => .error ⟨.rename output fault, some finished⟩
          | .ok tree => .ok tree

/-! ### Finding templates -/

def isTemplate (extension path : Text) : Entry → Bool
  | .file _ _ => FilePath.extension? path == some extension
  | _ => false

def templatesBelow (tree : FileTree) (place : Place) (root extension : Text) : List Text :=
  (tree.below place).filterMap fun item =>
    let path := FilePath.extend root item.1
    if isTemplate extension path item.2 then some path else none

/-- The templates that a path leads to, each directory in the order of its names. -/
def discover (workspace : Workspace) (root extension : Text) :
    Except FileFault (List Text) :=
  match FilePath.locate workspace.tree false workspace.directory root with
  | .error fault => .error fault
  | .ok (place, .directory) => .ok (templatesBelow workspace.tree place root extension)
  | .ok (_, .file mode content) =>
      .ok (if isTemplate extension root (.file mode content) then [root] else [])
  | .ok (_, .link _) =>
      match FilePath.locate workspace.tree true workspace.directory root with
      | .error fault => .error fault
      | .ok (place, .directory) => .ok (templatesBelow workspace.tree place root extension)
      | .ok _ => .ok []

/-! ### Preparing a tree -/

/-- Makes the directories on the way from a directory by some names, and gives the
place that the way leads to. -/
def makeWay? (tree : FileTree) (place : Place) : List Text → Option (FileTree × Place)
  | [] => some (tree, place)
  | name :: rest =>
      match FilePath.walk tree true FilePath.linkLimit place [name] with
      | .error _ => none
      | .ok next =>
          match tree.find? next with
          | some .directory => makeWay? tree next rest
          | some _ => none
          | none =>
              if next = place ++ [name] then
                match tree.put? next .directory with
                | some made => makeWay? made next rest
                | none => none
              else
                none

def makeDirectories? (workspace : Workspace) (path : Text) : Option FileTree :=
  if path.isEmpty then
    some workspace.tree
  else
    match FilePath.fault? path with
    | some _ => none
    | none =>
        (makeWay? workspace.tree (FilePath.origin workspace.directory path)
          (FilePath.names path)).map Prod.fst

def makeParents? (workspace : Workspace) (path : Text) : Option Workspace :=
  match FilePath.fault? path with
  | some _ => none
  | none =>
      (makeWay? workspace.tree (FilePath.origin workspace.directory path)
        (FilePath.names path).dropLast).map fun made => { workspace with tree := made.1 }

def store? (workspace : Workspace) (path : Text) (mode : Nat) (content : ByteArray) :
    Option FileTree :=
  match workspace.makeParents? path with
  | none => none
  | some workspace =>
      match FilePath.resolve workspace.tree true workspace.directory path with
      | .error _ => none
      | .ok place =>
          let entry := Entry.file (permissionBits mode) content
          match workspace.tree.find? place with
          | none => workspace.tree.put? place entry
          | some old => if old.isWritable then workspace.tree.put? place entry else none

def makeLink? (workspace : Workspace) (path target : Text) : Option FileTree :=
  match FilePath.fault? target, workspace.makeParents? path with
  | some _, _ => none
  | none, none => none
  | none, some workspace =>
      match FilePath.resolve workspace.tree false workspace.directory path with
      | .error _ => none
      | .ok place =>
          match workspace.tree.find? place with
          | none => workspace.tree.put? place (.link target)
          | some _ => none

def setMode? (workspace : Workspace) (path : Text) (mode : Nat) : Option FileTree :=
  match FilePath.locate workspace.tree true workspace.directory path with
  | .ok (place, .file _ content) => workspace.tree.put? place (.file (permissionBits mode) content)
  | .ok (_, .directory) => some workspace.tree
  | _ => none

def remove? (workspace : Workspace) (path : Text) : Option FileTree :=
  match FilePath.locate workspace.tree false workspace.directory path with
  | .ok (place, _) => workspace.tree.remove? place
  | .error _ => none

end Workspace
end Stencil
