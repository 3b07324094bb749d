/-
The header of a generated file.

A header is put in front of what would be generated without it, and asking for one makes no
template fail that would not fail anyway, as long as the system can tell the path from the
root on.  It has five lines, whatever the names in it are: the name of the template and an
imported path are quoted, and the package is one word.

The package clause stands on the third line, and no line in front of it begins like it.  Go
accepts its name for exactly those names of directories from which a legal name is made.
-/

import Stencil.Proofs.Generation.Atomicity
import Stencil.Proofs.Go.PackageName
import Stencil.Proofs.Go.Quoting

namespace Stencil

/-- What is told in the lines of a header: a notice, the name of a package, and the literal
of an import path. -/
structure HeaderLines where
  notice : Text
  package : Text
  literal : Text

namespace HeaderLines

def lines (header : HeaderLines) : List Text :=
  [header.notice, [], "package ".toList ++ header.package, [],
    "import ".toList ++ header.literal]

def text (header : HeaderLines) : Text :=
  header.lines.flatMap fun line => line ++ ['\n']

/-- The lines are lines indeed, and Go reads the name of a file and an import path from the
literals in them.  The literal in the notice is the one at its first double quote. -/
structure Tells (header : HeaderLines) (fileName importPath : Text) : Prop where
  unbroken : ∀ line ∈ header.lines, '\n' ∉ line
  begins : "// Code generated ".toList <+: header.notice
  ends : " DO NOT EDIT.".toList <:+ header.notice
  names : ∃ front literal rest, header.notice = front ++ literal ∧ '"' ∉ front ∧
    Go.readInterpreted? literal = some (fileName.utf8, rest)
  packageWord : ∀ c ∈ header.package, Text.isBlank c = false
  imports : Go.readInterpreted? header.literal = some (importPath.utf8, [])

def ofNames (fileName package importPath : Text) : HeaderLines where
  notice := "// Code generated by qtc from ".toList ++
    (Go.quoted fileName ++ ". DO NOT EDIT.".toList)
  package := package
  literal := Go.quoted importPath

theorem text_ofNames (fileName package importPath : Text) :
    (ofNames fileName package importPath).text = fileHeader fileName package importPath := by
  have behindNotice : ". DO NOT EDIT.\n\npackage ".toList =
      ". DO NOT EDIT.".toList ++ '\n' :: '\n' :: "package ".toList := rfl
  have behindPackage : "\n\nimport ".toList = '\n' :: '\n' :: "import ".toList := rfl
  unfold text lines ofNames fileHeader
  rw [behindNotice, behindPackage]
  simp only [List.flatMap_cons, List.flatMap_nil, List.append_assoc, List.nil_append,
    List.cons_append]

theorem newline_not_mem_quoted (text : Text) : '\n' ∉ Go.quoted text := by
  intro newline
  rcases List.mem_cons.mp newline with quote | inside
  · exact absurd quote (by decide)
  · rcases List.mem_append.mp inside with inside | quote
    · exact Go.visible_flatMap text '\n' inside (Or.inl (by decide))
    · exact absurd (List.mem_singleton.mp quote) (by decide)

theorem tells_ofNames (fileName importPath : Text) {package : Text}
    (word : ∀ c ∈ package, Text.isBlank c = false) :
    (ofNames fileName package importPath).Tells fileName importPath where
  unbroken := by
    have inPackage : '\n' ∉ package := fun newline => absurd (word '\n' newline) (by decide)
    have inNotice : '\n' ∉ "// Code generated by qtc from ".toList ++
        (Go.quoted fileName ++ ". DO NOT EDIT.".toList) := by
      rw [List.mem_append, List.mem_append, not_or, not_or]
      exact ⟨by decide, newline_not_mem_quoted fileName, by decide⟩
    refine List.forall_mem_cons.mpr ⟨inNotice, List.forall_mem_cons.mpr ⟨List.not_mem_nil,
      List.forall_mem_cons.mpr ⟨?_, List.forall_mem_cons.mpr ⟨List.not_mem_nil,
        List.forall_mem_cons.mpr ⟨?_, List.forall_mem_nil _⟩⟩⟩⟩⟩
    · rw [List.mem_append, not_or]
      exact ⟨by decide, inPackage⟩
    · rw [List.mem_append, not_or]
      exact ⟨by decide, newline_not_mem_quoted importPath⟩
  begins := by
    have start : "// Code generated ".toList <+: "// Code generated by qtc from ".toList := by
      decide
    exact start.trans (List.prefix_append _ _)
  ends := by
    have last : " DO NOT EDIT.".toList <:+ ". DO NOT EDIT.".toList := by
      decide
    exact last.trans ((List.suffix_append _ _).trans (List.suffix_append _ _))
  names := ⟨_, _, _, rfl, by decide, Go.readInterpreted?_quoted _ _⟩
  packageWord := word
  imports := by
    have read := Go.readInterpreted?_quoted importPath []
    rw [List.append_nil] at read
    exact read

end HeaderLines

namespace Workspace

variable {workspace : Workspace} {config : Config} {path : Text}

/-- The system can tell how a path starts from the root. -/
def Told (workspace : Workspace) (path : Text) : Prop :=
  FilePath.isAbsolute path = true ∨ workspace.unnamed = none

theorem absolute_of_told (told : workspace.Told path) (nonempty : path ≠ []) :
    workspace.absolute path = .ok (FilePath.absolute workspace.directory path) := by
  rw [absolute, if_neg (mt List.isEmpty_iff.mp nonempty), fromRoot]
  cases starts : FilePath.isAbsolute path with
  | true => rfl
  | false =>
      have named : workspace.unnamed = none := by
        refine told.resolve_left ?_
        rw [starts]
        exact Bool.false_ne_true
      rw [named]
      rfl

theorem told_of_absolute {names : List Text} (found : workspace.absolute path = .ok names) :
    workspace.Told path := by
  cases starts : FilePath.isAbsolute path with
  | true => exact Or.inl starts
  | false =>
      refine Or.inr ?_
      rw [absolute, fromRoot, starts] at found
      split at found
      · cases found
      · cases isUnnamed : workspace.unnamed with
        | none => rfl
        | some fault =>
            rw [isUnnamed] at found
            cases found

theorem path_nonempty_of_read {file : TextFile} (isRead : workspace.read path = .ok file) :
    path ≠ [] := by
  obtain ⟨place, content, located, -, -⟩ := read_eq_ok isRead
  exact FilePath.path_nonempty (FilePath.resolve_eq_ok_iff.mp
    (FilePath.locate_eq_ok_iff.mp located).1).1

def headerText (config : Config) (directory : Place) (path : Text) : Text :=
  fileHeader ((FilePath.fileName? path).getD [])
    (Go.packageName (FilePath.absolute directory path)) config.runtimeImport

theorem headerFor_eq_ok_iff {front : Text} (nonempty : path ≠ []) :
    workspace.headerFor config path = .ok front ↔
      workspace.Told path ∧ front = headerText config workspace.directory path := by
  rw [headerFor, packageName]
  constructor
  · intro found
    cases resolved : workspace.absolute path with
    | error fault =>
        rw [resolved] at found
        cases found
    | ok names =>
        have told := told_of_absolute resolved
        rw [absolute_of_told told nonempty] at resolved
        rw [absolute_of_told told nonempty] at found
        cases found
        exact ⟨told, rfl⟩
  · rintro ⟨told, rfl⟩
    rw [absolute_of_told told nonempty]
    rfl

def frontMatter (config : Config) (directory : Place) (path : Text) : Text :=
  if config.header then headerText config directory path else []

theorem eq_ok_of_map {ε α β : Type} {f : α → β} {answer : Except ε α} {value : β}
    (mapped : answer.map f = .ok value) : ∃ item, answer = .ok item ∧ f item = value := by
  cases answer with
  | error fault => cases mapped
  | ok item => exact ⟨item, rfl, Except.ok.inj mapped⟩

/-- A header asks for the path from the root on, and nothing else does. -/
theorem render_eq_ok_iff {text : Text} :
    workspace.render config path = .ok text ↔
      ∃ file code, workspace.read path = .ok file ∧
        (compilation config.runtime file.text).result = .ok code ∧
        (config.header = true → workspace.Told path) ∧
        text = frontMatter config workspace.directory path ++ code := by
  unfold render frontMatter
  cases isRead : workspace.read path with
  | error fault => simp
  | ok file =>
      have nonempty := path_nonempty_of_read isRead
      simp only [renderText, Except.ok.injEq]
      constructor
      · intro rendered
        cases compiled : (compilation config.runtime file.text).result with
        | error fault =>
            rw [compiled] at rendered
            cases rendered
        | ok code =>
            rw [compiled] at rendered
            refine ⟨file, code, rfl, compiled, ?_⟩
            cases headed : config.header with
            | false => simpa [headed, eq_comm] using rendered
            | true =>
                dsimp only at rendered
                rw [if_pos headed] at rendered
                obtain ⟨front, found, rfl⟩ := eq_ok_of_map rendered
                obtain ⟨told, rfl⟩ := (headerFor_eq_ok_iff nonempty).mp found
                exact ⟨fun _ => told, rfl⟩
      · rintro ⟨_, code, rfl, compiled, told, rfl⟩
        rw [compiled]
        cases headed : config.header with
        | false => rfl
        | true =>
            dsimp only
            rw [if_pos rfl, if_pos rfl, (headerFor_eq_ok_iff nonempty).mpr ⟨told headed, rfl⟩]
            rfl

theorem names_of_render {body : Text} (rendered : workspace.render config path = .ok body) :
    (∃ name, FilePath.fileName? path = some name) ∧
      Go.packageName (FilePath.absolute workspace.directory path) ≠ [] := by
  obtain ⟨file, code, isRead, -, -, -⟩ := render_eq_ok_iff.mp rendered
  obtain ⟨place, content, located, -, -⟩ := read_eq_ok isRead
  obtain ⟨front, name, ends⟩ := FilePath.exists_endsWith_of_locate located nofun
  exact ⟨⟨name, ends.fileName?⟩, Go.packageName_ne_nil (ends.start_of_locate located)⟩

theorem render_headed (told : workspace.Told path) :
    workspace.render { config with header := true } path =
      (workspace.render { config with header := false } path).map
        (headerText config workspace.directory path ++ ·) := by
  unfold render
  cases isRead : workspace.read path with
  | error fault => rfl
  | ok file =>
      have front : workspace.headerFor config path =
          .ok (headerText config workspace.directory path) :=
        (headerFor_eq_ok_iff (path_nonempty_of_read isRead)).mpr ⟨told, rfl⟩
      have same : workspace.headerFor { config with header := true } path =
          workspace.headerFor config path := rfl
      simp only [renderText]
      cases (compilation config.runtime file.text).result with
      | error fault => rfl
      | ok code =>
          dsimp only
          rw [if_pos trivial, same, front]
          rfl

/-- A file with a header is the file without it behind five lines, and it cannot be
generated exactly if the file without it cannot, with the same fault.  The lines are the
same for all texts of the template.  They name the template and the import path as Go reads
literals, and the package by a word.  The system must be able to tell the path of the working
directory, unless the path of the template starts at the root. -/
theorem render_header_prefix (workspace : Workspace) (config : Config) (path : Text)
    (told : FilePath.isAbsolute path = true ∨ workspace.unnamed = none) :
    let bare := workspace.render { config with header := false } path
    let headed := workspace.render { config with header := true } path
    ∃ header : HeaderLines,
      (∀ body, bare = .ok body ↔ headed = .ok (header.text ++ body)) ∧
      (∀ fault, bare = .error fault ↔ headed = .error fault) ∧
      header.Tells ((FilePath.fileName? path).getD []) config.runtimeImport ∧
      ∀ body, bare = .ok body →
        (∃ name, FilePath.fileName? path = some name) ∧ header.package ≠ [] := by
  intro bare headed
  let header := HeaderLines.ofNames ((FilePath.fileName? path).getD [])
    (Go.packageName (FilePath.absolute workspace.directory path)) config.runtimeImport
  have spelled : header.text = headerText config workspace.directory path :=
    HeaderLines.text_ofNames _ _ _
  have headedEq : headed = bare.map (header.text ++ ·) := by
    rw [spelled]
    exact render_headed told
  refine ⟨header, ?_, ?_, HeaderLines.tells_ofNames _ _ Go.isBlank_of_mem_identifier,
    fun body rendered => names_of_render rendered⟩
  · intro body
    rw [headedEq]
    cases bare with
    | error fault => exact ⟨nofun, nofun⟩
    | ok other => simp [Except.map]
  · intro fault
    rw [headedEq]
    cases bare with
    | error other => simp [Except.map]
    | ok other => exact ⟨nofun, nofun⟩

def quotedTemplate : Workspace :=
  .ofTree (FileTree.empty.put ["a\"b.qtpl".toList] (.file 0o644 ByteArray.empty) (by decide)) []

theorem render_header_prefix_quoted :
    let path := "a\"b.qtpl".toList
    quotedTemplate.unnamed = none ∧
      quotedTemplate.render { Config.default with header := false } path = .ok [] ∧
      ∃ header : HeaderLines,
        quotedTemplate.render { Config.default with header := true } path = .ok header.text ∧
          header.Tells path Config.default.runtimeImport ∧ header.package ≠ [] := by
  intro path
  have bare : quotedTemplate.render { Config.default with header := false } path = .ok [] := by
    decide +kernel
  obtain ⟨header, headed, -, tells, named⟩ :=
    render_header_prefix quotedTemplate Config.default path (Or.inr rfl)
  have whole := (headed []).mp bare
  rw [List.append_nil] at whole
  exact ⟨rfl, bare, header, whole, tells, (named [] bare).2⟩

end Workspace

/-! ### The package clause -/

def packageOnLine? (line : Text) : Option Text :=
  if "package ".toList.isPrefixOf line then some (line.drop "package ".toList.length) else none

/-- The name in the first package clause of some code. -/
def packageOf? (code : Text) : Option Text :=
  (code.splitOn '\n').findSome? packageOnLine?

theorem splitOn_lines {lines : List Text} (unbroken : ∀ line ∈ lines, '\n' ∉ line)
    (rest : Text) :
    (lines.flatMap (fun line => line ++ ['\n']) ++ rest).splitOn '\n' =
      lines ++ rest.splitOn '\n' := by
  induction lines with
  | nil => rfl
  | cons line lines ih =>
      obtain ⟨free, others⟩ := List.forall_mem_cons.mp unbroken
      rw [List.flatMap_cons, List.append_assoc, List.append_assoc, List.singleton_append,
        List.splitOn_append_cons_self_of_not_mem free, ih others, List.cons_append]

theorem HeaderLines.Tells.packageOf?_text {header : HeaderLines} {fileName importPath : Text}
    (tells : header.Tells fileName importPath) (body : Text) :
    packageOf? (header.text ++ body) = some header.package := by
  have notice : packageOnLine? header.notice = none := by
    obtain ⟨rest, begins⟩ := tells.begins
    rw [← begins]
    rfl
  have blank : packageOnLine? [] = none := rfl
  have clause : packageOnLine? ("package ".toList ++ header.package) = some header.package := rfl
  rw [packageOf?, text, splitOn_lines tells.unbroken]
  unfold lines
  rw [List.cons_append, List.findSome?_cons_of_isNone (by rw [notice]; rfl), List.cons_append,
    List.findSome?_cons_of_isNone (by rw [blank]; rfl), List.cons_append,
    List.findSome?_cons_of_isSome (by rw [clause]; rfl), clause]

namespace Workspace

variable {workspace : Workspace} {config : Config} {path text : Text}

theorem packageOf?_of_render (headed : config.header = true)
    (rendered : workspace.render config path = .ok text) :
    packageOf? text = some (Go.packageName (FilePath.absolute workspace.directory path)) := by
  obtain ⟨file, body, -, -, -, rfl⟩ := render_eq_ok_iff.mp rendered
  have oneWord : ∀ c ∈ Go.packageName (FilePath.absolute workspace.directory path),
      Text.isBlank c = false := Go.isBlank_of_mem_identifier
  have tells := HeaderLines.tells_ofNames ((FilePath.fileName? path).getD [])
    config.runtimeImport oneWord
  rw [frontMatter, if_pos headed, headerText, ← HeaderLines.text_ofNames]
  exact tells.packageOf?_text body

/-- A generated file with a header has a package clause.  Go accepts the name in it exactly if
the directory of the template, by the spelling of its path, is called so that a legal name is
made of it; where there is no such directory, the name is that of the main package. -/
theorem render_names_package_iff (headed : config.header = true)
    (rendered : workspace.render config path = .ok text) :
    ∃ name, packageOf? text = some name ∧
      (Go.IsPackageName name ↔ Go.NamesPackage
        ((Go.directoryName? (FilePath.absolute workspace.directory path)).getD "main".toList)) :=
  ⟨_, packageOf?_of_render headed rendered, Go.isPackageName_identifier_iff⟩

def numbered : Workspace :=
  .ofTree
    ((((FileTree.empty.put ["2d-ä".toList] .directory (by decide)).put
      ["2d-ä".toList, "t.qtpl".toList] (.file 0o644 ByteArray.empty) (by decide)).put
      ["a½".toList] .directory (by decide)).put
      ["a½".toList, "t.qtpl".toList] (.file 0o644 ByteArray.empty) (by decide))
    []

/-- A digit at the start and a character that is replaced make a legal name. -/
theorem render_names_package_of_digit :
    let path := "2d-ä/t.qtpl".toList
    let text := ("// Code generated by qtc from \"t.qtpl\". DO NOT EDIT.\n\npackage _2d_ä\n\n" ++
      "import \"github.com/valyala/quicktemplate\"\n").toList
    Config.default.header = true ∧ numbered.render Config.default path = .ok text ∧
      packageOf? text = some "_2d_ä".toList ∧ Go.IsPackageName "_2d_ä".toList := by
  intro path text
  have headed : Config.default.header = true := rfl
  have rendered : numbered.render Config.default path = .ok text := by decide +kernel
  have digit : '2'.isDigit = true := rfl
  have letter (c : Char) (member : c ∈ ['d', 'ä']) : Text.isLetter c = true := by
    revert c
    exact List.forall_mem_cons.mpr ⟨rfl, List.forall_mem_singleton.mpr (by decide +kernel)⟩
  have replaced : Text.isAlphanumeric '-' = false := rfl
  have names : Go.NamesPackage "2d-ä".toList := by
    refine ⟨by decide, ?_, ?_, by decide, fun c lone => ?_⟩
    · rintro c ⟨⟩ -
      exact Or.inr digit
    · simp [replaced, letter]
    · exact absurd (congrArg List.length lone) (by simp)
  have made : Go.packageName (FilePath.absolute numbered.directory path) = "_2d_ä".toList := by
    decide +kernel
  have clause : packageOf? text = some "_2d_ä".toList := made ▸ packageOf?_of_render headed rendered
  obtain ⟨name, isName, legal_iff⟩ := render_names_package_iff headed rendered
  obtain rfl := Option.some.inj (isName.symm.trans clause)
  exact ⟨headed, rendered, clause, legal_iff.mpr names⟩

/-- The fraction counts as a number and is kept, though no identifier of Go has one. -/
theorem render_names_no_package :
    let path := "a½/t.qtpl".toList
    let text := ("// Code generated by qtc from \"t.qtpl\". DO NOT EDIT.\n\npackage a½\n\n" ++
      "import \"github.com/valyala/quicktemplate\"\n").toList
    Config.default.header = true ∧ numbered.render Config.default path = .ok text ∧
      packageOf? text = some "a½".toList ∧ ¬ Go.IsPackageName "a½".toList := by
  intro path text
  have rendered : numbered.render Config.default path = .ok text := by decide +kernel
  have made : Go.packageName (FilePath.absolute numbered.directory path) = "a½".toList := by
    decide +kernel
  refine ⟨rfl, rendered, made ▸ packageOf?_of_render rfl rendered, fun legal => ?_⟩
  exact absurd (legal.continues '½' (by decide)) (by decide +kernel)

end Workspace
end Stencil
