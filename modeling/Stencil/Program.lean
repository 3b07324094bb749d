/-
A run of the program: from the arguments and a tree of files to an exit code, the
texts that are written, and the tree that is left.

Options are read from left to right, and the first argument that fails or asks for
help decides.  A value may be joined to its option by an equals sign or follow as
the next argument.  A value that follows is taken up when the next option comes or
the line ends, so that an unknown argument behind it is reported first.
-/

import Stencil.Generation

namespace Stencil

inductive UsageFault where
  | argumentConflict
  | invalidValue
  | tooManyValues
  | unknownArgument
deriving DecidableEq

inductive ValueOption where
  | dir
  | file
  | ext
  | config
deriving DecidableEq

namespace ValueOption

def name : ValueOption → Text
  | dir => "dir".toList
  | file => "file".toList
  | ext => "ext".toList
  | config => "config".toList

def isPath : ValueOption → Bool
  | ext => false
  | _ => true

def all : List ValueOption := [dir, file, ext, config]

def ofName? (text : Text) : Option ValueOption :=
  all.find? fun option => decide (option.name = text)

end ValueOption

structure Options where
  dir : Option Text
  file : Option Text
  ext : Option Text
  config : Option Text
  noHeader : Bool
deriving DecidableEq

namespace Options

def none : Options := ⟨.none, .none, .none, .none, false⟩

def value? (options : Options) : ValueOption → Option Text
  | .dir => options.dir
  | .file => options.file
  | .ext => options.ext
  | .config => options.config

def set (options : Options) (value : Text) : ValueOption → Options
  | .dir => { options with dir := some value }
  | .file => { options with file := some value }
  | .ext => { options with ext := some value }
  | .config => { options with config := some value }

def defaultDirectory : Text := ".".toList

def directory (options : Options) : Text := options.dir.getD defaultDirectory

def take (options : Options) (option : ValueOption) (value : Text) :
    Except UsageFault Options :=
  if (options.value? option).isSome then .error .argumentConflict
  else if option.isPath && value.isEmpty then .error .invalidValue
  else .ok (options.set value option)

end Options

/-- An option whose value is still to be taken up: it may not have come yet. -/
structure Pending where
  option : ValueOption
  value : Option Text

inductive Request where
  | act (options : Options)
  | help
  | version
deriving DecidableEq

def Options.settle (options : Options) : Option Pending → Except UsageFault Options
  | .none => .ok options
  | .some ⟨_, .none⟩ => .error .invalidValue
  | .some ⟨option, .some value⟩ => options.take option value

def Options.conclude (options : Options) (pending : Option Pending) :
    Except UsageFault Request :=
  match options.settle pending with
  | .error fault => .error fault
  | .ok options =>
      if options.dir.isSome && options.file.isSome then .error .argumentConflict
      else .ok (.act options)

def longOption? : Text → Option (Text × Option Text)
  | '-' :: '-' :: text =>
      match text.dropWhile (· != '=') with
      | [] => some (text, none)
      | _ :: value => some (text.takeWhile (· != '='), some value)
  | _ => none

def shortOptions? : Text → Option (Char × Text)
  | '-' :: letter :: more => some (letter, more)
  | _ => none

def readArguments (options : Options) (pending : Option Pending) :
    List Text → Except UsageFault Request
  | [] => options.conclude pending
  | argument :: rest =>
      if argument = "--".toList then
        if rest.isEmpty then options.conclude pending else .error .unknownArgument
      else
        match longOption? argument with
        | some (name, joined) =>
            match ValueOption.ofName? name, joined with
            | some option, none =>
                match options.settle pending with
                | .error fault => .error fault
                | .ok options => readArguments options (some ⟨option, none⟩) rest
            | some option, some value =>
                match options.settle pending with
                | .error fault => .error fault
                | .ok options =>
                    match options.take option value with
                    | .error fault => .error fault
                    | .ok options => readArguments options none rest
            | none, joined =>
                if ["no-header".toList, "help".toList, "version".toList].contains name then
                  if joined.isSome then
                    .error .tooManyValues
                  else
                    match options.settle pending with
                    | .error fault => .error fault
                    | .ok options =>
                        if name = "help".toList then .ok .help
                        else if name = "version".toList then .ok .version
                        else if options.noHeader then .error .argumentConflict
                        else readArguments { options with noHeader := true } none rest
                else
                  .error .unknownArgument
        | none =>
            match shortOptions? argument with
            | some (letter, _) =>
                if letter = 'h' ∨ letter = 'V' then
                  match options.settle pending with
                  | .error fault => .error fault
                  | .ok _ => .ok (if letter = 'h' then .help else .version)
                else
                  .error .unknownArgument
            | none =>
                match pending with
                | some ⟨option, none⟩ =>
                    readArguments options (some ⟨option, some argument⟩) rest
                | _ => .error .unknownArgument

def Request.ofArguments (arguments : List Text) : Except UsageFault Request :=
  readArguments Options.none none arguments

/-- The settings in force: those of the named file, or else of the home directory, or
else the defaults, changed by the options.  The extension is taken without the dots
at its start, and the header can only be switched off. -/
def Options.effective (options : Options) (workspace : Workspace) (home : Option Text) :
    Except ConfigFault Config :=
  let chosen :=
    match options.config with
    | some path => workspace.loadConfig path
    | .none => .ok ((home.bind workspace.homeConfig?).getD Config.default)
  chosen.map fun config =>
    { config with
      extension :=
        match options.ext with
        | some ext => ext.dropWhile (· == '.')
        | .none => config.extension
      header := config.header && !options.noHeader }

def helpText : Text :=
  "Compile templates into Go code

Usage: qtc [OPTIONS]

Options:
      --dir <DIR>        Directory to search recursively for templates [default: .]
      --file <FILE>      Compile a single template instead of a directory
      --ext <EXT>        Template file extension (overrides config)
      --config <CONFIG>  Config file to use instead of ~/.qtc/config.yaml
      --no-header        Do not prepend the package header to generated files
  -h, --help             Print help
  -V, --version          Print version
".toList

def versionText : Text := "qtc 0.1.0\n".toList

/-! ### Runs -/

/-- What a run finds: the files, seen from its working directory, and the home directory;
and what the reader of YAML says of texts that it does not accept. -/
structure Environment where
  workspace : Workspace
  home : Option Text
  complaint : Text → Text

/-- What a run does: it refuses its arguments, shows a text, or works on the files.
Work leaves a tree and tells what happened, the failure last. -/
inductive Run where
  | refused (fault : UsageFault)
  | shown (text : Text)
  | worked (failed : Bool) (tree : FileTree) (events : List Event)

namespace Run

/-- The program ends while it holds the fault, so that a temporary file stays. -/
def ofReport {α : Type} (report : Report α) : Run :=
  match report.result with
  | .ok _ => .worked false report.tree report.events
  | .error fault => .worked true report.heldTree (report.events ++ [.failed fault.chain])

def act (environment : Environment) (options : Options) : Run :=
  let workspace := environment.workspace
  match options.effective workspace environment.home with
  | .error fault =>
      .worked true workspace.tree [.failed (fault.chain environment.complaint)]
  | .ok config =>
      match options.file with
      | some path => ofReport (workspace.compileFile config path)
      | none => ofReport (workspace.compileDirectory config options.directory)

def ofArguments (environment : Environment) (arguments : List Text) : Run :=
  match Request.ofArguments arguments with
  | .error fault => .refused fault
  | .ok .help => .shown helpText
  | .ok .version => .shown versionText
  | .ok (.act options) => act environment options

/-- The exit code: 2 for refused arguments, 1 for work that failed. -/
def exitCode : Run → Nat
  | refused _ => 2
  | shown _ => 0
  | worked failed _ _ => if failed then 1 else 0

def events : Run → List Event
  | worked _ _ events => events
  | _ => []

def tree (environment : Environment) : Run → FileTree
  | worked _ tree _ => tree
  | _ => environment.workspace.tree

end Run
end Stencil
