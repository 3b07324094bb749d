/-
The configuration of the compiler.

A configuration names the package with the writer and its import path, the
extension of template files, and says whether generated files get a header.  A
configuration file is a mapping of these four keys; a key that is missing keeps
its default, other keys are passed over, and none of the four may occur twice.

A file that is named must be readable and well formed.  The file in the home
directory may be missing or malformed, and then counts for nothing.  What the reader
of YAML says of a malformed text is left open: a fault keeps the text, and its message
takes the words for it.
-/

import Stencil.Files.Workspace
import Stencil.Go
import Stencil.Yaml.Document

namespace Stencil

structure Config where
  runtime : Text
  runtimeImport : Text
  extension : Text
  /-- Whether generated files start with a notice, a package clause and an import. -/
  header : Bool
deriving DecidableEq

namespace Config

def default : Config where
  runtime := Go.defaultRuntime
  runtimeImport := "github.com/valyala/quicktemplate".toList
  extension := "qtpl".toList
  header := true

inductive Key where
  | runtime
  | runtimeImport
  | extension
  | header
deriving DecidableEq

namespace Key

def name : Key → Text
  | runtime => "runtime".toList
  | runtimeImport => "runtime_import".toList
  | extension => "extension".toList
  | header => "header".toList

def all : List Key := [runtime, runtimeImport, extension, header]

def ofName? (text : Text) : Option Key :=
  all.find? fun key => decide (key.name = text)

end Key

def flagTag : Text := "tag:yaml.org,2002:bool".toList

/-- The truth value that a scalar stands for.  The words for the two values must be
written plainly, or as a literal block with the tag of truth values. -/
def flag? (scalar : Yaml.Scalar) : Option Bool :=
  if scalar.style = .plain ∨ (scalar.style = .literal ∧ scalar.tag = some flagTag) then
    if ["true".toList, "True".toList, "TRUE".toList].contains scalar.text then some true
    else if ["false".toList, "False".toList, "FALSE".toList].contains scalar.text then some false
    else none
  else
    none

def set? (config : Config) (key : Key) (value : Yaml.Scalar) : Option Config :=
  match key with
  | .runtime => some { config with runtime := value.text }
  | .runtimeImport => some { config with runtimeImport := value.text }
  | .extension => some { config with extension := value.text }
  | .header => (flag? value).map fun flag => { config with header := flag }

/-- Takes the settings from the pairs of a mapping in a document, of which those in
`seen` have already occurred. -/
def ofPairs? (document : Yaml.Document) (config : Config) (seen : List Key) :
    List (Yaml.Node × Yaml.Node) → Option Config
  | [] => some config
  | (name, value) :: rest =>
      match document.scalar? name with
      | none => none
      | some name =>
          match Key.ofName? name.text with
          | none => ofPairs? document config seen rest
          | some key =>
              if seen.contains key then
                none
              else
                match (document.scalar? value).bind (config.set? key) with
                | none => none
                | some config => ofPairs? document config (key :: seen) rest

/-- The configuration that a document stands for.  A missing value stands for an empty
mapping. -/
def ofDocument? (document : Yaml.Document) : Option Config :=
  match document.root with
  | none => some default
  | some (.scalar scalar) =>
      if scalar.style = .plain ∧ scalar.text = [] then some default else none
  | some (.mapping pairs) => ofPairs? document default [] pairs
  | some _ => none

def ofText? (text : Text) : Option Config :=
  (Yaml.read? text).bind ofDocument?

def render (config : Config) : Key → Text
  | .runtime => config.runtime
  | .runtimeImport => config.runtimeImport
  | .extension => config.extension
  | .header => if config.header then "true".toList else "false".toList

def toText (config : Config) : Text :=
  Key.all.flatMap fun key => key.name ++ ": ".toList ++ config.render key ++ ['\n']

end Config

/-! ### Files -/

inductive ConfigFault where
  | read (path : Text) (fault : ReadFault)
  | parse (path text : Text)
deriving DecidableEq

def ConfigFault.message : ConfigFault → Text
  | .read path _ => "cannot read config ".toList ++ path
  | .parse path _ => "invalid config ".toList ++ path

def ConfigFault.chain (complaint : Text → Text) (fault : ConfigFault) : Text :=
  fault.message ++ ": ".toList ++
    match fault with
    | .read _ cause => cause.message
    | .parse _ text => complaint text

namespace Workspace

def loadConfig (workspace : Workspace) (path : Text) : Except ConfigFault Config :=
  match workspace.read path with
  | .error fault => .error (.read path fault)
  | .ok file =>
      match Config.ofText? file.text with
      | none => .error (.parse path file.text)
      | some config => .ok config

def homeConfigPath (home : Text) : Text :=
  FilePath.extend home [".qtc".toList, "config.yaml".toList]

/-- The configuration in a home directory, if there is a well formed one. -/
def homeConfig? (workspace : Workspace) (home : Text) : Option Config :=
  (workspace.loadConfig (homeConfigPath home)).toOption

end Workspace
end Stencil
