import InstallMarkup.Document.Config
import InstallMarkup.Document.Markup
import InstallMarkup.Document.Yaml
import InstallMarkup.Files
import InstallMarkup.Json.Reader

/-!
# Document files

Units and configurations as files. A configuration is YAML; a unit is JSON if the name of its file
ends in `.json`, and YAML otherwise. A configuration is used only if its action prefix is legal.
-/

namespace InstallMarkup

/-! ## Formats -/

/-- Whether the file at a path is taken for JSON: its extension says so in any case. -/
def isJsonPath (path : String) : Bool :=
  (extension? path).any fun extension => extension.map Char.toLower == "json"

/-! ## Loading -/

/-- Why a document could not be loaded. -/
inductive LoadFault where
  | unreadable (path : String) (failure : ReadFailure)
  /-- The text is no document of the kind that is wanted. -/
  | malformed (path : String)
  | illegalPrefix (actionPrefix : String)
  deriving DecidableEq, Repr

def LoadFault.message : LoadFault → String
  | unreadable path failure => s!"Failed to read {path}: " ++ failure.message
  | malformed path => s!"Failed to parse {path}"
  | illegalPrefix actionPrefix =>
    s!"action_prefix '{actionPrefix}' must contain only letters, digits and underscores"

/-- Reads the text of a file as a document. -/
def Files.load {α : Type} (files : Files) (read : String → Option α) (path : String) :
    Except LoadFault α :=
  match files.text path with
  | .error failure => .error (.unreadable path failure)
  | .ok text =>
    match read text with
    | some value => .ok value
    | none => .error (.malformed path)

namespace Config

/-- The configuration that a YAML text holds. -/
def ofYaml? (text : String) : Option Config :=
  (Yaml.Value.ofText? .config text).bind Config.ofDocument?

/-- The configuration in a file. -/
def load (files : Files) (path : String) : Except LoadFault Config :=
  match files.load ofYaml? path with
  | .ok config =>
    if config.hasLegalPrefix then .ok config else .error (.illegalPrefix config.actionPrefix)
  | .error fault => .error fault

/-- The environment variable that names the file of the configuration. -/
def environmentVariable : String := "UTILC_CONFIG"

/-- The configuration in the file that the environment names, or the default one if it names
none. -/
def loadNamed (files : Files) (named : Option String) : Except LoadFault Config :=
  match named with
  | none => .ok {}
  | some path => if path.isEmpty then .ok {} else load files path

end Config

namespace CompilationUnit

/-- The unit that the text of the file at a path holds. -/
def ofFileText? (path text : String) : Option CompilationUnit :=
  if isJsonPath path then (Json.ofText? text).bind CompilationUnit.ofDocument?
  else (Yaml.Value.ofText? .unit text).bind CompilationUnit.ofDocument?

/-- The unit in a file. -/
def load (files : Files) (path : String) : Except LoadFault CompilationUnit :=
  files.load (ofFileText? path) path

end CompilationUnit

end InstallMarkup
