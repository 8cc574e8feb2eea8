import InstallMarkup.Markup.Element

/-!
# Host elements

An extension element stands inside an element of the host vocabulary. The host walk hands over the
kind of that element and the key values it collected for it (the id of the enclosing component, of
the file, and so on).
-/

namespace InstallMarkup

/-- The host elements that extension elements know, and every other one by its name. -/
inductive HostKind where
  | bundle
  | fragment
  | component
  | createFolder
  | file
  | registry
  | registryValue
  | serviceInstall
  | other (name : String)
  deriving DecidableEq, Repr, Inhabited

namespace HostKind

/-- The kinds that have a constructor of their own. -/
def known : List HostKind :=
  [bundle, fragment, component, createFolder, file, registry, registryValue, serviceInstall]

/-- The element name of the host. -/
def name : HostKind → String
  | bundle => "Bundle"
  | fragment => "Fragment"
  | component => "Component"
  | createFolder => "CreateFolder"
  | file => "File"
  | registry => "Registry"
  | registryValue => "RegistryValue"
  | serviceInstall => "ServiceInstall"
  | other name => name

/-- Whether searches may stand directly inside: only a bundle and a fragment hold them. -/
def holdsSearches : HostKind → Bool
  | bundle => true
  | fragment => true
  | _ => false

end HostKind

/-- A host element: its kind and the key values the host walk collected for it. -/
structure Host where
  kind : HostKind
  values : List (String × String) := []
  deriving DecidableEq, Repr, Inhabited

namespace Host

/-- The key of the enclosing component's id. -/
def componentId : String := "ComponentId"
/-- The key of the id of the directory that a folder is created in. -/
def directoryId : String := "DirectoryId"
/-- The key of the enclosing file's id. -/
def fileId : String := "FileId"
/-- The key of the enclosing registry key's or value's id. -/
def registryId : String := "RegistryId"
/-- The key of the enclosing service's id. -/
def serviceInstallId : String := "ServiceInstallId"

/-- The value under `key`, if the host walk supplied one. -/
def value? (h : Host) (key : String) : Option String :=
  h.values.lookup key

/-- Sets the value under `key`, dropping the one that was there. -/
def withValue (h : Host) (key value : String) : Host :=
  { h with values := h.values.filter (·.1 != key) ++ [(key, value)] }

end Host

end InstallMarkup
