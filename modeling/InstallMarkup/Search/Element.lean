/-!
# The five searches

A search looks for something on the machine before installation and stores what it finds in a
variable. The kinds differ in what they look for.
-/

namespace InstallMarkup

/-- What a search looks for. -/
inductive SearchKind where
  /-- An installed component. -/
  | component
  /-- A directory. -/
  | directory
  /-- A file. -/
  | file
  /-- An installed product. -/
  | product
  /-- A registry key or value. -/
  | registry
  deriving DecidableEq, Repr, Inhabited

namespace SearchKind

def all : List SearchKind := [component, directory, file, product, registry]

/-- The name of the element that states a search of this kind. -/
def elementName : SearchKind → String
  | component => "ComponentSearch"
  | directory => "DirectorySearch"
  | file => "FileSearch"
  | product => "ProductSearch"
  | registry => "RegistrySearch"

/-- The name of the element that refers to a search of this kind stated elsewhere. -/
def referenceName (kind : SearchKind) : String :=
  kind.elementName ++ "Ref"

end SearchKind

end InstallMarkup
