import InstallMarkup.Search.Element

/-!
# Families of computed identifiers

Every kind of node whose identifier can be computed is a family. A family hashes a fixed number of
fields, and its tag keeps families with equal fields apart: a directory search and a file search on
the same path get different identifiers.
-/

namespace InstallMarkup

/-- The kinds of nodes that get computed identifiers. -/
inductive IdentifierFamily where
  /-- A search: its variable, condition and predecessor, then the fields of its kind. -/
  | search (kind : SearchKind)
  /-- A registry value: its component, root, key and name. -/
  | registryValue
  deriving DecidableEq, Repr

namespace IdentifierFamily

def all : List IdentifierFamily :=
  SearchKind.all.map search ++ [registryValue]

/-- The element or entity that the family is named for. -/
def name : IdentifierFamily → String
  | search kind => kind.elementName
  | registryValue => "RegistryValue"

/-- The three letters that open every identifier of the family. -/
def tag : IdentifierFamily → String
  | search .component => "wcs"
  | search .directory => "wds"
  | search .file => "wfs"
  | search .product => "wps"
  | search .registry => "wrs"
  | registryValue => "reg"

/-- How many fields the family hashes. -/
def fieldCount : IdentifierFamily → Nat
  | search .component => 6
  | search .directory => 5
  | search .file => 5
  | search .product => 5
  | search .registry => 7
  | registryValue => 4

end IdentifierFamily

end InstallMarkup
