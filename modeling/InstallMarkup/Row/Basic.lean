import InstallMarkup.Identifier.Basic
import InstallMarkup.Row.Table
import InstallMarkup.Search.Flags

/-!
# Rows

A row belongs to one table and holds the columns of that table. Most tables name their rows by an
identifier; relations and permission grants have none.
-/

namespace InstallMarkup

/-! ## Column domains -/

/-- The hive of the registry that a key lies in. -/
inductive RegistryRoot where
  | classesRoot
  | currentUser
  | localMachine
  | users
  deriving DecidableEq, Repr, Inhabited

namespace RegistryRoot

def all : List RegistryRoot := [classesRoot, currentUser, localMachine, users]

/-- The hive as a value of a document. -/
def name : RegistryRoot → String
  | classesRoot => "ClassesRoot"
  | currentUser => "CurrentUser"
  | localMachine => "LocalMachine"
  | users => "Users"

/-- The hive as authors write it. -/
def markup : RegistryRoot → String
  | classesRoot => "HKCR"
  | currentUser => "HKCU"
  | localMachine => "HKLM"
  | users => "HKU"

/-- The integer that a column holds for the hive. -/
def code : RegistryRoot → Int32
  | classesRoot => 0
  | currentUser => 1
  | localMachine => 2
  | users => 3

/-- The hive that an author wrote. -/
def ofMarkup? (s : String) : Option RegistryRoot :=
  all.find? (·.markup == s)

end RegistryRoot

/-- How a search depends on the one that it follows. -/
inductive RelationStrength where
  /-- It runs after the other, whatever the other finds. -/
  | alwaysAfter
  deriving DecidableEq, Repr, Inhabited

namespace RelationStrength

def all : List RelationStrength := [alwaysAfter]

def name : RelationStrength → String
  | alwaysAfter => "AlwaysAfter"

/-- The integer that a column holds for the strength. -/
def code : RelationStrength → Int32
  | alwaysAfter => 2

end RelationStrength

/-! ## Rows by table -/

/-- The part that all searches have in common. -/
structure SearchRow where
  id : Identifier
  variableName : String
  condition : Option String := none
  deriving DecidableEq, Repr

/-- An ordering between two searches: the child runs after the parent. -/
structure SearchEdge where
  child : Identifier
  parent : Identifier
  strength : RelationStrength := .alwaysAfter
  deriving DecidableEq, Repr

/-- A search for a file or a directory. -/
structure FileSearchRow where
  id : Identifier
  path : String
  flags : FileSearchFlags
  deriving DecidableEq, Repr

/-- A search for a component. -/
structure ComponentSearchRow where
  id : Identifier
  componentGuid : String
  productCode : Option String := none
  flags : ComponentSearchFlags
  deriving DecidableEq, Repr

/-- A search for a product, by its own code or by that of its upgrades. -/
structure ProductSearchRow where
  id : Identifier
  code : String
  flags : ProductSearchFlags
  deriving DecidableEq, Repr

/-- A search in the registry. -/
structure RegistrySearchRow where
  id : Identifier
  root : RegistryRoot
  key : String
  value : Option String := none
  flags : RegistrySearchFlags
  deriving DecidableEq, Repr

/-- Rights of a user on an object of a component. -/
structure PermissionGrantRow where
  objectId : String
  /-- The table that the object belongs to. -/
  objectTable : String
  domain : Option String := none
  user : String
  permission : UInt32
  componentId : String
  deriving DecidableEq, Repr

/-- A registry value of a component. -/
structure RegistryRow where
  id : Identifier
  root : RegistryRoot
  key : String
  name : Option String := none
  value : Option String := none
  componentId : String
  deriving DecidableEq, Repr

/-- A row of one of the tables. -/
inductive Row where
  | search (row : SearchRow)
  | searchRelation (edge : SearchEdge)
  | fileSearch (row : FileSearchRow)
  | componentSearch (row : ComponentSearchRow)
  | productSearch (row : ProductSearchRow)
  | registrySearch (row : RegistrySearchRow)
  | permissionGrant (row : PermissionGrantRow)
  | registry (row : RegistryRow)
  deriving DecidableEq, Repr

namespace Row

/-- The table that the row belongs to. -/
def table : Row → Table
  | search _ => .search
  | searchRelation _ => .searchRelation
  | fileSearch _ => .fileSearch
  | componentSearch _ => .componentSearch
  | productSearch _ => .productSearch
  | registrySearch _ => .registrySearch
  | permissionGrant _ => .permissionGrant
  | registry _ => .registry

/-- The identifier that names the row within its table. -/
def key? : Row → Option Identifier
  | search r => some r.id
  | fileSearch r => some r.id
  | componentSearch r => some r.id
  | productSearch r => some r.id
  | registrySearch r => some r.id
  | registry r => some r.id
  | searchRelation _ => none
  | permissionGrant _ => none

end Row

end InstallMarkup
