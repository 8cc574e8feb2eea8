/-!
# Tables

The tables of the linker that rows are written to.
-/

namespace InstallMarkup

/-- A table of the linker. -/
inductive Table where
  | search
  | searchRelation
  | fileSearch
  | componentSearch
  | productSearch
  | registrySearch
  | permissionGrant
  | registry
  deriving DecidableEq, Repr, Inhabited

namespace Table

/-- The tables in the order that references are sorted by. -/
def all : List Table :=
  [search, searchRelation, fileSearch, componentSearch, productSearch, registrySearch,
    permissionGrant, registry]

/-- The tables in the order of their names. -/
def byName : List Table :=
  [componentSearch, fileSearch, permissionGrant, productSearch, registry, registrySearch, search,
    searchRelation]

def name : Table → String
  | search => "Search"
  | searchRelation => "SearchRelation"
  | fileSearch => "FileSearch"
  | componentSearch => "ComponentSearch"
  | productSearch => "ProductSearch"
  | registrySearch => "RegistrySearch"
  | permissionGrant => "PermissionGrant"
  | registry => "Registry"

/-- The place of the table in the order of references. -/
def rank : Table → Nat
  | search => 0
  | searchRelation => 1
  | fileSearch => 2
  | componentSearch => 3
  | productSearch => 4
  | registrySearch => 5
  | permissionGrant => 6
  | registry => 7

end Table

end InstallMarkup
