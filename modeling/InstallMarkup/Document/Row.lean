import InstallMarkup.Document.Value
import InstallMarkup.Row.Columns

/-!
# Rows as documents

A row is written as an object with one member, named by its table, that holds the columns by name.
Flag sets are written by the names of their flags.
-/

namespace InstallMarkup

variable {ν : Type} [DocumentValue ν]

/-! ## Column values -/

namespace Column

def toJson : Column → Json
  | text s => .string s
  | integer n => .integer n.toInt
  | null => .null

def ofDocument? (v : ν) : Option Column :=
  match text? v with
  | some s => some (text s)
  | none =>
    match integer? v with
    | some n => if -0x80000000 ≤ n ∧ n < 0x80000000 then some (integer (Int32.ofInt n)) else none
    | none => if isAbsent? v == some true then some null else none

end Column

/-- A number of 32 bits. -/
def word32? (v : ν) : Option UInt32 :=
  match integer? v with
  | some n => if 0 ≤ n ∧ n < UInt32.size then some (UInt32.ofNat n.toNat) else none
  | none => none

namespace Identifier

def toJson (i : Identifier) : Json := .string i.text

def ofDocument? (v : ν) : Option Identifier := (text? v).map Identifier.mk

end Identifier

namespace FlagSet

variable {flags : List Flag}

def toJson (s : FlagSet flags) : Json := .string s.text

def ofDocument? (v : ν) : Option (FlagSet flags) := (text? v).bind FlagSet.ofText?

end FlagSet

namespace RegistryRoot

def toJson (root : RegistryRoot) : Json := .string root.name

def ofDocument? (v : ν) : Option RegistryRoot := unitVariant? all RegistryRoot.name v

end RegistryRoot

namespace Table

def toJson (t : Table) : Json := .string t.name

def ofDocument? (v : ν) : Option Table := unitVariant? all Table.name v

end Table

/-! ## Rows by table -/

namespace SearchRow

def toJson (r : SearchRow) : Json :=
  .object [("id", r.id.toJson), ("variable", .string r.variableName),
    ("condition", .optional r.condition)]

def ofDocument? (v : ν) : Option SearchRow := do
  let r ← record? ["id", "variable", "condition"] v
  let id ← r.required "id" Identifier.ofDocument?
  let variableName ← r.required "variable" text?
  let condition ← r.optional "condition" text?
  some { id, variableName, condition }

end SearchRow

namespace SearchEdge

def toJson (e : SearchEdge) : Json :=
  .object [("child_id", e.child.toJson), ("parent_id", e.parent.toJson),
    ("strength", .string e.strength.name)]

def ofDocument? (v : ν) : Option SearchEdge := do
  let r ← record? ["child_id", "parent_id", "strength"] v
  let child ← r.required "child_id" Identifier.ofDocument?
  let parent ← r.required "parent_id" Identifier.ofDocument?
  let strength ← r.required "strength" (unitVariant? RelationStrength.all RelationStrength.name)
  some { child, parent, strength }

end SearchEdge

namespace FileSearchRow

def toJson (r : FileSearchRow) : Json :=
  .object [("id", r.id.toJson), ("path", .string r.path), ("attributes", r.flags.toJson)]

def ofDocument? (v : ν) : Option FileSearchRow := do
  let r ← record? ["id", "path", "attributes"] v
  let id ← r.required "id" Identifier.ofDocument?
  let path ← r.required "path" text?
  let flags ← r.required "attributes" FlagSet.ofDocument?
  some { id, path, flags }

end FileSearchRow

namespace ComponentSearchRow

def toJson (r : ComponentSearchRow) : Json :=
  .object [("id", r.id.toJson), ("component_guid", .string r.componentGuid),
    ("product_code", .optional r.productCode), ("attributes", r.flags.toJson)]

def ofDocument? (v : ν) : Option ComponentSearchRow := do
  let r ← record? ["id", "component_guid", "product_code", "attributes"] v
  let id ← r.required "id" Identifier.ofDocument?
  let componentGuid ← r.required "component_guid" text?
  let productCode ← r.optional "product_code" text?
  let flags ← r.required "attributes" FlagSet.ofDocument?
  some { id, componentGuid, productCode, flags }

end ComponentSearchRow

namespace ProductSearchRow

def toJson (r : ProductSearchRow) : Json :=
  .object [("id", r.id.toJson), ("code", .string r.code), ("attributes", r.flags.toJson)]

def ofDocument? (v : ν) : Option ProductSearchRow := do
  let r ← record? ["id", "code", "attributes"] v
  let id ← r.required "id" Identifier.ofDocument?
  let code ← r.required "code" text?
  let flags ← r.required "attributes" FlagSet.ofDocument?
  some { id, code, flags }

end ProductSearchRow

namespace RegistrySearchRow

def toJson (r : RegistrySearchRow) : Json :=
  .object [("id", r.id.toJson), ("root", r.root.toJson), ("key", .string r.key),
    ("value", .optional r.value), ("attributes", r.flags.toJson)]

def ofDocument? (v : ν) : Option RegistrySearchRow := do
  let r ← record? ["id", "root", "key", "value", "attributes"] v
  let id ← r.required "id" Identifier.ofDocument?
  let root ← r.required "root" RegistryRoot.ofDocument?
  let key ← r.required "key" text?
  let value ← r.optional "value" text?
  let flags ← r.required "attributes" FlagSet.ofDocument?
  some { id, root, key, value, flags }

end RegistrySearchRow

namespace PermissionGrantRow

def toJson (r : PermissionGrantRow) : Json :=
  .object [("object_id", .string r.objectId), ("object_table", .string r.objectTable),
    ("domain", .optional r.domain), ("user", .string r.user),
    ("permission", .natural r.permission.toNat), ("component_id", .string r.componentId)]

def ofDocument? (v : ν) : Option PermissionGrantRow := do
  let r ← record?
    ["object_id", "object_table", "domain", "user", "permission", "component_id"] v
  let objectId ← r.required "object_id" text?
  let objectTable ← r.required "object_table" text?
  let domain ← r.optional "domain" text?
  let user ← r.required "user" text?
  let permission ← r.required "permission" word32?
  let componentId ← r.required "component_id" text?
  some { objectId, objectTable, domain, user, permission, componentId }

end PermissionGrantRow

namespace RegistryRow

def toJson (r : RegistryRow) : Json :=
  .object [("id", r.id.toJson), ("root", r.root.toJson), ("key", .string r.key),
    ("name", .optional r.name), ("value", .optional r.value),
    ("component_id", .string r.componentId)]

def ofDocument? (v : ν) : Option RegistryRow := do
  let r ← record? ["id", "root", "key", "name", "value", "component_id"] v
  let id ← r.required "id" Identifier.ofDocument?
  let root ← r.required "root" RegistryRoot.ofDocument?
  let key ← r.required "key" text?
  let name ← r.optional "name" text?
  let value ← r.optional "value" text?
  let componentId ← r.required "component_id" text?
  some { id, root, key, name, value, componentId }

end RegistryRow

/-! ## Rows -/

namespace Row

/-- The columns of the row by name. -/
def columnsJson : Row → Json
  | search r => r.toJson
  | searchRelation e => e.toJson
  | fileSearch r => r.toJson
  | componentSearch r => r.toJson
  | productSearch r => r.toJson
  | registrySearch r => r.toJson
  | permissionGrant r => r.toJson
  | registry r => r.toJson

def toJson (row : Row) : Json := .object [(row.table.name, row.columnsJson)]

/-- A row of a table out of its columns by name. -/
def ofColumns? (table : Table) (v : ν) : Option Row :=
  match table with
  | .search => (SearchRow.ofDocument? v).map search
  | .searchRelation => (SearchEdge.ofDocument? v).map searchRelation
  | .fileSearch => (FileSearchRow.ofDocument? v).map fileSearch
  | .componentSearch => (ComponentSearchRow.ofDocument? v).map componentSearch
  | .productSearch => (ProductSearchRow.ofDocument? v).map productSearch
  | .registrySearch => (RegistrySearchRow.ofDocument? v).map registrySearch
  | .permissionGrant => (PermissionGrantRow.ofDocument? v).map permissionGrant
  | .registry => (RegistryRow.ofDocument? v).map registry

def ofDocument? (v : ν) : Option Row :=
  match variant? v with
  | some (name, some contents) =>
    (Table.all.find? (·.name == name)).bind fun table => ofColumns? table contents
  | _ => none

end Row

end InstallMarkup
