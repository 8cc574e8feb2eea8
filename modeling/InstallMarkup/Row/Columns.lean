import InstallMarkup.Row.Basic

/-!
# Columns

The linking engine takes a row as a list of column values in a fixed order. Texts stay texts, an
absent text is null, and masks and codes are signed 32-bit integers: a mask whose top bit is set is
a negative number there.
-/

namespace InstallMarkup

/-- The value of one column. -/
inductive Column where
  | text (value : String)
  | integer (value : Int32)
  | null
  deriving DecidableEq, Repr, Inhabited

namespace Column

/-- A text or null. -/
def optional : Option String → Column
  | some value => text value
  | none => null

/-- A mask as a signed number. -/
def mask (bits : UInt32) : Column := integer bits.toInt32

/-- An identifier as a text. -/
def id (i : Identifier) : Column := text i.text

end Column

namespace Row

/-- The columns of a row in the order of its table. -/
def columns : Row → List Column
  | search r => [.id r.id, .text r.variableName, .optional r.condition]
  | searchRelation e => [.id e.child, .id e.parent, .integer e.strength.code]
  | fileSearch r => [.id r.id, .text r.path, .mask r.flags.bits]
  | componentSearch r =>
    [.id r.id, .text r.componentGuid, .optional r.productCode, .mask r.flags.bits]
  | productSearch r => [.id r.id, .text r.code, .mask r.flags.bits]
  | registrySearch r =>
    [.id r.id, .integer r.root.code, .text r.key, .optional r.value, .mask r.flags.bits]
  | permissionGrant r =>
    [.text r.objectId, .text r.objectTable, .optional r.domain, .text r.user, .mask r.permission,
      .text r.componentId]
  | registry r =>
    [.id r.id, .integer r.root.code, .text r.key, .optional r.name, .optional r.value,
      .text r.componentId]

end Row

end InstallMarkup
