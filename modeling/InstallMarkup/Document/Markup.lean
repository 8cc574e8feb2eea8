import InstallMarkup.Document.Form
import InstallMarkup.Document.Value
import InstallMarkup.Markup.Unit

/-!
# Markup as documents

How locations, elements, hosts, symbols and units are written as JSON and read from a document.
-/

namespace InstallMarkup

variable {ν : Type} [DocumentValue ν]

/-! ## Numbers -/

/-- A natural number of 64 bits. -/
def word64? (v : ν) : Option UInt64 :=
  match integer? v with
  | some n => if 0 ≤ n ∧ n < UInt64.size then some (UInt64.ofNat n.toNat) else none
  | none => none

/-! ## Locations -/

namespace SourceLocation

/-- A location; the source is left out when there is none. -/
def toJson (l : SourceLocation) : Json :=
  .object ([("line", .natural l.line.toNat), ("column", .natural l.column.toNat)] ++
    l.source.toList.map fun name => ("source_name", .string name))

def ofDocument? (v : ν) : Option SourceLocation := do
  let r ← record? Form.location.names v
  let line ← r.required "line" word64?
  let column ← r.required "column" word64?
  let source ← r.defaulted "source_name" (Record.present text?) none
  some { line, column, source }

end SourceLocation

/-! ## Elements -/

namespace Attribute

def toJson (a : Attribute) : Json :=
  .object [("name", .string a.name), ("value", .string a.value),
    ("location", a.location.toJson)]

def ofDocument? (v : ν) : Option Attribute := do
  let r ← record? Form.elementAttribute.names v
  let name ← r.required "name" text?
  let value ← r.required "value" text?
  let location ← r.defaulted "location" SourceLocation.ofDocument? {}
  some { name, value, location }

end Attribute

/-- Every item of a list, if each can be read. -/
def listOf? {α : Type} (read : ν → Option α) (v : ν) : Option (List α) :=
  (items? v).bind fun items => items.mapM read

/-- How deep the elements of a document may nest: no document nests deeper. -/
def elementDepth : Nat := 128

namespace Element

mutual

def toJson : Element → Json
  | { name, attributes, children, location } =>
    .object [("name", .string name), ("attributes", .array (attributes.map Attribute.toJson)),
      ("children", .array (allToJson children)), ("location", location.toJson)]

def allToJson : List Element → List Json
  | [] => []
  | e :: rest => e.toJson :: allToJson rest

end

/-- An element in which elements nest less than `depth` deep. -/
def ofDocumentWithin? : Nat → ν → Option Element
  | 0, _ => none
  | depth + 1, v => do
    let r ← record? Form.element.names v
    let name ← r.required "name" text?
    let attributes ← r.defaulted "attributes" (listOf? Attribute.ofDocument?) []
    let children ← r.defaulted "children" (listOf? (ofDocumentWithin? depth)) []
    let location ← r.defaulted "location" SourceLocation.ofDocument? {}
    some { name, attributes, children, location }

def ofDocument? (v : ν) : Option Element := ofDocumentWithin? elementDepth v

end Element

/-! ## Hosts -/

namespace HostKind

/-- A kind of its own is its name; any other is the name under `Other`. -/
def toJson : HostKind → Json
  | other name => .object [("Other", .string name)]
  | kind => .string kind.name

def ofDocument? (v : ν) : Option HostKind :=
  match variant? v with
  | some ("Other", some contents) => (text? contents).map other
  | _ => unitVariant? known HostKind.name v

end HostKind

namespace Host

def toJson (h : Host) : Json :=
  .object [("kind", h.kind.toJson),
    ("values", .object (h.values.map fun (key, value) => (key, .string value)))]

/-- The values of a mapping from texts to texts; the last one of a key counts. -/
def values? (v : ν) : Option (List (String × String)) := do
  let members ← mapping? v
  let pairs ← members.mapM fun (key, value) => (text? value).map (key, ·)
  some (pairs.foldl (fun (h : Host) (key, value) => h.withValue key value) ⟨.bundle, []⟩).values

def ofDocument? (v : ν) : Option Host := do
  let r ← record? Form.host.names v
  let kind ← r.required "kind" HostKind.ofDocument?
  let values ← r.defaulted "values" values? []
  some { kind, values }

end Host

/-! ## Symbols and units -/

namespace Symbol

def toJson (s : Symbol) : Json :=
  .object [("kind", .string s.kind.name), ("id", .string s.id)]

def ofDocument? (v : ν) : Option Symbol := do
  let r ← record? Form.symbol.names v
  let kind ← r.required "kind" (unitVariant? SymbolKind.all SymbolKind.name)
  let id ← r.required "id" text?
  some { kind, id }

end Symbol

namespace UnitItem

def toJson (item : UnitItem) : Json :=
  .object [("parent", item.host.toJson), ("element", item.element.toJson)]

def ofDocument? (v : ν) : Option UnitItem := do
  let r ← record? Form.item.names v
  let host ← r.required "parent" Host.ofDocument?
  let element ← r.required "element" Element.ofDocument?
  some { host, element }

end UnitItem

namespace CompilationUnit

def toJson (u : CompilationUnit) : Json :=
  .object [("name", .string u.name), ("items", .array (u.items.map UnitItem.toJson)),
    ("declared", .array (u.declared.map Symbol.toJson))]

def ofDocument? (v : ν) : Option CompilationUnit := do
  let r ← record? Form.unit.names v
  let name ← r.required "name" text?
  let items ← r.defaulted "items" (listOf? UnitItem.ofDocument?) []
  let declared ← r.defaulted "declared" (listOf? Symbol.ofDocument?) []
  some { name, items, declared }

end CompilationUnit

end InstallMarkup
