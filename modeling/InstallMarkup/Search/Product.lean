import InstallMarkup.Reading.Assessment
import InstallMarkup.Reading.Rule
import InstallMarkup.Row.Basic
import InstallMarkup.Search.Element

/-!
# Product searches

A product search looks for an installed product by its product code or by the upgrade code that it
shares with its other versions. Exactly one of them must be given. `Guid` is an old name for the
product code and raises a warning.
-/

namespace InstallMarkup

/-- What a product search looks for. -/
structure ProductQuery where
  /-- The product code, or the upgrade code if the flag for it is set. -/
  code : String
  flags : ProductSearchFlags
  deriving DecidableEq, Repr

namespace ProductQuery

/-- The name that diagnostics quote. -/
def element : String := SearchKind.product.elementName

/-- The results that can be asked for. -/
def results : List (String × ProductSearchFlags) := [
  ("version", ProductSearchFlags.version),
  ("language", ProductSearchFlags.language),
  ("state", ProductSearchFlags.state),
  ("assignment", ProductSearchFlags.assignment)]

/-- The warning about the old name of the product code. -/
def deprecatedGuid (location : SourceLocation) : Diagnostic :=
  .warningAt .deprecatedAttribute
    (s!"The {element} element's Guid attribute is deprecated; " ++ "use ProductCode instead.")
    location

/-- The attributes of the kind. -/
def rules : List AttributeRule := [
  ⟨"Guid", fun a => deprecatedGuid a.location :: Reading.faults (a.guid element)⟩,
  .ofReading "ProductCode" (·.guid element),
  .ofReading "UpgradeCode" (·.guid element),
  .ofReading "Result" (Attribute.choice results element)]

/-- What is wrong with the choice of codes. Presence decides, not legality: both names of the
product code exclude each other, the upgrade code excludes either of them (the new name is quoted if
it is there), and one code must be there. -/
def codeFaults (e : Element) : List Diagnostic :=
  let guid := e.attribute? "Guid"
  let productCode := e.attribute? "ProductCode"
  let upgradeCode := e.attribute? "UpgradeCode"
  let both := match guid, productCode with
    | some a, some _ => [Diagnostic.mutuallyExclusive element "Guid" "ProductCode" a.location]
    | _, _ => []
  let name := if productCode.isSome then "ProductCode" else "Guid"
  match productCode.or guid, upgradeCode with
  | some _, some a => both ++ [.mutuallyExclusive element name "UpgradeCode" a.location]
  | none, none => [.missingOneOf element ["ProductCode", "UpgradeCode"] e.location]
  | _, _ => both

/-- Whether the element has an upgrade code beside a product code. -/
def mixesCodes (e : Element) : Bool :=
  (e.has "ProductCode" || e.has "Guid") && e.has "UpgradeCode"

/-- The query that the settings make: by the upgrade code if it has a value, otherwise by the
product code under its new or old name. Without a result it is the version. -/
def ofSettings (e : Element) : Option ProductQuery :=
  let result := (setting? e.attributes "Result" (Attribute.choice results element)).getD
    ProductSearchFlags.version
  match setting? e.attributes "UpgradeCode" (·.guid element) with
  | some code => some { code, flags := result.union ProductSearchFlags.upgradeCode }
  | none =>
    ((setting? e.attributes "ProductCode" (·.guid element)).or
      (setting? e.attributes "Guid" (·.guid element))).map fun code => { code, flags := result }

/-- Reads the query of an element. -/
def assess (e : Element) : Assessment ProductQuery where
  raised := codeFaults e
  value := if mixesCodes e then none else ofSettings e

end ProductQuery

end InstallMarkup
