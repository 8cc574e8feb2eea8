import InstallMarkup.Reading.Assessment
import InstallMarkup.Reading.Rule
import InstallMarkup.Row.Basic
import InstallMarkup.Search.Element

/-!
# Component searches

A component search looks for an installed component by its GUID, perhaps within one product, and
gives its key path, its state or its directory.
-/

namespace InstallMarkup

/-- What a component search looks for. -/
structure ComponentQuery where
  guid : String
  productCode : Option String := none
  flags : ComponentSearchFlags
  deriving DecidableEq, Repr

namespace ComponentQuery

/-- The name that diagnostics quote. -/
def element : String := SearchKind.component.elementName

/-- The results that can be asked for. -/
def results : List (String × ComponentSearchFlags) := [
  ("directory", ComponentSearchFlags.wantDirectory),
  ("state", ComponentSearchFlags.state),
  ("keyPath", ComponentSearchFlags.keyPath)]

/-- The attributes of the kind. -/
def rules : List AttributeRule := [
  .ofReading "Guid" (·.guid element),
  .ofReading "ProductCode" (·.guid element),
  .ofReading "Result" (Attribute.choice results element)]

/-- Reads the query of an element; without a result it is the key path. -/
def assess (e : Element) : Assessment ComponentQuery where
  raised := missingAttributes ["Guid"] element e
  value :=
    (setting? e.attributes "Guid" (·.guid element)).map fun guid =>
      { guid
        productCode := setting? e.attributes "ProductCode" (·.guid element)
        flags := (setting? e.attributes "Result" (Attribute.choice results element)).getD
          ComponentSearchFlags.keyPath }

end ComponentQuery

end InstallMarkup
