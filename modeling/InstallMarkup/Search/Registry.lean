import InstallMarkup.Reading.Assessment
import InstallMarkup.Reading.Rule
import InstallMarkup.Row.Basic
import InstallMarkup.Search.Element

/-!
# Registry searches

A registry search looks for a key, or for a value of a key, and gives the value or whether it
exists. Expanding environment variables makes sense for a value only.
-/

namespace InstallMarkup

/-- What a registry search looks for. -/
structure RegistryQuery where
  root : RegistryRoot
  key : String
  value : Option String := none
  flags : RegistrySearchFlags
  deriving DecidableEq, Repr

namespace RegistryQuery

/-- The name that diagnostics quote. -/
def element : String := SearchKind.registry.elementName

/-- The hives as authors write them. -/
def roots : List (String × RegistryRoot) :=
  RegistryRoot.all.map fun root => (root.markup, root)

/-- The results that can be asked for. -/
def results : List (String × RegistrySearchFlags) := [
  ("exists", RegistrySearchFlags.wantExists),
  ("value", RegistrySearchFlags.wantValue)]

/-- The forms that a value can be asked for in. -/
def formats : List (String × RegistrySearchFlags) := [
  ("raw", RegistrySearchFlags.raw),
  ("compatible", RegistrySearchFlags.compatible)]

/-- The attributes of the kind. -/
def rules : List AttributeRule := [
  .ofReading "Root" (Attribute.choice roots element),
  .ofReading "Key" (·.text element),
  .ofReading "Value" (·.text element),
  .ofReading "Format" (Attribute.choice formats element),
  .ofReading "ExpandEnvironmentVariables" (·.yesNo element),
  .ofReading "Result" (Attribute.choice results element),
  .ofReading "Win64" (·.yesNo element)]

/-! ## Settings with their defaults -/

/-- The result asked for: the value, unless another is set. -/
def result (e : Element) : RegistrySearchFlags :=
  (setting? e.attributes "Result" (Attribute.choice results element)).getD
    RegistrySearchFlags.wantValue

/-- The form asked for: raw, unless another is set. -/
def format (e : Element) : RegistrySearchFlags :=
  (setting? e.attributes "Format" (Attribute.choice formats element)).getD RegistrySearchFlags.raw

/-- Whether environment variables are to be replaced. -/
def expands (e : Element) : Bool :=
  (setting? e.attributes "ExpandEnvironmentVariables" (·.yesNo element)).getD false

/-- Whether the 64-bit view is searched. -/
def searches64 (e : Element) : Bool :=
  (setting? e.attributes "Win64" (·.yesNo element)).getD false

/-- Whether variables are to be replaced in a result that is no value. -/
def contradicts (e : Element) : Bool :=
  expands e && result e == RegistrySearchFlags.wantExists

/-- The flags of all settings together. -/
def effectiveFlags (e : Element) : RegistrySearchFlags :=
  let base := (result e).union (format e)
  let base :=
    if expands e then base.union RegistrySearchFlags.expandEnvironmentVariables else base
  if searches64 e then base.union RegistrySearchFlags.win64 else base

/-- The diagnostic about replacing variables in a result that is no value. -/
def contradictionFaults (e : Element) : List Diagnostic :=
  if contradicts e then
    (e.attribute? "ExpandEnvironmentVariables").toList.map fun a =>
      .illegalCombination element "ExpandEnvironmentVariables" "Result" "exists" a.location
  else []

/-- The query that the settings make, if the root and the key have values. -/
def ofSettings (e : Element) : Option RegistryQuery :=
  match setting? e.attributes "Root" (Attribute.choice roots element),
    setting? e.attributes "Key" (·.text element) with
  | some root, some key =>
    some
      { root, key
        value := setting? e.attributes "Value" (·.text element)
        flags := effectiveFlags e }
  | _, _ => none

/-- Reads the query of an element. -/
def assess (e : Element) : Assessment RegistryQuery where
  raised := missingAttributes ["Root", "Key"] element e ++ contradictionFaults e
  value := if contradicts e then none else ofSettings e

end RegistryQuery

end InstallMarkup
