import InstallMarkup.Emission
import InstallMarkup.Reading.Assessment
import InstallMarkup.Reading.Rule
import InstallMarkup.Search.Element

/-!
# Search references

A reference pulls a search that is stated elsewhere into the bundle. It writes no row; it only
records the soft reference.
-/

namespace InstallMarkup.SearchReference

/-- The one attribute of a reference. -/
def rules (name : String) : List AttributeRule := [.ofReading "Id" (·.identifier name)]

/-- Assesses a reference to a search of some kind. -/
def assess (strict : Bool) (kind : SearchKind) (e : Element) : Assessment Emission :=
  let name := kind.referenceName
  let raised :=
    AttributeRule.checkAll (rules name) name e.attributes ++
      missingAttributes ["Id"] name e ++ unexpectedChildren name e
  match setting? e.attributes "Id" (·.identifier name) with
  | some id =>
    if Assessment.clean strict raised then ⟨raised, some (.searchReference id)⟩
    else .rejected raised
  | none => .rejected raised

end InstallMarkup.SearchReference
