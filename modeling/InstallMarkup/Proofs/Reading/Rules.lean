import Mathlib.Data.List.Basic
import InstallMarkup.Vocabulary

/-!
# The rules of all elements

Elements know different attributes, but there are only a few ways to check one: by each of the
readings, and, for the old name of a product code, with a warning besides. `AttributeRule.Standard`
lists them, and every element has only such rules. What holds of the standard ways to check an
attribute so holds of the rules of every element, and is not proved element by element.
-/

namespace InstallMarkup

/-- The ways in which elements check an attribute. -/
inductive AttributeRule.Standard : AttributeRule → Prop
  | text (element name : String) : Standard (.ofReading name (·.text element))
  | identifier (element name : String) : Standard (.ofReading name (·.identifier element))
  | yesNo (element name : String) : Standard (.ofReading name (·.yesNo element))
  | integer (element name : String) : Standard (.ofReading name (·.integer element))
  | guid (element name : String) : Standard (.ofReading name (·.guid element))
  | choice {α : Type} (options : List (String × α)) (element name : String) :
      Standard (.ofReading name (Attribute.choice options element))
  | readVariable (config : Config) (element name : String) :
      Standard (.ofReading name (readVariable config element))
  /-- The old name of the product code is warned about, whatever its value is. -/
  | oldName : Standard
      ⟨"Guid", fun a =>
        ProductQuery.deprecatedGuid a.location :: Reading.faults (a.guid ProductQuery.element)⟩

/-- The common attributes of a search, and those of each kind. -/
theorem standard_searchRules (config : Config) (kind : SearchKind) :
    ∀ rule ∈ SearchSettings.rules config kind.elementName ++ kind.rules, rule.Standard := by
  have hcommon : ∀ rule ∈ SearchSettings.rules config kind.elementName, rule.Standard := by
    simp only [SearchSettings.rules, List.forall_mem_cons]
    exact ⟨.identifier _ _, .readVariable _ _ _, .text _ _, .identifier _ _, by simp⟩
  refine List.forall_mem_append.mpr ⟨hcommon, ?_⟩
  cases kind with
  | component =>
    simp only [SearchKind.rules, ComponentQuery.rules, List.forall_mem_cons]
    exact ⟨.guid _ _, .guid _ _, .choice _ _ _, by simp⟩
  | directory =>
    simp only [SearchKind.rules, PathQuery.directoryRules, PathQuery.rules, List.forall_mem_cons]
    exact ⟨.text _ _, .choice _ _ _, by simp⟩
  | file =>
    simp only [SearchKind.rules, PathQuery.fileRules, PathQuery.rules, List.forall_mem_cons]
    exact ⟨.text _ _, .choice _ _ _, by simp⟩
  | product =>
    simp only [SearchKind.rules, ProductQuery.rules, List.forall_mem_cons]
    exact ⟨.oldName, .guid _ _, .guid _ _, .choice _ _ _, by simp⟩
  | registry =>
    simp only [SearchKind.rules, RegistryQuery.rules, List.forall_mem_cons]
    exact ⟨.choice _ _ _, .text _ _, .text _ _, .choice _ _ _, .yesNo _ _, .choice _ _ _,
      .yesNo _ _, by simp⟩

theorem SearchReference.standard_rules (name : String) :
    ∀ rule ∈ rules name, rule.Standard :=
  List.forall_mem_singleton.mpr (.identifier _ _)

theorem PermissionGrant.standard_rules (kind : ObjectKind) :
    ∀ rule ∈ rules kind, rule.Standard := by
  simp only [rules, List.forall_mem_append, List.forall_mem_cons, List.forall_mem_map]
  exact ⟨⟨.text _ _, .text _ _, by simp⟩, fun right _ => .yesNo _ right⟩

theorem EventSource.standard_rules : ∀ rule ∈ rules, rule.Standard := by
  simp only [rules, List.forall_mem_append, List.forall_mem_cons, List.forall_mem_map]
  exact ⟨⟨.text _ _, .text _ _, .text _ _, .text _ _, .integer _ _, .text _ _, by simp⟩,
    fun type _ => .yesNo _ type.1⟩

end InstallMarkup
