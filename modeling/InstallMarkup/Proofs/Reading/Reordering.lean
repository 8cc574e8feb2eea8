import Mathlib.Data.List.Forall2
import InstallMarkup.Proofs.Component.Acceptance
import InstallMarkup.Proofs.Permission.Encoding
import InstallMarkup.Proofs.Search.Acceptance

/-!
# The order of attributes

Attributes are read one after the other, but what is read is asked for by name. As long as no name
stands twice, the order of the attributes decides only in which order they are complained about:

* **settings**: what a name is set to is the same in any order (`setting?_of_perm`), and whatever
  asks for names only comes to the same (`Element.ReadsAlike`);
* **complaints**: each attribute raises what it raises on its own, so the complaints are the same in
  another order (`checkAll_perm`);
* **answers**: the rights that a grant names are united, and a union has no order
  (`PermissionGrant.mask?_of_perm`).
-/

namespace InstallMarkup

/-- Two trees that differ at most in the order of the attributes of their elements. -/
inductive Element.Reordered : Element → Element → Prop
  | mk {name : String} {location : SourceLocation} {attributes attributes' : List Attribute}
      {children children' : List Element} (hattributes : attributes.Perm attributes')
      (hchildren : List.Forall₂ Element.Reordered children children') :
      Reordered ⟨name, attributes, children, location⟩ ⟨name, attributes', children', location⟩

namespace Element.Reordered

variable {e e' : Element}

theorem name (h : e.Reordered e') : e.name = e'.name := by
  cases h
  rfl

theorem location (h : e.Reordered e') : e.location = e'.location := by
  cases h
  rfl

theorem attributes (h : e.Reordered e') : e.attributes.Perm e'.attributes := by
  cases h
  assumption

theorem children (h : e.Reordered e') : List.Forall₂ Reordered e.children e'.children := by
  cases h
  assumption

end Element.Reordered

/-! ## Attributes by name -/

section Attributes

variable {attributes attributes' : List Attribute}

/-- Among distinct names, the attribute of a name is found in any order. -/
theorem find?_of_perm (h : attributes.Perm attributes')
    (hnodup : (attributes.map (·.name)).Nodup) (name : String) :
    attributes.find? (·.name == name) = attributes'.find? (·.name == name) := by
  induction h with
  | nil => rfl
  | cons a _ ih =>
    rw [List.map_cons, List.nodup_cons] at hnodup
    rw [List.find?_cons, List.find?_cons, ih hnodup.2]
  | swap a b rest =>
    by_cases ha : a.name = name
    · -- then `b` has another name, and is passed over on both sides
      have hb : b.name ≠ name := by
        rintro rfl
        rw [List.map_cons, List.map_cons, List.nodup_cons] at hnodup
        exact hnodup.1 (ha ▸ List.mem_cons_self)
      simp [ha, hb]
    · have hne : (a.name == name) = false := beq_false_of_ne ha
      simp [List.find?_cons, hne]
  | trans hfirst _ ihfirst ihsecond =>
    rw [ihfirst hnodup, ihsecond ((hfirst.map _).nodup_iff.mp hnodup)]

theorem setting?_of_perm {α : Type} (h : attributes.Perm attributes')
    (hnodup : (attributes.map (·.name)).Nodup) (name : String)
    (read : Attribute → Except Diagnostic α) :
    setting? attributes name read = setting? attributes' name read := by
  rw [setting?, setting?, find?_reverse_of_nodup hnodup,
    find?_reverse_of_nodup ((h.map _).nodup_iff.mp hnodup), find?_of_perm h hnodup]

theorem checkAll_perm (rules : List AttributeRule) (element : String)
    (h : attributes.Perm attributes') : (AttributeRule.checkAll rules element attributes).Perm
      (AttributeRule.checkAll rules element attributes') :=
  h.flatMap_right _

end Attributes

theorem Assessment.clean_of_perm {raised raised' : List Diagnostic} (h : raised.Perm raised')
    (strict : Bool) : clean strict raised = clean strict raised' :=
  h.all_eq

/-! ## Answers -/

theorem PermissionGrant.mask?_of_perm (kind : ObjectKind) {attributes attributes' : List Attribute}
    (h : attributes.Perm attributes') : mask? kind attributes = mask? kind attributes' := by
  have hanswers : (answers kind attributes).Perm (answers kind attributes') := h.filterMap _
  rw [mask?, mask?, AccessMask.encode_congr mem_rights_of_mem_answers mem_rights_of_mem_answers
    fun name => hanswers.mem_iff]

/-! ## Elements that read alike -/

/-- Whatever is asked of the two elements by name has the same answer. -/
structure Element.ReadsAlike (e e' : Element) : Prop where
  name : e.name = e'.name
  location : e.location = e'.location
  named : ∀ name, e.attribute? name = e'.attribute? name
  setting : ∀ {α : Type} (name : String) (read : Attribute → Except Diagnostic α),
    setting? e.attributes name read = setting? e'.attributes name read
  unexpected : ∀ name, unexpectedChildren name e = unexpectedChildren name e'

/-- Without a structure fault, elements read alike in any order of their attributes. -/
theorem Element.Reordered.readsAlike {e e' : Element} (h : e.Reordered e')
    (hstructure : e.structureFault? = none) : e.ReadsAlike e' where
  name := h.name
  location := h.location
  named := find?_of_perm h.attributes (nodup_names_of_structure hstructure)
  setting := setting?_of_perm h.attributes (nodup_names_of_structure hstructure)
  unexpected := by
    intro name
    have hchildren := h.children
    rw [unexpectedChildren, unexpectedChildren]
    generalize e.children = children at hchildren
    generalize e'.children = children' at hchildren
    induction hchildren with
    | nil => rfl
    | cons hchild _ ih => rw [List.map_cons, List.map_cons, hchild.name, hchild.location, ih]

namespace Element.ReadsAlike

variable {e e' : Element} (h : e.ReadsAlike e')
include h

theorem has (name : String) : e.has name = e'.has name := by
  rw [Element.has, Element.has, h.named]

theorem missing (required : List String) (name : String) :
    missingAttributes required name e = missingAttributes required name e' := by
  simp only [missingAttributes, h.has, h.location]

/-- The common part of a search is read by name. -/
theorem header (config : Config) (kind : SearchKind) (placement : Placement) :
    PlacedSearch.header ⟨kind, e, placement⟩ config =
      PlacedSearch.header ⟨kind, e', placement⟩ config := by
  have hsettings : SearchSettings.ofAttributes config kind.elementName e.attributes =
      SearchSettings.ofAttributes config kind.elementName e'.attributes := by
    simp only [SearchSettings.ofAttributes, h.setting]
  rw [PlacedSearch.header, PlacedSearch.header, hsettings, SearchSettings.header,
    SearchSettings.header, h.name, h.missing]

theorem assessQuery (kind : SearchKind) : kind.assessQuery e = kind.assessQuery e' := by
  cases kind with
  | component =>
    simp only [SearchKind.assessQuery, ComponentQuery.assess, h.setting, h.missing]
  | directory =>
    simp only [SearchKind.assessQuery, PathQuery.assessDirectory, PathQuery.assess, h.setting,
      h.missing]
  | file =>
    simp only [SearchKind.assessQuery, PathQuery.assessFile, PathQuery.assess, h.setting,
      h.missing]
  | product =>
    have hcodes : ProductQuery.codeFaults e = ProductQuery.codeFaults e' := by
      unfold ProductQuery.codeFaults
      rw [h.named, h.named, h.named, h.location]
    have hsettings : ProductQuery.ofSettings e = ProductQuery.ofSettings e' := by
      unfold ProductQuery.ofSettings
      rw [h.setting, h.setting, h.setting, h.setting]
    have hmixes : ProductQuery.mixesCodes e = ProductQuery.mixesCodes e' := by
      unfold ProductQuery.mixesCodes
      rw [h.has, h.has, h.has]
    unfold SearchKind.assessQuery ProductQuery.assess
    simp only [hcodes, hsettings]
    rw [hmixes]
  | registry =>
    have hresult : RegistryQuery.result e = RegistryQuery.result e' := by
      unfold RegistryQuery.result
      rw [h.setting]
    have hexpands : RegistryQuery.expands e = RegistryQuery.expands e' := by
      unfold RegistryQuery.expands
      rw [h.setting]
    have hcontradicts : RegistryQuery.contradicts e = RegistryQuery.contradicts e' := by
      unfold RegistryQuery.contradicts
      rw [hexpands, hresult]
    have hflags : RegistryQuery.effectiveFlags e = RegistryQuery.effectiveFlags e' := by
      unfold RegistryQuery.effectiveFlags RegistryQuery.format RegistryQuery.searches64
      rw [hresult, hexpands, h.setting, h.setting]
    have hsettings : RegistryQuery.ofSettings e = RegistryQuery.ofSettings e' := by
      unfold RegistryQuery.ofSettings
      rw [h.setting, h.setting, h.setting, hflags]
    have hcontradiction :
        RegistryQuery.contradictionFaults e = RegistryQuery.contradictionFaults e' := by
      unfold RegistryQuery.contradictionFaults
      rw [hcontradicts, h.named]
    unfold SearchKind.assessQuery RegistryQuery.assess
    simp only [h.missing, hcontradiction, hsettings]
    rw [hcontradicts]

theorem optionalValues :
    EventSource.optionalValues e.attributes = EventSource.optionalValues e'.attributes :=
  EventSource.optionalValues_congr (fun name => h.setting name _) (fun name => h.setting name _)
    fun name => h.setting name _

end Element.ReadsAlike

end InstallMarkup
