import InstallMarkup.Proofs.Component.Acceptance
import InstallMarkup.Proofs.Reading.Rules
import InstallMarkup.Proofs.Search.Acceptance

/-!
# Where markup stands

The locations of elements and attributes go into complaints and faults, and into nothing else.
`unlocated` forgets them, in markup and in what is said about it alike, and all that is read of an
element commutes with it:

* **attributes**: a reading gives the same value wherever the attribute stands, or complains there
  about the same (`Portable`), so settings do not depend on locations (`setting?_unlocated`);
* **elements**: forgetting the locations in an element forgets those in what it comes to, and keeps
  what it emits (`PlacedSearch.faults_unlocated`, `PlacedSearch.search?_unlocated`,
  `SearchReference.assess_unlocated`, `PermissionGrant.assessOn_unlocated`,
  `EventSource.assessment_unlocated`);
* **faults**: so does the check of its structure (`structureFault?_unlocated`).
-/

namespace InstallMarkup

/-! ## Forgetting locations -/

/-- The diagnostic without its location. -/
def Diagnostic.unlocated (d : Diagnostic) : Diagnostic :=
  { d with location := d.location.map fun _ => {} }

/-- The fault without its location. -/
def CompileFault.unlocated : CompileFault → CompileFault
  | unnamedElement _ => .unnamedElement {}
  | duplicateAttribute element name _ => .duplicateAttribute element name {}
  | missingParentValue element parent key _ => .missingParentValue element parent key {}
  | fault => fault

/-- The attribute without its location. -/
def Attribute.unlocated (a : Attribute) : Attribute := { a with location := {} }

/-- The same value, with complaints without their locations. -/
def Assessment.unlocated {α : Type} (a : Assessment α) : Assessment α :=
  { a with raised := a.raised.map Diagnostic.unlocated }

mutual

/-- The element without its location and those of its attributes, and so all that is nested in
it. -/
def Element.unlocated : Element → Element
  | { name, attributes, children, .. } =>
    { name, attributes := attributes.map Attribute.unlocated, children := unlocatedAll children }

def unlocatedAll : List Element → List Element
  | [] => []
  | e :: rest => e.unlocated :: unlocatedAll rest

end

theorem unlocatedAll_eq (es : List Element) : unlocatedAll es = es.map Element.unlocated := by
  induction es with
  | nil => rfl
  | cons e rest ih => rw [unlocatedAll, ih, List.map_cons]

namespace Element

variable (e : Element)

@[simp] theorem name_unlocated : e.unlocated.name = e.name := by
  cases e
  rfl

@[simp] theorem location_unlocated : e.unlocated.location = {} := by
  cases e
  rfl

@[simp] theorem attributes_unlocated :
    e.unlocated.attributes = e.attributes.map Attribute.unlocated := by
  cases e
  rfl

@[simp] theorem children_unlocated : e.unlocated.children = e.children.map unlocated := by
  rw [← unlocatedAll_eq]
  cases e
  rfl

@[simp] theorem attribute?_unlocated (name : String) :
    e.unlocated.attribute? name = (e.attribute? name).map Attribute.unlocated := by
  rw [attribute?, attribute?, attributes_unlocated, List.find?_map]
  rfl

@[simp] theorem has_unlocated (name : String) : e.unlocated.has name = e.has name := by
  rw [has, has, attribute?_unlocated, Option.isSome_map]

end Element

/-- Complaints count the same wherever they stand. -/
theorem Assessment.clean_unlocated (strict : Bool) (raised : List Diagnostic) :
    clean strict (raised.map Diagnostic.unlocated) = clean strict raised := by
  rw [clean, clean, List.all_map]
  cases strict <;> rfl

/-! ## Attributes -/

/-- A reading that gives the same value wherever the attribute stands, or complains there about the
same. -/
def Portable {α : Type} (read : Attribute → Except Diagnostic α) : Prop :=
  ∀ a, read a.unlocated = (read a).mapError Diagnostic.unlocated

namespace Portable

theorem text (element : String) : Portable (·.text element) := by
  intro a
  simp only [Attribute.text, apply_ite (Except.mapError Diagnostic.unlocated)]
  rfl

theorem identifier (element : String) : Portable (·.identifier element) := by
  intro a
  have htext : a.unlocated.text element = (a.text element).mapError Diagnostic.unlocated :=
    text element a
  simp only [Attribute.identifier, htext]
  cases a.text element with
  | error d => rfl
  | ok value =>
    simp only [Except.mapError]
    split <;> rfl

theorem yesNo (element : String) : Portable (·.yesNo element) := by
  intro a
  simp only [Attribute.yesNo, apply_ite (Except.mapError Diagnostic.unlocated)]
  rfl

theorem integer (element : String) : Portable (·.integer element) := by
  intro a
  simp only [Attribute.integer, Attribute.unlocated]
  split <;> rfl

theorem guid (element : String) : Portable (·.guid element) := by
  intro a
  have htext : a.unlocated.text element = (a.text element).mapError Diagnostic.unlocated :=
    text element a
  simp only [Attribute.guid, htext]
  cases a.text element with
  | error d => rfl
  | ok value =>
    simp only [Except.mapError]
    split <;> rfl

theorem choice {α : Type} (options : List (String × α)) (element : String) :
    Portable (Attribute.choice options element) := by
  intro a
  simp only [Attribute.choice, Attribute.unlocated]
  split <;> rfl

theorem readVariable (config : Config) (element : String) :
    Portable (readVariable config element) := by
  intro a
  have hid : a.unlocated.identifier element =
      (a.identifier element).mapError Diagnostic.unlocated := identifier element a
  simp only [InstallMarkup.readVariable, hid]
  cases a.identifier element with
  | error d => rfl
  | ok id =>
    simp only [Except.mapError]
    split <;> rfl

end Portable

/-- What a name is set to does not depend on where its attribute stands. -/
theorem setting?_unlocated {α : Type} {read : Attribute → Except Diagnostic α}
    (hread : Portable read) (attributes : List Attribute) (name : String) :
    setting? (attributes.map Attribute.unlocated) name read = setting? attributes name read := by
  have hname : (fun a : Attribute => a.name == name) ∘ Attribute.unlocated =
      fun a => a.name == name := rfl
  rw [setting?, setting?, ← List.map_reverse, List.find?_map, hname]
  cases attributes.reverse.find? fun a => a.name == name with
  | none => rfl
  | some a =>
    simp only [Option.map_some, hread a]
    cases read a <;> rfl

/-! ### Rules -/

/-- A rule that complains about the same wherever the attribute stands. -/
def AttributeRule.Portable (rule : AttributeRule) : Prop :=
  ∀ a, rule.check a.unlocated = (rule.check a).map Diagnostic.unlocated

theorem faults_mapError {α : Type} (r : Except Diagnostic α) :
    Reading.faults (r.mapError Diagnostic.unlocated) =
      (Reading.faults r).map Diagnostic.unlocated := by
  cases r <;> rfl

theorem portable_ofReading {α : Type} {read : Attribute → Except Diagnostic α}
    (hread : Portable read) (name : String) : (AttributeRule.ofReading name read).Portable := by
  intro a
  show Reading.faults (read a.unlocated) = _
  rw [hread a]
  exact faults_mapError (read a)

theorem AttributeRule.Standard.portable {rule : AttributeRule} (h : rule.Standard) :
    rule.Portable := by
  cases h with
  | text => exact portable_ofReading (.text _) _
  | identifier => exact portable_ofReading (.identifier _) _
  | yesNo => exact portable_ofReading (.yesNo _) _
  | integer => exact portable_ofReading (.integer _) _
  | guid => exact portable_ofReading (.guid _) _
  | choice => exact portable_ofReading (.choice _ _) _
  | readVariable => exact portable_ofReading (.readVariable _ _) _
  | oldName =>
    -- the warning goes with the attribute too
    intro a
    exact congrArg (_ :: ·) (portable_ofReading (.guid ProductQuery.element) "Guid" a)

theorem checkAll_unlocated {rules : List AttributeRule} (hrules : ∀ rule ∈ rules, rule.Standard)
    (element : String) (attributes : List Attribute) :
    AttributeRule.checkAll rules element (attributes.map Attribute.unlocated) =
      (AttributeRule.checkAll rules element attributes).map Diagnostic.unlocated := by
  rw [AttributeRule.checkAll, AttributeRule.checkAll, List.flatMap_map, List.map_flatMap]
  refine List.flatMap_congr fun a _ => ?_
  have hname : a.unlocated.name = a.name := rfl
  rw [AttributeRule.checkStrictly, AttributeRule.checkStrictly, AttributeRule.check?,
    AttributeRule.check?, hname]
  cases hfind : rules.find? fun rule => rule.name == a.name with
  | none => rfl
  | some rule => exact (hrules rule (List.mem_of_find?_eq_some hfind)).portable a

theorem missingAttributes_unlocated (required : List String) (name : String) (e : Element) :
    missingAttributes required name e.unlocated =
      (missingAttributes required name e).map Diagnostic.unlocated := by
  simp only [missingAttributes, Element.has_unlocated, Element.location_unlocated, List.map_map]
  rfl

theorem unexpectedChildren_unlocated (name : String) (e : Element) :
    unexpectedChildren name e.unlocated =
      (unexpectedChildren name e).map Diagnostic.unlocated := by
  rw [unexpectedChildren, unexpectedChildren, Element.children_unlocated, List.map_map,
    List.map_map]
  refine List.map_congr_left fun child _ => ?_
  simp only [Function.comp_apply, Element.name_unlocated, Element.location_unlocated]
  rfl

/-! ## Searches -/

/-- Where a name is set decides nothing but where it is set. -/
theorem location?_unlocated (attributes : List Attribute) (name : String) :
    setting? (attributes.map Attribute.unlocated) name (fun a => .ok a.location) =
      (setting? attributes name fun a => .ok a.location).map fun _ => {} := by
  have hname : (fun a : Attribute => a.name == name) ∘ Attribute.unlocated =
      fun a => a.name == name := rfl
  rw [setting?, setting?, ← List.map_reverse, List.find?_map, hname]
  cases attributes.reverse.find? fun a => a.name == name <;> rfl

section Searches

variable (e : Element) (config : Config) (kind : SearchKind)

theorem header_unlocated (placement : Placement) :
    PlacedSearch.header ⟨kind, e.unlocated, placement⟩ config =
      (PlacedSearch.header ⟨kind, e, placement⟩ config).unlocated := by
  have hvalue : ∀ placement, (PlacedSearch.header ⟨kind, e.unlocated, placement⟩ config).value =
      (PlacedSearch.header ⟨kind, e, placement⟩ config).value := by
    intro placement
    simp only [PlacedSearch.header, SearchSettings.header, SearchSettings.ofAttributes,
      Element.attributes_unlocated, setting?_unlocated (.identifier _),
      setting?_unlocated (.readVariable _ _), setting?_unlocated (.text _)]
    cases placement <;> simp only [SearchSettings.predecessor]
  have hraised : ∀ placement, (PlacedSearch.header ⟨kind, e.unlocated, placement⟩ config).raised =
      (PlacedSearch.header ⟨kind, e, placement⟩ config).raised.map Diagnostic.unlocated := by
    intro placement
    simp only [PlacedSearch.header, SearchSettings.header, missingAttributes_unlocated,
      Element.name_unlocated, List.map_append]
    refine congrArg (· ++ _) ?_
    cases placement with
    | topLevel => rfl
    | nested parent =>
      simp only [SearchSettings.placementFaults, SearchSettings.ofAttributes,
        Element.attributes_unlocated, location?_unlocated]
      cases setting? e.attributes "After" fun a => .ok a.location <;> rfl
  rw [Assessment.unlocated, ← hraised, ← hvalue]

theorem codeFaults_unlocated : ProductQuery.codeFaults e.unlocated =
    (ProductQuery.codeFaults e).map Diagnostic.unlocated := by
  unfold ProductQuery.codeFaults
  rw [Element.attribute?_unlocated, Element.attribute?_unlocated, Element.attribute?_unlocated,
    Element.location_unlocated]
  cases e.attribute? "Guid" <;> cases e.attribute? "ProductCode" <;>
    cases e.attribute? "UpgradeCode" <;> rfl

theorem contradicts_unlocated : RegistryQuery.contradicts e.unlocated =
    RegistryQuery.contradicts e := by
  simp only [RegistryQuery.contradicts, RegistryQuery.expands, RegistryQuery.result,
    Element.attributes_unlocated, setting?_unlocated (.yesNo _), setting?_unlocated (.choice _ _)]

theorem contradictionFaults_unlocated : RegistryQuery.contradictionFaults e.unlocated =
    (RegistryQuery.contradictionFaults e).map Diagnostic.unlocated := by
  unfold RegistryQuery.contradictionFaults
  rw [contradicts_unlocated, Element.attribute?_unlocated]
  cases RegistryQuery.contradicts e with
  | false => rfl
  | true => cases e.attribute? "ExpandEnvironmentVariables" <;> rfl

theorem assessQuery_unlocated : kind.assessQuery e.unlocated = (kind.assessQuery e).unlocated := by
  cases kind with
  | component =>
    simp only [SearchKind.assessQuery, ComponentQuery.assess, Element.attributes_unlocated,
      missingAttributes_unlocated, setting?_unlocated (.guid _), setting?_unlocated (.choice _ _)]
    rfl
  | directory =>
    simp only [SearchKind.assessQuery, PathQuery.assessDirectory, PathQuery.assess,
      Element.attributes_unlocated, missingAttributes_unlocated, setting?_unlocated (.text _),
      setting?_unlocated (.choice _ _)]
    rfl
  | file =>
    simp only [SearchKind.assessQuery, PathQuery.assessFile, PathQuery.assess,
      Element.attributes_unlocated, missingAttributes_unlocated, setting?_unlocated (.text _),
      setting?_unlocated (.choice _ _)]
    rfl
  | product =>
    simp only [SearchKind.assessQuery, ProductQuery.assess, codeFaults_unlocated,
      ProductQuery.mixesCodes, Element.has_unlocated, ProductQuery.ofSettings,
      Element.attributes_unlocated, setting?_unlocated (.guid _), setting?_unlocated (.choice _ _)]
    rfl
  | registry =>
    simp only [SearchKind.assessQuery, RegistryQuery.assess, missingAttributes_unlocated,
      contradictionFaults_unlocated, contradicts_unlocated, RegistryQuery.ofSettings,
      RegistryQuery.effectiveFlags, RegistryQuery.expands, RegistryQuery.result,
      RegistryQuery.format, RegistryQuery.searches64, Element.attributes_unlocated,
      setting?_unlocated (.text _), setting?_unlocated (.yesNo _),
      setting?_unlocated (.choice _ _), ← List.map_append]
    rfl

namespace PlacedSearch

variable (placement : Placement)

theorem faults_unlocated : faults ⟨kind, e.unlocated, placement⟩ config =
    (faults ⟨kind, e, placement⟩ config).map Diagnostic.unlocated := by
  rw [faults, faults, header_unlocated, query, query, assessQuery_unlocated,
    SearchKind.attributeFaults, SearchKind.attributeFaults, Element.attributes_unlocated,
    checkAll_unlocated (standard_searchRules config kind), List.map_append, List.map_append]
  rfl

theorem search?_unlocated : search? ⟨kind, e.unlocated, placement⟩ config =
    search? ⟨kind, e, placement⟩ config := by
  rw [search?, search?, isClean, isClean, faults_unlocated, Assessment.clean_unlocated,
    header_unlocated, query, query, assessQuery_unlocated]
  rfl

theorem assessment_unlocated : assessment ⟨kind, e.unlocated, placement⟩ config =
    (assessment ⟨kind, e, placement⟩ config).unlocated := by
  rw [assessment, assessment, faults_unlocated, search?_unlocated]
  rfl

theorem id?_unlocated : id? ⟨kind, e.unlocated, placement⟩ config =
    id? ⟨kind, e, placement⟩ config := by
  rw [id?, id?, search?_unlocated]

end PlacedSearch

theorem SearchReference.assess_unlocated (strict : Bool) :
    assess strict kind e.unlocated = (assess strict kind e).unlocated := by
  have hfaults : faults kind e.unlocated = (faults kind e).map Diagnostic.unlocated := by
    simp only [faults, Element.attributes_unlocated, checkAll_unlocated (standard_rules _),
      missingAttributes_unlocated, unexpectedChildren_unlocated, List.map_append]
  rw [assess_eq_match, assess_eq_match, hfaults, Assessment.clean_unlocated,
    Element.attributes_unlocated, setting?_unlocated (.identifier _)]
  split
  · split <;> rfl
  · rfl

end Searches

/-! ## Grants and event sources -/

theorem Symbol.require_unlocated (symbol : Symbol) (declared : List Symbol)
    (location : SourceLocation) : symbol.require declared {} =
      (symbol.require declared location).mapError Diagnostic.unlocated := by
  rw [require, require, apply_ite (Except.mapError Diagnostic.unlocated)]
  rfl

theorem NativeAction.require_unlocated (action : NativeAction) (config : Config) (element : String)
    (location : SourceLocation) : action.require config element {} =
      (action.require config element location).mapError Diagnostic.unlocated := by
  rw [require, require]
  cases config.actionName? action <;> rfl

theorem PermissionGrant.mask?_unlocated (kind : ObjectKind) (attributes : List Attribute) :
    mask? kind (attributes.map Attribute.unlocated) = mask? kind attributes := by
  have hanswers : answers kind (attributes.map Attribute.unlocated) = answers kind attributes := by
    rw [answers, answers, List.filterMap_map]
    refine List.filterMap_congr fun a _ => ?_
    have hread : a.unlocated.yesNo element = (a.yesNo element).mapError Diagnostic.unlocated :=
      Portable.yesNo element a
    have hname : a.unlocated.name = a.name := rfl
    rw [Function.comp_apply, hname, hread]
    cases a.yesNo element <;> rfl
  rw [mask?, mask?, hanswers]

theorem PermissionGrant.assessOn_unlocated (config : Config) (declared : List Symbol)
    (target : GrantTarget) (objectId componentId : String) (e : Element) :
    assessOn config declared target objectId componentId e.unlocated =
      (assessOn config declared target objectId componentId e).unlocated := by
  have hmask : maskFaults target objectId e.unlocated =
      (maskFaults target objectId e).map Diagnostic.unlocated := by
    rw [maskFaults, maskFaults, Element.attributes_unlocated, mask?_unlocated,
      Element.location_unlocated, apply_ite (List.map Diagnostic.unlocated)]
    rfl
  have hfaults : faults config declared target objectId componentId e.unlocated =
      (faults config declared target objectId componentId e).map Diagnostic.unlocated := by
    simp only [faults, Element.attributes_unlocated, Element.location_unlocated,
      checkAll_unlocated (standard_rules _), missingAttributes_unlocated,
      unexpectedChildren_unlocated, hmask, Symbol.require_unlocated _ declared e.location,
      NativeAction.require_unlocated _ config element e.location, faults_mapError, List.map_append]
  rw [assessOn_eq_match, assessOn_eq_match, hfaults, Assessment.clean_unlocated,
    Element.attributes_unlocated, Element.location_unlocated, setting?_unlocated (.text _),
    setting?_unlocated (.text _), mask?_unlocated, Symbol.require_unlocated _ declared e.location,
    Symbol.require_unlocated _ declared e.location,
    NativeAction.require_unlocated _ config element e.location]
  cases setting? e.attributes "User" (·.text element) <;>
    cases mask? target.object e.attributes <;>
    cases Symbol.require ⟨target.symbol, objectId⟩ declared e.location <;>
    cases Symbol.require ⟨.component, componentId⟩ declared e.location <;>
    cases NativeAction.secureObjects.require config element e.location <;>
    first
    | rfl
    | (simp only [Except.mapError]; split <;> rfl)

namespace EventSource

theorem optionalValues_unlocated (attributes : List Attribute) :
    optionalValues (attributes.map Attribute.unlocated) = optionalValues attributes :=
  optionalValues_congr (setting?_unlocated (.text _) attributes)
    (setting?_unlocated (.integer _) attributes) (setting?_unlocated (.yesNo _) attributes)

theorem faults_unlocated (declared : List Symbol) (componentId : String) (e : Element) :
    faults declared componentId e.unlocated =
      (faults declared componentId e).map Diagnostic.unlocated := by
  have hcategory : categoryFaults e.unlocated =
      (categoryFaults e).map Diagnostic.unlocated := by
    simp only [categoryFaults, Element.has_unlocated, missingAttributes_unlocated, List.map_append,
      apply_ite (List.map Diagnostic.unlocated), List.map_nil]
  simp only [faults, Element.attributes_unlocated, Element.location_unlocated,
    checkAll_unlocated standard_rules, missingAttributes_unlocated,
    unexpectedChildren_unlocated, hcategory, Symbol.require_unlocated _ declared e.location,
    faults_mapError, List.map_append]

theorem assessment_unlocated (strict : Bool) (declared : List Symbol) (componentId : String)
    (e : Element) : assessment strict declared componentId e.unlocated =
      (assessment strict declared componentId e).unlocated := by
  unfold assessment
  rw [faults_unlocated, Assessment.clean_unlocated, Element.attributes_unlocated,
    Element.location_unlocated, setting?_unlocated (.text _), setting?_unlocated (.text _),
    setting?_unlocated (.text _), optionalValues_unlocated,
    Symbol.require_unlocated _ declared e.location]
  cases setting? e.attributes "Name" (·.text element) <;>
    cases setting? e.attributes "Log" (·.text element) <;>
    cases setting? e.attributes "EventMessageFile" (·.text element) <;>
    cases Symbol.require ⟨.component, componentId⟩ declared e.location <;>
    first
    | rfl
    | (simp only [Except.mapError]; split <;> rfl)

end EventSource

/-! ## Structure -/

theorem firstRepeated?_unlocated (seen : List String) (attributes : List Attribute) :
    firstRepeated? seen (attributes.map Attribute.unlocated) =
      (firstRepeated? seen attributes).map Attribute.unlocated := by
  induction attributes generalizing seen with
  | nil => rfl
  | cons a rest ih =>
    have hname : a.unlocated.name = a.name := rfl
    rw [List.map_cons, firstRepeated?, firstRepeated?, hname, ih,
      apply_ite (Option.map Attribute.unlocated)]
    rfl

theorem structureFault?_unlocated (e : Element) :
    e.unlocated.structureFault? = e.structureFault?.map CompileFault.unlocated := by
  rw [Element.structureFault?, Element.structureFault?, Element.name_unlocated,
    Element.attributes_unlocated, Element.location_unlocated, firstRepeated?_unlocated,
    apply_ite (Option.map CompileFault.unlocated)]
  cases firstRepeated? [] e.attributes <;> rfl

theorem misplaced_unlocated (enclosure : Enclosure) (e : Element) :
    misplaced enclosure e.unlocated = (misplaced enclosure e).unlocated := by
  simp only [misplaced, Element.name_unlocated, Element.location_unlocated]
  rfl

end InstallMarkup
