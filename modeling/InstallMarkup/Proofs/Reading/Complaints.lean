import InstallMarkup.Proofs.Component.Acceptance
import InstallMarkup.Proofs.Reading.Rules
import InstallMarkup.Proofs.Search.Acceptance

/-!
# What elements are complained about

Whatever an element raises about its own markup stands at one of its places: its own, that of an
attribute or that of a child (`Diagnostic.Complaint`). It is an error, or the warning about an old
name. Nothing of it depends on what the unit declares or on the platform; those complaints come from
the requirements of grants and event sources alone, which stand apart from the rest
(`PermissionGrant.faults_eq`, `EventSource.faults_eq`). An attribute that an element does not know
is reported once, and no other one is reported as unexpected (`filter_checkAll`).
-/

namespace InstallMarkup

/-- Whether the code is for errors in the markup itself. -/
def DiagnosticCode.isMarkupError : DiagnosticCode → Bool
  | undefinedSymbol => false
  | unsupportedPlatform => false
  | deprecatedAttribute => false
  | _ => true

/-- A complaint about markup at one of the places. -/
inductive Diagnostic.Complaint (places : List SourceLocation) : Diagnostic → Prop
  | errorAt {code : DiagnosticCode} {place : SourceLocation} (message : String)
      (hplace : place ∈ places) (hcode : code.isMarkupError = true) :
      Complaint places (.errorAt code message place)
  | deprecated {place : SourceLocation} (message : String) (hplace : place ∈ places) :
      Complaint places (.warningAt .deprecatedAttribute message place)

/-- The places of an element: its own, and those of its attributes and of its children. -/
def Element.places (e : Element) : List SourceLocation :=
  e.location :: (e.attributes.map (·.location) ++ e.children.map (·.location))

namespace Element

variable {e : Element}

theorem location_mem_places : e.location ∈ e.places := List.mem_cons_self

theorem attribute_mem_places {a : Attribute} (h : a ∈ e.attributes) : a.location ∈ e.places :=
  List.mem_cons_of_mem _ (List.mem_append_left _ (List.mem_map_of_mem h))

theorem child_mem_places {child : Element} (h : child ∈ e.children) :
    child.location ∈ e.places :=
  List.mem_cons_of_mem _ (List.mem_append_right _ (List.mem_map_of_mem h))

theorem attribute?_mem_places {name : String} {a : Attribute} (h : e.attribute? name = some a) :
    a.location ∈ e.places :=
  attribute_mem_places (List.mem_of_find?_eq_some h)

end Element

theorem Diagnostic.Complaint.code_ne {places : List SourceLocation} {d : Diagnostic}
    (h : d.Complaint places) : d.code ≠ .undefinedSymbol ∧ d.code ≠ .unsupportedPlatform := by
  cases h with
  | @errorAt code place message hplace hcode =>
    refine ⟨?_, ?_⟩ <;> rintro (rfl : code = _) <;> cases hcode
  | deprecated message hplace => refine ⟨?_, ?_⟩ <;> rintro ⟨⟩

/-! ## Attributes -/

/-- A rule that complains about the attribute that it checks. -/
def AttributeRule.Fair (rule : AttributeRule) : Prop :=
  ∀ a, ∀ d ∈ rule.check a, d.Complaint [a.location]

section Rules

variable {d : Diagnostic} {e : Element} {rules : List AttributeRule}

theorem complaint_of_reading {α : Type} {read : Attribute → Except Diagnostic α}
    (hread : Refuses read) {a : Attribute} (hd : d ∈ Reading.faults (read a)) :
    d.Complaint [a.location] := by
  obtain ⟨message, rfl⟩ := hread.of_mem_faults hd
  exact .errorAt message (List.mem_singleton.mpr rfl) rfl

theorem fair_ofReading {α : Type} {read : Attribute → Except Diagnostic α} (hread : Refuses read)
    (name : String) : (AttributeRule.ofReading name read).Fair :=
  fun _ _ hd => complaint_of_reading hread hd

theorem AttributeRule.Standard.fair {rule : AttributeRule} (h : rule.Standard) : rule.Fair := by
  cases h with
  | text => exact fair_ofReading (.text _) _
  | identifier => exact fair_ofReading (.identifier _) _
  | yesNo => exact fair_ofReading (.yesNo _) _
  | integer => exact fair_ofReading (.integer _) _
  | guid => exact fair_ofReading (.guid _) _
  | choice => exact fair_ofReading (.choice _ _) _
  | readVariable => exact fair_ofReading (.readVariable _ _) _
  | oldName =>
    intro a d hd
    rcases List.mem_cons.mp hd with rfl | hd
    · exact .deprecated _ (List.mem_singleton.mpr rfl)
    · exact complaint_of_reading (.guid _) hd

theorem complaint_of_mem_checkAll (hrules : ∀ rule ∈ rules, rule.Standard) {element : String}
    (hd : d ∈ AttributeRule.checkAll rules element e.attributes) : d.Complaint e.places := by
  obtain ⟨a, ha, hd⟩ := List.mem_flatMap.mp hd
  have hplace := Element.attribute_mem_places ha
  rw [AttributeRule.checkStrictly, AttributeRule.check?] at hd
  cases hfind : rules.find? (·.name == a.name) with
  | none =>
    rw [hfind] at hd
    obtain rfl := List.mem_singleton.mp hd
    exact .errorAt _ hplace rfl
  | some rule =>
    rw [hfind] at hd
    cases (hrules rule (List.mem_of_find?_eq_some hfind)).fair a d hd with
    | errorAt message hmem hcode =>
      obtain rfl := List.mem_singleton.mp hmem
      exact .errorAt message hplace hcode
    | deprecated message hmem =>
      obtain rfl := List.mem_singleton.mp hmem
      exact .deprecated message hplace

theorem complaint_of_mem_missing {required : List String} {name : String}
    (hd : d ∈ missingAttributes required name e) : d.Complaint e.places := by
  obtain ⟨wanted, -, rfl⟩ := List.mem_map.mp hd
  exact .errorAt _ Element.location_mem_places rfl

theorem complaint_of_mem_unexpected {name : String} (hd : d ∈ unexpectedChildren name e) :
    d.Complaint e.places := by
  obtain ⟨child, hchild, rfl⟩ := List.mem_map.mp hd
  exact .errorAt _ (Element.child_mem_places hchild) rfl

end Rules

theorem complaint_of_mem_misplaced {enclosure : Enclosure} {e : Element} {d : Diagnostic}
    (hd : d ∈ (misplaced enclosure e).raised) : d.Complaint e.places := by
  obtain rfl := List.mem_singleton.mp hd
  exact .errorAt _ Element.location_mem_places rfl

/-! ## Unexpected attributes -/

/-- A rule complains about the value of the attribute or about its name being old, but never about
its being there. -/
theorem AttributeRule.Standard.code_ne {rule : AttributeRule} (h : rule.Standard) {a : Attribute}
    {d : Diagnostic} (hd : d ∈ rule.check a) : d.code ≠ .unexpectedAttribute := by
  have hreading : ∀ {α : Type} {read : Attribute → Except Diagnostic α}, Refuses read →
      d ∈ Reading.faults (read a) → d.code ≠ .unexpectedAttribute := by
    intro α read hread hd
    obtain ⟨message, rfl⟩ := hread.of_mem_faults hd
    exact nofun
  cases h with
  | text => exact hreading (.text _) hd
  | identifier => exact hreading (.identifier _) hd
  | yesNo => exact hreading (.yesNo _) hd
  | integer => exact hreading (.integer _) hd
  | guid => exact hreading (.guid _) hd
  | choice => exact hreading (.choice _ _) hd
  | readVariable => exact hreading (.readVariable _ _) hd
  | oldName =>
    rcases List.mem_cons.mp hd with rfl | hd
    · exact nofun
    · exact hreading (.guid _) hd

/-- Of the attributes of an element, those without a rule are reported as unexpected, once each. -/
theorem filter_checkAll {rules : List AttributeRule} (hrules : ∀ rule ∈ rules, rule.Standard)
    (element : String) (attributes : List Attribute) :
    (AttributeRule.checkAll rules element attributes).filter (·.code == .unexpectedAttribute) =
      (attributes.filter (·.name ∉ rules.map (·.name))).map fun a =>
        .unexpectedAttribute element a.name a.location := by
  induction attributes with
  | nil => rfl
  | cons a rest ih =>
    rw [AttributeRule.checkAll, List.flatMap_cons, List.filter_append, ← AttributeRule.checkAll, ih,
      AttributeRule.checkStrictly, AttributeRule.check?]
    cases hfind : rules.find? (·.name == a.name) with
    | none =>
      have hunknown : a.name ∉ rules.map (·.name) :=
        find?_eq_none_iff_notMem.mp hfind
      rw [List.filter_cons_of_pos (by simpa using hunknown)]
      rfl
    | some rule =>
      have hrule : rule ∈ rules := List.mem_of_find?_eq_some hfind
      have hname : rule.name = a.name := by simpa using List.find?_some hfind
      have hknown : a.name ∈ rules.map (·.name) := hname ▸ List.mem_map_of_mem hrule
      have hnone : (rule.check a).filter (·.code == .unexpectedAttribute) = [] := by
        rw [List.filter_eq_nil_iff]
        intro d hd
        simpa using (hrules rule hrule).code_ne hd
      rw [List.filter_cons_of_neg (by simpa using hknown), Option.map_some, Option.getD_some, hnone,
        List.nil_append]

/-! ## Searches -/

section Searches

variable {d : Diagnostic} {e : Element}

theorem complaint_of_mem_header {p : PlacedSearch} {config : Config}
    (hd : d ∈ (p.header config).raised) : d.Complaint p.element.places := by
  obtain ⟨kind, e, placement⟩ := p
  rcases List.mem_append.mp hd with hd | hd
  · cases placement with
    | topLevel => cases hd
    | nested parent =>
      obtain ⟨location, hlocation, rfl⟩ := List.mem_map.mp hd
      -- the place is that of the attribute which names the predecessor
      obtain ⟨a, ha, -, hread⟩ := exists_read_of_setting? (Option.mem_toList.mp hlocation)
      obtain rfl : a.location = location := Except.ok.inj hread
      exact .errorAt _ (Element.attribute_mem_places ha) rfl
  · exact complaint_of_mem_missing hd

theorem complaint_of_mem_codeFaults (hd : d ∈ ProductQuery.codeFaults e) :
    d.Complaint e.places := by
  have hexclusive : ∀ {name : String} {a : Attribute}, e.attribute? name = some a →
      ∀ first second, d ∈ [Diagnostic.mutuallyExclusive ProductQuery.element first second
        a.location] → d.Complaint e.places := by
    intro name a ha first second hd
    obtain rfl := List.mem_singleton.mp hd
    exact .errorAt _ (Element.attribute?_mem_places ha) rfl
  unfold ProductQuery.codeFaults at hd
  dsimp only at hd
  split at hd
  · -- beside the upgrade code, both names of the product code may be there
    rename_i hupgrade
    rcases List.mem_append.mp hd with hd | hd
    · split at hd
      · rename_i hguid _
        exact hexclusive hguid _ _ hd
      · cases hd
    · exact hexclusive hupgrade _ _ hd
  · obtain rfl := List.mem_singleton.mp hd
    exact .errorAt _ Element.location_mem_places rfl
  · split at hd
    · rename_i hguid _
      exact hexclusive hguid _ _ hd
    · cases hd

theorem complaint_of_mem_query {p : PlacedSearch} (hd : d ∈ p.query.raised) :
    d.Complaint p.element.places := by
  obtain ⟨kind, e, placement⟩ := p
  cases kind with
  | component => exact complaint_of_mem_missing hd
  | directory => exact complaint_of_mem_missing hd
  | file => exact complaint_of_mem_missing hd
  | product => exact complaint_of_mem_codeFaults hd
  | registry =>
    rcases List.mem_append.mp hd with hd | hd
    · exact complaint_of_mem_missing hd
    · unfold RegistryQuery.contradictionFaults at hd
      split at hd
      · obtain ⟨a, ha, rfl⟩ := List.mem_map.mp hd
        exact .errorAt _ (Element.attribute?_mem_places (Option.mem_toList.mp ha)) rfl
      · cases hd

theorem PlacedSearch.complaint_of_mem_faults {p : PlacedSearch} {config : Config}
    (hd : d ∈ p.faults config) : d.Complaint p.element.places := by
  rcases List.mem_append.mp hd with hd | hd
  · rcases List.mem_append.mp hd with hd | hd
    · exact complaint_of_mem_checkAll (standard_searchRules config p.kind) hd
    · exact complaint_of_mem_header hd
  · exact complaint_of_mem_query hd

theorem SearchReference.complaint_of_mem_faults {kind : SearchKind} (hd : d ∈ faults kind e) :
    d.Complaint e.places := by
  rcases List.mem_append.mp hd with hd | hd
  · rcases List.mem_append.mp hd with hd | hd
    · exact complaint_of_mem_checkAll (standard_rules kind.referenceName) hd
    · exact complaint_of_mem_missing hd
  · exact complaint_of_mem_unexpected hd

end Searches

/-! ## Elements of components -/

namespace PermissionGrant

/-- What a grant raises about its own markup. -/
def markupFaults (target : GrantTarget) (objectId : String) (e : Element) : List Diagnostic :=
  AttributeRule.checkAll (rules target.object) element e.attributes ++
    missingAttributes ["User"] element e ++ unexpectedChildren element e ++
    maskFaults target objectId e

theorem faults_eq (config : Config) (declared : List Symbol) (target : GrantTarget)
    (objectId componentId : String) (e : Element) :
    faults config declared target objectId componentId e =
      markupFaults target objectId e ++
        Reading.faults (Symbol.require ⟨target.symbol, objectId⟩ declared e.location) ++
        Reading.faults (Symbol.require ⟨.component, componentId⟩ declared e.location) ++
        Reading.faults (NativeAction.secureObjects.require config element e.location) := rfl

theorem complaint_of_mem_markupFaults {target : GrantTarget} {objectId : String} {e : Element}
    {d : Diagnostic} (hd : d ∈ markupFaults target objectId e) : d.Complaint e.places := by
  simp only [markupFaults, List.mem_append] at hd
  rcases hd with ((hd | hd) | hd) | hd
  · exact complaint_of_mem_checkAll (standard_rules target.object) hd
  · exact complaint_of_mem_missing hd
  · exact complaint_of_mem_unexpected hd
  · unfold maskFaults at hd
    split at hd
    · obtain rfl := List.mem_singleton.mp hd
      exact .errorAt _ Element.location_mem_places rfl
    · cases hd

end PermissionGrant

namespace EventSource

/-- What an event source raises about its own markup. -/
def markupFaults (e : Element) : List Diagnostic :=
  AttributeRule.checkAll rules element e.attributes ++
    missingAttributes ["Name", "Log", "EventMessageFile"] element e ++ categoryFaults e ++
    unexpectedChildren element e

theorem faults_eq (declared : List Symbol) (componentId : String) (e : Element) :
    faults declared componentId e = markupFaults e ++
      Reading.faults (Symbol.require ⟨.component, componentId⟩ declared e.location) := rfl

theorem complaint_of_mem_markupFaults {e : Element} {d : Diagnostic} (hd : d ∈ markupFaults e) :
    d.Complaint e.places := by
  simp only [markupFaults, categoryFaults, List.mem_append] at hd
  rcases hd with ((hd | hd) | hd | hd) | hd
  · exact complaint_of_mem_checkAll standard_rules hd
  · exact complaint_of_mem_missing hd
  · split at hd
    · exact complaint_of_mem_missing hd
    · cases hd
  · split at hd
    · exact complaint_of_mem_missing hd
    · cases hd
  · exact complaint_of_mem_unexpected hd

end EventSource

end InstallMarkup
