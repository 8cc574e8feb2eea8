import InstallMarkup.Proofs.Reading.Reordering
import InstallMarkup.Proofs.Run.Faults
import InstallMarkup.Proofs.Run.Lockstep

/-!
# Attribute order never matters

Two units that differ only in the order of attributes, on any elements at any depth, compile to the
same tables, row by row, to the same references and edges, and to the same diagnostics in perhaps
another order. If one of them is refused, so is the other: the two runs are stopped by the same
element for the same cause (`compile_reordered`).

The runs are in step with equal identifiers (`reordering`), since each kind of element raises the
same complaints and emits the same in any order of its attributes. Which element stops them can be
read off the sites of the two trees, which correspond one by one (`sites_of_reordered`).
-/

namespace InstallMarkup

/-! ## Units -/

/-- Items in the same host whose elements differ at most in the order of attributes. -/
structure UnitItem.Reordered (item item' : UnitItem) : Prop where
  host : item.host = item'.host
  element : item.element.Reordered item'.element

/-- Units that differ at most in the order of attributes. -/
structure CompilationUnit.Reordered (unit unit' : CompilationUnit) : Prop where
  name : unit.name = unit'.name
  items : List.Forall₂ UnitItem.Reordered unit.items unit'.items
  declared : unit.declared = unit'.declared

/-- Compiled units that differ at most in the order of their diagnostics. -/
structure CompiledUnit.Reordered (u u' : CompiledUnit) : Prop where
  name : u.name = u'.name
  tables : u.tables = u'.tables
  references : u.references = u'.references
  edges : u.edges = u'.edges
  diagnostics : u.diagnostics.Perm u'.diagnostics
  collisions : u.collisions = u'.collisions

/-! ## Runs in step -/

/-- The same complaints in perhaps another order, and the same emission. -/
structure Assessment.Reordered (a a' : Assessment Emission) : Prop where
  raised : a.raised.Perm a'.raised
  value : a.value = a'.value

section Elements

variable {e e' : Element}

/-- An element without a name has none in any order of its attributes, and an attribute that stands
twice does so in any order, though perhaps another one is found to. -/
theorem structureFault?_of_reordered (h : e.Reordered e') :
    Option.Rel (fun f f' => f.name = f'.name) e.structureFault? e'.structureFault? := by
  by_cases hname : e.name = ""
  · have hname' : e'.name = "" := h.name ▸ hname
    rw [Element.structureFault?, Element.structureFault?, if_pos (by simp [hname]),
      if_pos (by simp [hname'])]
    exact .some rfl
  · have hname' : e'.name ≠ "" := h.name ▸ hname
    have hnodup : (e.attributes.map (·.name)).Nodup ↔ (e'.attributes.map (·.name)).Nodup :=
      (h.attributes.map _).nodup_iff
    have hnone : e.structureFault? = none ↔ e'.structureFault? = none := by
      rw [structureFault?_eq_none_iff, structureFault?_eq_none_iff, h.name, hnodup]
    -- with a name, the only fault is an attribute that stands twice
    have hcause : ∀ e : Element, e.name ≠ "" → ∀ fault, e.structureFault? = some fault →
        fault.name = "DuplicateAttribute" := by
      intro e hname fault hfault
      simp only [Element.structureFault?, String.isEmpty_iff, hname, if_false] at hfault
      obtain ⟨a, -, rfl⟩ := Option.map_eq_some_iff.mp hfault
      rfl
    cases hfault : e.structureFault? with
    | none =>
      rw [hnone.mp hfault]
      exact .none
    | some fault =>
      cases hfault' : e'.structureFault? with
      | none =>
        rw [hnone.mpr hfault'] at hfault
        cases hfault
      | some fault' =>
        exact .some ((hcause e hname _ hfault).trans (hcause e' hname' _ hfault').symm)

variable (h : e.Reordered e') (hstructure : e.structureFault? = none)
include h hstructure

theorem PlacedSearch.faults_of_reordered (kind : SearchKind) (placement : Placement)
    (config : Config) : (PlacedSearch.faults ⟨kind, e, placement⟩ config).Perm
      (PlacedSearch.faults ⟨kind, e', placement⟩ config) := by
  have hreads := h.readsAlike hstructure
  rw [faults, faults, hreads.header, query, query, hreads.assessQuery]
  exact ((checkAll_perm _ _ h.attributes).append_right _).append_right _

theorem PlacedSearch.search?_of_reordered (kind : SearchKind) (placement : Placement)
    (config : Config) : PlacedSearch.search? ⟨kind, e, placement⟩ config =
      PlacedSearch.search? ⟨kind, e', placement⟩ config := by
  have hreads := h.readsAlike hstructure
  have hclean : PlacedSearch.isClean ⟨kind, e, placement⟩ config =
      PlacedSearch.isClean ⟨kind, e', placement⟩ config :=
    Assessment.clean_of_perm (faults_of_reordered h hstructure kind placement config) _
  rw [search?, search?, hclean, hreads.header, query, query, hreads.assessQuery]

theorem SearchReference.assess_of_reordered (strict : Bool) (kind : SearchKind) :
    (assess strict kind e).Reordered (assess strict kind e') := by
  have hreads := h.readsAlike hstructure
  have hfaults : (faults kind e).Perm (faults kind e') := by
    rw [faults, faults, hreads.missing, hreads.unexpected]
    exact ((checkAll_perm _ _ h.attributes).append_right _).append_right _
  refine ⟨?_, ?_⟩
  · rw [raised_assess, raised_assess]
    exact hfaults
  · rw [assess_eq_match, assess_eq_match, hreads.setting, Assessment.clean_of_perm hfaults]
    split
    · split <;> rfl
    · rfl

theorem PermissionGrant.assessOn_of_reordered (config : Config) (declared : List Symbol)
    (target : GrantTarget) (objectId componentId : String) :
    (assessOn config declared target objectId componentId e).Reordered
      (assessOn config declared target objectId componentId e') := by
  have hreads := h.readsAlike hstructure
  have hmask := mask?_of_perm target.object h.attributes
  have hfaults : (faults config declared target objectId componentId e).Perm
      (faults config declared target objectId componentId e') := by
    rw [faults, faults, hreads.missing, hreads.unexpected, maskFaults, maskFaults, hmask,
      hreads.location]
    simp only [List.perm_append_right_iff]
    exact checkAll_perm _ _ h.attributes
  refine ⟨?_, ?_⟩
  · rw [raised_assessOn, raised_assessOn]
    exact hfaults
  · rw [assessOn_eq_match, assessOn_eq_match, hreads.setting, hreads.setting, hmask,
      hreads.location, Assessment.clean_of_perm hfaults]
    split
    · split <;> rfl
    · rfl

theorem EventSource.assessment_of_reordered (strict : Bool) (declared : List Symbol)
    (componentId : String) : (assessment strict declared componentId e).Reordered
      (assessment strict declared componentId e') := by
  have hreads := h.readsAlike hstructure
  have hfaults : (faults declared componentId e).Perm (faults declared componentId e') := by
    rw [faults, faults, categoryFaults, categoryFaults, hreads.has, hreads.has, hreads.missing,
      hreads.missing, hreads.missing, hreads.unexpected, hreads.location]
    simp only [List.perm_append_right_iff]
    exact checkAll_perm _ _ h.attributes
  refine ⟨?_, ?_⟩
  · rw [raised_assessment, raised_assessment]
    exact hfaults
  · unfold assessment
    rw [hreads.setting, hreads.setting, hreads.setting, hreads.optionalValues, hreads.location,
      Assessment.clean_of_perm hfaults]
    split
    · split <;> rfl
    · rfl

end Elements

/-- Elements come to the same in any order of their attributes, so the searches around the ones
nested in them have the same identifiers. -/
def reordering (setting : Setting) : Lockstep setting setting where
  Ids := Eq
  Elements := Element.Reordered
  Visits := Assessment.Reordered
  Faults := fun f f' => f.name = f'.name
  name := Element.Reordered.name
  children := Element.Reordered.children
  malformed := structureFault?_of_reordered
  lacking := by
    intro e e' _ parent key
    rfl
  misplaced := by
    intro e e' he enclosure
    rw [misplaced, misplaced, he.name, he.location]
    exact ⟨.rfl, rfl⟩
  search := by
    intro e e' he hstructure _ placement placement' halike kind
    obtain rfl := halike.eq
    have hsearch := PlacedSearch.search?_of_reordered he hstructure kind placement setting.config
    refine ⟨⟨?_, ?_⟩, ?_⟩
    · exact PlacedSearch.faults_of_reordered he hstructure kind placement setting.config
    · rw [PlacedSearch.assessment, PlacedSearch.assessment, hsearch]
    · rw [PlacedSearch.id?, PlacedSearch.id?, hsearch]
  searchReference := by
    intro e e' he hstructure _ kind
    exact SearchReference.assess_of_reordered he hstructure _ kind
  permissionGrant := by
    intro e e' he hstructure _ target objectId componentId
    exact PermissionGrant.assessOn_of_reordered he hstructure _ _ target objectId componentId
  eventSource := by
    intro e e' he hstructure _ componentId
    exact EventSource.assessment_of_reordered he hstructure _ _ componentId

/-! ## Where runs stop -/

/-- Sites in the same host whose elements differ at most in the order of attributes. -/
structure Site.Reordered (site site' : Site) : Prop where
  host : site.host? = site'.host?
  element : site.element.Reordered site'.element

/-- Corresponding sites offend alike, if they do. -/
theorem Site.Reordered.fault? {site site' : Site} (h : site.Reordered site') :
    Option.Rel (fun f f' => f.name = f'.name) site.fault? site'.fault? := by
  have hstructure := structureFault?_of_reordered h.element
  rw [Site.fault?, Site.fault?]
  generalize site.element.structureFault? = found at hstructure
  generalize site'.element.structureFault? = found' at hstructure
  cases hstructure with
  | some hname => exact .some hname
  | none =>
    rw [Option.none_or, Option.none_or, h.host, h.element.name, h.element.location]
    generalize (site'.host?.bind _ : Option CompileFault) = lacked
    cases lacked with
    | none => exact .none
    | some fault => exact .some rfl

mutual

/-- The sites of two trees that differ in the order of attributes correspond one by one. -/
theorem sites_of_reordered (host? : Option Host) : ∀ {e e' : Element}, e.Reordered e' →
    List.Forall₂ Site.Reordered (e.sites host?) (e'.sites host?)
  | ⟨name, attributes, children, location⟩, e', h => by
    have hopens : Site.opens ⟨host?, ⟨name, attributes, children, location⟩⟩ =
        Site.opens ⟨host?, e'⟩ := by
      unfold Site.opens
      rw [h.name]
    rw [sites_eq, sites_eq, hopens]
    refine .cons ⟨rfl, h⟩ ?_
    cases Site.opens ⟨host?, e'⟩ with
    | false => exact .nil
    | true => exact nestedSites_of_reordered h.children

theorem nestedSites_of_reordered : ∀ {es es' : List Element},
    List.Forall₂ Element.Reordered es es' →
      List.Forall₂ Site.Reordered (nestedSites es) (nestedSites es')
  | [], [], .nil => .nil
  | e :: rest, e' :: rest', .cons he hrest => by
    rw [nestedSites, nestedSites]
    exact List.rel_append (sites_of_reordered none he) (nestedSites_of_reordered hrest)

end

theorem CompilationUnit.Reordered.sites {unit unit' : CompilationUnit} (h : unit.Reordered unit') :
    List.Forall₂ Site.Reordered unit.sites unit'.sites := by
  have hitems := h.items
  rw [CompilationUnit.sites, CompilationUnit.sites]
  generalize unit.items = items at hitems
  generalize unit'.items = items' at hitems
  induction hitems with
  | nil => exact .nil
  | @cons item item' rest rest' hitem _ ih =>
    rw [List.flatMap_cons, List.flatMap_cons, hitem.host]
    exact List.rel_append (sites_of_reordered (some item'.host) hitem.element) ih

/-- Both runs are stopped, by corresponding sites and for the same cause. -/
inductive StoppedAlike : List Site → List Site → CompileFault → CompileFault → Prop
  | offender {sites sites' before before' after after' : List Site} {site site' : Site}
      {fault fault' : CompileFault} (hsites : sites = before ++ site :: after)
      (hsites' : sites' = before' ++ site' :: after')
      (hbefore : List.Forall₂ Site.Reordered before before') (hsite : site.Reordered site')
      (hfirst : ∀ earlier ∈ before, ∀ f, ¬ earlier.Offends f)
      (hfirst' : ∀ earlier ∈ before', ∀ f, ¬ earlier.Offends f)
      (hoffends : site.Offends fault) (hoffends' : site'.Offends fault')
      (hcause : fault.name = fault'.name) : StoppedAlike sites sites' fault fault'

/-- Where sites correspond one by one, the first that offends on one side is matched by the first
that does on the other. -/
theorem stoppedAlike_of_forall₂ {sites sites' : List Site}
    (h : List.Forall₂ Site.Reordered sites sites') {fault fault' : CompileFault}
    (hfault : sites.findSome? Site.fault? = some fault)
    (hfault' : sites'.findSome? Site.fault? = some fault') :
    StoppedAlike sites sites' fault fault' := by
  induction h with
  | nil => cases hfault
  | @cons site site' rest rest' hsite hrest ih =>
    have hrel := hsite.fault?
    rw [List.findSome?_cons] at hfault hfault'
    generalize hfound : site.fault? = found at hrel hfault
    generalize hfound' : site'.fault? = found' at hrel hfault'
    cases hrel with
    | @some found found' hcause =>
      obtain rfl : found = fault := Option.some.inj hfault
      obtain rfl : found' = fault' := Option.some.inj hfault'
      have hsplit : site :: rest = [] ++ site :: rest := rfl
      have hsplit' : site' :: rest' = [] ++ site' :: rest' := rfl
      exact .offender hsplit hsplit' .nil hsite (fun _ hmem => absurd hmem List.not_mem_nil)
        (fun _ hmem => absurd hmem List.not_mem_nil) (Site.fault?_eq_some_iff.mp hfound)
        (Site.fault?_eq_some_iff.mp hfound') hcause
    | none =>
      -- neither offends, so the first offender is further on, on both sides
      cases ih hfault hfault' with
      | offender hsites hsites' hbefore hsite' hfirst hfirst' hoffends hoffends' hcause =>
        refine .offender (congrArg (site :: ·) hsites) (congrArg (site' :: ·) hsites')
          (.cons hsite hbefore) hsite' ?_ ?_ hoffends hoffends' hcause
        · exact List.forall_mem_cons.mpr ⟨Site.fault?_eq_none_iff.mp hfound, hfirst⟩
        · exact List.forall_mem_cons.mpr ⟨Site.fault?_eq_none_iff.mp hfound', hfirst'⟩

/-! ## Compiled units -/

section Visits

variable {visits visits' : List (Assessment Emission)}
  (h : List.Forall₂ Assessment.Reordered visits visits')
include h

theorem raised_of_reordered :
    (visits.flatMap (·.raised)).Perm (visits'.flatMap (·.raised)) := by
  induction h with
  | nil => exact .rfl
  | cons ha _ ih =>
    rw [List.flatMap_cons, List.flatMap_cons]
    exact ha.raised.append ih

theorem values_of_reordered : visits.filterMap (·.value) = visits'.filterMap (·.value) :=
  filterMap_eq_of_forall₂ h fun _ _ ha => ha.value

/-- Visits that come to the same in perhaps another order leave the same unit behind, except for the
order of the diagnostics. -/
theorem CompiledUnit.ofVisits_of_reordered (name : String) (config : Config) :
    (ofVisits name config visits).Reordered (ofVisits name config visits') := by
  obtain ⟨htables, hreferences, hedges, hcollisions⟩ :=
    output_ofVisits name name config (values_of_reordered h)
  refine ⟨rfl, htables, hreferences, hedges, ?_, hcollisions⟩
  rw [diagnostics_ofVisits, diagnostics_ofVisits]
  exact (raised_of_reordered h).map _

end Visits

/-- Units that differ only in the order of attributes are both refused, for the same cause and
because of the same element, or both compiled, to the same but for the order of the diagnostics. -/
theorem compile_reordered {unit unit' : CompilationUnit} (h : unit.Reordered unit')
    (config : Config) :
    EndAlike (StoppedAlike unit.sites unit'.sites) CompiledUnit.Reordered (unit.compile config)
      (unit'.compile config) := by
  have hsites := h.sites
  obtain ⟨name, items, declared⟩ := unit
  obtain ⟨name', items', declared'⟩ := unit'
  obtain ⟨rfl, hitems, rfl⟩ := h
  have hend := (reordering { config, declared }).compileWith
    (hitems.imp fun item item' hitem => ⟨hitem.host, hitem.element⟩) .full
  refine hend.imp ?_ ?_
  · intro fault fault' hfault hfault' _
    exact stoppedAlike_of_forall₂ hsites (CompilationUnit.compile_eq_error_iff.mp hfault)
      (CompilationUnit.compile_eq_error_iff.mp hfault')
  · rintro u u' ⟨hvisits, rfl, rfl⟩
    exact CompiledUnit.ofVisits_of_reordered hvisits name config

/-- A directory search, and in it a file search with the given attributes. -/
def nestedFileSearch (attributes : List Attribute) : CompilationUnit where
  name := "unit"
  items := [
    { host := { kind := .bundle }
      element :=
        { name := "DirectorySearch"
          attributes := [⟨"Id", "Outer", {}⟩, ⟨"Variable", "Folder", {}⟩, ⟨"Path", "app", {}⟩]
          children := [{ name := "FileSearch", attributes }] } }]

/-- The attributes of a file search, one of them with an illegal value and one unknown. -/
def flawedAttributes : List Attribute :=
  [⟨"Variable", "Found", {}⟩, ⟨"Path", "app.exe", {}⟩, ⟨"Result", "size", {}⟩, ⟨"Size", "1", {}⟩]

/-- The two complaints about the nested search change places with its attributes. -/
theorem compile_reordered_nested :
    let unit := nestedFileSearch flawedAttributes
    let unit' := nestedFileSearch flawedAttributes.reverse
    let config : Config := { allowBuiltinVariables := true }
    unit.Reordered unit' ∧
      (unit.compile config).map (·.diagnostics.map (·.code)) =
        .ok [.illegalAttributeValue, .unexpectedAttribute] ∧
      (unit'.compile config).map (·.diagnostics.map (·.code)) =
        .ok [.unexpectedAttribute, .illegalAttributeValue] ∧
      EndAlike (StoppedAlike unit.sites unit'.sites) CompiledUnit.Reordered (unit.compile config)
        (unit'.compile config) := by
  intro unit unit' config
  have hnested : List.Forall₂ Element.Reordered [⟨"FileSearch", flawedAttributes, [], {}⟩]
      [⟨"FileSearch", flawedAttributes.reverse, [], {}⟩] :=
    .cons (.mk (List.reverse_perm flawedAttributes).symm .nil) .nil
  have hunit : unit.Reordered unit' := ⟨rfl, .cons ⟨rfl, .mk .rfl hnested⟩ .nil, rfl⟩
  exact ⟨hunit, by decide +kernel, by decide +kernel, compile_reordered hunit config⟩

end InstallMarkup
