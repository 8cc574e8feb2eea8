import InstallMarkup.Proofs.Component.References
import InstallMarkup.Proofs.Reading.Complaints
import InstallMarkup.Proofs.Run.Lockstep

/-!
# Platforms and action prefixes

The platform and the prefix of actions are in reach of all that is compiled, but only grants look at
them. So a unit compiles for one platform as for another, up to its grants: they name their action
after the platform and the prefix, and on 32-bit ARM, where the action is not built, each is refused
with a complaint of its own (`compile_retargeted`).

Every run is compared with one and the same run (`targeting`), for a platform with the action. What
an emission is on another platform is told by the name that the action has there
(`Emission.retarget?`), and the complaints are the same but for those about the platform.
-/

namespace InstallMarkup

/-- The same configuration for another platform and with another prefix of actions. -/
def Config.targeting (config : Config) (platform : Platform) (actionPrefix : String) : Config :=
  { config with platform, actionPrefix }

theorem supports_secureObjects_iff (platform : Platform) :
    NativeAction.secureObjects.platforms.supports platform = true ↔ platform ≠ .arm := by
  cases platform <;> decide

theorem actionName?_eq_none_iff {config : Config} :
    config.actionName? .secureObjects = none ↔ config.platform = .arm := by
  unfold Config.actionName?
  split
  · rename_i hsupported
    simpa using (supports_secureObjects_iff config.platform).mp hsupported
  · rename_i hsupported
    rw [supports_secureObjects_iff, not_not] at hsupported
    simpa using hsupported

/-- A complaint that is not about the platform. -/
def Diagnostic.notPlatform (d : Diagnostic) : Bool := d.code != .unsupportedPlatform

theorem Diagnostic.notPlatform_graded (d : Diagnostic) (strict : Bool) :
    (d.graded strict).notPlatform = d.notPlatform := by
  unfold Diagnostic.notPlatform Diagnostic.graded
  split <;> rfl

/-- What the emission is where the action of grants has the name, if it has one. -/
def Emission.retarget? (name? : Option String) : Emission → Option Emission
  | .grant row object component _ => name?.map (.grant row object component)
  | em => some em

/-! ## Elements -/

/-- `a` is what `ref` comes to where the action of grants has the name, if it has one. -/
structure Assessment.Retargets (name? : Option String) (ref a : Assessment Emission) : Prop where
  complaints : ref.raised = a.raised.filter Diagnostic.notPlatform
  built : name? ≠ none → a.raised = ref.raised
  value : a.value = ref.value.bind (·.retarget? name?)

section Elements

theorem filter_notPlatform {ds : List Diagnostic} (h : ∀ d ∈ ds, d.code ≠ .unsupportedPlatform) :
    ds.filter Diagnostic.notPlatform = ds :=
  List.filter_eq_self.mpr fun d hd => by simpa [Diagnostic.notPlatform] using h d hd

/-- What emits no grant, and does not complain about the platform, is the same everywhere. -/
theorem retargets_self {name? : Option String} {a : Assessment Emission}
    (hraised : ∀ d ∈ a.raised, d.code ≠ .unsupportedPlatform)
    (hvalue : ∀ em, a.value = some em → em.retarget? name? = some em) : a.Retargets name? a where
  complaints := (filter_notPlatform hraised).symm
  built := fun _ => rfl
  value := by
    cases h : a.value with
    | none => rfl
    | some em => exact (hvalue em h).symm

variable {name? : Option String}

theorem retargets_misplaced (enclosure : Enclosure) (e : Element) :
    (misplaced enclosure e).Retargets name? (misplaced enclosure e) := by
  refine retargets_self ?_ ?_
  · intro d hd
    exact (complaint_of_mem_misplaced hd).code_ne.2
  · rintro em ⟨⟩

theorem retargets_search (p : PlacedSearch) (config : Config) :
    (p.assessment config).Retargets name? (p.assessment config) := by
  refine retargets_self ?_ ?_
  · intro d hd
    exact (PlacedSearch.complaint_of_mem_faults hd).code_ne.2
  · intro em hem
    obtain ⟨s, -, rfl⟩ := Option.map_eq_some_iff.mp hem
    rfl

theorem retargets_searchReference (strict : Bool) (kind : SearchKind) (e : Element) :
    (SearchReference.assess strict kind e).Retargets name?
      (SearchReference.assess strict kind e) := by
  refine retargets_self ?_ ?_
  · intro d hd
    rw [SearchReference.raised_assess] at hd
    exact (SearchReference.complaint_of_mem_faults hd).code_ne.2
  · intro em hem
    obtain ⟨id, rfl, -⟩ := SearchReference.of_value hem
    rfl

theorem code_ne_of_mem_require {declared : List Symbol} {symbol : Symbol}
    {location : SourceLocation} {d : Diagnostic}
    (hd : d ∈ Reading.faults (symbol.require declared location)) :
    d.code ≠ .unsupportedPlatform := by
  unfold Symbol.require at hd
  split at hd
  · cases hd
  · obtain rfl := List.mem_singleton.mp hd
    rintro ⟨⟩

theorem retargets_eventSource (strict : Bool) (declared : List Symbol) (componentId : String)
    (e : Element) : (EventSource.assessment strict declared componentId e).Retargets name?
      (EventSource.assessment strict declared componentId e) := by
  refine retargets_self ?_ ?_
  · intro d hd
    rw [EventSource.raised_assessment, EventSource.faults_eq] at hd
    rcases List.mem_append.mp hd with hd | hd
    · exact (EventSource.complaint_of_mem_markupFaults hd).code_ne.2
    · exact code_ne_of_mem_require hd
  · intro em hem
    obtain ⟨source, rfl⟩ := EventSource.accepted_of_value hem
    rfl

namespace PermissionGrant

variable {config config' : Config} {declared : List Symbol} {target : GrantTarget}
  {objectId componentId : String} {e : Element}

theorem code_ne_of_mem_faults {name : String}
    (hname : config.actionName? .secureObjects = some name) {d : Diagnostic}
    (hd : d ∈ faults config declared target objectId componentId e) :
    d.code ≠ .unsupportedPlatform := by
  simp only [faults_eq, NativeAction.require, hname, Reading.faults, List.append_nil,
    List.mem_append] at hd
  rcases hd with (hd | hd) | hd
  · exact (complaint_of_mem_markupFaults hd).code_ne.2
  · exact code_ne_of_mem_require hd
  · exact code_ne_of_mem_require hd

theorem faults_of_built {name name' : String}
    (hname : config.actionName? .secureObjects = some name)
    (hname' : config'.actionName? .secureObjects = some name') :
    faults config' declared target objectId componentId e =
      faults config declared target objectId componentId e := by
  simp only [faults_eq, NativeAction.require, hname, hname', Reading.faults]

/-- Where the action is not built, a grant complains about it besides. -/
theorem faults_of_unbuilt {name : String} (hname : config.actionName? .secureObjects = some name)
    (hname' : config'.actionName? .secureObjects = none) :
    faults config' declared target objectId componentId e =
      faults config declared target objectId componentId e ++
        [.unsupportedPlatform element config'.platform.name e.location] := by
  simp only [faults_eq, NativeAction.require, hname, hname', Reading.faults, List.append_nil]

/-- Where the action is built, a grant emits the same but for the name of the action. -/
theorem value_of_built {name name' : String} (hname : config.actionName? .secureObjects = some name)
    (hname' : config'.actionName? .secureObjects = some name')
    (hstrict : config'.warningsAsErrors = config.warningsAsErrors) :
    (assessOn config' declared target objectId componentId e).value =
      (assessOn config declared target objectId componentId e).value.bind
        (·.retarget? (some name')) := by
  rw [assessOn_eq_match, assessOn_eq_match, faults_of_built hname hname', hstrict]
  simp only [NativeAction.require, hname, hname']
  cases setting? e.attributes "User" (·.text element) with
  | none => rfl
  | some user =>
    cases mask? target.object e.attributes with
    | none => rfl
    | some permission =>
      cases Symbol.require ⟨target.symbol, objectId⟩ declared e.location with
      | error d => rfl
      | ok object =>
        cases Symbol.require ⟨.component, componentId⟩ declared e.location with
        | error d => rfl
        | ok component =>
          dsimp only
          split <;> rfl

theorem value_of_unbuilt (hname : config.actionName? .secureObjects = none) :
    (assessOn config declared target objectId componentId e).value = none := by
  cases hvalue : (assessOn config declared target objectId componentId e).value with
  | none => rfl
  | some em =>
    obtain ⟨g, -⟩ := accepted_of_value hvalue
    rw [g.action_built] at hname
    cases hname

/-- What a grant comes to for any platform, told from what it comes to where the action is built. -/
theorem retargets_assessOn {name : String} (hname : config.actionName? .secureObjects = some name)
    (hstrict : config'.warningsAsErrors = config.warningsAsErrors) :
    (assessOn config declared target objectId componentId e).Retargets
      (config'.actionName? .secureObjects)
      (assessOn config' declared target objectId componentId e) := by
  have hcodes : (faults config declared target objectId componentId e).filter
      Diagnostic.notPlatform = faults config declared target objectId componentId e :=
    filter_notPlatform fun d hd => code_ne_of_mem_faults hname hd
  cases hname' : config'.actionName? .secureObjects with
  | some name' =>
    have hraised : (assessOn config' declared target objectId componentId e).raised =
        (assessOn config declared target objectId componentId e).raised := by
      rw [raised_assessOn, raised_assessOn, faults_of_built hname hname']
    refine ⟨?_, fun _ => hraised, value_of_built hname hname' hstrict⟩
    rw [hraised, raised_assessOn, hcodes]
  | none =>
    refine ⟨?_, fun hbuilt => absurd rfl hbuilt, ?_⟩
    · rw [raised_assessOn, raised_assessOn, faults_of_unbuilt hname hname', List.filter_append,
        hcodes]
      exact (List.append_nil _).symm
    · rw [value_of_unbuilt hname']
      cases hvalue : (assessOn config declared target objectId componentId e).value with
      | none => rfl
      | some em =>
        obtain ⟨g, rfl⟩ := accepted_of_value hvalue
        rfl

end PermissionGrant

end Elements

/-- Only grants look at the platform, so the searches around the ones nested in them have the same
identifiers. -/
def targeting (setting : Setting) {name : String}
    (hname : setting.config.actionName? .secureObjects = some name) (platform : Platform)
    (actionPrefix : String) :
    Lockstep setting { setting with config := setting.config.targeting platform actionPrefix } :=
  Lockstep.sameTree Eq
    (Assessment.Retargets
      ((setting.config.targeting platform actionPrefix).actionName? .secureObjects))
    retargets_misplaced
    (by
      intro e placement placement' halike kind
      obtain rfl := halike.eq
      exact ⟨retargets_search ⟨kind, e, placement⟩ setting.config, rfl⟩)
    (by
      intro e kind
      exact retargets_searchReference setting.config.warningsAsErrors kind e)
    (by
      intro e target objectId componentId
      exact PermissionGrant.retargets_assessOn hname rfl)
    (by
      intro e componentId
      exact retargets_eventSource setting.config.warningsAsErrors setting.declared componentId e)

/-! ## Compiled units -/

section Visits

variable {name? : Option String} {visits visits' : List (Assessment Emission)}

theorem values_of_retargets (h : List.Forall₂ (Assessment.Retargets name?) visits visits') :
    visits'.filterMap (·.value) =
      (visits.filterMap (·.value)).filterMap (·.retarget? name?) := by
  rw [List.filterMap_filterMap]
  exact (filterMap_eq_of_forall₂ h fun _ _ ha => ha.value.symm).symm

theorem raised_of_retargets (h : List.Forall₂ (Assessment.Retargets name?) visits visits') :
    visits.flatMap (·.raised) =
      (visits'.flatMap (·.raised)).filter Diagnostic.notPlatform := by
  rw [List.filter_flatMap]
  exact flatMap_eq_of_forall₂ h fun _ _ ha => ha.complaints

theorem raised_of_built (hname : name? ≠ none)
    (h : List.Forall₂ (Assessment.Retargets name?) visits visits') :
    visits'.flatMap (·.raised) = visits.flatMap (·.raised) :=
  (flatMap_eq_of_forall₂ h fun _ _ ha => (ha.built hname).symm).symm

/-- Retargeting an emission keeps what it adds, if that does not depend on the name of the action
and is there only where the action is. -/
theorem elim_retarget {β : Type} {f : Emission → List β}
    (hbuilt : ∀ row object component action name, name? = some name →
      f (.grant row object component name) = f (.grant row object component action))
    (hunbuilt : name? = none → ∀ row object component action,
      f (.grant row object component action) = []) (em : Emission) :
    (em.retarget? name?).elim [] f = f em := by
  cases em with
  | grant row object component action =>
    cases name? with
    | some name => exact hbuilt row object component action name rfl
    | none => exact (hunbuilt rfl row object component action).symm
  | _ => rfl

theorem flatMap_retarget {β : Type} {f : Emission → List β}
    (hf : ∀ em, (em.retarget? name?).elim [] f = f em) (ems : List Emission) :
    (ems.filterMap (·.retarget? name?)).flatMap f = ems.flatMap f := by
  induction ems with
  | nil => rfl
  | cons em ems ih =>
    have hem := hf em
    rw [List.filterMap_cons, List.flatMap_cons]
    cases hretarget : em.retarget? name? with
    | none =>
      rw [hretarget] at hem
      rw [ih, ← hem]
      rfl
    | some em' =>
      rw [hretarget] at hem
      rw [List.flatMap_cons, ih, ← hem]
      rfl

/-- Retargeting leaves all but grants alone. -/
theorem flatMap_retarget_of_empty {β : Type} {f : Emission → List β}
    (hf : ∀ row object component action, f (.grant row object component action) = [])
    (ems : List Emission) : (ems.filterMap (·.retarget? name?)).flatMap f = ems.flatMap f := by
  refine flatMap_retarget (elim_retarget ?_ ?_) ems
  · intro row object component action name _
    rw [hf, hf]
  · intro _
    exact hf

theorem hard_subset_of_retarget {ems : List Emission} {symbol : Symbol}
    (h : symbol ∈ (ems.filterMap (·.retarget? name?)).flatMap Emission.hard) :
    symbol ∈ ems.flatMap Emission.hard := by
  obtain ⟨em', hem', hsymbol⟩ := List.mem_flatMap.mp h
  obtain ⟨em, hem, hretarget⟩ := List.mem_filterMap.mp hem'
  refine List.mem_flatMap.mpr ⟨em, hem, ?_⟩
  cases em with
  | grant row object component action =>
    obtain ⟨name, -, rfl⟩ := Option.map_eq_some_iff.mp hretarget
    exact hsymbol
  | _ =>
    cases hretarget
    exact hsymbol

end Visits

namespace CompiledUnit

/-- `u` is what `ref` comes to for the platform. -/
structure Retargets (platform : Platform) (ref u : CompiledUnit) : Prop where
  edges : u.edges = ref.edges
  soft : u.references.soft = ref.references.soft
  rows : ∀ table, table ≠ .permissionGrant → u.tables.rows table = ref.tables.rows table
  complaints : ref.diagnostics = u.diagnostics.filter Diagnostic.notPlatform
  hard : ∀ symbol ∈ u.references.hard, symbol ∈ ref.references.hard
  built : platform ≠ .arm → u.tables.rows .permissionGrant = ref.tables.rows .permissionGrant ∧
    u.references.hard = ref.references.hard ∧ u.diagnostics = ref.diagnostics
  unbuilt : platform = .arm →
    u.tables.rows .permissionGrant = [] ∧ u.references.actions = []

variable {config config' : Config} {declared : List Symbol}
  {visits visits' : List (Assessment Emission)}

theorem ofVisits_of_unbuilt (name : String) (hplatform : config.platform = .arm)
    (hsource : ∀ em ∈ visits.filterMap (·.value), em.Source { config, declared }) :
    (ofVisits name config visits).tables.rows .permissionGrant = [] ∧
      (ofVisits name config visits).references.actions = [] := by
  -- no emission was a grant, since an accepted grant would have the name of the action
  have hplain : ∀ em ∈ visits.filterMap (·.value),
      em.actions = [] ∧ ∀ row ∈ em.rows, row.table ≠ .permissionGrant := by
    intro em hem
    rcases grants_of_source (hsource em hem) with hplain | ⟨row, -, -, harm, -⟩
    · exact hplain
    · exact absurd hplatform harm
  refine ⟨?_, ?_⟩
  · have hnone : ((visits.filterMap (·.value)).flatMap Emission.rows).filter
        (·.table == .permissionGrant) = [] := by
      rw [List.filter_eq_nil_iff]
      intro row hrow
      obtain ⟨em, hem, hrow⟩ := List.mem_flatMap.mp hrow
      simpa using (hplain em hem).2 row hrow
    rw [rows_ofVisits, hnone, grow_nil]
  · have hnone : (visits.filterMap (·.value)).flatMap Emission.actions = [] :=
      List.flatMap_eq_nil_iff.mpr fun em hem => (hplain em hem).1
    rw [references_ofVisits, hnone]
    rfl

/-- Where the action is built, visits leave the same grants behind, and need and raise the same. -/
theorem ofVisits_of_built (name : String) (hplatform : config'.platform ≠ .arm)
    (hstrict : config'.warningsAsErrors = config.warningsAsErrors)
    (h : List.Forall₂ (Assessment.Retargets (config'.actionName? .secureObjects)) visits visits') :
    (ofVisits name config' visits').tables.rows .permissionGrant =
        (ofVisits name config visits).tables.rows .permissionGrant ∧
      (ofVisits name config' visits').references.hard =
        (ofVisits name config visits).references.hard ∧
      (ofVisits name config' visits').diagnostics = (ofVisits name config visits).diagnostics := by
  have hname : config'.actionName? .secureObjects ≠ none := fun hnone =>
    hplatform (actionName?_eq_none_iff.mp hnone)
  have hvalues := values_of_retargets h
  refine ⟨?_, ?_, ?_⟩
  · rw [rows_ofVisits, rows_ofVisits, hvalues,
      flatMap_retarget (elim_retarget (fun _ _ _ _ _ _ => rfl) fun hnone => absurd hnone hname)]
  · rw [references_ofVisits, references_ofVisits, hvalues]
    exact congrArg (SortedList.insertAll Symbol.before · []) (flatMap_retarget
      (elim_retarget (fun _ _ _ _ _ _ => rfl) fun hnone => absurd hnone hname) _)
  · rw [diagnostics_ofVisits, diagnostics_ofVisits, raised_of_built hname h, hstrict]

theorem retargets_ofVisits (name : String)
    (hstrict : config'.warningsAsErrors = config.warningsAsErrors)
    (h : List.Forall₂ (Assessment.Retargets (config'.actionName? .secureObjects)) visits visits')
    (hsource : ∀ em ∈ visits'.filterMap (·.value), em.Source { config := config', declared }) :
    Retargets config'.platform (ofVisits name config visits) (ofVisits name config' visits') := by
  have hvalues := values_of_retargets h
  refine ⟨?edges, ?soft, ?rows, ?complaints, ?hard, ?built, ?unbuilt⟩
  case edges =>
    rw [edges_ofVisits, edges_ofVisits, hvalues,
      flatMap_retarget_of_empty fun row object component action => rfl]
  case soft =>
    rw [references_ofVisits, references_ofVisits, hvalues]
    exact congrArg (SortedList.insertAll SoftReference.before · [])
      (flatMap_retarget_of_empty (fun row object component action => rfl) _)
  case rows =>
    intro table htable
    rw [rows_ofVisits, rows_ofVisits, hvalues, List.filter_flatMap, List.filter_flatMap,
      flatMap_retarget_of_empty]
    intro row object component action
    exact List.filter_cons_of_neg (by simpa [Row.table] using htable.symm)
  case complaints =>
    rw [diagnostics_ofVisits, diagnostics_ofVisits, raised_of_retargets h, List.filter_map, hstrict]
    refine congrArg _ (List.filter_congr fun d _ => ?_)
    exact (d.notPlatform_graded config.warningsAsErrors).symm
  case hard =>
    intro symbol hsymbol
    rw [references_ofVisits, References.mem_hard_addAll] at hsymbol ⊢
    rw [hvalues] at hsymbol
    exact hsymbol.imp_right hard_subset_of_retarget
  case built =>
    intro hplatform
    exact ofVisits_of_built name hplatform hstrict h
  case unbuilt =>
    intro hplatform
    exact ofVisits_of_unbuilt name hplatform hsource

/-- `bare` is `u` without its grants, as it comes out where their action is not built. -/
structure WithoutGrants (u bare : CompiledUnit) : Prop where
  grants : bare.tables.rows .permissionGrant = []
  actions : bare.references.actions = []
  hard : ∀ symbol ∈ bare.references.hard, symbol ∈ u.references.hard
  diagnostics : u.diagnostics = bare.diagnostics.filter Diagnostic.notPlatform

/-- Compiled for the two platforms, a unit is the same up to its grants: they are the same too if
neither platform is 32-bit ARM, and missing for the one that is. -/
structure AlikeUpToGrants (platform platform' : Platform) (u u' : CompiledUnit) : Prop where
  edges : u.edges = u'.edges
  soft : u.references.soft = u'.references.soft
  rows : ∀ table, table ≠ .permissionGrant → u.tables.rows table = u'.tables.rows table
  built : platform ≠ .arm → platform' ≠ .arm →
    u.tables.rows .permissionGrant = u'.tables.rows .permissionGrant ∧
      u.references.hard = u'.references.hard ∧ u.diagnostics = u'.diagnostics
  unbuilt : platform = .arm → platform' ≠ .arm → u'.WithoutGrants u
  unbuilt' : platform ≠ .arm → platform' = .arm → u.WithoutGrants u'

variable {platform platform' : Platform} {ref u u' : CompiledUnit}

theorem Retargets.withoutGrants (h : Retargets platform ref u) (h' : Retargets platform' ref u')
    (hbuilt : platform ≠ .arm) (hunbuilt : platform' = .arm) : u.WithoutGrants u' where
  grants := (h'.unbuilt hunbuilt).1
  actions := (h'.unbuilt hunbuilt).2
  hard := by
    intro symbol hsymbol
    rw [(h.built hbuilt).2.1]
    exact h'.hard symbol hsymbol
  diagnostics := (h.built hbuilt).2.2.trans h'.complaints

theorem Retargets.alikeUpToGrants (h : Retargets platform ref u)
    (h' : Retargets platform' ref u') : AlikeUpToGrants platform platform' u u' where
  edges := h.edges.trans h'.edges.symm
  soft := h.soft.trans h'.soft.symm
  rows := fun table htable => (h.rows table htable).trans (h'.rows table htable).symm
  built := by
    intro hplatform hplatform'
    obtain ⟨hgrants, hhard, hdiagnostics⟩ := h.built hplatform
    obtain ⟨hgrants', hhard', hdiagnostics'⟩ := h'.built hplatform'
    exact ⟨hgrants.trans hgrants'.symm, hhard.trans hhard'.symm,
      hdiagnostics.trans hdiagnostics'.symm⟩
  unbuilt := fun harm hplatform' => h'.withoutGrants h hplatform' harm
  unbuilt' := fun hplatform harm' => h.withoutGrants h' hplatform harm'

end CompiledUnit

/-- Compiling for a platform, told from compiling for one where the action of grants is built. -/
theorem compile_retargets (unit : CompilationUnit) (config : Config) (platform : Platform)
    (actionPrefix : String) : EndAlike (· = ·) (CompiledUnit.Retargets platform)
      (unit.compile { config with platform := .x86 })
      (unit.compile (config.targeting platform actionPrefix)) := by
  let reference : Config := { config with platform := .x86 }
  have hname : reference.actionName? .secureObjects =
      some (NativeAction.secureObjects.qualifiedName config.actionPrefix .x86) :=
    if_pos ((supports_secureObjects_iff .x86).mpr (by decide))
  let lockstep := targeting { config := reference, declared := unit.declared } hname platform
    actionPrefix
  have hend := lockstep.compileWith (lockstep.items_self (fun e => rfl) unit.items) .full
  refine hend.imp ?_ ?_
  · intro fault fault' _ _ hfault
    exact hfault
  · rintro u u' ⟨hvisits, rfl, rfl⟩
    exact CompiledUnit.retargets_ofVisits unit.name rfl hvisits fun em hem =>
      source_of_mem_walkItems hem

/-- The platform and the prefix of actions touch grants only: compiling for two platforms fails
alike, or comes to the same up to grants. -/
theorem compile_retargeted (unit : CompilationUnit) (config : Config)
    (platform platform' : Platform) (actionPrefix actionPrefix' : String) :
    EndAlike (· = ·) (CompiledUnit.AlikeUpToGrants platform platform')
      (unit.compile { config with platform := platform, actionPrefix := actionPrefix })
      (unit.compile { config with platform := platform', actionPrefix := actionPrefix' }) :=
  (compile_retargets unit config platform actionPrefix).join
    (compile_retargets unit config platform' actionPrefix') fun _ _ _ h h' => h.alikeUpToGrants h'

end InstallMarkup
