import InstallMarkup.Proofs.Reading.Complaints
import InstallMarkup.Proofs.Run.Composition
import InstallMarkup.Proofs.Run.Faults
import InstallMarkup.Proofs.Run.Ordering

/-!
# Where diagnostics stand and how they count

A diagnostic that nobody can place is of little use, and one that is counted wrongly lets rows
through. This file follows the diagnostics of a run from the element that raises them into the
compiled unit:

* **places**: whatever a visit raises stands at the element, at one of its attributes or at one of
  its children, and only what is said about an old name is a warning (`placed_of_visit`);
* **sites**: every diagnostic of a compiled unit was raised at a site of the unit
  (`CompilationUnit.exists_site_of_mem_diagnostics`);
* **the count**: the running number of errors is right after every record, and so at every point of
  every run (`DiagnosticLog.Counted`, `counted_absorb`, `counted_session`).
-/

namespace InstallMarkup

/-! ## Places and severities -/

/-- The diagnostic stands at one of the places, and is a warning only about an old name. -/
structure Diagnostic.Placed (places : List SourceLocation) (d : Diagnostic) : Prop where
  place : ∃ place ∈ places, d.location = some place
  severity : d.severity = if d.code = .deprecatedAttribute then .warning else .error

namespace Diagnostic

variable {places : List SourceLocation} {d : Diagnostic}

theorem placed_errorAt {code : DiagnosticCode} {place : SourceLocation} (message : String)
    (hplace : place ∈ places) (hcode : code ≠ .deprecatedAttribute) :
    (errorAt code message place).Placed places where
  place := ⟨place, hplace, rfl⟩
  severity := (if_neg hcode).symm

theorem Complaint.placed (h : d.Complaint places) : d.Placed places := by
  cases h with
  | @errorAt code place message hplace hcode =>
    refine placed_errorAt message hplace ?_
    rintro rfl
    cases hcode
  | deprecated message hplace => exact ⟨⟨_, hplace, rfl⟩, rfl⟩

/-- Whatever a run counts warnings as, the place stays, and the severity is an error unless it is a
warning about an old name and the run is lenient. -/
theorem severity_graded (h : d.Placed places) (strict : Bool) : (d.graded strict).severity =
    if d.code = .deprecatedAttribute ∧ strict = false then .warning else .error := by
  cases strict with
  | true => simp [graded]
  | false => simpa [graded] using h.severity

theorem code_graded (d : Diagnostic) (strict : Bool) : (d.graded strict).code = d.code := by
  cases strict <;> rfl

theorem location_graded (d : Diagnostic) (strict : Bool) :
    (d.graded strict).location = d.location := by
  cases strict <;> rfl

end Diagnostic

/-! ### Requirements -/

section Requirements

variable {places : List SourceLocation} {location : SourceLocation} {d : Diagnostic}

theorem placed_of_mem_symbol (hplace : location ∈ places) {symbol : Symbol}
    {declared : List Symbol} (hd : d ∈ Reading.faults (symbol.require declared location)) :
    d.Placed places := by
  unfold Symbol.require at hd
  split at hd
  · cases hd
  · obtain rfl := List.mem_singleton.mp hd
    exact Diagnostic.placed_errorAt _ hplace nofun

theorem placed_of_mem_action (hplace : location ∈ places) {action : NativeAction}
    {config : Config} {element : String}
    (hd : d ∈ Reading.faults (action.require config element location)) : d.Placed places := by
  unfold NativeAction.require at hd
  split at hd
  · cases hd
  · obtain rfl := List.mem_singleton.mp hd
    exact Diagnostic.placed_errorAt _ hplace nofun

end Requirements

/-! ### Elements -/

section Elements

variable {setting : Setting} {v : Vocabulary} {enclosure : Enclosure} {e : Element}
  {d : Diagnostic}

theorem PermissionGrant.placed_of_mem_faults {config : Config} {declared : List Symbol}
    {target : GrantTarget} {objectId componentId : String}
    (hd : d ∈ faults config declared target objectId componentId e) : d.Placed e.places := by
  rw [faults_eq] at hd
  rcases List.mem_append.mp hd with hd | hd
  · rcases List.mem_append.mp hd with hd | hd
    · rcases List.mem_append.mp hd with hd | hd
      · exact (complaint_of_mem_markupFaults hd).placed
      · exact placed_of_mem_symbol Element.location_mem_places hd
    · exact placed_of_mem_symbol Element.location_mem_places hd
  · exact placed_of_mem_action Element.location_mem_places hd

theorem EventSource.placed_of_mem_faults {declared : List Symbol} {componentId : String}
    (hd : d ∈ faults declared componentId e) : d.Placed e.places := by
  rw [faults_eq] at hd
  rcases List.mem_append.mp hd with hd | hd
  · exact (complaint_of_mem_markupFaults hd).placed
  · exact placed_of_mem_symbol Element.location_mem_places hd

/-- What an element raises when it is assessed stands at the element. -/
theorem placed_of_assess {compiler : ElementCompiler} {a : Assessment Emission}
    (hassess : compiler.assess setting enclosure e = .ok a) (hd : d ∈ a.raised) :
    d.Placed e.places := by
  have hassessed : compiler.Assessed setting e enclosure (.ok a) :=
    ElementCompiler.assess_eq_iff.mp hassess
  cases hassessed with
  | search p enclosure helement hplace =>
    subst helement
    exact (PlacedSearch.complaint_of_mem_faults hd).placed
  | searchReference kind h hholds =>
    rw [SearchReference.raised_assess] at hd
    exact (SearchReference.complaint_of_mem_faults hd).placed
  | permissionGrant h target objectId componentId htarget hobject hcomponent =>
    rw [PermissionGrant.raised_assessOn] at hd
    exact PermissionGrant.placed_of_mem_faults hd
  | eventSource h componentId hkind hcomponent =>
    rw [EventSource.raised_assessment] at hd
    exact EventSource.placed_of_mem_faults hd
  | misplaced compiler enclosure hplace => exact (complaint_of_mem_misplaced hd).placed

theorem placed_of_visit {a : Assessment Emission} {inner : Option Enclosure}
    (h : e.visit setting v enclosure = .ok (a, inner)) (hd : d ∈ a.raised) :
    d.Placed e.places := by
  obtain ⟨-, hvisited⟩ := visit_eq_ok_iff.mp h
  cases hvisited with
  | unknown hname => exact (complaint_of_mem_misplaced hd).placed
  | compiled hname hassess => exact placed_of_assess hassess hd

end Elements

/-! ## Sites -/

theorem Site.Yields.placed {setting : Setting} {site : Site} {a : Assessment Emission}
    (h : site.Yields setting a) {d : Diagnostic} (hd : d ∈ a.raised) :
    d.Placed site.element.places := by
  obtain ⟨enclosure, inner, -, hvisit⟩ := h
  exact placed_of_visit hvisit hd

/-- Every visit is that of one of the sites. -/
theorem exists_site_of_mem_visits {setting : Setting} {sites : List Site}
    {visits : List (Assessment Emission)} (h : List.Forall₂ (Site.Yields setting) sites visits)
    {a : Assessment Emission} (ha : a ∈ visits) : ∃ site ∈ sites, site.Yields setting a := by
  induction h with
  | nil => cases ha
  | @cons site b sites visits hsite hrest ih =>
    rcases List.mem_cons.mp ha with rfl | ha
    · exact ⟨site, List.mem_cons_self, hsite⟩
    · obtain ⟨found, hfound, hyields⟩ := ih ha
      exact ⟨found, List.mem_cons_of_mem site hfound, hyields⟩

/-- A walk with the full vocabulary visits its sites and nothing else. -/
theorem Walk.Covers.exists_site {setting : Setting} {w : Walk} {sites : List Site}
    (h : w.Covers setting sites) {a : Assessment Emission} (ha : a ∈ w.visits) :
    ∃ site ∈ sites, site.Yields setting a := by
  cases h with
  | finished hyields => exact exists_site_of_mem_visits hyields ha
  | stopped hyields hoffends =>
    obtain ⟨site, hsite, ha⟩ := exists_site_of_mem_visits hyields ha
    exact ⟨site, List.mem_append_left _ hsite, ha⟩

/-- A diagnostic of a compiled unit was raised at a site, and is graded as the run is. -/
theorem CompilationUnit.exists_site_of_mem_diagnostics {unit : CompilationUnit} {config : Config}
    {d : Diagnostic} (hd : d ∈
      (CompiledUnit.ofVisits unit.name config (unit.walk config .full).visits).diagnostics) :
    ∃ site ∈ unit.sites, ∃ raised : Diagnostic,
      raised.Placed site.element.places ∧ d = raised.graded config.warningsAsErrors := by
  rw [CompiledUnit.diagnostics_ofVisits] at hd
  obtain ⟨raised, hraised, rfl⟩ := List.mem_map.mp hd
  obtain ⟨a, ha, hraised⟩ := List.mem_flatMap.mp hraised
  have hcovers : (unit.walk config .full).Covers { config, declared := unit.declared } unit.sites :=
    covers_walkItems unit.items
  obtain ⟨site, hsite, hyields⟩ := hcovers.exists_site ha
  exact ⟨site, hsite, raised, hyields.placed hraised, rfl⟩

/-! ## The count of errors -/

/-- The running number of errors is that of the entries which are errors. -/
def DiagnosticLog.Counted (log : DiagnosticLog) : Prop :=
  log.errorCount = log.entries.countP Diagnostic.isError

namespace DiagnosticLog.Counted

variable {log : DiagnosticLog}

theorem record (h : log.Counted) (d : Diagnostic) : (log.record d).Counted := by
  rw [Counted, entries_record, List.countP_append, List.countP_singleton, ← h]
  rfl

theorem recordAll (h : log.Counted) (ds : List Diagnostic) : (log.recordAll ds).Counted := by
  induction ds generalizing log with
  | nil => exact h
  | cons d ds ih => exact ih (h.record d)

end DiagnosticLog.Counted

namespace UnitState

theorem counted_start (config : Config) : (start config).log.Counted := rfl

variable {s : UnitState}

theorem counted_absorb (h : s.log.Counted) (visits : List (Assessment Emission)) :
    (s.absorb visits).log.Counted :=
  h.recordAll _

/-- A dispatch keeps the count right, also if it is stopped. -/
theorem counted_dispatch (h : s.log.Counted) (setting : Setting) (v : Vocabulary)
    (enclosure : Enclosure) (e : Element) : (s.dispatch setting v enclosure e).1.log.Counted := by
  rw [dispatch_eq]
  exact counted_absorb h _

theorem counted_session (h : s.log.Counted) (setting : Setting) (v : Vocabulary)
    (steps : List (Enclosure × Element)) : (s.session setting v steps).log.Counted := by
  induction steps generalizing s with
  | nil => exact h
  | cons step steps ih => exact ih (counted_dispatch h setting v step.1 step.2)

end UnitState

/-! ## Compiled units -/

/-- Where the diagnostics of a compiled unit stand, how they are graded and how they are counted. -/
structure DiagnosticsExact (unit : CompilationUnit) (config : Config) (u : CompiledUnit) :
    Prop where
  /-- Each stands at an element that was visited, at one of its attributes or at one of its
  children. -/
  placed : ∀ d ∈ u.diagnostics, ∃ site ∈ unit.sites, ∃ place ∈ site.element.places,
    d.location = some place
  /-- Only old names are warned about, and only as long as warnings are no errors. -/
  graded : ∀ d ∈ u.diagnostics, d.severity =
    if d.code = .deprecatedAttribute ∧ config.warningsAsErrors = false then .warning else .error
  /-- The running count is right after every visit of the run, nested or not. -/
  counted : ∀ visited rest, (unit.walk config .full).visits = visited ++ rest →
    ((UnitState.start config).absorb visited).log.Counted
  /-- It is right after any dispatches there might be, also those that are stopped. -/
  session : ∀ (setting : Setting) (v : Vocabulary) (steps : List (Enclosure × Element)),
    ((UnitState.start config).session setting v steps).log.Counted
  /-- The unit is a success exactly if the last count is zero. -/
  success : ∃ s, (UnitState.start config).dispatchAll { config, declared := unit.declared } .full
      unit.items = (s, none) ∧ u = .ofState unit.name s ∧ s.log.Counted ∧
    (u.isSuccess = true ↔ s.log.errorCount = 0)

theorem compile_diagnosticsExact {unit : CompilationUnit} {config : Config} {u : CompiledUnit}
    (h : unit.compile config = .ok u) : DiagnosticsExact unit config u := by
  obtain ⟨hfault, rfl⟩ := unit.of_compileWith_eq_ok config .full h
  constructor
  case placed =>
    intro d hd
    obtain ⟨site, hsite, raised, hraised, rfl⟩ := CompilationUnit.exists_site_of_mem_diagnostics hd
    rw [raised.location_graded]
    exact ⟨site, hsite, hraised.place⟩
  case graded =>
    intro d hd
    obtain ⟨site, -, raised, hraised, rfl⟩ := CompilationUnit.exists_site_of_mem_diagnostics hd
    rw [raised.code_graded]
    exact Diagnostic.severity_graded hraised config.warningsAsErrors
  case counted =>
    intro visited rest _
    exact UnitState.counted_absorb (UnitState.counted_start config) visited
  case session =>
    exact UnitState.counted_session (UnitState.counted_start config)
  case success =>
    have hcounted := UnitState.counted_absorb (UnitState.counted_start config)
      (unit.walk config .full).visits
    refine ⟨(UnitState.start config).absorb (unit.walk config .full).visits, ?_, rfl, hcounted, ?_⟩
    · rw [UnitState.dispatchAll_eq]
      exact Prod.ext rfl hfault
    · rw [hcounted]
      exact beq_iff_eq

/-- A product search by the old name of the product code, a file search in it without a path, and a
reference with an element in it. -/
def misstatedSearches : CompilationUnit where
  name := "unit"
  items := [
    { host := { kind := .bundle }
      element :=
        { name := "ProductSearch"
          attributes := [⟨"Id", "Outer", { line := 1 }⟩, ⟨"Variable", "Found", { line := 2 }⟩,
            ⟨"Guid", "01234567-89ab-cdef-0123-456789abcdef", { line := 3 }⟩]
          children := [
            { name := "FileSearch"
              attributes := [⟨"Variable", "Path", { line := 5 }⟩], location := { line := 4 } }] } },
    { host := { kind := .bundle }
      element :=
        { name := "ProductSearchRef"
          attributes := [⟨"Id", "Outer", { line := 7 }⟩]
          children := [{ name := "FileSearch", location := { line := 8 } }]
          location := { line := 6 } } }]

/-- The old name is warned about at the attribute, the path is missing from the element that was
visited, and the element that was not visited stands at a place of its own. -/
theorem compile_diagnosticsExact_misstated :
    ∃ u, misstatedSearches.compile { allowBuiltinVariables := true } = .ok u ∧
      u.diagnostics.map (fun d => (d.severity, d.code, d.location.map (·.line))) =
        [(.warning, .deprecatedAttribute, some 3), (.error, .missingRequiredAttribute, some 4),
          (.error, .unexpectedElement, some 8)] ∧
      DiagnosticsExact misstatedSearches { allowBuiltinVariables := true } u := by
  have hdiagnostics : (misstatedSearches.compile { allowBuiltinVariables := true }).map
      (fun u => u.diagnostics.map fun d => (d.severity, d.code, d.location.map (·.line))) =
        .ok [(.warning, .deprecatedAttribute, some 3), (.error, .missingRequiredAttribute, some 4),
          (.error, .unexpectedElement, some 8)] := by
    decide +kernel
  cases hcompiled : misstatedSearches.compile { allowBuiltinVariables := true } with
  | error fault =>
    rw [hcompiled] at hdiagnostics
    cases hdiagnostics
  | ok u =>
    rw [hcompiled] at hdiagnostics
    exact ⟨u, rfl, Except.ok.inj hdiagnostics, compile_diagnosticsExact hcompiled⟩

end InstallMarkup
