import InstallMarkup.Proofs.Run.Lockstep

/-!
# Warnings that count as errors

A run can count warnings as errors. Then a search with a warning is not written, and the searches
in it have no predecessor and other identifiers, so what the two ways of counting write may differ.
What they complain about does not:

* **the same complaints**: no element raises more or less for it, whatever encloses it, so the
  diagnostics of the strict run are those of the lenient one with another severity (`promotion`);
* **the same unit without warnings**: as long as no warning is met, elements are accepted alike
  (`visit_of_unwarned`) and the walks are one and the same (`walk_of_unwarned`).
-/

namespace InstallMarkup

/-- The same configuration with warnings counted as errors, or not. -/
def Config.counting (config : Config) (strict : Bool) : Config :=
  { config with warningsAsErrors := strict }

/-- The same setting with warnings counted as errors, or not. -/
def Setting.counting (setting : Setting) (strict : Bool) : Setting :=
  { setting with config := setting.config.counting strict }

/-! ## The same complaints -/

/-- Whatever the searches around it are called, an element raises the same under both counts. -/
def promotion (setting : Setting) (strict strict' : Bool) :
    Lockstep (setting.counting strict) (setting.counting strict') :=
  Lockstep.sameTree (fun _ _ => True) (fun a a' => a.raised = a'.raised)
    (by
      intro enclosure e
      rfl)
    (by
      intro e placement placement' halike kind
      -- a nested search is told apart by being nested, and not by the search around it
      cases halike <;> exact ⟨rfl, trivial⟩)
    (by
      intro e kind
      rw [SearchReference.raised_assess, SearchReference.raised_assess])
    (by
      intro e target objectId componentId
      rw [PermissionGrant.raised_assessOn, PermissionGrant.raised_assessOn]
      rfl)
    (by
      intro e componentId
      rw [EventSource.raised_assessment, EventSource.raised_assessment]
      rfl)

/-! ## The same unit without warnings -/

/-- Only warnings count differently. -/
theorem Assessment.clean_of_unwarned {raised : List Diagnostic}
    (h : ∀ d ∈ raised, d.isError = true) (strict strict' : Bool) :
    clean strict raised = clean strict' raised := by
  cases raised with
  | nil => rfl
  | cons d rest =>
    have herror : d.isError = true := h d List.mem_cons_self
    rw [clean_eq_false_of_mem List.mem_cons_self herror,
      clean_eq_false_of_mem List.mem_cons_self herror]

/-! ### Single elements -/

section Elements

variable {config : Config} {strict : Bool}

theorem PlacedSearch.search?_of_unwarned {p : PlacedSearch}
    (h : ∀ d ∈ p.faults config, d.isError = true) (strict : Bool) :
    p.search? (config.counting strict) = p.search? config := by
  have hclean : p.isClean (config.counting strict) = p.isClean config :=
    Assessment.clean_of_unwarned h strict config.warningsAsErrors
  rw [search?, search?, hclean]
  rfl

theorem SearchReference.assess_of_unwarned {kind : SearchKind} {e : Element}
    (h : ∀ d ∈ faults kind e, d.isError = true) (strict' : Bool) :
    assess strict' kind e = assess strict kind e := by
  rw [assess_eq_match, assess_eq_match, Assessment.clean_of_unwarned h strict' strict]

theorem PermissionGrant.assessOn_of_unwarned {declared : List Symbol} {target : GrantTarget}
    {objectId componentId : String} {e : Element}
    (h : ∀ d ∈ faults config declared target objectId componentId e, d.isError = true)
    (strict : Bool) : assessOn (config.counting strict) declared target objectId componentId e =
      assessOn config declared target objectId componentId e := by
  have hclean : Assessment.clean (config.counting strict).warningsAsErrors
      (faults (config.counting strict) declared target objectId componentId e) =
        Assessment.clean config.warningsAsErrors
          (faults config declared target objectId componentId e) :=
    Assessment.clean_of_unwarned h strict config.warningsAsErrors
  rw [assessOn_eq_match, assessOn_eq_match, hclean]
  rfl

theorem EventSource.assessment_of_unwarned {declared : List Symbol} {componentId : String}
    {e : Element} (h : ∀ d ∈ faults declared componentId e, d.isError = true) (strict' : Bool) :
    assessment strict' declared componentId e = assessment strict declared componentId e := by
  unfold assessment
  rw [Assessment.clean_of_unwarned h strict' strict]

end Elements

section Unwarned

variable {setting : Setting} {v : Vocabulary}

theorem assess_of_unwarned {compiler : ElementCompiler} {enclosure : Enclosure} {e : Element}
    {a : Assessment Emission} (hassess : compiler.assess setting enclosure e = .ok a)
    (hunwarned : ∀ d ∈ a.raised, d.isError = true) (strict : Bool) :
    compiler.assess (setting.counting strict) enclosure e = .ok a := by
  have hassessed : compiler.Assessed setting e enclosure (.ok a) :=
    ElementCompiler.assess_eq_iff.mp hassess
  cases hassessed with
  | search p enclosure helement hplace =>
    rw [← p.search?_of_unwarned hunwarned strict]
    exact ElementCompiler.assess_eq_iff.mpr (.search p enclosure helement hplace)
  | searchReference kind h hholds =>
    rw [SearchReference.raised_assess] at hunwarned
    rw [← SearchReference.assess_of_unwarned hunwarned strict]
    exact ElementCompiler.assess_eq_iff.mpr (.searchReference kind h hholds)
  | permissionGrant h target objectId componentId htarget hobject hcomponent =>
    rw [PermissionGrant.raised_assessOn] at hunwarned
    rw [← PermissionGrant.assessOn_of_unwarned hunwarned strict]
    exact ElementCompiler.assess_eq_iff.mpr
      (.permissionGrant h target objectId componentId htarget hobject hcomponent)
  | eventSource h componentId hkind hcomponent =>
    rw [EventSource.raised_assessment] at hunwarned
    rw [← EventSource.assessment_of_unwarned hunwarned strict]
    exact ElementCompiler.assess_eq_iff.mpr (.eventSource h componentId hkind hcomponent)
  | misplaced compiler enclosure hplace => exact ElementCompiler.assess_of_misplaced hplace

theorem visit_of_unwarned {enclosure : Enclosure} {e : Element} {a : Assessment Emission}
    {inner : Option Enclosure} (h : e.visit setting v enclosure = .ok (a, inner))
    (hunwarned : ∀ d ∈ a.raised, d.isError = true) (strict : Bool) :
    e.visit (setting.counting strict) v enclosure = .ok (a, inner) := by
  obtain ⟨hstructure, hvisited⟩ := visit_eq_ok_iff.mp h
  refine visit_eq_ok_iff.mpr ⟨hstructure, ?_⟩
  cases hvisited with
  | unknown hname => exact .unknown hname
  | compiled hname hassess =>
    exact .compiled hname (assess_of_unwarned hassess hunwarned strict)

/-! ### Walks -/

/-- A walk without warnings. -/
def Walk.Unwarned (w : Walk) : Prop := ∀ a ∈ w.visits, ∀ d ∈ a.raised, d.isError = true

theorem Walk.Unwarned.visit {a : Assessment Emission} {rest : Walk}
    (h : (Walk.visit a rest).Unwarned) : (∀ d ∈ a.raised, d.isError = true) ∧ rest.Unwarned :=
  ⟨h a List.mem_cons_self, fun b hb => h b (List.mem_cons_of_mem a hb)⟩

/-- What goes before in a walk without warnings has none, and what goes after it has none either if
it takes place. -/
theorem Walk.Unwarned.andThen {first second : Walk} (h : (first.andThen second).Unwarned) :
    first.Unwarned ∧ (first.fault = none → second.Unwarned) := by
  cases hfault : first.fault with
  | some fault =>
    rw [andThen_of_fault hfault] at h
    refine ⟨h, ?_⟩
    rintro ⟨⟩
  | none =>
    rw [andThen_of_finished hfault] at h
    exact ⟨fun a ha => h a (List.mem_append_left _ ha),
      fun _ a ha => h a (List.mem_append_right _ ha)⟩

/-- Walks that follow the same first one are the same if they take place at all. -/
theorem Walk.andThen_congr {first second second' : Walk}
    (h : first.fault = none → second = second') :
    first.andThen second = first.andThen second' := by
  cases hfault : first.fault with
  | some fault => rw [andThen_of_fault hfault, andThen_of_fault hfault]
  | none => rw [h hfault]

/-- A walk that meets no warning is the same under both counts. -/
theorem walk_of_unwarned (strict : Bool) : ∀ (enclosure : Enclosure) (e : Element),
    (e.walk setting v enclosure).Unwarned →
      e.walk (setting.counting strict) v enclosure = e.walk setting v enclosure := by
  refine walk_induction setting v
    (Q := fun enclosure es => (walkAll setting v enclosure es).Unwarned →
      walkAll (setting.counting strict) v enclosure es = walkAll setting v enclosure es)
    ?stopped ?leaf ?nest ?nil ?cons
  case stopped =>
    intro enclosure e fault hvisit _
    -- what stops a visit has nothing to do with the setting
    have hvisit' : e.visit (setting.counting strict) v enclosure = .error fault :=
      visit_eq_error_iff.mpr (visit_eq_error_iff.mp hvisit)
    rw [walk_of_error hvisit, walk_of_error hvisit']
  case leaf =>
    intro enclosure e a hvisit h
    rw [walk_of_leaf hvisit] at h ⊢
    rw [walk_of_leaf (visit_of_unwarned hvisit h.visit.1 strict)]
  case nest =>
    intro enclosure e a inner hvisit ih h
    rw [walk_of_nest hvisit] at h ⊢
    rw [walk_of_nest (visit_of_unwarned hvisit h.visit.1 strict), ih h.visit.2]
  case nil =>
    intro enclosure _
    rfl
  case cons =>
    intro enclosure e rest ihe ihrest h
    rw [walkAll] at h
    rw [walkAll, walkAll, ihe h.andThen.1]
    exact Walk.andThen_congr fun hfault => ihrest (h.andThen.2 hfault)

theorem walkItems_of_unwarned (strict : Bool) {items : List UnitItem}
    (h : (walkItems setting v items).Unwarned) :
    walkItems (setting.counting strict) v items = walkItems setting v items := by
  induction items with
  | nil => rfl
  | cons item rest ih =>
    rw [walkItems] at h
    rw [walkItems, walkItems, walk_of_unwarned strict _ _ h.andThen.1]
    exact Walk.andThen_congr fun hfault => ih (h.andThen.2 hfault)

end Unwarned

/-! ## Compiled units -/

namespace CompiledUnit

/-- `strict` is what `lenient` comes to when its warnings are counted as errors: the same
complaints, each an error, and all the same if no complaint was a warning. -/
structure Promoted (lenient strict : CompiledUnit) : Prop where
  diagnostics : strict.diagnostics = lenient.diagnostics.map fun d => { d with severity := .error }
  unwarned : lenient.warningCount = 0 → strict = lenient

variable {name : String} {config : Config} {visits visits' : List (Assessment Emission)}

theorem diagnostics_ofVisits_lenient : (ofVisits name (config.counting false) visits).diagnostics =
    visits.flatMap (·.raised) := by
  rw [diagnostics_ofVisits]
  exact List.map_id _

theorem diagnostics_ofVisits_strict : (ofVisits name (config.counting true) visits).diagnostics =
    (visits.flatMap (·.raised)).map fun d => { d with severity := .error } := by
  rw [diagnostics_ofVisits]
  rfl

theorem ofVisits_of_unwarned (h : ∀ a ∈ visits, ∀ d ∈ a.raised, d.isError = true) :
    ofVisits name (config.counting true) visits = ofVisits name (config.counting false) visits := by
  have hsame : ∀ d ∈ visits.flatMap (·.raised), { d with severity := .error } = d := by
    intro d hd
    obtain ⟨a, ha, hd⟩ := List.mem_flatMap.mp hd
    have hseverity : d.severity = .error := eq_of_beq (h a ha d hd)
    rw [← hseverity]
  have hdiagnostics : (ofVisits name (config.counting true) visits).diagnostics =
      (ofVisits name (config.counting false) visits).diagnostics := by
    rw [diagnostics_ofVisits_strict, diagnostics_ofVisits_lenient, List.map_congr_left hsame]
    exact List.map_id _
  calc ofVisits name (config.counting true) visits
      = { ofVisits name (config.counting false) visits with
          diagnostics := (ofVisits name (config.counting true) visits).diagnostics } := rfl
    _ = ofVisits name (config.counting false) visits := by rw [hdiagnostics]

/-- A lenient unit without warnings was left behind by visits that met none. -/
theorem unwarned_of_warningCount
    (h : (ofVisits name (config.counting false) visits).warningCount = 0) :
    ∀ a ∈ visits, ∀ d ∈ a.raised, d.isError = true := by
  intro a ha d hd
  rw [warningCount, diagnostics_ofVisits_lenient, List.countP_eq_zero] at h
  have hwarning := h d (List.mem_flatMap.mpr ⟨a, ha, hd⟩)
  cases hseverity : d.severity with
  | error => simp [Diagnostic.isError, hseverity]
  | warning => simp [Diagnostic.isWarning, hseverity] at hwarning

/-- Visits that raise the same leave the same complaints behind, each promoted to an error. -/
theorem diagnostics_promoted
    (h : List.Forall₂ (fun a a' => a.raised = a'.raised) visits visits') :
    (ofVisits name (config.counting true) visits').diagnostics =
      (ofVisits name (config.counting false) visits).diagnostics.map
        fun d => { d with severity := .error } := by
  have hraised : visits.flatMap (·.raised) = visits'.flatMap (·.raised) :=
    flatMap_eq_of_forall₂ h fun _ _ hraised => hraised
  rw [diagnostics_ofVisits_strict, diagnostics_ofVisits_lenient, hraised]

end CompiledUnit

/-- Compiling a unit with warnings counted as errors fails as it does otherwise, or comes to the
same complaints, each an error; and to the same unit if there are no warnings. -/
theorem compile_promotes (unit : CompilationUnit) (config : Config) :
    EndAlike (· = ·) CompiledUnit.Promoted
      (unit.compile { config with warningsAsErrors := false })
      (unit.compile { config with warningsAsErrors := true }) := by
  let lockstep : Lockstep { config := config.counting false, declared := unit.declared }
      { config := config.counting true, declared := unit.declared } :=
    promotion { config, declared := unit.declared } false true
  have hend := lockstep.compileWith (lockstep.items_self (fun e => rfl) unit.items) .full
  refine hend.imp ?_ ?_
  · intro fault fault' _ _ hfault
    exact hfault
  · rintro u u' ⟨hvisits, rfl, rfl⟩
    refine ⟨CompiledUnit.diagnostics_promoted hvisits, ?_⟩
    intro hcount
    have hunwarned := CompiledUnit.unwarned_of_warningCount hcount
    -- the strict run takes the very walk of the lenient one
    have hsame : unit.walk (config.counting true) .full = unit.walk (config.counting false) .full :=
      walkItems_of_unwarned true hunwarned
    rw [hsame]
    exact CompiledUnit.ofVisits_of_unwarned hunwarned

/-- A product search by the old name of the product code, and a file search in it. -/
def deprecatedSearch : CompilationUnit where
  name := "unit"
  items := [
    { host := { kind := .bundle }
      element :=
        { name := "ProductSearch"
          attributes := [⟨"Id", "Outer", {}⟩, ⟨"Variable", "Found", {}⟩,
            ⟨"Guid", "01234567-89ab-cdef-0123-456789abcdef", {}⟩]
          children := [
            { name := "FileSearch"
              attributes := [⟨"Id", "Inner", {}⟩, ⟨"Variable", "Path", {}⟩,
                ⟨"Path", "app.exe", {}⟩] }] } }]

/-- Promoting its warning takes the outer search away, and the edge of the inner one with it. -/
example :
    let config : Config := { allowBuiltinVariables := true }
    (deprecatedSearch.compile config).map (fun u => (u.diagnostics.length, u.edges.length)) =
        .ok (1, 1) ∧
      (deprecatedSearch.compile { config with warningsAsErrors := true }).map
        (fun u => (u.diagnostics.length, u.edges.length)) = .ok (1, 0) := by
  decide +kernel

end InstallMarkup
