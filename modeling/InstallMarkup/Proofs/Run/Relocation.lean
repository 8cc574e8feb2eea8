import InstallMarkup.Proofs.Reading.Locations
import InstallMarkup.Proofs.Run.Lockstep

/-!
# Layout never matters

Markup can be indented and broken into lines in any way, and be read from a file of any name. Two
units that differ only in their names and in where their elements and attributes stand, at any
depth, compile to the same tables, row by row, to the same references and edges, and to the same
diagnostics one by one but for their locations. If one of them is refused, so is the other, for the
same cause in the same element (`compile_relocated`).

The runs are in step with equal identifiers (`relocating`), because forgetting the locations in an
element forgets those in what it comes to, and nothing else.
-/

namespace InstallMarkup

/-! ## Units -/

/-- Items in the same host whose elements differ at most in locations. -/
structure UnitItem.Relocated (item item' : UnitItem) : Prop where
  host : item.host = item'.host
  element : item.element.unlocated = item'.element.unlocated

/-- Units that differ at most in their names and in locations. -/
structure CompilationUnit.Relocated (unit unit' : CompilationUnit) : Prop where
  items : List.Forall₂ UnitItem.Relocated unit.items unit'.items
  declared : unit.declared = unit'.declared

/-- Diagnostics that differ at most in where they point. -/
structure Diagnostic.Relocated (d d' : Diagnostic) : Prop where
  severity : d.severity = d'.severity
  code : d.code = d'.code
  message : d.message = d'.message

/-- Compiled units that differ at most in their names and in where their diagnostics point. -/
structure CompiledUnit.Relocated (u u' : CompiledUnit) : Prop where
  tables : u.tables = u'.tables
  references : u.references = u'.references
  edges : u.edges = u'.edges
  diagnostics : List.Forall₂ Diagnostic.Relocated u.diagnostics u'.diagnostics
  collisions : u.collisions = u'.collisions

/-! ## Runs in step -/

/-- Elements come to the same wherever they stand, but for the places of their complaints. -/
def relocating (setting : Setting) : Lockstep setting setting where
  Ids := Eq
  Elements := fun e e' => e.unlocated = e'.unlocated
  Visits := fun a a' => a.unlocated = a'.unlocated
  Faults := fun f f' => f.unlocated = f'.unlocated
  name := by
    intro e e' he
    rw [← Element.name_unlocated, he, Element.name_unlocated]
  children := by
    intro e e' he
    have hchildren : e.children.map Element.unlocated = e'.children.map Element.unlocated := by
      rw [← Element.children_unlocated, he, Element.children_unlocated]
    rwa [← List.forall₂_eq_eq_eq, List.forall₂_map_left_iff, List.forall₂_map_right_iff]
      at hchildren
  malformed := by
    intro e e' he
    have hfault : e.structureFault?.map CompileFault.unlocated =
        e'.structureFault?.map CompileFault.unlocated := by
      rw [← structureFault?_unlocated, he, structureFault?_unlocated]
    cases hfound : e.structureFault? <;> cases hfound' : e'.structureFault? <;>
      simp only [hfound, hfound', Option.map_none, Option.map_some, Option.some.injEq,
        reduceCtorEq] at hfault
    · exact .none
    · exact .some hfault
  lacking := by
    intro e e' he parent key
    have hname : e.name = e'.name := by
      rw [← Element.name_unlocated, he, Element.name_unlocated]
    rw [CompileFault.unlocated, CompileFault.unlocated, hname]
  misplaced := by
    intro e e' he enclosure
    rw [← misplaced_unlocated, he, misplaced_unlocated]
  search := by
    intro e e' he _ _ placement placement' halike kind
    obtain rfl := halike.eq
    rw [← PlacedSearch.assessment_unlocated, ← PlacedSearch.id?_unlocated, he]
    exact ⟨PlacedSearch.assessment_unlocated .., PlacedSearch.id?_unlocated ..⟩
  searchReference := by
    intro e e' he _ _ kind
    rw [← SearchReference.assess_unlocated, he, SearchReference.assess_unlocated]
  permissionGrant := by
    intro e e' he _ _ target objectId componentId
    rw [← PermissionGrant.assessOn_unlocated, he, PermissionGrant.assessOn_unlocated]
  eventSource := by
    intro e e' he _ _ componentId
    rw [← EventSource.assessment_unlocated, he, EventSource.assessment_unlocated]

/-! ## Compiled units -/

theorem Diagnostic.unlocated_graded (strict : Bool) (d : Diagnostic) :
    (d.graded strict).unlocated = d.unlocated.graded strict := by
  rw [graded, graded, apply_ite Diagnostic.unlocated]
  rfl

theorem Diagnostic.relocated_of_unlocated {d d' : Diagnostic} (h : d.unlocated = d'.unlocated) :
    d.Relocated d' where
  severity := congrArg (·.severity) h
  code := congrArg (·.code) h
  message := congrArg (·.message) h

section Visits

variable {visits visits' : List (Assessment Emission)}
  (h : List.Forall₂ (fun a a' => a.unlocated = a'.unlocated) visits visits')
include h

theorem raised_of_relocated : (visits.flatMap (·.raised)).map Diagnostic.unlocated =
    (visits'.flatMap (·.raised)).map Diagnostic.unlocated := by
  rw [List.map_flatMap, List.map_flatMap]
  exact flatMap_eq_of_forall₂ h fun a a' ha => congrArg (·.raised) ha

/-- Visits that come to the same but for places leave the same unit behind, but for its name and the
places of the diagnostics. -/
theorem CompiledUnit.ofVisits_of_relocated (name name' : String) (config : Config) :
    (ofVisits name config visits).Relocated (ofVisits name' config visits') := by
  have hvalues : visits.filterMap (·.value) = visits'.filterMap (·.value) :=
    filterMap_eq_of_forall₂ h fun a a' ha => congrArg (·.value) ha
  obtain ⟨htables, hreferences, hedges, hcollisions⟩ := output_ofVisits name name' config hvalues
  refine ⟨htables, hreferences, hedges, ?_, hcollisions⟩
  have hraised := raised_of_relocated h
  rw [← List.forall₂_eq_eq_eq, List.forall₂_map_left_iff, List.forall₂_map_right_iff] at hraised
  rw [diagnostics_ofVisits, diagnostics_ofVisits, List.forall₂_map_left_iff,
    List.forall₂_map_right_iff]
  refine hraised.imp fun d d' hd => Diagnostic.relocated_of_unlocated ?_
  rw [Diagnostic.unlocated_graded, hd, Diagnostic.unlocated_graded]

end Visits

/-- Units that differ only in their names and in locations are both refused, with the same fault but
for its location, or both compiled, to the same but for the locations of the diagnostics. -/
theorem compile_relocated {unit unit' : CompilationUnit} (h : unit.Relocated unit')
    (config : Config) :
    EndAlike (fun fault fault' => fault.unlocated = fault'.unlocated) CompiledUnit.Relocated
      (unit.compile config) (unit'.compile config) := by
  obtain ⟨name, items, declared⟩ := unit
  obtain ⟨name', items', declared'⟩ := unit'
  obtain ⟨hitems, rfl⟩ := h
  have hend := @Lockstep.compileWith ⟨name, items, declared⟩ ⟨name', items', declared⟩ config config
    (relocating { config, declared })
    (hitems.imp fun item item' hitem => ⟨hitem.host, hitem.element⟩) .full
  refine hend.imp (fun _ _ _ _ hfault => hfault) ?_
  rintro u u' ⟨hvisits, rfl, rfl⟩
  exact CompiledUnit.ofVisits_of_relocated hvisits name name' config

/-- A directory search, and in it a file search that may not name a predecessor but does, each
attribute of it on the line after the one before. -/
def laidOutSearch (name : String) (line : UInt64) : CompilationUnit where
  name := name
  items := [
    { host := { kind := .bundle }
      element :=
        { name := "DirectorySearch"
          attributes := [⟨"Id", "Outer", {}⟩, ⟨"Variable", "Folder", {}⟩, ⟨"Path", "app", {}⟩]
          children := [
            { name := "FileSearch"
              attributes := [
                ⟨"Variable", "Found", ⟨line, 4, name⟩⟩,
                ⟨"Path", "app.exe", ⟨line + 1, 4, name⟩⟩,
                ⟨"After", "Other", ⟨line + 2, 4, name⟩⟩]
              location := ⟨line, 2, name⟩ }] } }]

/-- The complaint moves with the attribute; the row of the outer search stays. -/
theorem compile_relocated_layout :
    let unit := laidOutSearch "wide.wxs" 2
    let unit' := laidOutSearch "tall.wxs" 20
    let config : Config := { allowBuiltinVariables := true }
    unit.Relocated unit' ∧
      (unit.compile config).map (·.diagnostics.map (·.location)) =
        .ok [some ⟨4, 4, some "wide.wxs"⟩] ∧
      (unit'.compile config).map (·.diagnostics.map (·.location)) =
        .ok [some ⟨22, 4, some "tall.wxs"⟩] ∧
      EndAlike (fun fault fault' => fault.unlocated = fault'.unlocated) CompiledUnit.Relocated
        (unit.compile config) (unit'.compile config) := by
  intro unit unit' config
  have hunit : unit.Relocated unit' := ⟨.cons ⟨rfl, rfl⟩ .nil, rfl⟩
  exact ⟨hunit, by decide +kernel, by decide +kernel, compile_relocated hunit config⟩

end InstallMarkup
