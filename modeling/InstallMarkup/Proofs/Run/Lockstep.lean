import Mathlib.Data.List.Forall2
import InstallMarkup.Proofs.Run.Composition
import InstallMarkup.Proofs.Run.Elements

/-!
# Two runs in step

What does not matter to a compilation is said by two runs: with warnings that count as errors, for
another platform, over attributes in another order. The two may come apart in what they emit, and
so in the identifiers that enclose what is nested, but they go through the same tree in step. A
`Lockstep` tells how identifiers, elements, assessments and faults of the two correspond, and shows
for each sort of element that what it comes to corresponds. From that follow, once for all:

* **visits**: corresponding elements in corresponding enclosures are visited in step
  (`Lockstep.visit`);
* **walks**: two walks in step visit as much as each other, visit by visit, and are stopped
  together (`Lockstep.walk`, `Lockstep.walkItems`);
* **compilations**: two units in step are both refused or both compiled, and then to what
  corresponding visits leave behind (`Lockstep.compileWith`).
-/

namespace InstallMarkup

/-! ## Correspondences -/

/-- Enclosures that differ at most in the identifier of a search. -/
inductive Enclosure.Alike (Ids : Option Identifier → Option Identifier → Prop) :
    Enclosure → Enclosure → Prop
  | host (h : Host) : Alike Ids (.host h) (.host h)
  | search (name : String) {id id' : Option Identifier} (hid : Ids id id') :
      Alike Ids (.search name id) (.search name id')

/-- Places that differ at most in the identifier of the search around them. -/
inductive Placement.Alike (Ids : Option Identifier → Option Identifier → Prop) :
    Placement → Placement → Prop
  | topLevel : Alike Ids .topLevel .topLevel
  | nested {parent parent' : Option Identifier} (hparent : Ids parent parent') :
      Alike Ids (.nested parent) (.nested parent')

theorem Placement.Alike.eq {placement placement' : Placement} (h : placement.Alike Eq placement') :
    placement = placement' := by
  cases h with
  | topLevel => rfl
  | nested hparent => rw [hparent]

/-- How two runs correspond: in the identifiers of searches, in the elements, in what a visit comes
to, and in faults. Whatever a pair of corresponding elements can come to corresponds. -/
structure Lockstep (setting setting' : Setting) where
  Ids : Option Identifier → Option Identifier → Prop
  Elements : Element → Element → Prop
  Visits : Assessment Emission → Assessment Emission → Prop
  Faults : CompileFault → CompileFault → Prop
  name : ∀ {e e'}, Elements e e' → e.name = e'.name
  children : ∀ {e e'}, Elements e e' → List.Forall₂ Elements e.children e'.children
  malformed : ∀ {e e'}, Elements e e' → Option.Rel Faults e.structureFault? e'.structureFault?
  lacking : ∀ {e e'}, Elements e e' → ∀ parent key,
    Faults (.missingParentValue e.name parent key e.location)
      (.missingParentValue e'.name parent key e'.location)
  misplaced : ∀ {e e'}, Elements e e' → ∀ enclosure,
    Visits (misplaced enclosure e) (misplaced enclosure e')
  search : ∀ {e e'}, Elements e e' → e.structureFault? = none → e'.structureFault? = none →
    ∀ {placement placement'}, Placement.Alike Ids placement placement' → ∀ kind,
      Visits (PlacedSearch.assessment ⟨kind, e, placement⟩ setting.config)
          (PlacedSearch.assessment ⟨kind, e', placement'⟩ setting'.config) ∧
        Ids (PlacedSearch.id? ⟨kind, e, placement⟩ setting.config)
          (PlacedSearch.id? ⟨kind, e', placement'⟩ setting'.config)
  searchReference : ∀ {e e'}, Elements e e' → e.structureFault? = none →
    e'.structureFault? = none → ∀ kind,
      Visits (SearchReference.assess setting.config.warningsAsErrors kind e)
        (SearchReference.assess setting'.config.warningsAsErrors kind e')
  permissionGrant : ∀ {e e'}, Elements e e' → e.structureFault? = none →
    e'.structureFault? = none → ∀ target objectId componentId,
      Visits
        (PermissionGrant.assessOn setting.config setting.declared target objectId componentId e)
        (PermissionGrant.assessOn setting'.config setting'.declared target objectId componentId e')
  eventSource : ∀ {e e'}, Elements e e' → e.structureFault? = none →
    e'.structureFault? = none → ∀ componentId,
      Visits
        (EventSource.assessment setting.config.warningsAsErrors setting.declared componentId e)
        (EventSource.assessment setting'.config.warningsAsErrors setting'.declared componentId e')

/-- Two visits that come to the same end: both meet a fault, or both are assessed and lead on to
the children, or both are assessed and do not. -/
inductive VisitsInStep (Enclosures : Enclosure → Enclosure → Prop)
    (Visits : Assessment Emission → Assessment Emission → Prop)
    (Faults : CompileFault → CompileFault → Prop) :
    Except CompileFault (Assessment Emission × Option Enclosure) →
      Except CompileFault (Assessment Emission × Option Enclosure) → Prop
  | error {fault fault' : CompileFault} (hfault : Faults fault fault') :
      VisitsInStep Enclosures Visits Faults (.error fault) (.error fault')
  | leaf {a a' : Assessment Emission} (hvisit : Visits a a') :
      VisitsInStep Enclosures Visits Faults (.ok (a, none)) (.ok (a', none))
  | nest {a a' : Assessment Emission} {inner inner' : Enclosure} (hvisit : Visits a a')
      (hinner : Enclosures inner inner') :
      VisitsInStep Enclosures Visits Faults (.ok (a, some inner)) (.ok (a', some inner'))

/-- Two walks with corresponding visits, stopped by corresponding faults or not at all. -/
structure Walk.InStep (Visits : Assessment Emission → Assessment Emission → Prop)
    (Faults : CompileFault → CompileFault → Prop) (w w' : Walk) : Prop where
  visits : List.Forall₂ Visits w.visits w'.visits
  fault : Option.Rel Faults w.fault w'.fault

/-- Two compilations that both fail, with corresponding faults, or both succeed, with corresponding
units. -/
inductive EndAlike (Faults : CompileFault → CompileFault → Prop)
    (Units : CompiledUnit → CompiledUnit → Prop) :
    Except CompileFault CompiledUnit → Except CompileFault CompiledUnit → Prop
  | fail {fault fault' : CompileFault} (hfault : Faults fault fault') :
      EndAlike Faults Units (.error fault) (.error fault')
  | succeed {u u' : CompiledUnit} (hunit : Units u u') : EndAlike Faults Units (.ok u) (.ok u')

theorem EndAlike.imp {Faults Faults' : CompileFault → CompileFault → Prop}
    {Units Units' : CompiledUnit → CompiledUnit → Prop}
    {r r' : Except CompileFault CompiledUnit} (h : EndAlike Faults Units r r')
    (hfaults : ∀ f f', r = .error f → r' = .error f' → Faults f f' → Faults' f f')
    (hunits : ∀ u u', Units u u' → Units' u u') : EndAlike Faults' Units' r r' := by
  cases h with
  | fail hfault => exact .fail (hfaults _ _ rfl rfl hfault)
  | succeed hunit => exact .succeed (hunits _ _ hunit)

/-- Two compilations that end like a third one end alike. -/
theorem EndAlike.join {Units Units' Units'' : CompiledUnit → CompiledUnit → Prop}
    {r r' r'' : Except CompileFault CompiledUnit} (h : EndAlike (· = ·) Units r r')
    (h' : EndAlike (· = ·) Units' r r'')
    (hunits : ∀ ref u u', Units ref u → Units' ref u' → Units'' u u') :
    EndAlike (· = ·) Units'' r' r'' := by
  cases h with
  | fail hfault =>
    cases h' with
    | fail hfault' => exact .fail (hfault.symm.trans hfault')
  | succeed hunit =>
    cases h' with
    | succeed hunit' => exact .succeed (hunits _ _ _ hunit hunit')

/-! ## Single elements -/

namespace Enclosure.Alike

variable {Ids : Option Identifier → Option Identifier → Prop} {enclosure enclosure' : Enclosure}

theorem name (h : enclosure.Alike Ids enclosure') : enclosure.name = enclosure'.name := by
  cases h <;> rfl

theorem placement {placement : Placement} (h : enclosure.Alike Ids enclosure')
    (hplace : enclosure.placement? = some placement) :
    ∃ placement', enclosure'.placement? = some placement' ∧ placement.Alike Ids placement' := by
  cases h with
  | host h =>
    refine ⟨placement, hplace, ?_⟩
    cases hholds : h.kind.holdsSearches with
    | true =>
      rw [Enclosure.placement?, hholds] at hplace
      cases hplace
      exact .topLevel
    | false =>
      rw [Enclosure.placement?, hholds] at hplace
      cases hplace
  | search name hid =>
    cases hplace
    exact ⟨_, rfl, .nested hid⟩

theorem fits (h : enclosure.Alike Ids enclosure') (compiler : ElementCompiler) :
    compiler.fits enclosure = compiler.fits enclosure' := by
  cases h with
  | host h => rfl
  | search name hid => cases compiler <;> rfl

end Enclosure.Alike

namespace Lockstep

variable {setting setting' : Setting} (L : Lockstep setting setting')

theorem misplaced_in {enclosure enclosure' : Enclosure} {e e' : Element}
    (henclosure : enclosure.Alike L.Ids enclosure') (he : L.Elements e e') :
    L.Visits (InstallMarkup.misplaced enclosure e) (InstallMarkup.misplaced enclosure' e') := by
  have hname : InstallMarkup.misplaced enclosure e' = InstallMarkup.misplaced enclosure' e' := by
    rw [InstallMarkup.misplaced, henclosure.name]
    rfl
  exact hname ▸ L.misplaced he enclosure

/-- Compiling corresponding elements with one compiler comes to the same end. -/
theorem assess {enclosure enclosure' : Enclosure} {e e' : Element}
    (henclosure : enclosure.Alike L.Ids enclosure') (he : L.Elements e e')
    (hstructure : e.structureFault? = none) (hstructure' : e'.structureFault? = none)
    (compiler : ElementCompiler) :
    VisitsInStep (Enclosure.Alike L.Ids) L.Visits L.Faults
      ((compiler.assess setting enclosure e).map fun a => (a, compiler.inner? enclosure e a))
      ((compiler.assess setting' enclosure' e').map fun a =>
        (a, compiler.inner? enclosure' e' a)) := by
  have hassessed : compiler.Assessed setting e enclosure (compiler.assess setting enclosure e) :=
    ElementCompiler.assessed compiler enclosure
  generalize compiler.assess setting enclosure e = result at hassessed
  -- what the first run comes to tells what the second one does
  cases hassessed with
  | search p enclosure helement hplace =>
    subst helement
    obtain ⟨placement', hplace', halike⟩ := henclosure.placement hplace
    let p' : PlacedSearch := ⟨p.kind, e', placement'⟩
    obtain ⟨hvisit, hid⟩ := L.search he hstructure hstructure' halike p.kind
    rw [ElementCompiler.assess_eq_iff.mpr (.search p' enclosure' rfl hplace')]
    show VisitsInStep _ _ _
      (.ok (p.assessment setting.config,
        (ElementCompiler.search p.kind).inner? enclosure p.element (p.assessment setting.config)))
      (.ok (p'.assessment setting'.config,
        (ElementCompiler.search p'.kind).inner? enclosure' p'.element
          (p'.assessment setting'.config)))
    rw [ElementCompiler.inner?_of_search hplace, ElementCompiler.inner?_of_search hplace',
      L.name he]
    exact .nest hvisit (.search e'.name hid)
  | searchReference kind h hholds =>
    cases henclosure
    rw [ElementCompiler.assess_eq_iff.mpr (.searchReference kind h hholds)]
    exact .leaf (L.searchReference he hstructure hstructure' kind)
  | permissionGrant h target objectId componentId htarget hobject hcomponent =>
    cases henclosure
    rw [ElementCompiler.assess_eq_iff.mpr
      (.permissionGrant h target objectId componentId htarget hobject hcomponent)]
    exact .leaf (L.permissionGrant he hstructure hstructure' target objectId componentId)
  | eventSource h componentId hkind hcomponent =>
    cases henclosure
    rw [ElementCompiler.assess_eq_iff.mpr (.eventSource h componentId hkind hcomponent)]
    exact .leaf (L.eventSource he hstructure hstructure' componentId)
  | lacking compiler h key hkey =>
    cases henclosure
    rw [ElementCompiler.assess_eq_iff.mpr (.lacking compiler h key hkey)]
    exact .error (L.lacking he h.kind.name key)
  | misplaced compiler enclosure hplace =>
    have hplace' : compiler.fits enclosure' = false := henclosure.fits compiler ▸ hplace
    rw [ElementCompiler.assess_of_misplaced hplace']
    simp only [Except.map, ElementCompiler.inner?_of_misplaced hplace,
      ElementCompiler.inner?_of_misplaced hplace']
    exact .leaf (L.misplaced_in henclosure he)

/-- Corresponding elements in corresponding enclosures are visited in step. -/
theorem visit (v : Vocabulary) {enclosure enclosure' : Enclosure} {e e' : Element}
    (henclosure : enclosure.Alike L.Ids enclosure') (he : L.Elements e e') :
    VisitsInStep (Enclosure.Alike L.Ids) L.Visits L.Faults (e.visit setting v enclosure)
      (e'.visit setting' v enclosure') := by
  have hfaults := L.malformed he
  cases hstructure : e.structureFault? with
  | some fault =>
    rw [hstructure] at hfaults
    generalize hstructure' : e'.structureFault? = found at hfaults
    cases hfaults with
    | some hfault =>
      rw [visit_of_malformed hstructure, visit_of_malformed hstructure']
      exact .error hfault
  | none =>
    rw [hstructure] at hfaults
    generalize hstructure' : e'.structureFault? = found at hfaults
    cases hfaults
    have hname : e.name = e'.name := L.name he
    cases hfind : v.find? e.name with
    | none =>
      rw [visit_of_unknown hstructure hfind, visit_of_unknown hstructure' (hname ▸ hfind)]
      exact .leaf (L.misplaced_in henclosure he)
    | some compiler =>
      rw [visit_of_compiler hstructure hfind, visit_of_compiler hstructure' (hname ▸ hfind)]
      exact L.assess henclosure he hstructure hstructure' compiler

end Lockstep

/-! ## Walks -/

theorem Walk.InStep.andThen {Visits : Assessment Emission → Assessment Emission → Prop}
    {Faults : CompileFault → CompileFault → Prop} {first first' second second' : Walk}
    (hfirst : first.InStep Visits Faults first') (hsecond : second.InStep Visits Faults second') :
    (first.andThen second).InStep Visits Faults (first'.andThen second') := by
  obtain ⟨visits, fault⟩ := first
  obtain ⟨visits', fault'⟩ := first'
  obtain ⟨hvisits, hfault⟩ := hfirst
  cases hfault with
  | some hfault =>
    -- neither second walk takes place
    rw [andThen_of_fault rfl, andThen_of_fault rfl]
    exact ⟨hvisits, .some hfault⟩
  | none =>
    rw [andThen_of_finished rfl, andThen_of_finished rfl]
    exact ⟨List.rel_append hvisits hsecond.visits, hsecond.fault⟩

namespace Lockstep

variable {setting setting' : Setting} (L : Lockstep setting setting') (v : Vocabulary)

theorem walk : ∀ (enclosure : Enclosure) (e : Element) (enclosure' : Enclosure) (e' : Element),
    enclosure.Alike L.Ids enclosure' → L.Elements e e' →
      (e.walk setting v enclosure).InStep L.Visits L.Faults (e'.walk setting' v enclosure') := by
  refine walk_induction setting v
    (Q := fun enclosure es => ∀ enclosure' es', enclosure.Alike L.Ids enclosure' →
      List.Forall₂ L.Elements es es' → (walkAll setting v enclosure es).InStep L.Visits L.Faults
        (walkAll setting' v enclosure' es'))
    ?stopped ?leaf ?nest ?nil ?cons
  case stopped =>
    intro enclosure e fault hvisit enclosure' e' henclosure he
    have hstep := L.visit v henclosure he
    rw [hvisit] at hstep
    generalize hvisit' : e'.visit setting' v enclosure' = result at hstep
    cases hstep with
    | error hfault =>
      rw [walk_of_error hvisit, walk_of_error hvisit']
      exact ⟨.nil, .some hfault⟩
  case leaf =>
    intro enclosure e a hvisit enclosure' e' henclosure he
    have hstep := L.visit v henclosure he
    rw [hvisit] at hstep
    generalize hvisit' : e'.visit setting' v enclosure' = result at hstep
    cases hstep with
    | leaf ha =>
      rw [walk_of_leaf hvisit, walk_of_leaf hvisit']
      exact ⟨.cons ha .nil, .none⟩
  case nest =>
    intro enclosure e a inner hvisit ih enclosure' e' henclosure he
    have hstep := L.visit v henclosure he
    rw [hvisit] at hstep
    generalize hvisit' : e'.visit setting' v enclosure' = result at hstep
    cases hstep with
    | nest ha hinner =>
      -- the children correspond, and so do the searches that they are visited in
      have hchildren := ih _ _ hinner (L.children he)
      rw [walk_of_nest hvisit, walk_of_nest hvisit']
      exact ⟨.cons ha hchildren.visits, hchildren.fault⟩
  case nil =>
    intro enclosure enclosure' es' henclosure hes
    cases hes
    exact ⟨.nil, .none⟩
  case cons =>
    intro enclosure e rest ihe ihrest enclosure' es' henclosure hes
    cases hes with
    | cons he hrest =>
      rw [walkAll, walkAll]
      exact (ihe _ _ henclosure he).andThen (ihrest _ _ henclosure hrest)

/-- Items in the same host whose elements correspond. -/
def Items (item item' : UnitItem) : Prop :=
  item.host = item'.host ∧ L.Elements item.element item'.element

theorem walkItems {items items' : List UnitItem} (h : List.Forall₂ L.Items items items') :
    (walkItems setting v items).InStep L.Visits L.Faults (walkItems setting' v items') := by
  induction h with
  | nil => exact ⟨.nil, .none⟩
  | @cons item item' rest rest' hitem hrest ih =>
    obtain ⟨hhost, helement⟩ := hitem
    rw [InstallMarkup.walkItems, InstallMarkup.walkItems, ← hhost]
    exact (L.walk v _ _ _ _ (.host item.host) helement).andThen ih

/-! ### The same tree -/

/-- Two runs over one tree are stopped by the same faults. What is left to say is how the
assessments of an element correspond. -/
def sameTree (Ids : Option Identifier → Option Identifier → Prop)
    (Visits : Assessment Emission → Assessment Emission → Prop)
    (hmisplaced : ∀ enclosure e,
      Visits (InstallMarkup.misplaced enclosure e) (InstallMarkup.misplaced enclosure e))
    (hsearch : ∀ e {placement placement'}, Placement.Alike Ids placement placement' → ∀ kind,
      Visits (PlacedSearch.assessment ⟨kind, e, placement⟩ setting.config)
          (PlacedSearch.assessment ⟨kind, e, placement'⟩ setting'.config) ∧
        Ids (PlacedSearch.id? ⟨kind, e, placement⟩ setting.config)
          (PlacedSearch.id? ⟨kind, e, placement'⟩ setting'.config))
    (hreference : ∀ e kind,
      Visits (SearchReference.assess setting.config.warningsAsErrors kind e)
        (SearchReference.assess setting'.config.warningsAsErrors kind e))
    (hgrant : ∀ e target objectId componentId,
      Visits
        (PermissionGrant.assessOn setting.config setting.declared target objectId componentId e)
        (PermissionGrant.assessOn setting'.config setting'.declared target objectId componentId e))
    (hsource : ∀ e componentId,
      Visits
        (EventSource.assessment setting.config.warningsAsErrors setting.declared componentId e)
        (EventSource.assessment setting'.config.warningsAsErrors setting'.declared componentId
          e)) : Lockstep setting setting' where
  Ids := Ids
  Elements := Eq
  Visits := Visits
  Faults := Eq
  name := by
    rintro e _ rfl
    rfl
  children := by
    rintro e _ rfl
    exact List.forall₂_same.mpr fun _ _ => rfl
  malformed := by
    rintro e _ rfl
    cases e.structureFault? with
    | none => exact .none
    | some fault => exact .some rfl
  lacking := by
    rintro e _ rfl parent key
    rfl
  misplaced := by
    rintro e _ rfl enclosure
    exact hmisplaced enclosure e
  search := by
    rintro e _ rfl - - placement placement' halike kind
    exact hsearch e halike kind
  searchReference := by
    rintro e _ rfl - - kind
    exact hreference e kind
  permissionGrant := by
    rintro e _ rfl - - target objectId componentId
    exact hgrant e target objectId componentId
  eventSource := by
    rintro e _ rfl - - componentId
    exact hsource e componentId

theorem items_self (hself : ∀ e, L.Elements e e) (items : List UnitItem) :
    List.Forall₂ L.Items items items :=
  List.forall₂_same.mpr fun item _ => ⟨rfl, hself item.element⟩

end Lockstep

/-! ## Visits in step -/

section Visits

variable {R : Assessment Emission → Assessment Emission → Prop}
  {visits visits' : List (Assessment Emission)} {β : Type}

/-- If corresponding visits give the same lists, so do all of them together. -/
theorem flatMap_eq_of_forall₂ {f g : Assessment Emission → List β}
    (h : List.Forall₂ R visits visits') (hfg : ∀ a a', R a a' → f a = g a') :
    visits.flatMap f = visits'.flatMap g := by
  have hrel : List.Forall₂ Eq (visits.flatMap f) (visits'.flatMap g) := by
    refine List.rel_flatMap h ?_
    intro a a' ha
    rw [hfg a a' ha, List.forall₂_eq_eq_eq]
  rwa [List.forall₂_eq_eq_eq] at hrel

theorem filterMap_eq_of_forall₂ {f g : Assessment Emission → Option β}
    (h : List.Forall₂ R visits visits') (hfg : ∀ a a', R a a' → f a = g a') :
    visits.filterMap f = visits'.filterMap g := by
  rw [List.filterMap_eq_flatMap_toList, List.filterMap_eq_flatMap_toList]
  exact flatMap_eq_of_forall₂ h fun a a' ha => congrArg Option.toList (hfg a a' ha)

end Visits

/-! ## Compilations -/

/-- Two units in step are both refused, with corresponding faults, or both compiled, to what their
visits, which correspond, leave behind. -/
theorem Lockstep.compileWith {unit unit' : CompilationUnit} {config config' : Config}
    (L : Lockstep { config, declared := unit.declared }
      { config := config', declared := unit'.declared })
    (hitems : List.Forall₂ L.Items unit.items unit'.items) (v : Vocabulary) :
    EndAlike L.Faults
      (fun u u' => List.Forall₂ L.Visits (unit.walk config v).visits (unit'.walk config' v).visits ∧
        u = .ofVisits unit.name config (unit.walk config v).visits ∧
        u' = .ofVisits unit'.name config' (unit'.walk config' v).visits)
      (unit.compileWith config v) (unit'.compileWith config' v) := by
  obtain ⟨hvisits, hfault⟩ : (unit.walk config v).InStep L.Visits L.Faults (unit'.walk config' v) :=
    L.walkItems v hitems
  rw [CompilationUnit.compileWith_eq, CompilationUnit.compileWith_eq]
  generalize (unit.walk config v).fault = fault at hfault
  generalize (unit'.walk config' v).fault = fault' at hfault
  cases hfault with
  | some hfault => exact .fail hfault
  | none => exact .succeed ⟨hvisits, rfl, rfl⟩

end InstallMarkup
