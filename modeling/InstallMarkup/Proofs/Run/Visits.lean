import InstallMarkup.Proofs.Run.Elements
import InstallMarkup.Proofs.Run.Walks

/-!
# What visits can come to

A visit that meets no fault has one of four outcomes (`VisitOutcome`, `visit_outcome`): the element
is a search in its place, a reference to one, an element of a component, or misplaced. Only the
first leads further down, and always into a search. So references and elements of components are
never accepted anywhere but directly in a host, and whatever a walk emits is a search that was
accepted in its place, or comes from the element that the walk started from
(`origin_of_mem_walk`).
-/

namespace InstallMarkup

/-! ## Outcomes -/

/-- An emission of an element that belongs to a component: it writes to no table of searches. -/
inductive Emission.OfComponent : Emission → Prop
  | grant (row : PermissionGrantRow) (object component : Symbol) (action : String) :
      OfComponent (.grant row object component action)
  | eventSource (rows : List RegistryRow) (component : Symbol) :
      OfComponent (.eventSource rows component)

/-- What a visit without a fault can come to: an assessment, and the enclosure of the children if
they are visited. -/
inductive VisitOutcome (setting : Setting) (v : Vocabulary) (enclosure : Enclosure) (e : Element) :
    Assessment Emission → Option Enclosure → Prop
  /-- A search in its place; its children are visited in it whether or not it is accepted. -/
  | search (p : PlacedSearch) (helement : p.element = e)
      (hname : v.find? e.name = some (.search p.kind))
      (hplace : enclosure.placement? = some p.placement) :
      VisitOutcome setting v enclosure e
        ⟨p.faults setting.config, (p.search? setting.config).map .search⟩
        (some (.search e.name (p.id? setting.config)))
  /-- A reference that stands directly in a host which holds searches. -/
  | reference (kind : SearchKind) (h : Host) (hname : v.find? e.name = some (.searchReference kind))
      (hhost : enclosure = .host h) (hholds : h.kind.holdsSearches = true) :
      VisitOutcome setting v enclosure e
        (SearchReference.assess setting.config.warningsAsErrors kind e) none
  /-- An element of a component, directly in a host which holds no searches. -/
  | ofComponent (h : Host) (a : Assessment Emission) (hhost : enclosure = .host h)
      (hholds : h.kind.holdsSearches = false)
      (hvalue : ∀ em, a.value = some em → em.OfComponent) :
      VisitOutcome setting v enclosure e a none
  /-- An element without a compiler, or not in its place. -/
  | misplaced
      (hplace : ∀ kind, v.find? e.name = some (.search kind) → enclosure.placement? = none) :
      VisitOutcome setting v enclosure e (misplaced enclosure e) none

section Outcome

variable {setting : Setting} {v : Vocabulary} {enclosure : Enclosure} {e : Element}

theorem HostKind.holdsSearches_of_grantTarget? {kind : HostKind} {target : GrantTarget}
    (h : kind.grantTarget? = some target) : kind.holdsSearches = false := by
  cases kind <;> first | rfl | cases h

/-- What compiling an element comes to is one of the four outcomes of its visit. -/
theorem outcome_of_assess {compiler : ElementCompiler} {a : Assessment Emission}
    (hname : v.find? e.name = some compiler)
    (hassess : compiler.assess setting enclosure e = .ok a) :
    VisitOutcome setting v enclosure e a (compiler.inner? enclosure e a) := by
  have hassessed : compiler.Assessed setting e enclosure (.ok a) :=
    hassess ▸ ElementCompiler.assessed compiler enclosure
  cases hassessed with
  | search p enclosure helement hplace =>
    subst helement
    have hinner : (ElementCompiler.search p.kind).inner? enclosure p.element
        ⟨p.faults setting.config, (p.search? setting.config).map .search⟩ =
          some (.search p.element.name (p.id? setting.config)) :=
      ElementCompiler.inner?_of_search hplace
    rw [hinner]
    exact .search p rfl hname hplace
  | searchReference kind h hholds => exact .reference kind h hname rfl hholds
  | permissionGrant h target objectId componentId htarget hobject hcomponent =>
    refine .ofComponent h _ rfl (HostKind.holdsSearches_of_grantTarget? htarget) ?_
    intro em hem
    obtain ⟨g, rfl⟩ := PermissionGrant.accepted_of_value hem
    exact .grant g.row _ _ g.action
  | eventSource h componentId hkind hcomponent =>
    refine .ofComponent h _ rfl (by rw [hkind]; rfl) ?_
    intro em hem
    obtain ⟨s, rfl⟩ := EventSource.accepted_of_value hem
    exact .eventSource s.rows _
  | misplaced compiler enclosure hplace =>
    have hnot : ∀ kind, compiler = .search kind → enclosure.placement? = none := by
      rintro kind rfl
      simpa [ElementCompiler.fits] using hplace
    rw [ElementCompiler.inner?_of_misplaced hplace]
    exact .misplaced fun kind hkind => hnot kind (Option.some.inj (hname.symm.trans hkind))

theorem visit_outcome {a : Assessment Emission} {inner : Option Enclosure}
    (h : e.visit setting v enclosure = .ok (a, inner)) :
    e.structureFault? = none ∧ VisitOutcome setting v enclosure e a inner := by
  obtain ⟨hstructure, hvisited⟩ := visit_eq_ok_iff.mp h
  refine ⟨hstructure, ?_⟩
  cases hvisited with
  | unknown hname => exact .misplaced (by simp [hname])
  | compiled hname hassess => exact outcome_of_assess hname hassess

end Outcome

theorem exists_search_of_visit {setting : Setting} {v : Vocabulary} {e : Element}
    {enclosure inner : Enclosure} {a : Assessment Emission}
    (h : e.visit setting v enclosure = .ok (a, some inner)) :
    ∃ name id, inner = .search name id := by
  obtain ⟨-, houtcome⟩ := visit_outcome h
  cases houtcome with
  | search p helement hname hplace => exact ⟨_, _, rfl⟩

/-! ## Where emissions come from -/

/-- The element is a reference that was compiled without an error, to the search of the
identifier. -/
def RefersTo (setting : Setting) (v : Vocabulary) (enclosure : Enclosure) (e : Element)
    (id : Identifier) : Prop :=
  ∃ kind a, v.find? e.name = some (.searchReference kind) ∧
    e.visit setting v enclosure = .ok (a, none) ∧
    Assessment.clean setting.config.warningsAsErrors a.raised = true ∧
    (e.attribute? "Id").map (·.value) = some id.text

/-- What a walk over an element can emit: searches accepted in their places, and what the element
itself refers to or adds to its component. -/
inductive Emission.Origin (setting : Setting) (v : Vocabulary) (enclosure : Enclosure)
    (e : Element) : Emission → Prop
  | search (p : PlacedSearch) (s : ValidatedSearch) (h : p.search? setting.config = some s) :
      Origin setting v enclosure e (.search s)
  | reference (id : Identifier) (h : RefersTo setting v enclosure e id) :
      Origin setting v enclosure e (.searchReference id)
  | ofComponent (em : Emission) (h : em.OfComponent) : Origin setting v enclosure e em

section Origin

variable {setting : Setting} {v : Vocabulary} {em : Emission}

theorem origin_of_visit {enclosure : Enclosure} {e : Element} {a : Assessment Emission}
    {inner : Option Enclosure} (h : e.visit setting v enclosure = .ok (a, inner))
    (hem : a.value = some em) : em.Origin setting v enclosure e := by
  obtain ⟨hstructure, houtcome⟩ := visit_outcome h
  cases houtcome with
  | search p helement hname hplace =>
    obtain ⟨s, hs, rfl⟩ := Option.map_eq_some_iff.mp hem
    exact .search p s hs
  | reference kind host hname hhost hholds =>
    obtain ⟨id, rfl, hid, hclean⟩ := SearchReference.of_value hem
    exact .reference id ⟨kind, _, hname, h, hclean, value_of_setting?_identifier hstructure hid⟩
  | ofComponent host a hhost hholds hvalue => exact .ofComponent em (hvalue em hem)
  | misplaced => cases hem

theorem not_refersTo_of_search {e : Element} {name : String} {parent : Option Identifier}
    {id : Identifier} : ¬ RefersTo setting v (.search name parent) e id := by
  rintro ⟨kind, a, hname, hvisit, hclean, -⟩
  obtain ⟨-, houtcome⟩ := visit_outcome hvisit
  cases houtcome with
  | reference kind' host hname' hhost hholds => cases hhost
  | ofComponent host a hhost hholds hvalue => cases hhost
  | misplaced =>
    -- being out of place is an error, and the reference is said to be clean
    exact absurd (Assessment.isError_of_clean hclean (List.mem_singleton.mpr rfl))
      (by simp [Diagnostic.unexpectedElement, Diagnostic.errorAt, Diagnostic.isError])

/-- What stands in a search could be emitted from anywhere. -/
theorem Emission.Origin.of_search {e e' : Element} {name : String} {parent : Option Identifier}
    (h : em.Origin setting v (.search name parent) e) (enclosure : Enclosure) :
    em.Origin setting v enclosure e' := by
  cases h with
  | search p s h => exact .search p s h
  | reference id h => exact absurd h not_refersTo_of_search
  | ofComponent em h => exact .ofComponent em h

/-- Whatever a walk emits comes from the element that it starts from, or from searches in it. -/
theorem origin_of_mem_walk {enclosure : Enclosure} {e : Element}
    (h : em ∈ (e.walk setting v enclosure).visits.filterMap (·.value)) :
    em.Origin setting v enclosure e := by
  revert h
  refine walk_induction setting v
    (P := fun enclosure e => em ∈ (e.walk setting v enclosure).visits.filterMap (·.value) →
      em.Origin setting v enclosure e)
    (Q := fun enclosure es => em ∈ (walkAll setting v enclosure es).visits.filterMap (·.value) →
      ∃ e ∈ es, em.Origin setting v enclosure e) ?stopped ?leaf ?nest ?nil ?cons enclosure e
  case stopped =>
    intro enclosure e fault hvisit h
    rw [walk_of_error hvisit] at h
    cases h
  case leaf =>
    intro enclosure e a hvisit h
    rw [walk_of_leaf hvisit] at h
    obtain ⟨b, hb, hem⟩ := List.mem_filterMap.mp h
    obtain rfl : b = a := List.mem_singleton.mp hb
    exact origin_of_visit hvisit hem
  case nest =>
    intro enclosure e a inner hvisit ih h
    rw [walk_of_nest hvisit] at h
    obtain ⟨b, hb, hem⟩ := List.mem_filterMap.mp h
    rcases List.mem_cons.mp hb with rfl | hb
    · exact origin_of_visit hvisit hem
    · -- it comes from a child, which stands in a search
      obtain ⟨child, -, hchild⟩ := ih (List.mem_filterMap.mpr ⟨b, hb, hem⟩)
      obtain ⟨name, parent, rfl⟩ := exists_search_of_visit hvisit
      exact hchild.of_search enclosure
  case nil =>
    intro enclosure h
    cases h
  case cons =>
    intro enclosure e rest ihe ihrest h
    obtain ⟨b, hb, hem⟩ := List.mem_filterMap.mp h
    rw [walkAll] at hb
    rcases Walk.mem_visits_of_andThen hb with hb | hb
    · exact ⟨e, List.mem_cons_self, ihe (List.mem_filterMap.mpr ⟨b, hb, hem⟩)⟩
    · obtain ⟨e', he', horigin⟩ := ihrest (List.mem_filterMap.mpr ⟨b, hb, hem⟩)
      exact ⟨e', List.mem_cons_of_mem e he', horigin⟩

end Origin

end InstallMarkup
