import InstallMarkup.Proofs.Run.Emitted
import InstallMarkup.Proofs.Run.Faults
import InstallMarkup.Proofs.Search.Flattening

/-!
# Inside a search

What is nested in a search is compiled whether or not the search itself is written, so that every
problem of a tree is reported in one pass. Two runs that come to the same nested elements from
different searches, one of which may be written and the other not, go through them together:

* **visits**: an element comes to the same in both, except that a search runs after the search
  right around it, whose identifier the runs may have computed differently, or not at all
  (`twinOutcome`, `Emission.Rebased`);
* **walks**: the runs visit the same elements, are stopped by the same fault, and differ in no
  identifier that does not come down from the first one they differ in (`StandsIn`,
  `twins_walkAll`);
* **reports**: two searches of one name with the same children are reported alike from there on,
  whatever their own attributes are (`dispatch_reportedAlike`).
-/

namespace InstallMarkup

/-! ## Two runs over one tree -/

/-- An element nested in a search as two runs visit it: the identifiers under which they wrote the
search right around it, if they did, and what the element comes to in each of them. -/
structure TwinVisit where
  element : Element
  parent : Option Identifier
  parent' : Option Identifier
  first : Assessment Emission
  second : Assessment Emission

/-- The site that is visited; it stands in no host. -/
def TwinVisit.site (v : TwinVisit) : Site := { host? := none, element := v.element }

/-- Nothing in both runs, or one search that runs after `parent` in the first and after `parent'`
in the second. Its identifier changes with that, unless the author has given it one. -/
inductive Emission.Rebased (parent parent' : Option Identifier) :
    Option Emission → Option Emission → Prop
  | nothing : Rebased parent parent' none none
  | search (query : SearchQuery) (header : SearchHeader) :
      Rebased parent parent' (some (.search (query.written { header with after := parent })))
        (some (.search (query.written { header with after := parent' })))

/-- The element stands somewhere in `es`, which stand in a search that two runs have under `id` and
`id'`; the search right around the element they have under `parent` and `parent'`. -/
inductive StandsIn (config : Config) (es : List Element) (id id' : Option Identifier) :
    Element → Option Identifier → Option Identifier → Prop
  /-- It is one of them. -/
  | direct {e : Element} (hmem : e ∈ es) : StandsIn config es id id' e id id'
  /-- It stands in a nested search, which was itself written after what is around that. -/
  | deeper (kind : SearchKind) {e child : Element} {parent parent' : Option Identifier}
      (he : StandsIn config es id id' e parent parent') (hname : e.name = kind.elementName)
      (hchild : child ∈ e.children) : StandsIn config es id id' child
        (PlacedSearch.id? ⟨kind, e, .nested parent⟩ config)
        (PlacedSearch.id? ⟨kind, e, .nested parent'⟩ config)

/-- Both runs visit the element, with the same complaints, and emit the same but for what the search
runs after. -/
structure TwinVisit.Alike (setting : Setting) (es : List Element) (id id' : Option Identifier)
    (v : TwinVisit) : Prop where
  stands : StandsIn setting.config es id id' v.element v.parent v.parent'
  visited : ∃ name inner inner',
    v.element.visit setting .full (.search name v.parent) = .ok (v.first, inner) ∧
      v.element.visit setting .full (.search name v.parent') = .ok (v.second, inner')
  raised : v.first.raised = v.second.raised
  value : Emission.Rebased v.parent v.parent' v.first.value v.second.value

/-- Two walks over the same sites that visit them one by one together, as `R` says, and finish or
are stopped together. -/
inductive Walk.Twins (R : TwinVisit → Prop) : Walk → Walk → List Site → Prop
  | finished {visits : List TwinVisit} (hvisits : ∀ v ∈ visits, R v) :
      Twins R ⟨visits.map (·.first), none⟩ ⟨visits.map (·.second), none⟩ (visits.map (·.site))
  | stopped {visits : List TwinVisit} {site : Site} {after : List Site} {fault : CompileFault}
      (hvisits : ∀ v ∈ visits, R v) (hoffends : site.Offends fault) :
      Twins R ⟨visits.map (·.first), some fault⟩ ⟨visits.map (·.second), some fault⟩
        (visits.map (·.site) ++ site :: after)

/-! ### Where elements stand -/

namespace StandsIn

variable {config : Config} {es fs : List Element} {id id' parent parent' : Option Identifier}
  {e c : Element}

theorem mono (h : StandsIn config es id id' c parent parent') (hsub : ∀ e ∈ es, e ∈ fs) :
    StandsIn config fs id id' c parent parent' := by
  induction h with
  | direct hmem => exact .direct (hsub _ hmem)
  | deeper kind _ hname hchild ih => exact .deeper kind ih hname hchild

/-- What stands in the children of a search stands in whatever the search does. -/
theorem of_children {kind : SearchKind} (hname : e.name = kind.elementName) (hmem : e ∈ es)
    (h : StandsIn config e.children (PlacedSearch.id? ⟨kind, e, .nested id⟩ config)
      (PlacedSearch.id? ⟨kind, e, .nested id'⟩ config) c parent parent') :
    StandsIn config es id id' c parent parent' := by
  induction h with
  | direct hchild => exact .deeper kind (.direct hmem) hname hchild
  | deeper kind' _ hname' hchild ih => exact .deeper kind' ih hname' hchild

end StandsIn

/-! ### Walks together -/

namespace Walk.Twins

variable {R R' : TwinVisit → Prop} {w w' : Walk} {sites : List Site}

theorem imp (h : w.Twins R w' sites) (himp : ∀ v, R v → R' v) : w.Twins R' w' sites := by
  cases h with
  | finished hvisits => exact .finished fun v hv => himp v (hvisits v hv)
  | stopped hvisits hoffends => exact .stopped (fun v hv => himp v (hvisits v hv)) hoffends

theorem visit {v : TwinVisit} (hv : R v) (h : w.Twins R w' sites) :
    (Walk.visit v.first w).Twins R (Walk.visit v.second w') (v.site :: sites) := by
  cases h with
  | finished hvisits => exact .finished (List.forall_mem_cons.mpr ⟨hv, hvisits⟩)
  | stopped hvisits hoffends =>
    rw [← List.cons_append]
    exact .stopped (List.forall_mem_cons.mpr ⟨hv, hvisits⟩) hoffends

theorem andThen {first first' second second' : Walk} {xs ys : List Site}
    (hfirst : first.Twins R first' xs) (hsecond : second.Twins R second' ys) :
    (first.andThen second).Twins R (first'.andThen second') (xs ++ ys) := by
  cases hfirst with
  | stopped hvisits hoffends =>
    -- neither second walk takes place
    rw [andThen_of_fault rfl, andThen_of_fault rfl, List.append_assoc, List.cons_append]
    exact .stopped hvisits hoffends
  | finished hxs =>
    rw [andThen_of_finished rfl, andThen_of_finished rfl]
    cases hsecond with
    | finished hys =>
      simp only [← List.map_append]
      exact .finished (List.forall_mem_append.mpr ⟨hxs, hys⟩)
    | stopped hys hoffends =>
      simp only [← List.map_append, ← List.append_assoc]
      exact .stopped (List.forall_mem_append.mpr ⟨hxs, hys⟩) hoffends

theorem fault (h : w.Twins R w' sites) : w.fault = w'.fault := by
  cases h <;> rfl

/-- Walks together complain about the same if each of their visits does. -/
theorem raised (h : w.Twins R w' sites) (hraised : ∀ v, R v → v.first.raised = v.second.raised) :
    w.visits.flatMap (·.raised) = w'.visits.flatMap (·.raised) := by
  cases h with
  | finished hvisits =>
    simp only [List.flatMap_map]
    exact List.flatMap_congr fun v hv => hraised v (hvisits v hv)
  | stopped hvisits hoffends =>
    simp only [List.flatMap_map]
    exact List.flatMap_congr fun v hv => hraised v (hvisits v hv)

end Walk.Twins

/-! ## One element -/

/-- A nested search is written after any search or after none, if it is written at all. -/
theorem PlacedSearch.rebased_search? (kind : SearchKind) (e : Element) (config : Config)
    (parent parent' : Option Identifier) : Emission.Rebased parent parent'
      ((search? ⟨kind, e, .nested parent⟩ config).map .search)
      ((search? ⟨kind, e, .nested parent'⟩ config).map .search) := by
  cases hs : search? ⟨kind, e, .nested parent⟩ config with
  | none =>
    have hclean : isClean ⟨kind, e, .nested parent'⟩ config = false := by
      show isClean ⟨kind, e, .nested parent⟩ config = false
      rw [← isSome_search?, hs]
      rfl
    have hs' : search? ⟨kind, e, .nested parent'⟩ config = none := by
      rw [search?, hclean, if_neg Bool.false_ne_true]
    rw [hs']
    exact .nothing
  | some s =>
    obtain ⟨hclean, h, q, hheader, hquery, rfl⟩ := search?_eq_some hs
    obtain ⟨name, hname, rfl⟩ := Option.map_eq_some_iff.mp hheader
    -- nothing but the predecessor is read off the place
    have hs' : search? ⟨kind, e, .nested parent'⟩ config = some (q.written
        { id := setting? e.attributes "Id" (·.identifier kind.elementName)
          variableName := name
          condition := setting? e.attributes "Condition" (·.text kind.elementName)
          after := parent' }) := by
      have hclean' : isClean ⟨kind, e, .nested parent'⟩ config = true := hclean
      have hheader' : (header ⟨kind, e, .nested parent'⟩ config).value =
          some (_ : SearchHeader) := Option.map_eq_some_iff.mpr ⟨name, hname, rfl⟩
      have hquery' : (query ⟨kind, e, .nested parent'⟩).value = some q := hquery
      rw [search?, hclean', if_pos rfl, hheader', hquery']
      rfl
    rw [hs']
    exact .search q
      { id := setting? e.attributes "Id" (·.identifier kind.elementName)
        variableName := name
        condition := setting? e.attributes "Condition" (·.text kind.elementName) }

/-- What two visits of an element in searches of one name come to: the same fault, the same verdict
that it may not stand there, or a search in its place in both. -/
inductive TwinOutcome (setting : Setting) (name : String) (id id' : Option Identifier)
    (e : Element) : Prop
  | stopped (fault : CompileFault)
      (hvisit : e.visit setting .full (.search name id) = .error fault)
      (hvisit' : e.visit setting .full (.search name id') = .error fault)
  | misplaced
      (hvisit : e.visit setting .full (.search name id) =
        .ok (misplaced (.search name id) e, none))
      (hvisit' : e.visit setting .full (.search name id') =
        .ok (misplaced (.search name id) e, none))
  | search (kind : SearchKind) (hname : e.name = kind.elementName)
      (hvisit : e.visit setting .full (.search name id) =
        .ok (PlacedSearch.assessment ⟨kind, e, .nested id⟩ setting.config,
          some (.search e.name (PlacedSearch.id? ⟨kind, e, .nested id⟩ setting.config))))
      (hvisit' : e.visit setting .full (.search name id') =
        .ok (PlacedSearch.assessment ⟨kind, e, .nested id'⟩ setting.config,
          some (.search e.name (PlacedSearch.id? ⟨kind, e, .nested id'⟩ setting.config))))

theorem twinOutcome (setting : Setting) (name : String) (id id' : Option Identifier)
    (e : Element) : TwinOutcome setting name id id' e := by
  cases hstructure : e.structureFault? with
  | some fault =>
    exact .stopped fault (visit_of_malformed hstructure) (visit_of_malformed hstructure)
  | none =>
    cases hfind : Vocabulary.full.find? e.name with
    | none =>
      exact .misplaced (visit_of_unknown hstructure hfind) (visit_of_unknown hstructure hfind)
    | some compiler =>
      have hname : e.name = compiler.name := Vocabulary.find?_full_eq_some_iff.mp hfind
      cases compiler with
      | search kind =>
        let p : PlacedSearch := ⟨kind, e, .nested id⟩
        let p' : PlacedSearch := ⟨kind, e, .nested id'⟩
        have hvisit : p.element.visit setting .full (.search name id) = _ :=
          visit_of_placed hstructure hname rfl
        have hvisit' : p'.element.visit setting .full (.search name id') = _ :=
          visit_of_placed hstructure hname rfl
        exact .search kind hname hvisit hvisit'
      | _ =>
        -- only a search may stand in a search
        refine .misplaced ?_ ?_
        · rw [visit_of_compiler hstructure hfind]
          rfl
        · rw [visit_of_compiler hstructure hfind]
          rfl

/-! ## Trees -/

section Trees

variable (setting : Setting)

/-- Two walks over an element go together if those over its children do, whatever the element is
written under. -/
theorem twins_of_children (name : String) (id id' : Option Identifier) (e : Element)
    (hchildren : ∀ parent parent', (walkAll setting .full (.search e.name parent) e.children).Twins
      (TwinVisit.Alike setting e.children parent parent')
      (walkAll setting .full (.search e.name parent') e.children) (nestedSites e.children)) :
    (e.walk setting .full (.search name id)).Twins (TwinVisit.Alike setting [e] id id')
      (e.walk setting .full (.search name id')) (e.sites none) := by
  have hself : e ∈ [e] := List.mem_singleton.mpr rfl
  have hnone : ∀ v ∈ ([] : List TwinVisit), v.Alike setting [e] id id' :=
    fun _ hmem => absurd hmem List.not_mem_nil
  cases twinOutcome setting name id id' e with
  | stopped fault hvisit hvisit' =>
    have hoffends : Site.Offends ⟨none, e⟩ fault :=
      Site.fault?_eq_some_iff.mp (visit_full_eq_error_iff.mp hvisit)
    rw [walk_of_error hvisit, walk_of_error hvisit', sites_eq]
    exact .stopped hnone hoffends
  | misplaced hvisit hvisit' =>
    have hclosed : false = Site.opens ⟨none, e⟩ := isSome_inner_of_visit hvisit
    let v : TwinVisit := ⟨e, id, id', misplaced (.search name id) e, misplaced (.search name id) e⟩
    have hv : v.Alike setting [e] id id' :=
      ⟨.direct hself, ⟨name, none, none, hvisit, hvisit'⟩, rfl, .nothing⟩
    rw [walk_of_leaf hvisit, walk_of_leaf hvisit', sites_eq, ← hclosed]
    exact Walk.Twins.visit hv (.finished hnone)
  | search kind hname hvisit hvisit' =>
    have hopen : true = Site.opens ⟨none, e⟩ := isSome_inner_of_visit hvisit
    let v : TwinVisit := ⟨e, id, id', PlacedSearch.assessment ⟨kind, e, .nested id⟩ setting.config,
      PlacedSearch.assessment ⟨kind, e, .nested id'⟩ setting.config⟩
    have hv : v.Alike setting [e] id id' :=
      ⟨.direct hself, ⟨name, _, _, hvisit, hvisit'⟩, rfl,
        PlacedSearch.rebased_search? kind e setting.config id id'⟩
    rw [walk_of_nest hvisit, walk_of_nest hvisit', sites_eq, ← hopen, if_pos rfl]
    refine Walk.Twins.visit hv ((hchildren _ _).imp fun c hc => ?_)
    exact { hc with stands := .of_children hname hself hc.stands }

mutual

/-- Two walks over one element go together, and the identifiers in which they differ come down from
those of the searches around it. -/
theorem twins_walk (name : String) (id id' : Option Identifier) : ∀ e : Element,
    (e.walk setting .full (.search name id)).Twins (TwinVisit.Alike setting [e] id id')
      (e.walk setting .full (.search name id')) (e.sites none)
  | ⟨n, attributes, children, location⟩ =>
    twins_of_children setting name id id' ⟨n, attributes, children, location⟩ fun parent parent' =>
      twins_walkAll n parent parent' children

theorem twins_walkAll (name : String) (id id' : Option Identifier) : ∀ es : List Element,
    (walkAll setting .full (.search name id) es).Twins (TwinVisit.Alike setting es id id')
      (walkAll setting .full (.search name id') es) (nestedSites es)
  | [] => by
    rw [walkAll, walkAll, nestedSites]
    exact .finished fun _ hmem => absurd hmem List.not_mem_nil
  | e :: rest => by
    have hfirst := twins_walk name id id' e
    have hrest := twins_walkAll name id id' rest
    rw [walkAll, walkAll, nestedSites]
    refine (hfirst.imp fun v hv => ?_).andThen (hrest.imp fun v hv => ?_)
    · refine { hv with stands := hv.stands.mono fun c hc => ?_ }
      exact List.mem_singleton.mp hc ▸ List.mem_cons_self
    · exact { hv with stands := hv.stands.mono fun c hc => List.mem_cons_of_mem _ hc }

end

end Trees

/-! ## Searches around the same elements -/

/-- What dispatching two searches from one state comes to, where both have the same children. -/
structure ReportedAlike (setting : Setting) (s : UnitState) (enclosure : Enclosure)
    (p p' : PlacedSearch) : Prop where
  /-- The search is taken as far as it goes itself, and what is nested in it is dispatched under its
  identifier, if it is written. -/
  dispatched : s.dispatch setting .full enclosure p.element =
    (s.absorb [p.assessment setting.config]).dispatchIn setting .full
      (.search p.element.name (p.id? setting.config)) p.element.children
  dispatched' : s.dispatch setting .full enclosure p'.element =
    (s.absorb [p'.assessment setting.config]).dispatchIn setting .full
      (.search p'.element.name (p'.id? setting.config)) p'.element.children
  /-- Both are stopped by the same fault, or neither is. -/
  fault : (s.dispatch setting .full enclosure p.element).2 =
    (s.dispatch setting .full enclosure p'.element).2
  /-- The same is reported of what is nested in them. -/
  diagnostics : ∃ nested,
    (s.dispatch setting .full enclosure p.element).1.log.entries =
        (s.absorb [p.assessment setting.config]).log.entries ++ nested ∧
      (s.dispatch setting .full enclosure p'.element).1.log.entries =
        (s.absorb [p'.assessment setting.config]).log.entries ++ nested
  /-- The same nested elements are visited, and come to the same but for the searches they run
  after. -/
  nested : ∃ w w' : Walk,
    w.Twins (TwinVisit.Alike setting p.element.children (p.id? setting.config)
        (p'.id? setting.config)) w' (nestedSites p.element.children) ∧
      s.dispatch setting .full enclosure p.element =
        ((s.absorb [p.assessment setting.config]).absorb w.visits, w.fault) ∧
      s.dispatch setting .full enclosure p'.element =
        ((s.absorb [p'.assessment setting.config]).absorb w'.visits, w'.fault)

/-- A search in its place is dispatched by itself and then with what is nested in it. -/
theorem dispatch_of_placed (s : UnitState) (setting : Setting) {enclosure : Enclosure}
    (p : PlacedSearch) (hplace : enclosure.placement? = some p.placement)
    (hname : p.element.name = p.kind.elementName)
    (hdistinct : (p.element.attributes.map (·.name)).Nodup) :
    s.dispatch setting .full enclosure p.element =
      (s.absorb [p.assessment setting.config]).dispatchIn setting .full
        (.search p.element.name (p.id? setting.config)) p.element.children := by
  have hcompiler : p.element.name = (ElementCompiler.search p.kind).name := hname
  have hvisit : p.element.visit setting .full enclosure = _ :=
    visit_of_placed (structureFault?_of_name hcompiler hdistinct) hname hplace
  rw [s.dispatch_eq_compileAlone hvisit, s.compileAlone_of_visit hvisit]
  rfl

/-- Every problem inside a search is reported whatever is wrong with the search itself: two searches
of one kind in one place, with the same children, are dispatched alike from there on. -/
theorem dispatch_reportedAlike (s : UnitState) (setting : Setting) {enclosure : Enclosure}
    {p : PlacedSearch} {e' : Element} (hplace : enclosure.placement? = some p.placement)
    (hname : p.element.name = p.kind.elementName) (hname' : e'.name = p.element.name)
    (hchildren : e'.children = p.element.children)
    (hdistinct : (p.element.attributes.map (·.name)).Nodup)
    (hdistinct' : (e'.attributes.map (·.name)).Nodup) :
    ReportedAlike setting s enclosure p { p with element := e' } := by
  have hfirst := dispatch_of_placed s setting p hplace hname hdistinct
  have hsecond := dispatch_of_placed s setting { p with element := e' } hplace
    (hname'.trans hname) hdistinct'
  have htwins := twins_walkAll setting p.element.name (p.id? setting.config)
    (PlacedSearch.id? { p with element := e' } setting.config) p.element.children
  have hfirst' := hfirst.trans (UnitState.dispatchIn_eq _ _)
  have hsecond' := hsecond.trans (UnitState.dispatchIn_eq _ _)
  simp only [hname', hchildren] at hsecond'
  generalize walkAll setting .full (.search p.element.name (p.id? setting.config))
    p.element.children = w at htwins hfirst'
  generalize walkAll setting .full (.search p.element.name (PlacedSearch.id? _ setting.config))
    p.element.children = w' at htwins hsecond'
  have hraised : w.visits.flatMap (·.raised) = w'.visits.flatMap (·.raised) :=
    htwins.raised fun v hv => hv.raised
  refine ⟨hfirst, hsecond, ?fault, ?diagnostics, w, w', htwins, hfirst', hsecond'⟩
  case fault =>
    rw [hfirst', hsecond', htwins.fault]
  case diagnostics =>
    refine ⟨(w.visits.flatMap (·.raised)).map (·.graded s.log.strict), ?_, ?_⟩
    · rw [hfirst', UnitState.entries_absorb, UnitState.strict_absorb]
    · rw [hsecond', UnitState.entries_absorb, UnitState.strict_absorb, hraised]

/-- A file search with two problems inside: a directory search without a path, and in it a file
search that names a predecessor. The one beside them has nothing against it. -/
def problemsInside (attributes : List Attribute) : Element where
  name := "FileSearch"
  attributes := attributes
  children := [
    { name := "DirectorySearch"
      attributes := [⟨"Variable", "Folder", {}⟩]
      children := [
        { name := "FileSearch"
          attributes := [⟨"Variable", "Found", {}⟩, ⟨"Path", "app.exe", {}⟩,
            ⟨"After", "Other", {}⟩] }] },
    { name := "FileSearch"
      attributes := [⟨"Id", "Inner", {}⟩, ⟨"Variable", "Inner", {}⟩, ⟨"Path", "a.txt", {}⟩] }]

/-- Both problems are reported, and the search beside them written, whether the outer search is
written or, for want of a path, is not. -/
theorem dispatch_reportedAlike_pathless :
    let written := problemsInside
      [⟨"Id", "Outer", {}⟩, ⟨"Variable", "Outer", {}⟩, ⟨"Path", "b.txt", {}⟩]
    let pathless := problemsInside [⟨"Variable", "Outer", {}⟩]
    let run := ({} : UnitState).dispatch brokenChainSetting .full (.host { kind := .bundle })
    (Enclosure.host { kind := .bundle }).placement? = some .topLevel ∧
      (run written).1.log.entries.map (·.code) =
        [.missingRequiredAttribute, .mutuallyExclusiveAttributes] ∧
      (run pathless).1.log.entries.map (·.code) =
        [.missingRequiredAttribute, .missingRequiredAttribute, .mutuallyExclusiveAttributes] ∧
      (run written).1.output.graph.edges = [{ child := ⟨"Inner"⟩, parent := ⟨"Outer"⟩ }] ∧
      (run pathless).1.output.graph.edges = [] ∧
      (run pathless).1.output.graph.nodes = [⟨"Inner"⟩] ∧
      ReportedAlike brokenChainSetting {} (.host { kind := .bundle })
        ⟨.file, written, .topLevel⟩ ⟨.file, pathless, .topLevel⟩ :=
  ⟨rfl, by decide +kernel, by decide +kernel, by decide +kernel, by decide +kernel,
    by decide +kernel,
    dispatch_reportedAlike {} brokenChainSetting rfl rfl rfl rfl (by decide) (by decide)⟩

end InstallMarkup
