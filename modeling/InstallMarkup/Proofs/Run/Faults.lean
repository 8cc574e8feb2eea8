import InstallMarkup.Proofs.Run.Visits

/-!
# Which faults stop a run

A run with the full vocabulary is stopped by a malformed tree only, and it can be read off the tree
where. The elements that a run gets to are the *sites* of a tree, in pre-order: an element, and what
is nested in it if it is a search in its place. `Site.Offends` says when an element stops the run,
and with which fault: it has no name, it repeats an attribute, or its host lacks a value that it
needs.

* **one visit for each site**: a walk visits the sites in order, up to the first that offends
  (`Walk.Covers`, `covers_walk`, `covers_walkItems`);
* **the first offender decides**: the fault of a run is that of the first site that offends
  (`compile_faultsExact`);
* **an offender leaves no trace**: a run that is stopped has recorded and written what the sites
  before the offender come to, and nothing else (`dispatch_stoppedAt`).
-/

namespace InstallMarkup

/-! ## The full vocabulary -/

theorem Vocabulary.find?_full_eq_some_iff {name : String} {compiler : ElementCompiler} :
    Vocabulary.full.find? name = some compiler ↔ name = compiler.name := by
  constructor
  · intro h
    obtain ⟨before, after, hentries, -⟩ := List.lookup_eq_some_iff.mp h
    have hmem : (name, compiler) ∈ Vocabulary.full.entries := by
      rw [hentries]
      exact List.mem_append_right _ List.mem_cons_self
    obtain ⟨other, -, hentry⟩ := List.mem_map.mp hmem
    cases hentry
    rfl
  · rintro rfl
    cases compiler with
    | search kind => cases kind <;> decide +kernel
    | searchReference kind => cases kind <;> decide +kernel
    | permissionGrant => decide +kernel
    | eventSource => decide +kernel

/-! ## Sites -/

/-- The host that the enclosure is, if it is one. -/
def Enclosure.host? : Enclosure → Option Host
  | .host h => some h
  | .search _ _ => none

/-- An element that is visited, with its host if it stands directly in one; otherwise it stands in a
search. -/
structure Site where
  host? : Option Host
  element : Element

namespace Site

/-- Whether what is nested in the element is visited: it is a search, and it stands in a bundle, in
a fragment or in another search. -/
def opens (site : Site) : Bool :=
  (SearchKind.all.map (·.elementName)).contains site.element.name &&
    match site.host? with
    | some h => h.kind.holdsSearches
    | none => true

/-- The keys whose values an element of the name needs of a host of the kind, in the order in which
they are asked for. -/
def neededKeys (name : String) (kind : HostKind) : List String :=
  if name = PermissionGrant.element then
    match kind.objectKey? with
    | some key => [key, Host.componentId]
    | none => []
  else if name = EventSource.element ∧ kind = .component then [Host.componentId]
  else []

end Site

mutual

/-- The sites of a tree in pre-order. -/
def Element.sites (host? : Option Host) : Element → List Site
  | e@{ children, .. } =>
    let site : Site := { host?, element := e }
    site :: if site.opens then nestedSites children else []

/-- The sites of trees that stand in a search, tree after tree. -/
def nestedSites : List Element → List Site
  | [] => []
  | e :: rest => e.sites none ++ nestedSites rest

end

/-- The sites of a unit, item after item. -/
def CompilationUnit.sites (unit : CompilationUnit) : List Site :=
  unit.items.flatMap fun item => item.element.sites (some item.host)

theorem sites_eq (host? : Option Host) (e : Element) :
    e.sites host? = ⟨host?, e⟩ :: if Site.opens ⟨host?, e⟩ then nestedSites e.children else [] := by
  cases e
  rw [Element.sites]

/-! ## Offenders -/

/-- The element of the site stops the run, with the fault. -/
inductive Site.Offends : Site → CompileFault → Prop
  /-- It has no name. -/
  | unnamed {site : Site} (hname : site.element.name = "") :
      Offends site (.unnamedElement site.element.location)
  /-- It has a name and repeats an attribute; `a` is the first that stands before already. -/
  | repeated {site : Site} {before after : List Attribute} {a : Attribute}
      (hname : site.element.name ≠ "")
      (hattributes : site.element.attributes = before ++ a :: after)
      (hdistinct : (before.map (·.name)).Nodup) (hrepeated : a.name ∈ before.map (·.name)) :
      Offends site (.duplicateAttribute site.element.name a.name a.location)
  /-- It is well-formed, and `key` is the first of the keys it needs for which the host has no
  value. -/
  | lacking {site : Site} {h : Host} {before after : List String} {key : String}
      (hdistinct : (site.element.attributes.map (·.name)).Nodup) (hhost : site.host? = some h)
      (hkeys : neededKeys site.element.name h.kind = before ++ key :: after)
      (hbefore : ∀ earlier ∈ before, h.value? earlier ≠ none) (hlacks : h.value? key = none) :
      Offends site (.missingParentValue site.element.name h.kind.name key site.element.location)

/-- The fault with which the element of the site stops the run, if it does. -/
def Site.fault? (site : Site) : Option CompileFault :=
  site.element.structureFault?.or <| site.host?.bind fun h =>
    (h.firstLacked? (neededKeys site.element.name h.kind)).map fun key =>
      .missingParentValue site.element.name h.kind.name key site.element.location

/-! ### Structure -/

/-- The attribute that is found repeats a name of `seen` or one before it, and is the first that
does. -/
theorem firstRepeated?_eq_some_iff {seen : List String} {attributes : List Attribute}
    {a : Attribute} : firstRepeated? seen attributes = some a ↔
      ∃ before after, attributes = before ++ a :: after ∧ (before.map (·.name)).Nodup ∧
        (∀ b ∈ before, b.name ∉ seen) ∧ (a.name ∈ before.map (·.name) ∨ a.name ∈ seen) := by
  induction attributes generalizing seen with
  | nil => simp [firstRepeated?]
  | cons b rest ih =>
    rw [firstRepeated?]
    by_cases hb : b.name ∈ seen
    · rw [if_pos hb]
      constructor
      · rintro ⟨⟩
        exact ⟨[], rest, rfl, List.nodup_nil, fun _ hc => absurd hc List.not_mem_nil, .inr hb⟩
      · rintro ⟨before, after, hsplit, -, hnew, -⟩
        cases before with
        | nil => exact congrArg some (List.cons.inj hsplit).1
        | cons c before =>
          obtain rfl : b = c := (List.cons.inj hsplit).1
          exact absurd hb (hnew b List.mem_cons_self)
    · rw [if_neg hb, ih]
      constructor
      · rintro ⟨before, after, rfl, hdistinct, hnew, hrepeated⟩
        refine ⟨b :: before, after, rfl, ?_, ?_, ?_⟩
        · rw [List.map_cons, List.nodup_cons]
          refine ⟨?_, hdistinct⟩
          intro hmem
          obtain ⟨c, hc, hname⟩ := List.mem_map.mp hmem
          exact hnew c hc (hname ▸ List.mem_cons_self)
        · intro c hc
          rcases List.mem_cons.mp hc with rfl | hc
          · exact hb
          · exact fun hseen => hnew c hc (List.mem_cons_of_mem _ hseen)
        · simp only [List.mem_cons, List.map_cons] at hrepeated ⊢
          tauto
      · rintro ⟨before, after, hsplit, hdistinct, hnew, hrepeated⟩
        cases before with
        | nil =>
          -- `b` itself would have to be a repeat
          obtain rfl : b = a := (List.cons.inj hsplit).1
          simp [hb] at hrepeated
        | cons c before =>
          obtain ⟨rfl, rfl⟩ := List.cons.inj hsplit
          rw [List.map_cons, List.nodup_cons] at hdistinct
          refine ⟨before, after, rfl, hdistinct.2, ?_, ?_⟩
          · intro d hd hmem
            rcases List.mem_cons.mp hmem with hname | hmem
            · exact hdistinct.1 (hname ▸ List.mem_map_of_mem hd)
            · exact hnew d (List.mem_cons_of_mem _ hd) hmem
          · simp only [List.mem_cons, List.map_cons] at hrepeated ⊢
            tauto

theorem structureFault?_eq_none_iff {e : Element} :
    e.structureFault? = none ↔ e.name ≠ "" ∧ (e.attributes.map (·.name)).Nodup := by
  constructor
  · intro h
    refine ⟨?_, nodup_names_of_structure h⟩
    intro hname
    simp [Element.structureFault?, hname] at h
  · rintro ⟨hname, hdistinct⟩
    have hnone : firstRepeated? [] e.attributes = none := by
      rw [Option.eq_none_iff_forall_ne_some]
      intro a ha
      obtain ⟨before, after, hsplit, -, -, hrepeated⟩ := firstRepeated?_eq_some_iff.mp ha
      rw [hsplit, List.map_append, List.map_cons] at hdistinct
      have hmem : a.name ∈ before.map (·.name) := by simpa using hrepeated
      exact (List.nodup_append.mp hdistinct).2.2 _ hmem _ List.mem_cons_self rfl
    simp [Element.structureFault?, hname, hnone]

theorem ElementCompiler.name_ne_empty (compiler : ElementCompiler) : compiler.name ≠ "" := by
  cases compiler with
  | search kind => cases kind <;> decide
  | searchReference kind => cases kind <;> decide
  | permissionGrant => decide
  | eventSource => decide

/-- Under the name of a compiler, an element is well-formed if no attribute stands twice. -/
theorem structureFault?_of_name {e : Element} {compiler : ElementCompiler}
    (hname : e.name = compiler.name) (hdistinct : (e.attributes.map (·.name)).Nodup) :
    e.structureFault? = none :=
  structureFault?_eq_none_iff.mpr ⟨hname ▸ compiler.name_ne_empty, hdistinct⟩

/-! ### Visits -/

/-- A well-formed element is visited by the compiler of its name. -/
theorem visit_of_assessed {setting : Setting} {compiler : ElementCompiler} {enclosure : Enclosure}
    {e : Element} {a : Assessment Emission} (hstructure : e.structureFault? = none)
    (hname : e.name = compiler.name) (hassessed : compiler.Assessed setting e enclosure (.ok a)) :
    e.visit setting .full enclosure = .ok (a, compiler.inner? enclosure e a) := by
  have hfind : Vocabulary.full.find? e.name = some compiler :=
    Vocabulary.find?_full_eq_some_iff.mpr hname
  rw [visit_of_compiler hstructure hfind, ElementCompiler.assess_eq_iff.mpr hassessed]
  rfl

/-- A well-formed search that may stand where it does is assessed there, and encloses its
children. -/
theorem visit_of_placed {setting : Setting} {enclosure : Enclosure} {p : PlacedSearch}
    (hstructure : p.element.structureFault? = none) (hname : p.element.name = p.kind.elementName)
    (hplace : enclosure.placement? = some p.placement) :
    p.element.visit setting .full enclosure =
      .ok (p.assessment setting.config,
        some (.search p.element.name (p.id? setting.config))) := by
  have hinner : (ElementCompiler.search p.kind).inner? enclosure p.element
      (p.assessment setting.config) = some (.search p.element.name (p.id? setting.config)) :=
    ElementCompiler.inner?_of_search hplace
  rw [← hinner]
  exact visit_of_assessed hstructure hname (.search p enclosure rfl hplace)

/-! ### The check -/

/-- The check finds the fault of an offender, and no other. -/
theorem Site.fault?_eq_some_iff {site : Site} {fault : CompileFault} :
    site.fault? = some fault ↔ site.Offends fault := by
  constructor
  · intro h
    rw [Site.fault?] at h
    cases hstructure : site.element.structureFault? with
    | some found =>
      obtain rfl : found = fault := by simpa [hstructure] using h
      rw [Element.structureFault?] at hstructure
      split at hstructure
      · rename_i hname
        cases hstructure
        exact .unnamed (by simpa using hname)
      · rename_i hname
        obtain ⟨a, ha, rfl⟩ := Option.map_eq_some_iff.mp hstructure
        obtain ⟨before, after, hsplit, hdistinct, -, hrepeated⟩ :=
          firstRepeated?_eq_some_iff.mp ha
        exact .repeated (by simpa using hname) hsplit hdistinct (by simpa using hrepeated)
    | none =>
      rw [hstructure, Option.none_or] at h
      obtain ⟨host, hhost, h⟩ := Option.bind_eq_some_iff.mp h
      obtain ⟨key, hkey, rfl⟩ := Option.map_eq_some_iff.mp h
      obtain ⟨hlacks, before, after, hkeys, hbefore⟩ := List.find?_eq_some_iff_append.mp hkey
      refine .lacking (structureFault?_eq_none_iff.mp hstructure).2 hhost hkeys ?_ ?_
      · intro earlier hearlier
        simpa [Option.isSome_iff_ne_none] using hbefore earlier hearlier
      · simpa using hlacks
  · intro h
    cases h with
    | unnamed hname => simp [Site.fault?, Element.structureFault?, hname]
    | repeated hname hattributes hdistinct hrepeated =>
      have hfirst := firstRepeated?_eq_some_iff.mpr
        ⟨_, _, hattributes, hdistinct, fun _ _ => List.not_mem_nil, .inl hrepeated⟩
      simp [Site.fault?, Element.structureFault?, hname, hfirst]
    | @lacking host before after key hdistinct hhost hkeys hbefore hlacks =>
      have hname : site.element.name ≠ "" := by
        intro hname
        rw [hname] at hkeys
        simp [neededKeys, PermissionGrant.element, EventSource.element] at hkeys
      have hfirst : host.firstLacked? (neededKeys site.element.name host.kind) = some key := by
        refine List.find?_eq_some_iff_append.mpr ⟨by simp [hlacks], before, after, hkeys, ?_⟩
        intro earlier hearlier
        simpa [Option.isSome_iff_ne_none] using hbefore earlier hearlier
      rw [Site.fault?, structureFault?_eq_none_iff.mpr ⟨hname, hdistinct⟩, Option.none_or, hhost,
        Option.bind_some, hfirst, Option.map_some]

theorem Site.fault?_eq_none_iff {site : Site} :
    site.fault? = none ↔ ∀ fault, ¬ site.Offends fault := by
  simp only [Option.eq_none_iff_forall_ne_some, ne_eq, fault?_eq_some_iff]

theorem Site.Offends.unique {site : Site} {fault fault' : CompileFault} (h : site.Offends fault)
    (h' : site.Offends fault') : fault = fault' :=
  Option.some.inj ((fault?_eq_some_iff.mpr h).symm.trans (fault?_eq_some_iff.mpr h'))

theorem Site.Offends.isMalformedInput {site : Site} {fault : CompileFault}
    (h : site.Offends fault) : fault.isMalformedInput = true := by
  cases h <;> rfl

/-! ## Visits of sites -/

section Visits

variable {setting : Setting} {enclosure : Enclosure} {e : Element}

/-- In the full vocabulary the names of elements tell which values they need. -/
theorem neededKeys_find?_full (name : String) (kind : HostKind) :
    (match Vocabulary.full.find? name with
      | some compiler => compiler.neededKeys kind
      | none => []) = Site.neededKeys name kind := by
  cases hfind : Vocabulary.full.find? name with
  | none =>
    -- the name is that of no compiler
    have hne : ∀ compiler : ElementCompiler, name ≠ compiler.name := by
      intro compiler hname
      rw [Vocabulary.find?_full_eq_some_iff.mpr hname] at hfind
      cases hfind
    have hgrant : name ≠ PermissionGrant.element := hne .permissionGrant
    have hsource : name ≠ EventSource.element := hne .eventSource
    simp [Site.neededKeys, hgrant, hsource]
  | some compiler =>
    obtain rfl : name = compiler.name := Vocabulary.find?_full_eq_some_iff.mp hfind
    cases compiler with
    | search k =>
      have hgrant : k.elementName ≠ PermissionGrant.element := by cases k <;> decide
      have hsource : k.elementName ≠ EventSource.element := by cases k <;> decide
      simp [ElementCompiler.name, ElementCompiler.neededKeys, Site.neededKeys, hgrant, hsource]
    | searchReference k =>
      have hgrant : k.referenceName ≠ PermissionGrant.element := by cases k <;> decide
      have hsource : k.referenceName ≠ EventSource.element := by cases k <;> decide
      simp [ElementCompiler.name, ElementCompiler.neededKeys, Site.neededKeys, hgrant, hsource]
    | permissionGrant => rfl
    | eventSource =>
      have hne : EventSource.element ≠ PermissionGrant.element := by decide
      cases kind <;> simp [ElementCompiler.name, ElementCompiler.neededKeys, Site.neededKeys, hne]

theorem visit_full_eq_error_iff {fault : CompileFault} :
    e.visit setting .full enclosure = .error fault ↔
      Site.fault? ⟨enclosure.host?, e⟩ = some fault := by
  have hlacked : (Vocabulary.full.find? e.name).bind (·.lackedFault? enclosure e) =
      enclosure.host?.bind fun h =>
        (h.firstLacked? (Site.neededKeys e.name h.kind)).map fun key =>
          .missingParentValue e.name h.kind.name key e.location := by
    cases enclosure with
    | search name id => cases Vocabulary.full.find? e.name <;> rfl
    | host h =>
      have hkeys := neededKeys_find?_full e.name h.kind
      cases hfind : Vocabulary.full.find? e.name with
      | none =>
        rw [hfind] at hkeys
        simp [Enclosure.host?, ← hkeys, Host.firstLacked?]
      | some compiler =>
        rw [hfind] at hkeys
        simp [Enclosure.host?, ← hkeys, ElementCompiler.lackedFault?]
  rw [visit_eq_error_iff, hlacked]
  rfl

theorem mem_searchNames_iff {name : String} :
    (SearchKind.all.map (·.elementName)).contains name = true ↔
      ∃ kind, Vocabulary.full.find? name = some (.search kind) := by
  simp only [Vocabulary.find?_full_eq_some_iff, ElementCompiler.name, List.contains_eq_mem,
    decide_eq_true_eq, List.mem_map]
  constructor
  · rintro ⟨kind, -, hname⟩
    exact ⟨kind, hname.symm⟩
  · rintro ⟨kind, hname⟩
    exact ⟨kind, by cases kind <;> decide, hname.symm⟩

theorem opens_eq_false {host? : Option Host}
    (h : ∀ kind, Vocabulary.full.find? e.name ≠ some (.search kind)) :
    Site.opens ⟨host?, e⟩ = false := by
  have hno : (SearchKind.all.map (·.elementName)).contains e.name = false := by
    rw [← Bool.not_eq_true, mem_searchNames_iff]
    rintro ⟨kind, hkind⟩
    exact h kind hkind
  unfold Site.opens
  rw [hno, Bool.false_and]

/-- The children of an element are visited exactly if its site opens. -/
theorem isSome_inner_of_visit {a : Assessment Emission} {inner : Option Enclosure}
    (h : e.visit setting .full enclosure = .ok (a, inner)) :
    inner.isSome = Site.opens ⟨enclosure.host?, e⟩ := by
  obtain ⟨-, hvisited⟩ := visit_eq_ok_iff.mp h
  cases hvisited with
  | unknown hfind => exact (opens_eq_false (by simp [hfind])).symm
  | @compiled compiler _ hfind hassess =>
    cases compiler with
    | search kind =>
      unfold Site.opens
      rw [mem_searchNames_iff.mpr ⟨kind, hfind⟩, Bool.true_and]
      cases enclosure with
      | search name id => rfl
      | host host =>
        cases hholds : host.kind.holdsSearches <;>
          simp [ElementCompiler.inner?, Enclosure.placement?, Enclosure.host?, hholds]
    | _ => exact (opens_eq_false (by simp [hfind])).symm

end Visits

/-! ## Walks and their sites -/

/-- The element of the site is visited without a fault, and comes to the assessment. -/
def Site.Yields (setting : Setting) (site : Site) (a : Assessment Emission) : Prop :=
  ∃ enclosure inner, enclosure.host? = site.host? ∧
    site.element.visit setting .full enclosure = .ok (a, inner)

theorem Site.Yields.not_offends {setting : Setting} {site : Site} {a : Assessment Emission}
    (h : site.Yields setting a) (fault : CompileFault) : ¬ site.Offends fault := by
  obtain ⟨enclosure, inner, hhost, hvisit⟩ := h
  intro hoffends
  have hfault : Site.fault? ⟨enclosure.host?, site.element⟩ = some fault := by
    rw [hhost]
    exact Site.fault?_eq_some_iff.mpr hoffends
  rw [visit_full_eq_error_iff.mpr hfault] at hvisit
  cases hvisit

/-- The walk visits the sites in order, each once, up to the first that offends. -/
inductive Walk.Covers (setting : Setting) : Walk → List Site → Prop
  /-- None of the sites offends. -/
  | finished {visits : List (Assessment Emission)} {sites : List Site}
      (hyields : List.Forall₂ (Site.Yields setting) sites visits) :
      Covers setting ⟨visits, none⟩ sites
  /-- A site offends, and none before it does. -/
  | stopped {before after : List Site} {site : Site} {visits : List (Assessment Emission)}
      {fault : CompileFault} (hyields : List.Forall₂ (Site.Yields setting) before visits)
      (hoffends : site.Offends fault) :
      Covers setting ⟨visits, some fault⟩ (before ++ site :: after)

section Covers

variable {setting : Setting}

/-- A visit before a walk covers a site before those of the walk. -/
theorem Walk.Covers.visit {w : Walk} {site : Site} {sites : List Site} {a : Assessment Emission}
    (hyields : site.Yields setting a) (h : w.Covers setting sites) :
    (Walk.visit a w).Covers setting (site :: sites) := by
  cases h with
  | finished hrest => exact .finished (.cons hyields hrest)
  | stopped hrest hoffends =>
    rw [← List.cons_append]
    exact .stopped (.cons hyields hrest) hoffends

/-- One walk after another covers the sites of both, also if the first was stopped. -/
theorem Walk.Covers.andThen {first second : Walk} {xs ys : List Site}
    (hfirst : first.Covers setting xs) (hsecond : second.Covers setting ys) :
    (first.andThen second).Covers setting (xs ++ ys) := by
  cases hfirst with
  | stopped hbefore hoffends =>
    rw [Walk.andThen_of_fault rfl, List.append_assoc, List.cons_append]
    exact .stopped hbefore hoffends
  | finished hxs =>
    rw [Walk.andThen_of_finished rfl]
    cases hsecond with
    | finished hys => exact .finished (List.rel_append hxs hys)
    | stopped hbefore hoffends =>
      rw [← List.append_assoc]
      exact .stopped (List.rel_append hxs hbefore) hoffends

theorem covers_walk : ∀ (enclosure : Enclosure) (e : Element),
    (e.walk setting .full enclosure).Covers setting (e.sites enclosure.host?) := by
  refine walk_induction setting .full
    (Q := fun enclosure es => enclosure.host? = none →
      (walkAll setting .full enclosure es).Covers setting (nestedSites es))
    ?stopped ?leaf ?nest ?nil ?cons
  case stopped =>
    intro enclosure e fault hvisit
    have hoffends := Site.fault?_eq_some_iff.mp (visit_full_eq_error_iff.mp hvisit)
    have hcovers : (Walk.stopped fault).Covers setting
        ([] ++ ⟨enclosure.host?, e⟩ :: if Site.opens ⟨enclosure.host?, e⟩ then
          nestedSites e.children else []) := .stopped .nil hoffends
    rw [walk_of_error hvisit, sites_eq]
    exact hcovers
  case leaf =>
    intro enclosure e a hvisit
    have hyields : Site.Yields setting ⟨enclosure.host?, e⟩ a := ⟨enclosure, none, rfl, hvisit⟩
    have hclosed : false = Site.opens ⟨enclosure.host?, e⟩ := isSome_inner_of_visit hvisit
    rw [walk_of_leaf hvisit, sites_eq, ← hclosed]
    exact Walk.Covers.visit hyields (.finished .nil)
  case nest =>
    intro enclosure e a inner hvisit ih
    have hyields : Site.Yields setting ⟨enclosure.host?, e⟩ a :=
      ⟨enclosure, some inner, rfl, hvisit⟩
    have hopen : true = Site.opens ⟨enclosure.host?, e⟩ := isSome_inner_of_visit hvisit
    -- the children stand in a search, and so in no host
    obtain ⟨name, id, rfl⟩ := exists_search_of_visit hvisit
    rw [walk_of_nest hvisit, sites_eq, ← hopen, if_pos rfl]
    exact Walk.Covers.visit hyields (ih rfl)
  case nil =>
    intro enclosure hhost
    exact .finished .nil
  case cons =>
    intro enclosure e rest ihe ihrest hhost
    rw [walkAll, nestedSites]
    rw [hhost] at ihe
    exact ihe.andThen (ihrest hhost)

theorem covers_walkItems (items : List UnitItem) :
    (walkItems setting .full items).Covers setting
      (items.flatMap fun item => item.element.sites (some item.host)) := by
  induction items with
  | nil => exact .finished .nil
  | cons item rest ih =>
    rw [walkItems, List.flatMap_cons]
    have hitem : (item.element.walk setting .full (.host item.host)).Covers setting
        (item.element.sites (some item.host)) := covers_walk (.host item.host) item.element
    exact hitem.andThen ih

/-! ### The first offender -/

theorem Site.Yields.not_offends_of_forall₂ {sites : List Site}
    {visits : List (Assessment Emission)} (h : List.Forall₂ (Site.Yields setting) sites visits) :
    ∀ site ∈ sites, ∀ fault, ¬ site.Offends fault := by
  induction h with
  | nil => exact fun _ hmem => absurd hmem List.not_mem_nil
  | cons hyields hrest ih =>
    intro site hmem
    rcases List.mem_cons.mp hmem with rfl | hmem
    · exact hyields.not_offends
    · exact ih site hmem

/-- Looking for the first site with a fault finds the first offender. -/
theorem findSome?_fault?_eq_some_iff {sites : List Site} {fault : CompileFault} :
    sites.findSome? Site.fault? = some fault ↔
      ∃ before site after, sites = before ++ site :: after ∧
        (∀ earlier ∈ before, ∀ f, ¬ earlier.Offends f) ∧ site.Offends fault := by
  rw [List.findSome?_eq_some_iff]
  constructor
  · rintro ⟨before, site, after, hsites, hfault, hbefore⟩
    refine ⟨before, site, after, hsites, ?_, Site.fault?_eq_some_iff.mp hfault⟩
    intro earlier hearlier
    exact Site.fault?_eq_none_iff.mp (hbefore earlier hearlier)
  · rintro ⟨before, site, after, hsites, hbefore, hoffends⟩
    refine ⟨before, site, after, hsites, Site.fault?_eq_some_iff.mpr hoffends, ?_⟩
    intro earlier hearlier
    exact Site.fault?_eq_none_iff.mpr (hbefore earlier hearlier)

/-- The fault of a walk is that of the first of its sites that has one. -/
theorem Walk.Covers.fault_eq {w : Walk} {sites : List Site} (h : w.Covers setting sites) :
    w.fault = sites.findSome? Site.fault? := by
  cases h with
  | finished hyields =>
    refine (List.findSome?_eq_none_iff.mpr ?_).symm
    intro site hsite
    exact Site.fault?_eq_none_iff.mpr (Site.Yields.not_offends_of_forall₂ hyields site hsite)
  | stopped hyields hoffends =>
    have hbefore := Site.Yields.not_offends_of_forall₂ hyields
    exact (findSome?_fault?_eq_some_iff.mpr ⟨_, _, _, rfl, hbefore, hoffends⟩).symm

end Covers

/-! ## Runs that are stopped -/

/-- A run over the tree of `e` that leads from `s` to `s'` was stopped by an offender of the tree.
The sites before it have been visited and taken; the offender itself has left no trace, and stops
whatever gets to it. -/
inductive StoppedAt (setting : Setting) (host? : Option Host) (e : Element) (s s' : UnitState)
    (fault : CompileFault) : Prop
  | offender (before after : List Site) (site : Site) (visits : List (Assessment Emission))
      (hsites : e.sites host? = before ++ site :: after)
      (hbefore : ∀ earlier ∈ before, ∀ f, ¬ earlier.Offends f) (hoffends : site.Offends fault)
      (hyields : List.Forall₂ (Site.Yields setting) before visits) (hstate : s' = s.absorb visits)
      (hstops : ∀ (t : UnitState) (enclosure : Enclosure), enclosure.host? = site.host? →
        t.dispatch setting .full enclosure site.element = (t, some fault))

/-- An offender stops a run at once, which leaves the state as it was. -/
theorem dispatch_of_offends {setting : Setting} {site : Site} {fault : CompileFault}
    (h : site.Offends fault) {t : UnitState} {enclosure : Enclosure}
    (hhost : enclosure.host? = site.host?) :
    t.dispatch setting .full enclosure site.element = (t, some fault) := by
  have hvisit : site.element.visit setting .full enclosure = .error fault := by
    rw [visit_full_eq_error_iff, hhost]
    exact Site.fault?_eq_some_iff.mpr h
  rw [UnitState.dispatch_eq, walk_of_error hvisit]
  rfl

theorem dispatch_stoppedAt {setting : Setting} {s s' : UnitState} {enclosure : Enclosure}
    {e : Element} {fault : CompileFault}
    (h : s.dispatch setting .full enclosure e = (s', some fault)) :
    StoppedAt setting enclosure.host? e s s' fault := by
  rw [UnitState.dispatch_eq] at h
  obtain ⟨hstate, hfault⟩ := Prod.mk.inj h
  have hcovers : (e.walk setting .full enclosure).Covers setting (e.sites enclosure.host?) :=
    covers_walk enclosure e
  generalize hsites : e.sites enclosure.host? = sites at hcovers
  generalize e.walk setting .full enclosure = w at hcovers hstate hfault
  cases hcovers with
  | finished hyields => cases hfault
  | @stopped before after site visits found hyields hoffends =>
    obtain rfl : found = fault := Option.some.inj hfault
    exact .offender before after site visits hsites
      (Site.Yields.not_offends_of_forall₂ hyields) hoffends hyields hstate.symm
      fun t enclosure hhost => dispatch_of_offends hoffends hhost

/-- Which faults compiling a unit with the full vocabulary can end in, and when. -/
structure FaultsExact (unit : CompilationUnit) (config : Config) : Prop where
  /-- Compiling fails exactly if an element that is visited offends. -/
  fails : (∃ fault, unit.compile config = .error fault) ↔
    ∃ site ∈ unit.sites, ∃ fault, site.Offends fault
  /-- The fault is that of the first such element. -/
  first : ∀ fault, unit.compile config = .error fault ↔
    ∃ before site after, unit.sites = before ++ site :: after ∧
      (∀ earlier ∈ before, ∀ f, ¬ earlier.Offends f) ∧ site.Offends fault
  /-- An element has one fault at most. -/
  unique : ∀ (site : Site) (f f' : CompileFault), site.Offends f → site.Offends f' → f = f'
  /-- Every fault blames the tree. -/
  malformed : ∀ fault, unit.compile config = .error fault → fault.isMalformedInput = true
  /-- Identifiers are never asked for with a wrong number of fields. -/
  counted : ∀ family actual, unit.compile config ≠ .error (.identifierFieldCount family actual)
  /-- No edge ever leaves a search that was not written. -/
  linked : ∀ child parent, unit.compile config ≠ .error (.unknownEdgeChild child parent)
  /-- A dispatch that fails has taken what comes before the offender, and nothing of it. -/
  contained : ∀ (s s' : UnitState) (enclosure : Enclosure) (e : Element) (fault : CompileFault),
    s.dispatch { config, declared := unit.declared } .full enclosure e = (s', some fault) →
      StoppedAt { config, declared := unit.declared } enclosure.host? e s s' fault

/-- Compiling a unit fails exactly if one of its sites has a fault, and then with the first. -/
theorem CompilationUnit.compile_eq_error_iff {unit : CompilationUnit} {config : Config}
    {fault : CompileFault} :
    unit.compile config = .error fault ↔ unit.sites.findSome? Site.fault? = some fault := by
  have hcovers : (unit.walk config .full).Covers { config, declared := unit.declared } unit.sites :=
    covers_walkItems unit.items
  rw [compile, compileWith_eq, ← hcovers.fault_eq]
  cases (unit.walk config .full).fault <;> simp

/-- Compiling a unit with the full vocabulary fails exactly for the first offender among its sites,
which is never the doing of the compiler. -/
theorem compile_faultsExact (unit : CompilationUnit) (config : Config) :
    FaultsExact unit config := by
  have hmalformed : ∀ fault, unit.compile config = .error fault →
      fault.isMalformedInput = true := by
    intro fault hfault
    obtain ⟨site, -, hsite⟩ :=
      List.exists_of_findSome?_eq_some (CompilationUnit.compile_eq_error_iff.mp hfault)
    exact (Site.fault?_eq_some_iff.mp hsite).isMalformedInput
  refine ⟨?fails, ?first, ?unique, hmalformed, ?counted, ?linked, ?contained⟩
  case fails =>
    constructor
    · rintro ⟨fault, hfault⟩
      obtain ⟨site, hmem, hsite⟩ :=
        List.exists_of_findSome?_eq_some (CompilationUnit.compile_eq_error_iff.mp hfault)
      exact ⟨site, hmem, fault, Site.fault?_eq_some_iff.mp hsite⟩
    · rintro ⟨site, hmem, fault, hoffends⟩
      have hsome : (unit.sites.findSome? Site.fault?).isSome = true := by
        rw [List.findSome?_isSome_iff]
        exact ⟨site, hmem, by rw [Site.fault?_eq_some_iff.mpr hoffends]; rfl⟩
      obtain ⟨found, hfound⟩ := Option.isSome_iff_exists.mp hsome
      exact ⟨found, CompilationUnit.compile_eq_error_iff.mpr hfound⟩
  case first =>
    intro fault
    rw [CompilationUnit.compile_eq_error_iff, findSome?_fault?_eq_some_iff]
  case unique =>
    intro site f f'
    exact Site.Offends.unique
  case counted =>
    intro family actual hfault
    cases hmalformed _ hfault
  case linked =>
    intro child parent hfault
    cases hmalformed _ hfault
  case contained =>
    intro s s' enclosure e fault
    exact dispatch_stoppedAt

/-- A search around an element without a name, and then a grant whose host has no values. -/
def nestedOffender : CompilationUnit where
  name := "unit"
  items := [
    { host := { kind := .bundle }
      element :=
        { name := "FileSearch", children := [{ name := "", location := { line := 2 } }] } },
    { host := { kind := .file }, element := { name := "PermissionEx" } }]

/-- The search is visited first, and the element in it stops the run before the grant does. -/
theorem compile_faultsExact_nestedOffender :
    nestedOffender.sites.map (·.element.name) = ["FileSearch", "", "PermissionEx"] ∧
      nestedOffender.sites.map Site.fault? = [none, some (.unnamedElement { line := 2 }),
        some (.missingParentValue "PermissionEx" "File" "FileId" {})] ∧
      nestedOffender.compile {} = .error (.unnamedElement { line := 2 }) ∧
      FaultsExact nestedOffender {} :=
  ⟨by decide +kernel, by decide +kernel, by decide +kernel, compile_faultsExact nestedOffender {}⟩

end InstallMarkup
