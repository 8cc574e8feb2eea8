import InstallMarkup.Proofs.Run.Visits

/-!
# Flattening trees of searches

Searches nest to any depth, but tables are flat. What a tree comes to is said here apart from any
run: `Element.searches` lists the searches of a tree in pre-order, each in the place that it has,
and `PlacedSearch.rows` gives the rows of one of them, none if it raised an error. A search in a
search that was written runs after that one; in a search that was not written it runs after nothing,
whatever encloses the two; at the top it runs after the search that its author names.

A run writes exactly these rows, in this order. By induction along the walk, it emits the accepted
searches of the tree in pre-order (`rows_walk`) and meets no fault in the structure of any
(`structure_of_walk`). And what is emitted for one of them is what its place demands
(`emitted_eq_rows`): the predecessor that its header was read with is the right one.
-/

namespace InstallMarkup

/-! ## What a tree comes to -/

namespace PlacedSearch

/-- The relation row of a search that is written under an identifier, if it runs after another:
after the search around it if that was written, and at the top after the one that is named. -/
def relation (p : PlacedSearch) (id : Identifier) : List Row :=
  match p.placement with
  | .nested (some parent) => [.searchRelation { child := id, parent }]
  | .nested none => []
  | .topLevel =>
    match p.element.attribute? "After" with
    | some a => [.searchRelation { child := id, parent := ⟨a.value⟩ }]
    | none => []

/-- The rows of a search: its common row, the row of its kind, and its relation row; none if it is
not written. -/
def rows (p : PlacedSearch) (config : Config) : List Row :=
  match p.search? config with
  | some s => .search s.search :: s.detail :: p.relation s.search.id
  | none => []

/-- The rows that are emitted for a search, if it is accepted. -/
def emitted (p : PlacedSearch) (config : Config) : List Row :=
  (p.search? config).toList.flatMap ValidatedSearch.rows

theorem rows_eq_nil_iff (p : PlacedSearch) (config : Config) :
    p.rows config = [] ↔ p.isClean config = false := by
  rw [← isSome_search?, rows]
  cases p.search? config <;> simp

end PlacedSearch

mutual

/-- The searches of a tree in pre-order, each in its place. What stands in a search has it for its
place, with its identifier if it is written. An element that is no search is passed over, and what
stands in it belongs to no search. -/
def Element.searches (config : Config) (v : Vocabulary) (placement : Placement) :
    Element → List PlacedSearch
  | e@{ name, children, .. } =>
    match v.find? name with
    | some (.search kind) =>
      let p : PlacedSearch := { kind, element := e, placement }
      p :: searchesAll config v (.nested (p.id? config)) children
    | _ => []

/-- The searches of trees in the same place, tree after tree. -/
def searchesAll (config : Config) (v : Vocabulary) (placement : Placement) :
    List Element → List PlacedSearch
  | [] => []
  | e :: rest => e.searches config v placement ++ searchesAll config v placement rest

end

section Searches

variable {config : Config} {v : Vocabulary} {placement : Placement} {e : Element}

theorem searches_of_search {kind : SearchKind} (h : v.find? e.name = some (.search kind)) :
    e.searches config v placement = ⟨kind, e, placement⟩ ::
      searchesAll config v (.nested (PlacedSearch.id? ⟨kind, e, placement⟩ config)) e.children := by
  obtain ⟨name, attributes, children, location⟩ := e
  have hname : v.find? name = some (.search kind) := h
  rw [Element.searches, hname]

theorem searches_of_other (h : ∀ kind, v.find? e.name ≠ some (.search kind)) :
    e.searches config v placement = [] := by
  obtain ⟨name, attributes, children, location⟩ := e
  rw [Element.searches]
  split
  · rename_i kind hname
    exact absurd hname (h kind)
  · rfl

end Searches

/-! ## One search -/

section Written

variable {p : PlacedSearch} {config : Config}

/-- The header has the predecessor that the settings give it in its place. -/
theorem after_of_header {h : SearchHeader} (hheader : (p.header config).value = some h) :
    h.after = (SearchSettings.ofAttributes config p.kind.elementName
      p.element.attributes).predecessor p.placement := by
  obtain ⟨name, -, rfl⟩ := Option.map_eq_some_iff.mp hheader
  rfl

/-- In a clean search, the predecessor that is set is the one that is named. -/
theorem after_of_isClean (hclean : p.isClean config = true)
    (hstructure : p.element.structureFault? = none) :
    setting? p.element.attributes "After" (·.identifier p.kind.elementName) =
      (p.element.attribute? "After").map fun a => ⟨a.value⟩ := by
  cases ha : p.element.attribute? "After" with
  | none => rw [setting?_eq_of_structure hstructure, ha]; rfl
  | some a =>
    have hhas : p.element.has "After" = true := by rw [Element.has, ha]; rfl
    obtain ⟨id, hid⟩ := exists_setting?_of_isClean hclean
      ⟨_, rfl, fun _ _ hd => hd⟩ (RaisesErrors.identifier p.kind.elementName) hhas
    have hvalue := value_of_setting?_identifier hstructure hid
    rw [ha] at hvalue
    have htext : a.value = id.text := Option.some.inj hvalue
    rw [hid, Option.map_some, htext]

theorem emitted_eq_rows (hstructure : p.element.structureFault? = none) :
    p.emitted config = p.rows config := by
  rw [PlacedSearch.emitted, PlacedSearch.rows]
  cases hs : p.search? config with
  | none => rfl
  | some s =>
    obtain ⟨hclean, h, q, hheader, -, rfl⟩ := PlacedSearch.search?_eq_some hs
    suffices hrelation : (q.written h).edges.map Row.searchRelation =
        p.relation (q.identifier h) by
      simp only [Option.toList_some, List.flatMap_singleton, ValidatedSearch.rows, hrelation,
        SearchQuery.written_id]
    rw [ValidatedSearch.edges, PlacedSearch.relation, SearchQuery.written_after,
      after_of_header hheader]
    cases p.placement with
    | nested parent => cases parent <;> rfl
    | topLevel =>
      -- only here does the attribute have a say
      show List.map _ (List.map _ (setting? p.element.attributes "After" _).toList) = _
      rw [after_of_isClean hclean hstructure]
      cases p.element.attribute? "After" <;> rfl

end Written

/-! ## Visits in a place for searches -/

section Place

variable {setting : Setting} {v : Vocabulary} {enclosure : Enclosure} {placement : Placement}
  {e : Element} {a : Assessment Emission}

theorem searches_of_leaf (hvisit : e.visit setting v enclosure = .ok (a, none))
    (hplace : enclosure.placement? = some placement) :
    e.searches setting.config v placement = [] := by
  obtain ⟨-, houtcome⟩ := visit_outcome hvisit
  cases houtcome with
  | reference kind h hname hhost hholds => exact searches_of_other (by rw [hname]; nofun)
  | ofComponent h a hhost hholds hvalue =>
    -- a host that holds such an element is no place for searches
    rw [hhost, Enclosure.placement?, hholds] at hplace
    cases hplace
  | misplaced hnot =>
    refine searches_of_other ?_
    intro kind hname
    rw [hnot kind hname] at hplace
    cases hplace

theorem rows_of_leaf {em : Emission} (hvisit : e.visit setting v enclosure = .ok (a, none))
    (hplace : enclosure.placement? = some placement) (hvalue : a.value = some em) :
    em.rows = [] := by
  obtain ⟨-, houtcome⟩ := visit_outcome hvisit
  cases houtcome with
  | reference kind h hname hhost hholds =>
    obtain ⟨id, rfl, -⟩ := SearchReference.of_value hvalue
    rfl
  | ofComponent h a hhost hholds hvalue =>
    rw [hhost, Enclosure.placement?, hholds] at hplace
    cases hplace
  | misplaced hnot => cases hvalue

/-- What is visited with its children is a search, and they are visited in it. -/
theorem search_of_nest {inner : Enclosure}
    (hvisit : e.visit setting v enclosure = .ok (a, some inner))
    (hplace : enclosure.placement? = some placement) :
    ∃ kind, v.find? e.name = some (.search kind) ∧
      a = ⟨PlacedSearch.faults ⟨kind, e, placement⟩ setting.config,
        (PlacedSearch.search? ⟨kind, e, placement⟩ setting.config).map .search⟩ ∧
      inner = .search e.name (PlacedSearch.id? ⟨kind, e, placement⟩ setting.config) := by
  obtain ⟨-, houtcome⟩ := visit_outcome hvisit
  cases houtcome with
  | search p helement hname hplace' =>
    obtain ⟨kind, e', placement'⟩ := p
    obtain rfl : e' = e := helement
    obtain rfl : placement = placement' := Option.some.inj (hplace.symm.trans hplace')
    exact ⟨kind, hname, rfl, rfl⟩

end Place

/-! ## Trees -/

section Trees

variable (setting : Setting) (v : Vocabulary)

/-- A walk that is not stopped meets no search with a fault in its structure. -/
theorem structure_of_walk : ∀ (enclosure : Enclosure) (e : Element) (placement : Placement),
    enclosure.placement? = some placement → (e.walk setting v enclosure).fault = none →
    ∀ p ∈ e.searches setting.config v placement, p.element.structureFault? = none := by
  refine walk_induction setting v
    (Q := fun enclosure es => ∀ placement, enclosure.placement? = some placement →
      (walkAll setting v enclosure es).fault = none →
      ∀ p ∈ searchesAll setting.config v placement es, p.element.structureFault? = none)
    ?stopped ?leaf ?nest ?nil ?cons
  case stopped =>
    intro enclosure e fault hvisit placement hplace hfault
    rw [walk_of_error hvisit] at hfault
    cases hfault
  case leaf =>
    intro enclosure e a hvisit placement hplace hfault p hp
    rw [searches_of_leaf hvisit hplace] at hp
    cases hp
  case nest =>
    intro enclosure e a inner hvisit ih placement hplace hfault p hp
    rw [walk_of_nest hvisit] at hfault
    obtain ⟨kind, hname, -, rfl⟩ := search_of_nest hvisit hplace
    rw [searches_of_search hname] at hp
    rcases List.mem_cons.mp hp with rfl | hp
    · exact (visit_outcome hvisit).1
    · exact ih _ rfl hfault p hp
  case nil =>
    intro enclosure placement hplace hfault p hp
    cases hp
  case cons =>
    intro enclosure e rest ihe ihrest placement hplace hfault p hp
    rw [walkAll] at hfault
    obtain ⟨he, hrest⟩ := Walk.fault_andThen_eq_none.mp hfault
    rw [searchesAll] at hp
    rcases List.mem_append.mp hp with hp | hp
    · exact ihe placement hplace he p hp
    · exact ihrest placement hplace hrest p hp

/-- A walk that is not stopped emits the rows of the accepted searches of its tree, in pre-order. -/
theorem rows_walk : ∀ (enclosure : Enclosure) (e : Element) (placement : Placement),
    enclosure.placement? = some placement → (e.walk setting v enclosure).fault = none →
    ((e.walk setting v enclosure).visits.filterMap (·.value)).flatMap Emission.rows =
      (e.searches setting.config v placement).flatMap (·.emitted setting.config) := by
  refine walk_induction setting v
    (Q := fun enclosure es => ∀ placement, enclosure.placement? = some placement →
      (walkAll setting v enclosure es).fault = none →
      ((walkAll setting v enclosure es).visits.filterMap (·.value)).flatMap Emission.rows =
        (searchesAll setting.config v placement es).flatMap (·.emitted setting.config))
    ?stopped ?leaf ?nest ?nil ?cons
  case stopped =>
    intro enclosure e fault hvisit placement hplace hfault
    rw [walk_of_error hvisit] at hfault
    cases hfault
  case leaf =>
    intro enclosure e a hvisit placement hplace hfault
    rw [walk_of_leaf hvisit, searches_of_leaf hvisit hplace]
    cases hvalue : a.value with
    | none => simp [Walk.visit, Walk.nothing, hvalue]
    | some em => simp [Walk.visit, Walk.nothing, hvalue, rows_of_leaf hvisit hplace hvalue]
  case nest =>
    intro enclosure e a inner hvisit ih placement hplace hfault
    rw [walk_of_nest hvisit] at hfault ⊢
    obtain ⟨kind, hname, rfl, rfl⟩ := search_of_nest hvisit hplace
    -- the children are visited in the place that the specification gives them
    have hchildren := ih _ rfl hfault
    rw [searches_of_search hname, List.flatMap_cons, ← hchildren]
    cases hs : PlacedSearch.search? ⟨kind, e, placement⟩ setting.config with
    | none => simp [Walk.visit, PlacedSearch.emitted, hs]
    | some s => simp [Walk.visit, PlacedSearch.emitted, hs, Emission.rows]
  case nil =>
    intro enclosure placement hplace hfault
    rfl
  case cons =>
    intro enclosure e rest ihe ihrest placement hplace hfault
    rw [walkAll] at hfault ⊢
    obtain ⟨he, hrest⟩ := Walk.fault_andThen_eq_none.mp hfault
    rw [Walk.andThen_of_finished he, List.filterMap_append, List.flatMap_append,
      ihe placement hplace he, ihrest placement hplace hrest, searchesAll, List.flatMap_append]

end Trees

/-- Dispatching a tree in a place for searches inserts the rows of its searches in pre-order, so
that the tables have them, those that are new in this order; and every search of it has rows exactly
if it raised no error. -/
theorem dispatch_flattens (s : UnitState) {setting : Setting} {v : Vocabulary}
    {enclosure : Enclosure} {placement : Placement} (hplace : enclosure.placement? = some placement)
    {e : Element} (hfinished : (s.dispatch setting v enclosure e).2 = none) :
    (s.dispatch setting v enclosure e).1.output.tables =
        ((e.searches setting.config v placement).flatMap (·.rows setting.config)).foldl
          Tables.insert s.output.tables ∧
      s.output.tables.Gained (s.dispatch setting v enclosure e).1.output.tables
        ((e.searches setting.config v placement).flatMap (·.rows setting.config)) ∧
      ∀ p ∈ e.searches setting.config v placement,
        p.rows setting.config = [] ↔ p.isClean setting.config = false := by
  rw [UnitState.dispatch_eq] at hfinished ⊢
  have htables : (s.absorb (e.walk setting v enclosure).visits).output.tables =
      ((e.searches setting.config v placement).flatMap (·.rows setting.config)).foldl
        Tables.insert s.output.tables := by
    have hstructure := structure_of_walk setting v enclosure e placement hplace hfinished
    have hrows : (e.searches setting.config v placement).flatMap (·.emitted setting.config) =
        (e.searches setting.config v placement).flatMap (·.rows setting.config) :=
      List.flatMap_congr fun p hp => emitted_eq_rows (hstructure p hp)
    rw [← hrows, ← rows_walk setting v enclosure e placement hplace hfinished]
    exact s.output.tables_addAll _
  refine ⟨htables, ?_, ?_⟩
  · rw [htables]
    exact s.output.tables.gained_foldl_insert _
  · intro p hp
    exact p.rows_eq_nil_iff setting.config

/-- A search with its predecessor named, around a search without a path, around a third one: the
first and the third are written, and no relation leads to the second or from the third. -/
def brokenChain : Element where
  name := "DirectorySearch"
  attributes := [⟨"Id", "Outer", {}⟩, ⟨"Variable", "OUTER", {}⟩, ⟨"Path", "C:\\", {}⟩,
    ⟨"After", "Other", {}⟩]
  children := [
    { name := "FileSearch"
      attributes := [⟨"Id", "Broken", {}⟩, ⟨"Variable", "BROKEN", {}⟩]
      children := [
        { name := "FileSearch"
          attributes := [⟨"Id", "Inner", {}⟩, ⟨"Variable", "INNER", {}⟩,
            ⟨"Path", "a.txt", {}⟩] }] }]

/-- The setting of the example; any variable may take a result. -/
def brokenChainSetting : Setting := { config := { allowBuiltinVariables := true } }

theorem dispatch_flattens_brokenChain :
    let run := ({} : UnitState).dispatch brokenChainSetting .full (.host { kind := .bundle })
      brokenChain
    let searches := brokenChain.searches brokenChainSetting.config .full .topLevel
    (Enclosure.host { kind := .bundle }).placement? = some .topLevel ∧ run.2 = none ∧
      (run.1.output.tables =
          (searches.flatMap (·.rows brokenChainSetting.config)).foldl Tables.insert {} ∧
        Tables.Gained {} run.1.output.tables
          (searches.flatMap (·.rows brokenChainSetting.config)) ∧
        ∀ p ∈ searches, p.rows brokenChainSetting.config = [] ↔
          p.isClean brokenChainSetting.config = false) ∧
      searches.flatMap (·.rows brokenChainSetting.config) =
        [.search { id := ⟨"Outer"⟩, variableName := "OUTER" },
          .fileSearch { id := ⟨"Outer"⟩, path := "C:\\", flags := FileSearchFlags.isDirectory },
          .searchRelation { child := ⟨"Outer"⟩, parent := ⟨"Other"⟩ },
          .search { id := ⟨"Inner"⟩, variableName := "INNER" },
          .fileSearch { id := ⟨"Inner"⟩, path := "a.txt", flags := FileSearchFlags.plainFile }] :=
  ⟨rfl, by decide +kernel, dispatch_flattens {} rfl (by decide +kernel), by decide +kernel⟩

end InstallMarkup
