import InstallMarkup.Proofs.Identifier.Material
import InstallMarkup.Proofs.Run.Composition
import InstallMarkup.Proofs.Search.Flattening

/-!
# Searches are addressed by their content

A search without an identifier of its own gets one that is computed from what it says. This file
proves that in a whole unit no two searches are mixed up that way, as long as the digests do not
collide on the texts that are digested in compiling it (`ContentAddressed`):

* **sameness**: two searches that are written get the same identifier exactly if they are of the
  same kind, agree on variable, condition and predecessor, and look for the same. Every column of a
  query is digested (`hashFields_injective`), and the digested text tells all of its fields;
* **keys**: so no identifier names two rows of a table. The row of the common part and the row of
  the kind are made from the same header and query as the identifier;
* **relations**: and no search runs after two others, because the predecessor is digested too.

The identifier of a search goes into those of the searches nested in it, but that takes no
induction: it does so as their predecessor, and predecessors are compared as they are.
-/

namespace InstallMarkup

/-! ## Every column is digested -/

namespace SearchQuery

theorem flags_of_maskField {flags : List Flag} {s t : FlagSet flags}
    (h : maskField s.bits = maskField t.bits) : s = t := by
  obtain ⟨bits⟩ := s
  obtain ⟨bits'⟩ := t
  have hnumeral := congrArg String.toList (Option.some.inj h)
  have hbits : bits = bits' := UInt32.toNat_inj.mp (toString_nat_injective hnumeral)
  rw [hbits]

theorem rootField_injective {r r' : RegistryRoot}
    (h : toString r.code.toInt = toString r'.code.toInt) : r = r' := by
  cases r <;> cases r' <;> first | rfl | exact absurd h (by decide)

theorem path_of_hashFields {a b : PathQuery}
    (h : [some a.path, maskField a.flags.bits] = [some b.path, maskField b.flags.bits]) :
    a = b := by
  obtain ⟨path, flags⟩ := a
  obtain ⟨path', flags'⟩ := b
  simp only [List.cons.injEq, Option.some.injEq, and_true] at h
  obtain ⟨rfl, hmask⟩ := h
  rw [flags_of_maskField hmask]

theorem hashFields_injective {q q' : SearchQuery} (hkind : q.kind = q'.kind)
    (h : q.hashFields = q'.hashFields) : q = q' := by
  cases q with
  | component a =>
    cases q' with
    | component b =>
      obtain ⟨guid, productCode, flags⟩ := a
      obtain ⟨guid', productCode', flags'⟩ := b
      simp only [hashFields, List.cons.injEq, Option.some.injEq, and_true] at h
      obtain ⟨rfl, rfl, hmask⟩ := h
      rw [flags_of_maskField hmask]
    | _ => cases hkind
  | directory a =>
    cases q' with
    | directory b => rw [path_of_hashFields h]
    | _ => cases hkind
  | file a =>
    cases q' with
    | file b => rw [path_of_hashFields h]
    | _ => cases hkind
  | product a =>
    cases q' with
    | product b =>
      obtain ⟨code, flags⟩ := a
      obtain ⟨code', flags'⟩ := b
      simp only [hashFields, List.cons.injEq, Option.some.injEq, and_true] at h
      obtain ⟨rfl, hmask⟩ := h
      rw [flags_of_maskField hmask]
    | _ => cases hkind
  | registry a =>
    cases q' with
    | registry b =>
      obtain ⟨root, key, value, flags⟩ := a
      obtain ⟨root', key', value', flags'⟩ := b
      simp only [hashFields, List.cons.injEq, Option.some.injEq, and_true] at h
      obtain ⟨hroot, rfl, rfl, hmask⟩ := h
      rw [rootField_injective hroot, flags_of_maskField hmask]
    | _ => cases hkind

end SearchQuery

/-- Headers without an author's identifier that are digested alike are the same. -/
theorem SearchHeader.hashFields_injective {h h' : SearchHeader} (hid : h.id = none)
    (hid' : h'.id = none) (hfields : h.hashFields = h'.hashFields) : h = h' := by
  obtain ⟨id, variableName, condition, after⟩ := h
  obtain ⟨id', variableName', condition', after'⟩ := h'
  simp only [SearchHeader.hashFields, List.cons.injEq, Option.some.injEq, and_true] at hfields
  obtain ⟨rfl, rfl, hafter⟩ := hfields
  have hinjective : Function.Injective (fun id : Identifier => id.text) := fun a b hab => by
    obtain ⟨text⟩ := a
    obtain rfl : text = b.text := hab
    rfl
  obtain rfl : id = none := hid
  obtain rfl : id' = none := hid'
  rw [Option.map_injective hinjective hafter]

theorem SearchQuery.material_injective {q q' : SearchQuery} {h h' : SearchHeader}
    (hid : h.id = none) (hid' : h'.id = none) (hmaterial : q.material h = q'.material h') :
    h = h' ∧ q = q' := by
  obtain ⟨hfamily, hfields⟩ := Identifier.material_injective hmaterial
  have hkind : q.kind = q'.kind := IdentifierFamily.search.inj hfamily
  obtain ⟨hheader, hquery⟩ := List.append_inj hfields rfl
  exact ⟨SearchHeader.hashFields_injective hid hid' hheader,
    SearchQuery.hashFields_injective hkind hquery⟩

/-! ## The searches of a unit -/

/-- The searches of an item, if its host holds searches. -/
def UnitItem.searches (config : Config) (v : Vocabulary) (item : UnitItem) : List PlacedSearch :=
  match (Enclosure.host item.host).placement? with
  | some placement => item.element.searches config v placement
  | none => []

/-- The searches of a unit, in the order in which they are visited. -/
def CompilationUnit.searches (unit : CompilationUnit) (config : Config) (v : Vocabulary) :
    List PlacedSearch :=
  unit.items.flatMap (·.searches config v)

/-- The text that is digested for a search, if it is written. -/
def PlacedSearch.material? (p : PlacedSearch) (config : Config) : Option String :=
  if p.isClean config then
    match (p.header config).value, p.query.value with
    | some h, some q => some (q.material h)
    | _, _ => none
  else none

/-- The texts that are digested for the searches of a unit. -/
def CompilationUnit.digested (unit : CompilationUnit) (config : Config) (v : Vocabulary) :
    List String :=
  (unit.searches config v).filterMap (·.material? config)

/-- The tables that hold what searches say. -/
def Table.searchTables : List Table :=
  [.search, .fileSearch, .componentSearch, .productSearch, .registrySearch]

/-- A row that tells of a search or of an ordering. -/
def Row.IsSearchRow (row : Row) : Prop :=
  row.table ∈ Table.searchTables ∨ row.table = .searchRelation

theorem Emission.OfComponent.not_isSearchRow {em : Emission} (h : em.OfComponent) {row : Row}
    (hrow : row ∈ em.rows) : ¬ row.IsSearchRow := by
  cases h with
  | grant r object component action =>
    obtain rfl : row = .permissionGrant r := List.mem_singleton.mp hrow
    simp [Row.IsSearchRow, Table.searchTables, Row.table]
  | eventSource rows component =>
    obtain ⟨r, -, rfl⟩ := List.mem_map.mp hrow
    simp [Row.IsSearchRow, Table.searchTables, Row.table]

section Unit

variable {setting : Setting} {v : Vocabulary}

theorem not_isSearchRow_of_walk {enclosure : Enclosure} {e : Element}
    (hplace : enclosure.placement? = none) {row : Row}
    (h : row ∈ ((e.walk setting v enclosure).visits.filterMap (·.value)).flatMap Emission.rows) :
    ¬ row.IsSearchRow := by
  cases hvisit : e.visit setting v enclosure with
  | error fault =>
    rw [walk_of_error hvisit] at h
    cases h
  | ok visited =>
    obtain ⟨a, inner⟩ := visited
    obtain ⟨-, houtcome⟩ := visit_outcome hvisit
    cases houtcome with
    | search p helement hname hplace' =>
      rw [hplace] at hplace'
      cases hplace'
    | reference kind host hname hhost hholds =>
      rw [hhost, Enclosure.placement?, if_pos hholds] at hplace
      cases hplace
    | ofComponent host a hhost hholds hvalue =>
      rw [walk_of_leaf hvisit] at h
      obtain ⟨em, hem, hrow⟩ := List.mem_flatMap.mp h
      obtain ⟨b, hb, hbem⟩ := List.mem_filterMap.mp hem
      obtain rfl : b = a := List.mem_singleton.mp hb
      exact (hvalue em hbem).not_isSearchRow hrow
    | misplaced hnot =>
      rw [walk_of_leaf hvisit] at h
      cases h

/-- What walking items writes about searches is what is emitted for their searches. -/
theorem mem_rows_walkItems_iff {items : List UnitItem}
    (hfault : (walkItems setting v items).fault = none) {row : Row} (hrow : row.IsSearchRow) :
    row ∈ ((walkItems setting v items).visits.filterMap (·.value)).flatMap Emission.rows ↔
      row ∈ (items.flatMap (·.searches setting.config v)).flatMap (·.emitted setting.config) := by
  induction items with
  | nil => rfl
  | cons item rest ih =>
    rw [walkItems] at hfault ⊢
    obtain ⟨hitem, hrest⟩ := Walk.fault_andThen_eq_none.mp hfault
    rw [Walk.andThen_of_finished hitem, List.filterMap_append, List.flatMap_append,
      List.mem_append, List.flatMap_cons, List.flatMap_append, List.mem_append, ih hrest]
    refine or_congr_left ?_
    rw [UnitItem.searches]
    cases hplace : (Enclosure.host item.host).placement? with
    | none =>
      -- no search is visited there, and none is listed
      constructor
      · intro h
        exact absurd hrow (not_isSearchRow_of_walk hplace h)
      · intro h
        cases h
    | some placement => rw [rows_walk setting v _ _ _ hplace hitem]

end Unit

/-- A compiled unit says about searches what is emitted for the searches of the unit. -/
theorem mem_rows_iff {unit : CompilationUnit} {config : Config} {v : Vocabulary}
    {u : CompiledUnit} (hcompiled : unit.compileWith config v = .ok u) {row : Row}
    (hrow : row.IsSearchRow) : row ∈ u.tables.rows row.table ↔
      ∃ p ∈ unit.searches config v, ∃ s, p.search? config = some s ∧ row ∈ s.rows := by
  obtain ⟨hfault, rfl⟩ := unit.of_compileWith_eq_ok config v hcompiled
  have hwalk := mem_rows_walkItems_iff hfault hrow
  rw [CompiledUnit.rows_ofVisits, mem_grow, List.mem_filter, CompilationUnit.walk, hwalk]
  simp [PlacedSearch.emitted, CompilationUnit.searches]

/-! ## Sameness -/

section Sameness

variable {config : Config} {p q : PlacedSearch} {s t : ValidatedSearch}

theorem id_of_header {h : SearchHeader} (hid : p.element.has "Id" = false)
    (hheader : (p.header config).value = some h) : h.id = none := by
  obtain ⟨name, -, rfl⟩ := Option.map_eq_some_iff.mp hheader
  show setting? p.element.attributes "Id" _ = none
  cases hset : setting? p.element.attributes "Id" (·.identifier p.kind.elementName) with
  | none => rfl
  | some id =>
    rw [has_of_setting? hset] at hid
    cases hid

/-- Searches with computed identifiers that are the same have the same header and query, if their
materials do not collide. -/
theorem sameness (hp : p.element.has "Id" = false) (hq : q.element.has "Id" = false)
    (hs : p.search? config = some s) (ht : q.search? config = some t)
    (hdigest : ∀ m ∈ p.material? config, ∀ n ∈ q.material? config,
      Identifier.fingerprint m = Identifier.fingerprint n → m = n)
    (hsame : s.search.id = t.search.id) :
    (p.header config).value = (q.header config).value ∧ p.query.value = q.query.value := by
  obtain ⟨hpclean, h, a, hheader, hquery, rfl⟩ := PlacedSearch.search?_eq_some hs
  obtain ⟨hqclean, h', b, hheader', hquery', rfl⟩ := PlacedSearch.search?_eq_some ht
  have hid := id_of_header hp hheader
  have hid' := id_of_header hq hheader'
  have hm : p.material? config = some (a.material h) := by
    simp [PlacedSearch.material?, hpclean, hheader, hquery]
  have hn : q.material? config = some (b.material h') := by
    simp [PlacedSearch.material?, hqclean, hheader', hquery']
  rw [SearchQuery.written_id, SearchQuery.written_id, SearchQuery.identifier,
    SearchQuery.identifier, hid, hid'] at hsame
  -- both texts are digested in this run, so they are told apart if they differ
  obtain ⟨-, hfingerprint⟩ := Identifier.ofMaterial_injective hsame
  obtain ⟨rfl, rfl⟩ := SearchQuery.material_injective hid hid'
    (hdigest _ (hm ▸ rfl) _ (hn ▸ rfl) hfingerprint)
  exact ⟨hheader.trans hheader'.symm, hquery.trans hquery'.symm⟩

theorem search_eq_of_parts (hs : p.search? config = some s) (ht : q.search? config = some t)
    (hheader : (p.header config).value = (q.header config).value)
    (hquery : p.query.value = q.query.value) : s = t := by
  obtain ⟨-, h, a, hh, ha, rfl⟩ := PlacedSearch.search?_eq_some hs
  obtain ⟨-, h', b, hh', hb, rfl⟩ := PlacedSearch.search?_eq_some ht
  obtain rfl : h = h' := Option.some.inj (hh.symm.trans (hheader.trans hh'))
  obtain rfl : a = b := Option.some.inj (ha.symm.trans (hquery.trans hb))
  rfl

/-- Searches that agree on everything that their identifiers are computed from are the same. -/
theorem search_eq_of_columns (hp : p.element.has "Id" = false) (hq : q.element.has "Id" = false)
    (hs : p.search? config = some s) (ht : q.search? config = some t)
    (hvariable : s.search.variableName = t.search.variableName)
    (hcondition : s.search.condition = t.search.condition) (hafter : s.after = t.after)
    (hquery : p.query.value = q.query.value) : s = t := by
  refine search_eq_of_parts hs ht ?_ hquery
  obtain ⟨-, ⟨id, variableName, condition, after⟩, a, hh, ha, rfl⟩ :=
    PlacedSearch.search?_eq_some hs
  obtain ⟨-, ⟨id', variableName', condition', after'⟩, b, hh', hb, rfl⟩ :=
    PlacedSearch.search?_eq_some ht
  obtain rfl : id = none := id_of_header hp hh
  obtain rfl : id' = none := id_of_header hq hh'
  obtain rfl : variableName = variableName' := hvariable
  obtain rfl : condition = condition' := hcondition
  obtain rfl : after = after' := hafter
  rw [hh, hh']

/-- The rows of a search in the tables of searches are the common one and that of its kind; both
have its identifier, and they lie in different tables. -/
theorem key?_of_mem_rows (hs : p.search? config = some s) {row : Row} (hrow : row ∈ s.rows)
    (htable : row.table ∈ Table.searchTables) : row.key? = some s.search.id ∧
      (row = .search s.search ∨ row = s.detail ∧ row.table ≠ .search) := by
  obtain ⟨-, h, a, -, -, rfl⟩ := PlacedSearch.search?_eq_some hs
  rcases List.mem_cons.mp hrow with rfl | hrow
  · exact ⟨rfl, .inl rfl⟩
  · rcases List.mem_cons.mp hrow with rfl | hrow
    · exact ⟨a.key?_row _, .inr ⟨rfl, a.table_row_ne_search _⟩⟩
    · obtain ⟨edge, -, rfl⟩ := List.mem_map.mp hrow
      exact absurd htable (by simp [Table.searchTables, Row.table])

/-- A search has at most one relation, and it leaves the search. -/
theorem relation_of_mem_rows (hs : p.search? config = some s) {edge : SearchEdge}
    (hrow : .searchRelation edge ∈ s.rows) :
    edge.child = s.search.id ∧ s.edges = [edge] := by
  obtain ⟨-, h, a, -, -, rfl⟩ := PlacedSearch.search?_eq_some hs
  rcases List.mem_cons.mp hrow with hrow | hrow
  · cases hrow
  · rcases List.mem_cons.mp hrow with hrow | hrow
    · exact absurd (congrArg Row.table hrow).symm (a.table_row_ne_searchRelation _)
    · obtain ⟨edge', hedge, heq⟩ := List.mem_map.mp hrow
      obtain rfl : edge' = edge := Row.searchRelation.inj heq
      obtain ⟨parent, hparent, rfl⟩ := List.mem_map.mp hedge
      refine ⟨rfl, ?_⟩
      rw [ValidatedSearch.edges, Option.mem_toList.mp hparent]
      rfl

end Sameness

/-! ## Whole units -/

section Units

variable {unit : CompilationUnit} {config : Config} {v : Vocabulary} {u : CompiledUnit}

/-- Written searches of the unit that have the same identifier say the same. This is what everything
about a unit comes down to. -/
def Distinguishes (unit : CompilationUnit) (config : Config) (v : Vocabulary) : Prop :=
  ∀ p ∈ unit.searches config v, ∀ q ∈ unit.searches config v, ∀ s t,
    p.search? config = some s → q.search? config = some t → s.search.id = t.search.id →
    s = t ∧ p.query.value = q.query.value

theorem distinguishes_of_digest (hid : ∀ p ∈ unit.searches config v, p.element.has "Id" = false)
    (hdigest : ∀ m ∈ unit.digested config v, ∀ n ∈ unit.digested config v,
      Identifier.fingerprint m = Identifier.fingerprint n → m = n) :
    Distinguishes unit config v := by
  intro p hp q hq s t hs ht heq
  have hcollide : ∀ m ∈ p.material? config, ∀ n ∈ q.material? config,
      Identifier.fingerprint m = Identifier.fingerprint n → m = n := by
    intro m hm n hn
    exact hdigest m (List.mem_filterMap.mpr ⟨p, hp, hm⟩) n (List.mem_filterMap.mpr ⟨q, hq, hn⟩)
  obtain ⟨hheader, hquery⟩ := sameness (hid p hp) (hid q hq) hs ht hcollide heq
  exact ⟨search_eq_of_parts hs ht hheader hquery, hquery⟩

/-- Rows of one table of searches with the same key belong to one search, and so are the same. -/
theorem Distinguishes.row_eq (hcompiled : unit.compileWith config v = .ok u)
    (hsame : Distinguishes unit config v) {row row' : Row}
    (hrow : row ∈ u.tables.rows row.table) (hrow' : row' ∈ u.tables.rows row'.table)
    (htable : row.table ∈ Table.searchTables) (htables : row'.table = row.table)
    (hkey : row.key? = row'.key?) : row = row' := by
  have htable' : row'.table ∈ Table.searchTables := htables ▸ htable
  obtain ⟨p, hp, s, hs, hmem⟩ := (mem_rows_iff hcompiled (.inl htable)).mp hrow
  obtain ⟨q, hq, t, ht, hmem'⟩ := (mem_rows_iff hcompiled (.inl htable')).mp hrow'
  obtain ⟨hown, hcase⟩ := key?_of_mem_rows hs hmem htable
  obtain ⟨hown', hcase'⟩ := key?_of_mem_rows ht hmem' htable'
  have heq : s.search.id = t.search.id := Option.some.inj (hown.symm.trans (hkey.trans hown'))
  obtain ⟨rfl, -⟩ := hsame p hp q hq s t hs ht heq
  -- the two rows of the search lie in different tables
  rcases hcase with rfl | ⟨rfl, hdetail⟩ <;> rcases hcase' with rfl | ⟨rfl, hdetail'⟩
  · rfl
  · exact absurd htables hdetail'
  · exact absurd htables.symm hdetail
  · rfl

/-- Relations that leave one search are the same. -/
theorem Distinguishes.edge_eq (hcompiled : unit.compileWith config v = .ok u)
    (hsame : Distinguishes unit config v) {edge edge' : SearchEdge}
    (hedge : .searchRelation edge ∈ u.tables.rows .searchRelation)
    (hedge' : .searchRelation edge' ∈ u.tables.rows .searchRelation)
    (hchild : edge.child = edge'.child) : edge = edge' := by
  obtain ⟨p, hp, s, hs, hmem⟩ := (mem_rows_iff hcompiled (.inr rfl)).mp hedge
  obtain ⟨q, hq, t, ht, hmem'⟩ := (mem_rows_iff hcompiled (.inr rfl)).mp hedge'
  obtain ⟨hs', hedges⟩ := relation_of_mem_rows hs hmem
  obtain ⟨ht', hedges'⟩ := relation_of_mem_rows ht hmem'
  obtain ⟨rfl, -⟩ := hsame p hp q hq s t hs ht (hs'.symm.trans (hchild.trans ht'))
  exact List.singleton_inj.mp (hedges.symm.trans hedges')

/-- The identifiers of a compiled unit tell its searches apart by what they say. -/
structure ContentAddressed (unit : CompilationUnit) (config : Config) (v : Vocabulary)
    (u : CompiledUnit) : Prop where
  /-- What the unit says about searches is what is written for them. -/
  written : ∀ row : Row, row.IsSearchRow → (row ∈ u.tables.rows row.table ↔
    ∃ p ∈ unit.searches config v, ∃ s, p.search? config = some s ∧ row ∈ s.rows)
  /-- No identifier names two rows of a table of searches. -/
  keys : ∀ table ∈ Table.searchTables, ∀ row ∈ u.tables.rows table,
    ∀ row' ∈ u.tables.rows table, row.key? = row'.key? → row = row'
  /-- No search runs after two others. -/
  relations : ∀ edge edge', .searchRelation edge ∈ u.tables.rows .searchRelation →
    .searchRelation edge' ∈ u.tables.rows .searchRelation → edge.child = edge'.child →
      edge = edge'
  /-- Two written searches have the same identifier exactly if they are of the same kind, agree on
  variable, condition and predecessor, and look for the same. -/
  identifiers : ∀ p ∈ unit.searches config v, ∀ q ∈ unit.searches config v, ∀ s t,
    p.search? config = some s → q.search? config = some t →
    (s.search.id = t.search.id ↔ p.kind = q.kind ∧
      s.search.variableName = t.search.variableName ∧ s.search.condition = t.search.condition ∧
      s.after = t.after ∧ p.query.value = q.query.value)

/-- If no search of a unit has an identifier of its own, and the digests do not collide on the texts
that compiling it digests, the computed identifiers tell its searches apart. -/
theorem content_addressed (hcompiled : unit.compileWith config v = .ok u)
    (hid : ∀ p ∈ unit.searches config v, p.element.has "Id" = false)
    (hdigest : ∀ m ∈ unit.digested config v, ∀ n ∈ unit.digested config v,
      Identifier.fingerprint m = Identifier.fingerprint n → m = n) :
    ContentAddressed unit config v u := by
  have hsame := distinguishes_of_digest hid hdigest
  refine ⟨fun row => mem_rows_iff hcompiled, ?_, ?_, ?_⟩
  · intro table htable row hrow row' hrow' hkey
    obtain rfl : row.table = table := (Tables.mem_rows.mp hrow).2
    have htables : row'.table = row.table := (Tables.mem_rows.mp hrow').2
    exact hsame.row_eq hcompiled hrow (htables ▸ hrow') htable htables hkey
  · intro edge edge' hedge hedge' hchild
    exact hsame.edge_eq hcompiled hedge hedge' hchild
  · intro p hp q hq s t hs ht
    constructor
    · intro heq
      obtain ⟨rfl, hquery⟩ := hsame p hp q hq s t hs ht heq
      obtain ⟨-, h, a, -, ha, -⟩ := PlacedSearch.search?_eq_some hs
      refine ⟨?_, rfl, rfl, rfl, hquery⟩
      rw [← PlacedSearch.kind_of_query ha, PlacedSearch.kind_of_query (hquery ▸ ha)]
    · rintro ⟨-, hvariable, hcondition, hafter, hquery⟩
      rw [search_eq_of_columns (hid p hp) (hid q hq) hs ht hvariable hcondition hafter hquery]

end Units

/-- A search in a search, in a bundle, and a search like the outer one in a fragment. -/
def repeatedUnit : CompilationUnit where
  name := "repeated"
  items := [
    ⟨{ kind := .bundle },
      { name := "DirectorySearch"
        attributes := [⟨"Variable", "OUTER", {}⟩, ⟨"Path", "C:\\", {}⟩]
        children := [
          { name := "FileSearch"
            attributes := [⟨"Variable", "INNER", {}⟩, ⟨"Path", "a.txt", {}⟩] }] }⟩,
    ⟨{ kind := .fragment },
      { name := "DirectorySearch"
        attributes := [⟨"Variable", "OUTER", {}⟩, ⟨"Path", "C:\\", {}⟩] }⟩]

/-- The configuration of the example; any variable may take a result. -/
def repeatedConfig : Config := { allowBuiltinVariables := true }

theorem content_addressed_repeated :
    ∃ u, repeatedUnit.compileWith repeatedConfig .full = .ok u ∧
      (∀ p ∈ repeatedUnit.searches repeatedConfig .full, p.element.has "Id" = false) ∧
      (∀ m ∈ repeatedUnit.digested repeatedConfig .full,
        ∀ n ∈ repeatedUnit.digested repeatedConfig .full,
          Identifier.fingerprint m = Identifier.fingerprint n → m = n) ∧
      ContentAddressed repeatedUnit repeatedConfig .full u := by
  have hid : ∀ p ∈ repeatedUnit.searches repeatedConfig .full, p.element.has "Id" = false := by
    decide +kernel
  have hdigest : ∀ m ∈ repeatedUnit.digested repeatedConfig .full,
      ∀ n ∈ repeatedUnit.digested repeatedConfig .full,
        Identifier.fingerprint m = Identifier.fingerprint n → m = n := by
    decide +kernel
  have hcompiles : (repeatedUnit.compileWith repeatedConfig .full).toOption.isSome = true := by
    decide +kernel
  cases hcompiled : repeatedUnit.compileWith repeatedConfig .full with
  | error fault =>
    rw [hcompiled] at hcompiles
    cases hcompiles
  | ok u => exact ⟨u, rfl, hid, hdigest, content_addressed hcompiled hid hdigest⟩

end InstallMarkup
