import InstallMarkup.Proofs.Identifier.Legal
import InstallMarkup.Proofs.Reading.Values
import InstallMarkup.Proofs.Run.Emitted

/-!
# Pairs of search rows

A search writes two rows under one identifier, the common one and that of its kind, and each is
left out on its own if it is there already. Still the identifiers of the common rows are those of
the rows of all kinds together, and those of the graph. And whatever is compiled is named legally:
authors' identifiers are checked, and computed ones are legal by their form.

Only an identifier that the caller gives for the search around an element is taken as it is. So the
predecessors of searches are legal, or given by the caller (`searchesPaired_session`), and the
exception is needed (`not_searchesPaired_given`).
-/

namespace InstallMarkup

/-- The identifiers of the rows of one table. -/
def idsIn (table : Table) (rows : List Row) : List Identifier :=
  (rows.filter (·.table == table)).filterMap Row.key?

theorem mem_idsIn {table : Table} {rows : List Row} {id : Identifier} :
    id ∈ idsIn table rows ↔ ∃ row ∈ rows, row.table = table ∧ row.key? = some id := by
  simp [idsIn, and_assoc]

/-- The identifier is legal, or one of those that were given. -/
def Identifier.Vouched (Given : Identifier → Prop) (id : Identifier) : Prop :=
  Identifier.isLegal id.text = true ∨ Given id

/-- Rows, nodes and soft references in which each search has its row, the row of its kind and its
node under one identifier, and everything is named legally; only predecessors may be given. -/
structure SearchesPaired (Given : Identifier → Prop) (rows : List Row) (nodes : List Identifier)
    (soft : List SoftReference) : Prop where
  searches : ∀ id, id ∈ idsIn .search rows ↔ id ∈ nodes
  kinds : ∀ id, id ∈ idsIn .search rows ↔ ∃ kind : SearchKind, id ∈ idsIn kind.table rows
  keys : ∀ row ∈ rows, ∀ id, row.key? = some id → Identifier.isLegal id.text = true
  relations : ∀ edge, .searchRelation edge ∈ rows →
    Identifier.isLegal edge.child.text = true ∧ edge.parent.Vouched Given
  soft : ∀ r ∈ soft, r.id.Vouched Given

section Paired

variable {Given : Identifier → Prop} {rows rows' all : List Row}
  {nodes nodes' allNodes : List Identifier} {soft soft' allSoft : List SoftReference}

theorem searchesPaired_empty : SearchesPaired Given [] [] [] where
  searches := by simp [mem_idsIn]
  kinds := by simp [mem_idsIn]
  keys := by simp
  relations := by simp
  soft := by simp

theorem SearchesPaired.union (h : SearchesPaired Given rows nodes soft)
    (h' : SearchesPaired Given rows' nodes' soft')
    (hrows : ∀ row, row ∈ all ↔ row ∈ rows ∨ row ∈ rows')
    (hnodes : ∀ id, id ∈ allNodes ↔ id ∈ nodes ∨ id ∈ nodes')
    (hsoft : ∀ r, r ∈ allSoft ↔ r ∈ soft ∨ r ∈ soft') :
    SearchesPaired Given all allNodes allSoft := by
  have hids : ∀ table id,
      id ∈ idsIn table all ↔ id ∈ idsIn table rows ∨ id ∈ idsIn table rows' := by
    intro table id
    simp only [mem_idsIn, hrows, or_and_right, exists_or]
  refine ⟨?_, ?_, ?_, ?_, ?_⟩
  · intro id
    rw [hids, h.searches, h'.searches, hnodes]
  · intro id
    simp only [hids, exists_or]
    rw [h.kinds, h'.kinds]
  · intro row hrow
    rcases (hrows row).mp hrow with hrow | hrow
    · exact h.keys row hrow
    · exact h'.keys row hrow
  · intro edge hedge
    rcases (hrows _).mp hedge with hedge | hedge
    · exact h.relations edge hedge
    · exact h'.relations edge hedge
  · intro r hr
    rcases (hsoft r).mp hr with hr | hr
    · exact h.soft r hr
    · exact h'.soft r hr

/-! ## Single emissions -/

/-- Without rows about searches there is nothing to pair. -/
theorem searchesPaired_of_component
    (htables : ∀ row ∈ rows, row.table = .permissionGrant ∨ row.table = .registry)
    (hkeys : ∀ row ∈ rows, ∀ id, row.key? = some id → Identifier.isLegal id.text = true) :
    SearchesPaired Given rows [] [] := by
  have hnone : ∀ table id, table ≠ .permissionGrant → table ≠ .registry →
      id ∉ idsIn table rows := by
    intro table id hgrant hregistry hid
    obtain ⟨row, hrow, htable, -⟩ := mem_idsIn.mp hid
    rcases htables row hrow with h | h
    · exact hgrant (htable.symm.trans h)
    · exact hregistry (htable.symm.trans h)
  refine ⟨?_, ?_, hkeys, ?_, ?_⟩
  · intro id
    simp [hnone .search id (by decide) (by decide)]
  · intro id
    have hkinds : ∀ kind : SearchKind, id ∉ idsIn kind.table rows := by
      intro kind
      cases kind <;> exact hnone _ id (by decide) (by decide)
    simp [hnone .search id (by decide) (by decide), hkinds]
  · intro edge hedge
    rcases htables _ hedge with h | h <;> cases h
  · intro r hr
    cases hr

end Paired

section Written

variable {Given : Identifier → Prop} {q : SearchQuery} {h : SearchHeader} {id : Identifier}

/-- A search writes its common row, the row of its kind, and one that names its predecessor if it
has one. -/
theorem mem_rows_written {row : Row} : row ∈ (Emission.search (q.written h)).rows ↔
    row = .search (q.written h).search ∨ row = q.row (q.identifier h) ∨
      ∃ parent ∈ h.after, row = .searchRelation { child := q.identifier h, parent } := by
  show row ∈ Row.search (q.written h).search :: q.row (q.identifier h) ::
    (h.after.toList.map fun parent => { child := q.identifier h, parent }).map .searchRelation ↔ _
  rw [List.mem_cons, List.mem_cons, List.map_map, List.mem_map]
  simp only [Option.mem_toList, Option.mem_def, Function.comp_apply, eq_comm]

/-- A search gives its own identifier, and no other, to the table of searches. -/
theorem mem_idsIn_search_written :
    id ∈ idsIn .search (Emission.search (q.written h)).rows ↔ id = q.identifier h := by
  rw [mem_idsIn]
  constructor
  · rintro ⟨row, hrow, htable, hkey⟩
    rcases mem_rows_written.mp hrow with rfl | rfl | ⟨parent, -, rfl⟩
    · exact (Option.some.inj hkey).symm
    · exact absurd htable (q.table_row_ne_search (q.identifier h))
    · cases htable
  · rintro rfl
    exact ⟨_, mem_rows_written.mpr (.inl rfl), rfl, rfl⟩

theorem mem_idsIn_kind_written :
    (∃ kind : SearchKind, id ∈ idsIn kind.table (Emission.search (q.written h)).rows) ↔
      id = q.identifier h := by
  constructor
  · rintro ⟨kind, hid⟩
    obtain ⟨row, hrow, htable, hkey⟩ := mem_idsIn.mp hid
    rcases mem_rows_written.mp hrow with rfl | rfl | ⟨parent, -, rfl⟩
    · cases kind <;> cases htable
    · rw [q.key?_row] at hkey
      exact (Option.some.inj hkey).symm
    · cases kind <;> cases htable
  · rintro rfl
    exact ⟨q.kind, mem_idsIn.mpr
      ⟨_, mem_rows_written.mpr (.inr (.inl rfl)), q.table_row _, q.key?_row _⟩⟩

theorem isLegal_of_key?_written (hid : Identifier.isLegal (q.identifier h).text = true) {row : Row}
    (hrow : row ∈ (Emission.search (q.written h)).rows) (hkey : row.key? = some id) :
    Identifier.isLegal id.text = true := by
  rcases mem_rows_written.mp hrow with rfl | rfl | ⟨parent, -, rfl⟩
  · obtain rfl : q.identifier h = id := Option.some.inj hkey
    exact hid
  · rw [q.key?_row] at hkey
    obtain rfl : q.identifier h = id := Option.some.inj hkey
    exact hid
  · cases hkey

/-- A search is paired if it is named legally and its predecessor is vouched for. -/
theorem searchesPaired_of_search (hid : Identifier.isLegal (q.identifier h).text = true)
    (hafter : ∀ parent ∈ h.after, parent.Vouched Given) :
    SearchesPaired Given (Emission.search (q.written h)).rows (Emission.search (q.written h)).nodes
      (Emission.search (q.written h)).soft := by
  refine ⟨?_, ?_, ?_, ?_, ?_⟩
  · intro id
    rw [mem_idsIn_search_written]
    exact List.mem_singleton.symm
  · intro id
    rw [mem_idsIn_search_written, mem_idsIn_kind_written]
  · intro row hrow id hkey
    exact isLegal_of_key?_written hid hrow hkey
  · intro edge hedge
    rcases mem_rows_written.mp hedge with heq | heq | ⟨parent, hparent, heq⟩
    · cases heq
    · cases q <;> cases heq
    · cases heq
      exact ⟨hid, hafter parent hparent⟩
  · intro r hr
    obtain ⟨parent, hparent, rfl⟩ := List.mem_map.mp hr
    exact hafter parent (Option.mem_toList.mp hparent)

end Written

/-! ## Elements -/

section Elements

variable {setting : Setting} {v : Vocabulary} {Given : Identifier → Prop}

/-- The search around an element, if it has an identifier, is named legally or is a given one. -/
def Enclosure.Vouched (Given : Identifier → Prop) : Enclosure → Prop
  | .host _ => True
  | .search _ id => ∀ parent ∈ id, parent.Vouched Given

theorem isLegal_of_setting? {attributes : List Attribute} {name element : String} {id : Identifier}
    (h : setting? attributes name (·.identifier element) = some id) :
    Identifier.isLegal id.text = true :=
  of_setting? (fun _ _ hread => isLegal_of_identifier hread) h

/-- A search is named legally, by its author or by its content. -/
theorem isLegal_identifier {p : PlacedSearch} {config : Config} {h : SearchHeader}
    (hheader : (p.header config).value = some h) (q : SearchQuery) :
    Identifier.isLegal (q.identifier h).text = true := by
  obtain ⟨name, -, rfl⟩ := Option.map_eq_some_iff.mp hheader
  rw [SearchQuery.identifier]
  cases hid : (SearchSettings.ofAttributes config p.kind.elementName p.element.attributes).id with
  | none => exact Identifier.isLegal_ofMaterial _ _
  | some id => exact isLegal_of_setting? hid

/-- The predecessor of a search is named legally by its author, or it is the search around. -/
theorem vouched_after {p : PlacedSearch} {config : Config} {h : SearchHeader}
    {enclosure : Enclosure} (hheader : (p.header config).value = some h)
    (hplace : enclosure.placement? = some p.placement) (henclosure : enclosure.Vouched Given) :
    ∀ parent ∈ h.after, parent.Vouched Given := by
  obtain ⟨name, -, rfl⟩ := Option.map_eq_some_iff.mp hheader
  obtain ⟨kind, e, placement⟩ := p
  intro parent hparent
  cases placement with
  | topLevel => exact .inl (isLegal_of_setting? hparent)
  | nested around =>
    cases enclosure with
    | search name id =>
      cases hplace
      exact henclosure parent hparent
    | host host =>
      rw [Enclosure.placement?] at hplace
      split at hplace <;> cases hplace

theorem searchesPaired_of_assess {compiler : ElementCompiler} {enclosure : Enclosure} {e : Element}
    {a : Assessment Emission} {em : Emission}
    (hassess : compiler.assess setting enclosure e = .ok a)
    (henclosure : enclosure.Vouched Given) (hem : a.value = some em) :
    SearchesPaired Given em.rows em.nodes em.soft := by
  have hassessed := ElementCompiler.assess_eq_iff.mp hassess
  cases hassessed with
  | search p enclosure helement hplace =>
    obtain ⟨s, hs, rfl⟩ := Option.map_eq_some_iff.mp hem
    obtain ⟨-, h, q, hheader, -, rfl⟩ := PlacedSearch.search?_eq_some hs
    exact searchesPaired_of_search (isLegal_identifier hheader q)
      (vouched_after hheader hplace henclosure)
  | searchReference kind h hholds =>
    obtain ⟨id, rfl, hid, -⟩ := SearchReference.of_value hem
    refine { (searchesPaired_empty : SearchesPaired Given [] [] []) with soft := ?_ }
    intro r hr
    obtain rfl := List.mem_singleton.mp hr
    exact .inl (isLegal_of_setting? hid)
  | permissionGrant h target objectId componentId htarget hobject hcomponent =>
    obtain ⟨g, rfl⟩ := PermissionGrant.accepted_of_value hem
    refine searchesPaired_of_component ?_ ?_
    · intro row hrow
      obtain rfl := List.mem_singleton.mp hrow
      exact .inl rfl
    · intro row hrow id hkey
      obtain rfl := List.mem_singleton.mp hrow
      cases hkey
  | eventSource h componentId hkind hcomponent =>
    obtain ⟨source, rfl⟩ := EventSource.accepted_of_value hem
    refine searchesPaired_of_component ?_ ?_
    · intro row hrow
      obtain ⟨written, -, rfl⟩ := List.mem_map.mp hrow
      exact .inr rfl
    · intro row hrow id hkey
      obtain ⟨written, hwritten, rfl⟩ := List.mem_map.mp hrow
      obtain ⟨value, -, rfl⟩ := List.mem_map.mp hwritten
      obtain rfl := Option.some.inj hkey
      exact Identifier.isLegal_ofMaterial _ _
  | misplaced compiler enclosure hplace => cases hem

/-- Whatever a visit emits is paired, and what is nested in the element stands in a search that is
vouched for. -/
theorem searchesPaired_of_visit {enclosure : Enclosure} {e : Element} {a : Assessment Emission}
    {inner : Option Enclosure} (h : e.visit setting v enclosure = .ok (a, inner))
    (henclosure : enclosure.Vouched Given) :
    (∀ em, a.value = some em → SearchesPaired Given em.rows em.nodes em.soft) ∧
      ∀ nested ∈ inner, nested.Vouched Given := by
  refine ⟨?_, ?_⟩
  · intro em hem
    obtain ⟨-, hvisited⟩ := visit_eq_ok_iff.mp h
    cases hvisited with
    | unknown hname => cases hem
    | compiled hname hassess => exact searchesPaired_of_assess hassess henclosure hem
  · rintro nested rfl
    obtain ⟨-, houtcome⟩ := visit_outcome h
    cases houtcome with
    | search p helement hname hplace =>
      -- the search was named here, if it was written
      intro id hid
      obtain ⟨s, hs, rfl⟩ := Option.map_eq_some_iff.mp hid
      obtain ⟨-, header, q, hheader, -, rfl⟩ := PlacedSearch.search?_eq_some hs
      exact .inl (isLegal_identifier hheader q)

theorem searchesPaired_of_mem_walk {enclosure : Enclosure} {e : Element} {em : Emission}
    (henclosure : enclosure.Vouched Given)
    (h : em ∈ (e.walk setting v enclosure).visits.filterMap (·.value)) :
    SearchesPaired Given em.rows em.nodes em.soft := by
  obtain ⟨a, ha, hem⟩ := List.mem_filterMap.mp h
  refine forall_mem_walk (I := Enclosure.Vouched Given)
    (R := fun a => ∀ em, a.value = some em → SearchesPaired Given em.rows em.nodes em.soft)
    ?_ enclosure e henclosure a ha em hem
  intro enclosure e a inner hin hvisit
  exact searchesPaired_of_visit hvisit hin

end Elements

/-! ## Sessions -/

theorem SearchesPaired.add {Given : Identifier → Prop} {o : Output} {em : Emission}
    (h : SearchesPaired Given o.tables.all o.graph.nodes o.references.soft)
    (hem : SearchesPaired Given em.rows em.nodes em.soft) :
    SearchesPaired Given (o.add em).tables.all (o.add em).graph.nodes (o.add em).references.soft :=
  h.union hem (fun _ => Output.mem_all_add) (fun _ => mem_grow)
    (fun _ => References.mem_soft_addAll)

/-- In every state that dispatches lead to from the start, the rows of searches are paired under
legal identifiers; only a predecessor may be one that was given for the search around an element. -/
theorem searchesPaired_session (setting : Setting) (v : Vocabulary)
    (steps : List (Enclosure × Element)) :
    let o := ((UnitState.start setting.config).session setting v steps).output
    SearchesPaired (fun id => ∃ step ∈ steps, ∃ name, step.1 = .search name (some id)) o.tables.all
      o.graph.nodes o.references.soft := by
  let Given : Identifier → Prop := fun id =>
    ∃ step ∈ steps, ∃ name, step.1 = .search name (some id)
  refine UnitState.session_induction
    (P := fun o => SearchesPaired Given o.tables.all o.graph.nodes o.references.soft)
    searchesPaired_empty ?_
  intro step hstep em hem o ho
  refine ho.add (searchesPaired_of_mem_walk ?_ hem)
  obtain ⟨enclosure, e⟩ := step
  cases enclosure with
  | host h => trivial
  | search name id =>
    rintro parent rfl
    exact .inr ⟨_, hstep, name, rfl⟩

/-- A file search in a search that the caller has named illegally. -/
def illegallyNested : Enclosure × Element :=
  (.search "DirectorySearch" (some ⟨"1 bad"⟩),
    { name := "FileSearch"
      attributes := [⟨"Id", "Inner", {}⟩, ⟨"Variable", "Found", {}⟩, ⟨"Path", "app.exe", {}⟩] })

/-- An identifier that is given is not checked: the search is written to run after it. -/
theorem not_searchesPaired_given :
    let setting : Setting := { config := { allowBuiltinVariables := true } }
    let o := ((UnitState.start setting.config).session setting .full [illegallyNested]).output
    ¬ SearchesPaired (fun _ => False) o.tables.all o.graph.nodes o.references.soft := by
  intro setting o h
  have hsoft : (⟨.search, ⟨"1 bad"⟩⟩ : SoftReference) ∈ o.references.soft := by decide +kernel
  have hlegal := (h.soft _ hsoft).resolve_right id
  exact absurd hlegal (by decide +kernel)

end InstallMarkup
