import InstallMarkup.Proofs.Run.Visits

/-!
# The three records of the ordering

That one search runs after another is recorded three times: as an edge of the ordering graph, as a
row of the table of relations, and as a soft reference to the other search. Each record has its own
check for repeats. `OrderingAgrees` says that they agree. They do in every state that dispatching
elements can lead to, in any order, in any place, and whether or not some of the dispatches were
stopped by a fault (`UnitState.session`).

**Proof**: what a single emission records is balanced (`balanced_of_origin`); adding a balanced
emission keeps the records in agreement (`OrderingAgrees.add`), since the rows and the edges grow by
the same elements; and a session adds the emissions of the walks of its steps
(`UnitState.session_induction`).
-/

namespace InstallMarkup

/-! ## The invariant -/

/-- The records of the orderings agree. `Referred` tells which searches were referred to by an
element of its own. -/
structure OrderingAgrees (Referred : Identifier → Prop) (o : Output) : Prop where
  /-- The relation rows are the edges, in the same order. -/
  relations : o.tables.rows .searchRelation = o.graph.edges.map .searchRelation
  /-- No edge is there twice. -/
  distinct : o.graph.edges.Nodup
  /-- Every edge leaves a search of the graph. -/
  registered : ∀ edge ∈ o.graph.edges, edge.child ∈ o.graph.nodes
  /-- Every edge leaves a search that has its row. -/
  written : ∀ edge ∈ o.graph.edges,
    ∃ row : SearchRow, .search row ∈ o.tables.rows .search ∧ row.id = edge.child
  /-- Every edge leads to a search that is looked for at link time. -/
  recorded : ∀ edge ∈ o.graph.edges, ⟨.search, edge.parent⟩ ∈ o.references.soft
  /-- What is looked for at link time is a search to which an edge leads, or that was referred
  to. -/
  accounted : ∀ r ∈ o.references.soft,
    r.table = .search ∧ ((∃ edge ∈ o.graph.edges, edge.parent = r.id) ∨ Referred r.id)

theorem orderingAgrees_empty (Referred : Identifier → Prop) : OrderingAgrees Referred {} where
  relations := rfl
  distinct := List.nodup_nil
  registered := by intro edge h; cases h
  written := by intro edge h; cases h
  recorded := by intro edge h; cases h
  accounted := by intro r h; cases h

/-! ## One emission -/

/-- What an emission records about orderings fits together. -/
structure Emission.Balanced (Referred : Identifier → Prop) (em : Emission) : Prop where
  relations : em.rows.filter (·.table == .searchRelation) = em.edges.map .searchRelation
  registered : ∀ edge ∈ em.edges, edge.child ∈ em.nodes
  written : ∀ edge ∈ em.edges, ∃ row : SearchRow, .search row ∈ em.rows ∧ row.id = edge.child
  recorded : ∀ edge ∈ em.edges, ⟨.search, edge.parent⟩ ∈ em.soft
  accounted : ∀ r ∈ em.soft,
    r.table = .search ∧ ((∃ edge ∈ em.edges, edge.parent = r.id) ∨ Referred r.id)

section Balanced

variable {Referred : Identifier → Prop}

/-- The row of its kind is the only row of a search that could be mistaken for a relation. -/
theorem balanced_search {s : ValidatedSearch} (hdetail : s.detail.table ≠ .searchRelation) :
    (Emission.search s).Balanced Referred where
  relations := by
    have hrow : (s.detail.table == .searchRelation) = false := beq_false_of_ne hdetail
    show (Row.search s.search :: s.detail :: s.edges.map .searchRelation).filter
      (·.table == .searchRelation) = s.edges.map .searchRelation
    rw [List.filter_cons_of_neg (by simp [Row.table]), List.filter_cons_of_neg (by simp [hrow]),
      List.filter_eq_self]
    intro row hrow
    obtain ⟨edge, -, rfl⟩ := List.mem_map.mp hrow
    rfl
  registered := by
    intro edge hedge
    obtain ⟨parent, -, rfl⟩ := List.mem_map.mp hedge
    exact List.mem_singleton.mpr rfl
  written := by
    intro edge hedge
    obtain ⟨parent, -, rfl⟩ := List.mem_map.mp hedge
    exact ⟨s.search, List.mem_cons_self, rfl⟩
  recorded := by
    intro edge hedge
    obtain ⟨parent, hparent, rfl⟩ := List.mem_map.mp hedge
    exact List.mem_map.mpr ⟨parent, hparent, rfl⟩
  accounted := by
    intro r hr
    obtain ⟨parent, hparent, rfl⟩ := List.mem_map.mp hr
    exact ⟨rfl, .inl ⟨_, List.mem_map.mpr ⟨parent, hparent, rfl⟩, rfl⟩⟩

theorem balanced_searchReference {id : Identifier} (h : Referred id) :
    (Emission.searchReference id).Balanced Referred where
  relations := rfl
  registered := by intro edge h; cases h
  written := by intro edge h; cases h
  recorded := by intro edge h; cases h
  accounted := by
    intro r hr
    obtain rfl : r = ⟨.search, id⟩ := List.mem_singleton.mp hr
    exact ⟨rfl, .inr h⟩

theorem balanced_ofComponent {em : Emission} (h : em.OfComponent) : em.Balanced Referred := by
  cases h with
  | grant row object component action =>
    refine ⟨rfl, ?_, ?_, ?_, ?_⟩
    · intro edge h; cases h
    · intro edge h; cases h
    · intro edge h; cases h
    · intro r h; cases h
  | eventSource rows component =>
    refine ⟨?_, ?_, ?_, ?_, ?_⟩
    · show (rows.map Row.registry).filter (·.table == .searchRelation) = []
      rw [List.filter_eq_nil_iff]
      intro row hrow
      obtain ⟨_, -, rfl⟩ := List.mem_map.mp hrow
      simp [Row.table]
    · intro edge h; cases h
    · intro edge h; cases h
    · intro edge h; cases h
    · intro r h; cases h

theorem balanced_of_origin {setting : Setting} {v : Vocabulary} {enclosure : Enclosure}
    {e : Element} {em : Emission} (h : em.Origin setting v enclosure e)
    (hrefers : ∀ id, RefersTo setting v enclosure e id → Referred id) :
    em.Balanced Referred := by
  cases h with
  | search p s hs =>
    obtain ⟨-, header, q, -, -, rfl⟩ := PlacedSearch.search?_eq_some hs
    exact balanced_search (q.table_row_ne_searchRelation _)
  | reference id hid => exact balanced_searchReference (hrefers id hid)
  | ofComponent em hem => exact balanced_ofComponent hem

end Balanced

/-! ## Steps and runs -/

section Steps

variable {Referred : Identifier → Prop} {o : Output}

theorem OrderingAgrees.add {em : Emission} (h : OrderingAgrees Referred o)
    (hem : em.Balanced Referred) : OrderingAgrees Referred (o.add em) := by
  have hrows : ∀ table, (o.add em).tables.rows table =
      grow (o.tables.rows table) (em.rows.filter (·.table == table)) := o.rows_add em
  have hedges : (o.add em).graph.edges = grow o.graph.edges em.edges := rfl
  have hnodes : (o.add em).graph.nodes = grow o.graph.nodes em.nodes := rfl
  have hsoft : ∀ r, r ∈ (o.add em).references.soft ↔ r ∈ o.references.soft ∨ r ∈ em.soft :=
    fun r => References.mem_soft_addAll
  refine ⟨?_, ?_, ?_, ?_, ?_, ?_⟩
  · -- both grow by the same edges, and a row tells its edge
    have hinjective : Function.Injective Row.searchRelation := fun a b hab => by cases hab; rfl
    rw [hrows, hedges, h.relations, hem.relations, map_grow hinjective]
  · rw [hedges]
    exact nodup_grow h.distinct em.edges
  · intro edge hedge
    rw [hnodes, mem_grow]
    rcases mem_grow.mp (hedges ▸ hedge) with hold | hnew
    · exact .inl (h.registered edge hold)
    · exact .inr (hem.registered edge hnew)
  · intro edge hedge
    rcases mem_grow.mp (hedges ▸ hedge) with hold | hnew
    · obtain ⟨row, hrow, hid⟩ := h.written edge hold
      refine ⟨row, ?_, hid⟩
      rw [hrows, mem_grow]
      exact .inl hrow
    · obtain ⟨row, hrow, hid⟩ := hem.written edge hnew
      refine ⟨row, ?_, hid⟩
      rw [hrows, mem_grow, List.mem_filter]
      exact .inr ⟨hrow, rfl⟩
  · intro edge hedge
    rw [hsoft]
    rcases mem_grow.mp (hedges ▸ hedge) with hold | hnew
    · exact .inl (h.recorded edge hold)
    · exact .inr (hem.recorded edge hnew)
  · intro r hr
    rw [hedges]
    rcases (hsoft r).mp hr with hold | hnew
    · obtain ⟨htable, ⟨edge, hedge, hparent⟩ | hreferred⟩ := h.accounted r hold
      · exact ⟨htable, .inl ⟨edge, mem_grow.mpr (.inl hedge), hparent⟩⟩
      · exact ⟨htable, .inr hreferred⟩
    · obtain ⟨htable, ⟨edge, hedge, hparent⟩ | hreferred⟩ := hem.accounted r hnew
      · exact ⟨htable, .inl ⟨edge, mem_grow.mpr (.inr hedge), hparent⟩⟩
      · exact ⟨htable, .inr hreferred⟩

end Steps

/-- The state after dispatching elements one after the other, each in an enclosure of its own. A
dispatch that is stopped by a fault leaves what it has written, and the next one goes on there. -/
def UnitState.session (setting : Setting) (v : Vocabulary) (s : UnitState)
    (steps : List (Enclosure × Element)) : UnitState :=
  steps.foldl (fun s step => (s.dispatch setting v step.1 step.2).1) s

/-- What holds of an output, and is kept by whatever the walk of a step emits, holds after the
session, also if some of its dispatches are stopped by a fault. -/
theorem UnitState.session_induction {P : Output → Prop} {s : UnitState} {setting : Setting}
    {v : Vocabulary} {steps : List (Enclosure × Element)} (hstart : P s.output)
    (hadd : ∀ step ∈ steps, ∀ em ∈ (step.2.walk setting v step.1).visits.filterMap (·.value),
      ∀ o, P o → P (o.add em)) : P (s.session setting v steps).output := by
  induction steps generalizing s with
  | nil => exact hstart
  | cons step steps ih =>
    rw [UnitState.session, List.foldl_cons, ← UnitState.session]
    refine ih ?_ ?_
    · rw [UnitState.dispatch_eq]
      exact List.foldlRecOn _ Output.add hstart fun o ho em hem =>
        hadd step List.mem_cons_self em hem o ho
    · intro step' hstep'
      exact hadd step' (List.mem_cons_of_mem step hstep')

theorem OrderingAgrees.session {Referred : Identifier → Prop} {s : UnitState} {setting : Setting}
    {v : Vocabulary} {steps : List (Enclosure × Element)} (h : OrderingAgrees Referred s.output)
    (hrefers : ∀ step ∈ steps, ∀ id, RefersTo setting v step.1 step.2 id → Referred id) :
    OrderingAgrees Referred (s.session setting v steps).output := by
  refine UnitState.session_induction h ?_
  intro step hstep em hem o ho
  exact ho.add (balanced_of_origin (origin_of_mem_walk hem) (hrefers step hstep))

/-- In every state that dispatches lead to from the start, the records of the orderings agree, and
the only other soft references are those of references to searches. -/
theorem orderingAgrees_session (setting : Setting) (v : Vocabulary)
    (steps : List (Enclosure × Element)) :
    OrderingAgrees (fun id => ∃ step ∈ steps, RefersTo setting v step.1 step.2 id)
      ((UnitState.start setting.config).session setting v steps).output := by
  refine OrderingAgrees.session (orderingAgrees_empty _) ?_
  intro step hstep id hid
  exact ⟨step, hstep, hid⟩

end InstallMarkup
