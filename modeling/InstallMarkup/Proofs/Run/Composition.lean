import InstallMarkup.Proofs.Run.Walks

/-!
# Items do not interfere

All items of a unit write to one state, but none of them reads it: what an item raises and emits is
fixed by its walk. So a unit that lists some items after others compiles to what the two lists
compile to on their own, joined (`CompiledUnit.Joins`): diagnostics after each other, rows and edges
grown by those that are new, references united. And it is refused exactly if one of the lists is,
with the fault of the first that is.

The joining happens on the visits already (`joins_ofVisits`). Compiling only adds that a walk over
both lists is the one walk after the other.
-/

namespace InstallMarkup

namespace CompiledUnit

/-- `u` is what `a` comes to with everything of `b` after it. -/
structure Joins (a b u : CompiledUnit) : Prop where
  diagnostics : u.diagnostics = a.diagnostics ++ b.diagnostics
  rows : ∀ table, u.tables.rows table =
    a.tables.rows table ++ (b.tables.rows table).filter (fun row => row ∉ a.tables.rows table)
  edges : u.edges = a.edges ++ b.edges.filter (fun edge => edge ∉ a.edges)
  soft : ∀ r, r ∈ u.references.soft ↔ r ∈ a.references.soft ∨ r ∈ b.references.soft
  hard : ∀ r, r ∈ u.references.hard ↔ r ∈ a.references.hard ∨ r ∈ b.references.hard
  actions : ∀ r, r ∈ u.references.actions ↔ r ∈ a.references.actions ∨ r ∈ b.references.actions

/-! ## What visits leave behind -/

section Visits

variable (name : String) (config : Config) (visits : List (Assessment Emission))

theorem diagnostics_ofVisits : (ofVisits name config visits).diagnostics =
    (visits.flatMap (·.raised)).map (·.graded config.warningsAsErrors) := by
  rw [ofVisits, ofState, UnitState.entries_absorb]
  rfl

theorem rows_ofVisits (table : Table) : (ofVisits name config visits).tables.rows table =
    grow [] (((visits.filterMap (·.value)).flatMap Emission.rows).filter (·.table == table)) := by
  simp only [ofVisits, ofState, UnitState.absorb, UnitState.start, Output.rows_addAll]
  rfl

theorem edges_ofVisits : (ofVisits name config visits).edges =
    grow [] ((visits.filterMap (·.value)).flatMap Emission.edges) := by
  simp only [ofVisits, ofState, UnitState.absorb, UnitState.start, Output.graph_addAll,
    OrderGraph.grow]

theorem references_ofVisits : (ofVisits name config visits).references =
    References.addAll {} ((visits.filterMap (·.value)).flatMap Emission.soft)
      ((visits.filterMap (·.value)).flatMap Emission.hard)
      ((visits.filterMap (·.value)).flatMap Emission.actions) := by
  simp only [ofVisits, ofState, UnitState.absorb, UnitState.start, Output.references_addAll]

end Visits

/-- What is written depends on what visits emit, and on nothing else of them. -/
theorem output_ofVisits (name name' : String) (config : Config)
    {visits visits' : List (Assessment Emission)}
    (h : visits.filterMap (·.value) = visits'.filterMap (·.value)) :
    (ofVisits name config visits).tables = (ofVisits name' config visits').tables ∧
      (ofVisits name config visits).references = (ofVisits name' config visits').references ∧
      (ofVisits name config visits).edges = (ofVisits name' config visits').edges ∧
      (ofVisits name config visits).collisions = (ofVisits name' config visits').collisions := by
  have houtput : ((UnitState.start config).absorb visits).output =
      ((UnitState.start config).absorb visits').output :=
    congrArg (Output.addAll {}) h
  exact ⟨congrArg (·.tables) houtput, congrArg (·.references) houtput,
    congrArg (·.graph.edges) houtput, congrArg (·.collisions) houtput⟩

/-- Visits after visits leave behind the two units joined. -/
theorem joins_ofVisits (name : String) (config : Config) (xs ys : List (Assessment Emission)) :
    Joins (ofVisits name config xs) (ofVisits name config ys)
      (ofVisits name config (xs ++ ys)) where
  diagnostics := by
    simp only [diagnostics_ofVisits, List.flatMap_append, List.map_append]
  rows := by
    intro table
    simp only [rows_ofVisits, List.filterMap_append, List.flatMap_append, List.filter_append]
    rw [grow_append, grow_eq_append_filter]
  edges := by
    simp only [edges_ofVisits, List.filterMap_append, List.flatMap_append]
    rw [grow_append, grow_eq_append_filter]
  soft := by
    intro r
    simp [references_ofVisits]
  hard := by
    intro r
    simp [references_ofVisits]
  actions := by
    intro r
    simp [references_ofVisits]

end CompiledUnit

/-! ## Compiling a unit in two parts -/

theorem CompilationUnit.walk_append (unit : CompilationUnit) (config : Config) (v : Vocabulary)
    (as bs : List UnitItem) : walk { unit with items := as ++ bs } config v =
      (walk { unit with items := as } config v).andThen
        (walk { unit with items := bs } config v) :=
  walkItems_append { config, declared := unit.declared } v as bs

/-- Compiling items after others comes to the two compilations joined, or to the fault of the first
that fails. -/
theorem compileWith_append (unit : CompilationUnit) (config : Config) (v : Vocabulary)
    (as bs : List UnitItem) :
    match { unit with items := as }.compileWith config v,
      { unit with items := bs }.compileWith config v with
    | .error fault, _ => { unit with items := as ++ bs }.compileWith config v = .error fault
    | .ok _, .error fault => { unit with items := as ++ bs }.compileWith config v = .error fault
    | .ok a, .ok b =>
      ∃ u, { unit with items := as ++ bs }.compileWith config v = .ok u ∧ a.Joins b u := by
  simp only [CompilationUnit.compileWith_eq, CompilationUnit.walk_append]
  cases has : (CompilationUnit.walk { unit with items := as } config v).fault with
  | some fault =>
    -- the items of `bs` are not reached
    simp only [Walk.andThen_of_fault has, has]
  | none =>
    simp only [Walk.andThen_of_finished has]
    cases hbs : (CompilationUnit.walk { unit with items := bs } config v).fault with
    | some fault => rfl
    | none => exact ⟨_, rfl, CompiledUnit.joins_ofVisits unit.name config _ _⟩

end InstallMarkup
