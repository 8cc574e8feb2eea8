import InstallMarkup.Proofs.Run.Sessions

/-!
# References and the rows behind them

The symbols and the actions that a unit needs are recorded by two elements, apart from the rows that
need them. `ReferencesJustified` says that they agree with the rows in every state that a session
leads to:

* **symbols**: a symbol is recorded exactly if some row depends on it (`Row.Justifies`), and only
  declared symbols are;
* **actions**: the action that applies grants is recorded exactly if there is a grant, and no other
  action is; where the action is not built for the platform, there is no grant.

**Proof**: each accepted element emits references that its own rows justify
(`mem_hard_iff_of_source`, `grants_of_source`), and both sides grow together.
-/

namespace InstallMarkup

/-! ## The invariant -/

/-- The kind of symbol that the objects of a table are declared as, if grants may name the table. -/
def symbolKindOfTable? : String → Option SymbolKind
  | "CreateFolder" => some .directory
  | "File" => some .file
  | "Registry" => some .registry
  | "ServiceInstall" => some .serviceInstall
  | _ => none

/-- The row depends on the symbol. -/
inductive Row.Justifies : Row → Symbol → Prop
  /-- A grant depends on its object. -/
  | object (row : PermissionGrantRow) (kind : SymbolKind)
      (hkind : symbolKindOfTable? row.objectTable = some kind) :
      Justifies (.permissionGrant row) ⟨kind, row.objectId⟩
  /-- A grant depends on its component. -/
  | grantComponent (row : PermissionGrantRow) :
      Justifies (.permissionGrant row) ⟨.component, row.componentId⟩
  /-- A registry value depends on its component. -/
  | valueComponent (row : RegistryRow) : Justifies (.registry row) ⟨.component, row.componentId⟩

/-- The name that the action which applies grants has in a configuration. -/
def grantAction (config : Config) : String :=
  config.actionPrefix ++ "SchedSecureObjects" ++ config.platform.actionSuffix

/-- Symbols and actions are recorded for the rows that need them, and for nothing else. -/
structure ReferencesJustified (setting : Setting) (o : Output) : Prop where
  /-- The recorded symbols are those that rows depend on. -/
  hard : ∀ symbol, symbol ∈ o.references.hard ↔ ∃ row ∈ o.tables.all, row.Justifies symbol
  /-- Every grant is on an object of a table that grants may name. -/
  objects : ∀ row : PermissionGrantRow, .permissionGrant row ∈ o.tables.all →
    (symbolKindOfTable? row.objectTable).isSome = true
  /-- Every recorded symbol is declared. -/
  declared : ∀ symbol ∈ o.references.hard, symbol ∈ setting.declared
  /-- The one action is recorded exactly if there is a grant. -/
  actions : o.references.actions =
    if o.tables.rows .permissionGrant = [] then [] else [grantAction setting.config]
  /-- There are no grants where the action is not built. -/
  arm : setting.config.platform = .arm → o.tables.rows .permissionGrant = []

theorem referencesJustified_empty (setting : Setting) : ReferencesJustified setting {} where
  hard := by
    intro symbol
    constructor
    · intro hsymbol
      cases hsymbol
    · rintro ⟨row, hrow, -⟩
      cases hrow
  objects := by intro row hrow; cases hrow
  declared := by intro symbol hsymbol; cases hsymbol
  actions := rfl
  arm := fun _ => rfl

/-! ## One emission -/

section Source

variable {setting : Setting} {em : Emission}

/-- The symbol of an object is of the kind that its table tells. -/
theorem symbolKindOfTable?_of_grantTarget? {kind : HostKind} {target : GrantTarget}
    (h : kind.grantTarget? = some target) :
    symbolKindOfTable? target.object.table = some target.symbol := by
  cases kind <;> first | (cases h; rfl) | cases h

theorem SearchQuery.not_justifies (q : SearchQuery) (h : SearchHeader) {row : Row}
    (hrow : row ∈ (q.written h).rows) (symbol : Symbol) : ¬ row.Justifies symbol := by
  intro hjustifies
  rcases List.mem_cons.mp hrow with rfl | hrow
  · cases hjustifies
  · rcases List.mem_cons.mp hrow with rfl | hrow
    · -- the row of the kind
      have hdetail : (q.row (q.identifier h)).Justifies symbol := hjustifies
      cases q <;> cases hdetail
    · obtain ⟨edge, -, rfl⟩ := List.mem_map.mp hrow
      cases hjustifies

/-- An accepted element records the symbols that its own rows depend on. -/
theorem mem_hard_iff_of_source (h : em.Source setting) (symbol : Symbol) :
    symbol ∈ em.hard ↔ ∃ row ∈ em.rows, row.Justifies symbol := by
  cases h with
  | search p s hs =>
    obtain ⟨-, header, q, -, -, rfl⟩ := PlacedSearch.search?_eq_some hs
    constructor
    · intro hsymbol
      cases hsymbol
    · rintro ⟨row, hrow, hjustifies⟩
      exact absurd hjustifies (q.not_justifies header hrow symbol)
  | searchReference id =>
    constructor
    · intro hsymbol
      cases hsymbol
    · rintro ⟨row, hrow, -⟩
      cases hrow
  | @grant kind target objectId componentId e htarget g =>
    have hkind := symbolKindOfTable?_of_grantTarget? htarget
    constructor
    · intro hsymbol
      refine ⟨.permissionGrant g.row, List.mem_singleton.mpr rfl, ?_⟩
      rcases List.mem_cons.mp hsymbol with rfl | hsymbol
      · exact .object g.row target.symbol hkind
      · obtain rfl := List.mem_singleton.mp hsymbol
        exact .grantComponent g.row
    · rintro ⟨row, hrow, hjustifies⟩
      obtain rfl : row = .permissionGrant g.row := List.mem_singleton.mp hrow
      cases hjustifies with
      | object row kind hkind' =>
        obtain rfl : target.symbol = kind := Option.some.inj (hkind.symm.trans hkind')
        exact List.mem_cons_self
      | grantComponent row => exact List.mem_cons_of_mem _ (List.mem_singleton.mpr rfl)
  | @eventSource componentId e s =>
    constructor
    · intro hsymbol
      obtain rfl : symbol = ⟨.component, componentId⟩ := List.mem_singleton.mp hsymbol
      -- the row of the message file is always there
      let row := EventSource.writtenRow componentId s.key ("EventMessageFile", "#%" ++ s.file)
      have hrow : Row.registry row ∈ s.emission.rows := List.mem_map_of_mem List.mem_cons_self
      exact ⟨.registry row, hrow, .valueComponent row⟩
    · rintro ⟨row, hrow, hjustifies⟩
      obtain ⟨value, hvalue, rfl⟩ := List.mem_map.mp hrow
      obtain ⟨text, -, rfl⟩ := List.mem_map.mp hvalue
      cases hjustifies with
      | valueComponent row => exact List.mem_singleton.mpr rfl

theorem declared_of_source (h : em.Source setting) :
    ∀ symbol ∈ em.hard, symbol ∈ setting.declared := by
  intro symbol hsymbol
  cases h with
  | search p s hs => cases hsymbol
  | searchReference id => cases hsymbol
  | grant htarget g =>
    rcases List.mem_cons.mp hsymbol with rfl | hsymbol
    · exact g.object_declared
    · obtain rfl := List.mem_singleton.mp hsymbol
      exact g.component_declared
  | eventSource s =>
    obtain rfl := List.mem_singleton.mp hsymbol
    exact s.component_declared

/-- The action has its name where it is built, and is not built for 32-bit ARM. -/
theorem of_actionName? {config : Config} {name : String}
    (h : config.actionName? .secureObjects = some name) :
    name = grantAction config ∧ config.platform ≠ .arm := by
  unfold Config.actionName? at h
  split at h
  · rename_i hsupported
    refine ⟨(Option.some.inj h).symm, ?_⟩
    intro harm
    rw [harm] at hsupported
    exact absurd hsupported (by decide)
  · cases h

/-- An accepted element is no grant and needs no action, or it is a grant and needs the one. -/
theorem grants_of_source (h : em.Source setting) :
    (em.actions = [] ∧ ∀ row ∈ em.rows, row.table ≠ .permissionGrant) ∨
      ∃ row : PermissionGrantRow, em.rows = [.permissionGrant row] ∧
        em.actions = [grantAction setting.config] ∧ setting.config.platform ≠ .arm ∧
        (symbolKindOfTable? row.objectTable).isSome = true := by
  cases h with
  | search p s hs =>
    obtain ⟨-, header, q, -, -, rfl⟩ := PlacedSearch.search?_eq_some hs
    refine .inl ⟨rfl, ?_⟩
    intro row hrow htable
    -- every grant depends on its component, and no row of a search depends on anything
    cases row with
    | permissionGrant row => exact q.not_justifies header hrow _ (.grantComponent row)
    | _ => cases htable
  | searchReference id => exact .inl ⟨rfl, fun _ hrow => absurd hrow List.not_mem_nil⟩
  | grant htarget g =>
    obtain ⟨haction, harm⟩ := of_actionName? g.action_built
    refine .inr ⟨g.row, rfl, congrArg (fun name => [name]) haction, harm, ?_⟩
    have hkind : symbolKindOfTable? g.row.objectTable = some _ :=
      symbolKindOfTable?_of_grantTarget? htarget
    rw [hkind]
    rfl
  | eventSource s =>
    refine .inl ⟨rfl, ?_⟩
    intro row hrow htable
    obtain ⟨value, -, rfl⟩ := List.mem_map.mp hrow
    cases htable

end Source

/-! ## Steps and runs -/

theorem rows_add_of_table_ne {o : Output} {em : Emission} {table : Table}
    (h : ∀ row ∈ em.rows, row.table ≠ table) :
    (o.add em).tables.rows table = o.tables.rows table := by
  have hnone : em.rows.filter (·.table == table) = [] := by
    rw [List.filter_eq_nil_iff]
    intro row hrow
    simpa using h row hrow
  rw [Output.rows_add, hnone, grow_nil]

namespace ReferencesJustified

variable {setting : Setting} {o : Output} {em : Emission}

theorem add (h : ReferencesJustified setting o) (hem : em.Source setting) :
    ReferencesJustified setting (o.add em) := by
  have hhard : ∀ symbol, symbol ∈ (o.add em).references.hard ↔
      symbol ∈ o.references.hard ∨ symbol ∈ em.hard := fun _ => References.mem_hard_addAll
  have hgrants := grants_of_source hem
  refine ⟨?hard, ?objects, ?declared, ?actions, ?arm⟩
  case hard =>
    intro symbol
    rw [hhard, h.hard, mem_hard_iff_of_source hem]
    simp only [Output.mem_all_add]
    constructor
    · rintro (⟨row, hrow, hjustifies⟩ | ⟨row, hrow, hjustifies⟩)
      · exact ⟨row, .inl hrow, hjustifies⟩
      · exact ⟨row, .inr hrow, hjustifies⟩
    · rintro ⟨row, hrow | hrow, hjustifies⟩
      · exact .inl ⟨row, hrow, hjustifies⟩
      · exact .inr ⟨row, hrow, hjustifies⟩
  case objects =>
    intro row hrow
    rcases Output.mem_all_add.mp hrow with hold | hnew
    · exact h.objects row hold
    · obtain ⟨-, hno⟩ | ⟨row', hrows, -, -, hobject⟩ := hgrants
      · exact absurd rfl (hno _ hnew)
      · rw [hrows] at hnew
        cases List.mem_singleton.mp hnew
        exact hobject
  case declared =>
    intro symbol hsymbol
    rcases (hhard symbol).mp hsymbol with hold | hnew
    · exact h.declared symbol hold
    · exact declared_of_source hem symbol hnew
  case actions =>
    have hactions : (o.add em).references.actions =
        SortedList.insertAll (fun a b => a < b) em.actions o.references.actions := rfl
    obtain ⟨hnone, hno⟩ | ⟨row, hrows, hone, -, -⟩ := hgrants
    · rw [hactions, hnone, rows_add_of_table_ne hno]
      exact h.actions
    · -- the action is there from the first grant on
      have hsome : (o.add em).tables.rows .permissionGrant ≠ [] := by
        apply List.ne_nil_of_mem (a := Row.permissionGrant row)
        rw [Output.rows_add, hrows, mem_grow]
        exact .inr List.mem_cons_self
      rw [hactions, hone, if_neg hsome, h.actions]
      split
      · rfl
      · simp [SortedList.insertAll, SortedList.insert]
  case arm =>
    intro harm
    obtain ⟨-, hno⟩ | ⟨row, -, -, hnot, -⟩ := hgrants
    · rw [rows_add_of_table_ne hno]
      exact h.arm harm
    · exact absurd harm hnot

end ReferencesJustified

/-- In every state that a session leads to, symbols and actions are recorded for the rows that need
them, and for nothing else. -/
theorem referencesJustified_session (setting : Setting) (v : Vocabulary)
    (steps : List (Enclosure × Element)) :
    ReferencesJustified setting
      ((UnitState.start setting.config).session setting v steps).output :=
  UnitState.output_induction (referencesJustified_empty setting) (fun _ _ h hem => h.add hem) steps

/-- A grant that is emitted records its object, its component and the action, once each. -/
theorem referencesJustified_session_readGrant :
    let steps := [(Enclosure.host grantedFile, readGrant), (.host grantedFile, readGrant)]
    let o := ((UnitState.start grantSetting.config).session grantSetting .full steps).output
    o.references.hard = [⟨.component, "App"⟩, ⟨.file, "App.exe"⟩] ∧
      o.references.actions = ["Wix4SchedSecureObjects_X86"] ∧
      ReferencesJustified grantSetting o :=
  ⟨by decide +kernel, by decide +kernel, referencesJustified_session grantSetting .full _⟩

end InstallMarkup
