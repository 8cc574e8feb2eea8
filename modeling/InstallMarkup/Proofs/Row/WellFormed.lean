import InstallMarkup.Proofs.Reading.Values
import InstallMarkup.Proofs.Run.Sessions

/-!
# Well-formed rows

Rows hold texts and masks, and their types admit any of them. What may really stand in a row is said
by `Row.WellFormed`, table by table. Only well-formed rows reach the tables, in every state that a
session leads to (`wellFormed_session`).

Where an attribute has no legal value, the rest of the row is put together with a default, or not at
all; so the masks are well-formed for every element, and all other columns come from readings that
have given a value.
-/

namespace InstallMarkup

/-! ## Sets of flags -/

namespace FlagSet

variable {flags : List Flag}

/-- All flags of `t` belong to `s`. -/
def Includes (s t : FlagSet flags) : Prop := s.bits &&& t.bits = t.bits

/-- All bits of `s` are bits of `t`. -/
def Within (s t : FlagSet flags) : Prop := s.bits &&& ~~~t.bits = 0

instance (s t : FlagSet flags) : Decidable (s.Includes t) :=
  inferInstanceAs (Decidable (_ = _))

instance (s t : FlagSet flags) : Decidable (s.Within t) :=
  inferInstanceAs (Decidable (_ = _))

end FlagSet

/-- The mask of a file or directory search: it is for one of the two, with one result at most, and
only files have versions. -/
def FileSearchFlags.Legal (s : FileSearchFlags) : Prop :=
  (s.Includes plainFile ↔ ¬ s.Includes isDirectory) ∧
    ¬ (s.Includes wantExists ∧ s.Includes wantVersion) ∧
    (s.Includes wantVersion → s.Includes plainFile) ∧
    s.Within (((plainFile.union isDirectory).union wantExists).union wantVersion)

instance (s : FileSearchFlags) : Decidable s.Legal :=
  inferInstanceAs (Decidable (_ ∧ _))

/-- The mask of a component search: just one result. -/
def ComponentSearchFlags.Legal (s : ComponentSearchFlags) : Prop :=
  s ∈ [keyPath, state, wantDirectory]

instance (s : ComponentSearchFlags) : Decidable s.Legal :=
  inferInstanceAs (Decidable (_ ∈ _))

/-- The mask of a product search: just one result, for a product code or for an upgrade code. -/
def ProductSearchFlags.Legal (s : ProductSearchFlags) : Prop :=
  ∃ result ∈ [version, language, state, assignment], s = result ∨ s = result.union upgradeCode

instance (s : ProductSearchFlags) : Decidable s.Legal :=
  inferInstanceAs (Decidable (∃ _ ∈ _, _))

/-- The mask of a registry search: one form and one result, environment variables replaced in values
only, and no bit that is not declared. -/
def RegistrySearchFlags.Legal (s : RegistrySearchFlags) : Prop :=
  (s.Includes raw ↔ ¬ s.Includes compatible) ∧ (s.Includes wantValue ↔ ¬ s.Includes wantExists) ∧
    (s.Includes expandEnvironmentVariables → s.Includes wantValue) ∧ s.undeclared = 0

instance (s : RegistrySearchFlags) : Decidable s.Legal :=
  inferInstanceAs (Decidable (_ ∧ _))

/-! ## Rows -/

/-- The row of a search: its variable is a legal identifier, and none of the engine's own in any
case of letters unless those are allowed. -/
structure SearchRow.WellFormed (config : Config) (row : SearchRow) : Prop where
  legal : Identifier.isLegal row.variableName = true
  notBuiltin : config.allowBuiltinVariables = false → ∀ builtin ∈ builtinVariables,
    builtin.map Char.toLower ≠ row.variableName.map Char.toLower
  condition : row.condition ≠ some ""

structure FileSearchRow.WellFormed (row : FileSearchRow) : Prop where
  path : row.path ≠ ""
  flags : row.flags.Legal

structure ComponentSearchRow.WellFormed (row : ComponentSearchRow) : Prop where
  guid : Guid.IsCanonical row.componentGuid
  productCode : ∀ code, row.productCode = some code → Guid.IsCanonical code
  flags : row.flags.Legal

structure ProductSearchRow.WellFormed (row : ProductSearchRow) : Prop where
  code : Guid.IsCanonical row.code
  flags : row.flags.Legal

structure RegistrySearchRow.WellFormed (row : RegistrySearchRow) : Prop where
  key : row.key ≠ ""
  value : row.value ≠ some ""
  flags : row.flags.Legal

/-- A mask that rights of an object come to: the union of the masks of some of them. -/
def ObjectKind.Grants (kind : ObjectKind) (mask : UInt32) : Prop :=
  ∃ masks : List UInt32, (∀ bits ∈ masks, ∃ right, kind.mask? right = some bits) ∧
    mask = masks.foldl (· ||| ·) 0

/-- The row of a grant: someone has rights on an object of some kind, and not generic reading
alone. -/
structure PermissionGrantRow.WellFormed (row : PermissionGrantRow) : Prop where
  user : row.user ≠ ""
  domain : row.domain ≠ some ""
  rights : ∃ kind : ObjectKind, row.objectTable = kind.table ∧ kind.Grants row.permission
  readable : row.permission ≠ AccessMask.genericReadOnly

/-- A registry value of an event source, by its name and its text. -/
inductive EventSource.LegalValue : String → String → Prop
  /-- A file, in whose path variables are replaced. -/
  | file (name path : String)
      (hname : name ∈ ["EventMessageFile", "CategoryMessageFile", "ParameterMessageFile"])
      (hpath : path ≠ "") : LegalValue name ("#%" ++ path)
  /-- A number of categories. -/
  | count (n : UInt32) : LegalValue "CategoryCount" ("#" ++ toString n.toNat)
  /-- Some of the five types of events, but not none. -/
  | types (bits : UInt32) (hsome : bits ≠ 0) (hknown : bits &&& ~~~0x1f = 0) :
      LegalValue "TypesSupported" ("#" ++ toString bits.toNat)

/-- The row of a registry value: a value of an event source, under the key of its log, with an
identifier that is computed from its place. -/
structure RegistryRow.WellFormed (row : RegistryRow) : Prop where
  id : row.id = .ofMaterial .registryValue (Identifier.material .registryValue
    [some row.componentId, some (toString row.root.code.toInt), some row.key, row.name])
  root : row.root = .localMachine
  key : ∃ log source, log ≠ "" ∧ source ≠ "" ∧
    row.key = EventSource.logKey ++ "\\" ++ log ++ "\\" ++ source
  value : ∃ name text, row.name = some name ∧ row.value = some text ∧
    EventSource.LegalValue name text

/-- What may stand in a row. Relations hold identifiers only. -/
def Row.WellFormed (config : Config) : Row → Prop
  | .search row => row.WellFormed config
  | .searchRelation _ => True
  | .fileSearch row => row.WellFormed
  | .componentSearch row => row.WellFormed
  | .productSearch row => row.WellFormed
  | .registrySearch row => row.WellFormed
  | .permissionGrant row => row.WellFormed
  | .registry row => row.WellFormed

/-- All rows are well-formed. -/
def Tables.WellFormed (config : Config) (t : Tables) : Prop :=
  ∀ row ∈ t.all, row.WellFormed config

/-! ## Searches -/

section Searches

variable {config : Config} {e : Element}

/-- A text that is set is not empty, whether it has to be there or not. -/
theorem setting?_text_ne (e : Element) (element name : String) :
    setting? e.attributes name (·.text element) ≠ some "" := by
  intro hset
  have hne : "" ≠ "" := of_setting? (fun _ _ hread => ne_empty_of_text hread) hset
  exact hne rfl

theorem wellFormed_of_header {p : PlacedSearch} {h : SearchHeader}
    (hheader : (p.header config).value = some h) (id : Identifier) :
    SearchRow.WellFormed config
      { id, variableName := h.variableName, condition := h.condition } := by
  obtain ⟨name, hname, rfl⟩ := Option.map_eq_some_iff.mp hheader
  obtain ⟨a, -, -, hread⟩ := exists_read_of_setting? hname
  obtain ⟨hidentifier, hbuiltin⟩ := of_readVariable hread
  refine ⟨isLegal_of_identifier hidentifier, ?_, setting?_text_ne p.element _ _⟩
  intro hallow builtin hmem
  have hno := hbuiltin hallow
  rw [isBuiltinVariable, List.any_eq_false] at hno
  simpa using hno builtin hmem

/-- A path query makes a well-formed row, if the masks with all its results are legal. -/
theorem wellFormed_of_pathQuery {element : String} {results : List (String × FileSearchFlags)}
    {base : FileSearchFlags} {q : PathQuery}
    (hlegal : ∀ result ∈ FlagSet.empty :: results.map (·.2),
      FileSearchFlags.Legal (base.union result))
    (hq : (PathQuery.assess element results base e).value = some q) (id : Identifier) :
    FileSearchRow.WellFormed { id, path := q.path, flags := q.flags } := by
  obtain ⟨path, hpath, rfl⟩ := Option.map_eq_some_iff.mp hq
  exact ⟨of_setting? (fun _ _ hread => ne_empty_of_text hread) hpath,
    hlegal _ (getD_choice_mem results element e.attributes "Result" .empty)⟩

theorem wellFormed_of_componentQuery {q : ComponentQuery}
    (hq : (ComponentQuery.assess e).value = some q) (id : Identifier) :
    ComponentSearchRow.WellFormed
      { id, componentGuid := q.guid, productCode := q.productCode, flags := q.flags } := by
  have hlegal : ∀ result ∈ ComponentSearchFlags.keyPath :: ComponentQuery.results.map (·.2),
      ComponentSearchFlags.Legal result := by decide
  obtain ⟨guid, hguid, rfl⟩ := Option.map_eq_some_iff.mp hq
  exact ⟨of_setting? (fun _ _ hread => isCanonical_of_guid hread) hguid,
    fun code hcode => of_setting? (fun _ _ hread => isCanonical_of_guid hread) hcode,
    hlegal _ (getD_choice_mem _ _ _ _ _)⟩

theorem wellFormed_of_productQuery {q : ProductQuery}
    (hq : (ProductQuery.assess e).value = some q) (id : Identifier) :
    ProductSearchRow.WellFormed { id, code := q.code, flags := q.flags } := by
  have hlegal : ∀ result ∈ ProductSearchFlags.version :: ProductQuery.results.map (·.2),
      ProductSearchFlags.Legal result ∧
        ProductSearchFlags.Legal (result.union ProductSearchFlags.upgradeCode) := by decide
  have hresult := hlegal _ (getD_choice_mem ProductQuery.results ProductQuery.element e.attributes
    "Result" ProductSearchFlags.version)
  have hcode : ∀ {name code}, setting? e.attributes name (·.guid ProductQuery.element) = some code →
      Guid.IsCanonical code := fun hset =>
    of_setting? (fun _ _ hread => isCanonical_of_guid hread) hset
  unfold ProductQuery.assess ProductQuery.ofSettings at hq
  dsimp only at hq
  split at hq
  · cases hq
  · split at hq
    · rename_i code hupgrade
      cases hq
      exact ⟨hcode hupgrade, hresult.2⟩
    · obtain ⟨code, hproduct, rfl⟩ := Option.map_eq_some_iff.mp hq
      refine ⟨?_, hresult.1⟩
      -- the code is the one of the new name, or the one of the old
      rcases Option.or_eq_some_iff.mp hproduct with hnew | ⟨-, hold⟩
      · exact hcode hnew
      · exact hcode hold

theorem legal_effectiveFlags (h : RegistryQuery.contradicts e = false) :
    RegistrySearchFlags.Legal (RegistryQuery.effectiveFlags e) := by
  have hlegal : ∀ result ∈ RegistrySearchFlags.wantValue :: RegistryQuery.results.map (·.2),
      ∀ format ∈ RegistrySearchFlags.raw :: RegistryQuery.formats.map (·.2), ∀ expands wide : Bool,
        (expands && result == RegistrySearchFlags.wantExists) = false →
          let base := result.union format
          let base :=
            if expands then base.union RegistrySearchFlags.expandEnvironmentVariables else base
          RegistrySearchFlags.Legal
            (if wide then base.union RegistrySearchFlags.win64 else base) := by decide
  exact hlegal _ (getD_choice_mem _ _ _ _ _) _ (getD_choice_mem _ _ _ _ _)
    (RegistryQuery.expands e) (RegistryQuery.searches64 e) h

theorem wellFormed_of_registryQuery {q : RegistryQuery}
    (hq : (RegistryQuery.assess e).value = some q) (id : Identifier) :
    RegistrySearchRow.WellFormed
      { id, root := q.root, key := q.key, value := q.value, flags := q.flags } := by
  unfold RegistryQuery.assess RegistryQuery.ofSettings at hq
  dsimp only at hq
  split at hq
  · cases hq
  · rename_i hcontradicts
    split at hq
    · rename_i root key hroot hkey
      cases hq
      exact ⟨of_setting? (fun _ _ hread => ne_empty_of_text hread) hkey, setting?_text_ne e _ _,
        legal_effectiveFlags (by simpa using hcontradicts)⟩
    · cases hq

theorem wellFormed_of_query {kind : SearchKind} {q : SearchQuery}
    (hq : (kind.assessQuery e).value = some q) (id : Identifier) :
    (q.row id).WellFormed config := by
  cases kind with
  | component =>
    obtain ⟨query, hquery, rfl⟩ := Option.map_eq_some_iff.mp hq
    exact wellFormed_of_componentQuery hquery id
  | directory =>
    obtain ⟨query, hquery, rfl⟩ := Option.map_eq_some_iff.mp hq
    exact wellFormed_of_pathQuery (by decide) hquery id
  | file =>
    obtain ⟨query, hquery, rfl⟩ := Option.map_eq_some_iff.mp hq
    exact wellFormed_of_pathQuery (by decide) hquery id
  | product =>
    obtain ⟨query, hquery, rfl⟩ := Option.map_eq_some_iff.mp hq
    exact wellFormed_of_productQuery hquery id
  | registry =>
    obtain ⟨query, hquery, rfl⟩ := Option.map_eq_some_iff.mp hq
    exact wellFormed_of_registryQuery hquery id

end Searches

/-! ## Grants -/

/-- Answers add the masks of the rights that are granted to what was granted before. -/
theorem bits_of_answerAll {kind : ObjectKind} {m m' : AccessMask kind}
    {answers : List (String × Bool)} (h : m.answerAll answers = .ok m') :
    ∃ masks : List UInt32, (∀ bits ∈ masks, ∃ right, kind.mask? right = some bits) ∧
      m'.bits = masks.foldl (· ||| ·) m.bits := by
  induction answers generalizing m with
  | nil =>
    cases h
    exact ⟨[], fun _ hbits => absurd hbits List.not_mem_nil, rfl⟩
  | cons answer rest ih =>
    obtain ⟨name, granted⟩ := answer
    unfold AccessMask.answerAll AccessMask.answer? at h
    cases hright : kind.mask? name with
    | none => simp [hright] at h
    | some bits =>
      simp only [hright] at h
      cases granted with
      | false => exact ih h
      | true =>
        obtain ⟨masks, hmasks, hbits⟩ := ih h
        refine ⟨bits :: masks, ?_, hbits⟩
        intro x hx
        rcases List.mem_cons.mp hx with rfl | hx
        · exact ⟨name, hright⟩
        · exact hmasks x hx

/-- A mask that is encoded is granted by rights of the object, and is not the reserved one. -/
theorem grants_of_mask? {kind : ObjectKind} {attributes : List Attribute} {mask : UInt32}
    (h : PermissionGrant.mask? kind attributes = some mask) :
    kind.Grants mask ∧ mask ≠ AccessMask.genericReadOnly := by
  unfold PermissionGrant.mask? AccessMask.encode AccessMask.finished? at h
  cases hanswers : (AccessMask.empty : AccessMask kind).answerAll
      (PermissionGrant.answers kind attributes) with
  | error e => simp [hanswers] at h
  | ok m =>
    obtain ⟨masks, hmasks, hbits⟩ := bits_of_answerAll hanswers
    by_cases hreserved : m.bits = AccessMask.genericReadOnly
    · simp [hanswers, hreserved] at h
    · obtain rfl : m.bits = mask := by simpa [hanswers, hreserved] using h
      exact ⟨⟨masks, hmasks, hbits⟩, hreserved⟩

theorem AcceptedGrant.wellFormed_row {config : Config} {declared : List Symbol}
    {target : GrantTarget} {objectId componentId : String} {e : Element}
    (g : AcceptedGrant config declared target objectId componentId e) : g.row.WellFormed := by
  obtain ⟨hgrants, hreadable⟩ := grants_of_mask? g.permission_read
  exact ⟨of_setting? (fun _ _ hread => ne_empty_of_text hread) g.user_read,
    setting?_text_ne e _ _, ⟨target.object, rfl, hgrants⟩, hreadable⟩

/-! ## Event sources -/

namespace EventSource

/-- A union has no bits outside of a mask if neither part has. -/
theorem or_and_eq_zero {a b c : UInt32} (ha : a &&& c = 0) (hb : b &&& c = 0) :
    (a ||| b) &&& c = 0 := by
  rw [← UInt32.toBitVec_inj] at ha hb ⊢
  rw [UInt32.toBitVec_and] at ha hb
  rw [UInt32.toBitVec_and, UInt32.toBitVec_or, BitVec.and_or_distrib_right, ha, hb]
  rfl

/-- Only the five bits of the types of events are announced. -/
theorem typesSupported_within (attributes : List Attribute) :
    typesSupported attributes &&& ~~~0x1f = 0 := by
  have hknown : ∀ type ∈ eventTypes, type.2 &&& ~~~0x1f = 0 := by decide
  refine List.foldlRecOn eventTypes _ (motive := fun bits => bits &&& ~~~0x1f = 0) rfl ?_
  rintro bits hbits ⟨name, bit⟩ hmem
  show (if setting? attributes name (·.yesNo element) = some true then bits ||| bit else bits) &&&
    ~~~0x1f = 0
  split
  · exact or_and_eq_zero hbits (hknown (name, bit) hmem)
  · exact hbits

theorem legal_optionalValues {attributes : List Attribute} {name text : String}
    (h : (name, text) ∈ optionalValues attributes) : LegalValue name text := by
  have hpath : ∀ {wanted path}, setting? attributes wanted (·.text element) = some path →
      path ≠ "" := fun hset => of_setting? (fun _ _ hread => ne_empty_of_text hread) hset
  unfold optionalValues at h
  rcases List.mem_append.mp h with h | h
  · rcases List.mem_append.mp h with h | h
    · -- the file of the categories and their number
      split at h
      · rename_i file count hfile hcount
        rcases List.mem_cons.mp h with hvalue | h
        · cases hvalue
          exact .file _ file (by simp) (hpath hfile)
        · cases List.mem_singleton.mp h
          exact .count count
      · cases h
    · -- the file of the parameters
      obtain ⟨file, hfile, hvalue⟩ := List.mem_map.mp h
      cases hvalue
      exact .file _ file (by simp) (hpath (Option.mem_toList.mp hfile))
  · -- the types of events
    split at h
    · cases h
    · rename_i hsome
      cases List.mem_singleton.mp h
      exact .types _ hsome (typesSupported_within attributes)

end EventSource

theorem AcceptedEventSource.wellFormed_rows {declared : List Symbol} {componentId : String}
    {e : Element} (s : AcceptedEventSource declared componentId e) :
    ∀ row ∈ s.rows, row.WellFormed := by
  have htext : ∀ {name text}, setting? e.attributes name (·.text EventSource.element) = some text →
      text ≠ "" := fun hset => of_setting? (fun _ _ hread => ne_empty_of_text hread) hset
  intro row hrow
  obtain ⟨⟨name, text⟩, hvalue, rfl⟩ := List.mem_map.mp hrow
  have hlegal : EventSource.LegalValue name text := by
    rcases List.mem_cons.mp hvalue with hfirst | hrest
    · cases hfirst
      exact .file _ s.file (by simp) (htext s.file_read)
    · exact EventSource.legal_optionalValues hrest
  exact ⟨rfl, rfl, ⟨s.log, s.name, htext s.log_read, htext s.name_read, rfl⟩,
    ⟨name, text, rfl, rfl, hlegal⟩⟩

/-! ## Emissions and sessions -/

theorem wellFormed_of_source {setting : Setting} {em : Emission} (h : em.Source setting) :
    ∀ row ∈ em.rows, row.WellFormed setting.config := by
  intro row hrow
  cases h with
  | search p s hs =>
    obtain ⟨-, header, q, hheader, hquery, rfl⟩ := PlacedSearch.search?_eq_some hs
    rcases List.mem_cons.mp hrow with rfl | hrow
    · exact wellFormed_of_header hheader _
    · rcases List.mem_cons.mp hrow with rfl | hrow
      · exact wellFormed_of_query hquery _
      · obtain ⟨edge, -, rfl⟩ := List.mem_map.mp hrow
        trivial
  | searchReference id => cases hrow
  | grant htarget g =>
    obtain rfl := List.mem_singleton.mp hrow
    exact g.wellFormed_row
  | eventSource s =>
    obtain ⟨value, hvalue, rfl⟩ := List.mem_map.mp hrow
    exact s.wellFormed_rows value hvalue

theorem Tables.WellFormed.add {setting : Setting} {o : Output} {em : Emission}
    (h : o.tables.WellFormed setting.config) (hem : em.Source setting) :
    (o.add em).tables.WellFormed setting.config := by
  intro row hrow
  rcases Output.mem_all_add.mp hrow with hold | hnew
  · exact h row hold
  · exact wellFormed_of_source hem row hnew

/-- In every state that a session leads to, all rows are well-formed. -/
theorem wellFormed_session (setting : Setting) (v : Vocabulary)
    (steps : List (Enclosure × Element)) : Tables.WellFormed setting.config
      ((UnitState.start setting.config).session setting v steps).output.tables :=
  UnitState.output_induction (P := fun o => o.tables.WellFormed setting.config)
    (fun _ hrow => absurd hrow List.not_mem_nil) (fun _ _ h hem => h.add hem) steps

/-- A grant that is emitted has a row, and it is well-formed. -/
theorem wellFormed_session_readGrant :
    let steps := [(Enclosure.host grantedFile, readGrant)]
    let t := ((UnitState.start grantSetting.config).session grantSetting .full steps).output.tables
    t.all = [.permissionGrant
        { objectId := "App.exe", objectTable := "File", user := "Everyone", permission := 1
          componentId := "App" }] ∧
      t.WellFormed grantSetting.config :=
  ⟨by decide +kernel, wellFormed_session grantSetting .full _⟩

end InstallMarkup
