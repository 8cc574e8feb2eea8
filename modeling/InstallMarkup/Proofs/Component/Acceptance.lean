import InstallMarkup.Proofs.Reading.Clean
import InstallMarkup.Vocabulary

/-!
# Accepted elements of components

Grants and event sources belong to a component. What such an element emits is told here by a record
of its own, `AcceptedGrant` or `AcceptedEventSource`: the values that were read, each with the
reading that gave it, and the facts that were checked about symbols and actions.

* **acceptance is cleanness**: the element emits something exactly if it raised no error
  (`isSome_value_assessOn`, `assessOn_eq`), so no value can be absent without a diagnostic;
* **acceptance tells everything**: what is emitted is the emission of such a record
  (`accepted_of_value`, `assessOn_eq`);
* **no faults**: the rows of an event source can always be named (`registryRows_eq`).
-/

namespace InstallMarkup

/-! ## Requirements -/

theorem Symbol.require_of_clean {symbol : Symbol} {declared : List Symbol}
    {location : SourceLocation} {strict : Bool}
    (h : Assessment.clean strict (Reading.faults (symbol.require declared location)) = true) :
    symbol ∈ declared ∧ symbol.require declared location = .ok symbol := by
  unfold Symbol.require at h ⊢
  by_cases hmem : symbol ∈ declared
  · exact ⟨hmem, if_pos hmem⟩
  · rw [if_neg hmem] at h
    have hnot := Assessment.isError_of_clean h (List.mem_singleton.mpr rfl)
    exact absurd hnot (by simp [Diagnostic.undefinedSymbol, Diagnostic.errorAt, Diagnostic.isError])

theorem NativeAction.require_of_clean {action : NativeAction} {config : Config} {element : String}
    {location : SourceLocation} {strict : Bool}
    (h : Assessment.clean strict (Reading.faults (action.require config element location)) = true) :
    ∃ name, config.actionName? action = some name ∧
      action.require config element location = .ok name := by
  unfold NativeAction.require at h ⊢
  cases hname : config.actionName? action with
  | some name => exact ⟨name, rfl, rfl⟩
  | none =>
    rw [hname] at h
    have hnot := Assessment.isError_of_clean h (List.mem_singleton.mpr rfl)
    exact absurd hnot
      (by simp [Diagnostic.unsupportedPlatform, Diagnostic.errorAt, Diagnostic.isError])

/-! ## Grants -/

/-- A grant that can be emitted: what was read from its attributes, and what was checked. -/
structure AcceptedGrant (config : Config) (declared : List Symbol) (target : GrantTarget)
    (objectId componentId : String) (e : Element) where
  user : String
  permission : UInt32
  action : String
  user_read : setting? e.attributes "User" (·.text PermissionGrant.element) = some user
  permission_read : PermissionGrant.mask? target.object e.attributes = some permission
  object_declared : ⟨target.symbol, objectId⟩ ∈ declared
  component_declared : ⟨.component, componentId⟩ ∈ declared
  action_built : config.actionName? .secureObjects = some action

namespace AcceptedGrant

variable {config : Config} {declared : List Symbol} {target : GrantTarget}
  {objectId componentId : String} {e : Element}

/-- The row that is written for the grant. -/
def row (g : AcceptedGrant config declared target objectId componentId e) : PermissionGrantRow where
  objectId := objectId
  objectTable := target.object.table
  domain := setting? e.attributes "Domain" (·.text PermissionGrant.element)
  user := g.user
  permission := g.permission
  componentId := componentId

/-- What is emitted for the grant. -/
def emission (g : AcceptedGrant config declared target objectId componentId e) : Emission :=
  .grant g.row ⟨target.symbol, objectId⟩ ⟨.component, componentId⟩ g.action

end AcceptedGrant

namespace PermissionGrant

variable (config : Config) (declared : List Symbol) (target : GrantTarget)
  (objectId componentId : String) (e : Element)

/-- The complaint about a grant that comes to generic reading alone. -/
def maskFaults : List Diagnostic :=
  if (mask? target.object e.attributes).isNone then
    [genericReadAlone target.object objectId e.location]
  else []

/-- Everything that a grant raises: attribute by attribute, then about what is missing, what is
nested in it and what it comes to, and last about what it requires. -/
def faults : List Diagnostic :=
  AttributeRule.checkAll (rules target.object) element e.attributes ++
    missingAttributes ["User"] element e ++ unexpectedChildren element e ++
    maskFaults target objectId e ++
    Reading.faults (Symbol.require ⟨target.symbol, objectId⟩ declared e.location) ++
    Reading.faults (Symbol.require ⟨.component, componentId⟩ declared e.location) ++
    Reading.faults (NativeAction.secureObjects.require config element e.location)

/-- A grant is emitted if all its parts are there and none of the faults counts as an error. -/
theorem assessOn_eq_match : assessOn config declared target objectId componentId e =
    match setting? e.attributes "User" (·.text element), mask? target.object e.attributes,
      Symbol.require ⟨target.symbol, objectId⟩ declared e.location,
      Symbol.require ⟨.component, componentId⟩ declared e.location,
      NativeAction.secureObjects.require config element e.location with
    | some user, some permission, .ok object, .ok component, .ok action =>
      if Assessment.clean config.warningsAsErrors
          (faults config declared target objectId componentId e) then
        ⟨faults config declared target objectId componentId e,
          some (.grant
            { objectId
              objectTable := target.object.table
              domain := setting? e.attributes "Domain" (·.text element)
              user, permission, componentId } object component action)⟩
      else .rejected (faults config declared target objectId componentId e)
    | _, _, _, _, _ => .rejected (faults config declared target objectId componentId e) := rfl

theorem raised_assessOn :
    (assessOn config declared target objectId componentId e).raised =
      faults config declared target objectId componentId e := by
  rw [assessOn_eq_match]
  split
  · split <;> rfl
  · rfl

variable {config declared target objectId componentId e}

theorem exists_accepted_of_clean (h : Assessment.clean config.warningsAsErrors
    (faults config declared target objectId componentId e) = true) :
    ∃ g : AcceptedGrant config declared target objectId componentId e,
      (assessOn config declared target objectId componentId e).value = some g.emission := by
  have hclean := h
  simp only [faults, Assessment.clean_append, Bool.and_eq_true] at h
  obtain ⟨⟨⟨⟨⟨⟨hattributes, hmissing⟩, -⟩, hmask⟩, hobject⟩, hcomponent⟩, haction⟩ := h
  have hhas : e.has "User" = true := has_of_clean_missing hmissing (List.mem_singleton.mpr rfl)
  have hchecked : Checked (rules target.object) "User" (·.text element) :=
    ⟨_, rfl, fun _ _ hd => hd⟩
  obtain ⟨user, huser⟩ :=
    hchecked.isSome_setting?_of_clean (RaisesErrors.text element) hattributes hhas
  obtain ⟨permission, hpermission⟩ :
      ∃ permission, mask? target.object e.attributes = some permission := by
    cases hread : mask? target.object e.attributes with
    | some permission => exact ⟨permission, rfl⟩
    | none =>
      rw [maskFaults, hread] at hmask
      have hnot := Assessment.isError_of_clean hmask (List.mem_singleton.mpr rfl)
      exact absurd hnot (by simp [genericReadAlone, Diagnostic.errorAt, Diagnostic.isError])
  obtain ⟨hobject, hrequired⟩ := Symbol.require_of_clean hobject
  obtain ⟨hcomponent, hrequired'⟩ := Symbol.require_of_clean hcomponent
  obtain ⟨action, hname, haction⟩ := NativeAction.require_of_clean haction
  refine ⟨⟨user, permission, action, huser, hpermission, hobject, hcomponent, hname⟩, ?_⟩
  rw [assessOn_eq_match, huser, hpermission, hrequired, hrequired', haction]
  simp only [if_pos hclean]
  rfl

theorem isSome_value_assessOn :
    (assessOn config declared target objectId componentId e).value.isSome =
      Assessment.clean config.warningsAsErrors
        (assessOn config declared target objectId componentId e).raised := by
  rw [raised_assessOn]
  cases hclean : Assessment.clean config.warningsAsErrors
      (faults config declared target objectId componentId e) with
  | true =>
    obtain ⟨g, hg⟩ := exists_accepted_of_clean hclean
    rw [hg]
    rfl
  | false =>
    rw [assessOn_eq_match]
    split
    · rw [if_neg (by simp [hclean])]
      rfl
    · rfl

theorem accepted_of_value {em : Emission}
    (h : (assessOn config declared target objectId componentId e).value = some em) :
    ∃ g : AcceptedGrant config declared target objectId componentId e, em = g.emission := by
  have hclean : Assessment.clean config.warningsAsErrors
      (faults config declared target objectId componentId e) = true := by
    rw [← raised_assessOn, ← isSome_value_assessOn, h]
    rfl
  obtain ⟨g, hg⟩ := exists_accepted_of_clean hclean
  exact ⟨g, Option.some.inj (h.symm.trans hg)⟩

end PermissionGrant

/-! ## Event sources -/

namespace EventSource

/-- A registry value as it is written; its identifier is computed from its place. -/
def writtenRow (componentId key : String) (value : String × String) : RegistryRow where
  id := .ofMaterial .registryValue <| Identifier.material .registryValue
    [some componentId, some (toString RegistryRoot.localMachine.code.toInt), some key,
      some value.1]
  root := .localMachine
  key := key
  name := some value.1
  value := some value.2
  componentId := componentId

/-- Registry values supply as many fields as their family hashes. -/
theorem registryRow_eq (componentId key name value : String) :
    registryRow componentId key name value = .ok (writtenRow componentId key (name, value)) := rfl

theorem registryRows_eq (componentId key : String) (values : List (String × String)) :
    registryRows componentId key values = .ok (values.map (writtenRow componentId key)) := by
  induction values with
  | nil => rfl
  | cons value rest ih =>
    obtain ⟨name, text⟩ := value
    simp only [registryRows, registryRow_eq, ih, List.map_cons]

/-- The optional values are read off settings alone. -/
theorem optionalValues_congr {attributes attributes' : List Attribute}
    (htext : ∀ name, setting? attributes name (·.text element) =
      setting? attributes' name (·.text element))
    (hinteger : ∀ name, setting? attributes name (·.integer element) =
      setting? attributes' name (·.integer element))
    (hyesNo : ∀ name, setting? attributes name (·.yesNo element) =
      setting? attributes' name (·.yesNo element)) :
    optionalValues attributes = optionalValues attributes' := by
  have htypes : typesSupported attributes = typesSupported attributes' := by
    refine congrArg (List.foldl · 0 eventTypes) ?_
    funext bits type
    show (if setting? attributes type.1 _ = some true then _ else _) = _
    rw [hyesNo]
  unfold optionalValues
  rw [htext, hinteger, htext, htypes]

end EventSource

/-- An event source that can be emitted: what was read from its attributes, and what was checked. -/
structure AcceptedEventSource (declared : List Symbol) (componentId : String) (e : Element) where
  name : String
  log : String
  file : String
  name_read : setting? e.attributes "Name" (·.text EventSource.element) = some name
  log_read : setting? e.attributes "Log" (·.text EventSource.element) = some log
  file_read : setting? e.attributes "EventMessageFile" (·.text EventSource.element) = some file
  component_declared : ⟨.component, componentId⟩ ∈ declared

namespace AcceptedEventSource

variable {declared : List Symbol} {componentId : String} {e : Element}

/-- The key that all values of the source lie under. -/
def key (s : AcceptedEventSource declared componentId e) : String :=
  EventSource.logKey ++ "\\" ++ s.log ++ "\\" ++ s.name

/-- The names and texts of the values: the message file, and what else is set. -/
def values (s : AcceptedEventSource declared componentId e) : List (String × String) :=
  ("EventMessageFile", "#%" ++ s.file) :: EventSource.optionalValues e.attributes

/-- The rows that are written for the source. -/
def rows (s : AcceptedEventSource declared componentId e) : List RegistryRow :=
  s.values.map (EventSource.writtenRow componentId s.key)

/-- What is emitted for the source. -/
def emission (s : AcceptedEventSource declared componentId e) : Emission :=
  .eventSource s.rows ⟨.component, componentId⟩

end AcceptedEventSource

namespace EventSource

variable (strict : Bool) (declared : List Symbol) (componentId : String) (e : Element)

/-- What an event source of a component comes to. -/
def assessment : Assessment Emission :=
  match setting? e.attributes "Name" (·.text element), setting? e.attributes "Log" (·.text element),
    setting? e.attributes "EventMessageFile" (·.text element),
    Symbol.require ⟨.component, componentId⟩ declared e.location with
  | some name, some log, some file, .ok component =>
    if Assessment.clean strict (faults declared componentId e) then
      ⟨faults declared componentId e, some (.eventSource
        ((("EventMessageFile", "#%" ++ file) :: optionalValues e.attributes).map
          (writtenRow componentId (logKey ++ "\\" ++ log ++ "\\" ++ name))) component)⟩
    else .rejected (faults declared componentId e)
  | _, _, _, _ => .rejected (faults declared componentId e)

/-- An event source meets no fault: its rows can be named. -/
theorem assessOn_eq : assessOn strict declared componentId e =
    .ok (assessment strict declared componentId e) := by
  unfold assessOn assessment
  cases setting? e.attributes "Name" (·.text element) with
  | none => rfl
  | some name =>
    cases setting? e.attributes "Log" (·.text element) with
    | none => rfl
    | some log =>
      cases setting? e.attributes "EventMessageFile" (·.text element) with
      | none => rfl
      | some file =>
        cases Symbol.require ⟨.component, componentId⟩ declared e.location with
        | error d => rfl
        | ok component =>
          -- all parts are there; what is left is the naming of the rows
          simp only [registryRows_eq]
          split <;> rfl

theorem raised_assessment :
    (assessment strict declared componentId e).raised = faults declared componentId e := by
  unfold assessment
  split
  · split <;> rfl
  · rfl

variable {strict declared componentId e}

theorem exists_accepted_of_clean
    (h : Assessment.clean strict (faults declared componentId e) = true) :
    ∃ s : AcceptedEventSource declared componentId e,
      (assessment strict declared componentId e).value = some s.emission := by
  have hclean := h
  simp only [faults, Assessment.clean_append, Bool.and_eq_true] at h
  obtain ⟨⟨⟨⟨hattributes, hmissing⟩, -⟩, -⟩, hcomponent⟩ := h
  -- the required attributes are all texts
  have hset : ∀ wanted ∈ ["Name", "Log", "EventMessageFile"],
      Checked rules wanted (·.text element) →
        ∃ value, setting? e.attributes wanted (·.text element) = some value := by
    intro wanted hwanted hchecked
    exact hchecked.isSome_setting?_of_clean (RaisesErrors.text element) hattributes
      (has_of_clean_missing hmissing hwanted)
  obtain ⟨name, hname⟩ := hset "Name" (by simp) ⟨_, rfl, fun _ _ hd => hd⟩
  obtain ⟨log, hlog⟩ := hset "Log" (by simp) ⟨_, rfl, fun _ _ hd => hd⟩
  obtain ⟨file, hfile⟩ := hset "EventMessageFile" (by simp) ⟨_, rfl, fun _ _ hd => hd⟩
  obtain ⟨hdeclared, hrequired⟩ := Symbol.require_of_clean hcomponent
  refine ⟨⟨name, log, file, hname, hlog, hfile, hdeclared⟩, ?_⟩
  rw [assessment, hname, hlog, hfile, hrequired]
  simp only [if_pos hclean]
  rfl

theorem isSome_value_assessment :
    (assessment strict declared componentId e).value.isSome =
      Assessment.clean strict (assessment strict declared componentId e).raised := by
  rw [raised_assessment]
  cases hclean : Assessment.clean strict (faults declared componentId e) with
  | true =>
    obtain ⟨s, hs⟩ := exists_accepted_of_clean hclean
    rw [hs]
    rfl
  | false =>
    unfold assessment
    split
    · rw [if_neg (by simp [hclean])]
      rfl
    · rfl

theorem accepted_of_value {em : Emission}
    (h : (assessment strict declared componentId e).value = some em) :
    ∃ s : AcceptedEventSource declared componentId e, em = s.emission := by
  have hclean : Assessment.clean strict (faults declared componentId e) = true := by
    rw [← raised_assessment strict, ← isSome_value_assessment, h]
    rfl
  obtain ⟨s, hs⟩ := exists_accepted_of_clean hclean
  exact ⟨s, Option.some.inj (h.symm.trans hs)⟩

end EventSource

end InstallMarkup
