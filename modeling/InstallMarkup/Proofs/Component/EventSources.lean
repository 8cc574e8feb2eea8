import InstallMarkup.Proofs.Permission.Grammar

/-!
# What event sources may say

An event source in a component is accepted exactly if it says what it may (`EventSource.Grammar`)
and the component is declared (`EventSource.Acceptable`). Then it stands for registry values
(`EventSource.Values`): the message file, the file and number of categories if they are given, the
parameter file if it is given, and the event types if some are announced. No value depends on
another being there, so none is lost or takes the place of its neighbour.

* **attributes**: they are clean exactly if they say what they may, and the two about categories are
  missed from each other (`clean_faults_iff`);
* **values**: what is read from the attributes are the values (`optionalValues_eq`). The bits of
  event types are different, so their union is the sum (`toNat_typesSupported`);
* **rows**: a dispatch writes a row for each value, in order, or adds an error and leaves the output
  alone (`dispatch_eventSource`). Where a row is written does not depend on the value
  (`RegistryRow.Records`).
-/

namespace InstallMarkup

namespace EventSource

/-! ## The grammar -/

/-- The attributes that announce a type of events, each with the number of the type. -/
def supported : List (String × Nat) :=
  [("SupportsErrors", 1), ("SupportsWarnings", 2), ("SupportsInformation", 4),
    ("SupportsAuditSuccess", 8), ("SupportsAuditFailure", 16)]

/-- The attributes of an event source. -/
def names : List String :=
  ["Name", "Log", "EventMessageFile", "CategoryMessageFile", "CategoryCount",
    "ParameterMessageFile"] ++ supported.map (·.1)

/-- What an event source may say. -/
structure Grammar (e : Element) : Prop where
  name : e.Present "Name" (· ≠ "")
  log : e.Present "Log" (· ≠ "")
  file : e.Present "EventMessageFile" (· ≠ "")
  /-- The file and the number of categories are given together. -/
  category : e.has "CategoryMessageFile" = false ∧ e.has "CategoryCount" = false ∨
    e.Present "CategoryMessageFile" (· ≠ "") ∧
      e.Present "CategoryCount" fun text => ∃ n < 2 ^ 32, Digits.Writes text n
  parameter : e.AbsentOr "ParameterMessageFile" (· ≠ "")
  types : ∀ name ∈ supported.map (·.1), e.AbsentOr name fun text => text = "yes" ∨ text = "no"
  known : ∀ a ∈ e.attributes, a.name ∈ names
  childless : e.children = []

/-- What an event source may say, and what it needs to be there. -/
structure Acceptable (declared : List Symbol) (componentId : String) (e : Element) : Prop where
  grammar : Grammar e
  component : ⟨.component, componentId⟩ ∈ declared

/-! ## Values -/

/-- The values about categories, if the element has any. -/
inductive Categories (e : Element) : List (String × String) → Prop
  | absent (hfile : e.valueOf? "CategoryMessageFile" = none)
      (hcount : e.valueOf? "CategoryCount" = none) : Categories e []
  | given {file text : String} {n : Nat} (hfile : e.valueOf? "CategoryMessageFile" = some file)
      (hcount : e.valueOf? "CategoryCount" = some text) (hn : Digits.Writes text n) :
      Categories e [("CategoryMessageFile", "#%" ++ file), ("CategoryCount", "#" ++ toString n)]

/-- The value about parameters, if the element has one. -/
def parameterValues (e : Element) : List (String × String) :=
  (e.valueOf? "ParameterMessageFile").toList.map fun file => ("ParameterMessageFile", "#%" ++ file)

/-- The types of events that the element announces. -/
def announced (e : Element) : List (String × Nat) :=
  supported.filter fun type => e.valueOf? type.1 = some "yes"

/-- The value about types of events, if the element announces one: the sum of their numbers. -/
def typeValues (e : Element) : List (String × String) :=
  if announced e = [] then []
  else [("TypesSupported", "#" ++ toString ((announced e).map (·.2)).sum)]

/-- The names and texts of the registry values that an event source stands for, in order. -/
def Values (e : Element) (values : List (String × String)) : Prop :=
  ∃ file categories, e.valueOf? "EventMessageFile" = some file ∧ Categories e categories ∧
    values = ("EventMessageFile", "#%" ++ file) :: (categories ++ parameterValues e ++ typeValues e)

/-! ## Clean event sources -/

variable {e : Element}

theorem names_rules : rules.map (·.name) = names := rfl

theorem clean_attributes_iff {strict : Bool} (hdistinct : (e.attributes.map (·.name)).Nodup) :
    Assessment.clean strict (AttributeRule.checkAll rules element e.attributes) = true ↔
      (∀ a ∈ e.attributes, a.name ∈ names) ∧ e.AbsentOr "Name" (· ≠ "") ∧
        e.AbsentOr "Log" (· ≠ "") ∧ e.AbsentOr "EventMessageFile" (· ≠ "") ∧
        e.AbsentOr "CategoryMessageFile" (· ≠ "") ∧
        e.AbsentOr "CategoryCount" (fun text => ∃ n < 2 ^ 32, Digits.Writes text n) ∧
        e.AbsentOr "ParameterMessageFile" (· ≠ "") ∧
        ∀ name ∈ supported.map (·.1), e.AbsentOr name fun text => text = "yes" ∨ text = "no" := by
  have hrules : (rules.map (·.name)).Nodup := by
    rw [names_rules]
    decide
  have htypes : supported.map (·.1) = eventTypes.map (·.1) := rfl
  rw [clean_checkAll_iff hdistinct hrules, names_rules, rules, List.forall_mem_append, htypes]
  simp only [List.forall_mem_cons, List.forall_mem_map, List.not_mem_nil, false_implies,
    implies_true, and_true, content_text_iff, content_integer_iff, content_yesNo_iff, and_assoc]

/-- The two attributes about categories are missed from each other. -/
theorem clean_categoryFaults_iff {strict : Bool} :
    Assessment.clean strict (categoryFaults e) = true ↔
      (e.has "CategoryMessageFile" = true ↔ e.has "CategoryCount" = true) := by
  have hnone : Assessment.clean strict [] = true := rfl
  rw [categoryFaults, Assessment.clean_append, Bool.and_eq_true]
  cases hfile : e.has "CategoryMessageFile" <;> cases hcount : e.has "CategoryCount" <;>
    simp [clean_missingAttributes_iff, hfile, hcount, hnone]

theorem category_iff {Q : String → Prop} : (e.AbsentOr "CategoryMessageFile" (· ≠ "") ∧
      e.AbsentOr "CategoryCount" Q ∧
      (e.has "CategoryMessageFile" = true ↔ e.has "CategoryCount" = true)) ↔
    (e.has "CategoryMessageFile" = false ∧ e.has "CategoryCount" = false ∨
      e.Present "CategoryMessageFile" (· ≠ "") ∧ e.Present "CategoryCount" Q) := by
  rw [present_iff, present_iff]
  constructor
  · rintro ⟨hfile, hcount, hboth⟩
    cases hhas : e.has "CategoryMessageFile" with
    | true => exact .inr ⟨⟨rfl, hfile⟩, hboth.mp hhas, hcount⟩
    | false => exact .inl ⟨rfl, Bool.eq_false_iff.mpr fun h => by simp [hboth.mpr h] at hhas⟩
  · rintro (⟨hfile, hcount⟩ | ⟨⟨hhasFile, hfile⟩, hhasCount, hcount⟩)
    · exact ⟨absentOr_of_not_has (by simp [hfile]), absentOr_of_not_has (by simp [hcount]),
        by simp [hfile, hcount]⟩
    · exact ⟨hfile, hcount, by simp [hhasFile, hhasCount]⟩

/-- An event source raises no error exactly if it is acceptable. -/
theorem clean_faults_iff {strict : Bool} {declared : List Symbol} {componentId : String}
    (hdistinct : (e.attributes.map (·.name)).Nodup) :
    Assessment.clean strict (faults declared componentId e) = true ↔
      Acceptable declared componentId e := by
  simp only [faults, Assessment.clean_append, Bool.and_eq_true, clean_attributes_iff hdistinct,
    clean_missingAttributes_iff, clean_categoryFaults_iff, clean_unexpectedChildren_iff,
    Symbol.clean_require_iff, List.forall_mem_cons, List.not_mem_nil, false_implies, implies_true,
    and_true]
  constructor
  · rintro ⟨⟨⟨⟨⟨hknown, hname, hlog, hfile, hcategory, hcount, hparameter, htypes⟩,
      hhasName, hhasLog, hhasFile⟩, hboth⟩, hchildren⟩, hcomponent⟩
    exact ⟨⟨present_iff.mpr ⟨hhasName, hname⟩, present_iff.mpr ⟨hhasLog, hlog⟩,
      present_iff.mpr ⟨hhasFile, hfile⟩, category_iff.mp ⟨hcategory, hcount, hboth⟩, hparameter,
      htypes, hknown, hchildren⟩, hcomponent⟩
  · rintro ⟨h, hcomponent⟩
    obtain ⟨hhasName, hname⟩ := present_iff.mp h.name
    obtain ⟨hhasLog, hlog⟩ := present_iff.mp h.log
    obtain ⟨hhasFile, hfile⟩ := present_iff.mp h.file
    obtain ⟨hcategory, hcount, hboth⟩ := category_iff.mpr h.category
    exact ⟨⟨⟨⟨⟨h.known, hname, hlog, hfile, hcategory, hcount, h.parameter, h.types⟩,
      hhasName, hhasLog, hhasFile⟩, hboth⟩, h.childless⟩, hcomponent⟩

/-! ## What is read -/

section Read

variable (hdistinct : (e.attributes.map (·.name)).Nodup)

include hdistinct

/-- The types that are announced have different bits, so that their union is their sum. -/
theorem toNat_typesSupported :
    (typesSupported e.attributes).toNat = ((announced e).map (·.2)).sum := by
  have hyes : ∀ name, setting? e.attributes name (·.yesNo element) = some true ↔
      e.valueOf? name = some "yes" := by
    intro name
    rw [(Reads.yesNo element).setting?_eq_some_iff hdistinct]
    simp
  have hbits : ∀ yes : String → Bool,
      (eventTypes.foldl (fun bits (type : String × UInt32) =>
          if yes type.1 then bits ||| type.2 else bits) 0).toNat =
        ((supported.filter fun type => yes type.1).map (·.2)).sum := by
    intro yes
    simp only [eventTypes, supported, List.foldl_cons, List.foldl_nil, List.filter_cons,
      List.filter_nil]
    generalize yes "SupportsErrors" = errors, yes "SupportsWarnings" = warnings,
      yes "SupportsInformation" = information, yes "SupportsAuditSuccess" = success,
      yes "SupportsAuditFailure" = failure
    revert errors warnings information success failure
    decide
  rw [announced, ← hbits fun name => e.valueOf? name = some "yes", typesSupported]
  simp only [hyes, decide_eq_true_eq]

theorem typeValues_eq : typeValues e =
    let bits := typesSupported e.attributes
    if bits = 0 then [] else [("TypesSupported", "#" ++ toString bits.toNat)] := by
  have hpositive : ∀ type ∈ supported, type.2 ≠ 0 := by decide
  have hnone : typesSupported e.attributes = 0 ↔ announced e = [] := by
    rw [← UInt32.toNat_inj, toNat_typesSupported hdistinct, UInt32.toNat_zero,
      List.sum_eq_zero_iff_forall_eq_nat, List.forall_mem_map, List.eq_nil_iff_forall_not_mem]
    refine forall₂_congr fun type htype => ?_
    simp [hpositive type (List.mem_of_mem_filter htype)]
  simp only [typeValues, hnone, toNat_typesSupported hdistinct]

/-- The values after the first are those of the categories, the parameters and the types. -/
theorem optionalValues_eq (h : Grammar e) : ∃ categories, Categories e categories ∧
    optionalValues e.attributes = categories ++ parameterValues e ++ typeValues e := by
  have hparameter : setting? e.attributes "ParameterMessageFile" (·.text element) =
      e.valueOf? "ParameterMessageFile" := Reads.setting?_text_eq hdistinct h.parameter
  have hfile : setting? e.attributes "CategoryMessageFile" (·.text element) =
      e.valueOf? "CategoryMessageFile" :=
    Reads.setting?_text_eq hdistinct (category_iff.mpr h.category).1
  unfold optionalValues
  rw [typeValues_eq hdistinct, hparameter, hfile]
  rcases h.category with ⟨hnoFile, hnoCount⟩ | ⟨⟨file, hgiven, -⟩, text, hcount, n, hlt, hn⟩
  · have hnone : ∀ {name}, e.has name = false → e.valueOf? name = none := by
      intro name hno
      rw [Option.eq_none_iff_forall_ne_some]
      intro text htext
      simp [has_iff_valueOf?.mpr ⟨text, htext⟩] at hno
    refine ⟨[], .absent (hnone hnoFile) (hnone hnoCount), ?_⟩
    rw [hnone hnoFile]
    rfl
  · have hread : setting? e.attributes "CategoryCount" (·.integer element) =
        some (UInt32.ofNat n) :=
      ((Reads.integer element).setting?_eq_some_iff hdistinct).mpr
        ⟨text, hcount, by rwa [UInt32.toNat_ofNat_of_lt' hlt]⟩
    refine ⟨_, .given hgiven hcount hn, ?_⟩
    rw [hgiven, hread]
    simp only [UInt32.toNat_ofNat_of_lt' hlt]
    rfl

end Read

end EventSource

/-! ## Event sources in runs -/

/-- The row is the registry value under the key for the component. Its identifier is told by its
place alone. -/
structure RegistryRow.Records (componentId path : String) (entry : String × String)
    (row : RegistryRow) : Prop where
  root : row.root = .localMachine
  key : row.key = path
  name : row.name = some entry.1
  value : row.value = some entry.2
  component : row.componentId = componentId
  id : Identifier.synthesize .registryValue
    [some componentId, some "2", some path, some entry.1] = .ok row.id

theorem EventSource.records_writtenRow (componentId key : String) (value : String × String) :
    (writtenRow componentId key value).Records componentId key value :=
  ⟨rfl, rfl, rfl, rfl, rfl, rfl⟩

/-- An event source is assessed on the component that it stands in. -/
theorem visit_eventSource (setting : Setting) {h : Host} {e : Element} {componentId : String}
    (hkind : h.kind = .component) (hcomponent : h.value? Host.componentId = some componentId)
    (hname : e.name = EventSource.element) (hdistinct : (e.attributes.map (·.name)).Nodup) :
    e.visit setting .full (.host h) =
      .ok (EventSource.assessment setting.config.warningsAsErrors setting.declared componentId e,
        none) := by
  have hcompiler : e.name = ElementCompiler.eventSource.name := hname
  exact visit_of_assessed (structureFault?_of_name hcompiler hdistinct) hcompiler
    (.eventSource h componentId hkind hcomponent)

/-- What is emitted for an event source that is acceptable. -/
theorem EventSource.exists_rows {strict : Bool} {declared : List Symbol} {componentId : String}
    {e : Element} (hdistinct : (e.attributes.map (·.name)).Nodup)
    (h : Acceptable declared componentId e) :
    ∃ name log values rows, e.valueOf? "Name" = some name ∧ e.valueOf? "Log" = some log ∧
      Values e values ∧
      List.Forall₂ (RegistryRow.Records componentId
        ("SYSTEM\\CurrentControlSet\\Services\\EventLog\\" ++ log ++ "\\" ++ name)) values rows ∧
      (assessment strict declared componentId e).value =
        some (.eventSource rows ⟨.component, componentId⟩) := by
  have hclean : Assessment.clean strict (faults declared componentId e) = true :=
    (clean_faults_iff hdistinct).mpr h
  obtain ⟨s, hs⟩ := exists_accepted_of_clean hclean
  have hread : ∀ {name}, e.Present name (· ≠ "") →
      setting? e.attributes name (·.text element) = e.valueOf? name :=
    fun hpresent => Reads.setting?_text_eq hdistinct (present_iff.mp hpresent).2
  have hname := (hread h.grammar.name).symm.trans s.name_read
  have hlog := (hread h.grammar.log).symm.trans s.log_read
  have hfile := (hread h.grammar.file).symm.trans s.file_read
  obtain ⟨categories, hcategories, hvalues⟩ := optionalValues_eq hdistinct h.grammar
  refine ⟨s.name, s.log, s.values, s.rows, hname, hlog, ?_, ?_, hs⟩
  · refine ⟨s.file, categories, hfile, hcategories, ?_⟩
    rw [AcceptedEventSource.values, hvalues]
  · have hkey : s.key =
        "SYSTEM\\CurrentControlSet\\Services\\EventLog\\" ++ s.log ++ "\\" ++ s.name := rfl
    rw [AcceptedEventSource.rows, ← hkey, List.forall₂_map_right_iff, List.forall₂_same]
    exact fun value _ => records_writtenRow componentId s.key value

/-- In every state, an event source in a component whose id is supplied adds no error exactly if it
is acceptable. If it is, a row is written for each of its values, in order; otherwise the output
stays as it is. -/
theorem dispatch_eventSource (s : UnitState) (setting : Setting) (h : Host) (e : Element)
    {componentId : String} (hkind : h.kind = .component)
    (hcomponent : h.value? "ComponentId" = some componentId) (hname : e.name = "EventSource")
    (hdistinct : (e.attributes.map (·.name)).Nodup) :
    ∃ s' added, s.dispatch setting .full (.host h) e = (s', none) ∧
      s'.log.entries = s.log.entries ++ added ∧
      ((∀ d ∈ added, d.isError = false) ↔
        EventSource.Acceptable setting.declared componentId e) ∧
      (¬ EventSource.Acceptable setting.declared componentId e → s'.output = s.output) ∧
      (EventSource.Acceptable setting.declared componentId e →
        ∃ name log values rows, e.valueOf? "Name" = some name ∧ e.valueOf? "Log" = some log ∧
          EventSource.Values e values ∧
          List.Forall₂ (RegistryRow.Records componentId
            ("SYSTEM\\CurrentControlSet\\Services\\EventLog\\" ++ log ++ "\\" ++ name))
            values rows ∧
          s'.output = (s.output.writeAll (rows.map .registry)).addHard
            ⟨.component, componentId⟩ ∧
          s.output.tables.Gained s'.output.tables (rows.map .registry)) := by
  have hvisit := visit_eventSource setting hkind hcomponent hname hdistinct
  let strict := setting.config.warningsAsErrors
  let a := EventSource.assessment strict setting.declared componentId e
  have hraised : a.raised = EventSource.faults setting.declared componentId e :=
    EventSource.raised_assessment strict setting.declared componentId e
  have hvalue : a.value.isSome = Assessment.clean strict a.raised :=
    EventSource.isSome_value_assessment
  obtain ⟨haccepted, hrefused, hemitted⟩ := s.absorb_singleton_of_acceptance hvalue
    (fun strict => hraised ▸ EventSource.clean_faults_iff hdistinct)
  refine ⟨s.absorb [a], _, ?_, s.entries_absorb_singleton, haccepted, hrefused, ?_⟩
  · rw [s.dispatch_eq_compileAlone hvisit, s.compileAlone_of_visit hvisit]
    rfl
  · intro hacceptable
    obtain ⟨name, log, values, rows, hsource, hlog, hvalues, hrows, hvalue⟩ :=
      EventSource.exists_rows hdistinct hacceptable
    have houtput : (s.absorb [a]).output =
        s.output.add (.eventSource rows ⟨.component, componentId⟩) := hemitted _ hvalue
    have hemit := Emission.emit_eq s.output (.eventSource rows ⟨.component, componentId⟩)
    rw [Emission.emit] at hemit
    rw [houtput]
    exact ⟨name, log, values, rows, hsource, hlog, hvalues, hrows, (Except.ok.inj hemit).symm,
      s.output.gained_add _⟩

/-- The number of categories is written without its sign and zeros, and the types as their sum. -/
theorem dispatch_eventSource_categories :
    let e : Element :=
      { name := "EventSource"
        attributes := [⟨"Name", "App", {}⟩, ⟨"SupportsAuditFailure", "yes", {}⟩,
          ⟨"CategoryCount", "+03", {}⟩, ⟨"Log", "Application", {}⟩, ⟨"SupportsErrors", "yes", {}⟩,
          ⟨"EventMessageFile", "app.dll", {}⟩, ⟨"CategoryMessageFile", "words.dll", {}⟩,
          ⟨"SupportsWarnings", "no", {}⟩] }
    let h : Host := { kind := .component, values := [("ComponentId", "App")] }
    let s := UnitState.start grantSetting.config
    h.kind = .component ∧ h.value? "ComponentId" = some "App" ∧ e.name = "EventSource" ∧
      (e.attributes.map (·.name)).Nodup ∧
      EventSource.Acceptable grantSetting.declared "App" e ∧
      ∃ s' rows, s.dispatch grantSetting .full (.host h) e = (s', none) ∧
        List.Forall₂ (RegistryRow.Records "App"
          "SYSTEM\\CurrentControlSet\\Services\\EventLog\\Application\\App")
          [("EventMessageFile", "#%app.dll"), ("CategoryMessageFile", "#%words.dll"),
            ("CategoryCount", "#3"), ("TypesSupported", "#17")] rows ∧
        s'.output = (Output.empty.writeAll (rows.map .registry)).addHard ⟨.component, "App"⟩ := by
  intro e h s
  have hcomponent : h.value? "ComponentId" = some "App" := by decide
  have hdistinct : (e.attributes.map (·.name)).Nodup := by decide
  obtain ⟨s', added, hdispatch, hentries, hclean, -, hrows⟩ :=
    dispatch_eventSource s grantSetting h e rfl hcomponent rfl hdistinct
  have hnone : (s.dispatch grantSetting .full (.host h) e).1.log.entries = [] := by
    decide +kernel
  rw [hdispatch, hentries] at hnone
  have hacceptable : EventSource.Acceptable grantSetting.declared "App" e :=
    hclean.mp (by simp [List.append_eq_nil_iff.mp hnone])
  obtain ⟨name, log, values, rows, hname, hlog, hvalues, hrecords, houtput, -⟩ :=
    hrows hacceptable
  obtain rfl : "App" = name := Option.some.inj hname
  obtain rfl : "Application" = log := Option.some.inj hlog
  have hgiven : values = [("EventMessageFile", "#%app.dll"), ("CategoryMessageFile", "#%words.dll"),
      ("CategoryCount", "#3"), ("TypesSupported", "#17")] := by
    obtain ⟨file, categories, hfile, hcategories, rfl⟩ := hvalues
    obtain rfl : "app.dll" = file := Option.some.inj hfile
    cases hcategories with
    | absent hnone => cases hnone
    | given hwords hcount hn =>
      cases hwords
      cases hcount
      have hthree : Digits.Writes "+03" 3 :=
        ⟨['0', '3'], List.cons_ne_nil _ _, List.all_eq_true.mp rfl, .inr rfl, rfl⟩
      rw [hn.unique hthree]
      decide
  exact ⟨rfl, hcomponent, rfl, hdistinct, hacceptable, s', rows, hdispatch, hgiven ▸ hrecords,
    houtput⟩

end InstallMarkup
