import InstallMarkup.Proofs.Reading.Complaints
import InstallMarkup.Proofs.Reading.Grammar
import InstallMarkup.Proofs.Run.Emitted
import InstallMarkup.Proofs.Run.Faults

/-!
# What searches for components, directories and files may say

A search has a common part and a part of its kind. It raises no error exactly if both say what they
may and nothing else is said (`PlacedSearch.Grammar`, `clean_faults_iff`). What is held against it
is found in different places: by the rules of its attributes, by what is missing, and by where it
stands. None of these is reported twice.

* **the common part**: `SearchSettings.Grammar`, for the searches of all kinds. A predecessor may
  only be named by a search that is not nested in another (`clean_common_iff`);
* **the parts of the kinds**: `SearchKind.Grammar`, for the kinds at hand (`clean_own_iff`). An
  element that says what it may states a query (`SearchQuery.Stated`), which is the one that is read
  (`stated_of_value`);
* **rows**: compiling the element writes what it tells (`ValidatedSearch.Tells`), or adds an error
  and leaves the output alone (`compileAlone_search`).
-/

namespace InstallMarkup

/-! ## Places -/

/-- Where a search may stand: directly in a bundle or a fragment, or in another search. -/
inductive Enclosure.Places : Enclosure → Placement → Prop
  | bundle (values : List (String × String)) : Places (.host ⟨.bundle, values⟩) .topLevel
  | fragment (values : List (String × String)) : Places (.host ⟨.fragment, values⟩) .topLevel
  | search (element : String) (id : Option Identifier) : Places (.search element id) (.nested id)

theorem Enclosure.Places.placement? {enclosure : Enclosure} {placement : Placement}
    (h : enclosure.Places placement) : enclosure.placement? = some placement := by
  cases h <;> rfl

/-- The search to run after: the one that encloses the element, or the one that it names. -/
def Placement.predecessor (placement : Placement) (e : Element) : Option Identifier :=
  match placement with
  | .nested parent => parent
  | .topLevel => (e.valueOf? "After").map (⟨·⟩)

/-! ## The common part -/

namespace SearchSettings

/-- The attributes that all searches know. -/
def names : List String := ["Id", "Variable", "Condition", "After"]

/-- What the common part of a search may say at its place. -/
structure Grammar (config : Config) (placement : Placement) (e : Element) : Prop where
  variableName : e.Present "Variable" fun text => Identifier.isLegal text = true ∧
    (config.allowBuiltinVariables = true ∨ isBuiltinVariable text = false)
  id : e.AbsentOr "Id" (Identifier.isLegal · = true)
  condition : e.AbsentOr "Condition" (· ≠ "")
  after : e.AbsentOr "After" fun text =>
    placement = .topLevel ∧ Identifier.isLegal text = true

variable {config : Config} {placement : Placement} {e : Element} {element : String}

/-- A search that is nested in another may name no predecessor at all, be it legal or not. -/
theorem clean_placementFaults_iff {strict : Bool} (hdistinct : (e.attributes.map (·.name)).Nodup) :
    Assessment.clean strict
        ((ofAttributes config element e.attributes).placementFaults e.name placement) = true ↔
      placement = .topLevel ∨ e.has "After" = false := by
  cases placement with
  | topLevel => simp [placementFaults, Assessment.clean]
  | nested parent =>
    have hlocation : (ofAttributes config element e.attributes).afterLocation =
        (e.attribute? "After").map (·.location) := by
      show setting? e.attributes "After" _ = _
      rw [setting?_eq_of_nodup hdistinct]
      cases e.attribute? "After" <;> rfl
    rw [placementFaults, hlocation, Element.has]
    cases e.attribute? "After" with
    | none => simp [Assessment.clean]
    | some a =>
      have hfalse : Assessment.clean strict [nestedAfter e.name a.location] = false :=
        Assessment.clean_eq_false_of_mem (List.mem_singleton.mpr rfl) rfl
      simp [hfalse]

/-- The rules of the common attributes, the place and what is missing come to the grammar. -/
theorem clean_common_iff {strict : Bool} (hdistinct : (e.attributes.map (·.name)).Nodup) :
    ((∀ rule ∈ rules config element, rule.Content strict e) ∧ Assessment.clean strict
        ((ofAttributes config element e.attributes).header e placement).raised = true) ↔
      Grammar config placement e := by
  simp only [rules, header, List.forall_mem_cons, content_identifier_iff, content_readVariable_iff,
    content_text_iff, List.not_mem_nil, false_implies, implies_true, and_true,
    Assessment.clean_append, Bool.and_eq_true, clean_placementFaults_iff hdistinct,
    clean_missingAttributes_iff]
  constructor
  · rintro ⟨⟨hid, hvariable, hcondition, hafter⟩, hplace, hhas⟩
    refine ⟨present_iff.mpr ⟨hhas, hvariable⟩, hid, hcondition, ?_⟩
    intro text htext
    refine ⟨hplace.resolve_right ?_, hafter text htext⟩
    rw [has_iff_valueOf?.mpr ⟨text, htext⟩]
    exact Bool.false_ne_true.symm
  · rintro ⟨hvariable, hid, hcondition, hafter⟩
    obtain ⟨hhas, hvariable⟩ := present_iff.mp hvariable
    refine ⟨⟨hid, hvariable, hcondition, fun text htext => (hafter text htext).2⟩, ?_, hhas⟩
    cases hnamed : e.has "After" with
    | false => exact .inr rfl
    | true =>
      obtain ⟨text, htext⟩ := has_iff_valueOf?.mp hnamed
      exact .inl (hafter text htext).1

/-- The header of a search whose common part says what it may has its texts. -/
theorem exists_header (hdistinct : (e.attributes.map (·.name)).Nodup)
    (h : Grammar config placement e) : ∃ header : SearchHeader,
      ((ofAttributes config element e.attributes).header e placement).value = some header ∧
        e.valueOf? "Variable" = some header.variableName ∧
        e.valueOf? "Condition" = header.condition ∧ header.after = placement.predecessor e ∧
        header.id = (e.valueOf? "Id").map (⟨·⟩) := by
  obtain ⟨text, htext, hmeans⟩ := h.variableName
  have hvariable : setting? e.attributes "Variable" (readVariable config element) = some text :=
    ((Reads.readVariable config element).setting?_eq_some_iff hdistinct).mpr
      ⟨text, htext, rfl, hmeans⟩
  have hcondition : setting? e.attributes "Condition" (·.text element) = e.valueOf? "Condition" :=
    Reads.setting?_text_eq hdistinct h.condition
  have hid := Reads.setting?_identifier_eq element hdistinct h.id
  have hafter := Reads.setting?_identifier_eq element hdistinct
    fun text htext => (h.after text htext).2
  refine ⟨_, by rw [header, ofAttributes, hvariable, Option.map_some], htext, hcondition.symm, ?_,
    hid⟩
  cases placement with
  | nested parent => rfl
  | topLevel => exact hafter

end SearchSettings

/-! ## The parts of the kinds -/

namespace SearchKind

/-- The attributes of the kinds. -/
def names : SearchKind → List String
  | component => ["Guid", "ProductCode", "Result"]
  | directory => ["Path", "Result"]
  | file => ["Path", "Result"]
  | product => ["Guid", "ProductCode", "UpgradeCode", "Result"]
  | registry => ["Root", "Key", "Value", "Format", "ExpandEnvironmentVariables", "Result", "Win64"]

/-- What the part of a kind may say, for searches of components, directories and files. -/
inductive Grammar (e : Element) : SearchKind → Prop
  | component (guid : e.Present "Guid" fun text => ∃ guid, Guid.Spells text guid)
      (product : e.AbsentOr "ProductCode" fun text => ∃ guid, Guid.Spells text guid)
      (result : e.AbsentOr "Result" (· ∈ ["directory", "state", "keyPath"])) :
      Grammar e .component
  | directory (path : e.Present "Path" (· ≠ "")) (result : e.AbsentOr "Result" (· ∈ ["exists"])) :
      Grammar e .directory
  | file (path : e.Present "Path" (· ≠ ""))
      (result : e.AbsentOr "Result" (· ∈ ["exists", "version"])) : Grammar e .file

/-- The kinds at hand, by the names of their elements. -/
def plain : List (String × SearchKind) :=
  [("ComponentSearch", .component), ("DirectorySearch", .directory), ("FileSearch", .file)]

theorem names_rules (config : Config) (kind : SearchKind) :
    (SearchSettings.rules config kind.elementName ++ kind.rules).map (·.name) =
      SearchSettings.names ++ kind.names := by
  cases kind <;> rfl

theorem nodup_names (kind : SearchKind) : (SearchSettings.names ++ kind.names).Nodup := by
  cases kind <;> decide

theorem elementName_of_mem_plain {name : String} {kind : SearchKind} (h : (name, kind) ∈ plain) :
    name = kind.elementName := by
  simp only [plain, List.mem_cons, Prod.mk.injEq, List.not_mem_nil, or_false] at h
  rcases h with ⟨rfl, rfl⟩ | ⟨rfl, rfl⟩ | ⟨rfl, rfl⟩ <;> rfl

variable {e : Element} {name : String} {kind : SearchKind}

theorem clean_path_iff {strict : Bool} (element : String)
    (results : List (String × FileSearchFlags)) (base : FileSearchFlags) :
    ((∀ rule ∈ PathQuery.rules element results, rule.Content strict e) ∧
        Assessment.clean strict (PathQuery.assess element results base e).raised = true) ↔
      e.Present "Path" (· ≠ "") ∧ e.AbsentOr "Result" (· ∈ results.map (·.1)) := by
  simp only [PathQuery.rules, PathQuery.assess, List.forall_mem_cons, content_text_iff,
    content_choice_iff, clean_missingAttributes_iff, List.not_mem_nil, false_implies, implies_true,
    and_true, present_iff]
  constructor
  · rintro ⟨⟨hpath, hresult⟩, hhas⟩
    exact ⟨⟨hhas, hpath⟩, hresult⟩
  · rintro ⟨⟨hhas, hpath⟩, hresult⟩
    exact ⟨⟨hpath, hresult⟩, hhas⟩

/-- The rules of a kind and what is missing come to its grammar. -/
theorem clean_own_iff {strict : Bool} (hkind : (name, kind) ∈ plain) :
    ((∀ rule ∈ kind.rules, rule.Content strict e) ∧
        Assessment.clean strict (kind.assessQuery e).raised = true) ↔ kind.Grammar e := by
  simp only [plain, List.mem_cons, Prod.mk.injEq, List.not_mem_nil, or_false] at hkind
  rcases hkind with ⟨-, rfl⟩ | ⟨-, rfl⟩ | ⟨-, rfl⟩
  · simp only [rules, ComponentQuery.rules, assessQuery, Assessment.map, ComponentQuery.assess,
      List.forall_mem_cons, content_guid_iff, content_choice_iff, clean_missingAttributes_iff,
      List.not_mem_nil, false_implies, implies_true, and_true]
    constructor
    · rintro ⟨⟨hguid, hproduct, hresult⟩, hhas⟩
      exact .component (present_iff.mpr ⟨hhas, hguid⟩) hproduct hresult
    · rintro ⟨hguid, hproduct, hresult⟩
      exact ⟨⟨(present_iff.mp hguid).2, hproduct, hresult⟩, (present_iff.mp hguid).1⟩
  · refine (clean_path_iff _ _ FileSearchFlags.isDirectory).trans ⟨?_, ?_⟩
    · rintro ⟨hpath, hresult⟩
      exact .directory hpath hresult
    · rintro ⟨⟩
      exact ⟨‹_›, ‹_›⟩
  · refine (clean_path_iff _ _ FileSearchFlags.plainFile).trans ⟨?_, ?_⟩
    · rintro ⟨hpath, hresult⟩
      exact .file hpath hresult
    · rintro ⟨⟩
      exact ⟨‹_›, ‹_›⟩

end SearchKind

/-! ## Queries -/

/-- The query is the one that the attributes of its kind state. A mask has a bit for the result that
is asked for; that of a path has one for what it leads to besides. -/
inductive SearchQuery.Stated (e : Element) : SearchQuery → Prop
  | component {guid : String} {productCode : Option String} {bits : UInt32}
      (hguid : e.Present "Guid" (Guid.Spells · guid))
      (hproduct : ∀ code, productCode = some code ↔
        ∃ text, e.valueOf? "ProductCode" = some text ∧ Guid.Spells text code)
      (hresult : (e.valueOf? "Result", bits) ∈
        [(none, 0x1), (some "directory", 0x4), (some "state", 0x2), (some "keyPath", 0x1)]) :
      Stated e (.component { guid, productCode, flags := ⟨bits⟩ })
  | directory {path : String} {bits : UInt32} (hpath : e.valueOf? "Path" = some path)
      (hresult : (e.valueOf? "Result", bits) ∈ [(none, 0x200), (some "exists", 0x300)]) :
      Stated e (.directory { path, flags := ⟨bits⟩ })
  | file {path : String} {bits : UInt32} (hpath : e.valueOf? "Path" = some path)
      (hresult : (e.valueOf? "Result", bits) ∈
        [(none, 0x1), (some "exists", 0x101), (some "version", 0x81)]) :
      Stated e (.file { path, flags := ⟨bits⟩ })

/-- An identifier that is not given is computed from the header and the query. -/
theorem SearchQuery.synthesize_eq_identifier (q : SearchQuery) {h : SearchHeader}
    (hid : h.id = none) :
    Identifier.synthesize (.search q.kind) (h.hashFields ++ q.hashFields) =
      .ok (q.identifier h) := by
  rw [Identifier.synthesize, if_pos (q.length_hashFields h), identifier, hid]
  rfl

section Queries

variable {e : Element}

theorem exists_pathQuery (element : String) (results : List (String × FileSearchFlags))
    (base : FileSearchFlags) (hdistinct : (e.attributes.map (·.name)).Nodup)
    (hpath : e.Present "Path" (· ≠ "")) (hresult : e.AbsentOr "Result" (· ∈ results.map (·.1))) :
    ∃ path flags, e.valueOf? "Path" = some path ∧
      (PathQuery.assess element results base e).value = some { path, flags } ∧
      (e.valueOf? "Result", flags.bits) ∈
        (none, (base.union .empty).bits) ::
          results.map fun option => (some option.1, (base.union option.2).bits) := by
  have hset : setting? e.attributes "Path" (·.text element) = e.valueOf? "Path" :=
    Reads.setting?_text_eq hdistinct (present_iff.mp hpath).2
  obtain ⟨path, htext, -⟩ := hpath
  have hread := hset.trans htext
  refine ⟨path, _, htext, by rw [PathQuery.assess, hread]; rfl, ?_⟩
  have hcases := List.mem_map_of_mem (f := fun chosen : Option String × Option FileSearchFlags =>
      (chosen.1, (base.union (chosen.2.getD .empty)).bits))
    (Reads.choice_cases element hdistinct hresult)
  simpa [Function.comp_def] using hcases

/-- An element that says what it may states the query that is read from it. -/
theorem exists_stated {kind : SearchKind} (hdistinct : (e.attributes.map (·.name)).Nodup)
    (h : kind.Grammar e) :
    ∃ q, (kind.assessQuery e).value = some q ∧ q.kind = kind ∧ q.Stated e := by
  cases h with
  | component hguid hproduct hresult =>
    have hguids := Reads.guid ComponentQuery.element
    obtain ⟨text, htext, guid, hspells⟩ := hguid
    have hread : setting? e.attributes "Guid" (·.guid ComponentQuery.element) = some guid :=
      (hguids.setting?_eq_some_iff hdistinct).mpr ⟨text, htext, hspells⟩
    have hresult : e.AbsentOr "Result" (· ∈ ComponentQuery.results.map (·.1)) := hresult
    have hmask := List.mem_map_of_mem
      (f := fun chosen : Option String × Option ComponentSearchFlags =>
        (chosen.1, (chosen.2.getD .keyPath).bits))
      (Reads.choice_cases ComponentQuery.element hdistinct hresult)
    refine ⟨_, ?_, rfl, .component ⟨text, htext, hspells⟩
      (fun code => hguids.setting?_eq_some_iff hdistinct) hmask⟩
    simp only [SearchKind.assessQuery, Assessment.map, ComponentQuery.assess, hread,
      Option.map_some]
  | directory hpath hresult =>
    obtain ⟨path, flags, htext, hvalue, hmask⟩ :=
      exists_pathQuery SearchKind.directory.elementName PathQuery.directoryResults
        FileSearchFlags.isDirectory hdistinct hpath hresult
    refine ⟨.directory { path, flags }, ?_, rfl, .directory htext hmask⟩
    simp only [SearchKind.assessQuery, Assessment.map, PathQuery.assessDirectory, hvalue,
      Option.map_some]
  | file hpath hresult =>
    obtain ⟨path, flags, htext, hvalue, hmask⟩ :=
      exists_pathQuery SearchKind.file.elementName PathQuery.fileResults FileSearchFlags.plainFile
        hdistinct hpath hresult
    refine ⟨.file { path, flags }, ?_, rfl, .file htext hmask⟩
    simp only [SearchKind.assessQuery, Assessment.map, PathQuery.assessFile, hvalue,
      Option.map_some]

end Queries

/-! ## Whole searches -/

namespace PlacedSearch

variable {p : PlacedSearch} {config : Config} {name : String}

/-- What a search may say at its place. -/
structure Grammar (config : Config) (p : PlacedSearch) : Prop where
  common : SearchSettings.Grammar config p.placement p.element
  own : p.kind.Grammar p.element
  known : ∀ a ∈ p.element.attributes, a.name ∈ SearchSettings.names ++ p.kind.names

/-- A search raises no error exactly if it says what it may. -/
theorem clean_faults_iff {strict : Bool} (hkind : (name, p.kind) ∈ SearchKind.plain)
    (hdistinct : (p.element.attributes.map (·.name)).Nodup) :
    Assessment.clean strict (p.faults config) = true ↔ p.Grammar config := by
  have hrules := SearchKind.nodup_names p.kind
  rw [← SearchKind.names_rules config] at hrules
  rw [faults, SearchKind.attributeFaults, Assessment.clean_append, Assessment.clean_append,
    Bool.and_eq_true, Bool.and_eq_true, clean_checkAll_iff hdistinct hrules,
    SearchKind.names_rules, List.forall_mem_append]
  constructor
  · rintro ⟨⟨⟨hknown, hrules, hownRules⟩, hheader⟩, hquery⟩
    exact ⟨(SearchSettings.clean_common_iff hdistinct).mp ⟨hrules, hheader⟩,
      (SearchKind.clean_own_iff hkind).mp ⟨hownRules, hquery⟩, hknown⟩
  · rintro ⟨hcommon, hown, hknown⟩
    obtain ⟨hrules, hheader⟩ := (SearchSettings.clean_common_iff hdistinct).mpr hcommon
    obtain ⟨hownRules, hquery⟩ := (SearchKind.clean_own_iff hkind).mpr hown
    exact ⟨⟨⟨hknown, hrules, hownRules⟩, hheader⟩, hquery⟩

/-- What a search raises besides its attributes is never that one of them is unexpected. -/
theorem code_ne_of_mem_rest (hkind : (name, p.kind) ∈ SearchKind.plain) {d : Diagnostic}
    (hd : d ∈ (p.header config).raised ++ p.query.raised) : d.code ≠ .unexpectedAttribute := by
  have hmissing : ∀ {required : List String} {name : String},
      d ∈ missingAttributes required name p.element → d.code ≠ .unexpectedAttribute := by
    intro required name hd
    obtain ⟨wanted, -, rfl⟩ := List.mem_map.mp hd
    exact nofun
  obtain ⟨kind, e, placement⟩ := p
  rcases List.mem_append.mp hd with hd | hd
  · rcases List.mem_append.mp hd with hd | hd
    · cases placement with
      | topLevel => cases hd
      | nested parent =>
        obtain ⟨location, -, rfl⟩ := List.mem_map.mp hd
        exact nofun
    · exact hmissing hd
  · simp only [SearchKind.plain, List.mem_cons, Prod.mk.injEq, List.not_mem_nil, or_false] at hkind
    rcases hkind with ⟨-, rfl⟩ | ⟨-, rfl⟩ | ⟨-, rfl⟩ <;> exact hmissing hd

/-- Each attribute that the search does not know is reported once. -/
theorem filter_faults (hkind : (name, p.kind) ∈ SearchKind.plain) :
    (p.faults config).filter (·.code == .unexpectedAttribute) =
      (p.element.attributes.filter (·.name ∉ SearchSettings.names ++ p.kind.names)).map fun a =>
        .unexpectedAttribute p.kind.elementName a.name a.location := by
  have hrest : ((p.header config).raised ++ p.query.raised).filter
      (·.code == .unexpectedAttribute) = [] := by
    rw [List.filter_eq_nil_iff]
    intro d hd
    simpa using code_ne_of_mem_rest hkind hd
  rw [faults, List.append_assoc, List.filter_append, hrest, List.append_nil,
    SearchKind.attributeFaults, filter_checkAll (standard_searchRules config p.kind),
    SearchKind.names_rules]

end PlacedSearch

/-- What the rows and the ordering of a search tell of the element that it is written for. -/
structure ValidatedSearch.Tells (p : PlacedSearch) (search : ValidatedSearch) : Prop where
  variableName : p.element.valueOf? "Variable" = some search.search.variableName
  condition : p.element.valueOf? "Condition" = search.search.condition
  after : search.after = p.placement.predecessor p.element
  /-- The row of the kind has what the query looks for, and an identifier that is not given is
  computed from the header and the query. -/
  query : ∃ q : SearchQuery, q.kind = p.kind ∧ q.Stated p.element ∧
    search.detail = q.row search.search.id ∧
    match p.element.valueOf? "Id" with
    | some id => search.search.id = ⟨id⟩
    | none => Identifier.synthesize (.search p.kind)
        ([some search.search.variableName, search.search.condition,
          search.after.map (·.text)] ++ q.hashFields) = .ok search.search.id

/-- The search that is written for an element which says what it may tells what the element says. -/
theorem PlacedSearch.exists_tells {p : PlacedSearch} {config : Config} {name : String}
    (hkind : (name, p.kind) ∈ SearchKind.plain)
    (hdistinct : (p.element.attributes.map (·.name)).Nodup) (h : p.Grammar config) :
    ∃ search, p.search? config = some search ∧ search.Tells p := by
  have haccepted : (p.search? config).isSome = true := by
    rw [isSome_search?]
    exact (clean_faults_iff hkind hdistinct).mpr h
  obtain ⟨search, hsearch⟩ := Option.isSome_iff_exists.mp haccepted
  obtain ⟨-, header, q, hheader, hquery, rfl⟩ := search?_eq_some hsearch
  obtain ⟨header', hread, hvariable, hcondition, hafter, hid⟩ :=
    SearchSettings.exists_header hdistinct h.common
  obtain ⟨q', hquery', hqkind, hstated⟩ := exists_stated hdistinct h.own
  obtain rfl : header = header' := Option.some.inj (hheader.symm.trans hread)
  obtain rfl : q = q' := Option.some.inj (hquery.symm.trans hquery')
  refine ⟨_, hsearch, hvariable, hcondition, hafter, q, hqkind, hstated, rfl, ?_⟩
  rw [SearchQuery.written_id]
  cases htext : p.element.valueOf? "Id" with
  | some id =>
    rw [htext] at hid
    rw [SearchQuery.identifier, hid]
    rfl
  | none =>
    rw [htext] at hid
    rw [← hqkind]
    exact q.synthesize_eq_identifier hid

/-! ## Searches in runs -/

namespace Diagnostic

/-- How warnings count changes no error. -/
theorem graded_of_isError {d : Diagnostic} (h : d.isError = true) (strict : Bool) :
    d.graded strict = d := by
  obtain ⟨severity, code, message, location⟩ := d
  obtain rfl : severity = .error := eq_of_beq h
  cases strict <;> rfl

/-- How warnings count changes no code. -/
theorem filter_code_graded (strict : Bool) (raised : List Diagnostic) (code : DiagnosticCode) :
    (raised.map (·.graded strict)).filter (·.code == code) =
      (raised.filter (·.code == code)).map (·.graded strict) := by
  rw [List.filter_map]
  refine congrArg (List.map _) (List.filter_congr fun d _ => ?_)
  cases strict <;> rfl

end Diagnostic

/-- In every state, a search for a component, a directory or a file, in a bundle, a fragment or
another search, adds no error exactly if it says what it may; each attribute that it does not know
is reported once. If it says what it may, a search that tells all of it is written; otherwise the
output stays as it is. What is nested in the search is compiled after it. -/
theorem compileAlone_search (s : UnitState) (setting : Setting) (enclosure : Enclosure)
    (e : Element) {kind : SearchKind} {placement : Placement}
    (hkind : (e.name, kind) ∈ SearchKind.plain)
    (hplace : enclosure.Places placement) (hdistinct : (e.attributes.map (·.name)).Nodup) :
    let p : PlacedSearch := ⟨kind, e, placement⟩
    let s' := s.compileAlone setting .full enclosure e
    (∃ inner, s.dispatch setting .full enclosure e =
      s'.dispatchNested setting .full e.children (some inner)) ∧
    ∃ added, s'.log.entries = s.log.entries ++ added ∧
      ((∀ d ∈ added, d.isError = false) ↔ p.Grammar setting.config) ∧
      added.filter (·.code == .unexpectedAttribute) =
        (e.attributes.filter (·.name ∉ SearchSettings.names ++ kind.names)).map (fun a =>
          .unexpectedAttribute e.name a.name a.location) ∧
      (¬ p.Grammar setting.config → s'.output = s.output) ∧
      (p.Grammar setting.config →
        ∃ search, search.Tells p ∧ s.output.writeSearch search = .ok s'.output ∧
          s.output.tables.Gained s'.output.tables search.rows) := by
  intro p s'
  have hname : e.name = kind.elementName := SearchKind.elementName_of_mem_plain hkind
  have hcompiler : e.name = (ElementCompiler.search kind).name := hname
  have hvisit : e.visit setting .full enclosure = .ok (p.assessment setting.config,
      some (.search e.name (p.id? setting.config))) :=
    visit_of_placed (p := p) (structureFault?_of_name hcompiler hdistinct) hname hplace.placement?
  have hs' : s' = s.absorb [p.assessment setting.config] := s.compileAlone_of_visit hvisit
  have hvalue : (p.assessment setting.config).value.isSome =
      Assessment.clean setting.config.warningsAsErrors (p.faults setting.config) := by
    rw [PlacedSearch.assessment, Option.isSome_map, PlacedSearch.isSome_search?]
    rfl
  obtain ⟨haccepted, hrefused, hemitted⟩ := s.absorb_singleton_of_acceptance hvalue
    (fun strict => PlacedSearch.clean_faults_iff hkind hdistinct)
  refine ⟨⟨_, s.dispatch_eq_compileAlone hvisit⟩, _, by rw [hs', s.entries_absorb_singleton],
    haccepted, ?_, hs' ▸ hrefused, ?_⟩
  · have hfaults : (p.faults setting.config).filter (·.code == .unexpectedAttribute) = _ :=
      PlacedSearch.filter_faults hkind
    rw [Diagnostic.filter_code_graded, PlacedSearch.assessment, hfaults, List.map_map, hname]
    exact List.map_congr_left fun a _ => Diagnostic.graded_of_isError rfl s.log.strict
  · intro hgrammar
    obtain ⟨search, hsearch, htells⟩ := PlacedSearch.exists_tells hkind hdistinct hgrammar
    have houtput : s'.output = s.output.add (.search search) := by
      rw [hs', hemitted (.search search) (by rw [PlacedSearch.assessment, hsearch]; rfl)]
    rw [houtput]
    exact ⟨search, htells, s.output.writeSearch_eq search, s.output.gained_add (.search search)⟩

/-- A search for the version of a file, in a search for its directory. -/
theorem compileAlone_search_nested :
    let e : Element :=
      { name := "FileSearch"
        attributes := [⟨"Id", "Version", {}⟩, ⟨"Path", "app.exe", {}⟩, ⟨"Variable", "Found", {}⟩,
          ⟨"Result", "version", {}⟩] }
    let enclosure : Enclosure := .search "DirectorySearch" (some ⟨"Dir"⟩)
    let p : PlacedSearch := ⟨.file, e, .nested (some ⟨"Dir"⟩)⟩
    let setting : Setting := { config := { allowBuiltinVariables := true } }
    let s := UnitState.start setting.config
    let s' := s.compileAlone setting .full enclosure e
    (e.name, p.kind) ∈ SearchKind.plain ∧ enclosure.Places p.placement ∧
      (e.attributes.map (·.name)).Nodup ∧ p.Grammar setting.config ∧
      ∃ search, s.output.writeSearch search = .ok s'.output ∧
        search.search = { id := ⟨"Version"⟩, variableName := "Found", condition := none } ∧
        search.after = some ⟨"Dir"⟩ ∧
        search.detail = .fileSearch { id := ⟨"Version"⟩, path := "app.exe", flags := ⟨0x81⟩ } := by
  intro e enclosure p setting s s'
  have hkind : (e.name, p.kind) ∈ SearchKind.plain := by decide
  have hplace : enclosure.Places p.placement := .search _ _
  have hdistinct : (e.attributes.map (·.name)).Nodup := by decide
  obtain ⟨-, added, hentries, hclean, -, -, hwritten⟩ :=
    compileAlone_search s setting enclosure e hkind hplace hdistinct
  have hnone : s'.log.entries = [] := by decide +kernel
  have hgrammar : p.Grammar setting.config :=
    hclean.mp (by simp [List.append_eq_nil_iff.mp (hentries.symm.trans hnone)])
  obtain ⟨search, ⟨hvariable, hcondition, hafter, q, hqkind, hstated, hdetail, hid⟩, houtput, -⟩ :=
    hwritten hgrammar
  obtain ⟨⟨id, variableName, condition⟩, detail, after⟩ := search
  obtain rfl : "Found" = variableName := Option.some.inj hvariable
  obtain rfl : none = condition := hcondition
  obtain rfl : id = ⟨"Version"⟩ := hid
  refine ⟨hkind, hplace, hdistinct, hgrammar, _, houtput, rfl, hafter, ?_⟩
  cases hstated with
  | @file path bits hpath hresult =>
    obtain rfl : "app.exe" = path := Option.some.inj hpath
    have hversion : e.valueOf? "Result" = some "version" := rfl
    obtain rfl : bits = 0x81 := by simpa [hversion] using hresult
    exact hdetail
  | component => cases hqkind
  | directory => cases hqkind

end InstallMarkup
