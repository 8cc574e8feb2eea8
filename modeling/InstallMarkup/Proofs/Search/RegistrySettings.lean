import InstallMarkup.Proofs.Reading.Grammar
import InstallMarkup.Proofs.Row.WellFormed
import InstallMarkup.Proofs.Run.Emitted
import InstallMarkup.Proofs.Run.Faults

/-!
# What registry searches may say

A registry search whose common part is in order (`RegistryQuery.Headed`) is accepted exactly if its
own attributes say what they may (`RegistryQuery.Grammar`, `clean_faults_iff`). Then its row tells
what they say: the hive, the key and the value as they stand, and by the mask the four settings that
have a default (`RegistryQuery.Settings`).

* **masks**: the settings with a default are packed in the mask, and each can be read back
  (`words_mask`);
* **choices**: what the attributes of an accepted element choose (`RegistryQuery.Chosen`) makes its
  query, and depends on its settings alone (`Chosen.query_eq`);
* **rows**: an element that is compiled adds an error and leaves the output alone, or writes a row
  that tells its settings (`compileAlone_registrySearch`).
-/

namespace InstallMarkup

/-! ## Settings -/

namespace RegistryQuery

/-- What a registry search says, by the words that stand for it; the hive and the key are there if
it is accepted. -/
structure Settings where
  root : Option String
  key : Option String
  value : Option String
  result : String
  format : String
  expand : String
  win64 : String
  deriving DecidableEq, Repr

/-- The words of the attributes, or those of the defaults. -/
def Settings.ofElement (e : Element) : Settings where
  root := e.valueOf? "Root"
  key := e.valueOf? "Key"
  value := e.valueOf? "Value"
  result := (e.valueOf? "Result").getD "value"
  format := (e.valueOf? "Format").getD "raw"
  expand := (e.valueOf? "ExpandEnvironmentVariables").getD "no"
  win64 := (e.valueOf? "Win64").getD "no"

end RegistryQuery

namespace RegistrySearchFlags

variable (s : RegistrySearchFlags)

/-- The result that a mask is for. -/
def resultWord : String := if s.Includes wantExists then "exists" else "value"

/-- The form that a mask is for. -/
def formatWord : String := if s.Includes compatible then "compatible" else "raw"

/-- Whether a mask is for replacing environment variables. -/
def expandWord : String := if s.Includes expandEnvironmentVariables then "yes" else "no"

/-- Whether a mask is for the 64-bit view. -/
def win64Word : String := if s.Includes win64 then "yes" else "no"

end RegistrySearchFlags

namespace RegistryQuery

/-- What a row tells of the search. -/
def Settings.ofRow (row : RegistrySearchRow) : Settings where
  root := some row.root.markup
  key := some row.key
  value := row.value
  result := row.flags.resultWord
  format := row.flags.formatWord
  expand := row.flags.expandWord
  win64 := row.flags.win64Word

/-! ## Masks -/

/-- The mask of the settings that have a default. -/
def mask (result format : RegistrySearchFlags) (expand win64 : Bool) : RegistrySearchFlags :=
  let base := result.union format
  let base := if expand then base.union RegistrySearchFlags.expandEnvironmentVariables else base
  if win64 then base.union RegistrySearchFlags.win64 else base

theorem effectiveFlags_eq (e : Element) :
    effectiveFlags e = mask (result e) (format e) (expands e) (searches64 e) := rfl

/-- Each setting that is packed in a mask can be read back. -/
theorem words_mask : ∀ result ∈ results, ∀ format ∈ formats, ∀ expand win64 : Bool,
    (mask result.2 format.2 expand win64).resultWord = result.1 ∧
      (mask result.2 format.2 expand win64).formatWord = format.1 ∧
      (mask result.2 format.2 expand win64).expandWord = (if expand then "yes" else "no") ∧
      (mask result.2 format.2 expand win64).win64Word = if win64 then "yes" else "no" := by
  decide

/-! ## The grammar -/

/-- A registry search whose common part is in order: whether it is accepted depends on the
attributes of its kind alone. -/
structure Headed (config : Config) (e : Element) : Prop where
  name : e.name = "RegistrySearch"
  distinct : (e.attributes.map (·.name)).Nodup
  known : ∀ a ∈ e.attributes, a.name ∈ ["Id", "Variable", "Condition", "After", "Root", "Key",
    "Value", "Format", "ExpandEnvironmentVariables", "Result", "Win64"]
  id : e.AbsentOr "Id" (Identifier.isLegal · = true)
  variableName : e.Present "Variable" fun text => Identifier.isLegal text = true ∧
    (config.allowBuiltinVariables = true ∨ isBuiltinVariable text = false)
  condition : e.AbsentOr "Condition" (· ≠ "")
  after : e.AbsentOr "After" (Identifier.isLegal · = true)

/-- What the attributes of a registry search may say. -/
structure Grammar (e : Element) : Prop where
  root : e.Present "Root" (· ∈ ["HKCR", "HKCU", "HKLM", "HKU"])
  key : e.Present "Key" (· ≠ "")
  value : e.AbsentOr "Value" (· ≠ "")
  format : e.AbsentOr "Format" (· ∈ ["raw", "compatible"])
  expand : e.AbsentOr "ExpandEnvironmentVariables" fun text => text = "yes" ∨ text = "no"
  result : e.AbsentOr "Result" (· ∈ ["exists", "value"])
  win64 : e.AbsentOr "Win64" fun text => text = "yes" ∨ text = "no"
  /-- Variables are not replaced in a result that is no value. -/
  consistent : ¬ (e.valueOf? "Result" = some "exists" ∧
    e.valueOf? "ExpandEnvironmentVariables" = some "yes")

variable {e : Element}

theorem names_rules (config : Config) :
    (SearchSettings.rules config element ++ rules).map (·.name) = ["Id", "Variable", "Condition",
      "After", "Root", "Key", "Value", "Format", "ExpandEnvironmentVariables", "Result", "Win64"] :=
  rfl

theorem clean_attributes_iff {config : Config} {strict : Bool} (h : Headed config e) :
    Assessment.clean strict
        (AttributeRule.checkAll (SearchSettings.rules config element ++ rules) element
          e.attributes) = true ↔
      e.AbsentOr "Root" (· ∈ ["HKCR", "HKCU", "HKLM", "HKU"]) ∧ e.AbsentOr "Key" (· ≠ "") ∧
        e.AbsentOr "Value" (· ≠ "") ∧ e.AbsentOr "Format" (· ∈ ["raw", "compatible"]) ∧
        e.AbsentOr "ExpandEnvironmentVariables" (fun text => text = "yes" ∨ text = "no") ∧
        e.AbsentOr "Result" (· ∈ ["exists", "value"]) ∧
        e.AbsentOr "Win64" fun text => text = "yes" ∨ text = "no" := by
  have hrules : ((SearchSettings.rules config element ++ rules).map (·.name)).Nodup := by
    rw [names_rules]
    decide
  rw [clean_checkAll_iff h.distinct hrules, names_rules, and_iff_right h.known,
    List.forall_mem_append]
  simp only [SearchSettings.rules, rules, List.forall_mem_cons, content_identifier_iff,
    content_readVariable_iff, content_text_iff, content_choice_iff, content_yesNo_iff,
    List.not_mem_nil, false_implies, implies_true, and_true]
  exact and_iff_right ⟨h.id, (present_iff.mp h.variableName).2, h.condition, h.after⟩

/-! ## Words and settings -/

section Words

variable (hdistinct : (e.attributes.map (·.name)).Nodup)

include hdistinct

theorem exists_result (h : e.AbsentOr "Result" (· ∈ ["exists", "value"])) :
    ∃ option ∈ results, (e.valueOf? "Result").getD "value" = option.1 ∧ result e = option.2 :=
  Reads.exists_option hdistinct rfl h

theorem exists_format (h : e.AbsentOr "Format" (· ∈ ["raw", "compatible"])) :
    ∃ option ∈ formats, (e.valueOf? "Format").getD "raw" = option.1 ∧ format e = option.2 :=
  Reads.exists_option hdistinct rfl h

theorem getD_expand
    (h : e.AbsentOr "ExpandEnvironmentVariables" fun text => text = "yes" ∨ text = "no") :
    (e.valueOf? "ExpandEnvironmentVariables").getD "no" = if expands e then "yes" else "no" :=
  Reads.getD_yesNo hdistinct h

theorem getD_win64 (h : e.AbsentOr "Win64" fun text => text = "yes" ∨ text = "no") :
    (e.valueOf? "Win64").getD "no" = if searches64 e then "yes" else "no" :=
  Reads.getD_yesNo hdistinct h

/-- Settings contradict each other if the words do. -/
theorem contradicts_iff (hresult : e.AbsentOr "Result" (· ∈ ["exists", "value"]))
    (hexpand : e.AbsentOr "ExpandEnvironmentVariables" fun text => text = "yes" ∨ text = "no") :
    contradicts e = true ↔ e.valueOf? "Result" = some "exists" ∧
      e.valueOf? "ExpandEnvironmentVariables" = some "yes" := by
  obtain ⟨option, hoption, hword, hread⟩ := exists_result hdistinct hresult
  have hboth : ∀ option ∈ results, ∀ expand : Bool,
      (expand && option.2 == RegistrySearchFlags.wantExists) = true ↔
        option.1 = "exists" ∧ (if expand then "yes" else "no") = "yes" := by decide
  rw [valueOf?_eq_some_iff "value" (by decide), valueOf?_eq_some_iff "no" (by decide), hword,
    getD_expand hdistinct hexpand, contradicts, hread]
  exact hboth option hoption (expands e)

end Words

theorem clean_contradictionFaults_iff {strict : Bool} :
    Assessment.clean strict (contradictionFaults e) = true ↔ contradicts e = false := by
  constructor
  · exact not_contradicts_of_clean
  · intro hnone
    rw [contradictionFaults, hnone]
    rfl

/-- A registry search with its common part in order raises no error exactly if its attributes say
what they may. -/
theorem clean_faults_iff {config : Config} {strict : Bool} (h : Headed config e) :
    Assessment.clean strict (PlacedSearch.faults ⟨.registry, e, .topLevel⟩ config) = true ↔
      Grammar e := by
  have hparts : PlacedSearch.faults ⟨.registry, e, .topLevel⟩ config =
      AttributeRule.checkAll (SearchSettings.rules config element ++ rules) element e.attributes ++
        missingAttributes ["Variable"] e.name e ++
        (missingAttributes ["Root", "Key"] element e ++ contradictionFaults e) := rfl
  have hvariable : e.has "Variable" = true := (present_iff.mp h.variableName).1
  simp only [hparts, Assessment.clean_append, Bool.and_eq_true, clean_missingAttributes_iff,
    clean_attributes_iff h, clean_contradictionFaults_iff, hvariable,
    List.forall_mem_cons, List.not_mem_nil, false_implies, implies_true, and_true]
  constructor
  · rintro ⟨⟨hroot, hkey, hvalue, hformat, hexpand, hresult, hwin64⟩, ⟨hhasRoot, hhasKey⟩, hnone⟩
    refine ⟨present_iff.mpr ⟨hhasRoot, hroot⟩, present_iff.mpr ⟨hhasKey, hkey⟩, hvalue, hformat,
      hexpand, hresult, hwin64, ?_⟩
    rw [← contradicts_iff h.distinct hresult hexpand, hnone]
    exact Bool.false_ne_true
  · rintro ⟨hroot, hkey, hvalue, hformat, hexpand, hresult, hwin64, hconsistent⟩
    rw [← contradicts_iff h.distinct hresult hexpand, Bool.not_eq_true] at hconsistent
    exact ⟨⟨(present_iff.mp hroot).2, (present_iff.mp hkey).2, hvalue, hformat, hexpand, hresult,
      hwin64⟩, ⟨(present_iff.mp hroot).1, (present_iff.mp hkey).1⟩, hconsistent⟩

/-! ## Choices -/

/-- What the attributes of an element choose, where they say what they may. -/
structure Chosen (e : Element) where
  root : RegistryRoot
  key : String
  result : String × RegistrySearchFlags
  format : String × RegistrySearchFlags
  expand : Bool
  win64 : Bool
  result_mem : result ∈ results
  format_mem : format ∈ formats
  settings : Settings.ofElement e =
    { root := some root.markup
      key := some key
      value := e.valueOf? "Value"
      result := result.1
      format := format.1
      expand := if expand then "yes" else "no"
      win64 := if win64 then "yes" else "no" }

/-- The query that the choices make. -/
def Chosen.query (c : Chosen e) : RegistryQuery where
  root := c.root
  key := c.key
  value := e.valueOf? "Value"
  flags := mask c.result.2 c.format.2 c.expand c.win64

/-- An element that says what it may makes the query of its choices. -/
theorem exists_chosen (hdistinct : (e.attributes.map (·.name)).Nodup) (h : Grammar e) :
    ∃ c : Chosen e, (assess e).value = some c.query := by
  have hroots : ∀ text ∈ ["HKCR", "HKCU", "HKLM", "HKU"], ∃ root ∈ RegistryRoot.all,
      roots.lookup text = some root ∧ root.markup = text := by decide
  obtain ⟨_, hroot, hmem⟩ := h.root
  obtain ⟨root, -, hlookup, rfl⟩ := hroots _ hmem
  have hreadRoot : setting? e.attributes "Root" (Attribute.choice roots element) = some root :=
    ((Reads.choice roots element).setting?_eq_some_iff hdistinct).mpr ⟨_, hroot, hlookup⟩
  obtain ⟨key, hkey, -⟩ := h.key
  have hreadKey : setting? e.attributes "Key" (·.text element) = some key :=
    (Reads.setting?_text_eq hdistinct (present_iff.mp h.key).2).trans hkey
  have hreadValue : setting? e.attributes "Value" (·.text element) = e.valueOf? "Value" :=
    Reads.setting?_text_eq hdistinct h.value
  obtain ⟨result, hresult, hresultWord, hreadResult⟩ := exists_result hdistinct h.result
  obtain ⟨format, hformat, hformatWord, hreadFormat⟩ := exists_format hdistinct h.format
  let c : Chosen e :=
    { root, key, result, format, expand := expands e, win64 := searches64 e
      result_mem := hresult, format_mem := hformat
      settings := by
        rw [Settings.ofElement, hroot, hkey, hresultWord, hformatWord,
          getD_expand hdistinct h.expand, getD_win64 hdistinct h.win64] }
  refine ⟨c, ?_⟩
  have hconsistent : contradicts e = false := by
    rw [← Bool.not_eq_true, contradicts_iff hdistinct h.result h.expand]
    exact h.consistent
  have hflags : effectiveFlags e = c.query.flags := by
    rw [effectiveFlags_eq, hreadResult, hreadFormat]
    rfl
  simp only [assess, hconsistent, Bool.false_eq_true, if_false, ofSettings, hreadRoot, hreadKey,
    hreadValue, hflags]
  rfl

/-- The row of the query tells the settings of the element. -/
theorem Chosen.ofRow_query (c : Chosen e) (id : Identifier) :
    Settings.ofRow
      { id, root := c.query.root, key := c.query.key, value := c.query.value
        flags := c.query.flags } = Settings.ofElement e := by
  obtain ⟨hresult, hformat, hexpand, hwin64⟩ :=
    words_mask c.result c.result_mem c.format c.format_mem c.expand c.win64
  rw [c.settings]
  simp only [Settings.ofRow, Chosen.query, hresult, hformat, hexpand, hwin64]

/-- Choices make the same query exactly if the settings agree. -/
theorem Chosen.query_eq_iff {e' : Element} (c : Chosen e) (c' : Chosen e') :
    c.query = c'.query ↔ Settings.ofElement e = Settings.ofElement e' := by
  constructor
  · intro hquery
    rw [← c.ofRow_query ⟨""⟩, ← c'.ofRow_query ⟨""⟩, hquery]
  · intro hsettings
    have hmarkup : ∀ root ∈ RegistryRoot.all, ∀ root' ∈ RegistryRoot.all,
        root.markup = root'.markup → root = root' := by decide
    have hall : ∀ root : RegistryRoot, root ∈ RegistryRoot.all := by
      rintro ⟨⟩ <;> decide
    have hresults : ∀ result ∈ results, ∀ result' ∈ results, result.1 = result'.1 →
        result = result' := by decide
    have hformats : ∀ format ∈ formats, ∀ format' ∈ formats, format.1 = format'.1 →
        format = format' := by decide
    have hanswers : ∀ answer answer' : Bool, (if answer then "yes" else "no") =
        (if answer' then "yes" else "no") → answer = answer' := by decide
    rw [c.settings, c'.settings, Settings.mk.injEq] at hsettings
    obtain ⟨hroot, hkey, hvalue, hresult, hformat, hexpand, hwin64⟩ := hsettings
    have hroot := hmarkup _ (hall _) _ (hall _) (Option.some.inj hroot)
    have hresult := hresults _ c.result_mem _ c'.result_mem hresult
    have hformat := hformats _ c.format_mem _ c'.format_mem hformat
    simp only [Chosen.query, hroot, Option.some.inj hkey, hvalue, hresult, hformat,
      hanswers _ _ hexpand, hanswers _ _ hwin64]

/-- The search that is written for an element that says what it may has the query of its choices. -/
theorem exists_search {config : Config} (h : Headed config e) (hgrammar : Grammar e) :
    ∃ (c : Chosen e) (header : SearchHeader), (assess e).value = some c.query ∧
      PlacedSearch.search? ⟨.registry, e, .topLevel⟩ config =
        some ((SearchQuery.registry c.query).written header) := by
  let p : PlacedSearch := ⟨.registry, e, .topLevel⟩
  obtain ⟨c, hc⟩ := exists_chosen h.distinct hgrammar
  have haccepted : (p.search? config).isSome = true := by
    rw [PlacedSearch.isSome_search?]
    exact (clean_faults_iff h).mpr hgrammar
  obtain ⟨search, hsearch⟩ := Option.isSome_iff_exists.mp haccepted
  obtain ⟨-, header, query, -, hquery, rfl⟩ := PlacedSearch.search?_eq_some hsearch
  have hassessed : p.query.value = some (.registry c.query) := by
    show ((assess e).map SearchQuery.registry).value = _
    rw [Assessment.map, hc]
    rfl
  obtain rfl : SearchQuery.registry c.query = query :=
    Option.some.inj (hassessed.symm.trans hquery)
  exact ⟨c, header, hc, hsearch⟩

end RegistryQuery

/-! ## Registry searches in runs -/

/-- In every state, a registry search whose common part is in order adds no error in a bundle or a
fragment exactly if its attributes say what they may. If they do, its row tells what they say, and
another such search has the same query exactly if its settings are the same; otherwise the output
stays as it is. What is nested in the search is compiled after it. -/
theorem compileAlone_registrySearch (s : UnitState) (setting : Setting) (h : Host) (e : Element)
    (hkind : h.kind = .bundle ∨ h.kind = .fragment)
    (hheaded : RegistryQuery.Headed setting.config e) :
    let s' := s.compileAlone setting .full (.host h) e
    (∃ inner, s.dispatch setting .full (.host h) e =
      s'.dispatchNested setting .full e.children (some inner)) ∧
    ∃ added, s'.log.entries = s.log.entries ++ added ∧
      ((∀ d ∈ added, d.isError = false) ↔ RegistryQuery.Grammar e) ∧
      (¬ RegistryQuery.Grammar e → s'.output = s.output) ∧
      (RegistryQuery.Grammar e →
        (∃ search row, s'.output = s.output.add (.search search) ∧
          search.detail = .registrySearch row ∧
          .registrySearch row ∈ s'.output.tables.rows .registrySearch ∧
          RegistryQuery.Settings.ofRow row = RegistryQuery.Settings.ofElement e) ∧
        ∀ e', RegistryQuery.Headed setting.config e' → RegistryQuery.Grammar e' →
          ((RegistryQuery.assess e).value = (RegistryQuery.assess e').value ↔
            RegistryQuery.Settings.ofElement e = RegistryQuery.Settings.ofElement e')) := by
  intro s'
  let p : PlacedSearch := ⟨.registry, e, .topLevel⟩
  have hname : e.name = (ElementCompiler.search .registry).name := hheaded.name
  have hplace : (Enclosure.host h).placement? = some p.placement := by
    rcases hkind with hkind | hkind <;>
      simp [Enclosure.placement?, hkind, HostKind.holdsSearches, p]
  have hvisit : e.visit setting .full (.host h) = .ok (p.assessment setting.config,
      some (.search e.name (p.id? setting.config))) :=
    visit_of_placed (structureFault?_of_name hname hheaded.distinct) hname hplace
  have hs' : s' = s.absorb [p.assessment setting.config] := s.compileAlone_of_visit hvisit
  refine ⟨⟨_, s.dispatch_eq_compileAlone hvisit⟩,
    (p.faults setting.config).map (·.graded s.log.strict), ?_, ?_, ?_, ?_⟩
  · rw [hs', s.entries_absorb_singleton]
    rfl
  · rw [← Assessment.clean_iff]
    exact RegistryQuery.clean_faults_iff hheaded
  · intro hrefused
    have hnone : (p.assessment setting.config).value = none := by
      rw [← Option.not_isSome_iff_eq_none, PlacedSearch.assessment, Option.isSome_map,
        PlacedSearch.isSome_search?]
      exact fun hclean => hrefused ((RegistryQuery.clean_faults_iff hheaded).mp hclean)
    rw [hs', s.output_absorb_of_none hnone]
  · intro hgrammar
    obtain ⟨c, header, hc, hsearch⟩ := RegistryQuery.exists_search hheaded hgrammar
    refine ⟨?_, ?_⟩
    · have hvalue : (p.assessment setting.config).value =
          some (.search ((SearchQuery.registry c.query).written header)) := by
        rw [PlacedSearch.assessment, hsearch, Option.map_some]
      have houtput : s'.output = s.output.add
          (.search ((SearchQuery.registry c.query).written header)) := by
        rw [hs', s.output_absorb_of_some hvalue]
      refine ⟨(SearchQuery.registry c.query).written header, _, houtput, rfl, ?_,
        c.ofRow_query _⟩
      rw [houtput]
      exact mem_rows_add (List.mem_cons_of_mem _ List.mem_cons_self)
    · intro e' hheaded' hgrammar'
      obtain ⟨c', hc'⟩ := RegistryQuery.exists_chosen hheaded'.distinct hgrammar'
      rw [hc, hc', Option.some_inj, c.query_eq_iff c']

/-- Saying what is meant anyway changes nothing. -/
theorem compileAlone_registrySearch_defaults :
    let search (attributes : List Attribute) : Element :=
      { name := "RegistrySearch"
        attributes := ⟨"Variable", "Found", {}⟩ :: ⟨"Root", "HKLM", {}⟩ ::
          ⟨"Key", "Software", {}⟩ :: attributes }
    let silent := search [⟨"Win64", "yes", {}⟩]
    let explicit := search [⟨"Format", "raw", {}⟩, ⟨"Result", "value", {}⟩, ⟨"Win64", "yes", {}⟩]
    let host : Host := { kind := .bundle }
    let setting : Setting := { config := { allowBuiltinVariables := true } }
    let s := UnitState.start setting.config
    (host.kind = .bundle ∨ host.kind = .fragment) ∧
      RegistryQuery.Headed setting.config silent ∧ RegistryQuery.Headed setting.config explicit ∧
      RegistryQuery.Grammar silent ∧ RegistryQuery.Grammar explicit ∧
      (∃ row, .registrySearch row ∈
          (s.compileAlone setting .full (.host host) silent).output.tables.rows .registrySearch ∧
        RegistryQuery.Settings.ofRow row = ⟨some "HKLM", some "Software", none, "value", "raw",
          "no", "yes"⟩) ∧
      (RegistryQuery.assess silent).value = (RegistryQuery.assess explicit).value := by
  intro search silent explicit host setting s
  have hkind : host.kind = .bundle ∨ host.kind = .fragment := .inl rfl
  have hlegal : Identifier.isLegal "Found" = true ∧
      (setting.config.allowBuiltinVariables = true ∨ isBuiltinVariable "Found" = false) :=
    ⟨by decide, .inl rfl⟩
  have hsilent : RegistryQuery.Headed setting.config silent :=
    ⟨rfl, by decide, by decide, absentOr_of_not_has (by decide), ⟨_, rfl, hlegal⟩,
      absentOr_of_not_has (by decide), absentOr_of_not_has (by decide)⟩
  have hexplicit : RegistryQuery.Headed setting.config explicit :=
    ⟨rfl, by decide, by decide, absentOr_of_not_has (by decide), ⟨_, rfl, hlegal⟩,
      absentOr_of_not_has (by decide), absentOr_of_not_has (by decide)⟩
  have hnone : ∀ e ∈ [silent, explicit],
      (s.compileAlone setting .full (.host host) e).log.entries = [] := by decide +kernel
  obtain ⟨-, added, hentries, hclean, -, hrow⟩ :=
    compileAlone_registrySearch s setting host silent hkind hsilent
  obtain ⟨-, added', hentries', hclean', -⟩ :=
    compileAlone_registrySearch s setting host explicit hkind hexplicit
  rw [hnone silent (by simp)] at hentries
  rw [hnone explicit (by simp)] at hentries'
  have hgrammar : RegistryQuery.Grammar silent :=
    hclean.mp (by simp [List.append_eq_nil_iff.mp hentries.symm])
  have hgrammar' : RegistryQuery.Grammar explicit :=
    hclean'.mp (by simp [List.append_eq_nil_iff.mp hentries'.symm])
  obtain ⟨⟨-, row, -, -, hmem, hsettings⟩, hsame⟩ := hrow hgrammar
  exact ⟨hkind, hsilent, hexplicit, hgrammar, hgrammar', ⟨row, hmem, hsettings⟩,
    (hsame explicit hexplicit hgrammar').mpr rfl⟩

end InstallMarkup
