import InstallMarkup.Proofs.Reading.Clean
import InstallMarkup.Vocabulary

/-!
# Accepted searches

A search element is compiled in the place that it has. This file says what that comes to, once for
all five kinds:

* **naming never fails**: a header and a query always make a search, `SearchQuery.written`, since
  the families hash as many fields as the kinds supply (`build_eq`);
* **acceptance is cleanness**: a search is written exactly if the element raised no error of its own
  (`isSome_search?`). The way from left to right is the definition; the other one says that no part
  of a search can be absent without a diagnostic;
* **assessment**: `SearchKind.assess` gives just these two, what was raised and the search
  (`assess_eq`), and never a fault;
* **references**: a reference to a search is emitted exactly if it raised no error either
  (`SearchReference.isSome_value_assess`), and then has an identifier (`SearchReference.of_value`).
-/

namespace InstallMarkup

/-! ## Naming -/

namespace SearchQuery

/-- The text that the identifier of a search is computed from. -/
def material (q : SearchQuery) (h : SearchHeader) : String :=
  Identifier.material (.search q.kind) (h.hashFields ++ q.hashFields)

/-- The author's identifier, or the computed one. -/
def identifier (q : SearchQuery) (h : SearchHeader) : Identifier :=
  h.id.getD (Identifier.ofMaterial (.search q.kind) (q.material h))

/-- The search that a header and a query make. -/
def written (q : SearchQuery) (h : SearchHeader) : ValidatedSearch :=
  h.complete (q.identifier h) (q.row (q.identifier h))

/-- A search supplies as many fields as its family hashes. -/
theorem length_hashFields (q : SearchQuery) (h : SearchHeader) :
    (h.hashFields ++ q.hashFields).length = (IdentifierFamily.search q.kind).fieldCount := by
  cases q <;> rfl

theorem build_eq (q : SearchQuery) (h : SearchHeader) : q.build h = .ok (q.written h) := by
  rw [build, SearchHeader.identify]
  cases hid : h.id with
  | some id => simp [written, identifier, hid]
  | none =>
    simp only [Identifier.synthesize, if_pos (length_hashFields q h)]
    simp [written, identifier, hid, material]

@[simp] theorem written_id (q : SearchQuery) (h : SearchHeader) :
    (q.written h).search.id = q.identifier h := rfl

@[simp] theorem written_after (q : SearchQuery) (h : SearchHeader) :
    (q.written h).after = h.after := rfl

/-- The row of the kind goes to a table of its own and has the identifier of the search. -/
theorem key?_row (q : SearchQuery) (id : Identifier) : (q.row id).key? = some id := by
  cases q <;> rfl

theorem table_row_ne_search (q : SearchQuery) (id : Identifier) : (q.row id).table ≠ .search := by
  cases q <;> simp [row, Row.table]

theorem table_row_ne_searchRelation (q : SearchQuery) (id : Identifier) :
    (q.row id).table ≠ .searchRelation := by
  cases q <;> simp [row, Row.table]

end SearchQuery

/-! ## Searches in their places -/

/-- A search element in the place that it has. -/
structure PlacedSearch where
  kind : SearchKind
  element : Element
  placement : Placement

namespace PlacedSearch

variable (p : PlacedSearch) (config : Config)

/-- The common part, as far as the attributes make one. -/
def header : Assessment SearchHeader :=
  (SearchSettings.ofAttributes config p.kind.elementName p.element.attributes).header
    p.element p.placement

/-- The part of the kind, as far as the attributes make one. -/
def query : Assessment SearchQuery := p.kind.assessQuery p.element

/-- Everything that the element raises on its own, in order: attribute by attribute, then about the
common part, then about the part of the kind. Nested elements have no say in it. -/
def faults : List Diagnostic :=
  p.kind.attributeFaults config p.element ++ (p.header config).raised ++ p.query.raised

/-- Whether the element raises no error of its own. -/
def isClean : Bool := Assessment.clean config.warningsAsErrors (p.faults config)

/-- The search that is written for the element, if it is clean. -/
def search? : Option ValidatedSearch :=
  if p.isClean config then
    match (p.header config).value, p.query.value with
    | some h, some q => some (q.written h)
    | _, _ => none
  else none

/-- The identifier that the element has for the searches nested in it. -/
def id? : Option Identifier := (p.search? config).map (·.search.id)

/-- What the element comes to: everything that it raises, and the search if one is written. -/
def assessment : Assessment Emission := ⟨p.faults config, (p.search? config).map .search⟩

theorem searchId?_assessment : (p.assessment config).value.bind Emission.searchId? =
    p.id? config := by
  rw [assessment, id?]
  cases p.search? config <;> rfl

end PlacedSearch

/-! ## Nothing absent without a diagnostic -/

section Complete

variable {p : PlacedSearch} {config : Config}

theorem clean_parts (h : p.isClean config = true) :
    Assessment.clean config.warningsAsErrors (p.kind.attributeFaults config p.element) = true ∧
      Assessment.clean config.warningsAsErrors (p.header config).raised = true ∧
      Assessment.clean config.warningsAsErrors p.query.raised = true := by
  simp only [PlacedSearch.isClean, PlacedSearch.faults, Assessment.clean_append,
    Bool.and_eq_true] at h
  exact ⟨h.1.1, h.1.2, h.2⟩

/-- A checked attribute of a clean search has a setting as soon as it is there. -/
theorem exists_setting?_of_isClean {α : Type} (h : p.isClean config = true) {name : String}
    {read : Attribute → Except Diagnostic α}
    (hchecked : Checked (SearchSettings.rules config p.kind.elementName ++ p.kind.rules) name read)
    (herr : RaisesErrors read) (hhas : p.element.has name = true) :
    ∃ value, setting? p.element.attributes name read = some value :=
  hchecked.isSome_setting?_of_clean herr (clean_parts h).1 hhas

theorem exists_header_of_isClean (h : p.isClean config = true) :
    ∃ header, (p.header config).value = some header := by
  have hraised := (clean_parts h).2.1
  simp only [PlacedSearch.header, SearchSettings.header, Assessment.clean_append,
    Bool.and_eq_true] at hraised
  have hhas := has_of_clean_missing hraised.2 (List.mem_singleton.mpr rfl)
  obtain ⟨name, hname⟩ := exists_setting?_of_isClean h ⟨_, rfl, fun _ _ hd => hd⟩
    (RaisesErrors.readVariable config p.kind.elementName) hhas
  exact ⟨_, by rw [PlacedSearch.header, SearchSettings.header, SearchSettings.ofAttributes, hname,
    Option.map_some]⟩

/-- Codes that raise no error are not mixed, and one of them is there. -/
theorem codes_of_clean {strict : Bool} {e : Element}
    (h : Assessment.clean strict (ProductQuery.codeFaults e) = true) :
    ProductQuery.mixesCodes e = false ∧
      (e.has "UpgradeCode" = true ∨ e.has "ProductCode" = true ∨ e.has "Guid" = true) := by
  unfold ProductQuery.codeFaults at h
  unfold ProductQuery.mixesCodes Element.has
  cases hguid : e.attribute? "Guid" <;> cases hproduct : e.attribute? "ProductCode" <;>
    cases hupgrade : e.attribute? "UpgradeCode" <;>
    simp_all [Assessment.clean, Diagnostic.graded, Diagnostic.isError, Diagnostic.errorAt,
      Diagnostic.mutuallyExclusive, Diagnostic.missingOneOf]

/-- Settings that raise no error do not contradict each other: replacing variables is refused at the
attribute that asks for it, and the attribute is there if it has a setting. -/
theorem not_contradicts_of_clean {strict : Bool} {e : Element}
    (h : Assessment.clean strict (RegistryQuery.contradictionFaults e) = true) :
    RegistryQuery.contradicts e = false := by
  by_contra hcontra
  have hcontradicts : RegistryQuery.contradicts e = true := by simpa using hcontra
  have hexpands : RegistryQuery.expands e = true := by
    rw [RegistryQuery.contradicts, Bool.and_eq_true] at hcontradicts
    exact hcontradicts.1
  cases hset : setting? e.attributes "ExpandEnvironmentVariables"
      (·.yesNo RegistryQuery.element) with
  | none => simp [RegistryQuery.expands, hset] at hexpands
  | some value =>
    obtain ⟨a, ha⟩ := Option.isSome_iff_exists.mp (has_of_setting? hset)
    have hraised : Diagnostic.illegalCombination RegistryQuery.element "ExpandEnvironmentVariables"
        "Result" "exists" a.location ∈ RegistryQuery.contradictionFaults e := by
      simp [RegistryQuery.contradictionFaults, hcontradicts, ha]
    exact absurd (Assessment.isError_of_clean h hraised)
      (by simp [Diagnostic.illegalCombination, Diagnostic.errorAt, Diagnostic.isError])

theorem exists_query_of_isClean (h : p.isClean config = true) :
    ∃ query, p.query.value = some query := by
  have hraised := (clean_parts h).2.2
  obtain ⟨kind, e, placement⟩ := p
  rw [← Option.isSome_iff_exists]
  cases kind with
  | component =>
    have hhas : e.has "Guid" = true := has_of_clean_missing hraised (List.mem_singleton.mpr rfl)
    obtain ⟨guid, hguid⟩ := exists_setting?_of_isClean h ⟨_, rfl, fun _ _ hd => hd⟩
      (RaisesErrors.guid ComponentQuery.element) hhas
    simp [PlacedSearch.query, SearchKind.assessQuery, ComponentQuery.assess, Assessment.map, hguid]
  | directory =>
    have hhas : e.has "Path" = true := has_of_clean_missing hraised (List.mem_singleton.mpr rfl)
    obtain ⟨path, hpath⟩ := exists_setting?_of_isClean h ⟨_, rfl, fun _ _ hd => hd⟩
      (RaisesErrors.text SearchKind.directory.elementName) hhas
    simp [PlacedSearch.query, SearchKind.assessQuery, PathQuery.assessDirectory, PathQuery.assess,
      Assessment.map, hpath]
  | file =>
    have hhas : e.has "Path" = true := has_of_clean_missing hraised (List.mem_singleton.mpr rfl)
    obtain ⟨path, hpath⟩ := exists_setting?_of_isClean h ⟨_, rfl, fun _ _ hd => hd⟩
      (RaisesErrors.text SearchKind.file.elementName) hhas
    simp [PlacedSearch.query, SearchKind.assessQuery, PathQuery.assessFile, PathQuery.assess,
      Assessment.map, hpath]
  | product =>
    obtain ⟨hmixes, hcode⟩ := codes_of_clean hraised
    suffices hsettings : (ProductQuery.ofSettings e).isSome = true by
      simpa [PlacedSearch.query, SearchKind.assessQuery, ProductQuery.assess, Assessment.map,
        hmixes] using hsettings
    rcases hcode with hhas | hhas | hhas
    · obtain ⟨code, hset⟩ := exists_setting?_of_isClean h ⟨_, rfl, fun _ _ hd => hd⟩
        (RaisesErrors.guid ProductQuery.element) hhas
      simp [ProductQuery.ofSettings, hset]
    · obtain ⟨code, hset⟩ := exists_setting?_of_isClean h ⟨_, rfl, fun _ _ hd => hd⟩
        (RaisesErrors.guid ProductQuery.element) hhas
      cases hupgrade : setting? e.attributes "UpgradeCode" (·.guid ProductQuery.element) <;>
        simp [ProductQuery.ofSettings, hset, hupgrade]
    · -- the rule of the old name raises its warning too, so the reading is the rest of it
      obtain ⟨code, hset⟩ := exists_setting?_of_isClean h
        ⟨_, rfl, fun _ _ hd => List.mem_cons_of_mem _ hd⟩
        (RaisesErrors.guid ProductQuery.element) hhas
      cases hupgrade : setting? e.attributes "UpgradeCode" (·.guid ProductQuery.element) <;>
        simp [ProductQuery.ofSettings, hset, hupgrade]
  | registry =>
    simp only [PlacedSearch.query, SearchKind.assessQuery, RegistryQuery.assess, Assessment.map,
      Assessment.clean_append, Bool.and_eq_true] at hraised
    obtain ⟨hmissing, hcontradiction⟩ := hraised
    have hroot : e.has "Root" = true := has_of_clean_missing hmissing (by simp)
    have hkey : e.has "Key" = true := has_of_clean_missing hmissing (by simp)
    obtain ⟨root, hroot⟩ := exists_setting?_of_isClean h ⟨_, rfl, fun _ _ hd => hd⟩
      (RaisesErrors.choice RegistryQuery.roots RegistryQuery.element) hroot
    obtain ⟨key, hkey⟩ := exists_setting?_of_isClean h ⟨_, rfl, fun _ _ hd => hd⟩
      (RaisesErrors.text RegistryQuery.element) hkey
    simp [PlacedSearch.query, SearchKind.assessQuery, RegistryQuery.assess, Assessment.map,
      not_contradicts_of_clean hcontradiction, RegistryQuery.ofSettings, hroot, hkey]

end Complete

/-! ## Acceptance -/

namespace PlacedSearch

variable {p : PlacedSearch} {config : Config}

theorem isSome_search? : (p.search? config).isSome = p.isClean config := by
  rw [search?]
  cases hclean : p.isClean config with
  | false => rfl
  | true =>
    obtain ⟨h, hheader⟩ := exists_header_of_isClean hclean
    obtain ⟨q, hquery⟩ := exists_query_of_isClean hclean
    simp [hheader, hquery]

/-- What is written for an element comes from its header and its query. -/
theorem search?_eq_some {s : ValidatedSearch} (hs : p.search? config = some s) :
    p.isClean config = true ∧ ∃ h q, (p.header config).value = some h ∧ p.query.value = some q ∧
      s = q.written h := by
  rw [search?] at hs
  split at hs
  · rename_i hclean
    split at hs
    · rename_i h q hheader hquery
      exact ⟨hclean, h, q, hheader, hquery, (Option.some.inj hs).symm⟩
    · cases hs
  · cases hs

theorem kind_of_query {q : SearchQuery} (hq : p.query.value = some q) : q.kind = p.kind := by
  obtain ⟨kind, e, placement⟩ := p
  cases kind <;>
    (obtain ⟨_, _, rfl⟩ := Option.map_eq_some_iff.mp hq
     rfl)

/-- Assessing a search gives what it raises and what is written for it. -/
theorem assess_eq : p.kind.assess config p.element p.placement =
    .ok ⟨p.faults config, p.search? config⟩ := by
  cases hclean : p.isClean config with
  | true =>
    obtain ⟨h, hheader⟩ := exists_header_of_isClean hclean
    obtain ⟨q, hquery⟩ := exists_query_of_isClean hclean
    have hsearch : p.search? config = some (q.written h) := by
      simp [search?, hclean, hheader, hquery]
    rw [hsearch]
    simp only [isClean, faults, header, query] at hclean hheader hquery
    simp only [SearchKind.assess, hheader, hquery, hclean, SearchQuery.build_eq]
    rfl
  | false =>
    have hsearch : p.search? config = none := by simp [search?, hclean]
    rw [hsearch]
    simp only [isClean, faults, header, query] at hclean
    simp only [SearchKind.assess, hclean]
    split <;> rfl

end PlacedSearch

/-! ## References -/

namespace SearchReference

variable (strict : Bool) (kind : SearchKind) (e : Element)

/-- Everything that a reference raises. -/
def faults : List Diagnostic :=
  AttributeRule.checkAll (rules kind.referenceName) kind.referenceName e.attributes ++
    missingAttributes ["Id"] kind.referenceName e ++ unexpectedChildren kind.referenceName e

/-- A reference is emitted if it has an identifier and none of the faults counts as an error. -/
theorem assess_eq_match : assess strict kind e =
    match setting? e.attributes "Id" (·.identifier kind.referenceName) with
    | some id =>
      if Assessment.clean strict (faults kind e) then ⟨faults kind e, some (.searchReference id)⟩
      else .rejected (faults kind e)
    | none => .rejected (faults kind e) := rfl

theorem raised_assess : (assess strict kind e).raised = faults kind e := by
  rw [assess_eq_match]
  split
  · split <;> rfl
  · rfl

variable {strict kind e}

theorem exists_id_of_clean (h : Assessment.clean strict (faults kind e) = true) :
    ∃ id, setting? e.attributes "Id" (·.identifier kind.referenceName) = some id := by
  simp only [faults, Assessment.clean_append, Bool.and_eq_true] at h
  obtain ⟨⟨hattributes, hmissing⟩, -⟩ := h
  have hchecked : Checked (rules kind.referenceName) "Id" (·.identifier kind.referenceName) :=
    ⟨_, rfl, fun _ _ hd => hd⟩
  exact hchecked.isSome_setting?_of_clean (RaisesErrors.identifier kind.referenceName) hattributes
    (has_of_clean_missing hmissing (List.mem_singleton.mpr rfl))

theorem isSome_value_assess : (assess strict kind e).value.isSome =
    Assessment.clean strict (assess strict kind e).raised := by
  rw [raised_assess, assess_eq_match]
  cases hclean : Assessment.clean strict (faults kind e) with
  | true =>
    obtain ⟨id, hid⟩ := exists_id_of_clean hclean
    simp [hid]
  | false => split <;> rfl

theorem of_value {em : Emission} (h : (assess strict kind e).value = some em) :
    ∃ id, em = .searchReference id ∧
      setting? e.attributes "Id" (·.identifier kind.referenceName) = some id ∧
      Assessment.clean strict (assess strict kind e).raised = true := by
  have hclean : Assessment.clean strict (assess strict kind e).raised = true := by
    rw [← isSome_value_assess, h]
    rfl
  rw [raised_assess] at hclean
  obtain ⟨id, hid⟩ := exists_id_of_clean hclean
  have hvalue : (assess strict kind e).value = some (.searchReference id) := by
    rw [assess_eq_match]
    simp [hid, hclean]
  exact ⟨id, Option.some.inj (h.symm.trans hvalue), hid, by rw [raised_assess]; exact hclean⟩

end SearchReference

end InstallMarkup
