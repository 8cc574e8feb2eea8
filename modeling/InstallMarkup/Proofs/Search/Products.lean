import InstallMarkup.Proofs.Reading.Grammar
import InstallMarkup.Proofs.Search.Acceptance

/-!
# Products by their codes

A product is looked for by a code, which three attributes can give. `ProductQuery.Written` says what
an element with just one of them looks for, and an element whose own attributes raise no error is
such an element (`clean_examine_iff`).

* **one kind alone**: `SearchKind.examine` is what an element comes to by the attributes of its
  kind; a search in its place raises all of it (`PlacedSearch.mem_faults_of_mem_examine`);
* **codes**: what is wrong with the choice of codes only depends on how many there are: none, one
  (`CodedBy`), or several (`missing_of_none`, `codeFaults_of_codedBy`, `exclusive_of_several`);
* **attributes**: they are clean exactly if every code is a spelling of a GUID and the result is one
  that can be asked for (`clean_attributes_iff`), and then nothing is raised but the warning about
  an old name (`attributeFaults_of_clean`);
* **queries**: what is written is what is looked for (`value_of_written`), and it does not matter
  which name of the product code it is written under (`Written.eq`).
-/

namespace InstallMarkup

/-- What an element comes to as a search of the kind, apart from what all searches have in common.
Attributes that are not the kind's own are passed over. -/
def SearchKind.examine (kind : SearchKind) (e : Element) : Assessment SearchQuery where
  raised := (e.attributes.flatMap fun a => (AttributeRule.check? kind.rules a).getD []) ++
    (kind.assessQuery e).raised
  value := (kind.assessQuery e).value

/-- The kinds have no attribute called as a common one. -/
theorem SearchKind.disjoint_names (config : Config) (kind : SearchKind) :
    ∀ rule ∈ kind.rules, rule.name ∉
      (SearchSettings.rules config kind.elementName).map (·.name) := by
  have hall :
      ∀ name ∈ kind.rules.map (·.name), name ∉ ["Id", "Variable", "Condition", "After"] := by
    cases kind <;> decide
  intro rule hrule
  exact hall rule.name (List.mem_map_of_mem hrule)

/-- A search raises everything that it raises as one of its kind. -/
theorem PlacedSearch.mem_faults_of_mem_examine {p : PlacedSearch} {config : Config} {d : Diagnostic}
    (hd : d ∈ (p.kind.examine p.element).raised) : d ∈ p.faults config := by
  rcases List.mem_append.mp hd with hd | hd
  · obtain ⟨a, ha, hd⟩ := List.mem_flatMap.mp hd
    refine List.mem_append_left _ (List.mem_append_left _ (List.mem_flatMap.mpr ⟨a, ha, ?_⟩))
    rw [AttributeRule.check?] at hd
    cases hfind : p.kind.rules.find? (·.name == a.name) with
    | none =>
      rw [hfind] at hd
      cases hd
    | some rule =>
      -- the rule is found behind the common ones too
      have hname : rule.name = a.name := by simpa using List.find?_some hfind
      have hcommon : (SearchSettings.rules config p.kind.elementName).find? (·.name == a.name) =
          none := by
        rw [find?_eq_none_iff_notMem, ← hname]
        exact SearchKind.disjoint_names config p.kind rule (List.mem_of_find?_eq_some hfind)
      rw [hfind] at hd
      rw [AttributeRule.checkStrictly, AttributeRule.check?, List.find?_append, hcommon,
        Option.none_or, hfind]
      exact hd
  · exact List.mem_append_right _ hd

namespace ProductQuery

variable {e : Element} {name : String}

/-! ## What is written -/

/-- The attributes that give a code. -/
def codeNames : List String := ["Guid", "ProductCode", "UpgradeCode"]

/-- The result that a word asks for. -/
inductive Asks : String → ProductSearchFlags → Prop
  | version : Asks "version" .version
  | language : Asks "language" .language
  | state : Asks "state" .state
  | assignment : Asks "assignment" .assignment

/-- The element gives a code under the name, and under no other. -/
structure CodedBy (e : Element) (name : String) : Prop where
  mem_names : name ∈ codeNames
  has_iff : ∀ other ∈ codeNames, e.has other = true ↔ other = name

/-- The element gives a code under the name, and under no other; the code and the flags of the query
are the ones that its attributes stand for. -/
structure Written (e : Element) (name : String) (q : ProductQuery) : Prop where
  coded : CodedBy e name
  code : e.Present name (Guid.Spells · q.code)
  /-- Without a result, the version is asked for. -/
  flags : ∃ result, Asks ((e.valueOf? "Result").getD "version") result ∧
    q.flags = if name = "UpgradeCode" then result.union ProductSearchFlags.upgradeCode else result

theorem asks_iff {text : String} {result : ProductSearchFlags} :
    Asks text result ↔ results.lookup text = some result := by
  constructor
  · rintro ⟨⟩ <;> rfl
  · intro h
    have hmem : (text, result) ∈ results := mem_of_lookup h
    simp only [results, List.mem_cons, Prod.mk.injEq, List.not_mem_nil, or_false] at hmem
    rcases hmem with ⟨rfl, rfl⟩ | ⟨rfl, rfl⟩ | ⟨rfl, rfl⟩ | ⟨rfl, rfl⟩ <;> constructor

theorem Asks.eq {text : String} {result result' : ProductSearchFlags} (h : Asks text result)
    (h' : Asks text result') : result = result' :=
  Option.some.inj ((asks_iff.mp h).symm.trans (asks_iff.mp h'))

/-! ## Codes -/

theorem codeFaults_of_codedBy (h : CodedBy e name) : codeFaults e = [] := by
  have hguid := h.has_iff "Guid" (by decide)
  have hproduct := h.has_iff "ProductCode" (by decide)
  have hupgrade := h.has_iff "UpgradeCode" (by decide)
  have hname := h.mem_names
  simp only [codeNames, List.mem_cons, List.not_mem_nil, or_false] at hname
  rcases hname with rfl | rfl | rfl <;>
    cases hguid' : e.attribute? "Guid" <;> cases hproduct' : e.attribute? "ProductCode" <;>
    cases hupgrade' : e.attribute? "UpgradeCode" <;>
    simp_all [codeFaults, Element.has]

/-- An element has no code, one, or several. -/
theorem codes_cases (e : Element) : codeNames.countP e.has = 0 ∨ (∃ name, CodedBy e name) ∨
    2 ≤ codeNames.countP e.has := by
  rw [List.countP_eq_length_filter]
  match hcodes : codeNames.filter e.has with
  | [] => exact .inl rfl
  | [name] =>
    have hmem : ∀ other, other ∈ codeNames ∧ e.has other = true ↔ other = name := by
      intro other
      rw [← List.mem_filter, hcodes, List.mem_singleton]
    refine .inr (.inl ⟨name, ((hmem name).mpr rfl).1, ?_⟩)
    intro other hother
    rw [← hmem, and_iff_right hother]
  | _ :: _ :: _ => exact .inr (.inr (by simp))

theorem missing_of_none (h : codeNames.countP e.has = 0) :
    codeFaults e = [.missingOneOf element ["ProductCode", "UpgradeCode"] e.location] := by
  cases hguid : e.attribute? "Guid" <;> cases hproduct : e.attribute? "ProductCode" <;>
    cases hupgrade : e.attribute? "UpgradeCode" <;>
    simp_all [codeFaults, codeNames, Element.has]

theorem exclusive_of_several (h : 2 ≤ codeNames.countP e.has) :
    ∃ d ∈ codeFaults e, d.isError = true ∧ d.code = .mutuallyExclusiveAttributes := by
  cases hguid : e.attribute? "Guid" <;> cases hproduct : e.attribute? "ProductCode" <;>
    cases hupgrade : e.attribute? "UpgradeCode" <;>
    simp_all [codeFaults, codeNames, Element.has, Diagnostic.mutuallyExclusive, Diagnostic.errorAt,
      Diagnostic.isError]

theorem clean_codeFaults_iff {strict : Bool} :
    Assessment.clean strict (codeFaults e) = true ↔ ∃ name, CodedBy e name := by
  constructor
  · intro hclean
    rcases codes_cases e with hnone | hone | hseveral
    · rw [missing_of_none hnone] at hclean
      have hnot := Assessment.isError_of_clean hclean (List.mem_singleton.mpr rfl)
      exact absurd hnot (by simp [Diagnostic.missingOneOf, Diagnostic.errorAt, Diagnostic.isError])
    · exact hone
    · obtain ⟨d, hd, herror, -⟩ := exclusive_of_several hseveral
      rw [Assessment.isError_of_clean hclean hd] at herror
      cases herror
  · rintro ⟨name, hcoded⟩
    rw [codeFaults_of_codedBy hcoded]
    rfl

/-! ## Attributes -/

theorem nodup_names_rules : (rules.map (·.name)).Nodup := by decide

/-- What the attributes of the kind raise, one by one. -/
def attributeFaults (e : Element) : List Diagnostic :=
  e.attributes.flatMap fun a => (AttributeRule.check? rules a).getD []

theorem content_oldName_iff : (AttributeRule.mk "Guid" fun a =>
      deprecatedGuid a.location :: Reading.faults (a.guid element)).Content false e ↔
    e.AbsentOr "Guid" fun text => ∃ code, Guid.Spells text code := by
  have hreading : (AttributeRule.ofReading "Guid" (·.guid element)).Content false e ↔
      e.AbsentOr "Guid" fun text => ∃ code, Guid.Spells text code :=
    (Reads.guid element).content_iff
  rw [← hreading]
  refine forall₂_congr fun a _ => ?_
  simp [Assessment.clean, AttributeRule.ofReading, deprecatedGuid, Diagnostic.warningAt,
    Diagnostic.graded, Diagnostic.isError]

theorem clean_attributes_iff (hdistinct : (e.attributes.map (·.name)).Nodup) :
    Assessment.clean false (attributeFaults e) = true ↔
      (∀ name ∈ codeNames, e.AbsentOr name fun text => ∃ code, Guid.Spells text code) ∧
        ∃ result, Asks ((e.valueOf? "Result").getD "version") result := by
  have hresult : (e.AbsentOr "Result" fun text => ∃ result, results.lookup text = some result) ↔
      ∃ result, Asks ((e.valueOf? "Result").getD "version") result := by
    simp only [← asks_iff]
    exact absentOr_iff_getD ⟨_, .version⟩
  rw [attributeFaults, clean_checked_iff hdistinct nodup_names_rules, rules, codeNames]
  simp only [List.forall_mem_cons, content_oldName_iff, (Reads.guid element).content_iff,
    (Reads.choice results element).content_iff, hresult, List.not_mem_nil, false_implies,
    implies_true, and_true, and_assoc, Assessment.clean, List.all_nil, true_and]

/-- Whatever is said of an attribute, the code or the result is illegal, or the name is old. -/
theorem code_of_mem_attributeFaults {d : Diagnostic} (hd : d ∈ attributeFaults e) :
    d.code = .illegalAttributeValue ∨ d.code = .deprecatedAttribute := by
  obtain ⟨a, -, hd⟩ := List.mem_flatMap.mp hd
  rw [AttributeRule.check?] at hd
  cases hfind : rules.find? (·.name == a.name) with
  | none =>
    rw [hfind] at hd
    cases hd
  | some rule =>
    rw [hfind, Option.map_some, Option.getD_some] at hd
    have hrule : rule ∈ rules := List.mem_of_find?_eq_some hfind
    simp only [rules, List.mem_cons, List.not_mem_nil, or_false] at hrule
    rcases hrule with rfl | rfl | rfl | rfl
    · rcases List.mem_cons.mp hd with rfl | hd
      · exact .inr rfl
      · exact .inl ((Reads.guid element).code_of_mem_faults hd)
    · exact .inl ((Reads.guid element).code_of_mem_faults hd)
    · exact .inl ((Reads.guid element).code_of_mem_faults hd)
    · exact .inl ((Reads.choice results element).code_of_mem_faults hd)

/-- An attribute that raises no error raises at most the warning about its name. -/
theorem faults_of_clean {a : Attribute}
    (hclean : Assessment.clean false ((AttributeRule.check? rules a).getD []) = true) :
    (AttributeRule.check? rules a).getD [] =
      if a.name = "Guid" then [deprecatedGuid a.location] else [] := by
  rw [AttributeRule.check?] at hclean ⊢
  cases hfind : rules.find? (·.name == a.name) with
  | none =>
    have hother : a.name ≠ "Guid" := by
      intro hname
      simp [hname, rules] at hfind
    rw [if_neg hother]
    rfl
  | some rule =>
    rw [hfind, Option.map_some, Option.getD_some] at hclean
    obtain ⟨hrule, hname⟩ := (find?_name_eq_some_iff nodup_names_rules).mp hfind
    rw [Option.map_some, Option.getD_some, ← hname]
    simp only [rules, List.mem_cons, List.not_mem_nil, or_false] at hrule
    rcases hrule with rfl | rfl | rfl | rfl
    · have hread : Assessment.clean false (Reading.faults (a.guid element)) = true := by
        simp only [Assessment.clean, List.all_cons, Bool.and_eq_true] at hclean
        exact hclean.2
      simp [(Reads.guid element).faults_eq_nil_of_clean hread]
    · exact (Reads.guid element).faults_eq_nil_of_clean hclean
    · exact (Reads.guid element).faults_eq_nil_of_clean hclean
    · exact (Reads.choice results element).faults_eq_nil_of_clean hclean

theorem attributeFaults_of_clean (hdistinct : (e.attributes.map (·.name)).Nodup)
    (hclean : Assessment.clean false (attributeFaults e) = true) :
    attributeFaults e = (e.attribute? "Guid").toList.map (deprecatedGuid ·.location) := by
  rw [attributeFaults, clean_flatMap] at hclean
  rw [attributeFaults, ← flatMap_named hdistinct]
  exact List.flatMap_congr fun a ha => faults_of_clean (hclean a ha)

/-! ## Queries -/

/-- Of the names of codes, only the one that is used is set. -/
theorem setting?_code (hdistinct : (e.attributes.map (·.name)).Nodup) {q : ProductQuery}
    (h : Written e name q) : ∀ other ∈ codeNames,
      setting? e.attributes other (·.guid element) =
        if other = name then some q.code else none := by
  intro other hother
  by_cases hname : other = name
  · rw [if_pos hname, hname]
    exact ((Reads.guid element).setting?_eq_some_iff hdistinct).mpr h.code
  · rw [if_neg hname, Option.eq_none_iff_forall_ne_some]
    intro code hcode
    exact hname ((h.coded.has_iff other hother).mp (has_of_setting? hcode))

theorem value_of_written (hdistinct : (e.attributes.map (·.name)).Nodup) {q : ProductQuery}
    (h : Written e name q) : (assess e).value = some q := by
  obtain ⟨result, hasks, hflags⟩ := h.flags
  have hresult : (setting? e.attributes "Result" (Attribute.choice results element)).getD
      ProductSearchFlags.version = result :=
    (Reads.choice results element).getD_setting?_eq hdistinct
      (fun other hother => (asks_iff.mpr hother).eq .version) (asks_iff.mp hasks)
  have hcodes : Assessment.clean false (codeFaults e) = true :=
    clean_codeFaults_iff.mpr ⟨name, h.coded⟩
  have hguid := setting?_code hdistinct h "Guid" (by decide)
  have hproduct := setting?_code hdistinct h "ProductCode" (by decide)
  have hupgrade := setting?_code hdistinct h "UpgradeCode" (by decide)
  have hname := h.coded.mem_names
  rw [assess, (codes_of_clean hcodes).1, ofSettings, hresult, hguid, hproduct, hupgrade]
  obtain ⟨code, flags⟩ := q
  simp only at hflags
  simp only [codeNames, List.mem_cons, List.not_mem_nil, or_false] at hname
  rcases hname with rfl | rfl | rfl <;> simp [hflags]

/-- What is written makes one query. -/
theorem Written.eq {name' : String} {q q' : ProductQuery} {e' : Element} (h : Written e name q)
    (h' : Written e' name' q') (hcode : q.code = q'.code)
    (hresult : (e.valueOf? "Result").getD "version" = (e'.valueOf? "Result").getD "version")
    (hupgrade : name = "UpgradeCode" ↔ name' = "UpgradeCode") : q = q' := by
  obtain ⟨result, hasks, hflags⟩ := h.flags
  obtain ⟨result', hasks', hflags'⟩ := h'.flags
  obtain rfl := (hresult ▸ hasks).eq hasks'
  have hsame : q.flags = q'.flags := by simp only [hflags, hflags', hupgrade]
  cases q
  cases q'
  simp_all

/-- An element raises no error exactly if it says what to look for. -/
theorem clean_examine_iff (hdistinct : (e.attributes.map (·.name)).Nodup) :
    Assessment.clean false (SearchKind.product.examine e).raised = true ↔
      ∃ name q, Written e name q := by
  show Assessment.clean false (attributeFaults e ++ codeFaults e) = true ↔ _
  rw [Assessment.clean_append, Bool.and_eq_true, clean_attributes_iff hdistinct,
    clean_codeFaults_iff]
  constructor
  · rintro ⟨⟨hcodes, result, hasks⟩, name, hcoded⟩
    have hhas : e.has name = true := (hcoded.has_iff name hcoded.mem_names).mpr rfl
    obtain ⟨text, htext, code, hspells⟩ := present_iff.mpr ⟨hhas, hcodes name hcoded.mem_names⟩
    exact ⟨name, ⟨code, _⟩, hcoded, ⟨text, htext, hspells⟩, result, hasks, rfl⟩
  · rintro ⟨name, q, hcoded, hcode, result, hasks, -⟩
    refine ⟨⟨?_, result, hasks⟩, name, hcoded⟩
    intro other hother
    by_cases hname : other = name
    · intro text htext
      rw [hname] at htext
      exact ⟨q.code, (present_iff.mp hcode).2 text htext⟩
    · exact absentOr_of_not_has fun hhas => hname ((hcoded.has_iff other hother).mp hhas)

/-- What is written is the payload. -/
theorem value_examine_of_written (hdistinct : (e.attributes.map (·.name)).Nodup) {q : ProductQuery}
    (h : Written e name q) : (SearchKind.product.examine e).value = some (.product q) := by
  show ((assess e).map SearchQuery.product).value = _
  rw [Assessment.map, value_of_written hdistinct h]
  rfl

/-- What is written raises the warning about the old name of the product code, and nothing else. -/
theorem raised_examine_of_written (hdistinct : (e.attributes.map (·.name)).Nodup)
    {q : ProductQuery} (h : Written e name q) : (SearchKind.product.examine e).raised =
      (e.attribute? "Guid").toList.map (deprecatedGuid ·.location) := by
  have hclean := (clean_examine_iff hdistinct).mpr ⟨name, q, h⟩
  have hraised : (SearchKind.product.examine e).raised = attributeFaults e ++ codeFaults e := rfl
  rw [hraised, codeFaults_of_codedBy h.coded, List.append_nil] at hclean ⊢
  exact attributeFaults_of_clean hdistinct hclean

end ProductQuery

/-- A product search is resolved exactly if it gives one code, as a spelling of a GUID, and asks for
a result that there is. -/
theorem examine_product (e : Element) (hdistinct : (e.attributes.map (·.name)).Nodup) :
    let a := SearchKind.product.examine e
    ((∀ d ∈ a.raised, d.isError = false) ↔ ∃ name q, ProductQuery.Written e name q) ∧
      (∀ name q, ProductQuery.Written e name q →
        a.value = some (.product q) ∧
        (name = "Guid" → ∃ d, a.raised = [d] ∧ d.isWarning = true ∧
          d.code = .deprecatedAttribute) ∧
        (name ≠ "Guid" → a.raised = []) ∧
        ∀ (e' : Element) name' q', (e'.attributes.map (·.name)).Nodup →
          ProductQuery.Written e' name' q' → q.code = q'.code →
          (e.valueOf? "Result").getD "version" = (e'.valueOf? "Result").getD "version" →
          (name = "UpgradeCode" ↔ name' = "UpgradeCode") →
          ∀ header, ∃ search, a.value.map (·.build header) = some (.ok search) ∧
            (SearchKind.product.examine e').value.map (·.build header) = some (.ok search)) ∧
      (2 ≤ ProductQuery.codeNames.countP e.has →
        ∃ d ∈ a.raised, d.isError = true ∧ d.code = .mutuallyExclusiveAttributes) ∧
      (ProductQuery.codeNames.countP e.has = 0 →
        a.raised.countP (fun d => d.isError && d.code == .missingRequiredAttribute) = 1) := by
  intro a
  have hraised : a.raised = ProductQuery.attributeFaults e ++ ProductQuery.codeFaults e := rfl
  refine ⟨?_, ?_, ?_, ?_⟩
  · rw [← ProductQuery.clean_examine_iff hdistinct, Assessment.clean_iff]
    simp [a, Diagnostic.graded]
  · intro name q h
    have hvalue := ProductQuery.value_examine_of_written hdistinct h
    have hwarned := ProductQuery.raised_examine_of_written hdistinct h
    have hguid := h.coded.has_iff "Guid" (by decide)
    refine ⟨hvalue, ?_, ?_, ?_⟩
    · rintro rfl
      obtain ⟨guid, hfound⟩ := Option.isSome_iff_exists.mp (hguid.mpr rfl)
      exact ⟨ProductQuery.deprecatedGuid guid.location, by rw [hwarned, hfound]; rfl, rfl, rfl⟩
    · intro hother
      have hnone : e.attribute? "Guid" = none := by
        rw [← Option.not_isSome_iff_eq_none]
        exact fun hhas => hother (hguid.mp hhas).symm
      rw [hwarned, hnone]
      rfl
    · intro e' name' q' hdistinct' h' hcode hresult hupgrade header
      obtain rfl := h.eq h' hcode hresult hupgrade
      have hvalue' := ProductQuery.value_examine_of_written hdistinct' h'
      refine ⟨(SearchQuery.product q).written header, ?_, ?_⟩
      · rw [hvalue, Option.map_some, SearchQuery.build_eq]
      · rw [hvalue', Option.map_some, SearchQuery.build_eq]
  · intro hseveral
    obtain ⟨d, hd, hexclusive⟩ := ProductQuery.exclusive_of_several hseveral
    exact ⟨d, List.mem_append_right _ hd, hexclusive⟩
  · intro hnone
    -- no attribute is complained about for being missing, so what is left is the one on the codes
    have hothers : (ProductQuery.attributeFaults e).countP
        (fun d => d.isError && d.code == .missingRequiredAttribute) = 0 := by
      rw [List.countP_eq_zero]
      intro d hd
      rcases ProductQuery.code_of_mem_attributeFaults hd with hcode | hcode <;> simp [hcode]
    rw [hraised, ProductQuery.missing_of_none hnone, List.countP_append, hothers]
    rfl

/-- A product under the old and under the new name of its code, under both, and under none. -/
theorem examine_product_names :
    let old : Attribute := ⟨"Guid", "8f3a1c2e-0b4d-4e6f-9a1b-2c3d4e5f6a7b", {}⟩
    let new : Attribute := ⟨"ProductCode", "\x7b8F3A1C2E-0B4D-4E6F-9A1B-2C3D4E5F6A7B\x7d", {}⟩
    let search (attributes : List Attribute) : Element := { name := "ProductSearch", attributes }
    let q : ProductQuery := ⟨"\x7b8F3A1C2E-0B4D-4E6F-9A1B-2C3D4E5F6A7B\x7d", .version⟩
    (∀ attributes ∈ [[old], [new], [old, new], []],
        ((search attributes).attributes.map (·.name)).Nodup) ∧
      ProductQuery.Written (search [old]) "Guid" q ∧
      ProductQuery.Written (search [new]) "ProductCode" q ∧
      (SearchKind.product.examine (search [old])).value = some (.product q) ∧
      (∃ d, (SearchKind.product.examine (search [old])).raised = [d] ∧ d.isWarning = true ∧
        d.code = .deprecatedAttribute) ∧
      (∀ header, ∃ built,
        (SearchKind.product.examine (search [old])).value.map (·.build header) =
            some (.ok built) ∧
          (SearchKind.product.examine (search [new])).value.map (·.build header) =
            some (.ok built)) ∧
      (∃ d ∈ (SearchKind.product.examine (search [old, new])).raised, d.isError = true ∧
        d.code = .mutuallyExclusiveAttributes) ∧
      (SearchKind.product.examine (search [])).raised.countP
        (fun d => d.isError && d.code == .missingRequiredAttribute) = 1 := by
  intro old new search q
  have hdistinct : ∀ attributes ∈ [[old], [new], [old, new], []],
      ((search attributes).attributes.map (·.name)).Nodup := by decide
  have hold : ProductQuery.Written (search [old]) "Guid" q :=
    ⟨⟨by decide, by decide⟩, ⟨_, rfl, Guid.normalize?_eq_some_iff.mp (by decide +kernel)⟩,
      _, .version, rfl⟩
  have hnew : ProductQuery.Written (search [new]) "ProductCode" q :=
    ⟨⟨by decide, by decide⟩, ⟨_, rfl, Guid.normalize?_eq_some_iff.mp (by decide +kernel)⟩,
      _, .version, rfl⟩
  obtain ⟨-, hwritten, -, -⟩ := examine_product (search [old]) (hdistinct _ (by simp))
  obtain ⟨hvalue, hwarned, -, hsame⟩ := hwritten "Guid" q hold
  obtain ⟨-, -, hseveral, -⟩ := examine_product (search [old, new]) (hdistinct _ (by simp))
  obtain ⟨-, -, -, hnone⟩ := examine_product (search []) (hdistinct _ (by simp))
  exact ⟨hdistinct, hold, hnew, hvalue, hwarned rfl,
    hsame _ _ _ (hdistinct _ (by simp)) hnew rfl rfl (by decide), hseveral (by decide),
    hnone (by decide)⟩

end InstallMarkup
