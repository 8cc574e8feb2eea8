import Mathlib.Data.List.Nodup
import InstallMarkup.Search.Header
import InstallMarkup.Walk

/-!
# Clean readings

An assessment is clean when nothing that was raised counts as an error. This file says what a clean
assessment tells about the attributes that were read:

* **readings raise errors**: a reading that gives no value refuses the attribute, with one
  diagnostic about its value (`Refuses`), which is an error whatever the run counts warnings as
  (`RaisesErrors`);
* **clean attributes have values**: when the attributes of an element are clean under rules that
  know a name, the setting of that name is there as soon as an attribute of the name is
  (`isSome_setting?_of_clean`);
* **texts**: what is read of clean attributes is the text that stands there
  (`map_setting?_of_clean`);
* **distinct names**: an element without a structure fault has each name once, so that the last
  attribute of a name is the first (`setting?_eq_of_structure`), and an identifier that is set is
  the text that stands there (`value_of_setting?_identifier`).
-/

namespace InstallMarkup

/-! ## Clean lists -/

namespace Assessment

@[simp] theorem clean_append (strict : Bool) (a b : List Diagnostic) :
    clean strict (a ++ b) = (clean strict a && clean strict b) := List.all_append

/-- An error stays an error, however the run counts warnings. -/
theorem isError_graded {d : Diagnostic} (h : d.isError = true) (strict : Bool) :
    (d.graded strict).isError = true := by
  cases strict
  · exact h
  · rfl

/-- A clean assessment leaves no error where it is recorded. -/
theorem clean_iff {strict : Bool} {raised : List Diagnostic} :
    clean strict raised = true ↔ ∀ d ∈ raised.map (·.graded strict), d.isError = false := by
  simp [clean]

theorem clean_eq_false_of_mem {strict : Bool} {raised : List Diagnostic} {d : Diagnostic}
    (hmem : d ∈ raised) (herr : d.isError = true) : clean strict raised = false := by
  rw [clean, List.all_eq_false]
  exact ⟨d, hmem, by simp [isError_graded herr]⟩

theorem isError_of_clean {strict : Bool} {raised : List Diagnostic} {d : Diagnostic}
    (hclean : clean strict raised = true) (hmem : d ∈ raised) : d.isError = false := by
  cases herr : d.isError with
  | false => rfl
  | true =>
    rw [clean_eq_false_of_mem hmem herr] at hclean
    exact absurd hclean Bool.false_ne_true

end Assessment

/-! ## Readings raise errors -/

/-- A reading that complains about one thing only: that the value of the attribute is illegal, at
the place of the attribute. -/
def Refuses {α : Type} (read : Attribute → Except Diagnostic α) : Prop :=
  ∀ a d, read a = .error d → ∃ message, d = .errorAt .illegalAttributeValue message a.location

namespace Refuses

theorem text (element : String) : Refuses (·.text element) := by
  intro a d h
  simp only [Attribute.text] at h
  split at h
  · cases h
    exact ⟨_, rfl⟩
  · cases h

theorem identifier (element : String) : Refuses (·.identifier element) := by
  intro a d h
  simp only [Attribute.identifier] at h
  split at h
  · rename_i d' hd
    cases h
    exact text element a d hd
  · split at h
    · cases h
    · cases h
      exact ⟨_, rfl⟩

theorem yesNo (element : String) : Refuses (·.yesNo element) := by
  intro a d h
  simp only [Attribute.yesNo] at h
  split at h
  · cases h
  · split at h
    · cases h
    · cases h
      exact ⟨_, rfl⟩

theorem integer (element : String) : Refuses (·.integer element) := by
  intro a d h
  simp only [Attribute.integer] at h
  split at h
  · cases h
  · cases h
    exact ⟨_, rfl⟩

theorem guid (element : String) : Refuses (·.guid element) := by
  intro a d h
  simp only [Attribute.guid] at h
  split at h
  · rename_i d' hd
    cases h
    exact text element a d hd
  · split at h
    · cases h
    · cases h
      exact ⟨_, rfl⟩

theorem choice {α : Type} (options : List (String × α)) (element : String) :
    Refuses (Attribute.choice options element) := by
  intro a d h
  simp only [Attribute.choice] at h
  split at h
  · cases h
  · cases h
    exact ⟨_, rfl⟩

theorem readVariable (config : Config) (element : String) :
    Refuses (readVariable config element) := by
  intro a d h
  simp only [InstallMarkup.readVariable] at h
  split at h
  · rename_i d' hd
    cases h
    exact identifier element a d hd
  · split at h
    · cases h
      exact ⟨_, rfl⟩
    · cases h

end Refuses

/-- A reading whose diagnostics are errors, and never mere warnings. -/
def RaisesErrors {α : Type} (read : Attribute → Except Diagnostic α) : Prop :=
  ∀ a d, read a = .error d → d.isError = true

theorem Refuses.of_mem_faults {α : Type} {read : Attribute → Except Diagnostic α} (h : Refuses read)
    {a : Attribute} {d : Diagnostic} (hd : d ∈ Reading.faults (read a)) :
    ∃ message, d = .errorAt .illegalAttributeValue message a.location := by
  cases hread : read a with
  | ok value =>
    rw [hread] at hd
    cases hd
  | error found =>
    rw [hread] at hd
    rw [List.mem_singleton.mp hd]
    exact h a found hread

theorem Refuses.raisesErrors {α : Type} {read : Attribute → Except Diagnostic α}
    (h : Refuses read) : RaisesErrors read := by
  intro a d hd
  obtain ⟨message, rfl⟩ := h a d hd
  rfl

namespace RaisesErrors

theorem text (element : String) : RaisesErrors (·.text element) :=
  (Refuses.text element).raisesErrors

theorem identifier (element : String) : RaisesErrors (·.identifier element) :=
  (Refuses.identifier element).raisesErrors

theorem guid (element : String) : RaisesErrors (·.guid element) :=
  (Refuses.guid element).raisesErrors

theorem choice {α : Type} (options : List (String × α)) (element : String) :
    RaisesErrors (Attribute.choice options element) :=
  (Refuses.choice options element).raisesErrors

theorem readVariable (config : Config) (element : String) :
    RaisesErrors (readVariable config element) :=
  (Refuses.readVariable config element).raisesErrors

end RaisesErrors

/-! ## Clean attributes have values -/

/-- The rules check a name at least as closely as a reading does. -/
def Checked {α : Type} (rules : List AttributeRule) (name : String)
    (read : Attribute → Except Diagnostic α) : Prop :=
  ∃ rule, rules.find? (·.name == name) = some rule ∧
    ∀ a, ∀ d ∈ Reading.faults (read a), d ∈ rule.check a

/-- What a checked reading of an attribute raises is among what the attributes raise. -/
theorem Checked.mem_checkAll {α : Type} {rules : List AttributeRule} {name : String}
    {read : Attribute → Except Diagnostic α} (hchecked : Checked rules name read) (element : String)
    {attributes : List Attribute} {a : Attribute} (hmem : a ∈ attributes) (hname : a.name = name)
    {d : Diagnostic} (hd : read a = .error d) :
    d ∈ AttributeRule.checkAll rules element attributes := by
  obtain ⟨rule, hfind, hsub⟩ := hchecked
  refine List.mem_flatMap.mpr ⟨a, hmem, ?_⟩
  rw [AttributeRule.checkStrictly, AttributeRule.check?, hname, hfind]
  exact hsub a d (by rw [hd]; exact List.mem_singleton.mpr rfl)

/-- Under clean attributes, every attribute of a checked name can be read. -/
theorem Checked.read_of_clean {α : Type} {rules : List AttributeRule} {name element : String}
    {read : Attribute → Except Diagnostic α} (hchecked : Checked rules name read)
    (herr : RaisesErrors read) {strict : Bool} {attributes : List Attribute}
    (hclean : Assessment.clean strict (AttributeRule.checkAll rules element attributes) = true)
    {a : Attribute} (hmem : a ∈ attributes) (hname : a.name = name) :
    ∃ value, read a = .ok value := by
  cases hread : read a with
  | ok value => exact ⟨value, rfl⟩
  | error d =>
    have hraised := hchecked.mem_checkAll element hmem hname hread
    have hnot := Assessment.isError_of_clean hclean hraised
    rw [herr a d hread] at hnot
    exact absurd hnot (by decide)

/-- The last attribute of a name is there as soon as one of the name is. -/
theorem exists_last_of_has {e : Element} {name : String} (h : e.has name = true) :
    ∃ a, e.attributes.reverse.find? (·.name == name) = some a := by
  rw [← Option.isSome_iff_exists, List.find?_isSome]
  rw [Element.has, Element.attribute?, List.find?_isSome] at h
  obtain ⟨a, hmem, hname⟩ := h
  exact ⟨a, List.mem_reverse.mpr hmem, hname⟩

/-- Under clean attributes, a checked name that is there has a setting. -/
theorem Checked.isSome_setting?_of_clean {α : Type} {rules : List AttributeRule}
    {name element : String} {read : Attribute → Except Diagnostic α}
    (hchecked : Checked rules name read) (herr : RaisesErrors read) {strict : Bool} {e : Element}
    (hclean : Assessment.clean strict (AttributeRule.checkAll rules element e.attributes) = true)
    (hhas : e.has name = true) : ∃ value, setting? e.attributes name read = some value := by
  obtain ⟨a, hlast⟩ := exists_last_of_has hhas
  have hmem : a ∈ e.attributes := List.mem_reverse.mp (List.mem_of_find?_eq_some hlast)
  have hname : a.name = name := by simpa using List.find?_some hlast
  obtain ⟨value, hvalue⟩ := hchecked.read_of_clean herr hclean hmem hname
  exact ⟨value, by rw [setting?, hlast]; simp [hvalue, Except.toOption]⟩

theorem exists_read_of_setting? {α : Type} {attributes : List Attribute} {name : String}
    {read : Attribute → Except Diagnostic α} {value : α}
    (h : setting? attributes name read = some value) :
    ∃ a ∈ attributes, a.name = name ∧ read a = .ok value := by
  rw [setting?] at h
  split at h
  · rename_i a hlast
    refine ⟨a, List.mem_reverse.mp (List.mem_of_find?_eq_some hlast), ?_, ?_⟩
    · simpa using List.find?_some hlast
    · cases hread : read a with
      | ok value' => simpa [hread, Except.toOption] using h
      | error d => simp [hread, Except.toOption] at h
  · cases h

theorem has_of_setting? {α : Type} {e : Element} {name : String}
    {read : Attribute → Except Diagnostic α} {value : α}
    (h : setting? e.attributes name read = some value) : e.has name = true := by
  obtain ⟨a, hmem, hname, -⟩ := exists_read_of_setting? h
  rw [Element.has, Element.attribute?, List.find?_isSome]
  exact ⟨a, hmem, beq_iff_eq.mpr hname⟩

/-- No required attribute is missing from an element that is clean of such diagnostics. -/
theorem has_of_clean_missing {strict : Bool} {required : List String} {name : String} {e : Element}
    (hclean : Assessment.clean strict (missingAttributes required name e) = true)
    {wanted : String} (hmem : wanted ∈ required) : e.has wanted = true := by
  by_contra habsent
  have hraised : Diagnostic.missingAttribute name wanted e.location ∈
      missingAttributes required name e :=
    List.mem_map.mpr ⟨wanted, List.mem_filter.mpr ⟨hmem, by simpa using habsent⟩, rfl⟩
  have hnot := Assessment.isError_of_clean hclean hraised
  exact absurd hnot (by simp [Diagnostic.missingAttribute, Diagnostic.errorAt, Diagnostic.isError])

/-! ## Distinct names -/

theorem name_notMem_of_firstRepeated? {attributes : List Attribute} {seen : List String}
    (h : firstRepeated? seen attributes = none) : ∀ a ∈ attributes, a.name ∉ seen := by
  induction attributes generalizing seen with
  | nil => simp
  | cons a rest ih =>
    rw [firstRepeated?] at h
    split at h
    · cases h
    · rename_i ha
      intro b hb
      rcases List.mem_cons.mp hb with rfl | hb
      · exact ha
      · exact fun hseen => ih h b hb (List.mem_cons_of_mem _ hseen)

theorem nodup_of_firstRepeated? {attributes : List Attribute} {seen : List String}
    (h : firstRepeated? seen attributes = none) : (attributes.map (·.name)).Nodup := by
  induction attributes generalizing seen with
  | nil => exact List.nodup_nil
  | cons a rest ih =>
    rw [firstRepeated?] at h
    split at h
    · cases h
    · rw [List.map_cons, List.nodup_cons]
      refine ⟨?_, ih h⟩
      rintro hmem
      obtain ⟨b, hb, hname⟩ := List.mem_map.mp hmem
      exact name_notMem_of_firstRepeated? h b hb (hname ▸ List.mem_cons_self)

theorem nodup_names_of_structure {e : Element} (h : e.structureFault? = none) :
    (e.attributes.map (·.name)).Nodup := by
  rw [Element.structureFault?] at h
  split at h
  · cases h
  · exact nodup_of_firstRepeated? (Option.map_eq_none_iff.mp h)

/-- Nothing is found by a name exactly if nothing has the name. -/
theorem find?_eq_none_iff_notMem {α : Type} {key : α → String} {xs : List α} {name : String} :
    xs.find? (key · == name) = none ↔ name ∉ xs.map key := by
  simp only [List.find?_eq_none, beq_iff_eq, List.mem_map, not_exists, not_and]

/-- Among distinct names, the last attribute of a name is the first. -/
theorem find?_reverse_of_nodup {attributes : List Attribute}
    (hnodup : (attributes.map (·.name)).Nodup) (name : String) :
    attributes.reverse.find? (·.name == name) = attributes.find? (·.name == name) := by
  induction attributes with
  | nil => rfl
  | cons a rest ih =>
    rw [List.map_cons, List.nodup_cons] at hnodup
    rw [List.reverse_cons, List.find?_append, ih hnodup.2, List.find?_cons]
    by_cases ha : a.name = name
    · -- the name is not in the rest, so the search comes down to `a` on both sides
      have hrest : rest.find? (·.name == name) = none :=
        find?_eq_none_iff_notMem.mpr (ha ▸ hnodup.1)
      simp [hrest, ha]
    · have hne : (a.name == name) = false := beq_false_of_ne ha
      simp [hne]

/-- Among distinct names, a setting is the value of the one attribute. -/
theorem setting?_eq_of_nodup {α : Type} {e : Element} (h : (e.attributes.map (·.name)).Nodup)
    (name : String) (read : Attribute → Except Diagnostic α) :
    setting? e.attributes name read = (e.attribute? name).bind fun a => (read a).toOption := by
  rw [setting?, find?_reverse_of_nodup h, Element.attribute?]
  cases e.attributes.find? (·.name == name) <;> rfl

/-- In an element without a structure fault, a setting is the value of the one attribute. -/
theorem setting?_eq_of_structure {α : Type} {e : Element} (h : e.structureFault? = none)
    (name : String) (read : Attribute → Except Diagnostic α) :
    setting? e.attributes name read = (e.attribute? name).bind fun a => (read a).toOption :=
  setting?_eq_of_nodup (nodup_names_of_structure h) name read

/-- Among distinct names, every attribute is the one of its name. -/
theorem attribute?_of_mem {e : Element} (h : (e.attributes.map (·.name)).Nodup) {a : Attribute}
    (hmem : a ∈ e.attributes) : e.attribute? a.name = some a := by
  rw [Element.attribute?]
  generalize e.attributes = attributes at h hmem
  induction attributes with
  | nil => cases hmem
  | cons b rest ih =>
    rw [List.map_cons, List.nodup_cons] at h
    rcases List.mem_cons.mp hmem with rfl | hmem
    · simp
    · have hne : b.name ≠ a.name := fun hname => h.1 (hname ▸ List.mem_map_of_mem hmem)
      simp [hne, ih h.2 hmem]

/-! ## Values that are texts

What is read of an attribute is often the text that stands there, perhaps under another type;
`render` gives the text back. -/

/-- The text of the attribute called `name`, if it is there. -/
def Element.valueOf? (e : Element) (name : String) : Option String :=
  (e.attribute? name).map (·.value)

theorem value_of_text {element : String} {a : Attribute} {value : String}
    (h : a.text element = .ok value) : value = a.value := by
  unfold Attribute.text at h
  split at h
  · cases h
  · exact (Except.ok.inj h).symm

/-- In an element without a structure fault, what is set is the text of the one attribute. -/
theorem value_of_setting? {α : Type} {name : String} {read : Attribute → Except Diagnostic α}
    {render : α → String} (hrender : ∀ a value, read a = .ok value → render value = a.value)
    {e : Element} (hstructure : e.structureFault? = none) {value : α}
    (h : setting? e.attributes name read = some value) :
    (e.attribute? name).map (·.value) = some (render value) := by
  rw [setting?_eq_of_structure hstructure] at h
  obtain ⟨a, ha, hread⟩ := Option.bind_eq_some_iff.mp h
  cases hok : read a with
  | error d => simp [hok, Except.toOption] at hread
  | ok found =>
    have hsame : found = value := by simpa [hok, Except.toOption] using hread
    rw [ha, Option.map_some, ← hsame, hrender a found hok]

theorem text_of_identifier {element : String} {a : Attribute} {id : Identifier}
    (h : a.identifier element = .ok id) : id.text = a.value := by
  unfold Attribute.identifier Attribute.text at h
  split at h
  · cases h
  · rename_i value hvalue
    split at hvalue
    · cases hvalue
    · cases hvalue
      split at h
      · cases h
        rfl
      · cases h

theorem of_readVariable {config : Config} {element : String} {a : Attribute} {name : String}
    (h : readVariable config element a = .ok name) : a.identifier element = .ok ⟨name⟩ ∧
      (config.allowBuiltinVariables = false → isBuiltinVariable name = false) := by
  unfold readVariable at h
  split at h
  · cases h
  · rename_i found hfound
    split at h
    · cases h
    · rename_i hlegal
      cases h
      refine ⟨hfound, ?_⟩
      intro hallow
      simpa [hallow] using hlegal

/-- In an element without a structure fault, an identifier that is set is the value of the one
attribute of the name. -/
theorem value_of_setting?_identifier {e : Element} (hstructure : e.structureFault? = none)
    {name element : String} {id : Identifier}
    (h : setting? e.attributes name (·.identifier element) = some id) :
    (e.attribute? name).map (·.value) = some id.text :=
  value_of_setting? (fun _ _ hread => text_of_identifier hread) hstructure h

end InstallMarkup
