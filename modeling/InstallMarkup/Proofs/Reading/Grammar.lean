import InstallMarkup.Proofs.Reading.Values
import InstallMarkup.Proofs.Text.Numerals

/-!
# What attributes may say

An element says in which texts its attributes may have, and each reading accepts some texts and
refuses all others. This file goes from the one to the other, so that the grammar of an element can
be stated by the texts alone (`Element.Present`, `Element.AbsentOr`):

* **readings**: a reading stands for a relation between texts and values (`Reads`), which does not
  mention diagnostics;
* **settings**: among distinct names, a name is set to what its text means
  (`Reads.setting?_eq_some_iff`);
* **attributes**: among distinct names, the attributes are clean exactly if each of them is known
  and each rule is content with the attribute that it is for (`clean_checkAll_iff`), and the rule of
  a reading is content if the attribute is absent or has a meaning (`Reads.content_iff`).
-/

namespace InstallMarkup

/-! ## Texts of attributes -/

/-- The attribute called `name` is there, with such a text. -/
def Element.Present (e : Element) (name : String) (P : String → Prop) : Prop :=
  ∃ text, e.valueOf? name = some text ∧ P text

/-- The attribute called `name` is absent, or has such a text. -/
def Element.AbsentOr (e : Element) (name : String) (P : String → Prop) : Prop :=
  ∀ text, e.valueOf? name = some text → P text

section Texts

variable {e : Element} {name : String} {P Q : String → Prop}

theorem has_iff_valueOf? : e.has name = true ↔ ∃ text, e.valueOf? name = some text := by
  rw [Element.has, Element.valueOf?, Option.isSome_iff_exists]
  simp [Option.map_eq_some_iff]

theorem present_iff : e.Present name P ↔ e.has name = true ∧ e.AbsentOr name P := by
  rw [has_iff_valueOf?]
  constructor
  · rintro ⟨text, htext, h⟩
    refine ⟨⟨text, htext⟩, ?_⟩
    intro other hother
    exact Option.some.inj (htext.symm.trans hother) ▸ h
  · rintro ⟨⟨text, htext⟩, h⟩
    exact ⟨text, htext, h text htext⟩

/-- Among distinct names, only one attribute has to be looked at. -/
theorem absentOr_iff_of_nodup (hdistinct : (e.attributes.map (·.name)).Nodup) :
    e.AbsentOr name P ↔ ∀ a ∈ e.attributes, a.name = name → P a.value := by
  simp only [Element.AbsentOr, Element.valueOf?, Option.map_eq_some_iff]
  constructor
  · rintro h a ha rfl
    exact h a.value ⟨a, attribute?_of_mem hdistinct ha, rfl⟩
  · rintro h text ⟨a, ha, rfl⟩
    exact h a (List.mem_of_find?_eq_some ha) (by simpa using List.find?_some ha)

theorem absentOr_of_not_has (h : e.has name ≠ true) : e.AbsentOr name P :=
  fun text htext => absurd (has_iff_valueOf?.mpr ⟨text, htext⟩) h

/-- If a text stands for the absent one, there is always one to look at. -/
theorem absentOr_iff_getD {default : String} (h : P default) :
    e.AbsentOr name P ↔ P ((e.valueOf? name).getD default) := by
  rw [Element.AbsentOr]
  cases e.valueOf? name <;> simp [h]

theorem valueOf?_eq_some_iff {word : String} (default : String) (h : word ≠ default) :
    e.valueOf? name = some word ↔ (e.valueOf? name).getD default = word := by
  cases e.valueOf? name <;> simp [h.symm]

theorem absentOr_congr (h : ∀ text, P text ↔ Q text) : e.AbsentOr name P ↔ e.AbsentOr name Q :=
  forall₂_congr fun text _ => h text

end Texts

/-- The rule holds nothing against the attribute that it is for, if that is there. -/
def AttributeRule.Content (rule : AttributeRule) (strict : Bool) (e : Element) : Prop :=
  ∀ a, e.attribute? rule.name = some a → Assessment.clean strict (rule.check a) = true

/-! ## Readings of texts -/

/-- A reading accepts the texts that have a meaning, as that meaning, and refuses all others. -/
structure Reads {α : Type} (read : Attribute → Except Diagnostic α) (Means : String → α → Prop) :
    Prop where
  ok_iff : ∀ a value, read a = .ok value ↔ Means a.value value
  refuses : Refuses read

namespace Reads

theorem text (element : String) : Reads (·.text element) fun s value => value = s ∧ s ≠ "" where
  ok_iff := by
    intro a value
    constructor
    · intro h
      exact ⟨value_of_text h, value_of_text h ▸ ne_empty_of_text h⟩
    · rintro ⟨rfl, hne⟩
      rw [Attribute.text, if_neg (by simpa using hne)]
  refuses := .text element

/-- A text means an identifier if it is a legal one. -/
theorem identifier (element : String) :
    Reads (·.identifier element) fun s id => id.text = s ∧ Identifier.isLegal s = true where
  ok_iff := by
    intro a id
    constructor
    · intro h
      have htext := text_of_identifier h
      exact ⟨htext, htext ▸ isLegal_of_identifier h⟩
    · rintro ⟨htext, hlegal⟩
      obtain ⟨value⟩ := id
      obtain rfl : value = a.value := htext
      have hne : a.value ≠ "" := by
        rintro hempty
        rw [hempty] at hlegal
        exact absurd hlegal (by decide)
      have hread : a.text element = .ok a.value := ((text element).ok_iff a _).mpr ⟨rfl, hne⟩
      simp only [Attribute.identifier, hread, if_pos hlegal]
  refuses := .identifier element

theorem yesNo (element : String) :
    Reads (·.yesNo element) fun s granted => s = if granted then "yes" else "no" where
  ok_iff := by
    intro a granted
    rw [Attribute.yesNo]
    by_cases hyes : a.value = "yes"
    · cases granted <;> simp [hyes]
    · by_cases hno : a.value = "no" <;> cases granted <;> simp [hyes, hno]
  refuses := .yesNo element

/-- A text means a number of 32 bits if it is decimal digits that write it. -/
theorem integer (element : String) :
    Reads (·.integer element) fun s n => Digits.Writes s n.toNat where
  ok_iff := by
    intro a n
    have hread : Digits.unsigned? 10 UInt32.size a.value.toList = some n.toNat ↔
        Digits.Writes a.value n.toNat := by
      rw [Digits.unsigned?_eq_some_iff, and_iff_left n.toNat_lt_size]
    rw [← hread, Attribute.integer]
    cases hnumber : Digits.unsigned? 10 UInt32.size a.value.toList with
    | none => simp
    | some m =>
      have hm : m < UInt32.size := (Digits.unsigned?_eq_some_iff.mp hnumber).2
      simp only [Except.ok.injEq, Option.some.injEq]
      constructor
      · rintro rfl
        exact (UInt32.toNat_ofNat_of_lt' hm).symm
      · rintro rfl
        exact UInt32.ofNat_toNat
  refuses := .integer element

/-- A text means a GUID if it is a spelling of it. -/
theorem guid (element : String) : Reads (·.guid element) Guid.Spells where
  ok_iff := by
    intro a guid
    rw [← Guid.normalize?_eq_some_iff]
    by_cases hempty : a.value = ""
    · have hnone : Guid.normalize? "" = none := by decide
      simp [Attribute.guid, Attribute.text, hempty, hnone]
    · have hread : a.text element = .ok a.value := ((text element).ok_iff a _).mpr ⟨rfl, hempty⟩
      simp only [Attribute.guid, hread]
      cases Guid.normalize? a.value <;> simp
  refuses := .guid element

theorem choice {α : Type} (options : List (String × α)) (element : String) :
    Reads (Attribute.choice options element) fun s meaning => options.lookup s = some meaning where
  ok_iff := by
    intro a meaning
    rw [Attribute.choice]
    cases hlookup : options.lookup a.value <;> simp
  refuses := .choice options element

/-- A text means a variable if it is a legal identifier, and not the engine's own unless those are
allowed. -/
theorem readVariable (config : Config) (element : String) :
    Reads (readVariable config element) fun s name => name = s ∧ Identifier.isLegal s = true ∧
      (config.allowBuiltinVariables = true ∨ isBuiltinVariable s = false) where
  ok_iff := by
    intro a name
    constructor
    · intro h
      obtain ⟨hread, hbuiltin⟩ := of_readVariable h
      obtain ⟨rfl, hlegal⟩ := ((identifier element).ok_iff a _).mp hread
      refine ⟨rfl, hlegal, ?_⟩
      cases hallow : config.allowBuiltinVariables with
      | true => exact .inl rfl
      | false => exact .inr (hbuiltin hallow)
    · rintro ⟨rfl, hlegal, hbuiltin⟩
      have hread := ((identifier element).ok_iff a ⟨a.value⟩).mpr ⟨rfl, hlegal⟩
      simp only [InstallMarkup.readVariable, hread]
      rw [if_neg]
      rcases hbuiltin with hallow | hno
      · simp [hallow]
      · simp [hno]
  refuses := .readVariable config element

variable {α : Type} {read : Attribute → Except Diagnostic α} {Means : String → α → Prop}
  {e : Element}

/-- Among distinct names, a name is set to what its text means. -/
theorem setting?_eq_some_iff (h : Reads read Means)
    (hdistinct : (e.attributes.map (·.name)).Nodup) {name : String} {value : α} :
    setting? e.attributes name read = some value ↔
      ∃ text, e.valueOf? name = some text ∧ Means text value := by
  have hok : ∀ a, (read a).toOption = some value ↔ Means a.value value := by
    intro a
    rw [← h.ok_iff]
    cases read a <;> simp [Except.toOption]
  rw [setting?_eq_of_nodup hdistinct, Element.valueOf?]
  cases e.attribute? name with
  | none => simp
  | some a => simp [hok]

theorem setting?_eq_none (h : Reads read Means) (hdistinct : (e.attributes.map (·.name)).Nodup)
    {name : String} (habsent : e.valueOf? name = none) :
    setting? e.attributes name read = none := by
  rw [Option.eq_none_iff_forall_ne_some]
  intro value hvalue
  obtain ⟨text, htext, -⟩ := (h.setting?_eq_some_iff hdistinct).mp hvalue
  cases habsent.symm.trans htext

/-- With a default, a name is set to what its text means, or the text that the default is for. -/
theorem getD_setting?_eq (h : Reads read Means) (hdistinct : (e.attributes.map (·.name)).Nodup)
    {name word : String} {default value : α}
    (hdefault : ∀ other, Means word other → other = default)
    (hvalue : Means ((e.valueOf? name).getD word) value) :
    (setting? e.attributes name read).getD default = value := by
  cases htext : e.valueOf? name with
  | none =>
    rw [htext] at hvalue
    rw [h.setting?_eq_none hdistinct htext, hdefault value hvalue, Option.getD_none]
  | some text =>
    rw [htext] at hvalue
    rw [(h.setting?_eq_some_iff hdistinct).mpr ⟨text, htext, hvalue⟩, Option.getD_some]

/-- A text that may be set is set as it stands. -/
theorem setting?_text_eq {name element : String} (hdistinct : (e.attributes.map (·.name)).Nodup)
    (h : e.AbsentOr name (· ≠ "")) :
    setting? e.attributes name (·.text element) = e.valueOf? name := by
  refine Option.ext fun value => ?_
  rw [(Reads.text element).setting?_eq_some_iff hdistinct]
  constructor
  · rintro ⟨_, htext, rfl, -⟩
    exact htext
  · intro hvalue
    exact ⟨value, hvalue, rfl, h value hvalue⟩

/-- A legal identifier that may be set is set as it stands. -/
theorem setting?_identifier_eq {name : String} (element : String)
    (hdistinct : (e.attributes.map (·.name)).Nodup)
    (h : e.AbsentOr name (Identifier.isLegal · = true)) :
    setting? e.attributes name (·.identifier element) = (e.valueOf? name).map (⟨·⟩) := by
  refine Option.ext fun id => ?_
  rw [(Reads.identifier element).setting?_eq_some_iff hdistinct, Option.map_eq_some_iff]
  constructor
  · rintro ⟨text, htext, rfl, -⟩
    exact ⟨_, htext, rfl⟩
  · rintro ⟨text, htext, rfl⟩
    exact ⟨text, htext, rfl, h text htext⟩

/-- A choice that may be made is absent, or the word of an option and set to its meaning. -/
theorem choice_cases {options : List (String × α)} {name : String} (element : String)
    (hdistinct : (e.attributes.map (·.name)).Nodup)
    (h : e.AbsentOr name (· ∈ options.map (·.1))) :
    (e.valueOf? name, setting? e.attributes name (Attribute.choice options element)) ∈
      (none, none) :: options.map fun option => (some option.1, some option.2) := by
  have hreads := choice options element
  cases htext : e.valueOf? name with
  | none =>
    rw [hreads.setting?_eq_none hdistinct htext]
    exact List.mem_cons_self
  | some text =>
    have hlookup : (options.lookup text).isSome = true := by
      rw [List.lookup_isSome_iff]
      simpa using h text htext
    obtain ⟨meaning, hmeaning⟩ := Option.isSome_iff_exists.mp hlookup
    rw [(hreads.setting?_eq_some_iff hdistinct).mpr ⟨text, htext, hmeaning⟩]
    exact List.mem_cons_of_mem _ (List.mem_map_of_mem (mem_of_lookup hmeaning))

/-- With a default that an option is for, the word of an option is there and its meaning is set. -/
theorem exists_option {options : List (String × α)} {name word element : String} {default : α}
    (hdistinct : (e.attributes.map (·.name)).Nodup) (hdefault : options.lookup word = some default)
    (h : e.AbsentOr name (· ∈ options.map (·.1))) :
    ∃ option ∈ options, (e.valueOf? name).getD word = option.1 ∧
      (setting? e.attributes name (Attribute.choice options element)).getD default = option.2 := by
  rcases List.mem_cons.mp (choice_cases element hdistinct h) with habsent | hchosen
  · obtain ⟨hvalue, hset⟩ := Prod.mk.inj habsent
    exact ⟨(word, default), mem_of_lookup hdefault, by rw [hvalue]; rfl, by rw [hset]; rfl⟩
  · obtain ⟨option, hoption, heq⟩ := List.mem_map.mp hchosen
    obtain ⟨hvalue, hset⟩ := Prod.mk.inj heq
    exact ⟨option, hoption, by rw [← hvalue]; rfl, by rw [← hset]; rfl⟩

/-- Where no answer is no, the answer is set. -/
theorem getD_yesNo {name element : String} (hdistinct : (e.attributes.map (·.name)).Nodup)
    (h : e.AbsentOr name fun text => text = "yes" ∨ text = "no") :
    (e.valueOf? name).getD "no" =
      if (setting? e.attributes name (·.yesNo element)).getD false then "yes" else "no" := by
  have hdefault : ∀ granted, "no" = (if granted then "yes" else "no") → granted = false := by decide
  obtain ⟨granted, hgranted⟩ : ∃ granted : Bool,
      (e.valueOf? name).getD "no" = if granted then "yes" else "no" := by
    rcases (absentOr_iff_getD (.inr rfl)).mp h with hyes | hno
    · exact ⟨true, hyes⟩
    · exact ⟨false, hno⟩
  rw [(yesNo element).getD_setting?_eq hdistinct hdefault hgranted]
  exact hgranted

/-- A reading complains about the value of the attribute. -/
theorem code_of_mem_faults (h : Reads read Means) {a : Attribute} {d : Diagnostic}
    (hd : d ∈ Reading.faults (read a)) : d.code = .illegalAttributeValue := by
  obtain ⟨message, rfl⟩ := h.refuses.of_mem_faults hd
  rfl

/-- A reading that raises no error raises nothing. -/
theorem faults_eq_nil_of_clean (h : Reads read Means) {strict : Bool} {a : Attribute}
    (hclean : Assessment.clean strict (Reading.faults (read a)) = true) :
    Reading.faults (read a) = [] := by
  cases hread : read a with
  | ok value => rfl
  | error d =>
    rw [hread] at hclean
    have hnot := Assessment.isError_of_clean hclean (List.mem_singleton.mpr rfl)
    rw [h.refuses.raisesErrors a d hread] at hnot
    cases hnot

theorem clean_ofReading_iff (h : Reads read Means) (strict : Bool) (name : String)
    (a : Attribute) :
    Assessment.clean strict ((AttributeRule.ofReading name read).check a) = true ↔
      ∃ value, Means a.value value := by
  show Assessment.clean strict (Reading.faults (read a)) = true ↔ _
  simp only [← h.ok_iff]
  cases hread : read a with
  | ok value => simp [Reading.faults, Assessment.clean]
  | error d =>
    have hfalse :
        Assessment.clean strict (Reading.faults (.error d : Except Diagnostic α)) = false :=
      Assessment.clean_eq_false_of_mem (List.mem_singleton.mpr rfl)
        (h.refuses.raisesErrors a d hread)
    simp [hfalse]

/-- The rule of a reading is content if the attribute is absent or its text has a meaning. -/
theorem content_iff (h : Reads read Means) {strict : Bool} {name : String} :
    (AttributeRule.ofReading name read).Content strict e ↔
      e.AbsentOr name fun text => ∃ value, Means text value := by
  simp only [AttributeRule.Content, h.clean_ofReading_iff, Element.AbsentOr, Element.valueOf?,
    Option.map_eq_some_iff]
  constructor
  · rintro hall text ⟨a, ha, rfl⟩
    exact hall a ha
  · intro hall a ha
    exact hall a.value ⟨a, ha, rfl⟩

end Reads

section Content

variable {e : Element} {strict : Bool} {name element : String}

theorem content_text_iff :
    (AttributeRule.ofReading name (·.text element)).Content strict e ↔
      e.AbsentOr name (· ≠ "") := by
  rw [(Reads.text element).content_iff]
  exact absentOr_congr fun text => by simp

theorem content_identifier_iff :
    (AttributeRule.ofReading name (·.identifier element)).Content strict e ↔
      e.AbsentOr name (Identifier.isLegal · = true) := by
  rw [(Reads.identifier element).content_iff]
  refine absentOr_congr fun text => ⟨?_, fun hlegal => ⟨⟨text⟩, rfl, hlegal⟩⟩
  rintro ⟨id, -, hlegal⟩
  exact hlegal

theorem content_readVariable_iff {config : Config} :
    (AttributeRule.ofReading name (readVariable config element)).Content strict e ↔
      e.AbsentOr name fun text => Identifier.isLegal text = true ∧
        (config.allowBuiltinVariables = true ∨ isBuiltinVariable text = false) := by
  rw [(Reads.readVariable config element).content_iff]
  exact absentOr_congr fun text => by simp

theorem content_integer_iff :
    (AttributeRule.ofReading name (·.integer element)).Content strict e ↔
      e.AbsentOr name fun text => ∃ n < 2 ^ 32, Digits.Writes text n := by
  rw [(Reads.integer element).content_iff]
  refine absentOr_congr fun text => ⟨?_, ?_⟩
  · rintro ⟨n, hn⟩
    exact ⟨n.toNat, n.toNat_lt_size, hn⟩
  · rintro ⟨n, hlt, hn⟩
    exact ⟨UInt32.ofNat n, by rwa [UInt32.toNat_ofNat_of_lt' hlt]⟩

theorem content_guid_iff : (AttributeRule.ofReading name (·.guid element)).Content strict e ↔
    e.AbsentOr name fun text => ∃ guid, Guid.Spells text guid :=
  (Reads.guid element).content_iff

theorem content_yesNo_iff : (AttributeRule.ofReading name (·.yesNo element)).Content strict e ↔
    e.AbsentOr name fun text => text = "yes" ∨ text = "no" := by
  rw [(Reads.yesNo element).content_iff]
  exact absentOr_congr fun text => by simp [or_comm]

theorem content_choice_iff {α : Type} {options : List (String × α)} :
    (AttributeRule.ofReading name (Attribute.choice options element)).Content strict e ↔
      e.AbsentOr name (· ∈ options.map (·.1)) := by
  rw [(Reads.choice options element).content_iff]
  refine absentOr_congr fun text => ?_
  rw [← Option.isSome_iff_exists, List.lookup_isSome_iff]
  simp

end Content

/-! ## Clean attributes -/

theorem clean_flatMap {α : Type} {strict : Bool} {raise : α → List Diagnostic} {xs : List α} :
    Assessment.clean strict (xs.flatMap raise) = true ↔
      ∀ x ∈ xs, Assessment.clean strict (raise x) = true := by
  rw [Assessment.clean, List.all_flatMap, List.all_eq_true]
  rfl

theorem find?_name_eq_some_iff {rules : List AttributeRule} (hdistinct : (rules.map (·.name)).Nodup)
    {name : String} {rule : AttributeRule} :
    rules.find? (·.name == name) = some rule ↔ rule ∈ rules ∧ rule.name = name := by
  constructor
  · intro h
    exact ⟨List.mem_of_find?_eq_some h, by simpa using List.find?_some h⟩
  · rintro ⟨hmem, rfl⟩
    induction rules with
    | nil => cases hmem
    | cons first rest ih =>
      rw [List.map_cons, List.nodup_cons] at hdistinct
      rcases List.mem_cons.mp hmem with rfl | hmem
      · simp
      · have hne : first.name ≠ rule.name :=
          fun hname => hdistinct.1 (hname ▸ List.mem_map_of_mem hmem)
        simp [hne, ih hdistinct.2 hmem]

/-- Among distinct names, the attributes are clean under rules exactly if each rule is content with
the attribute that it is for, and nothing else is held against those without a rule. -/
theorem clean_checked_iff {strict : Bool} {rules : List AttributeRule} {e : Element}
    {otherwise : Attribute → List Diagnostic} (hdistinct : (e.attributes.map (·.name)).Nodup)
    (hrules : (rules.map (·.name)).Nodup) :
    Assessment.clean strict
        (e.attributes.flatMap fun a => (AttributeRule.check? rules a).getD (otherwise a)) = true ↔
      (∀ a ∈ e.attributes, a.name ∉ rules.map (·.name) →
        Assessment.clean strict (otherwise a) = true) ∧
      ∀ rule ∈ rules, rule.Content strict e := by
  rw [clean_flatMap]
  constructor
  · intro hclean
    refine ⟨?_, ?_⟩
    · intro a ha hunknown
      have hnone : rules.find? (·.name == a.name) = none :=
        find?_eq_none_iff_notMem.mpr hunknown
      have hchecked := hclean a ha
      rwa [AttributeRule.check?, hnone] at hchecked
    · intro rule hrule a ha
      have hname : a.name = rule.name := by simpa using List.find?_some ha
      have hchecked := hclean a (List.mem_of_find?_eq_some ha)
      rwa [AttributeRule.check?, (find?_name_eq_some_iff hrules).mpr ⟨hrule, hname.symm⟩]
        at hchecked
  · rintro ⟨hunknown, hknown⟩ a ha
    rw [AttributeRule.check?]
    cases hfind : rules.find? (·.name == a.name) with
    | none => exact hunknown a ha (find?_eq_none_iff_notMem.mp hfind)
    | some rule =>
      obtain ⟨hrule, hname⟩ := (find?_name_eq_some_iff hrules).mp hfind
      exact hknown rule hrule a (hname ▸ attribute?_of_mem hdistinct ha)

/-- An attribute without a rule is an error in an element that knows its attributes. -/
theorem clean_checkAll_iff {strict : Bool} {rules : List AttributeRule} {element : String}
    {e : Element} (hdistinct : (e.attributes.map (·.name)).Nodup)
    (hrules : (rules.map (·.name)).Nodup) :
    Assessment.clean strict (AttributeRule.checkAll rules element e.attributes) = true ↔
      (∀ a ∈ e.attributes, a.name ∈ rules.map (·.name)) ∧
        ∀ rule ∈ rules, rule.Content strict e := by
  have hunexpected : ∀ a : Attribute,
      Assessment.clean strict [.unexpectedAttribute element a.name a.location] = false := fun a =>
    Assessment.clean_eq_false_of_mem (List.mem_singleton.mpr rfl) rfl
  rw [show AttributeRule.checkAll rules element e.attributes = e.attributes.flatMap fun a =>
    (AttributeRule.check? rules a).getD [.unexpectedAttribute element a.name a.location] from rfl,
    clean_checked_iff hdistinct hrules]
  simp only [hunexpected, Bool.false_eq_true, imp_false, not_not]

/-- Among distinct names, one attribute at most is called by a name. -/
theorem flatMap_named {α : Type} {e : Element} (hdistinct : (e.attributes.map (·.name)).Nodup)
    (name : String) (f : Attribute → α) :
    (e.attributes.flatMap fun a => if a.name = name then [f a] else []) =
      (e.attribute? name).toList.map f := by
  rw [Element.attribute?]
  generalize e.attributes = attributes at hdistinct
  induction attributes with
  | nil => rfl
  | cons first rest ih =>
    rw [List.map_cons, List.nodup_cons] at hdistinct
    rw [List.flatMap_cons, ih hdistinct.2, List.find?_cons]
    by_cases hname : first.name = name
    · have hrest : rest.find? (·.name == name) = none :=
        find?_eq_none_iff_notMem.mpr (hname ▸ hdistinct.1)
      simp [hname, hrest]
    · have hother : (first.name == name) = false := beq_false_of_ne hname
      simp [hname, hother]

/-! ## Other complaints -/

theorem clean_missingAttributes_iff {strict : Bool} {required : List String} {name : String}
    {e : Element} : Assessment.clean strict (missingAttributes required name e) = true ↔
      ∀ wanted ∈ required, e.has wanted = true := by
  constructor
  · intro hclean wanted hwanted
    exact has_of_clean_missing hclean hwanted
  · intro hall
    have hnone : missingAttributes required name e = [] := by
      rw [missingAttributes, List.map_eq_nil_iff, List.filter_eq_nil_iff]
      intro wanted hwanted
      simp [hall wanted hwanted]
    rw [hnone]
    rfl

theorem clean_unexpectedChildren_iff {strict : Bool} {name : String} {e : Element} :
    Assessment.clean strict (unexpectedChildren name e) = true ↔ e.children = [] := by
  constructor
  · intro hclean
    rw [List.eq_nil_iff_forall_not_mem]
    intro child hchild
    have hraised : Diagnostic.unexpectedElement name child.name child.location ∈
        unexpectedChildren name e := List.mem_map_of_mem hchild
    have hnot := Assessment.isError_of_clean hclean hraised
    exact absurd hnot
      (by simp [Diagnostic.unexpectedElement, Diagnostic.errorAt, Diagnostic.isError])
  · intro hnone
    rw [unexpectedChildren, hnone]
    rfl

end InstallMarkup
