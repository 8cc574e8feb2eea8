import InstallMarkup.Proofs.Reading.Clean
import InstallMarkup.Proofs.Text.Guid

/-!
# What readings give

Each reading gives values of one form only: a text is not empty (`ne_empty_of_text`), an identifier
is legal (`isLegal_of_identifier`), a GUID has braces and capitals (`isCanonical_of_guid`), and a
choice is one of the options (`mem_of_choice`). A setting has the form too, since some attribute was
read for it (`of_setting?`).
-/

namespace InstallMarkup

/-! ## Readings -/

section Readings

variable {element : String} {a : Attribute}

theorem ne_empty_of_text {value : String} (h : a.text element = .ok value) : value ≠ "" := by
  unfold Attribute.text at h
  split at h
  · cases h
  · rename_i hempty
    cases h
    simpa using hempty

theorem isLegal_of_identifier {id : Identifier} (h : a.identifier element = .ok id) :
    Identifier.isLegal id.text = true := by
  unfold Attribute.identifier at h
  split at h
  · cases h
  · split at h
    · rename_i hlegal
      cases h
      exact hlegal
    · cases h

theorem isCanonical_of_guid {guid : String} (h : a.guid element = .ok guid) :
    Guid.IsCanonical guid := by
  unfold Attribute.guid at h
  split at h
  · cases h
  · split at h
    · rename_i hnormal
      cases h
      exact Guid.isCanonical_of_normalize? hnormal
    · cases h

/-- What a word is looked up to stands beside it. -/
theorem mem_of_lookup {α : Type} {options : List (String × α)} {word : String} {meaning : α}
    (h : options.lookup word = some meaning) : (word, meaning) ∈ options := by
  obtain ⟨before, after, hsplit, -⟩ := List.lookup_eq_some_iff.mp h
  rw [hsplit]
  exact List.mem_append_right _ List.mem_cons_self

theorem mem_of_choice {α : Type} {options : List (String × α)} {meaning : α}
    (h : Attribute.choice options element a = .ok meaning) : meaning ∈ options.map (·.2) := by
  unfold Attribute.choice at h
  split at h
  · rename_i found hfound
    cases h
    exact List.mem_map.mpr ⟨_, mem_of_lookup hfound, rfl⟩
  · cases h

end Readings

/-! ## Settings -/

/-- A setting has the form that the reading gives. -/
theorem of_setting? {α : Type} {P : α → Prop} {read : Attribute → Except Diagnostic α}
    (hread : ∀ a value, read a = .ok value → P value) {attributes : List Attribute} {name : String}
    {value : α} (h : setting? attributes name read = some value) : P value := by
  obtain ⟨a, -, -, ha⟩ := exists_read_of_setting? h
  exact hread a value ha

theorem getD_choice_mem {α : Type} (options : List (String × α)) (element : String)
    (attributes : List Attribute) (name : String) (fallback : α) :
    (setting? attributes name (Attribute.choice options element)).getD fallback ∈
      fallback :: options.map (·.2) := by
  cases hset : setting? attributes name (Attribute.choice options element) with
  | none => exact List.mem_cons_self
  | some meaning =>
    exact List.mem_cons_of_mem _ (of_setting? (fun _ _ hchoice => mem_of_choice hchoice) hset)

end InstallMarkup
