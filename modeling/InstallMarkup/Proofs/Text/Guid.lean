import InstallMarkup.Text.Guid

/-!
# Spellings of GUIDs

A GUID is spelled with its digits in either case, bare or in braces, and rows hold one spelling of
it. `Guid.Spells` says so of a text and the form in rows, and `Guid.normalize?` accepts the
spellings and nothing else (`normalize?_eq_some_iff`). What it gives is in the form of rows
(`isCanonical_of_normalize?`).
-/

namespace InstallMarkup.Guid

/-! ## Forms -/

/-- Whether a character is a hexadecimal digit as rows hold it: a digit, or a capital. -/
def isCapitalHexDigit (c : Char) : Bool :=
  c.isDigit || ('A' ≤ c && c ≤ 'F')

/-- The text is groups of capital hexadecimal digits with a hyphen between each two, in braces. -/
def IsCanonical (s : String) : Prop :=
  ∃ groups : List (List Char), groups.map List.length = groupLengths ∧
    (∀ group ∈ groups, ∀ c ∈ group, isCapitalHexDigit c = true) ∧
    s.toList = '{' :: ['-'].intercalate groups ++ ['}']

/-- The text is five groups of hexadecimal digits with a hyphen between each two, bare or in braces,
and `guid` is the same in capitals and in braces. -/
def Spells (text guid : String) : Prop :=
  ∃ groups : List (List Char), groups.map List.length = [8, 4, 4, 4, 12] ∧
    (∀ group ∈ groups, ∀ c ∈ group, isHexDigit c = true) ∧
    (text.toList = ['-'].intercalate groups ∨
      text.toList = '{' :: ['-'].intercalate groups ++ ['}']) ∧
    guid.toList = '{' :: (['-'].intercalate groups).map Char.toUpper ++ ['}']

/-! ## Digits -/

/-- Hexadecimal digits are ASCII characters, so that a fact about them is one about those. -/
theorem forall_isHexDigit {P : Char → Prop}
    (hascii : ∀ n < 128, isHexDigit (Char.ofNat n) = true → P (Char.ofNat n)) {c : Char}
    (h : isHexDigit c = true) : P c := by
  have hlt : c.toNat < 128 := by
    have hrange := h
    simp only [isHexDigit, Char.isDigit, Char.le_def, Bool.or_eq_true, Bool.and_eq_true,
      decide_eq_true_eq, UInt32.le_iff_toNat_le, ge_iff_le] at hrange
    have h9 : '9'.val.toNat = 57 := rfl
    have hf : 'f'.val.toNat = 102 := rfl
    have hF : 'F'.val.toNat = 70 := rfl
    show c.val.toNat < 128
    omega
  have hc := hascii c.toNat hlt
  rw [Char.ofNat_toNat] at hc
  exact hc h

/-- The capital of a hexadecimal digit is one as rows hold it. -/
theorem isCapitalHexDigit_toUpper {c : Char} (h : isHexDigit c = true) :
    isCapitalHexDigit c.toUpper = true :=
  forall_isHexDigit (P := fun c => isCapitalHexDigit c.toUpper = true) (by decide) h

/-! ## Groups -/

/-- Grouped digits are groups of digits, joined by hyphens. -/
theorem exists_groups_of_isGrouped {lengths : List Nat} {cs : List Char}
    (h : isGrouped lengths cs = true) : ∃ groups : List (List Char),
      groups.map List.length = lengths ∧ (∀ group ∈ groups, ∀ c ∈ group, isHexDigit c = true) ∧
        cs = ['-'].intercalate groups := by
  induction lengths, cs using isGrouped.induct with
  | case1 cs =>
    refine ⟨[], rfl, fun _ hg => absurd hg List.not_mem_nil, ?_⟩
    simpa [isGrouped] using h
  | case2 n cs =>
    simp only [isGrouped, Bool.and_eq_true, beq_iff_eq, List.all_eq_true] at h
    exact ⟨[cs], by simp [h.1], by simpa using h.2, by simp [List.intercalate]⟩
  | case3 n ns cs hne ih =>
    rw [isGrouped] at h
    · simp only [Bool.and_eq_true, beq_iff_eq, List.all_eq_true] at h
      obtain ⟨⟨hlength, hdigits⟩, hrest⟩ := h
      split at hrest
      · rename_i rest hdrop
        obtain ⟨groups, hlengths, hgroups, rfl⟩ := ih rest hrest
        -- there is a group after the hyphen, since there is a length for one
        have hsome : groups ≠ [] := by
          rintro rfl
          exact hne hlengths.symm
        refine ⟨cs.take n :: groups, ?_, ?_, ?_⟩
        · rw [List.map_cons, hlength, hlengths]
        · intro group hgroup
          rcases List.mem_cons.mp hgroup with rfl | hgroup
          · exact hdigits
          · exact hgroups group hgroup
        · rw [List.intercalate_cons_of_ne_nil hsome, List.append_assoc, List.singleton_append,
            ← hdrop, List.take_append_drop]
      · cases hrest
    · exact hne

theorem map_toUpper_intercalate (groups : List (List Char)) :
    (['-'].intercalate groups).map Char.toUpper =
      ['-'].intercalate (groups.map (·.map Char.toUpper)) := by
  induction groups with
  | nil => rfl
  | cons group rest ih =>
    by_cases hrest : rest = []
    · subst hrest
      simp [List.intercalate]
    · have hmapped : rest.map (·.map Char.toUpper) ≠ [] := by simpa using hrest
      rw [List.map_cons, List.intercalate_cons_of_ne_nil hrest,
        List.intercalate_cons_of_ne_nil hmapped, ← ih]
      simp

/-- Groups of digits, joined by hyphens, are grouped digits. -/
theorem isGrouped_intercalate {groups : List (List Char)}
    (hdigits : ∀ group ∈ groups, ∀ c ∈ group, isHexDigit c = true) :
    isGrouped (groups.map List.length) (['-'].intercalate groups) = true := by
  induction groups with
  | nil => rfl
  | cons group rest ih =>
    obtain ⟨hgroup, hrest⟩ := List.forall_mem_cons.mp hdigits
    have hall : group.all isHexDigit = true := List.all_eq_true.mpr hgroup
    cases rest with
    | nil => simp [isGrouped, List.intercalate_singleton, hall]
    | cons next rest =>
      have hnext := ih hrest
      rw [List.map_cons] at hnext
      rw [List.intercalate_cons_cons, List.map_cons, List.map_cons, isGrouped]
      · simp [hall, hnext]
      · simp

/-! ## Braces -/

/-- The braces are taken off if both are there, and nothing else is. -/
theorem eq_unbraced_or_braced (cs : List Char) :
    cs = unbraced cs ∨ cs = '{' :: unbraced cs ++ ['}'] := by
  unfold unbraced
  split
  · rename_i inner
    split
    · rename_i hlast
      refine .inr ?_
      obtain ⟨front, rfl⟩ := List.getLast?_eq_some_iff.mp hlast
      simp
    · exact .inl rfl
  · exact .inl rfl

theorem unbraced_braced (cs : List Char) : unbraced ('{' :: cs ++ ['}']) = cs := by
  simp [unbraced]

/-- A text that opens with a digit has no braces to take off. -/
theorem unbraced_of_isHexDigit {c : Char} (h : isHexDigit c = true) (cs : List Char) :
    unbraced (c :: cs) = c :: cs := by
  unfold unbraced
  split
  · rename_i heq
    cases heq
    exact absurd h (by decide)
  · rfl

/-! ## Spellings -/

/-- A text is read as a GUID exactly if it spells one, and as the form of that one in rows. -/
theorem normalize?_eq_some_iff {text guid : String} :
    normalize? text = some guid ↔ Spells text guid := by
  constructor
  · intro h
    unfold normalize? at h
    dsimp only at h
    split at h
    · rename_i hgrouped
      cases h
      obtain ⟨groups, hlengths, hdigits, hgroups⟩ := exists_groups_of_isGrouped hgrouped
      have htext := eq_unbraced_or_braced text.toList
      rw [hgroups] at htext
      exact ⟨groups, hlengths, hdigits, htext, by rw [String.toList_ofList, hgroups]⟩
    · cases h
  · rintro ⟨groups, hlengths, hdigits, htext, hguid⟩
    have hgrouped : isGrouped groupLengths (['-'].intercalate groups) = true := by
      rw [groupLengths, ← hlengths]
      exact isGrouped_intercalate hdigits
    have hunbraced : unbraced text.toList = ['-'].intercalate groups := by
      rcases htext with hbare | hbraced
      · -- the first group opens with a digit
        rw [hbare]
        match groups, hlengths with
        | (c :: group) :: rest, _ =>
          have hc := hdigits (c :: group) List.mem_cons_self c List.mem_cons_self
          cases rest with
          | nil => rw [List.intercalate_singleton, unbraced_of_isHexDigit hc]
          | cons next rest =>
            rw [List.intercalate_cons_cons, List.append_assoc, List.cons_append,
              unbraced_of_isHexDigit hc]
      · rw [hbraced, unbraced_braced]
    rw [normalize?, hunbraced, if_pos hgrouped, ← hguid, String.ofList_toList]

theorem isCanonical_of_normalize? {s guid : String} (h : normalize? s = some guid) :
    IsCanonical guid := by
  obtain ⟨groups, hlengths, hdigits, -, hguid⟩ := normalize?_eq_some_iff.mp h
  refine ⟨groups.map (·.map Char.toUpper), ?_, ?_, ?_⟩
  · rw [List.map_map, groupLengths, ← hlengths]
    refine List.map_congr_left ?_
    intro group _
    exact List.length_map _
  · intro group hgroup c hc
    obtain ⟨lower, hlower, rfl⟩ := List.mem_map.mp hgroup
    obtain ⟨d, hd, rfl⟩ := List.mem_map.mp hc
    exact isCapitalHexDigit_toUpper (hdigits lower hlower d hd)
  · rw [hguid, map_toUpper_intercalate]

end InstallMarkup.Guid
