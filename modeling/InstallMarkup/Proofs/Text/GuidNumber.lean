import Mathlib.Data.List.SplitLengths
import Mathlib.Tactic.Ring
import InstallMarkup.Proofs.Text.Guid
import InstallMarkup.Proofs.Text.Numerals

/-!
# The number of a GUID

A GUID is a number of 128 bits, and its thirty-two digits write that number in hexadecimal
(`Guid.Denotes`). Each hyphenated text denotes exactly one number (`existsUnique_denotes`), each
number is denoted by some (`denotes_print`), and two texts denote the same one exactly if they are
the same in capitals (`number_eq_iff`). So the form in rows is a normal form: it is read as itself
(`normalize?_again`), and tells the number and nothing else (`normalize?_eq_iff`).
-/

namespace InstallMarkup.Guid

/-! ## Hyphenated texts -/

/-- The text is five groups of hexadecimal digits with a hyphen between each two. -/
def IsHyphenated (cs : List Char) : Prop :=
  ∃ groups : List (List Char), groups.map List.length = [8, 4, 4, 4, 12] ∧
    (∀ group ∈ groups, ∀ c ∈ group, isHexDigit c = true) ∧ cs = ['-'].intercalate groups

theorem isGrouped_iff {cs : List Char} :
    isGrouped groupLengths cs = true ↔ IsHyphenated cs := by
  constructor
  · exact exists_groups_of_isGrouped
  · rintro ⟨groups, hlengths, hdigits, rfl⟩
    rw [groupLengths, ← hlengths]
    exact isGrouped_intercalate hdigits

/-- `inner` is what is left of a text when its outer braces are taken off, if both are there. -/
inductive Strips : List Char → List Char → Prop
  | braced (inner : List Char) : Strips ('{' :: inner ++ ['}']) inner
  | bare {cs : List Char} (h : ∀ inner, cs ≠ '{' :: inner ++ ['}']) : Strips cs cs

theorem strips_iff {cs inner : List Char} : Strips cs inner ↔ unbraced cs = inner := by
  constructor
  · rintro (inner | h)
    · exact unbraced_braced inner
    · exact ((eq_unbraced_or_braced cs).resolve_right (h _)).symm
  · rintro rfl
    by_cases hbraced : ∃ inner, cs = '{' :: inner ++ ['}']
    · obtain ⟨inner, rfl⟩ := hbraced
      rw [unbraced_braced]
      exact .braced inner
    · have hbare : ∀ inner, cs ≠ '{' :: inner ++ ['}'] := by simpa using hbraced
      rw [← (eq_unbraced_or_braced cs).resolve_right (hbare _)]
      exact .bare hbare

/-- The form in rows is what is left of the braces in capitals, if that is a hyphenated text. -/
theorem normalize?_eq_some_iff_strips {text guid : String} :
    normalize? text = some guid ↔ ∃ inner, Strips text.toList inner ∧ IsHyphenated inner ∧
      guid = String.ofList ('{' :: inner.map Char.toUpper ++ ['}']) := by
  simp only [strips_iff, exists_eq_left', ← isGrouped_iff]
  unfold normalize?
  dsimp only
  split
  · rename_i hgrouped
    simp [hgrouped, eq_comm]
  · rename_i hgrouped
    simp [hgrouped]

/-! ## Digits -/

/-- The digit of a character. -/
abbrev digit (c : Char) : Nat := (Digits.digit? c).getD 0

theorem digit_lt {c : Char} (h : isHexDigit c = true) : digit c < 16 :=
  forall_isHexDigit (P := fun c => digit c < 16) (by decide) h

theorem digit_toUpper {c : Char} (h : isHexDigit c = true) : digit c.toUpper = digit c :=
  forall_isHexDigit (P := fun c => digit c.toUpper = digit c) (by decide) h

/-- A digit tells its capital. -/
theorem toUpper_eq_digitChar {c : Char} (h : isHexDigit c = true) :
    c.toUpper = (Nat.digitChar (digit c)).toUpper :=
  forall_isHexDigit (P := fun c => c.toUpper = (Nat.digitChar (digit c)).toUpper) (by decide) h

theorem isHexDigit_toUpper {c : Char} (h : isHexDigit c = true) : isHexDigit c.toUpper = true :=
  forall_isHexDigit (P := fun c => isHexDigit c.toUpper = true) (by decide) h

theorem values_map_toUpper {digits : List Char} (h : ∀ c ∈ digits, isHexDigit c = true) :
    Digits.values (digits.map Char.toUpper) = Digits.values digits := by
  rw [Digits.values, Digits.values, ← List.map_reverse, List.map_map]
  refine List.map_congr_left fun c hc => ?_
  exact digit_toUpper (h c (List.mem_reverse.mp hc))

/-- The values of digits tell the capitals. -/
theorem map_toUpper_eq_of_values_eq {digits others : List Char}
    (hdigits : ∀ c ∈ digits, isHexDigit c = true) (hothers : ∀ c ∈ others, isHexDigit c = true)
    (h : Digits.values digits = Digits.values others) :
    digits.map Char.toUpper = others.map Char.toUpper := by
  have hcapitals : ∀ {cs : List Char}, (∀ c ∈ cs, isHexDigit c = true) →
      cs.map Char.toUpper = (Digits.values cs).reverse.map fun d => (Nat.digitChar d).toUpper := by
    intro cs hcs
    rw [Digits.values, ← List.map_reverse, List.reverse_reverse, List.map_map]
    exact List.map_congr_left fun c hc => toUpper_eq_digitChar (hcs c hc)
  rw [hcapitals hdigits, hcapitals hothers, h]

/-! ## Numbers -/

/-- The number that the digits of a text write, the hyphens aside. -/
def number (cs : List Char) : Nat := Digits.value 16 (cs.filter (· != '-'))

/-- The text is hyphenated, and its digits write the number. -/
def Denotes (cs : List Char) (n : BitVec 128) : Prop := IsHyphenated cs ∧ n.toNat = number cs

theorem filter_intercalate {groups : List (List Char)}
    (hdigits : ∀ group ∈ groups, ∀ c ∈ group, isHexDigit c = true) :
    (['-'].intercalate groups).filter (· != '-') = groups.flatten := by
  have hkeep : ∀ {c : Char}, isHexDigit c = true → (c != '-') = true :=
    fun h => forall_isHexDigit (P := fun c => (c != '-') = true) (by decide) h
  induction groups with
  | nil => rfl
  | cons group rest ih =>
    obtain ⟨hgroup, hrest⟩ := List.forall_mem_cons.mp hdigits
    have hfilter : group.filter (· != '-') = group :=
      List.filter_eq_self.mpr fun c hc => hkeep (hgroup c hc)
    cases rest with
    | nil => simp [hfilter]
    | cons next rest =>
      rw [List.intercalate_cons_cons, List.filter_append, List.filter_append, ih hrest, hfilter,
        List.flatten_cons]
      simp

theorem number_intercalate {groups : List (List Char)}
    (hdigits : ∀ group ∈ groups, ∀ c ∈ group, isHexDigit c = true) :
    number (['-'].intercalate groups) = Digits.value 16 groups.flatten := by
  rw [number, filter_intercalate hdigits]

theorem forall_mem_flatten {groups : List (List Char)}
    (hdigits : ∀ group ∈ groups, ∀ c ∈ group, isHexDigit c = true) :
    ∀ c ∈ groups.flatten, isHexDigit c = true := by
  intro c hc
  obtain ⟨group, hgroup, hc⟩ := List.mem_flatten.mp hc
  exact hdigits group hgroup c hc

theorem length_flatten_of_lengths {groups : List (List Char)}
    (hlengths : groups.map List.length = [8, 4, 4, 4, 12]) : groups.flatten.length = 32 := by
  rw [List.length_flatten, hlengths]
  rfl

theorem values_lt {digits : List Char} (h : ∀ c ∈ digits, isHexDigit c = true) :
    ∀ d ∈ Digits.values digits, d < 16 := by
  intro d hd
  obtain ⟨c, hc, rfl⟩ := List.mem_map.mp hd
  exact digit_lt (h c (List.mem_reverse.mp hc))

/-- Thirty-two digits write a number of 128 bits. -/
theorem number_lt {cs : List Char} (h : IsHyphenated cs) : number cs < 2 ^ 128 := by
  obtain ⟨groups, hlengths, hdigits, rfl⟩ := h
  have hlt := Nat.ofDigits_lt_base_pow_length (b := 16) (by decide)
    (values_lt (forall_mem_flatten hdigits))
  rw [Digits.length_values, length_flatten_of_lengths hlengths] at hlt
  rw [number_intercalate hdigits]
  exact hlt

theorem denotes_iff {cs : List Char} {n : BitVec 128} :
    Denotes cs n ↔ IsHyphenated cs ∧ BitVec.ofNat 128 (number cs) = n := by
  refine and_congr_right fun h => ?_
  rw [← BitVec.toNat_inj, BitVec.toNat_ofNat, Nat.mod_eq_of_lt (number_lt h), eq_comm]

theorem existsUnique_denotes {cs : List Char} (h : IsHyphenated cs) : ∃! n, Denotes cs n := by
  simp only [denotes_iff, h, true_and, existsUnique_eq']

/-- The capitals of a hyphenated text are one, with the same number. -/
theorem isHyphenated_map_toUpper {cs : List Char} (h : IsHyphenated cs) :
    IsHyphenated (cs.map Char.toUpper) ∧ number (cs.map Char.toUpper) = number cs := by
  obtain ⟨groups, hlengths, hdigits, rfl⟩ := h
  have hupper : ∀ group ∈ groups.map (·.map Char.toUpper), ∀ c ∈ group, isHexDigit c = true := by
    intro group hgroup c hc
    obtain ⟨lower, hlower, rfl⟩ := List.mem_map.mp hgroup
    obtain ⟨d, hd, rfl⟩ := List.mem_map.mp hc
    exact isHexDigit_toUpper (hdigits lower hlower d hd)
  rw [map_toUpper_intercalate]
  refine ⟨⟨_, ?_, hupper, rfl⟩, ?_⟩
  · rw [← hlengths, List.map_map]
    exact List.map_congr_left fun group _ => List.length_map _
  · rw [number_intercalate hupper, number_intercalate hdigits, ← List.map_flatten, Digits.value,
      values_map_toUpper (forall_mem_flatten hdigits), Digits.value]

/-- Two hyphenated texts write the same number exactly if they are the same in capitals. -/
theorem number_eq_iff {cs cs' : List Char} (h : IsHyphenated cs) (h' : IsHyphenated cs') :
    number cs = number cs' ↔ cs.map Char.toUpper = cs'.map Char.toUpper := by
  constructor
  · obtain ⟨groups, hlengths, hdigits, rfl⟩ := h
    obtain ⟨groups', hlengths', hdigits', rfl⟩ := h'
    intro hnumber
    rw [number_intercalate hdigits, number_intercalate hdigits'] at hnumber
    have hflat := forall_mem_flatten hdigits
    have hflat' := forall_mem_flatten hdigits'
    -- numerals of one length that write the same number have the same digits
    have hvalues : Digits.values groups.flatten = Digits.values groups'.flatten := by
      refine Nat.ofDigits_inj_of_len_eq (b := 16) (by decide) ?_ (values_lt hflat)
        (values_lt hflat') hnumber
      rw [Digits.length_values, Digits.length_values, length_flatten_of_lengths hlengths,
        length_flatten_of_lengths hlengths']
    have hcapitals := map_toUpper_eq_of_values_eq hflat hflat' hvalues
    rw [List.map_flatten, List.map_flatten] at hcapitals
    -- and since the groups have the same lengths, they are the same groups
    have hgroups : groups.map (·.map Char.toUpper) = groups'.map (·.map Char.toUpper) := by
      refine List.eq_iff_flatten_eq.mpr ⟨hcapitals, ?_⟩
      simpa [Function.comp_def] using hlengths.trans hlengths'.symm
    rw [map_toUpper_intercalate, map_toUpper_intercalate, hgroups]
  · intro hcapitals
    rw [← (isHyphenated_map_toUpper h).2, hcapitals, (isHyphenated_map_toUpper h').2]

/-! ## The form in rows -/

/-- The text without its braces denotes the number. -/
def Writes (text : String) (n : BitVec 128) : Prop :=
  ∃ inner, Strips text.toList inner ∧ Denotes inner n

theorem existsUnique_writes {text guid : String} (h : normalize? text = some guid) :
    ∃! n, Writes text n := by
  obtain ⟨inner, hstrips, hhyphenated, -⟩ := normalize?_eq_some_iff_strips.mp h
  obtain ⟨n, hn, hunique⟩ := existsUnique_denotes hhyphenated
  refine ⟨n, ⟨inner, hstrips, hn⟩, ?_⟩
  rintro m ⟨inner', hstrips', hm⟩
  obtain rfl : inner = inner' := (strips_iff.mp hstrips).symm.trans (strips_iff.mp hstrips')
  exact hunique m hm

/-- The form in rows is read as itself. -/
theorem normalize?_again {text guid : String} (h : normalize? text = some guid) :
    normalize? guid = some guid := by
  obtain ⟨inner, -, hhyphenated, rfl⟩ := normalize?_eq_some_iff_strips.mp h
  obtain ⟨hupper, hnumber⟩ := isHyphenated_map_toUpper hhyphenated
  rw [normalize?_eq_some_iff_strips]
  refine ⟨inner.map Char.toUpper, ?_, hupper, ?_⟩
  · rw [String.toList_ofList]
    exact .braced _
  · -- the capitals write the same number, so they are their own capitals
    rw [(number_eq_iff hupper hhyphenated).mp hnumber]

/-- Two texts have the same form in rows exactly if they write the same number. -/
theorem normalize?_eq_iff {text text' guid guid' : String} (h : normalize? text = some guid)
    (h' : normalize? text' = some guid') : guid = guid' ↔ ∃ n, Writes text n ∧ Writes text' n := by
  obtain ⟨inner, hstrips, hhyphenated, rfl⟩ := normalize?_eq_some_iff_strips.mp h
  obtain ⟨inner', hstrips', hhyphenated', rfl⟩ := normalize?_eq_some_iff_strips.mp h'
  have hforms : String.ofList ('{' :: inner.map Char.toUpper ++ ['}']) =
      String.ofList ('{' :: inner'.map Char.toUpper ++ ['}']) ↔
        inner.map Char.toUpper = inner'.map Char.toUpper := by
    rw [String.ofList_inj, List.append_left_inj, List.cons.injEq]
    simp
  rw [hforms, ← number_eq_iff hhyphenated hhyphenated']
  constructor
  · intro hnumber
    obtain ⟨n, hn, -⟩ := existsUnique_denotes hhyphenated
    exact ⟨n, ⟨inner, hstrips, hn⟩, ⟨inner', hstrips', hhyphenated', hn.2.trans hnumber⟩⟩
  · rintro ⟨n, ⟨cs, hcs, -, hn⟩, cs', hcs', -, hn'⟩
    obtain rfl : inner = cs := (strips_iff.mp hstrips).symm.trans (strips_iff.mp hcs)
    obtain rfl : inner' = cs' := (strips_iff.mp hstrips').symm.trans (strips_iff.mp hcs')
    exact hn.symm.trans hn'

/-! ## Printing -/

/-- The number in thirty-two hexadecimal digits, hyphenated. -/
def print (n : BitVec 128) : List Char :=
  ['-'].intercalate (groupLengths.splitLengths ((Nat.toDigits 16 n.toNat).leftpad 32 '0'))

theorem isHexDigit_of_mem_toDigits {n : Nat} {c : Char} (h : c ∈ Nat.toDigits 16 n) :
    isHexDigit c = true := by
  have hdigit : ∀ d < 16, isHexDigit (Nat.digitChar d) = true := by decide
  obtain ⟨d, hd, rfl⟩ := Digits.exists_digitChar_of_mem (by decide) h
  exact hdigit d hd

theorem value_leftpad (length : Nat) (cs : List Char) :
    Digits.value 16 (cs.leftpad length '0') = Digits.value 16 cs := by
  rw [List.leftpad]
  generalize length - cs.length = zeros
  induction zeros with
  | zero => rfl
  | succ zeros ih =>
    rw [List.replicate_succ, List.cons_append, Digits.value_cons, ih]
    exact (Nat.add_eq_right).mpr (Nat.zero_mul _)

theorem denotes_print (n : BitVec 128) : Denotes (print n) n := by
  set padded := (Nat.toDigits 16 n.toNat).leftpad 32 '0' with hpadded
  have hlength : padded.length = 32 := by
    have hle : (Nat.toDigits 16 n.toNat).length ≤ 32 :=
      Nat.toDigits_length 16 n.toNat 32 (by decide) n.isLt
    rw [hpadded, List.length_leftpad, Nat.max_eq_left hle]
  have hdigits : ∀ c ∈ padded, isHexDigit c = true := by
    intro c hc
    rcases List.mem_append.mp hc with hzero | hdigit
    · rw [List.eq_of_mem_replicate hzero]
      rfl
    · exact isHexDigit_of_mem_toDigits hdigit
  have hvalue : Digits.value 16 padded = n.toNat := by
    have hread : Digits.read? 16 (Nat.toDigits 16 n.toNat) = some n.toNat :=
      Digits.read?_toDigits (by decide) (by decide) n.toNat
    rw [hpadded, value_leftpad]
    exact (Digits.read?_eq_some_iff.mp hread).2.2.symm
  have hflatten : (groupLengths.splitLengths padded).flatten = padded :=
    List.flatten_splitLengths _ _ hlength.le
  have hgroups : ∀ group ∈ groupLengths.splitLengths padded, ∀ c ∈ group, isHexDigit c = true := by
    intro group hgroup c hc
    exact hdigits c (hflatten ▸ List.mem_flatten.mpr ⟨group, hgroup, hc⟩)
  refine ⟨⟨groupLengths.splitLengths padded, ?_, hgroups, rfl⟩, ?_⟩
  · exact List.map_splitLengths_length _ _ hlength.ge
  · rw [print, ← hpadded, number_intercalate hgroups, hflatten, hvalue]

end InstallMarkup.Guid
