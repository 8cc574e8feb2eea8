import InstallMarkup.Proofs.Identifier.Legal
import InstallMarkup.Proofs.Reading.Grammar
import InstallMarkup.Proofs.Text.GuidNumber

/-!
# Reading GUIDs

The reading of a GUID looks at characters only. A compiler would rather leave it to a library for
UUIDs, which reads more spellings than markup allows: without hyphens, as a URN, in braces of its
own. The first part says what is used of such a library and of its documentation
(`UuidLibrary.Documented`), and that reading with its help comes to the same (`guidBy_eq`): the
length of a text tells the hyphenated form from the others.

The second part says what the reading accepts and gives (`Attribute.GuidExact`).
-/

namespace InstallMarkup

/-! ## Libraries -/

/-- What is used of a library for UUIDs: to read a number of 128 bits, and to write one. -/
structure UuidLibrary where
  parse? : String → Option (BitVec 128)
  hyphenated : BitVec 128 → String

/-- The documentation of the library: among the texts of 36 bytes it reads the hyphenated ones, as
the number that their digits write, and it writes numbers in that form. -/
structure UuidLibrary.Documented (lib : UuidLibrary) : Prop where
  parse? : ∀ text n, text.utf8ByteSize = 36 →
    (lib.parse? text = some n ↔ Guid.Denotes text.toList n)
  hyphenated : ∀ n, Guid.Denotes (lib.hyphenated n).toList n

/-- A GUID read by a library. Of what is left of the braces, the 36 bytes of the hyphenated form are
accepted, and written anew in capitals. -/
def Attribute.guidBy (lib : UuidLibrary) (element : String) (a : Attribute) :
    Except Diagnostic String :=
  match a.text element with
  | .error d => .error d
  | .ok value =>
    let trimmed := String.ofList (Guid.unbraced value.toList)
    match (lib.parse? trimmed).filter fun _ => trimmed.utf8ByteSize == 36 with
    | some n => .ok (String.ofList ('{' :: (lib.hyphenated n).toList.map Char.toUpper ++ ['}']))
    | none => .error (.malformedValue element a.name value "a GUID" a.location)

/-! ## The length of the hyphenated form -/

namespace Guid

theorem length_intercalate {groups : List (List Char)} (h : groups ≠ []) :
    (['-'].intercalate groups).length + 1 = (groups.map List.length).sum + groups.length := by
  induction groups with
  | nil => exact absurd rfl h
  | cons group rest ih =>
    cases rest with
    | nil => simp
    | cons next rest =>
      have hrest := ih (List.cons_ne_nil next rest)
      rw [List.intercalate_cons_cons, List.length_append, List.length_append, List.map_cons,
        List.sum_cons, List.length_cons (a := group)]
      simp only [List.length_singleton]
      omega

theorem length_of_isHyphenated {cs : List Char} (h : IsHyphenated cs) : cs.length = 36 := by
  obtain ⟨groups, hlengths, -, rfl⟩ := h
  have hcount : groups.length = 5 := by simpa using congrArg List.length hlengths
  have hlength := length_intercalate (List.ne_nil_of_length_eq_add_one hcount)
  rw [hlengths, hcount] at hlength
  exact Nat.succ.inj hlength

/-- The hyphens and digits of the form take a byte each. -/
theorem utf8ByteSize_of_isHyphenated {text : String} (h : IsHyphenated text.toList) :
    text.utf8ByteSize = 36 := by
  rw [← String.utf8Len_toList, utf8Len_of_forall_utf8Size, length_of_isHyphenated h]
  obtain ⟨groups, -, hdigits, htext⟩ := h
  intro c hc
  by_cases hhyphen : c = '-'
  · rw [hhyphen]
    rfl
  · have hmem : c ∈ groups.flatten := by
      rw [← filter_intercalate hdigits, ← htext, List.mem_filter]
      exact ⟨hc, by simpa using hhyphen⟩
    exact forall_isHexDigit (P := fun c => c.utf8Size = 1) (by decide)
      (forall_mem_flatten hdigits c hmem)

end Guid

/-! ## Reading with a library -/

section Library

variable {lib : UuidLibrary} {element : String} {a : Attribute}

theorem UuidLibrary.Documented.filter_parse?_eq_some_iff (hlib : lib.Documented) {text : String}
    {n : BitVec 128} :
    ((lib.parse? text).filter fun _ => text.utf8ByteSize == 36) = some n ↔
      Guid.Denotes text.toList n := by
  rw [Option.filter_eq_some_iff, beq_iff_eq]
  constructor
  · rintro ⟨hparse, hsize⟩
    exact (hlib.parse? text n hsize).mp hparse
  · intro h
    have hsize := Guid.utf8ByteSize_of_isHyphenated h.1
    exact ⟨(hlib.parse? text n hsize).mpr h, hsize⟩

/-- Reading with the help of a library comes to the same. -/
theorem guidBy_eq (hlib : lib.Documented) : a.guidBy lib element = a.guid element := by
  unfold Attribute.guidBy Attribute.guid
  cases a.text element with
  | error d => rfl
  | ok value =>
    dsimp only
    set trimmed := String.ofList (Guid.unbraced value.toList) with htrimmed
    have hinner : trimmed.toList = Guid.unbraced value.toList := String.toList_ofList
    by_cases hhyphenated : Guid.IsHyphenated (Guid.unbraced value.toList)
    · -- the library writes the number that it read, so the capitals are those of the text
      obtain ⟨n, hn, -⟩ := Guid.existsUnique_denotes hhyphenated
      have hparse : (lib.parse? trimmed).filter (fun _ => trimmed.utf8ByteSize == 36) = some n :=
        hlib.filter_parse?_eq_some_iff.mpr (hinner ▸ hn)
      have hprinted := hlib.hyphenated n
      have hcapitals : (lib.hyphenated n).toList.map Char.toUpper =
          (Guid.unbraced value.toList).map Char.toUpper :=
        (Guid.number_eq_iff hprinted.1 hhyphenated).mp (hprinted.2.symm.trans hn.2)
      have hnormal : Guid.normalize? value =
          some (String.ofList ('{' :: (Guid.unbraced value.toList).map Char.toUpper ++ ['}'])) :=
        Guid.normalize?_eq_some_iff_strips.mpr ⟨_, Guid.strips_iff.mpr rfl, hhyphenated, rfl⟩
      rw [hparse, hnormal]
      show Except.ok _ = Except.ok _
      rw [hcapitals]
    · have hparse : (lib.parse? trimmed).filter (fun _ => trimmed.utf8ByteSize == 36) = none := by
        rw [Option.eq_none_iff_forall_ne_some]
        intro n hn
        exact hhyphenated (hinner ▸ (hlib.filter_parse?_eq_some_iff.mp hn).1)
      have hnormal : Guid.normalize? value = none := by
        rw [Option.eq_none_iff_forall_ne_some]
        intro guid hguid
        obtain ⟨inner, hstrips, hinner, -⟩ := Guid.normalize?_eq_some_iff_strips.mp hguid
        exact hhyphenated (Guid.strips_iff.mp hstrips ▸ hinner)
      rw [hparse, hnormal]

end Library

/-! ## The reading -/

/-- The reading of GUIDs accepts the hyphenated texts, bare or in braces, and gives a normal form of
the number that they denote. -/
structure Attribute.GuidExact (element : String) (a : Attribute) : Prop where
  accepts : (∃ guid, a.guid element = .ok guid) ↔
    ∃ inner, Guid.Strips a.value.toList inner ∧ Guid.IsHyphenated inner
  refuses : (∀ guid, a.guid element ≠ .ok guid) → ∃ d, Reading.faults (a.guid element) = [d] ∧
    d.code = .illegalAttributeValue ∧ d.isError = true ∧ d.location = a.location
  form : ∀ guid, a.guid element = .ok guid → ∃ inner, Guid.Strips a.value.toList inner ∧
    guid = String.ofList ('{' :: inner.map Char.toUpper ++ ['}'])
  again : ∀ guid, a.guid element = .ok guid → ∀ (element' : String) (b : Attribute),
    b.value = guid → b.guid element' = .ok guid
  denotes : ∀ guid, a.guid element = .ok guid → ∃! n, Guid.Writes a.value n
  same : ∀ guid, a.guid element = .ok guid → ∀ (element' : String) (b : Attribute) (guid' : String),
    b.guid element' = .ok guid' →
      (guid = guid' ↔ ∃ n, Guid.Writes a.value n ∧ Guid.Writes b.value n)

theorem guid_eq_ok_iff {element : String} {a : Attribute} {guid : String} :
    a.guid element = .ok guid ↔ Guid.normalize? a.value = some guid :=
  ((Reads.guid element).ok_iff a guid).trans Guid.normalize?_eq_some_iff.symm

/-- Whatever documented library it leaves the numbers to, the reading of GUIDs is exact. -/
theorem guid_exact (lib : UuidLibrary) (hlib : lib.Documented) (element : String) (a : Attribute) :
    a.guidBy lib element = a.guid element ∧ a.GuidExact element := by
  refine ⟨guidBy_eq hlib, ?_⟩
  constructor
  case accepts =>
    simp only [guid_eq_ok_iff, Guid.normalize?_eq_some_iff_strips]
    constructor
    · rintro ⟨-, inner, hstrips, hhyphenated, -⟩
      exact ⟨inner, hstrips, hhyphenated⟩
    · rintro ⟨inner, hstrips, hhyphenated⟩
      exact ⟨_, inner, hstrips, hhyphenated, rfl⟩
  case refuses =>
    intro hrefused
    cases hread : a.guid element with
    | ok guid => exact absurd hread (hrefused guid)
    | error d =>
      obtain ⟨message, rfl⟩ := Refuses.guid element a d hread
      exact ⟨_, rfl, rfl, rfl, rfl⟩
  case form =>
    intro guid hguid
    obtain ⟨inner, hstrips, -, hform⟩ :=
      Guid.normalize?_eq_some_iff_strips.mp (guid_eq_ok_iff.mp hguid)
    exact ⟨inner, hstrips, hform⟩
  case again =>
    rintro guid hguid element' b rfl
    exact guid_eq_ok_iff.mpr (Guid.normalize?_again (guid_eq_ok_iff.mp hguid))
  case denotes =>
    intro guid hguid
    exact Guid.existsUnique_writes (guid_eq_ok_iff.mp hguid)
  case same =>
    intro guid hguid element' b guid' hguid'
    exact Guid.normalize?_eq_iff (guid_eq_ok_iff.mp hguid) (guid_eq_ok_iff.mp hguid')

/-- The number of thirty-two digits without hyphens. -/
def Guid.simple? (cs : List Char) : Option (BitVec 128) :=
  if cs.all isHexDigit then some (.ofNat 128 (Digits.value 16 cs)) else none

/-- The number of a hyphenated text. -/
def Guid.hyphenated? (cs : List Char) : Option (BitVec 128) :=
  if isGrouped groupLengths cs then some (.ofNat 128 (number cs)) else none

/-- A library that tells the spellings of a number by their lengths: without hyphens, hyphenated,
that in braces, and that in a URN. -/
def UuidLibrary.byLength : UuidLibrary where
  parse? text :=
    match text.utf8ByteSize, text.toList with
    | 32, cs => Guid.simple? cs
    | 36, cs => Guid.hyphenated? cs
    | 38, '{' :: cs => if cs.getLast? = some '}' then Guid.hyphenated? cs.dropLast else none
    | 45, 'u' :: 'r' :: 'n' :: ':' :: 'u' :: 'u' :: 'i' :: 'd' :: ':' :: cs => Guid.hyphenated? cs
    | _, _ => none
  hyphenated n := String.ofList (Guid.print n)

theorem UuidLibrary.byLength_documented : byLength.Documented where
  parse? := by
    intro text n hsize
    have hparse : byLength.parse? text = Guid.hyphenated? text.toList := by
      simp only [byLength, hsize]
    rw [hparse, Guid.hyphenated?, Guid.denotes_iff, ← Guid.isGrouped_iff]
    split <;> simp [*]
  hyphenated n := by
    show Guid.Denotes (String.ofList (Guid.print n)).toList n
    rw [String.toList_ofList]
    exact Guid.denotes_print n

theorem guid_exact_lowerCase :
    UuidLibrary.byLength.Documented ∧
      (⟨"Guid", "8f3a1c2e-0b4d-4e6f-9a1b-2c3d4e5f6a7b", {}⟩ : Attribute).GuidExact
        "ComponentSearch" :=
  ⟨UuidLibrary.byLength_documented,
    (guid_exact .byLength UuidLibrary.byLength_documented "ComponentSearch" _).2⟩

end InstallMarkup
