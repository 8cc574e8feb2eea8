import InstallMarkup.Proofs.Identifier.Legal

/-!
# Computing identifiers

What computing an identifier promises to those who store it and to those who compare it:

* **acceptance**: it succeeds exactly if a family is given as many fields as it hashes, and then the
  engine takes the identifier, whatever the digest was (`synthesize_acceptable`);
* **distinction**: different content is never the same text before it is hashed, so two identifiers
  are equal exactly if they carry one tag and the parts of the digests that they keep are equal
  (`synthesize_distinguishes`).
-/

namespace InstallMarkup.Identifier

theorem synthesize_eq_ok_iff {family : IdentifierFamily} {fields : List (Option String)}
    {id : Identifier} : synthesize family fields = .ok id ↔
      fields.length = family.fieldCount ∧ id = ofMaterial family (material family fields) := by
  unfold synthesize
  split
  · rename_i hcount
    rw [Except.ok.injEq, eq_comm]
    exact ⟨fun h => ⟨hcount, h⟩, fun h => h.2⟩
  · rename_i hcount
    constructor
    · intro h
      cases h
    · intro h
      exact absurd h.1 hcount

/-! ## Acceptance -/

/-- What the engine takes for an identifier of a family. -/
structure Acceptable (family : IdentifierFamily) (id : Identifier) : Prop where
  opens : family.tag.toList <+: id.text.toList
  bytes : id.text.utf8ByteSize = 30
  legal : isLegal id.text = true

theorem acceptable_ofDigest (family : IdentifierFamily) {digest : List UInt8}
    (h : digestLength ≤ digest.length) : Acceptable family (ofDigest family digest) where
  opens := by
    rw [toList_ofDigest]
    exact List.prefix_append _ _
  bytes := utf8ByteSize_ofDigest family h
  legal := isLegal_ofDigest family h

/-- An identifier is computed exactly if the fields are as many as the family hashes. It is that of
the digest of what they write, and the engine takes it, as it would that of any other digest. -/
theorem synthesize_acceptable (family : IdentifierFamily) (fields : List (Option String)) :
    ((∃ id, synthesize family fields = .ok id) ↔ fields.length = family.fieldCount) ∧
      (∀ id, synthesize family fields = .ok id →
        id = ofDigest family
          (Sha256.digest ((material family fields).toList.flatMap String.utf8EncodeChar)) ∧
        Acceptable family id) ∧
      ∀ digest : Vector UInt8 32, Acceptable family (ofDigest family digest.toList) := by
  refine ⟨⟨?_, ?_⟩, ?_, ?_⟩
  · rintro ⟨id, hid⟩
    exact (synthesize_eq_ok_iff.mp hid).1
  · intro hcount
    exact ⟨_, synthesize_eq_ok_iff.mpr ⟨hcount, rfl⟩⟩
  · intro id hid
    obtain ⟨-, rfl⟩ := synthesize_eq_ok_iff.mp hid
    refine ⟨ofMaterial_eq_ofDigest family _, ?_⟩
    rw [ofMaterial_eq_ofDigest]
    refine acceptable_ofDigest family ?_
    rw [Sha256.length_digest]
    decide
  · intro digest
    refine acceptable_ofDigest family ?_
    rw [Vector.length_toList]
    decide

/-- Nothing but absent fields is enough for an identifier; one field more is too much. -/
theorem synthesize_acceptable_absent :
    (∃ id, synthesize .registryValue [none, none, none, none] = .ok id ∧
        Acceptable .registryValue id) ∧
      ¬ ∃ id, synthesize .registryValue [none, none, none, none, none] = .ok id := by
  refine ⟨?_, ?_⟩
  · obtain ⟨hsucceeds, haccepts, -⟩ :=
      synthesize_acceptable .registryValue [none, none, none, none]
    obtain ⟨id, hid⟩ := hsucceeds.mpr rfl
    exact ⟨id, hid, (haccepts id hid).2⟩
  · intro hid
    have hcount := (synthesize_acceptable .registryValue [none, none, none, none, none]).1.mp hid
    exact absurd hcount (by decide)

/-! ## Distinction -/

theorem ofMaterial_eq_iff {family family' : IdentifierFamily} {m n : String} :
    ofMaterial family m = ofMaterial family' n ↔
      family = family' ∧ fingerprint m = fingerprint n := by
  constructor
  · exact ofMaterial_injective
  · rintro ⟨rfl, hfingerprint⟩
    have htext (m : String) : ofMaterial family m =
        ⟨family.tag ++ String.ofList (SixBit.encode (fingerprint m))⟩ := rfl
    rw [htext, htext, hfingerprint]

theorem tag_eq_iff {family family' : IdentifierFamily} :
    family.tag = family'.tag ↔ family = family' := by
  constructor
  · exact fun h => tag_injective (congrArg String.toList h)
  · rintro rfl
    rfl

/-- What is hashed tells the family and every field: a field that is absent from one that is
present, and a field that imitates the framing from the framing. So identifiers are equal exactly if
they have one tag and the first twenty bytes of the two digests are equal. -/
theorem synthesize_distinguishes {family family' : IdentifierFamily}
    {fields fields' : List (Option String)} (hcount : fields.length = family.fieldCount)
    (hcount' : fields'.length = family'.fieldCount) :
    (material family fields = material family' fields' ↔ family = family' ∧ fields = fields') ∧
      ∃ id id', synthesize family fields = .ok id ∧ synthesize family' fields' = .ok id' ∧
        (id = id' ↔ family.tag = family'.tag ∧
          fingerprint (material family fields) = fingerprint (material family' fields')) ∧
        (family ≠ family' → id ≠ id') := by
  refine ⟨⟨material_injective, ?_⟩, ?_⟩
  · rintro ⟨rfl, rfl⟩
    rfl
  · refine ⟨_, _, synthesize_eq_ok_iff.mpr ⟨hcount, rfl⟩,
      synthesize_eq_ok_iff.mpr ⟨hcount', rfl⟩, ?_, ?_⟩
    · rw [ofMaterial_eq_iff, tag_eq_iff]
    · intro hfamily hid
      exact hfamily (ofMaterial_eq_iff.mp hid).1

/-- An absent condition is not a condition that reads like the mark of absence. -/
theorem synthesize_distinguishes_dash :
    let absent := [some "V", none, none, some "p", some "1"]
    let dash := [some "V", some "-", none, some "p", some "1"]
    let file := IdentifierFamily.search .file
    (absent.length = file.fieldCount ∧ dash.length = file.fieldCount) ∧
      material file absent ≠ material file dash ∧
      ∃ id id', synthesize file absent = .ok id ∧ synthesize file dash = .ok id' ∧ id ≠ id' := by
  intro absent dash file
  obtain ⟨hmaterial, id, id', hid, hid', heq, -⟩ :=
    synthesize_distinguishes (show absent.length = file.fieldCount from rfl)
      (show dash.length = file.fieldCount from rfl)
  refine ⟨⟨rfl, rfl⟩, ?_, id, id', hid, hid', ?_⟩
  · intro h
    exact absurd (hmaterial.mp h).2 (by decide)
  · intro h
    have hdigests : fingerprint (material file absent) ≠ fingerprint (material file dash) := by
      decide +kernel
    exact hdigests (heq.mp h).2

end InstallMarkup.Identifier
