import Mathlib.Data.List.GetD
import Mathlib.Data.List.Nodup
import Mathlib.Data.String.Basic
import InstallMarkup.Identifier.Synthesis
import InstallMarkup.Proofs.Text.Numerals

/-!
# Identifiers tell their content

A computed identifier is a tag and a digest in six-bit text, and what is digested is a tag and a
list of fields in one text. Nothing is lost on the way but by the digest itself:

* **fields**: each field can be split off the front of any text that it opens, because its length
  stands before it (`fieldText_split`), so a material tells its family and its fields
  (`material_injective`);
* **identifiers**: the tags are of one length and six-bit text tells its bytes
  (`encode_injective`), so an identifier tells its family and the digested bytes
  (`ofMaterial_injective`).
-/

namespace InstallMarkup

/-! ## Splitting texts -/

/-- Texts that are followed by the same mark are equal if neither has the mark in it. -/
theorem split_at_mark {α : Type} {mark : α} : ∀ {xs ys s t : List α}, mark ∉ xs → mark ∉ ys →
    xs ++ mark :: s = ys ++ mark :: t → xs = ys ∧ s = t
  | [], [], s, t, _, _, h => ⟨rfl, (List.cons.inj h).2⟩
  | [], y :: ys, s, t, _, hy, h => absurd ((List.cons.inj h).1 ▸ List.mem_cons_self) hy
  | x :: xs, [], s, t, hx, _, h => absurd ((List.cons.inj h).1 ▸ List.mem_cons_self) hx
  | x :: xs, y :: ys, s, t, hx, hy, h => by
    obtain ⟨hhead, htail⟩ := List.cons.inj h
    obtain ⟨hrest, hst⟩ := split_at_mark (fun hm => hx (List.mem_cons_of_mem x hm))
      (fun hm => hy (List.mem_cons_of_mem y hm)) htail
    exact ⟨by rw [hhead, hrest], hst⟩

/-- Two openings of one text that take as many bytes are equal. -/
theorem split_at_size {v w : String} {s t : List Char} (hsize : v.utf8ByteSize = w.utf8ByteSize)
    (h : v.toList ++ s = w.toList ++ t) : v = w ∧ s = t := by
  rw [← String.utf8Len_toList, ← String.utf8Len_toList] at hsize
  -- one of the openings goes on after the other, by no byte
  rcases List.append_eq_append_iff.mp h with ⟨more, hw, hs⟩ | ⟨more, hv, ht⟩
  · have hmore : more = [] := by
      rw [hw, String.utf8Len_append] at hsize
      exact String.utf8Len_eq_zero.mp (by omega)
    subst hmore
    rw [List.append_nil] at hw
    exact ⟨(String.toList_inj.mp hw).symm, hs⟩
  · have hmore : more = [] := by
      rw [hv, String.utf8Len_append] at hsize
      exact String.utf8Len_eq_zero.mp (by omega)
    subst hmore
    rw [List.append_nil] at hv
    exact ⟨String.toList_inj.mp hv, ht.symm⟩

namespace Identifier

/-! ## Materials -/

theorem toList_fieldText_some (value : String) : (fieldText (some value)).toList =
    (toString value.utf8ByteSize).toList ++ ':' :: value.toList := by
  simp [fieldText]

/-- A field can be split off the front of any text. -/
theorem fieldText_split {f g : Option String} {s t : List Char}
    (h : (fieldText f).toList ++ s = (fieldText g).toList ++ t) : f = g ∧ s = t := by
  -- a numeral opens with a digit, and a dash is none
  have hdash (n : Nat) (rest s t : List Char) :
      (toString n).toList ++ rest ++ s ≠ (fieldText none).toList ++ t := by
    intro heq
    obtain ⟨c, more, hdigits, hc⟩ := exists_digit_toString n
    rw [hdigits] at heq
    have hfirst : c = '-' := (List.cons.inj heq).1
    rw [hfirst] at hc
    exact absurd hc (by decide)
  cases f with
  | none =>
    cases g with
    | none => exact ⟨rfl, (List.cons.inj h).2⟩
    | some w =>
      rw [toList_fieldText_some] at h
      exact absurd h.symm (hdash _ _ _ _)
  | some v =>
    cases g with
    | none =>
      rw [toList_fieldText_some] at h
      exact absurd h (hdash _ _ _ _)
    | some w =>
      rw [toList_fieldText_some, toList_fieldText_some, List.append_assoc, List.append_assoc,
        List.cons_append, List.cons_append] at h
      -- the first colon ends the numeral, and the numeral tells where the value ends
      have hcolon (n : Nat) : ':' ∉ (toString n).toList := fun hmem =>
        absurd (isDigit_of_mem_toString hmem) (by decide)
      obtain ⟨hsize, hrest⟩ := split_at_mark (hcolon _) (hcolon _) h
      obtain ⟨rfl, hst⟩ := split_at_size (toString_nat_injective hsize) hrest
      exact ⟨rfl, hst⟩

/-- The fields of a material, as one text. -/
def fieldsText (fields : List (Option String)) : List Char :=
  fields.flatMap fun field => '|' :: (fieldText field).toList

theorem fieldsText_injective : ∀ {fs gs : List (Option String)},
    fieldsText fs = fieldsText gs → fs = gs
  | [], [], _ => rfl
  | [], _ :: _, h => by cases h
  | _ :: _, [], h => by cases h
  | f :: fs, g :: gs, h => by
    have htail : (fieldText f).toList ++ fieldsText fs = (fieldText g).toList ++ fieldsText gs :=
      (List.cons.inj h).2
    obtain ⟨rfl, hrest⟩ := fieldText_split htail
    rw [fieldsText_injective hrest]

theorem toList_material (family : IdentifierFamily) (fields : List (Option String)) :
    (material family fields).toList = family.tag.toList ++ fieldsText fields := by
  simp [material, fieldsText, List.flatMap_map]

theorem length_tag (family : IdentifierFamily) : family.tag.toList.length = 3 := by
  rcases family with kind | _
  · cases kind <;> rfl
  · rfl

theorem tag_injective {family family' : IdentifierFamily}
    (h : family.tag.toList = family'.tag.toList) : family = family' := by
  cases family with
  | search kind =>
    cases family' with
    | search kind' => cases kind <;> cases kind' <;> first | rfl | exact absurd h (by decide)
    | registryValue => cases kind <;> exact absurd h (by decide)
  | registryValue =>
    cases family' with
    | search kind' => cases kind' <;> exact absurd h (by decide)
    | registryValue => rfl

theorem material_injective {family family' : IdentifierFamily} {fs gs : List (Option String)}
    (h : material family fs = material family' gs) : family = family' ∧ fs = gs := by
  have hlists := congrArg String.toList h
  rw [toList_material, toList_material] at hlists
  obtain ⟨htag, hfields⟩ :=
    List.append_inj hlists ((length_tag family).trans (length_tag family').symm)
  exact ⟨tag_injective htag, fieldsText_injective hfields⟩

end Identifier

/-! ## Six-bit text -/

namespace SixBit

theorem digit_injective {m n : Nat} (hm : m < 64) (hn : n < 64) (h : digit m = digit n) :
    m = n := by
  have hlength : alphabet.length = 64 := by decide
  have hnodup : alphabet.Nodup := by decide +kernel
  rw [digit, digit, List.getD_eq_getElem _ _ (hlength ▸ hm),
    List.getD_eq_getElem _ _ (hlength ▸ hn)] at h
  exact (List.Nodup.getElem_inj_iff hnodup).mp h

/-- The digits of three bytes tell them. -/
theorem bytes_of_digits (x y z x' y' z' : UInt8)
    (h1 : digit (x.toNat / 4) = digit (x'.toNat / 4))
    (h2 : digit (x.toNat % 4 * 16 + y.toNat / 16) = digit (x'.toNat % 4 * 16 + y'.toNat / 16))
    (h3 : digit (y.toNat % 16 * 4 + z.toNat / 64) = digit (y'.toNat % 16 * 4 + z'.toNat / 64))
    (h4 : digit (z.toNat % 64) = digit (z'.toNat % 64)) : x = x' ∧ y = y' ∧ z = z' := by
  have hx := x.toNat_lt
  have hx' := x'.toNat_lt
  have hy := y.toNat_lt
  have hy' := y'.toNat_lt
  have hz := z.toNat_lt
  have hz' := z'.toNat_lt
  have e1 := digit_injective (by omega) (by omega) h1
  have e2 := digit_injective (by omega) (by omega) h2
  have e3 := digit_injective (by omega) (by omega) h3
  have e4 := digit_injective (by omega) (by omega) h4
  refine ⟨?_, ?_, ?_⟩
  · exact UInt8.toNat_inj.mp (by omega)
  · exact UInt8.toNat_inj.mp (by omega)
  · exact UInt8.toNat_inj.mp (by omega)

/-- Six-bit text tells its bytes, if one knows how many there are: bytes left over are written like
three whose last ones are zero. -/
theorem encode_injective : ∀ {xs ys : List UInt8}, xs.length = ys.length →
    encode xs = encode ys → xs = ys
  | [], [], _, _ => rfl
  | [x], [x'], _, h => by
    simp only [encode, List.cons.injEq] at h
    obtain ⟨h1, h2, -⟩ := h
    obtain ⟨hx, -, -⟩ := bytes_of_digits x 0 0 x' 0 0 h1 h2 rfl rfl
    rw [hx]
  | [x, y], [x', y'], _, h => by
    simp only [encode, List.cons.injEq] at h
    obtain ⟨h1, h2, h3, -⟩ := h
    obtain ⟨hx, hy, -⟩ := bytes_of_digits x y 0 x' y' 0 h1 h2 h3 rfl
    rw [hx, hy]
  | x :: y :: z :: xs, x' :: y' :: z' :: ys, hlength, h => by
    simp only [encode, List.cons.injEq] at h
    obtain ⟨h1, h2, h3, h4, hrest⟩ := h
    obtain ⟨hx, hy, hz⟩ := bytes_of_digits x y z x' y' z' h1 h2 h3 h4
    simp only [List.length_cons, Nat.add_right_cancel_iff] at hlength
    rw [hx, hy, hz, encode_injective hlength hrest]

end SixBit

namespace Identifier

/-- The part of the digest of a material that goes into an identifier. -/
def fingerprint (material : String) : List UInt8 :=
  (Sha256.digest (material.toList.flatMap String.utf8EncodeChar)).take digestLength

theorem length_fingerprint (material : String) : (fingerprint material).length = digestLength := by
  rw [fingerprint, List.length_take, Sha256.length_digest]
  rfl

/-- An identifier tells its family and what was digested, as far as the digest does. -/
theorem ofMaterial_injective {family family' : IdentifierFamily} {m n : String}
    (h : ofMaterial family m = ofMaterial family' n) :
    family = family' ∧ fingerprint m = fingerprint n := by
  have htext : (ofMaterial family m).text.toList = (ofMaterial family' n).text.toList := by rw [h]
  simp only [ofMaterial, String.toList_append, String.toList_ofList] at htext
  obtain ⟨htag, hdigest⟩ :=
    List.append_inj htext ((length_tag family).trans (length_tag family').symm)
  exact ⟨tag_injective htag, SixBit.encode_injective
    ((length_fingerprint m).trans (length_fingerprint n).symm) hdigest⟩

end Identifier

end InstallMarkup
