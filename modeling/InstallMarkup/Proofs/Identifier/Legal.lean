import Mathlib.Data.List.GetD
import Mathlib.Data.String.Basic
import InstallMarkup.Proofs.Identifier.Material

/-!
# Computed identifiers are legal

A computed identifier is a tag of three letters and twenty-seven characters of six-bit text. The tag
opens with a letter, and the alphabet of six-bit text was chosen so that all of it can go on in an
identifier. That does not depend on the bytes of the digest, only on there being enough of them
(`isLegal_ofDigest`). So nothing that is compiled needs an author's identifier to be named legally.
-/

namespace InstallMarkup

/-- A text of characters of one byte takes a byte for each. -/
theorem utf8Len_of_forall_utf8Size {cs : List Char} (h : ∀ c ∈ cs, c.utf8Size = 1) :
    String.utf8Len cs = cs.length := by
  induction cs with
  | nil => rfl
  | cons c cs ih =>
    obtain ⟨hc, hrest⟩ := List.forall_mem_cons.mp h
    rw [String.utf8Len_cons, ih hrest, hc, List.length_cons]

/-- A character that can go on in an identifier and takes one byte. -/
def Identifier.isPlain (c : Char) : Bool := isTail c && c.utf8Size == 1

namespace SixBit

theorem digit_mem_alphabet {value : Nat} (h : value < 64) : digit value ∈ alphabet := by
  have hlength : value < alphabet.length := h
  rw [digit, List.getD_eq_getElem _ _ hlength]
  exact List.getElem_mem hlength

theorem mem_alphabet_of_mem_encode {bytes : List UInt8} {c : Char} (h : c ∈ encode bytes) :
    c ∈ alphabet := by
  induction bytes using encode.induct with
  | case1 x y z rest ih =>
    have hx := x.toNat_lt
    have hy := y.toNat_lt
    have hz := z.toNat_lt
    simp only [encode, List.mem_cons] at h
    rcases h with rfl | rfl | rfl | rfl | h
    · exact digit_mem_alphabet (by omega)
    · exact digit_mem_alphabet (by omega)
    · exact digit_mem_alphabet (by omega)
    · exact digit_mem_alphabet (by omega)
    · exact ih h
  | case2 x y =>
    have hx := x.toNat_lt
    have hy := y.toNat_lt
    simp only [encode, List.mem_cons, List.not_mem_nil, or_false] at h
    rcases h with rfl | rfl | rfl
    · exact digit_mem_alphabet (by omega)
    · exact digit_mem_alphabet (by omega)
    · exact digit_mem_alphabet (by omega)
  | case3 x =>
    have hx := x.toNat_lt
    simp only [encode, List.mem_cons, List.not_mem_nil, or_false] at h
    rcases h with rfl | rfl
    · exact digit_mem_alphabet (by omega)
    · exact digit_mem_alphabet (by omega)
  | case4 => cases h

/-- Six-bit text can go on in an identifier, and takes a byte for each character. -/
theorem all_isPlain_encode (bytes : List UInt8) : (encode bytes).all Identifier.isPlain = true := by
  have halphabet : alphabet.all Identifier.isPlain = true := by decide +kernel
  rw [List.all_eq_true] at halphabet ⊢
  exact fun c hc => halphabet c (mem_alphabet_of_mem_encode hc)

end SixBit

namespace Identifier

/-- A tag opens like an identifier, goes on like one, and takes a byte for each letter. -/
theorem exists_tag_eq_cons (family : IdentifierFamily) : ∃ c cs, family.tag.toList = c :: cs ∧
    isHead c = true ∧ (c :: cs).all isPlain = true := by
  cases family with
  | search kind => cases kind <;> exact ⟨_, _, rfl, by decide +kernel⟩
  | registryValue => exact ⟨_, _, rfl, by decide +kernel⟩

theorem utf8Len_of_all_isPlain {cs : List Char} (h : cs.all isPlain = true) :
    String.utf8Len cs = cs.length := by
  refine utf8Len_of_forall_utf8Size fun c hc => ?_
  have hplain := List.all_eq_true.mp h c hc
  rw [isPlain, Bool.and_eq_true, beq_iff_eq] at hplain
  exact hplain.2

/-- The identifier that a digest gives under a family's tag. -/
def ofDigest (family : IdentifierFamily) (digest : List UInt8) : Identifier :=
  ⟨family.tag ++ String.ofList (SixBit.encode (digest.take digestLength))⟩

theorem ofMaterial_eq_ofDigest (family : IdentifierFamily) (material : String) :
    ofMaterial family material =
      ofDigest family (Sha256.digest (material.toList.flatMap String.utf8EncodeChar)) := rfl

section Digest

variable (family : IdentifierFamily) (digest : List UInt8)

theorem toList_ofDigest : (ofDigest family digest).text.toList =
    family.tag.toList ++ SixBit.encode (digest.take digestLength) := by
  rw [ofDigest, String.toList_append, String.toList_ofList]

theorem all_isPlain_ofDigest : (ofDigest family digest).text.toList.all isPlain = true := by
  obtain ⟨c, cs, htag, -, hplain⟩ := exists_tag_eq_cons family
  rw [toList_ofDigest, htag, List.all_append, hplain, SixBit.all_isPlain_encode]
  rfl

variable {digest}

/-- Three letters and twenty-seven characters, whatever the bytes are. -/
theorem utf8ByteSize_ofDigest (h : digestLength ≤ digest.length) :
    (ofDigest family digest).text.utf8ByteSize = 30 := by
  have hencoded : (SixBit.encode (digest.take digestLength)).length = 27 := by
    rw [SixBit.length_encode, List.length_take, Nat.min_eq_left h]
    rfl
  rw [← String.utf8Len_toList, utf8Len_of_all_isPlain (all_isPlain_ofDigest family digest),
    toList_ofDigest, List.length_append, length_tag, hencoded]

theorem isLegal_ofDigest (h : digestLength ≤ digest.length) :
    isLegal (ofDigest family digest).text = true := by
  obtain ⟨c, cs, htag, hhead, -⟩ := exists_tag_eq_cons family
  have htext : (ofDigest family digest).text.toList =
      c :: (cs ++ SixBit.encode (digest.take digestLength)) := by
    rw [toList_ofDigest, htag, List.cons_append]
  have hall := all_isPlain_ofDigest family digest
  rw [htext, List.all_cons, Bool.and_eq_true] at hall
  have htail : (cs ++ SixBit.encode (digest.take digestLength)).all isTail = true := by
    refine List.all_eq_true.mpr fun d hd => ?_
    have hd : isPlain d = true := List.all_eq_true.mp hall.2 d hd
    exact (Bool.and_eq_true_iff.mp hd).1
  unfold isLegal
  rw [htext, utf8ByteSize_ofDigest family h]
  show (isHead c && decide (30 ≤ maxLength) &&
    (cs ++ SixBit.encode (digest.take digestLength)).all isTail) = true
  rw [hhead, htail]
  rfl

end Digest

theorem isLegal_ofMaterial (family : IdentifierFamily) (material : String) :
    isLegal (ofMaterial family material).text = true := by
  rw [ofMaterial_eq_ofDigest]
  refine isLegal_ofDigest family ?_
  rw [Sha256.length_digest]
  decide

end Identifier

end InstallMarkup
