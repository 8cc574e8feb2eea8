import Mathlib.Data.List.TakeWhile
import InstallMarkup.Proofs.Text.Numerals
import InstallMarkup.Search.Flags

/-!
# Flag sets are read back

A set is written as the names of its flags, and as a hexadecimal number for what is left. Reading
the text gives the set again, whatever its bits are (`FlagSet.ofText?_text`), for any declarations
that are readable: the names are told apart from each other and from a number, and each flag is one
bit (`isReadable`).

* **bits**: the flags of a set and its undeclared bits make up the set (`union_members`);
* **text**: cutting a text of names at the bars and trimming the pieces gives the names
  (`map_trim_pieces`), and each piece stands for its bits (`piecesBits?_eq`).
-/

namespace InstallMarkup

/-! ## Pieces of a text -/

namespace Text

theorem pieces_append {separator : Char} {cs : List Char} (h : separator ∉ cs) (rest : List Char) :
    pieces separator (cs ++ separator :: rest) = cs :: pieces separator rest := by
  induction cs with
  | nil => simp [pieces]
  | cons c cs ih =>
    rw [List.mem_cons, not_or] at h
    rw [List.cons_append, pieces, if_neg (Ne.symm h.1), ih h.2]

theorem pieces_of_notMem {separator : Char} {cs : List Char} (h : separator ∉ cs) :
    pieces separator cs = [cs] := by
  induction cs with
  | nil => rfl
  | cons c cs ih =>
    rw [List.mem_cons, not_or] at h
    rw [pieces, if_neg (Ne.symm h.1), ih h.2]

/-- A character that a piece may have: no blank, and no bar. -/
def isPlain (c : Char) : Bool := !isBlank c && c != '|'

theorem isBlank_of_isPlain {c : Char} (h : isPlain c = true) : isBlank c = false := by
  rw [isPlain, Bool.and_eq_true, Bool.not_eq_true'] at h
  exact h.1

/-- A text that opens with no blank has none trimmed off its front. -/
theorem dropWhile_isBlank_append {cs : List Char} (hne : cs ≠ [])
    (hplain : ∀ c ∈ cs, isPlain c = true) (rest : List Char) :
    (cs ++ rest).dropWhile isBlank = cs ++ rest := by
  cases cs with
  | nil => exact absurd rfl hne
  | cons c cs =>
    have hc := isBlank_of_isPlain (hplain c List.mem_cons_self)
    rw [List.cons_append, List.dropWhile_cons_of_neg (by simp [hc])]

theorem trim_surrounded {lead cs trail : List Char} (hlead : ∀ c ∈ lead, isBlank c = true)
    (htrail : ∀ c ∈ trail, isBlank c = true) (hne : cs ≠ [])
    (hplain : ∀ c ∈ cs, isPlain c = true) : trim (lead ++ cs ++ trail) = cs := by
  have hback : ∀ c ∈ cs.reverse, isPlain c = true := fun c hc => hplain c (List.mem_reverse.mp hc)
  have hreverse : cs.reverse.dropWhile isBlank = cs.reverse := by
    have h := dropWhile_isBlank_append (List.reverse_ne_nil_iff.mpr hne) hback []
    rwa [List.append_nil] at h
  rw [trim, List.append_assoc, List.dropWhile_append_of_pos hlead,
    dropWhile_isBlank_append hne hplain trail, List.reverse_append, List.dropWhile_append_of_pos
      fun c hc => htrail c (List.mem_reverse.mp hc), hreverse, List.reverse_reverse]

/-- Only blanks are trimmed off to nothing. -/
theorem isBlank_of_trim_eq_nil {cs : List Char} (h : trim cs = []) :
    ∀ c ∈ cs, isBlank c = true := by
  rw [trim, List.reverse_eq_nil_iff, List.dropWhile_eq_nil_iff] at h
  intro c hc
  rw [← List.takeWhile_append_dropWhile (p := isBlank) (l := cs), List.mem_append] at hc
  rcases hc with hc | hc
  · exact List.mem_takeWhile_imp hc
  · exact h c (List.mem_reverse.mpr hc)

/-- Plain parts with bars and blanks between them are the trimmed pieces of the text. -/
theorem map_trim_pieces {parts : List (List Char)} (hne : parts ≠ [])
    (hparts : ∀ part ∈ parts, part ≠ [] ∧ ∀ c ∈ part, isPlain c = true) {lead : List Char}
    (hlead : ∀ c ∈ lead, c = ' ') :
    (pieces '|' (lead ++ [' ', '|', ' '].intercalate parts)).map trim = parts := by
  have hblank : ∀ c ∈ lead, isBlank c = true := by
    intro c hc
    rw [hlead c hc]
    decide
  induction parts generalizing lead with
  | nil => exact absurd rfl hne
  | cons part parts ih =>
    obtain ⟨⟨hpart, hplain⟩, hrest⟩ := List.forall_mem_cons.mp hparts
    have hbar : '|' ∉ lead ++ part := by
      intro hmem
      rcases List.mem_append.mp hmem with hmem | hmem
      · exact absurd (hlead _ hmem) (by decide)
      · exact absurd (hplain _ hmem) (by decide)
    cases parts with
    | nil =>
      have htrim : trim (lead ++ part ++ []) = part :=
        trim_surrounded hblank (by simp) hpart hplain
      rw [List.append_nil] at htrim
      rw [List.intercalate_singleton, pieces_of_notMem hbar, List.map_singleton, htrim]
    | cons part' parts =>
      have htext : lead ++ [' ', '|', ' '].intercalate (part :: part' :: parts) =
          (lead ++ part ++ [' ']) ++ '|' ::
            ([' '] ++ [' ', '|', ' '].intercalate (part' :: parts)) := by
        simp [List.intercalate_cons_cons]
      have hbar : '|' ∉ lead ++ part ++ [' '] := by
        rw [List.mem_append, not_or]
        exact ⟨hbar, by decide⟩
      have hspace : ∀ c ∈ [' '], c = ' ' := fun c hc => List.mem_singleton.mp hc
      have hspaceBlank : ∀ c ∈ [' '], isBlank c = true := List.forall_mem_singleton.mpr rfl
      rw [htext, pieces_append hbar, List.map_cons,
        trim_surrounded hblank hspaceBlank hpart hplain, ih (by simp) hrest hspace hspaceBlank]

end Text

/-! ## Bits -/

/-- Whether a flag is a single bit. -/
def Flag.isSingle (flag : Flag) : Bool :=
  (List.range 32).any fun i => flag.bit.toBitVec == BitVec.twoPow 32 i

/-- A single bit is in a mask or out of it. -/
theorem Flag.and_eq_of_isSingle {flag : Flag} (h : flag.isSingle = true) (bits : UInt32) :
    bits &&& flag.bit = flag.bit ∨ bits &&& flag.bit = 0 := by
  obtain ⟨i, -, hbit⟩ := List.any_eq_true.mp h
  have hi := beq_iff_eq.mp hbit
  rw [← UInt32.toBitVec_inj, ← UInt32.toBitVec_inj, UInt32.toBitVec_and, hi, BitVec.and_twoPow]
  split
  · exact .inl rfl
  · exact .inr rfl

theorem and_or_and (bits a b : UInt32) : (bits &&& a) ||| (bits &&& b) = bits &&& (a ||| b) := by
  rw [← UInt32.toBitVec_inj, UInt32.toBitVec_or, UInt32.toBitVec_and, UInt32.toBitVec_and,
    UInt32.toBitVec_and, UInt32.toBitVec_or, BitVec.and_or_distrib_left]

theorem and_not_and_not (bits a b : UInt32) :
    bits &&& ~~~a &&& ~~~b = bits &&& ~~~(a ||| b) := by
  rw [← UInt32.toBitVec_inj]
  ext i hi
  simp [Bool.and_assoc]

namespace FlagSet

variable {flags : List Flag}

/-- The bits of some flags. -/
def bitsOf (flags : List Flag) : UInt32 :=
  flags.foldr (fun flag bits => flag.bit ||| bits) 0

theorem bitsOf_cons (flag : Flag) (flags : List Flag) :
    bitsOf (flag :: flags) = flag.bit ||| bitsOf flags := rfl

theorem bitsOf_filter (s : FlagSet flags) {declared : List Flag}
    (h : ∀ flag ∈ declared, flag.isSingle = true) :
    bitsOf (declared.filter s.holds) = s.bits &&& bitsOf declared := by
  induction declared with
  | nil => exact UInt32.and_zero.symm
  | cons flag declared ih =>
    obtain ⟨hflag, hrest⟩ := List.forall_mem_cons.mp h
    rw [bitsOf_cons, ← and_or_and, ← ih hrest]
    by_cases hholds : s.holds flag = true
    · rw [List.filter_cons_of_pos hholds, bitsOf_cons, beq_iff_eq.mp hholds]
    · have hout : s.bits &&& flag.bit = 0 :=
        (Flag.and_eq_of_isSingle hflag s.bits).resolve_left fun hin => hholds (beq_iff_eq.mpr hin)
      rw [List.filter_cons_of_neg hholds, hout, UInt32.zero_or]

theorem foldl_and_compl (declared : List Flag) (bits : UInt32) :
    declared.foldl (fun bits flag => bits &&& ~~~flag.bit) bits = bits &&& ~~~bitsOf declared := by
  induction declared generalizing bits with
  | nil =>
    show bits = bits &&& ~~~0
    rw [UInt32.not_zero, UInt32.and_neg_one]
  | cons flag declared ih =>
    rw [List.foldl_cons, ih, bitsOf_cons, and_not_and_not]

/-- A set is made up of its flags and of its undeclared bits. -/
theorem members_or_undeclared (s : FlagSet flags) (h : ∀ flag ∈ flags, flag.isSingle = true) :
    bitsOf s.members ||| s.undeclared = s.bits := by
  rw [members, bitsOf_filter s h, undeclared, foldl_and_compl, and_or_and, UInt32.or_not_self,
    UInt32.and_neg_one]

/-! ## Reading a written set -/

/-- Whether the declared flags can be told apart in a text and in a mask: each is a single bit, and
its name is plain and read as the bit. -/
def isReadable (flags : List Flag) : Bool :=
  flags.all fun flag => flag.isSingle && pieceBits? flags flag.name.toList == some flag.bit &&
    !flag.name.toList.isEmpty && flag.name.toList.all Text.isPlain

theorem of_isReadable (h : isReadable flags = true) {flag : Flag} (hflag : flag ∈ flags) :
    flag.isSingle = true ∧ pieceBits? flags flag.name.toList = some flag.bit ∧
      flag.name.toList ≠ [] ∧ ∀ c ∈ flag.name.toList, Text.isPlain c = true := by
  have hall := List.all_eq_true.mp h flag hflag
  simpa [and_assoc] using hall

theorem isReadable_fileSearchFlags : isReadable fileSearchFlags = true := by decide +kernel

theorem isReadable_componentSearchFlags : isReadable componentSearchFlags = true := by
  decide +kernel

theorem isReadable_productSearchFlags : isReadable productSearchFlags = true := by decide +kernel

theorem isReadable_registrySearchFlags : isReadable registrySearchFlags = true := by
  decide +kernel

/-- The piece of the undeclared bits. -/
def hexPiece (bits : UInt32) : List Char := '0' :: 'x' :: Nat.toDigits 16 bits.toNat

theorem pieceBits?_hexPiece (flags : List Flag) (bits : UInt32) :
    pieceBits? flags (hexPiece bits) = some bits := by
  have hread := Digits.read?_toDigits (show 1 < 16 by decide) (by decide) bits.toNat
  have hlimit : bits.toNat < UInt32.size := bits.toNat_lt
  cases hdigits : Nat.toDigits 16 bits.toNat with
  | nil => exact absurd hdigits Nat.toDigits_ne_nil
  | cons c cs =>
    obtain ⟨d, hd, hc⟩ := Digits.exists_digitChar_of_mem (show 1 < 16 by decide)
      (hdigits ▸ List.mem_cons_self)
    have hplus : c ≠ '+' := by
      have hall : ∀ d < 16, Nat.digitChar d ≠ '+' := by decide
      exact hc ▸ hall d hd
    rw [hdigits] at hread
    simp [pieceBits?, hexPiece, hdigits, Digits.unsigned?, hplus, hread, hlimit]

theorem isPlain_of_mem_hexPiece {bits : UInt32} {c : Char} (h : c ∈ hexPiece bits) :
    Text.isPlain c = true := by
  rw [hexPiece, List.mem_cons, List.mem_cons] at h
  rcases h with rfl | rfl | h
  · decide
  · decide
  · obtain ⟨d, hd, rfl⟩ := Digits.exists_digitChar_of_mem (by decide) h
    have hall : ∀ d < 16, Text.isPlain (Nat.digitChar d) = true := by decide
    exact hall d hd

/-- The pieces of a written set, each with its bits. -/
def parts (s : FlagSet flags) : List (List Char × UInt32) :=
  s.members.map (fun flag => (flag.name.toList, flag.bit)) ++
    if s.undeclared = 0 then [] else [(hexPiece s.undeclared, s.undeclared)]

theorem toList_text (s : FlagSet flags) :
    s.text.toList = [' ', '|', ' '].intercalate (s.parts.map (·.1)) := by
  rw [text, String.toList_intercalate, parts]
  congr 1
  split <;> simp [hexPiece]

theorem mem_parts {s : FlagSet flags} (h : isReadable flags = true) {part : List Char × UInt32}
    (hpart : part ∈ s.parts) : pieceBits? flags part.1 = some part.2 ∧ part.1 ≠ [] ∧
      ∀ c ∈ part.1, Text.isPlain c = true := by
  rcases List.mem_append.mp hpart with hpart | hpart
  · obtain ⟨flag, hflag, rfl⟩ := List.mem_map.mp hpart
    exact (of_isReadable h (List.mem_filter.mp hflag).1).2
  · split at hpart
    · cases hpart
    · rw [List.mem_singleton] at hpart
      subst hpart
      exact ⟨pieceBits?_hexPiece flags _, List.cons_ne_nil _ _, fun _ => isPlain_of_mem_hexPiece⟩

/-- The pieces of a set stand for all of its bits. -/
theorem foldr_parts (s : FlagSet flags) (h : isReadable flags = true) :
    s.parts.foldr (fun part bits => part.2 ||| bits) 0 = s.bits := by
  have hlast : (if s.undeclared = 0 then [] else [(hexPiece s.undeclared, s.undeclared)]).foldr
      (fun part bits => part.2 ||| bits) 0 = s.undeclared := by
    split
    · rename_i hzero
      exact hzero.symm
    · exact UInt32.or_zero
  have hmembers : ∀ (members : List Flag) (rest : UInt32),
      members.foldr (fun flag bits => flag.bit ||| bits) rest = bitsOf members ||| rest := by
    intro members rest
    induction members with
    | nil => exact UInt32.zero_or.symm
    | cons flag members ih => rw [List.foldr_cons, ih, bitsOf_cons, UInt32.or_assoc]
  rw [parts, List.foldr_append, hlast, List.foldr_map, hmembers]
  exact s.members_or_undeclared fun flag hflag => (of_isReadable h hflag).1

/-- Pieces are read one by one, after trimming. -/
theorem piecesBits?_eq {pieces : List (List Char)} {parts : List (List Char × UInt32)}
    (htrim : pieces.map Text.trim = parts.map (·.1))
    (hparts : ∀ part ∈ parts, pieceBits? flags part.1 = some part.2) :
    piecesBits? flags pieces = some (parts.foldr (fun part bits => part.2 ||| bits) 0) := by
  induction parts generalizing pieces with
  | nil =>
    rw [List.map_nil, List.map_eq_nil_iff] at htrim
    rw [htrim]
    rfl
  | cons part parts ih =>
    cases pieces with
    | nil => cases htrim
    | cons piece pieces =>
      rw [List.map_cons, List.map_cons, List.cons.injEq] at htrim
      obtain ⟨hpart, hrest⟩ := List.forall_mem_cons.mp hparts
      rw [piecesBits?, htrim.1, hpart, ih htrim.2 hrest]
      rfl

/-- A written set is read as the set, whatever its bits are. -/
theorem ofText?_text (h : isReadable flags = true) (s : FlagSet flags) :
    ofText? s.text = some s := by
  have hbits := s.foldr_parts h
  have hparts : ∀ part ∈ s.parts, pieceBits? flags part.1 = some part.2 :=
    fun part hpart => (mem_parts h hpart).1
  have hplain : ∀ part ∈ s.parts.map (·.1), part ≠ [] ∧ ∀ c ∈ part, Text.isPlain c = true := by
    intro piece hpiece
    obtain ⟨part, hpart, rfl⟩ := List.mem_map.mp hpiece
    exact (mem_parts h hpart).2
  unfold ofText?
  rw [toList_text]
  by_cases hempty : s.parts = []
  · -- no piece at all: the set is empty
    rw [hempty] at hbits ⊢
    simp only [List.foldr_nil] at hbits
    obtain ⟨bits⟩ := s
    simp only at hbits
    rw [← hbits]
    rfl
  · have hne : s.parts.map (·.1) ≠ [] := by simpa using hempty
    have hpieces : (Text.pieces '|' ([] ++ [' ', '|', ' '].intercalate (s.parts.map (·.1)))).map
        Text.trim = s.parts.map (·.1) := Text.map_trim_pieces hne hplain (by simp)
    rw [List.nil_append] at hpieces
    have hread := piecesBits?_eq hpieces hparts
    have htrim : Text.trim ([' ', '|', ' '].intercalate (s.parts.map (·.1))) ≠ [] := by
      intro htrim
      have hbar : '|' ∉ [' ', '|', ' '].intercalate (s.parts.map (·.1)) := fun hmem =>
        absurd (Text.isBlank_of_trim_eq_nil htrim _ hmem) (by decide)
      rw [Text.pieces_of_notMem hbar, List.map_singleton, htrim] at hpieces
      exact (hplain [] (hpieces ▸ List.mem_singleton_self _)).1 rfl
    rw [hread, hbits]
    simp [htrim]

end FlagSet

end InstallMarkup
