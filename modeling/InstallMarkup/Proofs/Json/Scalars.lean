import Mathlib.Data.List.TakeDrop
import InstallMarkup.Json.Reader
import InstallMarkup.Json.Writer
import InstallMarkup.Proofs.Text.Numerals

/-!
# Texts and numerals of JSON are read back

The two kinds of values that are written character by character:

* **texts**: what stands between quotation marks is read as the text, whatever its characters are.
  An escaped character stands for its code point (`codePoints?_escaped`), and no character is half
  of a surrogate pair, so the code points are the text again (`text?_quoted`);
* **numerals**: an integer is read as itself if nothing comes after it that could go on with its
  numeral (`EndsNumeral`, `number?_natural`, `number?_negative`).
-/

namespace InstallMarkup.Json

/-! ## Texts -/

theorem hexQuad?_hexDigit {n : Nat} (h : n < 0x20) :
    hexQuad? '0' '0' (hexDigit (n / 16)) (hexDigit (n % 16)) = some n := by
  have hall : ∀ n < 0x20, hexQuad? '0' '0' (hexDigit (n / 16)) (hexDigit (n % 16)) = some n := by
    decide
  exact hall n h

/-- A character as it is written stands for its code point. -/
theorem codePoints?_escaped (sofar : List Nat) (c : Char) (rest : List Char) :
    codePoints? sofar (escaped c ++ rest) = codePoints? (c.toNat :: sofar) rest := by
  unfold escaped
  split
  · rfl
  · rfl
  · rfl
  · rfl
  · rfl
  · rfl
  · rfl
  · rename_i hquote hbackslash _ _ _ _ _
    split
    · rename_i hcontrol
      simp only [List.cons_append, List.nil_append, codePoints?, hexQuad?_hexDigit hcontrol]
    · rename_i hcontrol
      rw [List.singleton_append, codePoints?, if_neg hcontrol]
      · exact hquote
      · exact fun _ _ _ _ _ heq => absurd heq hbackslash
      · exact fun _ _ heq => absurd heq hbackslash

theorem codePoints?_quoted (cs : List Char) (sofar : List Nat) (rest : List Char) :
    codePoints? sofar (cs.flatMap escaped ++ '"' :: rest) =
      some (sofar.reverse ++ cs.map Char.toNat, rest) := by
  induction cs generalizing sofar with
  | nil => simp [codePoints?]
  | cons c cs ih =>
    rw [List.flatMap_cons, List.append_assoc, codePoints?_escaped, ih]
    simp

/-- A character is never half of a surrogate pair. -/
theorem not_isSurrogate (c : Char) :
    isHighSurrogate c.toNat = false ∧ isLowSurrogate c.toNat = false := by
  have hvalid : c.toNat < 0xd800 ∨ 0xdfff < c.toNat := by
    rcases c.valid with h | h
    · exact .inl h
    · exact .inr h.1
  simp only [isHighSurrogate, isLowSurrogate, Bool.and_eq_false_iff, decide_eq_false_iff_not]
  omega

theorem ofCodePoints?_map_toNat (cs sofar : List Char) :
    ofCodePoints? sofar (cs.map Char.toNat) = some (sofar.reverse ++ cs) := by
  induction cs generalizing sofar with
  | nil => simp [ofCodePoints?]
  | cons c cs ih =>
    obtain ⟨hhigh, hlow⟩ := not_isSurrogate c
    cases cs with
    | nil => simp [ofCodePoints?, hhigh, hlow]
    | cons c' cs =>
      rw [List.map_cons] at ih
      simp [ofCodePoints?, hhigh, hlow, ih]

/-- A text between quotation marks is read as the text. -/
theorem text?_quoted (s : String) (rest : List Char) :
    text? (s.toList.flatMap escaped ++ '"' :: rest) = some (some s, rest) := by
  rw [text?, codePoints?_quoted]
  simp [ofCodePoints?_map_toNat]

/-! ## Numerals -/

/-- What comes after a numeral and is not taken for more of it. -/
def EndsNumeral (rest : List Char) : Prop :=
  ∀ c ∈ rest.head?, c.isDigit = false ∧ c ≠ '.' ∧ c ≠ 'e' ∧ c ≠ 'E'

theorem endsNumeral_nil : EndsNumeral [] := by
  intro c hc
  cases hc

theorem endsNumeral_cons {c : Char} {rest : List Char}
    (h : c.isDigit = false ∧ c ≠ '.' ∧ c ≠ 'e' ∧ c ≠ 'E') : EndsNumeral (c :: rest) := by
  rintro _ ⟨⟩
  exact h

theorem spanDigits_append {digits rest : List Char} (hdigits : ∀ c ∈ digits, c.isDigit = true)
    (hrest : EndsNumeral rest) : spanDigits (digits ++ rest) = (digits, rest) := by
  rw [spanDigits, List.span_eq_takeWhile_dropWhile, List.takeWhile_append_of_pos hdigits,
    List.dropWhile_append_of_pos hdigits]
  cases rest with
  | nil => simp
  | cons c rest => simp [(hrest c rfl).1]

theorem isDigit_of_mem_toDigits {n : Nat} {c : Char} (h : c ∈ Nat.toDigits 10 n) :
    c.isDigit = true :=
  Nat.isDigit_of_mem_toDigits (by decide) (by decide) h

/-- The numeral of a natural number opens with a digit, and with a zero only if that is all. -/
theorem exists_toDigits_eq_cons (n : Nat) : ∃ c cs, Nat.toDigits 10 n = c :: cs ∧
    c.isDigit = true ∧ (c = '0' → cs = []) := by
  cases hdigits : Nat.toDigits 10 n with
  | nil => exact absurd hdigits Nat.toDigits_ne_nil
  | cons c cs =>
    refine ⟨c, cs, rfl, isDigit_of_mem_toDigits (hdigits ▸ List.mem_cons_self), ?_⟩
    rintro rfl
    exact (Digits.eq_zero_of_toDigits_eq_cons hdigits).2

theorem wholeDigits?_toDigits (n : Nat) {rest : List Char} (hrest : EndsNumeral rest) :
    wholeDigits? (Nat.toDigits 10 n ++ rest) = some (Nat.toDigits 10 n, rest) := by
  have hspan := spanDigits_append (fun _ => isDigit_of_mem_toDigits (n := n)) hrest
  obtain ⟨c, cs, hdigits, -, hzero⟩ := exists_toDigits_eq_cons n
  rw [wholeDigits?, hspan, hdigits]
  by_cases hc : c = '0'
  · rw [hc, hzero hc]
    rfl
  · simp [hc]

theorem fractionPart?_of_endsNumeral {rest : List Char} (h : EndsNumeral rest) :
    fractionPart? rest = some ([], rest) := by
  unfold fractionPart?
  split
  · exact absurd rfl (h '.' rfl).2.1
  · rfl

theorem exponentPart?_of_endsNumeral {rest : List Char} (h : EndsNumeral rest) :
    exponentPart? rest = some ([], rest) := by
  cases rest with
  | nil => rfl
  | cons c rest =>
    obtain ⟨-, -, hsmall, hcapital⟩ := h c rfl
    simp [exponentPart?, hsmall, hcapital]

theorem number?_natural (n : Nat) {rest : List Char} (hrest : EndsNumeral rest) :
    number? (Nat.toDigits 10 n ++ rest) = some (integer n, rest) := by
  obtain ⟨c, cs, hdigits, hc, -⟩ := exists_toDigits_eq_cons n
  have hsign : c ≠ '-' := by
    rintro rfl
    cases hc
  have hwhole := wholeDigits?_toDigits n hrest
  have hread := Digits.read?_toDigits (show 1 < 10 by decide) (by decide) n
  rw [hdigits] at hread
  rw [hdigits, List.cons_append] at hwhole ⊢
  simp [number?, hsign, hwhole, fractionPart?_of_endsNumeral hrest,
    exponentPart?_of_endsNumeral hrest, hread]

theorem number?_negative {n : Nat} (hn : n ≠ 0) {rest : List Char} (hrest : EndsNumeral rest) :
    number? ('-' :: (Nat.toDigits 10 n ++ rest)) = some (integer (-n), rest) := by
  have hread := Digits.read?_toDigits (show 1 < 10 by decide) (by decide) n
  simp [number?, wholeDigits?_toDigits n hrest, fractionPart?_of_endsNumeral hrest,
    exponentPart?_of_endsNumeral hrest, hread, hn]

/-- The characters of an integer: its digits, after a hyphen if it is negative. -/
theorem toList_toString_int (n : Int) :
    (toString n).toList = (if n < 0 then ['-'] else []) ++ Nat.toDigits 10 n.natAbs := by
  cases n with
  | ofNat n =>
    have hn : ¬ (Int.ofNat n < 0) := Int.not_lt.mpr (Int.natCast_nonneg n)
    rw [if_neg hn, List.nil_append]
    exact toList_toString_nat n
  | negSucc n =>
    have hn : Int.negSucc n < 0 := Int.negSucc_lt_zero n
    have htext : toString (Int.negSucc n) = "-" ++ toString (n + 1) := rfl
    rw [if_pos hn, htext, String.toList_append, toList_toString_nat]
    rfl

end InstallMarkup.Json
