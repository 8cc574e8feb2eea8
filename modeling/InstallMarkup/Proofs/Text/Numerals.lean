import Mathlib.Data.Nat.Digits.Defs
import InstallMarkup.Text.Digits

/-!
# Numerals

What the numeral of a number looks like, and that reading it gives the number again
(`Digits.read?_toDigits`), in decimal and in hexadecimal. The other way round, a text is read
exactly if it is digits of the radix, and as the number that they write
(`Digits.read?_eq_some_iff`); in decimal there may be a plus sign in front
(`Digits.unsigned?_eq_some_iff`).
-/

namespace InstallMarkup

/-! ## Decimal numerals -/

theorem toList_toString_nat (n : Nat) : (toString n).toList = Nat.toDigits 10 n := by
  rw [Nat.toString_eq_repr, Nat.toList_repr]

theorem isDigit_of_mem_toString {n : Nat} {c : Char} (h : c ∈ (toString n).toList) :
    c.isDigit = true := by
  rw [toList_toString_nat] at h
  exact Nat.isDigit_of_mem_toDigits (by decide) (by decide) h

theorem toString_nat_injective {m n : Nat} (h : (toString m).toList = (toString n).toList) :
    m = n := by
  rw [toList_toString_nat, toList_toString_nat] at h
  rw [← Nat.ofDigitChars_ten_toDigits (n := m), h, Nat.ofDigitChars_ten_toDigits]

theorem exists_digit_toString (n : Nat) :
    ∃ c rest, (toString n).toList = c :: rest ∧ c.isDigit = true := by
  cases h : (toString n).toList with
  | nil => exact absurd (toList_toString_nat n ▸ h) Nat.toDigits_ne_nil
  | cons c rest => exact ⟨c, rest, rfl, isDigit_of_mem_toString (h ▸ List.mem_cons_self)⟩

namespace Digits

/-! ## Digits of any radix -/

theorem exists_digitChar_of_mem {radix n : Nat} {c : Char} (hradix : 1 < radix)
    (h : c ∈ Nat.toDigits radix n) : ∃ d < radix, c = Nat.digitChar d := by
  induction n using Nat.strongRecOn with
  | _ n ih =>
    by_cases hn : n < radix
    · rw [Nat.toDigits_of_lt_base hn, List.mem_singleton] at h
      exact ⟨n, hn, h⟩
    · rw [Nat.toDigits_of_base_le hradix (by omega), List.mem_append, List.mem_singleton] at h
      rcases h with h | h
      · exact ih (n / radix) (Nat.div_lt_self (by omega) hradix) h
      · exact ⟨n % radix, Nat.mod_lt n (by omega), h⟩

/-- Only the numeral of zero opens with a zero. -/
theorem eq_zero_of_toDigits_eq_cons {n : Nat} {cs : List Char}
    (h : Nat.toDigits 10 n = '0' :: cs) : n = 0 ∧ cs = [] := by
  induction n using Nat.strongRecOn generalizing cs with
  | _ n ih =>
    by_cases hn : n < 10
    · rw [Nat.toDigits_of_lt_base hn, List.cons.injEq] at h
      exact ⟨Nat.digitChar_eq_zero.mp h.1, h.2.symm⟩
    · rw [Nat.toDigits_of_base_le (by decide) (by omega)] at h
      cases hlead : Nat.toDigits 10 (n / 10) with
      | nil => exact absurd hlead Nat.toDigits_ne_nil
      | cons c more =>
        rw [hlead, List.cons_append, List.cons.injEq] at h
        obtain ⟨hzero, -⟩ := ih (n / 10) (by omega) (h.1 ▸ hlead)
        omega

/-! ## Reading -/

theorem digitBelow?_digitChar {radix d : Nat} (hd : d < radix) (hradix : radix ≤ 16) :
    digitBelow? radix (Nat.digitChar d) = some d := by
  have hdigit : ∀ d < 16, digit? (Nat.digitChar d) = some d := by decide
  rw [digitBelow?, hdigit d (by omega)]
  exact if_pos hd

theorem readFrom?_concat (radix sofar : Nat) (cs : List Char) (c : Char) :
    readFrom? radix sofar (cs ++ [c]) =
      (readFrom? radix sofar cs).bind fun n =>
        (digitBelow? radix c).map fun d => n * radix + d := by
  induction cs generalizing sofar with
  | nil => cases hd : digitBelow? radix c <;> simp [readFrom?, hd]
  | cons c' cs ih =>
    rw [List.cons_append, readFrom?, readFrom?]
    cases hd : digitBelow? radix c' with
    | none => rfl
    | some d => exact ih (sofar * radix + d)

theorem readFrom?_toDigits {radix : Nat} (hlow : 1 < radix) (hhigh : radix ≤ 16) (n : Nat) :
    readFrom? radix 0 (Nat.toDigits radix n) = some n := by
  induction n using Nat.strongRecOn with
  | _ n ih =>
    by_cases hn : n < radix
    · have hlast := readFrom?_concat radix 0 [] (Nat.digitChar n)
      rw [digitBelow?_digitChar hn hhigh] at hlast
      rw [Nat.toDigits_of_lt_base hn]
      simpa [readFrom?] using hlast
    · -- the numeral is that of the quotient with one digit more
      have hmod : n % radix < radix := Nat.mod_lt n (by omega)
      rw [Nat.toDigits_of_base_le hlow (by omega), readFrom?_concat,
        ih (n / radix) (Nat.div_lt_self (by omega) hlow), digitBelow?_digitChar hmod hhigh]
      exact congrArg some (Nat.div_add_mod' n radix)

/-- The numeral of a number is read as the number. -/
theorem read?_toDigits {radix : Nat} (hlow : 1 < radix) (hhigh : radix ≤ 16) (n : Nat) :
    read? radix (Nat.toDigits radix n) = some n := by
  have hread := readFrom?_toDigits hlow hhigh n
  cases hdigits : Nat.toDigits radix n with
  | nil => exact absurd hdigits Nat.toDigits_ne_nil
  | cons c cs => rwa [hdigits] at hread

/-! ## What a numeral writes -/

/-- The values of digits, the last one first. Anything else counts as zero. -/
def values (cs : List Char) : List Nat := cs.reverse.map fun c => (digit? c).getD 0

/-- The number that digits write in a radix. -/
def value (radix : Nat) (cs : List Char) : Nat := Nat.ofDigits radix (values cs)

theorem length_values (cs : List Char) : (values cs).length = cs.length := by
  simp [values]

theorem value_cons (radix : Nat) (c : Char) (cs : List Char) :
    value radix (c :: cs) = (digit? c).getD 0 * radix ^ cs.length + value radix cs := by
  have hvalues : values (c :: cs) = values cs ++ [(digit? c).getD 0] := by simp [values]
  rw [value, hvalues, Nat.ofDigits_append, Nat.ofDigits_singleton, length_values, value]
  ring

theorem digitBelow?_eq_some_iff {radix d : Nat} {c : Char} :
    digitBelow? radix c = some d ↔ digit? c = some d ∧ d < radix := by
  unfold digitBelow?
  cases digit? c with
  | none => simp
  | some d' =>
    by_cases hlt : d' < radix
    · simp only [hlt, ite_true, Option.some.injEq]
      exact ⟨fun h => ⟨h, h ▸ hlt⟩, And.left⟩
    · simp only [hlt, ite_false, Option.some.injEq]
      refine ⟨nofun, ?_⟩
      rintro ⟨rfl, hd⟩
      exact absurd hd hlt

/-- Reading goes on to the end exactly over digits of the radix, and gives what they write. -/
theorem readFrom?_eq_some_iff {radix sofar n : Nat} {cs : List Char} :
    readFrom? radix sofar cs = some n ↔
      (∀ c ∈ cs, ∃ d, digitBelow? radix c = some d) ∧
        n = sofar * radix ^ cs.length + value radix cs := by
  induction cs generalizing sofar with
  | nil => simp [readFrom?, value, values, eq_comm]
  | cons c cs ih =>
    rw [readFrom?, List.forall_mem_cons]
    cases hd : digitBelow? radix c with
    | none => simp
    | some d =>
      have hdigit : digit? c = some d := (digitBelow?_eq_some_iff.mp hd).1
      have hvalue : (sofar * radix + d) * radix ^ cs.length + value radix cs =
          sofar * radix ^ (c :: cs).length + value radix (c :: cs) := by
        rw [value_cons, hdigit, Option.getD_some, List.length_cons]
        ring
      simp only [ih, hvalue, Option.some.injEq, exists_eq', true_and]

theorem read?_eq_some_iff {radix n : Nat} {cs : List Char} :
    read? radix cs = some n ↔
      cs ≠ [] ∧ (∀ c ∈ cs, ∃ d, digitBelow? radix c = some d) ∧ n = value radix cs := by
  cases cs with
  | nil => simp [read?]
  | cons c cs =>
    rw [read?, readFrom?_eq_some_iff]
    · simp
    · simp

/-! ## Decimal numerals with a sign -/

/-- The digits of the radix ten are the decimal ones. -/
theorem exists_digitBelow?_ten {c : Char} :
    (∃ d, digitBelow? 10 c = some d) ↔ c.isDigit = true := by
  have hdecimal : c.isDigit = true ↔ '0' ≤ c ∧ c ≤ '9' := by
    simp [Char.isDigit, Char.le_def]
  simp only [digitBelow?_eq_some_iff, hdecimal]
  constructor
  · rintro ⟨d, hd, hlt⟩
    unfold digit? at hd
    split at hd
    · assumption
    · -- the value of a letter is ten at least
      split at hd
      · cases hd
        omega
      · split at hd
        · cases hd
          omega
        · cases hd
  · rintro ⟨hlow, hhigh⟩
    refine ⟨c.toNat - '0'.toNat, by rw [digit?, if_pos ⟨hlow, hhigh⟩], ?_⟩
    have hle : c.toNat ≤ '9'.toNat := hhigh
    have hzero : '0'.toNat = 48 := rfl
    have hnine : '9'.toNat = 57 := rfl
    omega

/-- The text is decimal digits that write the number, perhaps with a plus sign in front. -/
def Writes (text : String) (n : Nat) : Prop :=
  ∃ digits : List Char, digits ≠ [] ∧ (∀ c ∈ digits, c.isDigit = true) ∧
    (text.toList = digits ∨ text.toList = '+' :: digits) ∧ n = value 10 digits

/-- The characters after a plus sign, if they open with one. -/
def unsigned : List Char → List Char
  | '+' :: rest => rest
  | cs => cs

theorem unsigned?_eq_filter (radix limit : Nat) (cs : List Char) :
    unsigned? radix limit cs = (read? radix (unsigned cs)).filter fun n => n < limit := by
  unfold unsigned?
  split
  · rename_i rest
    rw [unsigned]
    cases hread : read? radix rest <;> simp [Option.filter, hread]
  · rename_i hunsigned
    rw [unsigned.eq_2 cs hunsigned]
    cases hread : read? radix cs <;> simp [Option.filter, hread]

/-- A text is read exactly if it is digits, signed or not, that write a number below the limit. -/
theorem unsigned?_eq_some_iff {limit n : Nat} {text : String} :
    unsigned? 10 limit text.toList = some n ↔ Writes text n ∧ n < limit := by
  rw [unsigned?_eq_filter, Option.filter_eq_some_iff, decide_eq_true_eq, read?_eq_some_iff]
  simp only [exists_digitBelow?_ten]
  refine and_congr_left fun _ => ⟨?_, ?_⟩
  · rintro ⟨hne, hall, hn⟩
    refine ⟨unsigned text.toList, hne, hall, ?_, hn⟩
    unfold unsigned
    split
    · rename_i rest htext
      exact .inr htext
    · exact .inl rfl
  · rintro ⟨digits, hne, hall, htext, hn⟩
    have hunsigned : unsigned text.toList = digits := by
      rcases htext with htext | htext
      · -- the first character is a digit, so it is no sign
        rw [htext, unsigned]
        rintro rest rfl
        exact absurd (hall '+' List.mem_cons_self) (by decide)
      · rw [htext, unsigned]
    rw [hunsigned]
    exact ⟨hne, hall, hn⟩

/-- A text writes one number at most. -/
theorem Writes.unique {text : String} {m n : Nat} (hm : Writes text m) (hn : Writes text n) :
    m = n := by
  have hlimit : m < m + n + 1 ∧ n < m + n + 1 := by omega
  have hread := unsigned?_eq_some_iff.mpr ⟨hm, hlimit.1⟩
  exact Option.some.inj (hread.symm.trans (unsigned?_eq_some_iff.mpr ⟨hn, hlimit.2⟩))

end Digits

end InstallMarkup
