import InstallMarkup.Diagnostic.Log
import InstallMarkup.Proofs.Identifier.Legal
import InstallMarkup.Proofs.Reading.Grammar

/-!
# What readings report

Who reads an attribute has a log at hand, and gets a value or finds one entry more in the log
(`Reading.into`, `Reading.Reported`). What does not come to a value is reported, once, at the place
of the attribute; what does is not reported at all. So an element without errors has all its parts.

The second half says which texts come to a value (`Attribute.ReadingsExact`), without the functions
that decide it: an identifier by its characters (`Identifier.isLegal_iff_spelled`), a number by its
digits, a choice by the words that are listed.
-/

namespace InstallMarkup

/-! ## Reading with a log -/

namespace Reading

variable {α : Type}

/-- What a reading comes to with a log at hand: the value if any, and the log afterwards. -/
def into (log : DiagnosticLog) (result : Except Diagnostic α) : Option α × DiagnosticLog :=
  (result.toOption, log.recordAll (faults result))

/-- A value and the log as it was, or no value and one entry more: an error about the value of the
attribute, at its place. -/
inductive Reported (log : DiagnosticLog) (a : Attribute) : Option α × DiagnosticLog → Prop
  | accepted (value : α) : Reported log a (some value, log)
  | refused (message : String) :
      Reported log a (none,
        { log with
          entries := log.entries ++ [.errorAt .illegalAttributeValue message a.location]
          errorCount := log.errorCount + 1 })

theorem graded_errorAt (strict : Bool) (code : DiagnosticCode) (message : String)
    (location : SourceLocation) : (Diagnostic.errorAt code message location).graded strict =
      .errorAt code message location := by
  cases strict <;> rfl

/-- A reading that refuses attributes reports each that it refuses. -/
theorem reported_of_refuses {read : Attribute → Except Diagnostic α} (h : Refuses read)
    (log : DiagnosticLog) (a : Attribute) : Reported log a (into log (read a)) := by
  cases hread : read a with
  | ok value => exact .accepted value
  | error d =>
    obtain ⟨message, rfl⟩ := h a d hread
    have hrecord : log.recordAll [.errorAt .illegalAttributeValue message a.location] =
        { log with
          entries := log.entries ++ [.errorAt .illegalAttributeValue message a.location]
          errorCount := log.errorCount + 1 } := by
      simp only [DiagnosticLog.recordAll, List.foldl_cons, List.foldl_nil, DiagnosticLog.record,
        graded_errorAt]
      rfl
    rw [into, faults, hrecord]
    exact .refused message

end Reading

/-! ## The characters of identifiers -/

namespace Identifier

/-- An ASCII letter. -/
def IsLetter (c : Char) : Prop := ('A' ≤ c ∧ c ≤ 'Z') ∨ ('a' ≤ c ∧ c ≤ 'z')

/-- An ASCII letter or an underscore, followed by at most 71 ASCII letters, digits, underscores and
periods. -/
def Spelled (text : String) : Prop :=
  ∃ c cs, text.toList = c :: cs ∧ (IsLetter c ∨ c = '_') ∧ cs.length ≤ 71 ∧
    ∀ d ∈ cs, IsLetter d ∨ ('0' ≤ d ∧ d ≤ '9') ∨ d = '_' ∨ d = '.'

theorem isAlpha_iff {c : Char} : c.isAlpha = true ↔ IsLetter c := by
  show (decide ('A' ≤ c ∧ c ≤ 'Z') || (decide ('a' ≤ c) && decide (c ≤ 'z'))) = true ↔ IsLetter c
  simp only [Bool.or_eq_true, Bool.and_eq_true, decide_eq_true_eq, IsLetter]

theorem isHead_iff {c : Char} : isHead c = true ↔ IsLetter c ∨ c = '_' := by
  simp [isHead, isAlpha_iff]

theorem isTail_iff {c : Char} :
    isTail c = true ↔ IsLetter c ∨ ('0' ≤ c ∧ c ≤ '9') ∨ c = '_' ∨ c = '.' := by
  have hdigit : c.isDigit = true ↔ '0' ≤ c ∧ c ≤ '9' := by
    simp [Char.isDigit, Char.le_def]
  simp only [isTail, Char.isAlphanum, Bool.or_eq_true, isAlpha_iff, hdigit, beq_iff_eq, or_assoc]

theorem isTail_of_isHead {c : Char} (h : isHead c = true) : isTail c = true := by
  rw [isTail_iff]
  rcases isHead_iff.mp h with hletter | hunderscore
  · exact .inl hletter
  · exact .inr (.inr (.inl hunderscore))

/-- The characters of identifiers take a byte each. -/
theorem utf8Size_of_isTail {c : Char} (h : isTail c = true) : c.utf8Size = 1 := by
  have hascii : c.val ≤ 0x7f := by
    rw [UInt32.le_iff_toNat_le]
    rcases isTail_iff.mp h with (hupper | hlower) | hdigit | rfl | rfl
    · have hle : c.val.toNat ≤ 90 := hupper.2
      exact Nat.le_trans hle (by decide)
    · have hle : c.val.toNat ≤ 122 := hlower.2
      exact Nat.le_trans hle (by decide)
    · have hle : c.val.toNat ≤ 57 := hdigit.2
      exact Nat.le_trans hle (by decide)
    · decide
    · decide
  exact if_pos hascii

/-- The limit on the bytes of an identifier is one on its characters. -/
theorem isLegal_iff_spelled {text : String} : isLegal text = true ↔ Spelled text := by
  unfold isLegal Spelled
  cases htext : text.toList with
  | nil => simp
  | cons c cs =>
    have hsize : isHead c = true → (∀ d ∈ cs, isTail d = true) →
        text.utf8ByteSize = cs.length + 1 := by
      intro hhead htail
      have hbytes : ∀ d ∈ c :: cs, d.utf8Size = 1 :=
        List.forall_mem_cons.mpr ⟨utf8Size_of_isTail (isTail_of_isHead hhead),
          fun d hd => utf8Size_of_isTail (htail d hd)⟩
      rw [← String.utf8Len_toList, htext, utf8Len_of_forall_utf8Size hbytes, List.length_cons]
    simp only [Bool.and_eq_true, decide_eq_true_eq, List.all_eq_true, List.cons.injEq]
    constructor
    · rintro ⟨⟨hhead, hle⟩, htail⟩
      rw [hsize hhead htail] at hle
      exact ⟨c, cs, ⟨rfl, rfl⟩, isHead_iff.mp hhead, Nat.le_of_succ_le_succ hle,
        fun d hd => isTail_iff.mp (htail d hd)⟩
    · rintro ⟨_, _, ⟨rfl, rfl⟩, hopens, hle, hgoes⟩
      have hhead : isHead c = true := isHead_iff.mpr hopens
      have htail : ∀ d ∈ cs, isTail d = true := fun d hd => isTail_iff.mpr (hgoes d hd)
      refine ⟨⟨hhead, ?_⟩, htail⟩
      rw [hsize hhead htail]
      exact Nat.succ_le_succ hle

end Identifier

/-! ## What is accepted and what is reported -/

/-- The readings of an attribute, whatever is in the log already: each of them reports what it
refuses and nothing else, and accepts the texts of its kind alone. -/
structure Attribute.ReadingsExact (element : String) (a : Attribute) : Prop where
  text : ∀ log, Reading.Reported log a (Reading.into log (a.text element))
  identifier : ∀ log, Reading.Reported log a (Reading.into log (a.identifier element))
  yesNo : ∀ log, Reading.Reported log a (Reading.into log (a.yesNo element))
  integer : ∀ log, Reading.Reported log a (Reading.into log (a.integer element))
  guid : ∀ log, Reading.Reported log a (Reading.into log (a.guid element))
  choice : ∀ {α : Type} (options : List (String × α)) log,
    Reading.Reported log a (Reading.into log (a.choice options element))
  /-- A text is any but the empty one. -/
  text_ok : ∀ s, a.text element = .ok s ↔ s = a.value ∧ s ≠ ""
  identifier_ok : ∀ id, a.identifier element = .ok id ↔
    id.text = a.value ∧ Identifier.Spelled a.value
  yesNo_ok : ∀ granted, a.yesNo element = .ok granted ↔ a.value = if granted then "yes" else "no"
  /-- A number is digits that write it, perhaps with a plus sign in front, and has 32 bits. -/
  integer_ok : ∀ n, (a.integer element).map UInt32.toNat = .ok n ↔
    Digits.Writes a.value n ∧ n < 2 ^ 32
  guid_ok : ∀ guid, a.guid element = .ok guid ↔ Guid.Spells a.value guid
  /-- Of options for one word, the first counts. -/
  choice_ok : ∀ {α : Type} (options : List (String × α)) meaning,
    a.choice options element = .ok meaning ↔
      ∃ before after, options = before ++ (a.value, meaning) :: after ∧
        a.value ∉ before.map (·.1)
  /-- Words that stand for themselves are chosen as they are. -/
  word_ok : ∀ (legal : List String) word,
    a.choice (legal.map fun option => (option, option)) element = .ok word ↔
      word ∈ legal ∧ word = a.value

section Accepted

variable {element : String} {a : Attribute}

theorem identifier_eq_ok_iff {id : Identifier} :
    a.identifier element = .ok id ↔ id.text = a.value ∧ Identifier.Spelled a.value := by
  rw [(Reads.identifier element).ok_iff, Identifier.isLegal_iff_spelled]

theorem integer_eq_ok_iff {n : Nat} :
    (a.integer element).map UInt32.toNat = .ok n ↔ Digits.Writes a.value n ∧ n < 2 ^ 32 := by
  have hreads := (Reads.integer element).ok_iff a
  constructor
  · intro h
    cases hread : a.integer element with
    | error d =>
      rw [hread] at h
      cases h
    | ok word =>
      rw [hread] at h
      obtain rfl : word.toNat = n := Except.ok.inj h
      exact ⟨(hreads word).mp hread, word.toNat_lt_size⟩
  · rintro ⟨hwrites, hlt⟩
    have hnat : (UInt32.ofNat n).toNat = n := UInt32.toNat_ofNat_of_lt' hlt
    have hread : a.integer element = .ok (UInt32.ofNat n) :=
      (hreads _).mpr (hnat.symm ▸ hwrites)
    rw [hread]
    exact congrArg Except.ok hnat

theorem choice_eq_ok_iff {α : Type} {options : List (String × α)} {meaning : α} :
    a.choice options element = .ok meaning ↔
      ∃ before after, options = before ++ (a.value, meaning) :: after ∧
        a.value ∉ before.map (·.1) := by
  rw [(Reads.choice options element).ok_iff, List.lookup_eq_some_iff]
  refine exists₂_congr fun before after => and_congr_right fun _ => ?_
  simp only [List.mem_map, not_exists, not_and, bne_iff_ne]
  exact forall₂_congr fun option _ => ne_comm

theorem choice_word_eq_ok_iff {legal : List String} {word : String} :
    a.choice (legal.map fun option => (option, option)) element = .ok word ↔
      word ∈ legal ∧ word = a.value := by
  have hself : ∀ {meaning : String},
      (a.value, meaning) ∈ legal.map (fun option => (option, option)) →
        a.value ∈ legal ∧ meaning = a.value := by
    intro meaning hmem
    obtain ⟨option, hoption, heq⟩ := List.mem_map.mp hmem
    obtain ⟨rfl, rfl⟩ := Prod.mk.inj heq
    exact ⟨hoption, rfl⟩
  rw [(Reads.choice _ element).ok_iff]
  constructor
  · intro hlookup
    obtain ⟨hlegal, rfl⟩ := hself (mem_of_lookup hlookup)
    exact ⟨hlegal, rfl⟩
  · rintro ⟨hlegal, rfl⟩
    have hsome : ((legal.map fun option => (option, option)).lookup a.value).isSome = true := by
      rw [List.lookup_isSome_iff]
      exact ⟨(a.value, a.value), List.mem_map_of_mem hlegal, beq_self_eq_true _⟩
    obtain ⟨meaning, hmeaning⟩ := Option.isSome_iff_exists.mp hsome
    rw [hmeaning, (hself (mem_of_lookup hmeaning)).2]

end Accepted

/-- Every reading of an attribute reports exactly what it rejects. -/
theorem readings_exact (element : String) (a : Attribute) : a.ReadingsExact element where
  text log := Reading.reported_of_refuses (.text element) log a
  identifier log := Reading.reported_of_refuses (.identifier element) log a
  yesNo log := Reading.reported_of_refuses (.yesNo element) log a
  integer log := Reading.reported_of_refuses (.integer element) log a
  guid log := Reading.reported_of_refuses (.guid element) log a
  choice options log := Reading.reported_of_refuses (.choice options element) log a
  text_ok s := by
    rw [(Reads.text element).ok_iff]
    exact and_congr_right fun hs => by rw [hs]
  identifier_ok _ := identifier_eq_ok_iff
  yesNo_ok := (Reads.yesNo element).ok_iff a
  integer_ok _ := integer_eq_ok_iff
  guid_ok := (Reads.guid element).ok_iff a
  choice_ok _ _ := choice_eq_ok_iff
  word_ok _ _ := choice_word_eq_ok_iff

/-- Leading zeros count for nothing, but a sign alone writes no number. -/
example : (Attribute.integer "EventSource" ⟨"CategoryCount", "+007", {}⟩).toOption = some 7 ∧
    (Attribute.integer "EventSource" ⟨"CategoryCount", "+", {}⟩).toOption = none := by
  decide +kernel

end InstallMarkup
