import Mathlib.Data.Nat.Bitwise
import InstallMarkup.Permission.Grant

/-!
# Rights are encoded as a union

A grant answers yes or no to names of rights, and the encoder goes through the answers one by one.
What it comes to depends on neither their order nor their number (`encode_isUnion`):

* **outcomes**: `AccessMask.Encodes` says what a list of answers has to come to, without the
  encoder: the first name that is no right of the object is reported; failing that, generic reading
  alone is refused; failing that, the mask has the bits of the rights that are granted. Encoding
  comes to this and to nothing else (`encode_eq_iff`);
* **the reserved mask**: every right but generic reading has a bit below the topmost one, so the
  union is the reserved mask exactly if generic reading is all that is granted
  (`bits_heedAll_eq_genericReadOnly_iff`);
* **answers one by one**: passing over the answers that the object has no right for, and finishing
  the mask at the end, gives the same verdict as encoding the list (`encode_eq_heeded`);
* **grants**: the attributes of a grant only answer to rights of its object
  (`mem_rights_of_mem_answers`), so what they come to is a union too (`encode_congr`).
-/

namespace InstallMarkup

/-! ## Rights and their bits -/

theorem RightsVocabulary.isSome_mask?_iff {v : RightsVocabulary} {name : String} :
    (v.mask? name).isSome = true ↔ name ∈ v.names := by
  rw [mask?, Option.isSome_map, List.isSome_idxOf?]

namespace ObjectKind

variable {kind : ObjectKind}

/-- Whether the object has a right of this name. -/
def accepts (kind : ObjectKind) (name : String) : Bool := (kind.mask? name).isSome

theorem accepts_iff {name : String} : kind.accepts name = true ↔ name ∈ kind.rights := by
  have hown : (kind.ownMask? name).isSome = true ↔ name ∈ kind.vocabulary.names := by
    rw [ownMask?]
    split
    · -- all rights of a file have a place of their own among the names
      rename_i hall
      obtain ⟨rfl, rfl⟩ := hall
      simp [vocabulary, RightsVocabulary.file]
    · exact RightsVocabulary.isSome_mask?_iff
  rw [accepts, mask?, Option.isSome_or, Option.isSome_or, Bool.or_eq_true, Bool.or_eq_true,
    RightsVocabulary.isSome_mask?_iff, RightsVocabulary.isSome_mask?_iff, hown, rights,
    List.mem_append, List.mem_append, or_assoc]

/-- Generic reading has the topmost bit alone, and every other right has a bit below it. -/
theorem lowBit_of_mem_rights : ∀ kind ∈ ObjectKind.all, ∀ name ∈ kind.rights,
    if name = "GenericRead" then kind.mask? name = some AccessMask.genericReadOnly
    else ∃ bit < 31, ((kind.mask? name).getD 0).toNat.testBit bit = true := by
  decide +kernel

/-- Some right that is granted has the bit. -/
def GrantsBit (kind : ObjectKind) (answers : List (String × Bool)) (bit : Nat) : Prop :=
  ∃ name bits, (name, true) ∈ answers ∧ kind.mask? name = some bits ∧ bits.toNat.testBit bit = true

theorem not_grantsBit_nil (bit : Nat) : ¬ kind.GrantsBit [] bit := by
  rintro ⟨name, bits, hmem, -⟩
  cases hmem

theorem grantsBit_cons {answer : String × Bool} {rest : List (String × Bool)} {bit : Nat} :
    kind.GrantsBit (answer :: rest) bit ↔
      kind.GrantsBit [answer] bit ∨ kind.GrantsBit rest bit := by
  constructor
  · rintro ⟨name, bits, hmem, hright⟩
    rcases List.mem_cons.mp hmem with hfirst | hrest
    · exact .inl ⟨name, bits, List.mem_singleton.mpr hfirst, hright⟩
    · exact .inr ⟨name, bits, hrest, hright⟩
  · rintro (⟨name, bits, hmem, hright⟩ | ⟨name, bits, hmem, hright⟩)
    · exact ⟨name, bits, List.mem_cons.mpr (.inl (List.mem_singleton.mp hmem)), hright⟩
    · exact ⟨name, bits, List.mem_cons_of_mem _ hmem, hright⟩

end ObjectKind

namespace AccessMask

variable {kind : ObjectKind}

theorem eq_of_testBit {a b : UInt32}
    (h : ∀ bit, a.toNat.testBit bit = true ↔ b.toNat.testBit bit = true) : a = b :=
  UInt32.toNat_inj.mp (Nat.eq_of_testBit_eq fun bit => Bool.eq_iff_iff.mpr (h bit))

/-! ## Answers one by one -/

/-- Takes an answer if it is to a right of the object, and passes it over otherwise. -/
def heed (m : AccessMask kind) (answer : String × Bool) : AccessMask kind :=
  (m.answer? answer.1 answer.2).getD m

/-- Takes answers one by one. -/
def heedAll (m : AccessMask kind) (answers : List (String × Bool)) : AccessMask kind :=
  answers.foldl heed m

/-- The verdict on answers that are taken one by one: each is checked for being to a right of the
object, and the mask is finished after the last. -/
def heeded (kind : ObjectKind) (answers : List (String × Bool)) : Except EncodeError UInt32 :=
  match answers.find? fun answer => !kind.accepts answer.1 with
  | some (name, _) => .error (.unknownPermission name)
  | none =>
    match ((empty : AccessMask kind).heedAll answers).finished? with
    | some bits => .ok bits
    | none => .error .genericReadOnly

theorem isSome_answer? (m : AccessMask kind) (name : String) (granted : Bool) :
    (m.answer? name granted).isSome = kind.accepts name := by
  rw [answer?, ObjectKind.accepts]
  cases kind.mask? name <;> rfl

theorem testBit_heed (m : AccessMask kind) (answer : String × Bool) (bit : Nat) :
    (m.heed answer).bits.toNat.testBit bit = true ↔
      m.bits.toNat.testBit bit = true ∨ kind.GrantsBit [answer] bit := by
  obtain ⟨name, granted⟩ := answer
  rw [heed, answer?]
  cases hright : kind.mask? name with
  | none => simp [ObjectKind.GrantsBit, hright]
  | some bits =>
    cases granted with
    | false => simp [ObjectKind.GrantsBit]
    | true => simp [ObjectKind.GrantsBit, hright, UInt32.toNat_or, Nat.testBit_or]

/-- Taking answers adds the bits of the rights that are granted. -/
theorem testBit_heedAll (m : AccessMask kind) (answers : List (String × Bool)) (bit : Nat) :
    (m.heedAll answers).bits.toNat.testBit bit = true ↔
      m.bits.toNat.testBit bit = true ∨ kind.GrantsBit answers bit := by
  induction answers generalizing m with
  | nil => simp [heedAll, ObjectKind.not_grantsBit_nil]
  | cons answer rest ih =>
    rw [heedAll, List.foldl_cons, ← heedAll, ih, testBit_heed, or_assoc,
      ← ObjectKind.grantsBit_cons]

theorem testBit_heedAll_empty (answers : List (String × Bool)) (bit : Nat) :
    ((empty : AccessMask kind).heedAll answers).bits.toNat.testBit bit = true ↔
      kind.GrantsBit answers bit := by
  rw [testBit_heedAll]
  simp [empty]

/-- Answers are taken in order up to the first that is to no right of the object. -/
theorem answerAll_eq (m : AccessMask kind) (answers : List (String × Bool)) :
    m.answerAll answers =
      match answers.find? fun answer => !kind.accepts answer.1 with
      | some (name, _) => .error (.unknownPermission name)
      | none => .ok (m.heedAll answers) := by
  induction answers generalizing m with
  | nil => rfl
  | cons answer rest ih =>
    obtain ⟨name, granted⟩ := answer
    have hsome := m.isSome_answer? name granted
    rw [answerAll, List.find?_cons, ← hsome]
    cases hanswer : m.answer? name granted with
    | none => rfl
    | some next =>
      have hnext : m.heed (name, granted) = next := by rw [heed, hanswer, Option.getD_some]
      simp only [ih, heedAll, List.foldl_cons, hnext, Option.isSome_some, Bool.not_true]

theorem encode_eq_heeded (kind : ObjectKind) (answers : List (String × Bool)) :
    encode kind answers = heeded kind answers := by
  rw [encode, heeded, answerAll_eq]
  cases answers.find? fun answer => !kind.accepts answer.1 <;> rfl

/-! ## The reserved mask -/

/-- Generic reading is granted, and nothing else is. -/
def GenericReadAlone (answers : List (String × Bool)) : Prop :=
  ∀ name, (name, true) ∈ answers ↔ name = "GenericRead"

theorem bits_heedAll_eq_genericReadOnly_iff {answers : List (String × Bool)}
    (hknown : ∀ answer ∈ answers, answer.1 ∈ kind.rights) :
    ((empty : AccessMask kind).heedAll answers).bits = genericReadOnly ↔
      GenericReadAlone answers := by
  have hall : kind ∈ ObjectKind.all := by cases kind <;> decide
  have htop : ∀ bit, genericReadOnly.toNat.testBit bit = true ↔ bit = 31 := by
    intro bit
    rw [show genericReadOnly.toNat = 2 ^ 31 from rfl, Nat.testBit_two_pow, decide_eq_true_eq,
      eq_comm]
  constructor
  · intro hreserved
    have hbits : ∀ bit, kind.GrantsBit answers bit ↔ bit = 31 := by
      intro bit
      rw [← testBit_heedAll_empty, hreserved, htop]
    -- a right other than generic reading would show by a bit below the topmost one
    have honly : ∀ name, (name, true) ∈ answers → name = "GenericRead" := by
      intro name hgranted
      have hmem := hknown _ hgranted
      by_contra hother
      have hlow := ObjectKind.lowBit_of_mem_rights kind hall name hmem
      rw [if_neg hother] at hlow
      obtain ⟨bit, hlt, hbit⟩ := hlow
      obtain ⟨bits, hbits'⟩ := Option.isSome_iff_exists.mp (ObjectKind.accepts_iff.mpr hmem)
      rw [hbits', Option.getD_some] at hbit
      have := (hbits bit).mp ⟨name, bits, hgranted, hbits', hbit⟩
      omega
    intro name
    refine ⟨honly name, ?_⟩
    rintro rfl
    obtain ⟨name, bits, hgranted, -⟩ := (hbits 31).mpr rfl
    rwa [honly name hgranted] at hgranted
  · intro halone
    have hgranted := (halone "GenericRead").mpr rfl
    have hmask := ObjectKind.lowBit_of_mem_rights kind hall _ (hknown _ hgranted)
    rw [if_pos rfl] at hmask
    refine eq_of_testBit fun bit => ?_
    rw [testBit_heedAll_empty]
    constructor
    · rintro ⟨name, bits, hname, hbits, hbit⟩
      obtain rfl := (halone name).mp hname
      obtain rfl := Option.some.inj (hmask.symm.trans hbits)
      exact hbit
    · intro hbit
      exact ⟨_, _, hgranted, hmask, hbit⟩

/-! ## What answers come to -/

/-- What a list of answers has to come to on an object. -/
inductive Encodes (kind : ObjectKind) (answers : List (String × Bool)) :
    Except EncodeError UInt32 → Prop
  /-- The first name that is no right of the object is reported. -/
  | unknownPermission (before after : List (String × Bool)) (name : String) (granted : Bool)
      (hsplit : answers = before ++ (name, granted) :: after)
      (hbefore : ∀ answer ∈ before, answer.1 ∈ kind.rights) (hunknown : name ∉ kind.rights) :
      Encodes kind answers (.error (.unknownPermission name))
  /-- Generic reading alone is refused. -/
  | genericReadOnly (hknown : ∀ answer ∈ answers, answer.1 ∈ kind.rights)
      (halone : GenericReadAlone answers) : Encodes kind answers (.error .genericReadOnly)
  /-- The mask has just the bits of the rights that are granted. -/
  | union (mask : UInt32) (hknown : ∀ answer ∈ answers, answer.1 ∈ kind.rights)
      (hmore : ¬ GenericReadAlone answers)
      (hbits : ∀ bit, mask.toNat.testBit bit = true ↔ kind.GrantsBit answers bit) :
      Encodes kind answers (.ok mask)

variable {answers answers' : List (String × Bool)}

/-- Answers to rights of the object come to the mask that is left after the last, unless it is the
reserved one. -/
theorem encode_of_known (hknown : ∀ answer ∈ answers, answer.1 ∈ kind.rights) :
    encode kind answers =
      if ((empty : AccessMask kind).heedAll answers).bits = genericReadOnly then
        .error .genericReadOnly
      else .ok ((empty : AccessMask kind).heedAll answers).bits := by
  have hnone : (answers.find? fun answer => !kind.accepts answer.1) = none := by
    rw [List.find?_eq_none]
    intro answer hanswer
    simp [ObjectKind.accepts_iff.mpr (hknown answer hanswer)]
  rw [encode_eq_heeded, heeded, hnone]
  by_cases hreserved : ((empty : AccessMask kind).heedAll answers).bits = genericReadOnly
  · simp only [finished?, if_pos hreserved]
  · simp only [finished?, if_neg hreserved]

/-- Answers to rights of the object have a mask unless they grant generic reading alone. -/
theorem exists_encode_eq_ok_iff (hknown : ∀ answer ∈ answers, answer.1 ∈ kind.rights) :
    (∃ mask, encode kind answers = .ok mask) ↔ ¬ GenericReadAlone answers := by
  rw [encode_of_known hknown, ← bits_heedAll_eq_genericReadOnly_iff hknown]
  split
  · rename_i hreserved
    simp [hreserved]
  · rename_i hother
    simp [hother]

/-- The encoder does what it has to. -/
theorem encodes_encode (kind : ObjectKind) (answers : List (String × Bool)) :
    Encodes kind answers (encode kind answers) := by
  cases hfind : answers.find? fun answer => !kind.accepts answer.1 with
  | some answer =>
    obtain ⟨name, granted⟩ := answer
    obtain ⟨hunknown, before, after, hsplit, hbefore⟩ := List.find?_eq_some_iff_append.mp hfind
    rw [encode_eq_heeded, heeded, hfind]
    refine .unknownPermission before after name granted hsplit ?_ ?_
    · intro answer hanswer
      exact ObjectKind.accepts_iff.mp (by simpa using hbefore answer hanswer)
    · rw [← ObjectKind.accepts_iff]
      simpa using hunknown
  | none =>
    have hknown : ∀ answer ∈ answers, answer.1 ∈ kind.rights := by
      intro answer hanswer
      exact ObjectKind.accepts_iff.mp (by simpa using List.find?_eq_none.mp hfind answer hanswer)
    have hreserved := bits_heedAll_eq_genericReadOnly_iff hknown
    rw [encode_of_known hknown]
    split
    · rename_i heq
      exact .genericReadOnly hknown (hreserved.mp heq)
    · rename_i hne
      exact .union _ hknown (fun halone => hne (hreserved.mpr halone))
        (testBit_heedAll_empty answers)

/-- The bits of a mask are those of the rights that are granted. -/
theorem testBit_of_encode {mask : UInt32} (h : encode kind answers = .ok mask) (bit : Nat) :
    mask.toNat.testBit bit = true ↔ kind.GrantsBit answers bit := by
  have hencodes := encodes_encode kind answers
  rw [h] at hencodes
  cases hencodes with
  | union mask hknown hmore hbits => exact hbits bit

/-- There is only one thing that it has to do. -/
theorem Encodes.eq_encode {result : Except EncodeError UInt32} (h : Encodes kind answers result) :
    encode kind answers = result := by
  cases h with
  | unknownPermission before after name granted hsplit hbefore hunknown =>
    have hfind : (answers.find? fun answer => !kind.accepts answer.1) = some (name, granted) := by
      refine List.find?_eq_some_iff_append.mpr ⟨?_, before, after, hsplit, ?_⟩
      · rw [← ObjectKind.accepts_iff] at hunknown
        simpa using hunknown
      · intro answer hanswer
        simp [ObjectKind.accepts_iff.mpr (hbefore answer hanswer)]
    rw [encode_eq_heeded, heeded, hfind]
  | genericReadOnly hknown halone =>
    rw [encode_of_known hknown, if_pos ((bits_heedAll_eq_genericReadOnly_iff hknown).mpr halone)]
  | union mask hknown hmore hbits =>
    have hmask : ((empty : AccessMask kind).heedAll answers).bits = mask :=
      eq_of_testBit fun bit => (testBit_heedAll_empty answers bit).trans (hbits bit).symm
    have hne := fun heq => hmore ((bits_heedAll_eq_genericReadOnly_iff hknown).mp heq)
    rw [encode_of_known hknown, if_neg hne, hmask]

theorem encode_eq_iff {result : Except EncodeError UInt32} :
    encode kind answers = result ↔ Encodes kind answers result :=
  ⟨fun h => h ▸ encodes_encode kind answers, Encodes.eq_encode⟩

/-- Answers to rights of the object come to the same if they grant the same rights. -/
theorem encode_congr (hknown : ∀ answer ∈ answers, answer.1 ∈ kind.rights)
    (hknown' : ∀ answer ∈ answers', answer.1 ∈ kind.rights)
    (hsame : ∀ name, (name, true) ∈ answers ↔ (name, true) ∈ answers') :
    encode kind answers = encode kind answers' := by
  have hmask : ((empty : AccessMask kind).heedAll answers).bits =
      ((empty : AccessMask kind).heedAll answers').bits := by
    refine eq_of_testBit fun bit => ?_
    rw [testBit_heedAll_empty, testBit_heedAll_empty]
    simp only [ObjectKind.GrantsBit, hsame]
  rw [encode_of_known hknown, encode_of_known hknown', hmask]

/-- Encoding is the union of the rights that are granted. Known answers come to the same in another
order, with an answer repeated or with a no put in anywhere, and taking them one by one gives the
verdict and the mask of the whole list. -/
theorem encode_isUnion (kind : ObjectKind) (answers : List (String × Bool)) :
    (∀ result, encode kind answers = result ↔ Encodes kind answers result) ∧
      ((∀ answer ∈ answers, answer.1 ∈ kind.rights) →
        (∀ answers', answers.Perm answers' → encode kind answers' = encode kind answers) ∧
        (∀ before after, before ++ after = answers →
          (∀ answer ∈ answers,
            encode kind (before ++ answer :: after) = encode kind answers) ∧
          (∀ name ∈ kind.rights,
            encode kind (before ++ (name, false) :: after) = encode kind answers))) ∧
      (∀ (m : AccessMask kind) name granted,
        (m.answer? name granted).isSome = kind.accepts name ∧
          (kind.accepts name = true ↔ name ∈ kind.rights)) ∧
      heeded kind answers = encode kind answers := by
  refine ⟨fun result => encode_eq_iff, ?_,
    fun m name granted => ⟨m.isSome_answer? name granted, ObjectKind.accepts_iff⟩,
    (encode_eq_heeded kind answers).symm⟩
  intro hknown
  refine ⟨?_, ?_⟩
  · intro answers' hperm
    exact encode_congr (fun answer hanswer => hknown answer (hperm.mem_iff.mpr hanswer)) hknown
      fun name => hperm.mem_iff.symm
  · rintro before after rfl
    -- an answer that is put in is one of the list, or grants nothing
    have hinsert : ∀ answer : String × Bool, answer.1 ∈ kind.rights →
        (∀ name, (name, true) = answer → (name, true) ∈ before ++ after) →
        encode kind (before ++ answer :: after) = encode kind (before ++ after) := by
      intro answer hright hgranted
      have hmem : ∀ x, x ∈ before ++ answer :: after ↔ x = answer ∨ x ∈ before ++ after := by
        intro x
        rw [List.mem_append, List.mem_append, List.mem_cons, or_left_comm]
      refine encode_congr ?_ hknown ?_
      · intro x hx
        rcases (hmem x).mp hx with rfl | hx
        · exact hright
        · exact hknown x hx
      · intro name
        rw [hmem]
        exact or_iff_right_of_imp (hgranted name)
    refine ⟨?_, ?_⟩
    · intro answer hanswer
      exact hinsert answer (hknown answer hanswer) fun name heq => heq ▸ hanswer
    · intro name hname
      exact hinsert (name, false) hname fun other heq => nomatch heq

/-- All rights of a file and generic reading come to one mask in either order, also with a no
between them. -/
theorem encode_isUnion_allRights :
    let answers := [("GenericRead", true), ("FileAllRights", true)]
    (∀ answer ∈ answers, answer.1 ∈ ObjectKind.file.rights) ∧
      answers.Perm [("FileAllRights", true), ("GenericRead", true)] ∧
      encode .file answers = .ok 0x801f01ff ∧
      encode .file [("FileAllRights", true), ("GenericRead", true)] = encode .file answers ∧
      encode .file [("GenericRead", true), ("Write", false), ("FileAllRights", true)] =
        encode .file answers := by
  intro answers
  have hknown : ∀ answer ∈ answers, answer.1 ∈ ObjectKind.file.rights := by decide +kernel
  have hperm : answers.Perm [("FileAllRights", true), ("GenericRead", true)] := .swap _ _ _
  obtain ⟨-, hsame, -⟩ := encode_isUnion .file answers
  obtain ⟨hpermuted, hinserted⟩ := hsame hknown
  exact ⟨hknown, hperm, by decide +kernel, hpermuted _ hperm,
    (hinserted [("GenericRead", true)] [("FileAllRights", true)] rfl).2 "Write" (by decide +kernel)⟩

end AccessMask

/-! ## Answers of grants -/

namespace PermissionGrant

variable {kind : ObjectKind} {attributes : List Attribute}

/-- A grant only answers to rights of its object. -/
theorem mem_rights_of_mem_answers :
    ∀ answer ∈ answers kind attributes, answer.1 ∈ kind.rights := by
  intro answer hanswer
  obtain ⟨a, -, ha⟩ := List.mem_filterMap.mp hanswer
  split at ha
  · rename_i hright
    split at ha
    · cases ha
      simpa using hright
    · cases ha
  · cases ha

theorem mask?_eq_some_iff {mask : UInt32} : mask? kind attributes = some mask ↔
    AccessMask.encode kind (answers kind attributes) = .ok mask := by
  rw [mask?]
  cases AccessMask.encode kind (answers kind attributes) <;> simp

end PermissionGrant

end InstallMarkup
