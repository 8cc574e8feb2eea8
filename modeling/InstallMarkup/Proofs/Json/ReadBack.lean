import Mathlib.Data.List.DropRight
import InstallMarkup.Proofs.Json.Scalars

/-!
# JSON is read back

What is written in either layout is read as the value that it was written from
(`ofText?_compact`, `ofText?_pretty`), as long as the value is legible: no numeral with a fraction,
and no deeper nesting than the reader follows (`isLegible`).

**Proof**: `Reads` says that some characters are read as a value whatever comes after them, up to
what could go on with a numeral. Each kind of value has one lemma, and arrays and objects are put
together from the characters of their parts with any blanks between (`Reads.array`,
`Reads.object`). Both layouts are then one induction on the value each.

The fuel of the reader is no part of the argument: twice as much as there are characters is always
enough, because every bracket and every comma stands for the one step more that it takes.
-/

namespace InstallMarkup.Json

/-! ## Blanks -/

theorem skipBlanks_append {lead : List Char} (hlead : lead.all isBlank = true) (cs : List Char) :
    skipBlanks (lead ++ cs) = skipBlanks cs :=
  List.dropWhile_append_of_pos (List.all_eq_true.mp hlead)

theorem skipBlanks_cons {c : Char} (hc : isBlank c = false) (cs : List Char) :
    skipBlanks (c :: cs) = c :: cs := by
  rw [skipBlanks, List.dropWhile_cons_of_neg (by simp [hc])]

theorem endsNumeral_append {lead : List Char} (hlead : lead.all isBlank = true)
    {rest : List Char} (hrest : EndsNumeral rest) : EndsNumeral (lead ++ rest) := by
  cases lead with
  | nil => exact hrest
  | cons c lead =>
    rw [List.all_cons, Bool.and_eq_true] at hlead
    have hc := hlead.1
    simp only [isBlank, Bool.or_eq_true, beq_iff_eq] at hc
    refine endsNumeral_cons ?_
    rcases hc with ((rfl | rfl) | rfl) | rfl <;> decide

/-- Blanks before a value are skipped. -/
theorem value?_of_skipBlanks_eq {cs cs' : List Char} (h : skipBlanks cs = skipBlanks cs')
    (fuel depth : Nat) : value? fuel depth cs = value? fuel depth cs' := by
  cases fuel with
  | zero => rfl
  | succ fuel => rw [value?, value?, h]

theorem items?_of_skipBlanks_eq {cs cs' : List Char} (h : skipBlanks cs = skipBlanks cs')
    (fuel depth : Nat) : items? fuel depth cs = items? fuel depth cs' := by
  cases fuel with
  | zero => rfl
  | succ fuel => rw [items?, items?, value?_of_skipBlanks_eq h]

theorem members?_of_skipBlanks_eq {cs cs' : List Char} (h : skipBlanks cs = skipBlanks cs')
    (fuel depth : Nat) : members? fuel depth cs = members? fuel depth cs' := by
  cases fuel with
  | zero => rfl
  | succ fuel => rw [members?, members?, h]

/-! ## Values -/

/-- A character that opens a numeral leads to the reader of numerals. -/
theorem value?_of_numeral {c : Char} (hc : c = '-' ∨ c.isDigit = true) (fuel depth : Nat)
    (cs : List Char) : value? (fuel + 1) depth (c :: cs) = number? (c :: cs) := by
  have hne : c ≠ 'n' ∧ c ≠ 't' ∧ c ≠ 'f' ∧ c ≠ '"' ∧ c ≠ '[' ∧ c ≠ '{' ∧ isBlank c = false := by
    refine ⟨?_, ?_, ?_, ?_, ?_, ?_, ?_⟩
    iterate 6
      rintro rfl
      revert hc
      decide
    rw [Bool.eq_false_iff]
    intro hblank
    simp only [isBlank, Bool.or_eq_true, beq_iff_eq] at hblank
    rcases hblank with ((rfl | rfl) | rfl) | rfl <;> exact absurd hc (by decide)
  obtain ⟨hn, ht, hf, hquote, hbracket, hbrace, hblank⟩ := hne
  rw [value?, skipBlanks_cons hblank]
  split <;> simp_all

/-- No value opens with a closing bracket. -/
theorem items?_closing (fuel depth : Nat) (cs : List Char) :
    items? fuel depth (']' :: cs) = none := by
  have hvalue : ∀ fuel, value? fuel depth (']' :: cs) = none := by
    intro fuel
    cases fuel with
    | zero => rfl
    | succ fuel => rfl
  cases fuel with
  | zero => rfl
  | succ fuel => rw [items?, hvalue]

/-- No member does either, with a closing brace. -/
theorem members?_closing (fuel depth : Nat) (cs : List Char) :
    members? fuel depth ('}' :: cs) = none := by
  cases fuel with
  | zero => rfl
  | succ fuel => rfl

/-- Members whose names are legible make an object. -/
theorem ofMembers_map_some (members : List (String × Json)) :
    ofMembers (members.map fun member => (some member.1, member.2)) = object members := by
  have hnames : ∀ name? : Option String × Json → Option (String × Json),
      (∀ name value, name? (some name, value) = some (name, value)) →
      (members.map fun member => (some member.1, member.2)).mapM name? = some members := by
    intro name? hname
    induction members with
    | nil => rfl
    | cons member members ih =>
      rw [List.map_cons, List.mapM_cons, ih, hname]
      rfl
  rw [ofMembers, hnames _ fun _ _ => rfl]

/-- The characters are read as the value at a place where `depth` more arrays and objects may be
opened. -/
def Reads (depth : Nat) (cs : List Char) (v : Json) : Prop :=
  ∀ fuel rest, 2 * cs.length ≤ fuel → EndsNumeral rest →
    value? fuel depth (cs ++ rest) = some (v, rest)

theorem ofText?_of_reads {s : String} {v : Json} (h : Reads nestingLimit s.toList v) :
    ofText? s = some v := by
  have hread := h (2 * s.toList.length + 2) [] (by omega) endsNumeral_nil
  rw [List.append_nil] at hread
  simp [ofText?, hread, skipBlanks]

/-- The characters are read as a member with the value, after blanks. -/
def ReadsMember (depth : Nat) (cs : List Char) (member : String × Json) : Prop :=
  ∃ lead value, lead.all isBlank = true ∧ Reads depth value member.2 ∧
    cs = lead ++ '"' :: (member.1.toList.flatMap escaped ++ '"' :: ':' :: value)

section Parts

variable {depth : Nat} {blanks rest : List Char}

/-- Items with commas between them are read up to the closing bracket. -/
theorem items?_intercalate {text : Json → List Char} {items : List Json} (hne : items ≠ [])
    (hitems : ∀ item ∈ items, Reads depth (text item) item) (hblanks : blanks.all isBlank = true)
    {fuel : Nat} (hfuel : 2 * ([','].intercalate (items.map text)).length < fuel) :
    items? fuel depth ([','].intercalate (items.map text) ++ (blanks ++ ']' :: rest)) =
      some (items, rest) := by
  have hclose : EndsNumeral (blanks ++ ']' :: rest) :=
    endsNumeral_append hblanks (endsNumeral_cons (by decide))
  have hskip : skipBlanks (blanks ++ ']' :: rest) = ']' :: rest := by
    rw [skipBlanks_append hblanks, skipBlanks_cons (by decide)]
  induction items generalizing fuel with
  | nil => exact absurd rfl hne
  | cons item items ih =>
    obtain ⟨hitem, hrest⟩ := List.forall_mem_cons.mp hitems
    obtain ⟨fuel, rfl⟩ : ∃ n, fuel = n + 1 := ⟨fuel - 1, by omega⟩
    cases items with
    | nil =>
      rw [List.map_cons, List.map_nil, List.intercalate_singleton] at hfuel ⊢
      rw [items?, hitem fuel _ (by omega) hclose]
      simp only [hskip]
    | cons item' items =>
      rw [List.map_cons, List.map_cons, List.intercalate_cons_cons, ← List.map_cons] at hfuel ⊢
      simp only [List.length_append, List.length_singleton] at hfuel
      rw [List.append_assoc, List.append_assoc, List.singleton_append, items?,
        hitem fuel _ (by omega) (endsNumeral_cons (by decide))]
      simp only [skipBlanks_cons (show isBlank ',' = false by decide)]
      rw [ih (by simp) hrest (by omega)]
      rfl

/-- Members with commas between them are read up to the closing brace. -/
theorem members?_intercalate {text : String × Json → List Char} {members : List (String × Json)}
    (hne : members ≠ []) (hmembers : ∀ member ∈ members, ReadsMember depth (text member) member)
    (hblanks : blanks.all isBlank = true) {fuel : Nat}
    (hfuel : 2 * ([','].intercalate (members.map text)).length < fuel) :
    members? fuel depth ([','].intercalate (members.map text) ++ (blanks ++ '}' :: rest)) =
      some (members.map fun member => (some member.1, member.2), rest) := by
  have hclose : EndsNumeral (blanks ++ '}' :: rest) :=
    endsNumeral_append hblanks (endsNumeral_cons (by decide))
  have hskip : skipBlanks (blanks ++ '}' :: rest) = '}' :: rest := by
    rw [skipBlanks_append hblanks, skipBlanks_cons (by decide)]
  induction members generalizing fuel with
  | nil => exact absurd rfl hne
  | cons member members ih =>
    obtain ⟨hmember, hrest⟩ := List.forall_mem_cons.mp hmembers
    obtain ⟨lead, value, hlead, hvalue, htext⟩ := hmember
    obtain ⟨fuel, rfl⟩ : ∃ n, fuel = n + 1 := ⟨fuel - 1, by omega⟩
    have hlength : value.length < (text member).length := by
      rw [htext]
      simp only [List.length_append, List.length_cons]
      omega
    -- the name is read the same way whatever comes after the member
    have hopen : ∀ more, skipBlanks (text member ++ more) =
        '"' :: (member.1.toList.flatMap escaped ++ '"' :: ':' :: (value ++ more)) := by
      intro more
      rw [htext, List.append_assoc, skipBlanks_append hlead, List.cons_append,
        skipBlanks_cons (by decide)]
      simp
    cases members with
    | nil =>
      rw [List.map_cons, List.map_nil, List.intercalate_singleton] at hfuel ⊢
      rw [members?, hopen]
      simp only [text?_quoted, skipBlanks_cons (show isBlank ':' = false by decide),
        hvalue fuel _ (by omega) hclose, hskip]
      rfl
    | cons member' members =>
      rw [List.map_cons, List.map_cons, List.intercalate_cons_cons, ← List.map_cons] at hfuel ⊢
      simp only [List.length_append, List.length_singleton] at hfuel
      rw [List.append_assoc, List.append_assoc, List.singleton_append, members?, hopen]
      have hcomma : ∀ more, EndsNumeral (',' :: more) := fun _ => endsNumeral_cons (by decide)
      simp only [text?_quoted, skipBlanks_cons (show isBlank ':' = false by decide),
        skipBlanks_cons (show isBlank ',' = false by decide), hvalue fuel _ (by omega) (hcomma _)]
      rw [ih (by simp) hrest (by omega)]
      rfl

end Parts

namespace Reads

variable {depth : Nat} {cs : List Char} {v : Json}

/-- A value takes at least two steps. -/
theorem of_succ (hcs : cs ≠ [])
    (h : ∀ fuel rest, 2 * cs.length ≤ fuel + 1 → EndsNumeral rest →
      value? (fuel + 1) depth (cs ++ rest) = some (v, rest)) : Reads depth cs v := by
  intro fuel rest hfuel hrest
  have hlength := List.length_pos_iff.mpr hcs
  obtain ⟨fuel, rfl⟩ : ∃ n, fuel = n + 1 := ⟨fuel - 1, by omega⟩
  exact h fuel rest hfuel hrest

theorem null : Reads depth "null".toList .null :=
  of_succ (by decide) fun _ _ _ _ => rfl

theorem bool (b : Bool) : Reads depth (Json.bool b).compact.toList (.bool b) := by
  cases b with
  | true => exact of_succ (by decide) fun _ _ _ _ => rfl
  | false => exact of_succ (by decide) fun _ _ _ _ => rfl

theorem integer (n : Int) : Reads depth (toString n).toList (.integer n) := by
  rw [toList_toString_int]
  obtain ⟨c, cs, hdigits, hc, -⟩ := exists_toDigits_eq_cons n.natAbs
  split
  · rename_i hn
    refine of_succ (by simp) fun fuel rest _ hrest => ?_
    rw [List.singleton_append, List.cons_append, value?_of_numeral (.inl rfl),
      number?_negative (by omega) hrest]
    congr
    omega
  · rename_i hn
    refine of_succ (by simp [hdigits]) fun fuel rest _ hrest => ?_
    have hread := number?_natural n.natAbs hrest
    rw [List.nil_append, hdigits, List.cons_append, value?_of_numeral (.inr hc),
      ← List.cons_append, ← hdigits, hread]
    congr
    omega

theorem string (s : String) : Reads depth (quoted s).toList (.string s) := by
  rw [quoted, String.toList_ofList]
  refine of_succ (by simp) fun fuel rest _ _ => ?_
  rw [List.append_assoc, List.cons_append, value?, skipBlanks_cons (by decide)]
  simp [text?_quoted]

theorem blanks_append {blanks : List Char} (hblanks : blanks.all isBlank = true)
    (h : Reads depth cs v) : Reads depth (blanks ++ cs) v := by
  intro fuel rest hfuel hrest
  rw [List.length_append] at hfuel
  have hskip : skipBlanks (blanks ++ cs ++ rest) = skipBlanks (cs ++ rest) := by
    rw [List.append_assoc, skipBlanks_append hblanks]
  rw [value?_of_skipBlanks_eq hskip]
  exact h fuel rest (by omega) hrest

/-- Items with commas between them and brackets around them are read as an array. -/
theorem array (text : Json → List Char) (blanks : List Char) {items : List Json}
    (hitems : ∀ item ∈ items, Reads depth (text item) item)
    (hblanks : blanks.all isBlank = true) :
    Reads (depth + 1) ('[' :: ([','].intercalate (items.map text) ++ (blanks ++ [']'])))
      (.array items) := by
  refine of_succ (by simp) fun fuel rest hfuel _ => ?_
  simp only [List.length_cons, List.length_append, List.length_nil] at hfuel
  rw [List.cons_append, List.append_assoc, List.append_assoc, List.singleton_append, value?,
    skipBlanks_cons (by decide)]
  by_cases hempty : items = []
  · subst hempty
    have hskip : skipBlanks (blanks ++ ']' :: rest) = ']' :: rest := by
      rw [skipBlanks_append hblanks, skipBlanks_cons (by decide)]
    simp [hskip, atDepth]
  · have hread : items? fuel depth
        ([','].intercalate (items.map text) ++ (blanks ++ ']' :: rest)) = some (items, rest) :=
      items?_intercalate hempty hitems hblanks (by omega)
    have hidem : ∀ cs, items? fuel depth (skipBlanks cs) = items? fuel depth cs := fun cs =>
      items?_of_skipBlanks_eq (List.dropWhile_idempotent _ _) fuel depth
    rw [← hidem] at hread
    simp only
    split
    · rename_i hclosing
      rw [hclosing, items?_closing] at hread
      cases hread
    · rw [Nat.add_sub_cancel, hread]
      simp [atDepth]

/-- Members with commas between them and braces around them are read as an object. -/
theorem object (text : String × Json → List Char) (blanks : List Char)
    {members : List (String × Json)}
    (hmembers : ∀ member ∈ members, ReadsMember depth (text member) member)
    (hblanks : blanks.all isBlank = true) :
    Reads (depth + 1) ('{' :: ([','].intercalate (members.map text) ++ (blanks ++ ['}'])))
      (.object members) := by
  refine of_succ (by simp) fun fuel rest hfuel _ => ?_
  simp only [List.length_cons, List.length_append, List.length_nil] at hfuel
  rw [List.cons_append, List.append_assoc, List.append_assoc, List.singleton_append, value?,
    skipBlanks_cons (by decide)]
  by_cases hempty : members = []
  · subst hempty
    have hskip : skipBlanks (blanks ++ '}' :: rest) = '}' :: rest := by
      rw [skipBlanks_append hblanks, skipBlanks_cons (by decide)]
    simp [hskip, atDepth]
  · have hread : members? fuel depth
        ([','].intercalate (members.map text) ++ (blanks ++ '}' :: rest)) =
          some (members.map fun member => (some member.1, member.2), rest) :=
      members?_intercalate hempty hmembers hblanks (by omega)
    have hidem : ∀ cs, members? fuel depth (skipBlanks cs) = members? fuel depth cs := fun cs =>
      members?_of_skipBlanks_eq (List.dropWhile_idempotent _ _) fuel depth
    rw [← hidem] at hread
    simp only
    split
    · rename_i hclosing
      rw [hclosing, members?_closing] at hread
      cases hread
    · rw [Nat.add_sub_cancel, hread, Option.map_some, ofMembers_map_some]
      simp [atDepth]

end Reads

/-! ## Legible values -/

mutual

/-- Whether a value is read back at a place where `depth` more arrays and objects may be opened. -/
def isLegible : Nat → Json → Bool
  | _, null => true
  | _, bool _ => true
  | _, integer _ => true
  | _, fraction _ => false
  | _, string _ => true
  | 0, array _ => false
  | depth + 1, array items => areLegible depth items
  | 0, object _ => false
  | depth + 1, object members => areMembersLegible depth members
  | _, illegible => false

def areLegible : Nat → List Json → Bool
  | _, [] => true
  | depth, item :: rest => isLegible depth item && areLegible depth rest

def areMembersLegible : Nat → List (String × Json) → Bool
  | _, [] => true
  | depth, (_, value) :: rest => isLegible depth value && areMembersLegible depth rest

end

section Legible

variable {depth : Nat}

theorem areLegible_iff {items : List Json} :
    areLegible depth items = true ↔ ∀ item ∈ items, item.isLegible depth = true := by
  induction items with
  | nil => simp [areLegible]
  | cons item items ih => rw [areLegible, Bool.and_eq_true, ih, List.forall_mem_cons]

theorem areLegible_map {α : Type} {write : α → Json} (h : ∀ a, (write a).isLegible depth = true)
    (as : List α) : areLegible depth (as.map write) = true := by
  rw [areLegible_iff, List.forall_mem_map]
  exact fun a _ => h a

end Legible

theorem toList_quoted (s : String) :
    (quoted s).toList = '"' :: (s.toList.flatMap escaped ++ ['"']) := by
  rw [quoted, String.toList_ofList, List.cons_append]

/-- The characters of parts with commas between them, between an opening and a closing. -/
theorem toList_enclosed {α : Type} {opening closing : String} {l r : Char}
    (hopening : opening.toList = [l]) (hclosing : closing.toList = [r]) (tail : String)
    (text : α → String) (parts : List α) :
    (opening ++ ",".intercalate (parts.map text) ++ tail ++ closing).toList =
      l :: ([','].intercalate (parts.map fun part => (text part).toList) ++
        (tail.toList ++ [r])) := by
  rw [String.toList_append, String.toList_append, String.toList_append, String.toList_intercalate,
    List.map_map, List.append_assoc, List.append_assoc, hopening, hclosing]
  rfl

/-! ## One line -/

theorem compactItems_eq_map (items : List Json) : compactItems items = items.map compact := by
  induction items with
  | nil => rfl
  | cons item rest ih => rw [compactItems, ih, List.map_cons]

theorem compactMembers_eq_map (members : List (String × Json)) :
    compactMembers members =
      members.map fun member => quoted member.1 ++ ":" ++ compact member.2 := by
  induction members with
  | nil => rfl
  | cons member rest ih => rw [compactMembers, ih, List.map_cons]

mutual

theorem reads_compact : ∀ (v : Json) (depth : Nat), v.isLegible depth = true →
    Reads depth v.compact.toList v
  | null, _, _ => .null
  | bool b, _, _ => .bool b
  | integer n, _, _ => .integer n
  | string s, _, _ => .string s
  | array items, depth + 1, h => by
    have hread := Reads.array (fun item => item.compact.toList) []
      (reads_compactItems items depth h) rfl
    rw [compact, compactItems_eq_map,
      ← String.append_empty (s := "[" ++ ",".intercalate (items.map compact)),
      toList_enclosed (l := '[') (r := ']') rfl rfl]
    exact hread
  | object members, depth + 1, h => by
    have hread := Reads.object
      (fun member => (quoted member.1 ++ ":" ++ compact member.2).toList) []
      (reads_compactMembers members depth h) rfl
    rw [compact, compactMembers_eq_map,
      ← String.append_empty (s := "\x7b" ++ ",".intercalate (members.map _)),
      toList_enclosed (l := '{') (r := '}') rfl rfl]
    exact hread
  | fraction _, _, h => by cases h
  | array _, 0, h => by cases h
  | object _, 0, h => by cases h
  | illegible, _, h => by cases h

theorem reads_compactItems : ∀ (items : List Json) (depth : Nat), areLegible depth items = true →
    ∀ item ∈ items, Reads depth item.compact.toList item
  | [], _, _ => by
    intro item hitem
    cases hitem
  | item :: rest, depth, h => by
    rw [areLegible, Bool.and_eq_true] at h
    exact List.forall_mem_cons.mpr
      ⟨reads_compact item depth h.1, reads_compactItems rest depth h.2⟩

theorem reads_compactMembers : ∀ (members : List (String × Json)) (depth : Nat),
    areMembersLegible depth members = true →
    ∀ member ∈ members,
      ReadsMember depth (quoted member.1 ++ ":" ++ compact member.2).toList member
  | [], _, _ => by
    intro member hmember
    cases hmember
  | (name, value) :: rest, depth, h => by
    rw [areMembersLegible, Bool.and_eq_true] at h
    refine List.forall_mem_cons.mpr ⟨?_, reads_compactMembers rest depth h.2⟩
    refine ⟨[], value.compact.toList, rfl, reads_compact value depth h.1, ?_⟩
    simp [toList_quoted]

end

/-- A legible value is read back from one line. -/
theorem ofText?_compact {v : Json} (h : v.isLegible nestingLimit = true) :
    ofText? v.compact = some v :=
  ofText?_of_reads (reads_compact v nestingLimit h)

/-! ## One member to a line -/

theorem all_isBlank_lineBreak (level : Nat) : (lineBreak level).toList.all isBlank = true := by
  simp [lineBreak, isBlank]

theorem indentedItems_eq_map (level : Nat) (items : List Json) :
    indentedItems level items = items.map fun item => lineBreak level ++ indented level item := by
  induction items with
  | nil => rfl
  | cons item rest ih => rw [indentedItems, ih, List.map_cons]

theorem indentedMembers_eq_map (level : Nat) (members : List (String × Json)) :
    indentedMembers level members = members.map fun member =>
      lineBreak level ++ quoted member.1 ++ ": " ++ indented level member.2 := by
  induction members with
  | nil => rfl
  | cons member rest ih => rw [indentedMembers, ih, List.map_cons]

mutual

theorem reads_indented : ∀ (v : Json) (depth level : Nat), v.isLegible depth = true →
    Reads depth (indented level v).toList v
  | null, _, _, _ => .null
  | bool b, _, _, _ => .bool b
  | integer n, _, _, _ => .integer n
  | string s, _, _, _ => .string s
  | array items, depth + 1, level, h => by
    have hitems := reads_indentedItems items depth (level + 1) h
    cases items with
    | nil =>
      rw [indented]
      exact Reads.array (fun _ => []) [] (List.forall_mem_nil _) rfl
    | cons item rest =>
      have hread := Reads.array
        (fun item => (lineBreak (level + 1) ++ indented (level + 1) item).toList) _
        hitems (all_isBlank_lineBreak level)
      rw [indented, indentedItems_eq_map, toList_enclosed (l := '[') (r := ']') rfl rfl]
      · exact hread
      · simp
  | object members, depth + 1, level, h => by
    have hmembers := reads_indentedMembers members depth (level + 1) h
    cases members with
    | nil =>
      rw [indented]
      exact Reads.object (fun _ => []) [] (List.forall_mem_nil _) rfl
    | cons member rest =>
      have hread := Reads.object
        (fun member => (lineBreak (level + 1) ++ quoted member.1 ++ ": " ++
          indented (level + 1) member.2).toList) _
        hmembers (all_isBlank_lineBreak level)
      rw [indented, indentedMembers_eq_map, toList_enclosed (l := '{') (r := '}') rfl rfl]
      · exact hread
      · simp
  | fraction _, _, _, h => by cases h
  | array _, 0, _, h => by cases h
  | object _, 0, _, h => by cases h
  | illegible, _, _, h => by cases h

theorem reads_indentedItems : ∀ (items : List Json) (depth level : Nat),
    areLegible depth items = true →
    ∀ item ∈ items, Reads depth (lineBreak level ++ indented level item).toList item
  | [], _, _, _ => by
    intro item hitem
    cases hitem
  | item :: rest, depth, level, h => by
    rw [areLegible, Bool.and_eq_true] at h
    refine List.forall_mem_cons.mpr ⟨?_, reads_indentedItems rest depth level h.2⟩
    rw [String.toList_append]
    exact (reads_indented item depth level h.1).blanks_append (all_isBlank_lineBreak level)

theorem reads_indentedMembers : ∀ (members : List (String × Json)) (depth level : Nat),
    areMembersLegible depth members = true →
    ∀ member ∈ members, ReadsMember depth
      (lineBreak level ++ quoted member.1 ++ ": " ++ indented level member.2).toList member
  | [], _, _, _ => by
    intro member hmember
    cases hmember
  | (name, value) :: rest, depth, level, h => by
    rw [areMembersLegible, Bool.and_eq_true] at h
    refine List.forall_mem_cons.mpr ⟨?_, reads_indentedMembers rest depth level h.2⟩
    have hspace : [' '].all isBlank = true := rfl
    have hvalue := (reads_indented value depth level h.1).blanks_append hspace
    refine ⟨(lineBreak level).toList, _, all_isBlank_lineBreak level, hvalue, ?_⟩
    simp [toList_quoted]

end

/-- A legible value is read back from one member or item to a line. -/
theorem ofText?_pretty {v : Json} (h : v.isLegible nestingLimit = true) :
    ofText? v.pretty = some v :=
  ofText?_of_reads (reads_indented v nestingLimit 0 h)

end InstallMarkup.Json
