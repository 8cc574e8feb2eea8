import Mathlib.Algebra.Ring.Nat
import Mathlib.Data.Finset.Card
import InstallMarkup.Proofs.Run.Output

/-!
# The row store over a history of writes

What the store answers after any sequence of writes, in terms of the sequence alone
(`FirstOccurrences`):

* **rows**: a table has the rows that were written to it, in order, without the repeats. The rows of
  the tables together are the different rows written, so their number is known too;
* **keys**: an identifier is in use in a table if a row that the table has now is named by it;
* **collisions**: a write is one if its row is unlike every row before it and one of these, in the
  same table, has its identifier (`Row.reuses`). Rows without an identifier never collide.

The store is one list, and all answers are views of it. A linker would rather keep the rows of each
table, the set of the rows seen and the set of the keys in use (`IndexedStore`). The last part shows
that the three stay in step: after every write they give the same answers as the list
(`IndexedStore.Agrees.write`).
-/

namespace InstallMarkup

/-! ## Reuse of identifiers -/

namespace Row

/-- The table and identifier that a row reuses if it is written after some others: it is none of
them, and one of them has its table and identifier. -/
def reuse? (earlier : List Row) (row : Row) : Option (Table × Identifier) :=
  match row.key? with
  | some key =>
    if row ∉ earlier ∧ ∃ other ∈ earlier, other.table = row.table ∧ other.key? = some key then
      some (row.table, key)
    else none
  | none => none

/-- What the rows of a history reuse, in order. -/
def reuses (written : List Row) : List (Table × Identifier) :=
  written.zipIdx.filterMap fun (row, i) => row.reuse? (written.take i)

theorem reuses_concat (written : List Row) (row : Row) :
    reuses (written ++ [row]) = reuses written ++ (row.reuse? written).toList :=
  filterMap_take_concat reuse? written row

/-- A row that reuses an identifier has one. -/
theorem key?_of_reuse? {earlier : List Row} {row : Row} {reused : Table × Identifier}
    (h : row.reuse? earlier = some reused) :
    row.table = reused.1 ∧ row.key? = some reused.2 := by
  unfold reuse? at h
  split at h
  · rename_i key hkey
    split at h
    · cases h
      exact ⟨rfl, hkey⟩
    · cases h
  · cases h

/-- The tables of relations and of permission grants have no identifiers. -/
theorem key?_eq_none_iff {row : Row} :
    row.key? = none ↔ row.table = .searchRelation ∨ row.table = .permissionGrant := by
  cases row <;> simp [key?, table]

end Row

/-! ## One write -/

section Write

variable (t : Tables) (o : Output)

theorem Tables.hasKey_iff {table : Table} {key : Identifier} :
    t.hasKey table key = true ↔ ∃ row ∈ t.rows table, row.key? = some key := by
  simp [hasKey, and_assoc]

theorem Output.writeAll_concat (written : List Row) (row : Row) :
    o.writeAll (written ++ [row]) = (o.writeAll written).write row := by
  rw [writeAll, List.foldl_append, ← writeAll]
  rfl

/-- Whether a write is a collision is told by the rows that the store has. -/
theorem Output.collision?_eq {earlier : List Row}
    (h : ∀ row, row ∈ o.tables.all ↔ row ∈ earlier) (row : Row) :
    (o.collision? row).map (row.table, ·) = row.reuse? earlier := by
  cases hrow : row.key? with
  | none => simp [collision?, Row.reuse?, hrow]
  | some key =>
    have hnew : (o.tables.all.contains row = false) ↔ row ∉ earlier := by
      rw [← h row]
      simp
    have hused : o.tables.hasKey row.table key = true ↔
        ∃ other ∈ earlier, other.table = row.table ∧ other.key? = some key := by
      rw [Tables.hasKey_iff]
      simp only [Tables.mem_rows, h, and_assoc]
    simp only [collision?, Row.reuse?, hrow]
    by_cases hreused : row ∉ earlier ∧
        ∃ other ∈ earlier, other.table = row.table ∧ other.key? = some key
    · rw [if_pos hreused, hused.mpr hreused.2, hnew.mpr hreused.1]
      rfl
    · have hcollides : ¬ (o.tables.hasKey row.table key && !o.tables.all.contains row) = true := by
        rw [Bool.and_eq_true, Bool.not_eq_true', hused, hnew]
        exact fun hboth => hreused ⟨hboth.2, hboth.1⟩
      rw [if_neg hreused, if_neg hcollides]
      rfl

end Write

/-! ## A history of writes -/

/-- The rows of a list, table by table, are as many as there are in it. -/
theorem sum_length_rows (rows : List Row) :
    (Table.all.map fun table => (rows.filter (·.table == table)).length).sum = rows.length := by
  induction rows with
  | nil => rfl
  | cons row rows ih =>
    rw [List.length_cons, ← ih]
    -- a row adds one to the table it belongs to
    simp only [Table.all, List.map_cons, List.map_nil, List.sum_cons, List.sum_nil]
    cases htable : row.table <;> simp [htable] <;> omega

/-- What a store has to answer after a history of writes. -/
structure FirstOccurrences (written : List Row) (o : Output) : Prop where
  /-- A table has its rows in the order of first writing. -/
  rows : ∀ table, o.tables.rows table = (written.filter (·.table == table)).eraseDups
  /-- The size is the number of different rows. -/
  size : o.tables.size = written.toFinset.card
  /-- The tables share the rows out. -/
  size_eq_sum : o.tables.size = (Table.all.map fun table => (o.tables.rows table).length).sum
  isEmpty : o.tables.isEmpty = true ↔ o.tables.size = 0
  /-- An identifier is in use if it names a row that the table has. -/
  hasKey : ∀ table key,
    o.tables.hasKey table key = true ↔ ∃ row ∈ o.tables.rows table, row.key? = some key
  /-- The collisions are the new rows under identifiers in use, in the order of writing. -/
  collisions : o.collisions = Row.reuses written
  /-- Nothing collides in the tables without identifiers. -/
  keyless : ∀ collision ∈ o.collisions,
    collision.1 ≠ .searchRelation ∧ collision.1 ≠ .permissionGrant

theorem all_writeAll_empty (written : List Row) :
    (Output.empty.writeAll written).tables.all = written.eraseDups := by
  rw [Output.tables_writeAll, Tables.all_foldl_insert, ← grow_nil_eq_eraseDups]
  rfl

theorem collisions_writeAll_empty (written : List Row) :
    (Output.empty.writeAll written).collisions = Row.reuses written := by
  induction written using List.reverseRecOn with
  | nil => rfl
  | append_singleton written row ih =>
    have hrows : ∀ r, r ∈ (Output.empty.writeAll written).tables.all ↔ r ∈ written := by
      intro r
      rw [all_writeAll_empty, List.mem_eraseDups]
    rw [Output.writeAll_concat, Row.reuses_concat, ← ih, ← Output.collision?_eq _ hrows]
    rfl

/-- A repeat is no collision, and a third row under an identifier is one again. -/
example : (Output.empty.writeAll [.search ⟨⟨"id"⟩, "A", none⟩, .search ⟨⟨"id"⟩, "B", none⟩,
    .search ⟨⟨"id"⟩, "B", none⟩, .search ⟨⟨"id"⟩, "C", none⟩]).collisions =
      [(.search, ⟨"id"⟩), (.search, ⟨"id"⟩)] := by decide +kernel

theorem firstOccurrences_writeAll (written : List Row) :
    FirstOccurrences written (Output.empty.writeAll written) where
  rows := by
    intro table
    rw [Output.tables_writeAll, Tables.rows_foldl_insert, ← grow_nil_eq_eraseDups]
    rfl
  size := by
    have hnodup : written.eraseDups.Nodup := by
      rw [← grow_nil_eq_eraseDups]
      exact nodup_grow List.nodup_nil written
    have hset : written.eraseDups.toFinset = written.toFinset := by
      ext row
      simp
    rw [Tables.size, all_writeAll_empty, ← hset, List.toFinset_card_of_nodup hnodup]
  size_eq_sum := (sum_length_rows _).symm
  isEmpty := by
    rw [Tables.isEmpty, Tables.size, List.isEmpty_iff, List.length_eq_zero_iff]
  hasKey := fun _ _ => Tables.hasKey_iff _
  collisions := collisions_writeAll_empty written
  keyless := by
    intro collision hcollision
    rw [collisions_writeAll_empty] at hcollision
    obtain ⟨⟨row, i⟩, -, hreuse⟩ := List.mem_filterMap.mp hcollision
    obtain ⟨htable, hkey⟩ := Row.key?_of_reuse? hreuse
    rw [← htable]
    have hkeyed : row.key? ≠ none := by simp [hkey]
    rw [Ne, Row.key?_eq_none_iff, not_or] at hkeyed
    exact hkeyed

/-! ## Indices -/

/-- A store that keeps an index for each question: the rows by table, the rows seen, and the
identifiers in use. -/
structure IndexedStore where
  rows : Table → List Row := fun _ => []
  seen : Finset Row := ∅
  keys : Finset (Table × Identifier) := ∅
  collisions : List (Table × Identifier) := []

namespace IndexedStore

def empty : IndexedStore := {}

/-- The keys that a row brings in. -/
def keysOf (row : Row) : List (Table × Identifier) :=
  (row.key?.map (row.table, ·)).toList

/-- Writes a row. Whether its key is in use is asked before the key is added. -/
def write (s : IndexedStore) (row : Row) : IndexedStore :=
  if row ∈ s.seen then s
  else
    { rows := Function.update s.rows row.table (s.rows row.table ++ [row])
      seen := insert row s.seen
      keys := s.keys ∪ (keysOf row).toFinset
      collisions := s.collisions ++ (keysOf row).filter (· ∈ s.keys) }

/-- Writes rows in order. -/
def writeAll (s : IndexedStore) (rows : List Row) : IndexedStore :=
  rows.foldl write s

/-- The indices answer every question as the list of all rows does. -/
structure Agrees (s : IndexedStore) (o : Output) : Prop where
  rows : ∀ table, s.rows table = o.tables.rows table
  seen : ∀ row, row ∈ s.seen ↔ row ∈ o.tables.all
  size : s.seen.card = o.tables.size
  keys : ∀ table key, (table, key) ∈ s.keys ↔ o.tables.hasKey table key = true
  collisions : s.collisions = o.collisions

theorem agrees_empty : empty.Agrees Output.empty where
  rows := fun _ => rfl
  seen := by simp [empty, Output.empty]
  size := rfl
  keys := by simp [empty, Output.empty, Tables.hasKey]
  collisions := rfl

theorem mem_keysOf {row : Row} {table : Table} {key : Identifier} :
    (table, key) ∈ keysOf row ↔ row.table = table ∧ row.key? = some key := by
  cases hkey : row.key? <;> simp [keysOf, hkey, eq_comm]

/-- A write that finds its row in place changes nothing. -/
theorem write_of_mem {o : Output} {row : Row} (h : row ∈ o.tables.all) : o.write row = o := by
  have htables : o.tables.insert row = o.tables := by rw [Tables.insert, if_pos h]
  have hcollision : o.collision? row = none := by
    unfold Output.collision?
    split
    · simp [h]
    · rfl
  simp [Output.write, htables, hcollision]

/-- The indices stay in step with the list. -/
theorem Agrees.write {s : IndexedStore} {o : Output} (h : s.Agrees o) (row : Row) :
    (s.write row).Agrees (o.write row) := by
  by_cases hrow : row ∈ o.tables.all
  · rw [write_of_mem hrow, IndexedStore.write, if_pos ((h.seen row).mpr hrow)]
    exact h
  · have hunseen : row ∉ s.seen := fun hseen => hrow ((h.seen row).mp hseen)
    have hall : (o.write row).tables.all = o.tables.all ++ [row] := by
      rw [Output.write, Tables.all_insert, grow_singleton, if_neg hrow]
    rw [IndexedStore.write, if_neg hunseen]
    refine ⟨?rows, ?seen, ?size, ?keys, ?collisions⟩
    case rows =>
      intro table
      have hview : (o.write row).tables.rows table =
          o.tables.rows table ++ if row.table = table then [row] else [] := by
        rw [Tables.rows, hall, List.filter_append, ← Tables.rows]
        by_cases htable : row.table = table <;> simp [htable]
      rw [hview, ← h.rows table]
      by_cases htable : row.table = table
      · subst htable
        simp
      · simp [htable, Function.update_of_ne (Ne.symm htable)]
    case seen =>
      intro r
      rw [Finset.mem_insert, h.seen, hall, List.mem_append, List.mem_singleton, or_comm]
    case size =>
      rw [Finset.card_insert_of_notMem hunseen, h.size, Tables.size, Tables.size, hall,
        List.length_append, List.length_singleton]
    case keys =>
      intro table key
      rw [Finset.mem_union, List.mem_toFinset, h.keys, mem_keysOf, Tables.hasKey_iff,
        Tables.hasKey_iff]
      simp only [Tables.mem_rows, hall, List.mem_append, List.mem_singleton]
      constructor
      · rintro (⟨r, ⟨hr, htable⟩, hkey⟩ | ⟨htable, hkey⟩)
        · exact ⟨r, ⟨.inl hr, htable⟩, hkey⟩
        · exact ⟨row, ⟨.inr rfl, htable⟩, hkey⟩
      · rintro ⟨r, ⟨hr | rfl, htable⟩, hkey⟩
        · exact .inl ⟨r, ⟨hr, htable⟩, hkey⟩
        · exact .inr ⟨htable, hkey⟩
    case collisions =>
      have hcollision : (keysOf row).filter (· ∈ s.keys) =
          ((o.collision? row).map (row.table, ·)).toList := by
        have hnew : o.tables.all.contains row = false := by simpa using hrow
        cases hkey : row.key? with
        | none => simp [keysOf, Output.collision?, hkey]
        | some key =>
          by_cases hused : o.tables.hasKey row.table key = true
          · simp [keysOf, Output.collision?, hkey, h.keys, hused, hrow]
          · simp [keysOf, Output.collision?, hkey, h.keys, hused]
      show s.collisions ++ (keysOf row).filter (· ∈ s.keys) = (o.write row).collisions
      rw [hcollision, h.collisions]
      rfl

theorem Agrees.writeAll {s : IndexedStore} {o : Output} (h : s.Agrees o) (rows : List Row) :
    (s.writeAll rows).Agrees (o.writeAll rows) := by
  induction rows generalizing s o with
  | nil => exact h
  | cons row rows ih => exact ih (h.write row)

end IndexedStore

/-- After any history of writes to an empty store, a table has the first occurrences of its rows,
the size counts the different rows, a key is in use exactly if it names a row, and the collisions
are the new rows under keys in use. A store that keeps its rows, the rows seen and the keys in use
apart gives the same answers. -/
theorem store_firstOccurrences (written : List Row) :
    FirstOccurrences written (Output.empty.writeAll written) ∧
      (IndexedStore.empty.writeAll written).Agrees (Output.empty.writeAll written) :=
  ⟨firstOccurrences_writeAll written, IndexedStore.agrees_empty.writeAll written⟩

end InstallMarkup
