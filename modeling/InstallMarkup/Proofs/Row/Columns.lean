import InstallMarkup.Proofs.Run.Output

/-!
# Columns tell their rows

The linking engine is handed columns, not rows. Nothing is lost in them:

* **one row**: `Row.readColumns?` reads the columns of a table, and gives a row exactly if they are
  the columns of that row (`Row.readColumns?_eq_some_iff`). So no two rows of a table look alike,
  whatever their texts and masks are, and an absent text is not taken for an empty one;
* **masks**: a signed column holds its mask modulo 2^32 (`toNat_eq_toInt_emod`);
* **all rows**: rows that are written once are told apart by their columns, and from the columns of
  a store every table can be put together again (`Tables.toldByColumns_of_nodup`).
-/

namespace InstallMarkup

/-! ## Reading columns -/

/-- The hive that an integer column stands for. -/
def RegistryRoot.ofCode? (code : Int32) : Option RegistryRoot :=
  all.find? (·.code == code)

/-- The strength that an integer column stands for. -/
def RelationStrength.ofCode? (code : Int32) : Option RelationStrength :=
  all.find? (·.code == code)

/-- The text of a column, or its absence. -/
def Column.optional? : Column → Option (Option String)
  | text value => some (some value)
  | null => some none
  | integer _ => none

namespace Row

/-- The row of a table that has the columns, if one does. -/
def readColumns? : Table → List Column → Option Row
  | .search, [.text id, .text variableName, condition] =>
    condition.optional?.map fun condition => .search { id := ⟨id⟩, variableName, condition }
  | .searchRelation, [.text child, .text parent, .integer strength] =>
    (RelationStrength.ofCode? strength).map fun strength =>
      .searchRelation { child := ⟨child⟩, parent := ⟨parent⟩, strength }
  | .fileSearch, [.text id, .text path, .integer flags] =>
    some (.fileSearch { id := ⟨id⟩, path, flags := ⟨flags.toUInt32⟩ })
  | .componentSearch, [.text id, .text componentGuid, productCode, .integer flags] =>
    productCode.optional?.map fun productCode =>
      .componentSearch { id := ⟨id⟩, componentGuid, productCode, flags := ⟨flags.toUInt32⟩ }
  | .productSearch, [.text id, .text code, .integer flags] =>
    some (.productSearch { id := ⟨id⟩, code, flags := ⟨flags.toUInt32⟩ })
  | .registrySearch, [.text id, .integer root, .text key, value, .integer flags] =>
    match RegistryRoot.ofCode? root, value.optional? with
    | some root, some value =>
      some (.registrySearch { id := ⟨id⟩, root, key, value, flags := ⟨flags.toUInt32⟩ })
    | _, _ => none
  | .permissionGrant, [.text objectId, .text objectTable, domain, .text user, .integer permission,
      .text componentId] =>
    domain.optional?.map fun domain =>
      .permissionGrant
        { objectId, objectTable, domain, user, permission := permission.toUInt32, componentId }
  | .registry, [.text id, .integer root, .text key, name, value, .text componentId] =>
    match RegistryRoot.ofCode? root, name.optional?, value.optional? with
    | some root, some name, some value =>
      some (.registry { id := ⟨id⟩, root, key, name, value, componentId })
    | _, _, _ => none
  | _, _ => none

/-- The rows of a table that have the columns, each list of them. -/
def readAll? (table : Table) : List (List Column) → Option (List Row)
  | [] => some []
  | columns :: rest =>
    match readColumns? table columns, readAll? table rest with
    | some row, some rows => some (row :: rows)
    | _, _ => none

end Row

namespace Tables

/-- The rows of all entries, each with its table, entry after entry. -/
def readRows? : List (Table × List (List Column)) → Option (List Row)
  | [] => some []
  | (table, columns) :: rest =>
    match Row.readAll? table columns, readRows? rest with
    | some rows, some others => some (rows ++ others)
    | _, _ => none

/-- The store that the entries tell of. -/
def readColumns? (entries : List (Table × List (List Column))) : Option Tables :=
  (readRows? entries).map (·.foldl insert .empty)

end Tables

/-! ## One column -/

theorem RegistryRoot.ofCode?_eq_some_iff {code : Int32} {root : RegistryRoot} :
    ofCode? code = some root ↔ root.code = code := by
  constructor
  · intro h
    simpa using List.find?_some h
  · rintro rfl
    cases root <;> rfl

theorem RelationStrength.ofCode?_eq_some_iff {code : Int32} {strength : RelationStrength} :
    ofCode? code = some strength ↔ strength.code = code := by
  constructor
  · intro h
    simpa using List.find?_some h
  · rintro rfl
    cases strength
    rfl

theorem Column.optional?_eq_some_iff {column : Column} {value : Option String} :
    column.optional? = some value ↔ Column.optional value = column := by
  cases column <;> cases value <;> simp [optional?, optional, eq_comm]

@[simp] theorem Column.mask_toUInt32 (i : Int32) : mask i.toUInt32 = integer i :=
  congrArg integer i.toInt32_toUInt32

/-- A mask is its signed number modulo 2^32. -/
theorem toNat_eq_toInt_emod (bits : UInt32) :
    (bits.toNat : Int) = bits.toInt32.toInt % UInt32.size := by
  have hsigned : bits.toInt32.toInt = (bits.toNat : Int).bmod UInt32.size :=
    bits.toBitVec.toInt_eq_toNat_bmod
  have hlt : (bits.toNat : Int) < UInt32.size := by exact_mod_cast bits.toNat_lt
  rw [hsigned, Int.bmod_emod, Int.emod_eq_of_lt (Int.natCast_nonneg _) hlt]

/-! ## One row -/

namespace Row

/-- The columns of a row are read as the row. -/
theorem readColumns?_columns (row : Row) :
    readColumns? row.table row.columns = some row := by
  have hoptional : ∀ value, (Column.optional value).optional? = some value :=
    fun value => Column.optional?_eq_some_iff.mpr rfl
  have hroot : ∀ root : RegistryRoot, RegistryRoot.ofCode? root.code = some root :=
    fun root => RegistryRoot.ofCode?_eq_some_iff.mpr rfl
  have hstrength : ∀ strength : RelationStrength,
      RelationStrength.ofCode? strength.code = some strength :=
    fun strength => RelationStrength.ofCode?_eq_some_iff.mpr rfl
  cases row <;>
    simp [table, columns, readColumns?, Column.id, Column.mask, hoptional, hroot, hstrength]

/-- What columns are read as has just these columns. -/
theorem columns_of_readColumns? {table : Table} {columns : List Column} {row : Row}
    (h : readColumns? table columns = some row) : row.table = table ∧ row.columns = columns := by
  unfold readColumns? at h
  split at h
  · obtain ⟨condition, hcondition, rfl⟩ := Option.map_eq_some_iff.mp h
    simp [Row.columns, Row.table, Column.id, Column.optional?_eq_some_iff.mp hcondition]
  · obtain ⟨strength, hstrength, rfl⟩ := Option.map_eq_some_iff.mp h
    simp [Row.columns, Row.table, Column.id, RelationStrength.ofCode?_eq_some_iff.mp hstrength]
  · cases h
    simp [Row.columns, Row.table, Column.id]
  · obtain ⟨code, hcode, rfl⟩ := Option.map_eq_some_iff.mp h
    simp [Row.columns, Row.table, Column.id, Column.optional?_eq_some_iff.mp hcode]
  · cases h
    simp [Row.columns, Row.table, Column.id]
  · split at h
    · rename_i hroot hvalue
      cases h
      simp [Row.columns, Row.table, Column.id, RegistryRoot.ofCode?_eq_some_iff.mp hroot,
        Column.optional?_eq_some_iff.mp hvalue]
    · cases h
  · obtain ⟨domain, hdomain, rfl⟩ := Option.map_eq_some_iff.mp h
    simp [Row.columns, Row.table, Column.optional?_eq_some_iff.mp hdomain]
  · split at h
    · rename_i hroot hname hvalue
      cases h
      simp [Row.columns, Row.table, Column.id, RegistryRoot.ofCode?_eq_some_iff.mp hroot,
        Column.optional?_eq_some_iff.mp hname, Column.optional?_eq_some_iff.mp hvalue]
    · cases h
  · cases h

/-- Columns are read as the row of the table that has them, if there is one. -/
theorem readColumns?_eq_some_iff {table : Table} {columns : List Column} {row : Row} :
    readColumns? table columns = some row ↔ row.table = table ∧ row.columns = columns := by
  constructor
  · exact columns_of_readColumns?
  · rintro ⟨rfl, rfl⟩
    exact readColumns?_columns row

/-- Rows of a table with the same columns are the same row. -/
theorem eq_of_columns {row row' : Row} (htable : row.table = row'.table)
    (hcolumns : row.columns = row'.columns) : row = row' := by
  have hread := readColumns?_columns row
  rw [htable, hcolumns, readColumns?_columns] at hread
  exact (Option.some.inj hread).symm

theorem readAll?_columns {table : Table} {rows : List Row}
    (h : ∀ row ∈ rows, row.table = table) :
    readAll? table (rows.map columns) = some rows := by
  induction rows with
  | nil => rfl
  | cons row rest ih =>
    obtain ⟨rfl, hrest⟩ := List.forall_mem_cons.mp h
    rw [List.map_cons, readAll?, readColumns?_columns, ih hrest]

end Row

/-! ## All rows -/

theorem Table.mem_byName (table : Table) : table ∈ byName := by
  cases table <;> decide

namespace Tables

variable (t : Tables)

/-- The entries are those of the tables that have rows. -/
theorem columns_eq : t.columns = (Table.byName.filter fun table => !(t.rows table).isEmpty).map
    fun table => (table, (t.rows table).map Row.columns) := by
  rw [columns, byTable, List.filter_map, List.map_map]
  rfl

/-- The entries of some tables are read as the rows of those tables. -/
theorem readRows?_map (tables : List Table) :
    readRows? ((tables.filter fun table => !(t.rows table).isEmpty).map
      fun table => (table, (t.rows table).map Row.columns)) = some (tables.flatMap t.rows) := by
  induction tables with
  | nil => rfl
  | cons table rest ih =>
    rw [List.flatMap_cons]
    by_cases hempty : t.rows table = []
    · rw [List.filter_cons_of_neg (by simp [hempty]), ih, hempty, List.nil_append]
    · have hread : Row.readAll? table ((t.rows table).map Row.columns) =
          some (t.rows table) :=
        Row.readAll?_columns fun row hrow => (mem_rows.mp hrow).2
      rw [List.filter_cons_of_pos (by simpa using hempty), List.map_cons, readRows?, hread, ih]

theorem filter_flatMap_byName (table : Table) :
    (Table.byName.flatMap t.rows).filter (·.table == table) = t.rows table := by
  have hview : ∀ other, (t.rows other).filter (·.table == table) =
      if other = table then t.rows table else [] := by
    intro other
    by_cases hother : other = table
    · rw [if_pos hother, hother, rows, List.filter_filter]
      simp
    · rw [if_neg hother, List.filter_eq_nil_iff]
      intro row hrow
      simpa [(mem_rows.mp hrow).2] using hother
  rw [List.filter_flatMap]
  simp only [hview]
  cases table <;> simp [Table.byName]

/-- Reading the columns of a store gives a store with the same rows, table by table. -/
theorem readColumns?_columns (h : t.all.Nodup) : ∃ t' : Tables, readColumns? t.columns = some t' ∧
    t'.all.Perm t.all ∧ ∀ table, t'.rows table = t.rows table := by
  have hread :
      readColumns? t.columns = some ((Table.byName.flatMap t.rows).foldl insert .empty) := by
    rw [readColumns?, columns_eq, readRows?_map, Option.map_some]
  refine ⟨_, hread, ?perm, ?rows⟩
  case perm =>
    have hnodup := nodup_grow (List.nodup_nil : ([] : List Row).Nodup) (Table.byName.flatMap t.rows)
    have hall : ((Table.byName.flatMap t.rows).foldl insert .empty).all =
        grow [] (Table.byName.flatMap t.rows) := all_foldl_insert .empty _
    rw [hall]
    refine (List.perm_ext_iff_of_nodup hnodup h).mpr fun row => ?_
    simp [Table.mem_byName]
  case rows =>
    intro table
    have hview : (t.rows table).Nodup := h.filter _
    rw [rows_foldl_insert, filter_flatMap_byName]
    exact grow_nil_of_nodup hview

/-- The columns of a store tell what is in it. -/
structure ToldByColumns (t : Tables) : Prop where
  /-- Entries stand in the order of the names of their tables, each name once at most. -/
  named : (t.columns.map (·.1.name)).Pairwise (· < ·)
  /-- There is an entry exactly for the tables that have a row. -/
  entries : ∀ table, table ∈ t.columns.map (·.1) ↔ ∃ row ∈ t.all, row.table = table
  /-- An entry lists the columns of the rows of its table in order. -/
  listed : ∀ entry ∈ t.columns, entry.2 = (t.rows entry.1).map Row.columns
  /-- It lists no columns twice. -/
  distinct : ∀ entry ∈ t.columns, entry.2.Nodup
  /-- A store with the same rows and identifiers in every table can be read back from them. -/
  rebuilt : ∃ t' : Tables, readColumns? t.columns = some t' ∧
    (∀ table, t'.rows table = t.rows table) ∧
    (∀ table key, t'.hasKey table key = t.hasKey table key) ∧ t'.size = t.size

theorem toldByColumns_of_nodup (h : t.all.Nodup) : t.ToldByColumns := by
  refine ⟨?named, ?entries, ?listed, ?distinct, ?rebuilt⟩
  case named =>
    have hordered : (Table.byName.map Table.name).Pairwise (· < ·) := by decide
    rw [columns_eq, List.map_map]
    exact hordered.sublist (List.filter_sublist.map Table.name)
  case entries =>
    intro table
    rw [columns_eq, List.map_map]
    simp [Table.mem_byName, List.eq_nil_iff_forall_not_mem]
  case listed =>
    intro entry hentry
    rw [columns_eq] at hentry
    obtain ⟨table, -, rfl⟩ := List.mem_map.mp hentry
    rfl
  case distinct =>
    intro entry hentry
    rw [columns_eq] at hentry
    obtain ⟨table, -, rfl⟩ := List.mem_map.mp hentry
    have hrows : (t.rows table).Nodup := h.filter _
    refine hrows.map_on fun row hrow row' hrow' heq => ?_
    exact Row.eq_of_columns ((mem_rows.mp hrow).2.trans (mem_rows.mp hrow').2.symm) heq
  case rebuilt =>
    obtain ⟨t', hread, hperm, hrows⟩ := t.readColumns?_columns h
    refine ⟨t', hread, hrows, ?_, hperm.length_eq⟩
    intro table key
    exact hperm.any_eq

end Tables

/-- Columns lose nothing: the columns of a row tell the row, a signed column tells its mask, and the
columns of a store tell its rows, whatever has been written to it. -/
theorem columns_lossless (written : List Row) :
    (∀ (table : Table) (columns : List Column) (row : Row),
        Row.readColumns? table columns = some row ↔ row.table = table ∧ row.columns = columns) ∧
      (∀ row row' : Row, row.table = row'.table → row.columns = row'.columns → row = row') ∧
      (∀ grant : PermissionGrantRow, ∃ column : Int32,
        (Row.permissionGrant grant).columns[4]? = some (.integer column) ∧
          (grant.permission.toNat : Int) = column.toInt % UInt32.size) ∧
      (written.foldl Tables.insert .empty).ToldByColumns := by
  refine ⟨fun _ _ _ => Row.readColumns?_eq_some_iff, fun _ _ => Row.eq_of_columns, ?_, ?_⟩
  · intro grant
    exact ⟨grant.permission.toInt32, rfl, toNat_eq_toInt_emod grant.permission⟩
  · refine Tables.toldByColumns_of_nodup _ ?_
    rw [Tables.all_foldl_insert]
    exact nodup_grow List.nodup_nil written

end InstallMarkup
