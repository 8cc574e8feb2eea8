import InstallMarkup.Row.Columns

/-!
# The row store

All rows written in one run, in the order of their first writing. A row that is there already is not
written again; a different row that reuses an identifier is kept, and the linker reports it. What a
single table holds is a view of the store: the rows of that table, in order.
-/

namespace InstallMarkup

/-- The rows of all tables, in the order of writing. -/
structure Tables where
  all : List Row := []
  deriving DecidableEq, Repr, Inhabited

namespace Tables

def empty : Tables := {}

/-- Writes a row, unless the same row is there already. -/
def insert (t : Tables) (row : Row) : Tables :=
  if row ∈ t.all then t else ⟨t.all ++ [row]⟩

/-- The rows of one table. -/
def rows (t : Tables) (table : Table) : List Row :=
  t.all.filter (·.table == table)

/-- Whether some row of the table is named by the identifier. -/
def hasKey (t : Tables) (table : Table) (key : Identifier) : Bool :=
  t.all.any fun row => row.table == table && row.key? == some key

/-- The number of rows. -/
def size (t : Tables) : Nat := t.all.length

def isEmpty (t : Tables) : Bool := t.all.isEmpty

/-- The tables that have rows, ordered by name, each with its rows. -/
def byTable (t : Tables) : List (Table × List Row) :=
  (Table.byName.map fun table => (table, t.rows table)).filter (!·.2.isEmpty)

/-- The tables that have rows, ordered by name, each with the columns of its rows. -/
def columns (t : Tables) : List (Table × List (List Column)) :=
  t.byTable.map fun (table, rows) => (table, rows.map Row.columns)

/-! ## Lemmas -/

@[simp] theorem mem_insert {t : Tables} {row r : Row} :
    r ∈ (t.insert row).all ↔ r ∈ t.all ∨ r = row := by
  unfold insert
  split <;> grind

@[simp] theorem mem_rows {t : Tables} {table : Table} {r : Row} :
    r ∈ t.rows table ↔ r ∈ t.all ∧ r.table = table := by
  simp [rows]

/-- A row is never there twice. -/
theorem nodup_insert {t : Tables} (h : t.all.Nodup) (row : Row) : (t.insert row).all.Nodup := by
  unfold insert
  split
  · exact h
  · rename_i hrow
    simp only [List.nodup_append, h, List.nodup_cons, List.not_mem_nil, not_false_eq_true,
      List.nodup_nil, List.mem_singleton, forall_eq, and_self, true_and]
    intro a ha heq
    exact hrow (heq ▸ ha)

end Tables

end InstallMarkup
