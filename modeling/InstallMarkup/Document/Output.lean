import InstallMarkup.Compile
import InstallMarkup.Document.Diagnostic
import InstallMarkup.Document.Row

/-!
# Compiled units as documents

A compiled unit is written in two forms. The linking engine reads the *wire* form, in which a row is
the list of its columns. The full form has the columns by name, and the ordering edges.
-/

namespace InstallMarkup

namespace Tables

/-- The tables that have rows, each row as the list of its columns. -/
def wire (t : Tables) : Json :=
  .object (t.columns.map fun (table, rows) =>
    (table.name, .array (rows.map fun columns => .array (columns.map Column.toJson))))

/-- The tables that have rows, each row with its columns by name. -/
def toJson (t : Tables) : Json :=
  .object [("tables", .object (t.byTable.map fun (table, rows) =>
    (table.name, .array (rows.map Row.toJson))))]

end Tables

namespace References

def toJson (r : References) : Json :=
  .object [
    ("soft", .array (r.soft.map fun s =>
      .object [("table", s.table.toJson), ("id", s.id.toJson)])),
    ("hard", .array (r.hard.map Symbol.toJson)),
    ("actions", .array (r.actions.map Json.string))]

end References

namespace CompiledUnit

/-- What the linking engine reads. -/
def wire (u : CompiledUnit) : Json :=
  .object [("name", .string u.name), ("tables", u.tables.wire),
    ("references", u.references.toJson),
    ("diagnostics", .array (u.diagnostics.map Diagnostic.toJson))]

/-- Everything but the collisions. -/
def toJson (u : CompiledUnit) : Json :=
  .object [("name", .string u.name), ("tables", u.tables.toJson),
    ("references", u.references.toJson), ("edges", .array (u.edges.map SearchEdge.toJson)),
    ("diagnostics", .array (u.diagnostics.map Diagnostic.toJson))]

end CompiledUnit

end InstallMarkup
