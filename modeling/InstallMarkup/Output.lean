import InstallMarkup.OrderGraph
import InstallMarkup.Tables

/-!
# Output

What a run has written so far: rows, references, the ordering graph, and the list of collisions. A
collision is the writing of a new row under an identifier that another row of its table has already.
It is not an error here; the linker reports it.
-/

namespace InstallMarkup

/-- A search that is ready to be written: its common row, the row of its kind, and the search that
it runs after. -/
structure ValidatedSearch where
  search : SearchRow
  detail : Row
  after : Option Identifier := none
  deriving DecidableEq, Repr

/-- Rows, references, ordering and collisions of one run. -/
structure Output where
  tables : Tables := {}
  references : References := {}
  graph : OrderGraph := {}
  collisions : List (Table × Identifier) := []
  deriving DecidableEq, Repr, Inhabited

namespace Output

def empty : Output := {}

/-- The identifier that the row reuses, if the row is new and another row of its table has it. -/
def collision? (o : Output) (row : Row) : Option Identifier :=
  match row.key? with
  | some key =>
    if o.tables.hasKey row.table key && !o.tables.all.contains row then some key else none
  | none => none

/-- Writes a row. -/
def write (o : Output) (row : Row) : Output :=
  { o with
    tables := o.tables.insert row
    collisions := o.collisions ++ ((o.collision? row).map (row.table, ·)).toList }

/-- Writes rows in order. -/
def writeAll (o : Output) (rows : List Row) : Output :=
  rows.foldl write o

/-- Records a soft reference. -/
def addSoft (o : Output) (reference : SoftReference) : Output :=
  { o with references := o.references.addSoft reference }

/-- Records a hard reference. -/
def addHard (o : Output) (symbol : Symbol) : Output :=
  { o with references := o.references.addHard symbol }

/-- Records a native action. -/
def addAction (o : Output) (name : String) : Output :=
  { o with references := o.references.addAction name }

/-- Writes a search: its node, its two rows and, when it runs after another search, the edge and the
relation row. -/
def writeSearch (o : Output) (s : ValidatedSearch) : Except CompileFault Output :=
  let o := { o with graph := o.graph.register s.search.id }
  let o := (o.write (.search s.search)).write s.detail
  match s.after with
  | none => .ok o
  | some parent =>
    match o.graph.link o.references s.search.id parent with
    | .ok (edge, graph, references) =>
      .ok ({ o with graph, references }.write (.searchRelation edge))
    | .error fault => .error fault

end Output

end InstallMarkup
