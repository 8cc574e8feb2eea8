import InstallMarkup.Markup.Unit
import InstallMarkup.Row.Table
import InstallMarkup.Identifier.Basic
import InstallMarkup.SortedList

/-!
# References

What a unit needs from elsewhere. A *soft* reference names a row that may lie in another unit and is
looked for at link time. A *hard* reference names a symbol that the host must have declared in this
unit. An *action* is a native routine that carries rows out at installation.
-/

namespace InstallMarkup

/-- A row that is looked for at link time. -/
structure SoftReference where
  table : Table
  id : Identifier
  deriving DecidableEq, Repr

/-- The order of soft references: by table, then by the text of the identifier. -/
def SoftReference.before (r s : SoftReference) : Bool :=
  r.table.rank < s.table.rank || (r.table == s.table && r.id.text < s.id.text)

/-- The order of symbols: by kind, then by id. -/
def Symbol.before (r s : Symbol) : Bool :=
  r.kind.rank < s.kind.rank || (r.kind == s.kind && r.id < s.id)

/-- The references of one run, each kind sorted and without repeats. -/
structure References where
  soft : List SoftReference := []
  hard : List Symbol := []
  actions : List String := []
  deriving DecidableEq, Repr, Inhabited

namespace References

def empty : References := {}

def addSoft (r : References) (reference : SoftReference) : References :=
  { r with soft := SortedList.insert SoftReference.before reference r.soft }

def addHard (r : References) (symbol : Symbol) : References :=
  { r with hard := SortedList.insert Symbol.before symbol r.hard }

def addAction (r : References) (name : String) : References :=
  { r with actions := SortedList.insert (fun a b => a < b) name r.actions }

/-- Whether the row is recorded as a soft reference. -/
def hasSoft (r : References) (table : Table) (id : Identifier) : Bool :=
  r.soft.contains ⟨table, id⟩

def isEmpty (r : References) : Bool :=
  r.soft.isEmpty && r.hard.isEmpty && r.actions.isEmpty

end References

end InstallMarkup
