/-!
# Source locations

Where an element or an attribute stands in the document it was read from.
-/

namespace InstallMarkup

/-- A position in a markup document: line and column, and the name of the source when it is known.
Markup that was built in memory has the location `0:0`. -/
structure SourceLocation where
  line : UInt64 := 0
  column : UInt64 := 0
  source : Option String := none
  deriving DecidableEq, Repr, Inhabited

namespace SourceLocation

/-- The location as it opens a message: `source:line:column`, or `line:column` without a source. -/
def text (l : SourceLocation) : String :=
  let place := toString l.line.toNat ++ ":" ++ toString l.column.toNat
  match l.source with
  | some name => name ++ ":" ++ place
  | none => place

end SourceLocation

end InstallMarkup
