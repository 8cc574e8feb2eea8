/-!
# Row identifiers

An identifier is a text that names a row. The ones that authors write are checked with
`Identifier.isLegal` when they are read; the type itself holds any text, because a document may
carry rows that were written elsewhere.
-/

namespace InstallMarkup

/-- The name of a row, given by the author or computed from the row's content. -/
structure Identifier where
  text : String
  deriving DecidableEq, Repr, Inhabited

namespace Identifier

/-- The longest identifier that the linking engine accepts, in bytes. -/
def maxLength : Nat := 72

/-- An identifier opens with an ASCII letter or an underscore. -/
def isHead (c : Char) : Bool :=
  c.isAlpha || c == '_'

/-- An identifier goes on with ASCII letters, digits, underscores and periods. -/
def isTail (c : Char) : Bool :=
  c.isAlphanum || c == '_' || c == '.'

/-- Whether a text can name a row. -/
def isLegal (s : String) : Bool :=
  match s.toList with
  | [] => false
  | c :: cs => isHead c && decide (s.utf8ByteSize ≤ maxLength) && cs.all isTail

end Identifier

end InstallMarkup
