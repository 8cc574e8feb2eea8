/-!
# JSON values

The values of JSON. Numbers are told apart by how they are written: an integer numeral is kept as a
number, and a numeral with a fraction or an exponent, or a negative zero, is only known to be no
integer. Members of an object keep their order and may repeat a name.

Not everything that the grammar allows has a value. What has none is illegible: it may stand where
nobody looks at it, but it can be taken for nothing.
-/

namespace InstallMarkup

inductive Json where
  | null
  | bool (value : Bool)
  | integer (value : Int)
  /-- A numeral that does not write an integer. -/
  | fraction (numeral : String)
  | string (text : String)
  | array (items : List Json)
  | object (members : List (String × Json))
  /-- What has no value: a text with half of a surrogate pair, an object with such a name, or an
  array or object that is nested too deep. -/
  | illegible
  deriving Repr, Inhabited

namespace Json

/-- A text or null. -/
def optional : Option String → Json
  | some text => string text
  | none => null

/-- A natural number. -/
def natural (n : Nat) : Json := integer n

/-- The value of the last member of a name, which is the one that counts. -/
def member? (name : String) : Json → Option Json
  | object members => members.reverse.lookup name
  | _ => none

end Json

end InstallMarkup
