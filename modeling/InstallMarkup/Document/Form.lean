/-!
# Forms of documents

The structures that the documents of units and configurations are made of, and what each of their
fields holds. A document may have fields that no form names. Nobody looks at what these hold.
-/

namespace InstallMarkup

inductive Form where
  | config
  | unit
  | item
  | host
  | element
  | elementAttribute
  | location
  | symbol
  deriving DecidableEq, Repr

/-- What a field holds. -/
inductive Part where
  /-- A text, a truth value, a number or the name of an alternative. -/
  | scalar
  /-- Texts by name. -/
  | texts
  /-- A structure. -/
  | one (form : Form)
  /-- A list of structures. -/
  | many (form : Form)
  deriving DecidableEq, Repr

namespace Form

/-- The fields of a structure in their order. -/
def fields : Form → List (String × Part)
  | config => [("platform", .scalar), ("action_prefix", .scalar),
      ("allow_builtin_variables", .scalar), ("warnings_as_errors", .scalar)]
  | unit => [("name", .scalar), ("items", .many item), ("declared", .many symbol)]
  | item => [("parent", .one host), ("element", .one element)]
  | host => [("kind", .scalar), ("values", .texts)]
  | element => [("name", .scalar), ("attributes", .many elementAttribute),
      ("children", .many element), ("location", .one location)]
  | elementAttribute => [("name", .scalar), ("value", .scalar), ("location", .one location)]
  | location => [("line", .scalar), ("column", .scalar), ("source_name", .scalar)]
  | symbol => [("kind", .scalar), ("id", .scalar)]

/-- The names of the fields. -/
def names (form : Form) : List String := form.fields.map (·.1)

end Form

end InstallMarkup
