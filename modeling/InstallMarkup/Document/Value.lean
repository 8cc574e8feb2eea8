import InstallMarkup.Json.Value

/-!
# Document values

Units and configurations are read from JSON and from YAML. The formats differ in what a value may be
taken for: in JSON a text is no number, and in YAML a plain scalar may be a text, a truth value and
a number at once. What reading needs is therefore not the value itself but what it can be taken for,
and that is what the class `DocumentValue` asks. Everything that is read from a document is read
through it.
-/

namespace InstallMarkup

/-- The fields of a value that is taken for a structure. -/
structure Record (ν : Type) where
  fields : List (String × ν)
  /-- Whether the fields were given by their places and not by their names. -/
  positional : Bool := false

/-- What a value of a document can be taken for. -/
class DocumentValue (ν : Type) where
  text? : ν → Option String
  flag? : ν → Option Bool
  integer? : ν → Option Int
  /-- Whether the value stands for an absent one; fails if it is said to and cannot. -/
  isAbsent? : ν → Option Bool
  items? : ν → Option (List ν)
  mapping? : ν → Option (List (String × ν))
  /-- The fields of a structure with the given field names; fails if one of them is there twice. -/
  record? : List String → ν → Option (Record ν)
  /-- The name of an alternative, with what belongs to it if anything is given. -/
  variant? : ν → Option (String × Option ν)

export DocumentValue (text? flag? integer? isAbsent? items? mapping? record? variant?)

namespace Record

variable {ν α : Type} [DocumentValue ν]

/-- The value of a field. -/
def get? (r : Record ν) (name : String) : Option ν := r.fields.lookup name

/-- A field that must be there. -/
def required (r : Record ν) (name : String) (read : ν → Option α) : Option α :=
  (r.get? name).bind read

/-- A field that takes a default when it is not there. -/
def defaulted (r : Record ν) (name : String) (read : ν → Option α) (default : α) : Option α :=
  match r.get? name with
  | some v => read v
  | none => some default

/-- What a field that is there gives: nothing if it stands for an absent value. -/
def present (read : ν → Option α) (v : ν) : Option (Option α) :=
  match isAbsent? v with
  | some true => some none
  | some false => (read v).map some
  | none => none

/-- A field that need not be there. In a structure given by places only a field at its place counts
as there, absent or not. -/
def optional (r : Record ν) (name : String) (read : ν → Option α) : Option (Option α) :=
  match r.get? name with
  | some v => present read v
  | none => if r.positional then none else some none

end Record

/-- The value of an alternative without contents, by its name. -/
def unitVariant? {ν α : Type} [DocumentValue ν] (options : List α) (name : α → String) (v : ν) :
    Option α :=
  match variant? v with
  | some (word, contents) =>
    if contents.all (isAbsent? · == some true) then options.find? (name · == word) else none
  | none => none

/-- Whether no name stands twice in a list. -/
def distinctNames : List String → Bool
  | [] => true
  | name :: rest => !rest.contains name && distinctNames rest

/-- The fields of a structure out of named values: those that the structure knows, each once. -/
def Record.ofNamed? {ν : Type} (names : List String) (members : List (String × ν)) :
    Option (Record ν) :=
  let known := members.filter fun member => names.contains member.1
  if distinctNames (known.map (·.1)) then some { fields := known } else none

/-! ## JSON -/

namespace Json

/-- JSON values are what they are written as; a structure may also be an array of its fields. An
alternative without contents is a text, or an object with one member whose value is null. -/
instance : DocumentValue Json where
  text?
    | string s => some s
    | _ => none
  flag?
    | bool b => some b
    | _ => none
  integer?
    | integer n => some n
    | _ => none
  isAbsent?
    | null => some true
    | _ => some false
  items?
    | array items => some items
    | _ => none
  mapping?
    | object members => some members
    | _ => none
  record? names
    | object members => Record.ofNamed? names members
    | array items =>
      if items.length ≤ names.length then some { fields := names.zip items, positional := true }
      else none
    | _ => none
  variant?
    | string name => some (name, none)
    | object [(name, contents)] => some (name, some contents)
    | _ => none

end Json

end InstallMarkup
