import InstallMarkup.Document.Form
import InstallMarkup.Document.Value
import InstallMarkup.Text.Digits
import InstallMarkup.Yaml.Node

/-!
# YAML documents

A YAML node becomes a value when it is read as a document of a form: its aliases give way to what
they stand for, and the fields that nobody looks at are left out. What is read may nest only so deep
and go through only so many aliases, so that a short text cannot stand for an endless document. What
is not read may be anything.

A plain scalar has no type of its own: where a text is wanted it is a text, whatever it looks like,
and where a truth value or a number is wanted it is read as one. A node that is left out stands for
no items, no entries and no fields.
-/

namespace InstallMarkup.Yaml

/-! ## Values -/

/-- A part of a document as it is read. -/
inductive Value where
  | scalar (tag : Option Tag) (style : ScalarStyle) (text : String)
  | sequence (items : List Value)
  | mapping (entries : List (String × Value))
  deriving Repr, Inhabited

/-- How deep collections may nest in what is read. -/
def maxDepth : Nat := 128

/-- How many aliases may be followed for each mark that a document is written with. -/
def aliasFactor : Nat := 100

/-- A reading that may follow a number of aliases. -/
abbrev AliasReader (α : Type) : Type := StateT Nat Option α

namespace Node

/-- The node that a node stands for, if that is an alias of one of the given nodes. -/
def resolved (anchored : List (Nat × Node)) : Node → AliasReader Node
  | .alias anchor => do
    match (← get), anchored.lookup anchor with
    | left + 1, some node =>
      set left
      return node
    | _, _ => failure
  | node => return node

/-- The value of a scalar. -/
def scalarValue (anchored : List (Nat × Node)) (node : Node) : AliasReader Value := do
  match ← node.resolved anchored with
  | scalar properties style text => return .scalar properties.tag style text
  | _ => failure

/-- The text of a scalar, which any scalar has. -/
def scalarText (anchored : List (Nat × Node)) (node : Node) : AliasReader String := do
  match ← node.resolved anchored with
  | scalar _ _ text => return text
  | _ => failure

/-- The value of a part of a document, in which collections nest at most `depth` deep. -/
def value (anchored : List (Nat × Node)) : Nat → Part → Node → AliasReader Value
  | _, .scalar, node => node.scalarValue anchored
  | depth, part, node => do
    match part, depth, ← node.resolved anchored with
    | _, _, scalar properties .plain "" => return .scalar properties.tag .plain ""
    | .texts, _ + 1, mapping _ entries =>
      return .mapping (← entries.mapM fun (key, node) => do
        return (← key.scalarText anchored, ← node.scalarValue anchored))
    | .one form, depth + 1, mapping _ entries =>
      return .mapping (← entries.filterMapM fun (key, node) => do
        let name ← key.scalarText anchored
        match form.fields.lookup name with
        | some part => return some (name, ← value anchored depth part node)
        | none => return none)
    | .many form, depth + 1, sequence _ items =>
      return .sequence (← items.mapM (value anchored depth (.one form)))
    | _, _, _ => failure

end Node

namespace Value

/-- The value of a document. An alias stands for the last node that begins with its anchor. -/
def ofNode? (form : Form) (node : Node) : Option Value :=
  (node.value node.anchored.reverse maxDepth (.one form)).run' (aliasFactor * node.size)

/-- The value of a text that holds a document of a form. -/
def ofText? (form : Form) (s : String) : Option Value := (Node.ofText? s).bind (ofNode? form)

end Value

/-! ## Scalars -/

/-- The tag of a standard type. -/
def standardTag (name : String) : Tag := .text ("tag:yaml.org,2002:" ++ name)

/-- The word `true` or `false`, in small letters, in capitals or with a capital in front. -/
def flagWord? (s : String) : Option Bool :=
  if ["true", "True", "TRUE"].contains s then some true
  else if ["false", "False", "FALSE"].contains s then some false
  else none

/-- A word that stands for no value. -/
def isNullWord (s : String) : Bool := ["~", "null", "Null", "NULL"].contains s

/-- A natural number: decimal without leading zeros, or hexadecimal, octal or binary after `0x`,
`0o` or `0b`; perhaps with a plus sign in front. -/
def number? (s : String) : Option Nat :=
  let unsigned := match s.toList with
    | '+' :: rest => rest
    | cs => cs
  match unsigned with
  | '0' :: 'x' :: digits => Digits.read? 16 digits
  | '0' :: 'o' :: digits => Digits.read? 8 digits
  | '0' :: 'b' :: digits => Digits.read? 2 digits
  | '0' :: _ :: _ => none
  | digits => Digits.read? 10 digits

namespace Value

/-- The text of a scalar that may have a type other than text: one that is plain, or a literal block
with the tag of the type. -/
def typedText? (type : String) : Value → Option String
  | scalar _ .plain text => some text
  | scalar (some tag) .literal text => if tag == standardTag type then some text else none
  | _ => none

/-- Whether a node was left out, or might have been. -/
def isEmpty : Value → Bool
  | scalar _ .plain "" => true
  | _ => false

/-- Whether a value stands for none: a plain scalar may. One with the tag of no value must be a word
for it, and that is the only tag with which a scalar is one. -/
def isAbsent? : Value → Option Bool
  | scalar none .plain text => some (text.isEmpty || isNullWord text)
  | scalar (some tag) .plain text =>
    if tag == standardTag "null" then (if isNullWord text then some true else none)
    else some false
  | _ => some false

/-- The name that a tag gives to an alternative. -/
def variantName? : Tag → Option String
  | .text "!" => some "!"
  | .text s =>
    match s.toList with
    | '!' :: name => some (String.ofList name)
    | _ => none
  | .illegible => none

/-! ## Documents -/

/-- Structures are mappings; an alternative is a tag with the scalar after it, or else a scalar. -/
instance : DocumentValue Value where
  text?
    | scalar _ _ text => some text
    | _ => none
  flag? value := (value.typedText? "bool").bind flagWord?
  integer? value := ((value.typedText? "int").bind number?).map Int.ofNat
  isAbsent? := isAbsent?
  items?
    | sequence items => some items
    | value => if value.isEmpty then some [] else none
  mapping?
    | mapping entries => some entries
    | value => if value.isEmpty then some [] else none
  record? names
    | mapping entries => Record.ofNamed? names entries
    | value => if value.isEmpty then some { fields := [] } else none
  variant?
    | scalar tag style text =>
      match tag.bind variantName? with
      | some name => some (name, some (scalar none style text))
      | none => some (text, none)
    | _ => none

end Value

end InstallMarkup.Yaml
