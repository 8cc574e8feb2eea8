import InstallMarkup.Reading.Attribute

/-!
# Attribute rules

Which attributes an element knows, and what each of them may raise. The rules of an element are a
list; an attribute is checked by the rule of its name, and one without a rule is unexpected. What an
attribute raises does not depend on the attributes around it, so the order of attributes only orders
the diagnostics.
-/

namespace InstallMarkup

/-- An attribute that an element knows, and the diagnostics that its value raises. -/
structure AttributeRule where
  name : String
  check : Attribute → List Diagnostic

namespace AttributeRule

/-- The rule that raises what reading the value raises. -/
def ofReading {α : Type} (name : String) (read : Attribute → Except Diagnostic α) : AttributeRule :=
  ⟨name, fun a => Reading.faults (read a)⟩

/-- What the attribute raises under the rule of its name; `none` without such a rule. -/
def check? (rules : List AttributeRule) (a : Attribute) : Option (List Diagnostic) :=
  (rules.find? (·.name == a.name)).map (·.check a)

/-- What the attribute raises when those without a rule are unexpected in `element`. -/
def checkStrictly (rules : List AttributeRule) (element : String) (a : Attribute) :
    List Diagnostic :=
  (check? rules a).getD [.unexpectedAttribute element a.name a.location]

/-- What the attributes of an element raise, in their order. -/
def checkAll (rules : List AttributeRule) (element : String) (attributes : List Attribute) :
    List Diagnostic :=
  attributes.flatMap (checkStrictly rules element)

end AttributeRule

/-- The diagnostics about required attributes that an element does not have. Only absence counts; an
attribute with an illegal value has raised its own diagnostic. -/
def missingAttributes (required : List String) (name : String) (e : Element) : List Diagnostic :=
  (required.filter fun wanted => !e.has wanted).map fun wanted =>
    .missingAttribute name wanted e.location

/-- The diagnostics about the children of an element that may not have any. -/
def unexpectedChildren (name : String) (e : Element) : List Diagnostic :=
  e.children.map fun child => .unexpectedElement name child.name child.location

end InstallMarkup
