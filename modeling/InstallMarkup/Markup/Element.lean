import InstallMarkup.Markup.Location

/-!
# Markup elements

An element has a name, a list of attributes, nested elements and a location. Attribute names are
meant to be distinct, and the compiler refuses an element that repeats one, but the type admits
repeats: the value of an attribute is read from the last one of that name, and presence is decided
by the first. On an element without repeats the two are the same attribute.
-/

namespace InstallMarkup

/-- One `name="value"` pair of an element. -/
structure Attribute where
  name : String
  value : String
  location : SourceLocation := {}
  deriving DecidableEq, Repr, Inhabited

/-- A markup element with its attributes and nested elements. The name carries no namespace. -/
structure Element where
  name : String
  attributes : List Attribute := []
  children : List Element := []
  location : SourceLocation := {}
  deriving Repr, Inhabited

namespace Element

/-! ## Building elements -/

/-- Moves the element; attributes added from now on stand at the new location. -/
def located (e : Element) (location : SourceLocation) : Element :=
  { e with location }

/-- Adds an attribute, at the location of the element. -/
def withAttribute (e : Element) (name value : String) : Element :=
  { e with attributes := e.attributes ++ [⟨name, value, e.location⟩] }

/-- Adds a nested element. -/
def withChild (e : Element) (child : Element) : Element :=
  { e with children := e.children ++ [child] }

/-! ## Attributes by name -/

/-- The first attribute called `name`. -/
def attribute? (e : Element) (name : String) : Option Attribute :=
  e.attributes.find? (·.name == name)

/-- Whether the element has an attribute called `name`, whatever its value. -/
def has (e : Element) (name : String) : Bool :=
  (e.attribute? name).isSome

end Element

end InstallMarkup
