import InstallMarkup.Diagnostic.Basic

/-!
# The wording of diagnostics

One function per kind of mistake that several elements share. Each takes the names and values that
its sentence quotes (`name` is the attribute), and the place to report.
-/

namespace InstallMarkup.Diagnostic

/-- A required attribute is absent. -/
def missingAttribute (element name : String) (location : SourceLocation) : Diagnostic :=
  errorAt .missingRequiredAttribute
    s!"The {element} element's {name} attribute was not found; it is required." location

/-- None of several attributes is there, and one of them is required. -/
def missingOneOf (element : String) (attributes : List String) (location : SourceLocation) :
    Diagnostic :=
  let listed := ", ".intercalate attributes
  errorAt .missingRequiredAttribute
    s!"The {element} element requires one of the attributes: {listed}." location

/-- An attribute has no text. -/
def emptyValue (element name : String) (location : SourceLocation) : Diagnostic :=
  errorAt .illegalAttributeValue
    s!"The {element} element's {name} attribute cannot be empty." location

/-- A value is none of the listed ones. -/
def illegalValue (element name value : String) (legal : List String)
    (location : SourceLocation) : Diagnostic :=
  let listed := ", ".intercalate (legal.map fun v => s!"'{v}'")
  errorAt .illegalAttributeValue
    (s!"The {element} element's {name} attribute contains an illegal value '{value}'. " ++
      s!"Legal values are: {listed}.") location

/-- A value does not have the form that `expected` names. -/
def malformedValue (element name value expected : String) (location : SourceLocation) :
    Diagnostic :=
  errorAt .illegalAttributeValue
    s!"The {element} element's {name} attribute value '{value}' is not {expected}." location

/-- Two attributes that cannot stand together. -/
def mutuallyExclusive (element name other : String) (location : SourceLocation) :
    Diagnostic :=
  errorAt .mutuallyExclusiveAttributes
    (s!"The {element} element cannot specify the {name} attribute together with " ++
      s!"the {other} attribute.") location

/-- Two values, each legal, that contradict each other. -/
def illegalCombination (element name other otherValue : String) (location : SourceLocation) :
    Diagnostic :=
  errorAt .illegalAttributeCombination
    (s!"The {element} element's {name} attribute cannot be specified when " ++
      s!"the {other} attribute has the value '{otherValue}'.") location

/-- An attribute that the element does not know. -/
def unexpectedAttribute (element name : String) (location : SourceLocation) : Diagnostic :=
  errorAt .unexpectedAttribute
    s!"The {element} element contains an unexpected attribute '{name}'." location

/-- An element that may not stand where it does. -/
def unexpectedElement (parent element : String) (location : SourceLocation) : Diagnostic :=
  errorAt .unexpectedElement
    s!"The {parent} element contains an unexpected child element '{element}'." location

/-- A hard reference to something that the unit does not declare. -/
def undefinedSymbol (kind id : String) (location : SourceLocation) : Diagnostic :=
  errorAt .undefinedSymbol s!"Unresolved reference to symbol '{kind}:{id}'." location

/-- An action that is not built for the target platform. -/
def unsupportedPlatform (element platform : String) (location : SourceLocation) : Diagnostic :=
  errorAt .unsupportedPlatform
    s!"The {element} element is not supported when building for the {platform} platform." location

end InstallMarkup.Diagnostic
