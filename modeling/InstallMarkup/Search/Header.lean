import InstallMarkup.Config
import InstallMarkup.Identifier.Synthesis
import InstallMarkup.Output
import InstallMarkup.Reading.Assessment
import InstallMarkup.Reading.Rule
import InstallMarkup.Search.Builtin

/-!
# Search headers

The part that all searches have in common: an identifier, the variable that takes the result, a
condition, and the search to run after. The attributes of an element give its settings; checked
against the place of the element they become its header. A search that is nested in another runs
after that one and may not name another predecessor itself.
-/

namespace InstallMarkup

/-! ## Settings -/

/-- Reads the name of the variable that takes the result. -/
def readVariable (config : Config) (element : String) (a : Attribute) : Except Diagnostic String :=
  match a.identifier element with
  | .error d => .error d
  | .ok ⟨name⟩ =>
    if !config.allowBuiltinVariables && isBuiltinVariable name then
      .error (.errorAt .illegalAttributeValue
        (s!"The {element} element's Variable attribute '{name}' names a built-in variable; " ++
          "choose another name.") a.location)
    else .ok name

/-- What the common attributes of a search set. -/
structure SearchSettings where
  id : Option Identifier
  variableName : Option String
  condition : Option String
  after : Option Identifier
  /-- Where the predecessor is named, legally or not. -/
  afterLocation : Option SourceLocation
  deriving Repr, DecidableEq

namespace SearchSettings

/-- The rules of the common attributes. -/
def rules (config : Config) (element : String) : List AttributeRule := [
  .ofReading "Id" (·.identifier element),
  .ofReading "Variable" (readVariable config element),
  .ofReading "Condition" (·.text element),
  .ofReading "After" (·.identifier element)]

/-- The settings of a list of attributes. -/
def ofAttributes (config : Config) (element : String) (attributes : List Attribute) :
    SearchSettings where
  id := setting? attributes "Id" (·.identifier element)
  variableName := setting? attributes "Variable" (readVariable config element)
  condition := setting? attributes "Condition" (·.text element)
  after := setting? attributes "After" (·.identifier element)
  afterLocation := setting? attributes "After" (fun a => .ok a.location)

end SearchSettings

/-! ## Headers -/

/-- Where a search stands. -/
inductive Placement where
  /-- Directly in a host element. -/
  | topLevel
  /-- In another search, which has an identifier if it was written. -/
  | nested (parent : Option Identifier)
  deriving DecidableEq, Repr

/-- The common part of a search, checked. -/
structure SearchHeader where
  id : Option Identifier := none
  variableName : String
  condition : Option String := none
  /-- The search to run after, named by the author or enclosing this one. -/
  after : Option Identifier := none
  deriving DecidableEq, Repr

/-- The diagnostic about a predecessor named in a nested search. -/
def nestedAfter (element : String) (location : SourceLocation) : Diagnostic :=
  .errorAt .mutuallyExclusiveAttributes
    (s!"The {element} element cannot specify the After attribute when nested in another search; " ++
      "it already runs after its parent.") location

namespace SearchSettings

/-- The predecessor: the enclosing search of a nested one, the named one otherwise. -/
def predecessor (s : SearchSettings) : Placement → Option Identifier
  | .nested parent => parent
  | .topLevel => s.after

/-- What the place of the element has against the settings. -/
def placementFaults (s : SearchSettings) (element : String) : Placement → List Diagnostic
  | .nested _ => s.afterLocation.toList.map (nestedAfter element)
  | .topLevel => []

/-- The header that the settings of element `e` make at its place. -/
def header (s : SearchSettings) (e : Element) (placement : Placement) :
    Assessment SearchHeader where
  raised := s.placementFaults e.name placement ++ missingAttributes ["Variable"] e.name e
  value := s.variableName.map fun variableName =>
    { id := s.id, variableName, condition := s.condition, after := s.predecessor placement }

end SearchSettings

namespace SearchHeader

/-- The fields that every search hashes. -/
def hashFields (h : SearchHeader) : List (Option String) :=
  [some h.variableName, h.condition, h.after.map (·.text)]

/-- The author's identifier, or the one computed from the common fields followed by `fields`. -/
def identify (h : SearchHeader) (family : IdentifierFamily) (fields : List (Option String)) :
    Except CompileFault Identifier :=
  match h.id with
  | some id => .ok id
  | none => Identifier.synthesize family (h.hashFields ++ fields)

/-- The search with this header, under an identifier, with the row of its kind. -/
def complete (h : SearchHeader) (id : Identifier) (detail : Row) : ValidatedSearch where
  search := { id, variableName := h.variableName, condition := h.condition }
  detail := detail
  after := h.after

end SearchHeader

end InstallMarkup
