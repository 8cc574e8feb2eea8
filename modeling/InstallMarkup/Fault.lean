import InstallMarkup.Identifier.Basic
import InstallMarkup.Identifier.Family
import InstallMarkup.Markup.Location

/-!
# Faults

A fault ends the run of a unit. Mistakes of an author are diagnostics; a fault means that the host
handed over a malformed tree, or that a rule of this library itself was broken.
-/

namespace InstallMarkup

/-- What ends a run. -/
inductive CompileFault where
  /-- An element without a name. -/
  | unnamedElement (location : SourceLocation)
  /-- An attribute that stands twice on one element; the place is that of the second. -/
  | duplicateAttribute (element name : String) (location : SourceLocation)
  /-- A value of the enclosing host element that the element depends on is not there. -/
  | missingParentValue (element parent key : String) (location : SourceLocation)
  /-- An identifier was asked for with the wrong number of fields. -/
  | identifierFieldCount (family : IdentifierFamily) (actual : Nat)
  /-- An ordering edge leaves a search that was not written in this run. -/
  | unknownEdgeChild (child parent : Identifier)
  deriving DecidableEq, Repr

namespace CompileFault

/-- The name of the cause. -/
def name : CompileFault → String
  | unnamedElement _ => "UnnamedElement"
  | duplicateAttribute .. => "DuplicateAttribute"
  | missingParentValue .. => "MissingParentValue"
  | identifierFieldCount .. => "IdentifierFieldCount"
  | unknownEdgeChild .. => "UnknownEdgeChild"

/-- The sentence that reports the fault. -/
def message : CompileFault → String
  | unnamedElement location =>
    "malformed tree at " ++ location.text ++ ": element has no name"
  | duplicateAttribute element name location =>
    "malformed tree at " ++ location.text ++ s!": attribute '{name}' repeated on '{element}'"
  | missingParentValue element parent key location =>
    "malformed tree at " ++ location.text ++
      s!": '{element}' under '{parent}' is missing parent value '{key}'"
  | identifierFieldCount family actual =>
    "identifier prefix '" ++ family.tag ++ "' expects " ++ toString family.fieldCount ++
      " fields, got " ++ toString actual
  | unknownEdgeChild child parent =>
    "search edge from unknown child '" ++ child.text ++ "' to '" ++ parent.text ++ "'"

/-- Whether the cause is the tree that was handed over, and not this library. -/
def isMalformedInput : CompileFault → Bool
  | unnamedElement _ => true
  | duplicateAttribute .. => true
  | missingParentValue .. => true
  | _ => false

end CompileFault

end InstallMarkup
