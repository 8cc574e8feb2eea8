import InstallMarkup.Markup.Location

/-!
# Diagnostics

What an author got wrong, as one value per mistake: how serious it is, a code, the message and the
place. Diagnostics never stop a run; what does is a `CompileFault`.
-/

namespace InstallMarkup

inductive Severity where
  | error
  | warning
  deriving DecidableEq, Repr, Inhabited

namespace Severity

def all : List Severity := [error, warning]

/-- The severity as a value of a document. -/
def name : Severity → String
  | error => "Error"
  | warning => "Warning"

/-- The severity as a word of a message. -/
def word : Severity → String
  | error => "error"
  | warning => "warning"

end Severity

/-- Broad grouping of the diagnostic codes. -/
inductive DiagnosticCategory where
  | missingRequired
  | illegalValue
  | mutuallyExclusive
  | illegalCombination
  | unsupportedPlatform
  | markupStructure
  | reference
  | deprecation
  deriving DecidableEq, Repr, Inhabited

namespace DiagnosticCategory

def name : DiagnosticCategory → String
  | missingRequired => "MissingRequired"
  | illegalValue => "IllegalValue"
  | mutuallyExclusive => "MutuallyExclusive"
  | illegalCombination => "IllegalCombination"
  | unsupportedPlatform => "UnsupportedPlatform"
  | markupStructure => "Structure"
  | reference => "Reference"
  | deprecation => "Deprecation"

end DiagnosticCategory

/-- What kind of mistake a diagnostic reports. -/
inductive DiagnosticCode where
  | missingRequiredAttribute
  | illegalAttributeValue
  | mutuallyExclusiveAttributes
  | illegalAttributeCombination
  | genericReadNotAllowed
  | unexpectedAttribute
  | unexpectedElement
  | unsupportedPlatform
  | undefinedSymbol
  | deprecatedAttribute
  deriving DecidableEq, Repr, Inhabited

namespace DiagnosticCode

def all : List DiagnosticCode :=
  [missingRequiredAttribute, illegalAttributeValue, mutuallyExclusiveAttributes,
    illegalAttributeCombination, genericReadNotAllowed, unexpectedAttribute, unexpectedElement,
    unsupportedPlatform, undefinedSymbol, deprecatedAttribute]

def name : DiagnosticCode → String
  | missingRequiredAttribute => "MissingRequiredAttribute"
  | illegalAttributeValue => "IllegalAttributeValue"
  | mutuallyExclusiveAttributes => "MutuallyExclusiveAttributes"
  | illegalAttributeCombination => "IllegalAttributeCombination"
  | genericReadNotAllowed => "GenericReadNotAllowed"
  | unexpectedAttribute => "UnexpectedAttribute"
  | unexpectedElement => "UnexpectedElement"
  | unsupportedPlatform => "UnsupportedPlatform"
  | undefinedSymbol => "UndefinedSymbol"
  | deprecatedAttribute => "DeprecatedAttribute"

def category : DiagnosticCode → DiagnosticCategory
  | missingRequiredAttribute => .missingRequired
  | illegalAttributeValue => .illegalValue
  | mutuallyExclusiveAttributes => .mutuallyExclusive
  | illegalAttributeCombination => .illegalCombination
  | genericReadNotAllowed => .illegalCombination
  | unexpectedAttribute => .markupStructure
  | unexpectedElement => .markupStructure
  | unsupportedPlatform => .unsupportedPlatform
  | undefinedSymbol => .reference
  | deprecatedAttribute => .deprecation

end DiagnosticCode

/-- One mistake in a unit. -/
structure Diagnostic where
  severity : Severity
  code : DiagnosticCode
  message : String
  location : Option SourceLocation := none
  deriving DecidableEq, Repr, Inhabited

namespace Diagnostic

/-- An error at a known place. -/
def errorAt (code : DiagnosticCode) (message : String) (location : SourceLocation) : Diagnostic :=
  ⟨.error, code, message, some location⟩

/-- A warning at a known place. -/
def warningAt (code : DiagnosticCode) (message : String) (location : SourceLocation) : Diagnostic :=
  ⟨.warning, code, message, some location⟩

def isError (d : Diagnostic) : Bool :=
  d.severity == .error

def isWarning (d : Diagnostic) : Bool :=
  d.severity == .warning

/-- The diagnostic as it counts when warnings are treated as errors (`strict`): severity `error`,
all else as it was. -/
def graded (strict : Bool) (d : Diagnostic) : Diagnostic :=
  if strict then { d with severity := .error } else d

/-- One line for the author: `location: severity code: message`, the location only when known. -/
def display (d : Diagnostic) : String :=
  let report := d.severity.word ++ " " ++ d.code.name ++ ": " ++ d.message
  match d.location with
  | some l => l.text ++ ": " ++ report
  | none => report

end Diagnostic

end InstallMarkup
