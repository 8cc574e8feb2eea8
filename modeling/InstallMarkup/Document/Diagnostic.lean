import InstallMarkup.Diagnostic.Basic
import InstallMarkup.Document.Markup

/-!
# Diagnostics as documents
-/

namespace InstallMarkup.Diagnostic

/-- A diagnostic; a location that is not known is null. -/
def toJson (d : Diagnostic) : Json :=
  .object [("severity", .string d.severity.name), ("code", .string d.code.name),
    ("message", .string d.message),
    ("location", match d.location with
      | some l => l.toJson
      | none => .null)]

def ofDocument? {ν : Type} [DocumentValue ν] (v : ν) : Option Diagnostic := do
  let r ← record? ["severity", "code", "message", "location"] v
  let severity ← r.required "severity" (unitVariant? Severity.all Severity.name)
  let code ← r.required "code" (unitVariant? DiagnosticCode.all DiagnosticCode.name)
  let message ← r.required "message" text?
  let location ← r.optional "location" SourceLocation.ofDocument?
  some { severity, code, message, location }

end InstallMarkup.Diagnostic
