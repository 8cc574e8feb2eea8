import InstallMarkup.Config
import InstallMarkup.Document.Form
import InstallMarkup.Document.Value

/-!
# Configurations as documents
-/

namespace InstallMarkup.Config

/-- A configuration, with every setting. -/
def toJson (c : Config) : Json :=
  .object [("platform", .string c.platform.name), ("action_prefix", .string c.actionPrefix),
    ("allow_builtin_variables", .bool c.allowBuiltinVariables),
    ("warnings_as_errors", .bool c.warningsAsErrors)]

/-- A configuration; what a document does not name keeps its default. -/
def ofDocument? {ν : Type} [DocumentValue ν] (v : ν) : Option Config := do
  let base : Config := {}
  let r ← record? Form.config.names v
  let platform ← r.defaulted "platform" (unitVariant? Platform.all Platform.name) base.platform
  let actionPrefix ← r.defaulted "action_prefix" text? base.actionPrefix
  let allowBuiltinVariables ←
    r.defaulted "allow_builtin_variables" flag? base.allowBuiltinVariables
  let warningsAsErrors ← r.defaulted "warnings_as_errors" flag? base.warningsAsErrors
  some { platform, actionPrefix, allowBuiltinVariables, warningsAsErrors }

end InstallMarkup.Config
