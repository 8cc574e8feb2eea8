import InstallMarkup.Platform

/-!
# Configuration

The settings of a run. Each has a default, so that a configuration only needs to name what it
changes.
-/

namespace InstallMarkup

/-- The settings of a run. -/
structure Config where
  /-- The platform that the package targets. -/
  platform : Platform := .x86
  /-- What the names of native actions begin with. -/
  actionPrefix : String := "Wix4"
  /-- Whether a search may store its result in a variable that the engine sets itself. -/
  allowBuiltinVariables : Bool := false
  /-- Whether warnings count as errors. -/
  warningsAsErrors : Bool := false
  deriving DecidableEq, Repr, Inhabited

namespace Config

/-- The defaults for a platform. -/
def forPlatform (platform : Platform) : Config := { platform }

/-- The defaults with warnings counting as errors. -/
def strict : Config := { warningsAsErrors := true }

/-- Whether the action prefix consists of ASCII letters, digits and underscores. -/
def hasLegalPrefix (c : Config) : Bool :=
  c.actionPrefix.toList.all fun ch => ch.isAlphanum || ch == '_'

/-- The name of a native action in this configuration, if it is built for the platform. -/
def actionName? (c : Config) (action : NativeAction) : Option String :=
  if action.platforms.supports c.platform then
    some (action.qualifiedName c.actionPrefix c.platform)
  else none

end Config

end InstallMarkup
