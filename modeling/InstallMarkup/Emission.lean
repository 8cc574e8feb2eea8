import InstallMarkup.Config
import InstallMarkup.Diagnostic.Wording
import InstallMarkup.Markup.Enclosure
import InstallMarkup.Output

/-!
# Emissions

What an element adds to the output when nothing is wrong with it. An emission is decided before
anything is written, so an element either adds all of it or nothing. References are checked while
the element is, and recorded only with its rows.
-/

namespace InstallMarkup

/-- What one element adds to the output. -/
inductive Emission where
  /-- A search with its rows, its node and its ordering. -/
  | search (search : ValidatedSearch)
  /-- A reference to a search that is stated elsewhere. -/
  | searchReference (id : Identifier)
  /-- A permission grant, the symbols that it depends on, and the action that applies it. -/
  | grant (row : PermissionGrantRow) (object component : Symbol) (action : String)
  /-- The registry values of an event source, and its component. -/
  | eventSource (rows : List RegistryRow) (component : Symbol)
  deriving DecidableEq, Repr

namespace Emission

/-- The identifier of the search that is written, if one is. -/
def searchId? : Emission → Option Identifier
  | search s => some s.search.id
  | _ => none

/-- Adds an emission to the output. -/
def emit (o : Output) : Emission → Except CompileFault Output
  | search s => o.writeSearch s
  | searchReference id => .ok (o.addSoft ⟨.search, id⟩)
  | grant row object component action =>
    .ok ((((o.write (.permissionGrant row)).addHard object).addHard component).addAction action)
  | eventSource rows component =>
    .ok ((o.writeAll (rows.map .registry)).addHard component)

end Emission

/-- The symbol, if the unit declares it. -/
def Symbol.require (symbol : Symbol) (declared : List Symbol) (location : SourceLocation) :
    Except Diagnostic Symbol :=
  if symbol ∈ declared then .ok symbol
  else .error (.undefinedSymbol symbol.kind.name symbol.id location)

/-- The name of the action in the configuration, if it is built for the platform. -/
def NativeAction.require (action : NativeAction) (config : Config) (element : String)
    (location : SourceLocation) : Except Diagnostic String :=
  match config.actionName? action with
  | some name => .ok name
  | none => .error (.unsupportedPlatform element config.platform.name location)

end InstallMarkup
