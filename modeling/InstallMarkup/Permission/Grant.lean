import InstallMarkup.Emission
import InstallMarkup.Permission.Mask
import InstallMarkup.Reading.Assessment
import InstallMarkup.Reading.Rule

/-!
# Permission grants

The element `PermissionEx` grants a user rights on the folder, file, registry key or service that it
stands in. Each right is an attribute with yes or no. The object and its component must be declared,
and the action that applies grants must be built for the platform.
-/

namespace InstallMarkup

/-- What a grant secures under a host element: the kind of object, the host value that holds its id,
and the kind of symbol that it is declared as. -/
structure GrantTarget where
  object : ObjectKind
  idKey : String
  symbol : SymbolKind
  deriving DecidableEq, Repr

/-- The target of a grant in a host element of this kind. -/
def HostKind.grantTarget? : HostKind → Option GrantTarget
  | .createFolder => some ⟨.folder, Host.directoryId, .directory⟩
  | .file => some ⟨.file, Host.fileId, .file⟩
  | .registry => some ⟨.registry, Host.registryId, .registry⟩
  | .registryValue => some ⟨.registry, Host.registryId, .registry⟩
  | .serviceInstall => some ⟨.service, Host.serviceInstallId, .serviceInstall⟩
  | _ => none

namespace PermissionGrant

/-- The name of the element. -/
def element : String := "PermissionEx"

/-- The attributes of a grant on an object: the user with its domain, and each right. -/
def rules (kind : ObjectKind) : List AttributeRule :=
  [.ofReading "Domain" (·.text element), .ofReading "User" (·.text element)] ++
    kind.rights.map fun right => .ofReading right (·.yesNo element)

/-- The answers that the attributes give, leaving out those that are neither yes nor no. -/
def answers (kind : ObjectKind) (attributes : List Attribute) : List (String × Bool) :=
  attributes.filterMap fun a =>
    if kind.rights.contains a.name then
      match a.yesNo element with
      | .ok granted => some (a.name, granted)
      | .error _ => none
    else none

/-- The mask that the attributes come to, unless it is the reserved one. -/
def mask? (kind : ObjectKind) (attributes : List Attribute) : Option UInt32 :=
  match AccessMask.encode kind (answers kind attributes) with
  | .ok bits => some bits
  | .error _ => none

/-- The diagnostic about a grant of generic reading alone. -/
def genericReadAlone (kind : ObjectKind) (objectId : String) (location : SourceLocation) :
    Diagnostic :=
  let table := kind.table
  .errorAt .genericReadNotAllowed
    (s!"The {element} element grants only GenericRead on {table} '{objectId}', " ++
      "which allows no access. Grant Read or additional rights instead.") location

/-- Everything that a grant on an object of a component raises, and what it emits if nothing that
was raised counts as an error. -/
def assessOn (config : Config) (declared : List Symbol) (target : GrantTarget)
    (objectId componentId : String) (e : Element) : Assessment Emission :=
  let permission := mask? target.object e.attributes
  let object := Symbol.require ⟨target.symbol, objectId⟩ declared e.location
  let component := Symbol.require ⟨.component, componentId⟩ declared e.location
  let action := NativeAction.secureObjects.require config element e.location
  let raised :=
    AttributeRule.checkAll (rules target.object) element e.attributes ++
      missingAttributes ["User"] element e ++
      unexpectedChildren element e ++
      (if permission.isNone then [genericReadAlone target.object objectId e.location] else []) ++
      Reading.faults object ++ Reading.faults component ++ Reading.faults action
  match setting? e.attributes "User" (·.text element), permission, object, component, action with
  | some user, some permission, .ok object, .ok component, .ok action =>
    if Assessment.clean config.warningsAsErrors raised then
      let row : PermissionGrantRow :=
        { objectId
          objectTable := target.object.table
          domain := setting? e.attributes "Domain" (·.text element)
          user, permission, componentId }
      ⟨raised, some (.grant row object component action)⟩
    else .rejected raised
  | _, _, _, _, _ => .rejected raised

/-- Assesses a grant in a host element that holds objects to secure. The host must have supplied the
ids of the object and of the component. -/
def assess (config : Config) (declared : List Symbol) (host : Host) (target : GrantTarget)
    (e : Element) : Except CompileFault (Assessment Emission) :=
  match host.require target.idKey e with
  | .error fault => .error fault
  | .ok objectId =>
    match host.require Host.componentId e with
    | .error fault => .error fault
    | .ok componentId => .ok (assessOn config declared target objectId componentId e)

end PermissionGrant

end InstallMarkup
