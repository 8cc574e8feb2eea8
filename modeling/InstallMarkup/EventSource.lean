import InstallMarkup.Emission
import InstallMarkup.Identifier.Synthesis
import InstallMarkup.Reading.Assessment
import InstallMarkup.Reading.Rule

/-!
# Event sources

The element `EventSource` registers a source of the event log for the component that it stands in.
All of it lands in registry values of one key, named by the log and the source. A value opens with
`#%` if it is a text in which variables are replaced, and with `#` if it is a number.
-/

namespace InstallMarkup.EventSource

/-- The name of the element. -/
def element : String := "EventSource"

/-- The key that all logs lie under. -/
def logKey : String := "SYSTEM\\CurrentControlSet\\Services\\EventLog"

/-- The kinds of events that a source may announce, with their bits. -/
def eventTypes : List (String × UInt32) := [
  ("SupportsErrors", 0x01),
  ("SupportsWarnings", 0x02),
  ("SupportsInformation", 0x04),
  ("SupportsAuditSuccess", 0x08),
  ("SupportsAuditFailure", 0x10)]

/-- The attributes of the element. -/
def rules : List AttributeRule :=
  [.ofReading "Name" (·.text element),
    .ofReading "Log" (·.text element),
    .ofReading "EventMessageFile" (·.text element),
    .ofReading "CategoryMessageFile" (·.text element),
    .ofReading "CategoryCount" (·.integer element),
    .ofReading "ParameterMessageFile" (·.text element)] ++
    eventTypes.map fun (name, _) => .ofReading name (·.yesNo element)

/-- The file and the number of categories make sense only together: the diagnostics about one that
stands without the other. -/
def categoryFaults (e : Element) : List Diagnostic :=
  (if e.has "CategoryMessageFile" then missingAttributes ["CategoryCount"] element e else []) ++
    (if e.has "CategoryCount" then missingAttributes ["CategoryMessageFile"] element e else [])

/-- The bits of the event types that are announced. -/
def typesSupported (attributes : List Attribute) : UInt32 :=
  eventTypes.foldl (fun bits (name, bit) =>
    if setting? attributes name (·.yesNo element) = some true then bits ||| bit else bits) 0

/-- The names and texts of the registry values after the first, which holds the message file. -/
def optionalValues (attributes : List Attribute) : List (String × String) :=
  let category :=
    match setting? attributes "CategoryMessageFile" (·.text element),
      setting? attributes "CategoryCount" (·.integer element) with
    | some file, some count =>
      [("CategoryMessageFile", "#%" ++ file), ("CategoryCount", "#" ++ toString count.toNat)]
    | _, _ => []
  let parameter := (setting? attributes "ParameterMessageFile" (·.text element)).toList.map
    fun file => ("ParameterMessageFile", "#%" ++ file)
  let bits := typesSupported attributes
  let types := if bits = 0 then [] else [("TypesSupported", "#" ++ toString bits.toNat)]
  category ++ parameter ++ types

/-- A registry value of the component under the local machine. Its identifier is computed from
everything but the value. -/
def registryRow (componentId key name value : String) : Except CompileFault RegistryRow :=
  let root := RegistryRoot.localMachine
  match Identifier.synthesize .registryValue
      [some componentId, some (toString root.code.toInt), some key, some name] with
  | .ok id => .ok { id, root, key, name := some name, value := some value, componentId }
  | .error fault => .error fault

/-- The registry values of a component under one key. -/
def registryRows (componentId key : String) :
    List (String × String) → Except CompileFault (List RegistryRow)
  | [] => .ok []
  | (name, value) :: rest =>
    match registryRow componentId key name value, registryRows componentId key rest with
    | .ok row, .ok rows => .ok (row :: rows)
    | .error fault, _ => .error fault
    | _, .error fault => .error fault

/-- Everything that an event source of a component raises. -/
def faults (declared : List Symbol) (componentId : String) (e : Element) : List Diagnostic :=
  AttributeRule.checkAll rules element e.attributes ++
    missingAttributes ["Name", "Log", "EventMessageFile"] element e ++
    categoryFaults e ++
    unexpectedChildren element e ++
    Reading.faults (Symbol.require ⟨.component, componentId⟩ declared e.location)

/-- Assesses an event source of a component. -/
def assessOn (strict : Bool) (declared : List Symbol) (componentId : String) (e : Element) :
    Except CompileFault (Assessment Emission) :=
  let raised := faults declared componentId e
  match setting? e.attributes "Name" (·.text element),
    setting? e.attributes "Log" (·.text element),
    setting? e.attributes "EventMessageFile" (·.text element),
    Symbol.require ⟨.component, componentId⟩ declared e.location with
  | some name, some log, some file, .ok component =>
    if Assessment.clean strict raised then
      let key := logKey ++ "\\" ++ log ++ "\\" ++ name
      let values := ("EventMessageFile", "#%" ++ file) :: optionalValues e.attributes
      match registryRows componentId key values with
      | .ok rows => .ok ⟨raised, some (.eventSource rows component)⟩
      | .error fault => .error fault
    else .ok (.rejected raised)
  | _, _, _, _ => .ok (.rejected raised)

/-- Assesses an event source in a component, whose id the host must have supplied. -/
def assess (strict : Bool) (declared : List Symbol) (host : Host) (e : Element) :
    Except CompileFault (Assessment Emission) :=
  match host.require Host.componentId e with
  | .error fault => .error fault
  | .ok componentId => assessOn strict declared componentId e

end InstallMarkup.EventSource
