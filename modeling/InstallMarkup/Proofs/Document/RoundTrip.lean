import InstallMarkup.Document.Config
import InstallMarkup.Document.Diagnostic
import InstallMarkup.Document.Row
import InstallMarkup.Proofs.Json.ReadBack
import InstallMarkup.Proofs.Row.Flags

/-!
# Documents are read back

Rows, relations, diagnostics, kinds of hosts and configurations are written as JSON, and reading the
JSON gives them again: the value itself, and the text of the value in either layout
(`documents_roundTrip`).

* **values**: a structure is read field by field (`bind_record?_object`, `Record.bind_required`
  and its like), and what a field was written as is read as the field, by one lemma for each kind of
  field;
* **texts**: the written values are legible, since they nest no deeper than a location within a
  diagnostic, so their texts are read as the values (`RoundTrips.of_legible`).
-/

namespace InstallMarkup

/-! ## Structures -/

namespace Record

variable {ν α : Type} {name name' : String} {v : ν} {fields : List (String × ν)}
  {positional : Bool}

@[simp]
theorem get?_nil : ({ fields := [], positional } : Record ν).get? name = none := rfl

@[simp]
theorem get?_cons_self :
    ({ fields := (name, v) :: fields, positional } : Record ν).get? name = some v := by
  rw [get?, List.lookup_cons_self]

@[simp]
theorem get?_cons_of_ne (h : name ≠ name') :
    ({ fields := (name', v) :: fields, positional } : Record ν).get? name =
      ({ fields, positional } : Record ν).get? name := by
  rw [get?, List.lookup_cons, beq_eq_false_iff_ne.mpr h, get?]

theorem present_eq_some [DocumentValue ν] {read : ν → Option α} {a : α}
    (hthere : isAbsent? v = some false) (hread : read v = some a) :
    present read v = some (some a) := by
  rw [present, hthere, hread]
  rfl

/-! A field is read, and then the fields after it. -/

section Fields

variable {β : Type} {r : Record ν} {read : ν → Option α} {a : α} {default : α} {a? : Option α}
  {b : β}

theorem bind_required {next : α → Option β} (hget : r.get? name = some v)
    (hread : read v = some a) (hnext : next a = some b) :
    (r.required name read >>= next) = some b := by
  rw [required, hget, Option.bind_some, hread]
  exact hnext

theorem bind_optional [DocumentValue ν] {next : Option α → Option β}
    (hget : r.get? name = some v) (hread : present read v = some a?) (hnext : next a? = some b) :
    (r.optional name read >>= next) = some b := by
  rw [optional, hget]
  simp only [hread]
  exact hnext

theorem bind_defaulted {next : α → Option β} (hget : r.get? name = some v)
    (hread : read v = some a) (hnext : next a = some b) :
    (r.defaulted name read default >>= next) = some b := by
  rw [defaulted, hget]
  simp only [hread]
  exact hnext

theorem bind_defaulted_of_absent {next : α → Option β} (hget : r.get? name = none)
    (hnext : next default = some b) : (r.defaulted name read default >>= next) = some b := by
  rw [defaulted, hget]
  exact hnext

end Fields

end Record

/-- The members of an object are the fields of a structure if it knows each, and none is there
twice. -/
theorem bind_record?_object {β : Type} {names : List String} {members : List (String × Json)}
    {next : Record Json → Option β} {b : β}
    (hknown : ∀ member ∈ members, names.contains member.1 = true)
    (hdistinct : distinctNames (members.map (·.1)) = true)
    (hnext : next { fields := members } = some b) :
    (record? names (Json.object members) >>= next) = some b := by
  have hall : (members.filter fun member => names.contains member.1) = members :=
    List.filter_eq_self.mpr hknown
  have hrecord : Record.ofNamed? names members = some { fields := members } := by
    rw [Record.ofNamed?, hall]
    exact if_pos hdistinct
  show (Record.ofNamed? names members >>= next) = some b
  rw [hrecord]
  exact hnext

/-! ## Fields -/

theorem text?_string (s : String) : text? (Json.string s) = some s := rfl

theorem flag?_bool (b : Bool) : flag? (Json.bool b) = some b := rfl

theorem present_null {α : Type} (read : Json → Option α) :
    Record.present read Json.null = some none := rfl

theorem present_optional (s? : Option String) :
    Record.present text? (Json.optional s?) = some s? := by
  cases s? with
  | none => rfl
  | some s => exact Record.present_eq_some rfl (text?_string s)

theorem word32?_natural (w : UInt32) : word32? (Json.natural w.toNat) = some w := by
  have hlimit : (w.toNat : Int) < UInt32.size := by exact_mod_cast w.toNat_lt
  show (if 0 ≤ (w.toNat : Int) ∧ (w.toNat : Int) < UInt32.size then
    some (UInt32.ofNat (w.toNat : Int).toNat) else none) = some w
  rw [if_pos ⟨Int.natCast_nonneg _, hlimit⟩, Int.toNat_natCast, UInt32.ofNat_toNat]

theorem word64?_natural (w : UInt64) : word64? (Json.natural w.toNat) = some w := by
  have hlimit : (w.toNat : Int) < UInt64.size := by exact_mod_cast w.toNat_lt
  show (if 0 ≤ (w.toNat : Int) ∧ (w.toNat : Int) < UInt64.size then
    some (UInt64.ofNat (w.toNat : Int).toNat) else none) = some w
  rw [if_pos ⟨Int.natCast_nonneg _, hlimit⟩, Int.toNat_natCast, UInt64.ofNat_toNat]

/-- An alternative without contents is read by its name, if it is the first one of that name. -/
theorem unitVariant?_string {α : Type} {options : List α} {name : α → String} {a : α}
    (h : options.find? (name · == name a) = some a) :
    unitVariant? options name (Json.string (name a)) = some a := h

theorem Identifier.ofDocument?_toJson (i : Identifier) : ofDocument? i.toJson = some i := rfl

theorem RegistryRoot.ofDocument?_toJson (root : RegistryRoot) :
    ofDocument? root.toJson = some root :=
  unitVariant?_string (by cases root <;> rfl)

theorem RelationStrength.unitVariant?_name (strength : RelationStrength) :
    unitVariant? all name (Json.string strength.name) = some strength :=
  unitVariant?_string (by cases strength; rfl)

theorem Severity.unitVariant?_name (severity : Severity) :
    unitVariant? all name (Json.string severity.name) = some severity :=
  unitVariant?_string (by cases severity <;> rfl)

theorem DiagnosticCode.unitVariant?_name (code : DiagnosticCode) :
    unitVariant? all name (Json.string code.name) = some code :=
  unitVariant?_string (by cases code <;> rfl)

theorem Platform.unitVariant?_name (platform : Platform) :
    unitVariant? all name (Json.string platform.name) = some platform :=
  unitVariant?_string (by cases platform <;> rfl)

/-- A set of flags that can be told apart is read by their names, whatever its other bits are. -/
theorem FlagSet.ofDocument?_toJson {flags : List Flag} (h : isReadable flags = true)
    (s : FlagSet flags) : ofDocument? s.toJson = some s :=
  ofText?_text h s

/-! ## Rows -/

theorem SearchRow.ofDocument?_toJson (r : SearchRow) : ofDocument? r.toJson = some r := by
  refine bind_record?_object (by simp) (by simp [distinctNames]) ?_
  refine Record.bind_required (by simp) r.id.ofDocument?_toJson ?_
  refine Record.bind_required (by simp) (text?_string r.variableName) ?_
  refine Record.bind_optional (by simp) (present_optional r.condition) ?_
  rfl

theorem SearchEdge.ofDocument?_toJson (e : SearchEdge) : ofDocument? e.toJson = some e := by
  refine bind_record?_object (by simp) (by simp [distinctNames]) ?_
  refine Record.bind_required (by simp) e.child.ofDocument?_toJson ?_
  refine Record.bind_required (by simp) e.parent.ofDocument?_toJson ?_
  refine Record.bind_required (by simp) e.strength.unitVariant?_name ?_
  rfl

theorem FileSearchRow.ofDocument?_toJson (r : FileSearchRow) : ofDocument? r.toJson = some r := by
  refine bind_record?_object (by simp) (by simp [distinctNames]) ?_
  refine Record.bind_required (by simp) r.id.ofDocument?_toJson ?_
  refine Record.bind_required (by simp) (text?_string r.path) ?_
  refine Record.bind_required (by simp)
    (FlagSet.ofDocument?_toJson FlagSet.isReadable_fileSearchFlags r.flags) ?_
  rfl

theorem ComponentSearchRow.ofDocument?_toJson (r : ComponentSearchRow) :
    ofDocument? r.toJson = some r := by
  refine bind_record?_object (by simp) (by simp [distinctNames]) ?_
  refine Record.bind_required (by simp) r.id.ofDocument?_toJson ?_
  refine Record.bind_required (by simp) (text?_string r.componentGuid) ?_
  refine Record.bind_optional (by simp) (present_optional r.productCode) ?_
  refine Record.bind_required (by simp)
    (FlagSet.ofDocument?_toJson FlagSet.isReadable_componentSearchFlags r.flags) ?_
  rfl

theorem ProductSearchRow.ofDocument?_toJson (r : ProductSearchRow) :
    ofDocument? r.toJson = some r := by
  refine bind_record?_object (by simp) (by simp [distinctNames]) ?_
  refine Record.bind_required (by simp) r.id.ofDocument?_toJson ?_
  refine Record.bind_required (by simp) (text?_string r.code) ?_
  refine Record.bind_required (by simp)
    (FlagSet.ofDocument?_toJson FlagSet.isReadable_productSearchFlags r.flags) ?_
  rfl

theorem RegistrySearchRow.ofDocument?_toJson (r : RegistrySearchRow) :
    ofDocument? r.toJson = some r := by
  refine bind_record?_object (by simp) (by simp [distinctNames]) ?_
  refine Record.bind_required (by simp) r.id.ofDocument?_toJson ?_
  refine Record.bind_required (by simp) r.root.ofDocument?_toJson ?_
  refine Record.bind_required (by simp) (text?_string r.key) ?_
  refine Record.bind_optional (by simp) (present_optional r.value) ?_
  refine Record.bind_required (by simp)
    (FlagSet.ofDocument?_toJson FlagSet.isReadable_registrySearchFlags r.flags) ?_
  rfl

theorem PermissionGrantRow.ofDocument?_toJson (r : PermissionGrantRow) :
    ofDocument? r.toJson = some r := by
  refine bind_record?_object (by simp) (by simp [distinctNames]) ?_
  refine Record.bind_required (by simp) (text?_string r.objectId) ?_
  refine Record.bind_required (by simp) (text?_string r.objectTable) ?_
  refine Record.bind_optional (by simp) (present_optional r.domain) ?_
  refine Record.bind_required (by simp) (text?_string r.user) ?_
  refine Record.bind_required (by simp) (word32?_natural r.permission) ?_
  refine Record.bind_required (by simp) (text?_string r.componentId) ?_
  rfl

theorem RegistryRow.ofDocument?_toJson (r : RegistryRow) : ofDocument? r.toJson = some r := by
  refine bind_record?_object (by simp) (by simp [distinctNames]) ?_
  refine Record.bind_required (by simp) r.id.ofDocument?_toJson ?_
  refine Record.bind_required (by simp) r.root.ofDocument?_toJson ?_
  refine Record.bind_required (by simp) (text?_string r.key) ?_
  refine Record.bind_optional (by simp) (present_optional r.name) ?_
  refine Record.bind_optional (by simp) (present_optional r.value) ?_
  refine Record.bind_required (by simp) (text?_string r.componentId) ?_
  rfl

namespace Row

theorem ofColumns?_columnsJson (row : Row) : ofColumns? row.table row.columnsJson = some row := by
  cases row with
  | search r => exact congrArg (Option.map search) r.ofDocument?_toJson
  | searchRelation e => exact congrArg (Option.map searchRelation) e.ofDocument?_toJson
  | fileSearch r => exact congrArg (Option.map fileSearch) r.ofDocument?_toJson
  | componentSearch r => exact congrArg (Option.map componentSearch) r.ofDocument?_toJson
  | productSearch r => exact congrArg (Option.map productSearch) r.ofDocument?_toJson
  | registrySearch r => exact congrArg (Option.map registrySearch) r.ofDocument?_toJson
  | permissionGrant r => exact congrArg (Option.map permissionGrant) r.ofDocument?_toJson
  | registry r => exact congrArg (Option.map registry) r.ofDocument?_toJson

/-- A row is read by the name of its table and then by the columns of that table. -/
theorem ofDocument?_toJson (row : Row) : ofDocument? row.toJson = some row := by
  have htable : Table.all.find? (·.name == row.table.name) = some row.table := by
    cases row <;> rfl
  show (Table.all.find? (·.name == row.table.name)).bind (ofColumns? · row.columnsJson) = some row
  rw [htable, Option.bind_some, ofColumns?_columnsJson]

end Row

/-! ## Diagnostics -/

/-- A location is read with its source or without, as it was written. -/
theorem SourceLocation.ofDocument?_toJson (l : SourceLocation) :
    ofDocument? l.toJson = some l := by
  obtain ⟨line, column, source⟩ := l
  cases source with
  | none =>
    refine bind_record?_object (by simp [Form.names, Form.fields])
      (by simp [distinctNames]) ?_
    refine Record.bind_required (by simp) (word64?_natural line) ?_
    refine Record.bind_required (by simp) (word64?_natural column) ?_
    exact Record.bind_defaulted_of_absent (by simp) rfl
  | some name =>
    refine bind_record?_object (by simp [Form.names, Form.fields])
      (by simp [distinctNames]) ?_
    refine Record.bind_required (by simp) (word64?_natural line) ?_
    refine Record.bind_required (by simp) (word64?_natural column) ?_
    have hpresent := Record.present_eq_some (v := Json.string name) rfl (text?_string name)
    exact Record.bind_defaulted (by simp) hpresent rfl

theorem Diagnostic.ofDocument?_toJson (d : Diagnostic) : ofDocument? d.toJson = some d := by
  obtain ⟨severity, code, message, location⟩ := d
  refine bind_record?_object (by simp) (by simp [distinctNames]) ?_
  refine Record.bind_required (by simp) severity.unitVariant?_name ?_
  refine Record.bind_required (by simp) code.unitVariant?_name ?_
  refine Record.bind_required (by simp) (text?_string message) ?_
  cases location with
  | none => exact Record.bind_optional (by simp) (present_null _) rfl
  | some l =>
    have hpresent := Record.present_eq_some (v := l.toJson) rfl l.ofDocument?_toJson
    exact Record.bind_optional (by simp) hpresent rfl

/-! ## Hosts and configurations -/

/-- A kind of its own comes back by its name, and every other one from under `Other`, also if it has
the name of a kind of its own. -/
theorem HostKind.ofDocument?_toJson (kind : HostKind) : ofDocument? kind.toJson = some kind := by
  cases kind <;> rfl

example : HostKind.ofDocument? (HostKind.other "Bundle").toJson = some (.other "Bundle") := rfl

theorem Config.ofDocument?_toJson (c : Config) : ofDocument? c.toJson = some c := by
  refine bind_record?_object (by simp [Form.names, Form.fields])
    (by simp [distinctNames]) ?_
  refine Record.bind_defaulted (by simp) c.platform.unitVariant?_name ?_
  refine Record.bind_defaulted (by simp) (text?_string c.actionPrefix) ?_
  refine Record.bind_defaulted (by simp) (flag?_bool c.allowBuiltinVariables) ?_
  exact Record.bind_defaulted (by simp) (flag?_bool c.warningsAsErrors) rfl

/-! ## Texts -/

/-- What is written of a value is read as the value: the JSON value, its text on one line, and its
text with one member to a line. -/
structure RoundTrips {α : Type} (write : α → Json) (read : Json → Option α) : Prop where
  value : ∀ a, read (write a) = some a
  compact : ∀ a, (Json.ofText? (write a).compact).bind read = some a
  pretty : ∀ a, (Json.ofText? (write a).pretty).bind read = some a

/-- Legible values are read from their texts, so it is enough that the values are read. -/
theorem RoundTrips.of_legible {α : Type} {write : α → Json} {read : Json → Option α}
    (hvalue : ∀ a, read (write a) = some a)
    (hlegible : ∀ a, (write a).isLegible Json.nestingLimit = true) : RoundTrips write read where
  value := hvalue
  compact a := by rw [Json.ofText?_compact (hlegible a), Option.bind_some, hvalue]
  pretty a := by rw [Json.ofText?_pretty (hlegible a), Option.bind_some, hvalue]

section Legible

open Json

variable (depth : Nat)

@[simp]
theorem isLegible_optional (s? : Option String) :
    (Json.optional s?).isLegible depth = true := by
  cases s? <;> simp [Json.optional, isLegible]

theorem SearchEdge.isLegible_toJson (e : SearchEdge) :
    e.toJson.isLegible (depth + 1) = true := by
  simp [toJson, Identifier.toJson, isLegible, areMembersLegible]

theorem Row.isLegible_columnsJson (row : Row) :
    row.columnsJson.isLegible (depth + 1) = true := by
  cases row with
  | searchRelation e => exact e.isLegible_toJson depth
  | _ =>
    simp [columnsJson, SearchRow.toJson, FileSearchRow.toJson, ComponentSearchRow.toJson,
      ProductSearchRow.toJson, RegistrySearchRow.toJson, PermissionGrantRow.toJson,
      RegistryRow.toJson, Identifier.toJson, FlagSet.toJson, RegistryRoot.toJson, Json.natural,
      isLegible, areMembersLegible]

theorem Row.isLegible_toJson (row : Row) : row.toJson.isLegible (depth + 2) = true := by
  simp [toJson, isLegible, areMembersLegible, row.isLegible_columnsJson]

theorem SourceLocation.isLegible_toJson (l : SourceLocation) :
    l.toJson.isLegible (depth + 1) = true := by
  obtain ⟨line, column, source⟩ := l
  cases source <;> simp [toJson, Json.natural, isLegible, areMembersLegible]

theorem Diagnostic.isLegible_toJson (d : Diagnostic) : d.toJson.isLegible (depth + 2) = true := by
  obtain ⟨severity, code, message, location⟩ := d
  cases location with
  | none => simp [toJson, isLegible, areMembersLegible]
  | some l => simp [toJson, isLegible, areMembersLegible, l.isLegible_toJson]

theorem HostKind.isLegible_toJson (kind : HostKind) :
    kind.toJson.isLegible (depth + 1) = true := by
  cases kind <;> simp [toJson, isLegible, areMembersLegible]

theorem Config.isLegible_toJson (c : Config) : c.toJson.isLegible (depth + 1) = true := by
  simp [toJson, isLegible, areMembersLegible]

end Legible

/-- Rows, relations, diagnostics, kinds of hosts and configurations are read back from what is
written of them, whatever they hold: any texts, any bits in a set of flags, a location or none, with
a source or without, and `Other` kinds of any name. -/
theorem documents_roundTrip :
    RoundTrips Row.toJson Row.ofDocument? ∧
    RoundTrips SearchEdge.toJson SearchEdge.ofDocument? ∧
    RoundTrips Diagnostic.toJson Diagnostic.ofDocument? ∧
    RoundTrips HostKind.toJson HostKind.ofDocument? ∧
    RoundTrips Config.toJson Config.ofDocument? := by
  refine ⟨?row, ?relation, ?diagnostic, ?host, ?config⟩
  case row => exact .of_legible Row.ofDocument?_toJson fun row => row.isLegible_toJson _
  case relation => exact .of_legible SearchEdge.ofDocument?_toJson fun e => e.isLegible_toJson _
  case diagnostic => exact .of_legible Diagnostic.ofDocument?_toJson fun d => d.isLegible_toJson _
  case host =>
    exact .of_legible HostKind.ofDocument?_toJson fun kind => kind.isLegible_toJson _
  case config => exact .of_legible Config.ofDocument?_toJson fun c => c.isLegible_toJson _

end InstallMarkup
