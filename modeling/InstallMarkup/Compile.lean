import InstallMarkup.Diagnostic.Log
import InstallMarkup.Walk

/-!
# Compiling units

A run takes the visits of a walk in order: it records what each raised and adds what each emits to
the output. A fault stops the run, but what was recorded and written before it stays. A unit is
compiled by walking its items one after the other from an empty state; a fault anywhere leaves no
compiled unit.
-/

namespace InstallMarkup

/-! ## The state of a run -/

/-- What a run has recorded and written. -/
structure UnitState where
  log : DiagnosticLog := {}
  output : Output := {}
  deriving Repr, DecidableEq

namespace UnitState

/-- The state at the start of a run. -/
def start (config : Config) : UnitState := { log := .empty config.warningsAsErrors }

/-- Takes one visit. -/
def take (s : UnitState) (a : Assessment Emission) : Except CompileFault UnitState :=
  let log := s.log.recordAll a.raised
  match a.value with
  | none => .ok { s with log }
  | some emission =>
    match emission.emit s.output with
    | .ok output => .ok { log, output }
    | .error fault => .error fault

/-- Takes visits in order, up to the first that fails. -/
def takeAll (s : UnitState) : List (Assessment Emission) → UnitState × Option CompileFault
  | [] => (s, none)
  | a :: rest =>
    match s.take a with
    | .ok s => s.takeAll rest
    | .error fault => (s, some fault)

/-- Takes a walk: its visits, and then the fault that stopped it. -/
def follow (s : UnitState) (w : Walk) : UnitState × Option CompileFault :=
  match s.takeAll w.visits with
  | (s, some fault) => (s, some fault)
  | (s, none) => (s, w.fault)

/-- Compiles one element with everything nested in it. -/
def dispatch (s : UnitState) (setting : Setting) (vocabulary : Vocabulary) (enclosure : Enclosure)
    (e : Element) : UnitState × Option CompileFault :=
  s.follow (e.walk setting vocabulary enclosure)

/-- Compiles the items of a unit in order, up to the first fault. -/
def dispatchAll (s : UnitState) (setting : Setting) (vocabulary : Vocabulary) :
    List UnitItem → UnitState × Option CompileFault
  | [] => (s, none)
  | item :: rest =>
    match s.dispatch setting vocabulary (.host item.host) item.element with
    | (s, none) => s.dispatchAll setting vocabulary rest
    | (s, some fault) => (s, some fault)

end UnitState

/-! ## Compiled units -/

/-- What a unit compiles to. -/
structure CompiledUnit where
  name : String
  tables : Tables
  references : References
  edges : List SearchEdge
  diagnostics : List Diagnostic
  /-- The rows that reuse the identifier of another, in order of writing. -/
  collisions : List (Table × Identifier)
  deriving Repr, DecidableEq

namespace CompiledUnit

def errorCount (u : CompiledUnit) : Nat := u.diagnostics.countP Diagnostic.isError

def warningCount (u : CompiledUnit) : Nat := u.diagnostics.countP Diagnostic.isWarning

/-- Whether no error was raised, so that every row is final. -/
def isSuccess (u : CompiledUnit) : Bool := u.errorCount == 0

/-- The compiled unit that a run leaves. -/
def ofState (name : String) (s : UnitState) : CompiledUnit where
  name := name
  tables := s.output.tables
  references := s.output.references
  edges := s.output.graph.edges
  diagnostics := s.log.entries
  collisions := s.output.collisions

end CompiledUnit

/-- Compiles a unit with a vocabulary of one's own. -/
def CompilationUnit.compileWith (unit : CompilationUnit) (config : Config)
    (vocabulary : Vocabulary) : Except CompileFault CompiledUnit :=
  let setting : Setting := { config, declared := unit.declared }
  match (UnitState.start config).dispatchAll setting vocabulary unit.items with
  | (s, none) => .ok (.ofState unit.name s)
  | (_, some fault) => .error fault

/-- Compiles a unit with the full vocabulary. -/
def CompilationUnit.compile (unit : CompilationUnit) (config : Config) :
    Except CompileFault CompiledUnit :=
  unit.compileWith config .full

/-- What a compilation has recorded and written when it ends, with a compiled unit or a fault. -/
def CompilationUnit.reached (unit : CompilationUnit) (config : Config) : UnitState :=
  let setting : Setting := { config, declared := unit.declared }
  ((UnitState.start config).dispatchAll setting .full unit.items).1

end InstallMarkup
