import InstallMarkup.CommandLine.Invocation
import InstallMarkup.Document.File
import InstallMarkup.Document.Output
import InstallMarkup.Json.Writer

/-!
# Outcomes

What an invocation prints and the code that it ends with. The wire form of the compiled unit goes to
the output, a line for every diagnostic to the messages. The code is 0 if there was no error, 1 if
there was one, and 2 if there is no compiled unit; then nothing goes to the output and the one
message is the reason.

The configuration is loaded before the unit, so its faults come first.

The error stream takes log lines besides the messages: each collision is logged as a warning when
it happens, so these lines come before every message, and they are there also if the compilation
ends in a fault. How a log line is written, its time among the rest, is for the logger to say; here
it is a parameter. The environment may name parts of the program that log more or less. Then other
lines stand there, of which nothing is said here; the messages after them are the same.
-/

namespace InstallMarkup

/-- Why there is no compiled unit. -/
inductive RunFault where
  | load (fault : LoadFault)
  | compile (unitPath : String) (fault : CompileFault)
  deriving DecidableEq, Repr

def RunFault.message : RunFault → String
  | load fault => fault.message
  | compile unitPath fault => s!"Failed to compile {unitPath}: " ++ fault.message

/-- What a run of the program shows. -/
structure Outcome where
  exitCode : UInt32
  output : String := ""
  /-- The collisions that are logged, in order. -/
  logged : List (Table × Identifier) := []
  /-- The texts that go to the error stream after the log lines, in order. -/
  messages : List String := []
  deriving DecidableEq, Repr

namespace Outcome

/-- The text of the messages: each ends its line. -/
def messageText (o : Outcome) : String :=
  String.join (o.messages.map (· ++ "\n"))

/-- The text that goes to the error stream, with log lines as `logLine` writes the first, the second
and so on. -/
def errorText (logLine : Nat → Table × Identifier → String) (o : Outcome) : String :=
  String.join ((o.logged.mapIdx logLine).map (· ++ "\n")) ++ o.messageText

/-- The outcome of a fault, after the collisions that were logged until then. -/
def ofFault (logged : List (Table × Identifier)) (fault : RunFault) : Outcome :=
  { exitCode := 2, logged, messages := ["error: " ++ fault.message] }

/-- The outcome of a compiled unit. -/
def ofCompiled (u : CompiledUnit) : Outcome where
  exitCode := if u.isSuccess then 0 else 1
  output := u.wire.pretty ++ "\n"
  logged := u.collisions
  messages := u.diagnostics.map Diagnostic.display

end Outcome

namespace Invocation

/-- A configuration with what the invocation says in place of what it holds. -/
def override (i : Invocation) (config : Config) : Config :=
  { config with
    platform := i.platform.getD config.platform
    warningsAsErrors := config.warningsAsErrors || i.warningsAsErrors }

/-- The configuration of the invocation; `named` is the path that the environment gives. -/
def config (i : Invocation) (named : Option String) (files : Files) : Except LoadFault Config :=
  match i.configPath with
  | some path => (Config.load files path).map i.override
  | none => (Config.loadNamed files named).map i.override

/-- The compiled unit of the invocation. -/
def compiled (i : Invocation) (named : Option String) (files : Files) :
    Except RunFault CompiledUnit :=
  match i.config named files with
  | .error fault => .error (.load fault)
  | .ok config =>
    match CompilationUnit.load files i.unitPath with
    | .error fault => .error (.load fault)
    | .ok unit =>
      match unit.compile config with
      | .error fault => .error (.compile i.unitPath fault)
      | .ok u => .ok u

/-- The collisions that the invocation meets, whether it comes to a compiled unit or not. -/
def collisions (i : Invocation) (named : Option String) (files : Files) :
    List (Table × Identifier) :=
  match i.config named files, CompilationUnit.load files i.unitPath with
  | .ok config, .ok unit => (unit.reached config).output.collisions
  | _, _ => []

/-- Carries out the invocation. -/
def run (i : Invocation) (named : Option String) (files : Files) : Outcome :=
  match i.compiled named files with
  | .ok u => .ofCompiled u
  | .error fault => .ofFault (i.collisions named files) fault

/-- The paths of the files that the invocation may read. -/
def paths (i : Invocation) (named : Option String) : List String :=
  i.configPath.toList ++ named.toList ++ [i.unitPath]

end Invocation

end InstallMarkup
