import InstallMarkup.CommandLine.Outcome

/-!
# The command line program

Reads the files that an invocation may need, carries it out, and prints what it shows.
-/

namespace InstallMarkup

/-- The bytes of a file, or why there are none. -/
def readFile (path : String) : IO (Except ReadFailure ByteArray) := do
  try
    return .ok (← IO.FS.readBinFile path)
  catch
    | .noFileOrDirectory .. => return .error .missing
    | .inappropriateType _ 20 _ => return .error .notDirectory
    | .inappropriateType _ 21 _ => return .error .isDirectory
    | .invalidArgument _ 36 _ => return .error .nameTooLong
    | fault => return .error (.other (toString fault))

/-- The files at the given paths. -/
def readFiles : List String → IO Files
  | [] => return fun _ => .error .missing
  | path :: rest => do
    let contents ← readFile path
    let files ← readFiles rest
    return fun asked => if asked == path then contents else files asked

/-- The log line of a collision. It does not tell the time. -/
def logLine (collision : Table × Identifier) : String :=
  " WARN identifier reused by a different row table=" ++ collision.1.name ++
    " id=" ++ Json.quoted collision.2.text

end InstallMarkup

open InstallMarkup in
def main (words : List String) : IO UInt32 := do
  match Invocation.ofWords? words with
  | none =>
    IO.eprintln Invocation.usage
    return 2
  | some invocation =>
    let named ← IO.getEnv Config.environmentVariable
    let outcome := invocation.run named (← readFiles (invocation.paths named))
    IO.eprint (outcome.errorText fun _ => logLine)
    IO.print outcome.output
    return outcome.exitCode
