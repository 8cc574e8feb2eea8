import InstallMarkup.Diagnostic.Basic

/-!
# The diagnostic log

The diagnostics of one run, in the order in which they were raised, each with the severity that it
counts with, and the running number of errors.
-/

namespace InstallMarkup

/-- The diagnostics recorded so far. -/
structure DiagnosticLog where
  /-- Whether warnings are recorded as errors. -/
  strict : Bool := false
  entries : List Diagnostic := []
  /-- How many of the entries are errors; `record` keeps the count. -/
  errorCount : Nat := 0
  deriving DecidableEq, Repr, Inhabited

namespace DiagnosticLog

/-- An empty log. -/
def empty (strict : Bool) : DiagnosticLog := { strict }

/-- Records one diagnostic, with the severity that it counts with. -/
def record (log : DiagnosticLog) (d : Diagnostic) : DiagnosticLog :=
  let entry := d.graded log.strict
  { log with
    entries := log.entries ++ [entry]
    errorCount := log.errorCount + (if entry.isError then 1 else 0) }

/-- Records diagnostics in order. -/
def recordAll (log : DiagnosticLog) (ds : List Diagnostic) : DiagnosticLog :=
  ds.foldl record log

def hasErrors (log : DiagnosticLog) : Bool :=
  0 < log.errorCount

/-! ## Lemmas -/

@[simp] theorem strict_record (log : DiagnosticLog) (d : Diagnostic) :
    (log.record d).strict = log.strict := rfl

@[simp] theorem entries_record (log : DiagnosticLog) (d : Diagnostic) :
    (log.record d).entries = log.entries ++ [d.graded log.strict] := rfl

@[simp] theorem strict_recordAll (log : DiagnosticLog) (ds : List Diagnostic) :
    (log.recordAll ds).strict = log.strict := by
  induction ds generalizing log with
  | nil => rfl
  | cons d ds ih => simpa [recordAll] using ih (log.record d)

/-- Recording several diagnostics appends each of them, graded. -/
@[simp] theorem entries_recordAll (log : DiagnosticLog) (ds : List Diagnostic) :
    (log.recordAll ds).entries = log.entries ++ ds.map (·.graded log.strict) := by
  induction ds generalizing log with
  | nil => simp [recordAll]
  | cons d ds ih => simpa [recordAll, List.append_assoc] using ih (log.record d)

end DiagnosticLog

end InstallMarkup
