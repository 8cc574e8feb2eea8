import InstallMarkup.Reading.Assessment
import InstallMarkup.Reading.Rule
import InstallMarkup.Row.Basic
import InstallMarkup.Search.Element

/-!
# Directory and file searches

Both look for a path and write to the same table. A flag tells them apart: each row has either the
flag of directories or that of plain files. A directory search can ask whether the directory exists;
a file search can ask that too, or for the version of the file.
-/

namespace InstallMarkup

/-- What a directory or file search looks for. -/
structure PathQuery where
  path : String
  flags : FileSearchFlags
  deriving DecidableEq, Repr

namespace PathQuery

/-- The attributes of a search for a path whose result is one of `results`. -/
def rules (element : String) (results : List (String × FileSearchFlags)) : List AttributeRule := [
  .ofReading "Path" (·.text element),
  .ofReading "Result" (Attribute.choice results element)]

/-- Reads the query of an element. The flag `base` is always set; without a result nothing else
is, and the search gives the path itself. -/
def assess (element : String) (results : List (String × FileSearchFlags)) (base : FileSearchFlags)
    (e : Element) : Assessment PathQuery where
  raised := missingAttributes ["Path"] element e
  value :=
    (setting? e.attributes "Path" (·.text element)).map fun path =>
      { path
        flags := base.union
          ((setting? e.attributes "Result" (Attribute.choice results element)).getD .empty) }

/-! ## Directories -/

/-- The result that can be asked of a directory search. -/
def directoryResults : List (String × FileSearchFlags) := [
  ("exists", FileSearchFlags.wantExists)]

def directoryRules : List AttributeRule :=
  rules SearchKind.directory.elementName directoryResults

def assessDirectory : Element → Assessment PathQuery :=
  assess SearchKind.directory.elementName directoryResults FileSearchFlags.isDirectory

/-! ## Files -/

/-- The results that can be asked of a file search. -/
def fileResults : List (String × FileSearchFlags) := [
  ("exists", FileSearchFlags.wantExists),
  ("version", FileSearchFlags.wantVersion)]

def fileRules : List AttributeRule :=
  rules SearchKind.file.elementName fileResults

def assessFile : Element → Assessment PathQuery :=
  assess SearchKind.file.elementName fileResults FileSearchFlags.plainFile

end PathQuery

end InstallMarkup
