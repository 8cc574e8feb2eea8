/-!
# Files

Files are bytes at paths. A path is followed part by part from the directory that it is written for:
empty parts and single periods lead nowhere, double periods lead to the directory around. It must
lead to a file, and there is no going on after one.
-/

namespace InstallMarkup

/-! ## Files -/

/-- Why a file has no text. -/
inductive ReadFailure where
  | missing
  /-- The bytes are no UTF-8. -/
  | notText
  /-- The path goes on after a file. -/
  | notDirectory
  | isDirectory
  /-- The path, or one of its parts, is longer than paths may be. -/
  | nameTooLong
  | other (reason : String)
  deriving DecidableEq, Repr

def ReadFailure.message : ReadFailure → String
  | missing => "No such file or directory (os error 2)"
  | notText => "stream did not contain valid UTF-8"
  | notDirectory => "Not a directory (os error 20)"
  | isDirectory => "Is a directory (os error 21)"
  | nameTooLong => "File name too long (os error 36)"
  | other reason => reason

/-- The files that there are: the bytes at each path. -/
abbrev Files : Type := String → Except ReadFailure ByteArray

/-- The text of the file at a path. -/
def Files.text (files : Files) (path : String) : Except ReadFailure String :=
  match files path with
  | .ok bytes =>
    match String.fromUTF8? bytes with
    | some text => .ok text
    | none => .error .notText
  | .error failure => .error failure

/-! ## Paths -/

/-- What stands between the slashes of a path. -/
def pathPieces (path : String) : List (List Char) := path.toList.splitOn '/'

/-- Whether a piece of a path leads nowhere: it is empty or a single period. -/
def isIdle (piece : List Char) : Bool := piece.isEmpty || piece == ['.']

/-- The parts of a path that lead somewhere. -/
def pathParts (path : String) : List (List Char) := (pathPieces path).filter (!isIdle ·)

/-- The part of a path that leads to the directory around. -/
def upward : List Char := ['.', '.']

/-- The last part of a path. -/
def fileName? (path : String) : Option (List Char) :=
  match (pathParts path).getLast? with
  | some name => if name == upward then none else some name
  | none => none

/-- What follows the last period of the last part of a path. A period in front is part of the
name. -/
def extension? (path : String) : Option String :=
  match fileName? path with
  | some name =>
    let after := name.reverse.takeWhile (· != '.')
    if after.length + 1 < name.length then some (String.ofList after.reverse) else none
  | none => none

/-! ## Directories -/

/-- How many bytes a path may have. -/
def maxPathLength : Nat := 4095

/-- How many bytes a part of a path may have. -/
def maxPartLength : Nat := 255

/-- What the parts of a path lead to. The path has come to `place`, a directory in the tree of the
files, or outside of the tree, where no files are. `toDirectory` tells whether the path can only end
at a directory. -/
def follow (tree : List (List (List Char) × ByteArray)) (toDirectory : Bool) :
    Option (List (List Char)) → List (List Char) → Except ReadFailure ByteArray
  | _, [] => .error .isDirectory
  | place, part :: rest =>
    if maxPartLength < (String.ofList part).utf8ByteSize then .error .nameTooLong
    else if part == upward then
      let around := match place with
        | some [] | none => none
        | some parts => some parts.dropLast
      follow tree toDirectory around rest
    else
      match place.map (· ++ [part]) with
      | none => .error .missing
      | some parts =>
        match tree.lookup parts with
        | some bytes => if rest.isEmpty && !toDirectory then .ok bytes else .error .notDirectory
        | none =>
          if tree.any (parts.isPrefixOf ·.1) then follow tree toDirectory (some parts) rest
          else .error .missing

/-- The files of a directory, each given by its path from there. Paths lead on from the directory;
outside of it there are no files. -/
def Files.ofDirectory (contents : List (String × ByteArray)) : Files := fun path =>
  let tree := contents.map fun (path, bytes) => (pathParts path, bytes)
  let place := if path.toList.head? == some '/' then none else some []
  if path.isEmpty then .error .missing
  else if maxPathLength < path.utf8ByteSize then .error .nameTooLong
  else follow tree ((pathPieces path).getLast?.any isIdle) place (pathParts path)

end InstallMarkup
