import InstallMarkup.Platform

/-!
# Invocations

The words of a command line. There is one command, `compile`, which takes the path of a unit and
three options, in any order:

* `--config PATH`, the file of the configuration;
* `--platform NAME`, in place of the platform of the configuration;
* `--warnings-as-errors`.

The value of an option is the next word, or follows an equals sign. Each option stands at most once.
After the word `--` every word is a path.
-/

namespace InstallMarkup

/-- What a command line asks for. -/
structure Invocation where
  unitPath : String
  configPath : Option String := none
  platform : Option Platform := none
  warningsAsErrors : Bool := false
  deriving DecidableEq, Repr

namespace Invocation

/-- How to call the program. -/
def usage : String :=
  "usage: utilc compile UNIT [--config CONFIG] [--platform PLATFORM] [--warnings-as-errors]"

/-- What the words read so far ask for. -/
structure Draft where
  unitPath : Option String := none
  configPath : Option String := none
  platform : Option Platform := none
  warningsAsErrors : Bool := false

namespace Draft

def setUnitPath? (d : Draft) (path : String) : Option Draft :=
  if d.unitPath.isSome || path.isEmpty then none else some { d with unitPath := some path }

/-- Takes an option with a value. -/
def setOption? (d : Draft) (name value : String) : Option Draft :=
  match name with
  | "config" =>
    if d.configPath.isSome || value.isEmpty then none else some { d with configPath := some value }
  | "platform" =>
    if d.platform.isSome then none
    else (Platform.ofWord? value).map fun platform => { d with platform := some platform }
  | _ => none

def setWarningsAsErrors? (d : Draft) : Option Draft :=
  if d.warningsAsErrors then none else some { d with warningsAsErrors := true }

/-- Whether a word is written like an option. A hyphen alone is not. -/
def isOption (word : String) : Bool :=
  word.toList.head? == some '-' && word != "-"

/-- The name of a long option, and the value after the first equals sign, if there is one. -/
def longOption? (word : String) : Option (String × Option String) :=
  match word.toList with
  | '-' :: '-' :: cs =>
    let name := String.ofList (cs.takeWhile (· != '='))
    match cs.dropWhile (· != '=') with
    | _ :: value => some (name, some (String.ofList value))
    | [] => some (name, none)
  | _ => none

/-- Takes the words in order. -/
def takeWords? (d : Draft) : List String → Option Draft
  | [] => some d
  | word :: words =>
    if word == "--" then words.foldlM setUnitPath? d
    else if !isOption word then do (← d.setUnitPath? word).takeWords? words
    else
      match longOption? word with
      | some ("warnings-as-errors", none) => do (← d.setWarningsAsErrors?).takeWords? words
      | some (name, some value) => do (← d.setOption? name value).takeWords? words
      | some (name, none) =>
        match words with
        | value :: words =>
          if isOption value then none else do (← d.setOption? name value).takeWords? words
        | [] => none
      | none => none

end Draft

/-- The invocation that the words after the name of the program write. -/
def ofWords? : List String → Option Invocation
  | "compile" :: words => do
    let d ← ({} : Draft).takeWords? words
    some { d with unitPath := ← d.unitPath }
  | _ => none

end Invocation

end InstallMarkup
