import InstallMarkup.Diagnostic.Wording
import InstallMarkup.Identifier.Basic
import InstallMarkup.Markup.Element
import InstallMarkup.Text.Digits
import InstallMarkup.Text.Guid

/-!
# Reading attribute values

A reading takes an attribute and gives its value or the one diagnostic that says why it has none.
Every such diagnostic is an error about the value, at the place of the attribute. `element` is the
name that the sentence quotes.
-/

namespace InstallMarkup

/-- The diagnostics of a reading: none when it gave a value. -/
def Reading.faults {α : Type} : Except Diagnostic α → List Diagnostic
  | .ok _ => []
  | .error d => [d]

namespace Attribute

/-- Any text but the empty one. -/
def text (element : String) (a : Attribute) : Except Diagnostic String :=
  if a.value.isEmpty then .error (.emptyValue element a.name a.location)
  else .ok a.value

/-- A legal identifier. -/
def identifier (element : String) (a : Attribute) : Except Diagnostic Identifier :=
  match a.text element with
  | .error d => .error d
  | .ok value =>
    if Identifier.isLegal value then .ok ⟨value⟩
    else .error (.malformedValue element a.name value "a legal identifier" a.location)

/-- `yes` or `no`. -/
def yesNo (element : String) (a : Attribute) : Except Diagnostic Bool :=
  if a.value = "yes" then .ok true
  else if a.value = "no" then .ok false
  else .error (.illegalValue element a.name a.value ["yes", "no"] a.location)

/-- A natural number of 32 bits in decimal digits, with an optional plus sign. -/
def integer (element : String) (a : Attribute) : Except Diagnostic UInt32 :=
  match Digits.unsigned? 10 UInt32.size a.value.toList with
  | some n => .ok (UInt32.ofNat n)
  | none => .error (.malformedValue element a.name a.value "a non-negative integer" a.location)

/-- A GUID, in the form that rows hold. -/
def guid (element : String) (a : Attribute) : Except Diagnostic String :=
  match a.text element with
  | .error d => .error d
  | .ok value =>
    match Guid.normalize? value with
    | some guid => .ok guid
    | none => .error (.malformedValue element a.name value "a GUID" a.location)

/-- What one of the listed words stands for. -/
def choice {α : Type} (options : List (String × α)) (element : String) (a : Attribute) :
    Except Diagnostic α :=
  match options.lookup a.value with
  | some meaning => .ok meaning
  | none => .error (.illegalValue element a.name a.value (options.map (·.1)) a.location)

end Attribute

/-- The value that the attribute called `name` sets: that of the last one of the name, if it is
there and has a value. -/
def setting? {α : Type} (attributes : List Attribute) (name : String)
    (read : Attribute → Except Diagnostic α) : Option α :=
  match attributes.reverse.find? (·.name == name) with
  | some a => (read a).toOption
  | none => none

end InstallMarkup
