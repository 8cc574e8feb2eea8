import InstallMarkup.Fault
import InstallMarkup.Markup.Unit

/-!
# Enclosures

What an extension element stands in: an element of the host, or a search of this library.
-/

namespace InstallMarkup

/-- What encloses an element. -/
inductive Enclosure where
  | host (host : Host)
  /-- Another search, by the name of its element; it has an identifier if it was written. -/
  | search (element : String) (id : Option Identifier)
  deriving Repr, DecidableEq

namespace Enclosure

/-- The element name that diagnostics quote. -/
def name : Enclosure → String
  | host h => h.kind.name
  | search element _ => element

/-- The kind of the host element, if the enclosure is one. -/
def hostKind? : Enclosure → Option HostKind
  | host h => some h.kind
  | search _ _ => none

end Enclosure

/-- The value that the host walk must have supplied under `key` for element `e`. -/
def Host.require (h : Host) (key : String) (e : Element) : Except CompileFault String :=
  match h.value? key with
  | some value => .ok value
  | none => .error (.missingParentValue e.name h.kind.name key e.location)

end InstallMarkup
