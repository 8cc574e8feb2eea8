import InstallMarkup.EventSource
import InstallMarkup.Permission.Grant
import InstallMarkup.Search.Query
import InstallMarkup.Search.Reference
import InstallMarkup.Text.Quoted

/-!
# The vocabulary

Which extension elements there are, and how each is assessed. A vocabulary maps element names to
compilers; the full one has each element under its own name, but a host may choose other names. The
names that diagnostics quote stay those of the compilers where the reading of attributes is
concerned, and are those of the elements as written where their place is.
-/

namespace InstallMarkup

/-- What a run is told beforehand. -/
structure Setting where
  config : Config := {}
  /-- The symbols that the host has declared. -/
  declared : List Symbol := []
  deriving Repr, DecidableEq

/-- The ways in which an element can be compiled. -/
inductive ElementCompiler where
  | search (kind : SearchKind)
  | searchReference (kind : SearchKind)
  | permissionGrant
  | eventSource
  deriving DecidableEq, Repr

namespace ElementCompiler

def all : List ElementCompiler :=
  SearchKind.all.map search ++ SearchKind.all.map searchReference ++
    [permissionGrant, eventSource]

/-- The name that the element has in the full vocabulary. -/
def name : ElementCompiler → String
  | search kind => kind.elementName
  | searchReference kind => kind.referenceName
  | permissionGrant => PermissionGrant.element
  | eventSource => EventSource.element

end ElementCompiler

/-- The place of a search in an enclosure that may hold one. -/
def Enclosure.placement? : Enclosure → Option Placement
  | .host h => if h.kind.holdsSearches then some .topLevel else none
  | .search _ id => some (.nested id)

/-- What is said of an element that may not stand where it does. -/
def misplaced (enclosure : Enclosure) (e : Element) : Assessment Emission :=
  .rejected [.unexpectedElement enclosure.name e.name e.location]

namespace ElementCompiler

/-- Everything that an element raises on its own, and what it emits if nothing that was raised
counts as an error. Elements nested in it are no part of this. -/
def assess (compiler : ElementCompiler) (setting : Setting) (enclosure : Enclosure) (e : Element) :
    Except CompileFault (Assessment Emission) :=
  match compiler, enclosure with
  | search kind, enclosure =>
    match enclosure.placement? with
    | some placement =>
      match kind.assess setting.config e placement with
      | .ok a => .ok (a.map .search)
      | .error fault => .error fault
    | none => .ok (misplaced enclosure e)
  | searchReference kind, .host h =>
    if h.kind.holdsSearches then
      .ok (SearchReference.assess setting.config.warningsAsErrors kind e)
    else .ok (misplaced enclosure e)
  | permissionGrant, .host h =>
    match h.kind.grantTarget? with
    | some target => PermissionGrant.assess setting.config setting.declared h target e
    | none => .ok (misplaced enclosure e)
  | eventSource, .host h =>
    if h.kind = .component then
      EventSource.assess setting.config.warningsAsErrors setting.declared h e
    else .ok (misplaced enclosure e)
  | _, .search _ _ => .ok (misplaced enclosure e)

/-- What encloses the elements nested in `e`, if they are visited at all: those of a search that
stands in its place are, whether or not the search itself was accepted. -/
def inner? (compiler : ElementCompiler) (enclosure : Enclosure) (e : Element)
    (a : Assessment Emission) : Option Enclosure :=
  match compiler with
  | search _ =>
    enclosure.placement?.map fun _ => .search e.name (a.value.bind Emission.searchId?)
  | _ => none

end ElementCompiler

/-- Element names and their compilers, each name once. -/
structure Vocabulary where
  entries : List (String × ElementCompiler) := []
  deriving DecidableEq, Repr

namespace Vocabulary

def empty : Vocabulary := {}

/-- Gives a name to a compiler, taking it from the one that had it. -/
def register (v : Vocabulary) (name : String) (compiler : ElementCompiler) : Vocabulary :=
  ⟨v.entries.filter (·.1 != name) ++ [(name, compiler)]⟩

/-- Every element under its own name. -/
def full : Vocabulary :=
  ⟨ElementCompiler.all.map fun compiler => (compiler.name, compiler)⟩

/-- The compiler of a name. -/
def find? (v : Vocabulary) (name : String) : Option ElementCompiler :=
  v.entries.lookup name

/-- The names, sorted. -/
def names (v : Vocabulary) : List String :=
  (v.entries.map (·.1)).mergeSort fun a b => a ≤ b

/-- The names as a listing for people. -/
def listing (v : Vocabulary) : String :=
  "ElementRegistry \x7b elements: [" ++ ", ".intercalate (v.names.map Text.quoted) ++ "] \x7d"

end Vocabulary

end InstallMarkup
