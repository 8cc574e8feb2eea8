import InstallMarkup.Markup.Host

/-!
# Units

A unit is one markup document as it is handed to the compiler: the extension elements in document
order, each with the host element around it, and the symbols that the host has declared.
-/

namespace InstallMarkup

/-- Kinds of host entities that rows may point at. -/
inductive SymbolKind where
  | component
  | directory
  | file
  | registry
  | serviceInstall
  deriving DecidableEq, Repr, Inhabited

namespace SymbolKind

def all : List SymbolKind := [component, directory, file, registry, serviceInstall]

def name : SymbolKind → String
  | component => "Component"
  | directory => "Directory"
  | file => "File"
  | registry => "Registry"
  | serviceInstall => "ServiceInstall"

/-- The place of the kind in the order of references. -/
def rank : SymbolKind → Nat
  | component => 0
  | directory => 1
  | file => 2
  | registry => 3
  | serviceInstall => 4

end SymbolKind

/-- A host entity that rows may point at, by kind and id. -/
structure Symbol where
  kind : SymbolKind
  id : String
  deriving DecidableEq, Repr, Inhabited

/-- One extension element with the host element around it. -/
structure UnitItem where
  host : Host
  element : Element
  deriving Repr, Inhabited

/-- One markup document, as handed to a single run of the compiler. -/
structure CompilationUnit where
  name : String
  items : List UnitItem := []
  declared : List Symbol := []
  deriving Repr, Inhabited

namespace CompilationUnit

/-- Adds an item at the end. -/
def withItem (u : CompilationUnit) (host : Host) (element : Element) : CompilationUnit :=
  { u with items := u.items ++ [⟨host, element⟩] }

/-- Declares a symbol. -/
def declare (u : CompilationUnit) (kind : SymbolKind) (id : String) : CompilationUnit :=
  { u with declared := u.declared ++ [⟨kind, id⟩] }

end CompilationUnit

end InstallMarkup
