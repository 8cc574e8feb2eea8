import InstallMarkup.Vocabulary

/-!
# Walking a tree

The walk visits an element and, if it is a search in its place, the elements nested in it, each
before its own children. It gives the assessments in that order and the fault that stopped it, if
one did. Nothing that was written before has a say in it: assessments depend on the setting, the
vocabulary and the tree alone.
-/

namespace InstallMarkup

/-! ## Structure -/

/-- The first attribute whose name stands before it in the list already, or is one of `seen`. -/
def firstRepeated? (seen : List String) : List Attribute → Option Attribute
  | [] => none
  | a :: rest => if a.name ∈ seen then some a else firstRepeated? (a.name :: seen) rest

/-- What is wrong with an element that no host should hand over: no name, or an attribute twice. -/
def Element.structureFault? (e : Element) : Option CompileFault :=
  if e.name.isEmpty then some (.unnamedElement e.location)
  else (firstRepeated? [] e.attributes).map fun a =>
    .duplicateAttribute e.name a.name a.location

/-! ## The walk -/

/-- What visiting elements comes to. -/
structure Walk where
  visits : List (Assessment Emission) := []
  fault : Option CompileFault := none
  deriving DecidableEq, Repr

namespace Walk

/-- Nothing visited. -/
def nothing : Walk := {}

/-- A walk that stops at once. -/
def stopped (fault : CompileFault) : Walk := ⟨[], some fault⟩

/-- One visit, and then the rest of the walk. -/
def visit (a : Assessment Emission) (rest : Walk) : Walk := ⟨a :: rest.visits, rest.fault⟩

/-- One walk after another; the second does not take place if the first was stopped. -/
def andThen (first second : Walk) : Walk :=
  match first.fault with
  | some _ => first
  | none => ⟨first.visits ++ second.visits, second.fault⟩

end Walk

/-- The visit of one element, up to its children: its assessment, and the enclosure that its
children are visited in, if they are. -/
def Element.visit (e : Element) (setting : Setting) (vocabulary : Vocabulary)
    (enclosure : Enclosure) : Except CompileFault (Assessment Emission × Option Enclosure) :=
  match e.structureFault? with
  | some fault => .error fault
  | none =>
    match vocabulary.find? e.name with
    | none => .ok (misplaced enclosure e, none)
    | some compiler =>
      match compiler.assess setting enclosure e with
      | .error fault => .error fault
      | .ok a => .ok (a, compiler.inner? enclosure e a)

mutual

/-- The walk over an element and what is nested in it. -/
def Element.walk (setting : Setting) (vocabulary : Vocabulary) (enclosure : Enclosure) :
    Element → Walk
  | e@{ children, .. } =>
    match e.visit setting vocabulary enclosure with
    | .error fault => .stopped fault
    | .ok (a, none) => .visit a .nothing
    | .ok (a, some inner) => .visit a (walkAll setting vocabulary inner children)

/-- The walk over elements in order, up to the first that stops it. -/
def walkAll (setting : Setting) (vocabulary : Vocabulary) (enclosure : Enclosure) :
    List Element → Walk
  | [] => .nothing
  | e :: rest =>
    (e.walk setting vocabulary enclosure).andThen (walkAll setting vocabulary enclosure rest)

end

end InstallMarkup
