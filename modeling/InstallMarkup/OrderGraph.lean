import InstallMarkup.Fault
import InstallMarkup.References
import InstallMarkup.Row.Basic

/-!
# The ordering graph

The searches written in a run and the orderings between them. An edge leaves a search of this run;
the search that it leads to may lie in another unit, so it is recorded as a soft reference and not
as a node. Cycles are not looked for here: the engine finds them when it puts the searches in order.
-/

namespace InstallMarkup

/-- Searches and the edges between them, in the order in which they were added. -/
structure OrderGraph where
  nodes : List Identifier := []
  edges : List SearchEdge := []
  deriving DecidableEq, Repr, Inhabited

namespace OrderGraph

def empty : OrderGraph := {}

/-- Records a search of this run. -/
def register (g : OrderGraph) (id : Identifier) : OrderGraph :=
  if id ∈ g.nodes then g else { g with nodes := g.nodes ++ [id] }

def contains (g : OrderGraph) (id : Identifier) : Bool :=
  g.nodes.contains id

/-- Adds an edge, unless it is there already. -/
def addEdge (g : OrderGraph) (edge : SearchEdge) : OrderGraph :=
  if edge ∈ g.edges then g else { g with edges := g.edges ++ [edge] }

/-- Orders `child` after `parent`: adds the edge and records the soft reference to the parent. The
child must be a search of this run. -/
def link (g : OrderGraph) (references : References) (child parent : Identifier) :
    Except CompileFault (SearchEdge × OrderGraph × References) :=
  if g.contains child then
    let edge : SearchEdge := { child, parent }
    .ok (edge, g.addEdge edge, references.addSoft ⟨.search, parent⟩)
  else
    .error (.unknownEdgeChild child parent)

@[simp] theorem contains_register (g : OrderGraph) (id : Identifier) :
    (g.register id).contains id = true := by
  unfold register contains
  split <;> simp_all

end OrderGraph

end InstallMarkup
