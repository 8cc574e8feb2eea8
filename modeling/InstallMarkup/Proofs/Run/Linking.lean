import Mathlib.Data.Finset.Insert
import InstallMarkup.Proofs.Row.Store

/-!
# The ordering graph over a history of calls

What the graph and the references hold after any sequence of registrations and links, in terms of
the sequence alone (`LinkedGraph.Exact`):

* **nodes**: a search is a node if it was registered; links add none;
* **edges**: they are those of the links that were answered, in the order of the first one, without
  the repeats. A link is answered if its child was registered before it (`GraphCall.edge?`), so that
  edges may lead back, and from a search to itself;
* **references**: the soft ones are the parents of these links.

One call keeps this (`LinkedGraph.Exact.perform`), so a history leads to it. The graph is two lists,
and a repeated edge is found by looking through them. A linker would rather keep the nodes and the
edges seen as sets (`IndexedGraph`); the last part shows that all parts stay in step, whichever call
is answered and whichever fails (`IndexedGraph.Agrees.perform`).
-/

namespace InstallMarkup

/-! ## Histories -/

/-- A call on the ordering graph. -/
inductive GraphCall where
  | register (id : Identifier)
  | link (child parent : Identifier)
  deriving DecidableEq, Repr

namespace GraphCall

/-- The edge that a call makes after some others: that of a link whose child is registered. -/
def edge? (earlier : List GraphCall) : GraphCall → Option SearchEdge
  | register _ => none
  | link child parent => if register child ∈ earlier then some { child, parent } else none

/-- What a call is answered after some others. -/
def answer (earlier : List GraphCall) : GraphCall → Except CompileFault (Option SearchEdge)
  | register _ => .ok none
  | link child parent =>
    if register child ∈ earlier then .ok (some { child, parent })
    else .error (.unknownEdgeChild child parent)

/-- The edges that the calls of a history make, in order, repeats included. -/
def edges (calls : List GraphCall) : List SearchEdge :=
  calls.zipIdx.filterMap fun (call, i) => call.edge? (calls.take i)

theorem edges_concat (calls : List GraphCall) (call : GraphCall) :
    edges (calls ++ [call]) = edges calls ++ (call.edge? calls).toList :=
  filterMap_take_concat (fun earlier call => edge? earlier call) calls call

end GraphCall

/-! ## One call -/

namespace OrderGraph

variable {g : OrderGraph} {references : References} {child parent : Identifier}

theorem contains_register_iff {id other : Identifier} :
    (g.register id).contains other = true ↔ g.contains other = true ∨ other = id := by
  rw [register_eq]
  simp [contains, grow]

theorem link_of_unknown (h : g.contains child = false) :
    g.link references child parent = .error (.unknownEdgeChild child parent) := by
  rw [link, if_neg (by simp [h])]

theorem link_of_known (h : g.contains child = true) : g.link references child parent =
    .ok ({ child, parent }, g.grow [] [{ child, parent }],
      references.addSoft ⟨.search, parent⟩) := by
  rw [link, if_pos h, ← addEdge_eq]

end OrderGraph

/-- The graph, with the references that its links record. -/
structure LinkedGraph where
  graph : OrderGraph := {}
  references : References := {}
  deriving DecidableEq, Repr

namespace LinkedGraph

def empty : LinkedGraph := {}

/-- Performs a call. One that fails leaves what there was. -/
def perform (s : LinkedGraph) : GraphCall → Except CompileFault (Option SearchEdge) × LinkedGraph
  | .register id => (.ok none, { s with graph := s.graph.register id })
  | .link child parent =>
    match s.graph.link s.references child parent with
    | .ok (edge, graph, references) => (.ok (some edge), { graph, references })
    | .error fault => (.error fault, s)

/-- Performs calls in order, whatever they are answered. -/
def performAll (s : LinkedGraph) (calls : List GraphCall) : LinkedGraph :=
  calls.foldl (fun s call => (s.perform call).2) s

theorem performAll_concat (s : LinkedGraph) (calls : List GraphCall) (call : GraphCall) :
    s.performAll (calls ++ [call]) = ((s.performAll calls).perform call).2 := by
  rw [performAll, List.foldl_append, ← performAll]
  rfl

/-- What the graph and the references have to be after a history of calls. -/
structure Exact (calls : List GraphCall) (s : LinkedGraph) : Prop where
  /-- A search is in the graph if it was registered. -/
  contains : ∀ id, s.graph.contains id = true ↔ .register id ∈ calls
  /-- The edges stand in the order in which they were made first. -/
  edges : s.graph.edges = (GraphCall.edges calls).eraseDups
  /-- The parent of every edge is looked for at link time, and no other row is. -/
  soft : ∀ reference, reference ∈ s.references.soft ↔
    ∃ edge ∈ GraphCall.edges calls, reference = ⟨.search, edge.parent⟩
  /-- No other references are recorded. -/
  others : s.references.hard = [] ∧ s.references.actions = []

variable {s : LinkedGraph} {calls : List GraphCall}

theorem exact_empty : empty.Exact [] where
  contains := by simp [empty, OrderGraph.contains]
  edges := rfl
  soft := by simp [empty, GraphCall.edges]
  others := ⟨rfl, rfl⟩

/-- A link whose child is unknown fails, and changes nothing. -/
theorem perform_link_of_unknown {child parent : Identifier}
    (h : s.graph.contains child = false) : s.perform (.link child parent) =
      (.error (.unknownEdgeChild child parent), s) := by
  rw [perform, OrderGraph.link_of_unknown h]

/-- A link whose child is known is answered with its edge, whether or not it is there already. -/
theorem perform_link_of_known {child parent : Identifier} (h : s.graph.contains child = true) :
    s.perform (.link child parent) = (.ok (some { child, parent }),
      { graph := s.graph.grow [] [{ child, parent }]
        references := s.references.addSoft ⟨.search, parent⟩ }) := by
  rw [perform, OrderGraph.link_of_known h]

theorem Exact.contains_eq_false (h : s.Exact calls) {id : Identifier}
    (hunknown : .register id ∉ calls) : s.graph.contains id = false := by
  rwa [← h.contains, Bool.not_eq_true] at hunknown

theorem Exact.answer (h : s.Exact calls) (call : GraphCall) :
    (s.perform call).1 = call.answer calls := by
  cases call with
  | register id => rfl
  | link child parent =>
    by_cases hknown : .register child ∈ calls
    · rw [perform_link_of_known ((h.contains child).mpr hknown), GraphCall.answer, if_pos hknown]
    · rw [perform_link_of_unknown (h.contains_eq_false hknown), GraphCall.answer, if_neg hknown]

/-- A call keeps the graph and the references exact. -/
theorem Exact.perform (h : s.Exact calls) (call : GraphCall) :
    (s.perform call).2.Exact (calls ++ [call]) := by
  cases call with
  | register id =>
    have hedges : GraphCall.edges (calls ++ [.register id]) = GraphCall.edges calls := by
      rw [GraphCall.edges_concat]
      exact List.append_nil _
    refine ⟨?_, ?_, ?_, h.others⟩
    · intro other
      show (s.graph.register id).contains other = true ↔ _
      rw [OrderGraph.contains_register_iff, h.contains]
      simp
    · show (s.graph.register id).edges = _
      rw [hedges, ← h.edges, OrderGraph.register_eq]
      rfl
    · rw [hedges]
      exact h.soft
  | link child parent =>
    have hnodes : ∀ id, .register id ∈ calls ++ [GraphCall.link child parent] ↔
        .register id ∈ calls := by simp
    by_cases hknown : .register child ∈ calls
    · have hedges : GraphCall.edges (calls ++ [.link child parent]) =
          GraphCall.edges calls ++ [⟨child, parent, .alwaysAfter⟩] := by
        rw [GraphCall.edges_concat, GraphCall.edge?, if_pos hknown]
        rfl
      rw [perform_link_of_known ((h.contains child).mpr hknown)]
      refine ⟨?_, ?_, ?_, h.others⟩
      · intro id
        rw [hnodes]
        exact h.contains id
      · show grow s.graph.edges [⟨child, parent, .alwaysAfter⟩] = _
        rw [hedges, h.edges, ← grow_nil_eq_eraseDups, ← grow_nil_eq_eraseDups, ← grow_append]
      · intro reference
        show reference ∈ SortedList.insert _ _ s.references.soft ↔ _
        rw [hedges, SortedList.mem_insert, h.soft]
        simp only [List.mem_append, List.mem_singleton, or_and_right, exists_or, exists_eq_left]
        exact or_comm
    · have hedges : GraphCall.edges (calls ++ [.link child parent]) = GraphCall.edges calls := by
        rw [GraphCall.edges_concat, GraphCall.edge?, if_neg hknown]
        exact List.append_nil _
      rw [perform_link_of_unknown (h.contains_eq_false hknown)]
      refine ⟨?_, ?_, ?_, h.others⟩
      · intro id
        rw [hnodes]
        exact h.contains id
      · rw [hedges]
        exact h.edges
      · rw [hedges]
        exact h.soft

theorem exact_performAll (calls : List GraphCall) : (empty.performAll calls).Exact calls := by
  -- from the right, so that the last call meets the graph of the calls before it
  induction calls using List.reverseRecOn with
  | nil => exact exact_empty
  | append_singleton calls call ih =>
    rw [performAll_concat]
    exact ih.perform call

/-- A search after itself, and two after each other. -/
example : (empty.performAll [.register ⟨"A"⟩, .link ⟨"B"⟩ ⟨"A"⟩, .register ⟨"B"⟩,
    .link ⟨"A"⟩ ⟨"A"⟩, .link ⟨"B"⟩ ⟨"A"⟩, .link ⟨"A"⟩ ⟨"B"⟩, .link ⟨"B"⟩ ⟨"A"⟩]).graph.edges =
      [⟨⟨"A"⟩, ⟨"A"⟩, .alwaysAfter⟩, ⟨⟨"B"⟩, ⟨"A"⟩, .alwaysAfter⟩,
        ⟨⟨"A"⟩, ⟨"B"⟩, .alwaysAfter⟩] := by decide +kernel

end LinkedGraph

/-! ## Indices -/

/-- A graph that keeps a set for each question: the nodes, the edges seen, and the references. -/
structure IndexedGraph where
  nodes : Finset Identifier := ∅
  edges : List SearchEdge := []
  seen : Finset SearchEdge := ∅
  soft : Finset SoftReference := ∅

namespace IndexedGraph

def empty : IndexedGraph := {}

/-- Adds an edge, unless it was seen before. -/
def addEdge (s : IndexedGraph) (edge : SearchEdge) : IndexedGraph :=
  if edge ∈ s.seen then s
  else { s with edges := s.edges ++ [edge], seen := insert edge s.seen }

/-- Performs a call. The child of a link is looked for before anything is recorded. -/
def perform (s : IndexedGraph) : GraphCall → Except CompileFault (Option SearchEdge) × IndexedGraph
  | .register id => (.ok none, { s with nodes := insert id s.nodes })
  | .link child parent =>
    if child ∈ s.nodes then
      (.ok (some { child, parent }),
        addEdge { s with soft := insert ⟨.search, parent⟩ s.soft } { child, parent })
    else (.error (.unknownEdgeChild child parent), s)

/-- Performs calls in order, whatever they are answered. -/
def performAll (s : IndexedGraph) (calls : List GraphCall) : IndexedGraph :=
  calls.foldl (fun s call => (s.perform call).2) s

/-- The sets answer every question as the lists do. -/
structure Agrees (s : IndexedGraph) (t : LinkedGraph) : Prop where
  nodes : ∀ id, id ∈ s.nodes ↔ t.graph.contains id = true
  edges : s.edges = t.graph.edges
  seen : ∀ edge, edge ∈ s.seen ↔ edge ∈ t.graph.edges
  soft : ∀ reference, reference ∈ s.soft ↔ reference ∈ t.references.soft

variable {s : IndexedGraph} {t : LinkedGraph}

theorem agrees_empty : empty.Agrees .empty where
  nodes := by simp [empty, LinkedGraph.empty, OrderGraph.contains]
  edges := rfl
  seen := by simp [empty, LinkedGraph.empty]
  soft := by simp [empty, LinkedGraph.empty]

/-- The sets give the answers of the lists, and stay in step with them. -/
theorem Agrees.perform (h : s.Agrees t) (call : GraphCall) :
    (s.perform call).1 = (t.perform call).1 ∧ (s.perform call).2.Agrees (t.perform call).2 := by
  cases call with
  | register id =>
    refine ⟨rfl, ?_, ?_, ?_, h.soft⟩
    · intro other
      show other ∈ insert id s.nodes ↔ (t.graph.register id).contains other = true
      rw [Finset.mem_insert, OrderGraph.contains_register_iff, h.nodes, or_comm]
    · show s.edges = (t.graph.register id).edges
      rw [h.edges, OrderGraph.register_eq]
      rfl
    · intro edge
      show edge ∈ s.seen ↔ edge ∈ (t.graph.register id).edges
      rw [h.seen, OrderGraph.register_eq]
      rfl
  | link child parent =>
    by_cases hknown : child ∈ s.nodes
    · rw [LinkedGraph.perform_link_of_known ((h.nodes child).mp hknown), IndexedGraph.perform,
        if_pos hknown]
      have hsoft : ∀ reference, reference ∈ insert (⟨.search, parent⟩ : SoftReference) s.soft ↔
          reference ∈ (t.references.addSoft ⟨.search, parent⟩).soft := by
        intro reference
        rw [Finset.mem_insert, h.soft, References.addSoft, SortedList.mem_insert]
      refine ⟨rfl, ?_⟩
      by_cases hseen : ({ child, parent } : SearchEdge) ∈ t.graph.edges
      · simp only [addEdge, h.seen, hseen, OrderGraph.grow, grow_singleton, grow_nil, if_true]
        exact ⟨h.nodes, h.edges, h.seen, hsoft⟩
      · simp only [addEdge, h.seen, hseen, OrderGraph.grow, grow_singleton, grow_nil, if_false]
        refine ⟨h.nodes, ?_, ?_, hsoft⟩
        · rw [h.edges]
        · intro edge
          rw [Finset.mem_insert, h.seen, List.mem_append, List.mem_singleton, or_comm]
    · have hunknown : t.graph.contains child = false := by
        rwa [h.nodes, Bool.not_eq_true] at hknown
      rw [LinkedGraph.perform_link_of_unknown hunknown, IndexedGraph.perform, if_neg hknown]
      exact ⟨rfl, h⟩

theorem Agrees.performAll (h : s.Agrees t) (calls : List GraphCall) :
    (s.performAll calls).Agrees (t.performAll calls) := by
  induction calls generalizing s t with
  | nil => exact h
  | cons call calls ih => exact ih (h.perform call).2

end IndexedGraph

/-- After any history of calls to an empty graph, the nodes are the searches registered, the edges
are the first occurrences of those that links have made, and the soft references are their parents.
The next link fails exactly if its child was not registered, and then changes nothing; otherwise it
is answered with its edge. A graph that keeps its nodes, the edges seen and the references as sets
gives the same answers. -/
theorem linkedGraph_exact (calls : List GraphCall) :
    let s := LinkedGraph.empty.performAll calls
    s.Exact calls ∧
      (∀ child parent,
        (s.graph.link s.references child parent = .error (.unknownEdgeChild child parent) ↔
          .register child ∉ calls) ∧
        (.register child ∉ calls → s.perform (.link child parent) =
          (.error (.unknownEdgeChild child parent), s)) ∧
        (.register child ∈ calls → ∃ graph references,
          s.graph.link s.references child parent = .ok ({ child, parent }, graph, references) ∧
          s.perform (.link child parent) =
            (.ok (some { child, parent }), { graph, references }))) ∧
      let indexed := IndexedGraph.empty.performAll calls
      indexed.Agrees s ∧ ∀ call, (indexed.perform call).1 = (s.perform call).1 := by
  intro s
  have hexact : s.Exact calls := LinkedGraph.exact_performAll calls
  have hagrees : (IndexedGraph.empty.performAll calls).Agrees s :=
    IndexedGraph.agrees_empty.performAll calls
  refine ⟨hexact, ?_, hagrees, fun call => (hagrees.perform call).1⟩
  intro child parent
  by_cases hknown : .register child ∈ calls
  · have hcontains : s.graph.contains child = true := (hexact.contains child).mpr hknown
    have hlink : s.graph.link s.references child parent = .ok _ :=
      OrderGraph.link_of_known hcontains
    refine ⟨?_, fun hunknown => absurd hknown hunknown, fun _ => ⟨_, _, hlink, ?_⟩⟩
    · rw [hlink]
      simpa using hknown
    · exact LinkedGraph.perform_link_of_known hcontains
  · have hcontains : s.graph.contains child = false := hexact.contains_eq_false hknown
    exact ⟨iff_of_true (OrderGraph.link_of_unknown hcontains) hknown,
      fun _ => LinkedGraph.perform_link_of_unknown hcontains,
      fun hregistered => absurd hregistered hknown⟩

end InstallMarkup
