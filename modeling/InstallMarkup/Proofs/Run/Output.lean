import InstallMarkup.Emission
import InstallMarkup.Proofs.Growth

/-!
# What emissions add

Emitting never fails: a search is registered before it is linked. So an emission comes to what it
adds to each part of the output, and `emit_eq` says it for every emission at once. From it follow,
for any number of emissions after each other, one equation for each part: rows, nodes and edges
grow by what the emissions hold, in order, and so do the three kinds of references as sets.
-/

namespace InstallMarkup

/-! ## The contents of an emission -/

namespace ValidatedSearch

/-- The ordering of a search after its predecessor, if it has one. -/
def edges (s : ValidatedSearch) : List SearchEdge :=
  s.after.toList.map fun parent => { child := s.search.id, parent }

/-- The rows of a search: the common one, that of its kind, and that of its ordering. -/
def rows (s : ValidatedSearch) : List Row :=
  .search s.search :: s.detail :: s.edges.map .searchRelation

end ValidatedSearch

namespace Emission

def rows : Emission → List Row
  | search s => s.rows
  | searchReference _ => []
  | grant row _ _ _ => [.permissionGrant row]
  | eventSource rows _ => rows.map .registry

def nodes : Emission → List Identifier
  | search s => [s.search.id]
  | _ => []

def edges : Emission → List SearchEdge
  | search s => s.edges
  | _ => []

def soft : Emission → List SoftReference
  | search s => s.after.toList.map fun parent => ⟨.search, parent⟩
  | searchReference id => [⟨.search, id⟩]
  | _ => []

def hard : Emission → List Symbol
  | grant _ object component _ => [object, component]
  | eventSource _ component => [component]
  | _ => []

def actions : Emission → List String
  | grant _ _ _ action => [action]
  | _ => []

end Emission

/-! ## Adding an emission -/

/-- Puts elements into a sorted list, one after the other. -/
def SortedList.insertAll {α : Type} [DecidableEq α] (before : α → α → Bool) (new l : List α) :
    List α :=
  new.foldl (fun l a => SortedList.insert before a l) l

@[simp] theorem SortedList.mem_insertAll {α : Type} [DecidableEq α] {before : α → α → Bool}
    {new l : List α} {x : α} : x ∈ SortedList.insertAll before new l ↔ x ∈ l ∨ x ∈ new := by
  induction new generalizing l with
  | nil => simp [SortedList.insertAll]
  | cons a new ih =>
    rw [SortedList.insertAll, List.foldl_cons, ← SortedList.insertAll, ih, SortedList.mem_insert,
      List.mem_cons]
    tauto

theorem SortedList.insertAll_append {α : Type} [DecidableEq α] (before : α → α → Bool)
    (xs ys l : List α) : SortedList.insertAll before (xs ++ ys) l =
      SortedList.insertAll before ys (SortedList.insertAll before xs l) :=
  List.foldl_append

/-- Records references of each kind. -/
def References.addAll (r : References) (soft : List SoftReference) (hard : List Symbol)
    (actions : List String) : References where
  soft := SortedList.insertAll SoftReference.before soft r.soft
  hard := SortedList.insertAll Symbol.before hard r.hard
  actions := SortedList.insertAll (fun a b => a < b) actions r.actions

section References

variable {refs : References} {soft : List SoftReference} {hard : List Symbol}
  {actions : List String}

@[simp] theorem References.mem_soft_addAll {r : SoftReference} :
    r ∈ (refs.addAll soft hard actions).soft ↔ r ∈ refs.soft ∨ r ∈ soft :=
  SortedList.mem_insertAll

@[simp] theorem References.mem_hard_addAll {r : Symbol} :
    r ∈ (refs.addAll soft hard actions).hard ↔ r ∈ refs.hard ∨ r ∈ hard :=
  SortedList.mem_insertAll

@[simp] theorem References.mem_actions_addAll {r : String} :
    r ∈ (refs.addAll soft hard actions).actions ↔ r ∈ refs.actions ∨ r ∈ actions :=
  SortedList.mem_insertAll

end References

/-- Records nodes and edges, each unless it is there already. -/
def OrderGraph.grow (g : OrderGraph) (nodes : List Identifier) (edges : List SearchEdge) :
    OrderGraph where
  nodes := InstallMarkup.grow g.nodes nodes
  edges := InstallMarkup.grow g.edges edges

/-! ## Writing leaves the rest alone -/

namespace Output

@[simp] theorem graph_writeAll (o : Output) (rows : List Row) :
    (o.writeAll rows).graph = o.graph := by
  induction rows generalizing o with
  | nil => rfl
  | cons row rows ih =>
    rw [writeAll, List.foldl_cons, ← writeAll, ih]
    rfl

@[simp] theorem references_writeAll (o : Output) (rows : List Row) :
    (o.writeAll rows).references = o.references := by
  induction rows generalizing o with
  | nil => rfl
  | cons row rows ih =>
    rw [writeAll, List.foldl_cons, ← writeAll, ih]
    rfl

theorem tables_writeAll (o : Output) (rows : List Row) :
    (o.writeAll rows).tables = rows.foldl Tables.insert o.tables := by
  induction rows generalizing o with
  | nil => rfl
  | cons row rows ih =>
    rw [writeAll, List.foldl_cons, ← writeAll, ih]
    rfl

/-- Adds what an emission holds. -/
def add (o : Output) (em : Emission) : Output :=
  { o.writeAll em.rows with
    graph := o.graph.grow em.nodes em.edges
    references := o.references.addAll em.soft em.hard em.actions }

end Output

/-! ## Emitting adds -/

theorem OrderGraph.register_eq (g : OrderGraph) (id : Identifier) :
    g.register id = g.grow [id] [] := by
  rw [register, grow, grow_singleton, grow_nil]
  split <;> rfl

theorem OrderGraph.addEdge_eq (g : OrderGraph) (edge : SearchEdge) :
    g.addEdge edge = g.grow [] [edge] := by
  rw [addEdge, grow, grow_singleton, grow_nil]
  split <;> rfl

theorem OrderGraph.grow_grow (g : OrderGraph) (nodes nodes' : List Identifier)
    (edges edges' : List SearchEdge) :
    (g.grow nodes edges).grow nodes' edges' = g.grow (nodes ++ nodes') (edges ++ edges') := by
  simp only [grow, grow_append]

/-- A search can always be written: it is registered before it is linked. -/
theorem Output.writeSearch_eq (o : Output) (s : ValidatedSearch) :
    o.writeSearch s = .ok (o.add (.search s)) := by
  cases hafter : s.after with
  | none =>
    have hgraph : o.graph.register s.search.id = o.graph.grow [s.search.id] [] :=
      o.graph.register_eq s.search.id
    simp only [writeSearch, hafter, hgraph, add, Emission.rows, Emission.nodes, Emission.edges,
      Emission.soft, Emission.hard, Emission.actions, ValidatedSearch.rows, ValidatedSearch.edges]
    rfl
  | some parent =>
    -- the edge leaves a node that was registered just before
    have hlinked : (o.graph.register s.search.id).contains s.search.id = true :=
      o.graph.contains_register s.search.id
    have hgraph : (o.graph.register s.search.id).addEdge ⟨s.search.id, parent, .alwaysAfter⟩ =
        o.graph.grow [s.search.id] [⟨s.search.id, parent, .alwaysAfter⟩] := by
      rw [OrderGraph.register_eq, OrderGraph.addEdge_eq, OrderGraph.grow_grow]
      rfl
    simp only [writeSearch, hafter, write, OrderGraph.link, hlinked, if_true, hgraph, add,
      Emission.rows, Emission.nodes, Emission.edges, Emission.soft, Emission.hard,
      Emission.actions, ValidatedSearch.rows, ValidatedSearch.edges]
    rfl

/-- Emitting adds what the emission holds, and never fails. -/
theorem Emission.emit_eq (o : Output) (em : Emission) : em.emit o = .ok (o.add em) := by
  cases em with
  | search s => exact o.writeSearch_eq s
  | searchReference id => rfl
  | grant row object component action => rfl
  | eventSource rows component =>
    have hreferences := o.references_writeAll (rows.map .registry)
    have hgraph := o.graph_writeAll (rows.map .registry)
    simp only [emit, Output.add, Output.addHard, Emission.rows, Emission.nodes, Emission.edges,
      Emission.soft, Emission.hard, Emission.actions, hreferences]
    rw [← hgraph]
    rfl

/-! ## Growing tables -/

@[simp] theorem Tables.all_insert (t : Tables) (row : Row) :
    (t.insert row).all = grow t.all [row] := by
  rw [insert, grow_singleton]
  split <;> rfl

/-- Rows are written once: the store grows by those that are new. -/
theorem Tables.all_foldl_insert (t : Tables) (rows : List Row) :
    (rows.foldl insert t).all = grow t.all rows := by
  induction rows generalizing t with
  | nil => rfl
  | cons row rows ih => rw [List.foldl_cons, ih, all_insert, ← grow_append, List.singleton_append]

theorem Tables.rows_foldl_insert (t : Tables) (written : List Row) (table : Table) :
    (written.foldl insert t).rows table =
      grow (t.rows table) (written.filter (·.table == table)) := by
  rw [rows, all_foldl_insert, filter_grow, rows]

/-- The rows are in the tables afterwards: those that are new come last, in order and once each. -/
structure Tables.Gained (before after : Tables) (rows : List Row) : Prop where
  all : after.all = before.all ++ rows.eraseDups.filter (fun row => row ∉ before.all)
  mem : ∀ row, row ∈ after.all ↔ row ∈ before.all ∨ row ∈ rows

theorem Tables.gained_foldl_insert (t : Tables) (rows : List Row) :
    t.Gained (rows.foldl insert t) rows where
  all := by rw [all_foldl_insert, grow_eq_append_filter, grow_nil_eq_eraseDups]
  mem row := by rw [all_foldl_insert, mem_grow]

theorem Output.tables_add (o : Output) (em : Emission) :
    (o.add em).tables = em.rows.foldl Tables.insert o.tables :=
  o.tables_writeAll em.rows

theorem Output.gained_add (o : Output) (em : Emission) :
    o.tables.Gained (o.add em).tables em.rows := by
  rw [tables_add]
  exact o.tables.gained_foldl_insert em.rows

theorem Output.rows_add (o : Output) (em : Emission) (table : Table) :
    (o.add em).tables.rows table =
      grow (o.tables.rows table) (em.rows.filter (·.table == table)) := by
  rw [tables_add, Tables.rows_foldl_insert]

theorem Output.mem_all_add {o : Output} {em : Emission} {row : Row} :
    row ∈ (o.add em).tables.all ↔ row ∈ o.tables.all ∨ row ∈ em.rows :=
  (o.gained_add em).mem row

/-! ## Many emissions -/

namespace Output

variable (o : Output) (ems : List Emission)

/-- Adds emissions in order. -/
def addAll (o : Output) (ems : List Emission) : Output :=
  ems.foldl add o

theorem addAll_append (o : Output) (xs ys : List Emission) :
    o.addAll (xs ++ ys) = (o.addAll xs).addAll ys :=
  List.foldl_append

theorem tables_addAll : (o.addAll ems).tables =
    (ems.flatMap Emission.rows).foldl Tables.insert o.tables := by
  induction ems generalizing o with
  | nil => rfl
  | cons em ems ih =>
    rw [addAll, List.foldl_cons, ← addAll, ih, tables_add, List.flatMap_cons, List.foldl_append]

theorem rows_addAll (table : Table) : (o.addAll ems).tables.rows table =
    grow (o.tables.rows table) ((ems.flatMap Emission.rows).filter (·.table == table)) := by
  rw [tables_addAll, Tables.rows_foldl_insert]

theorem graph_addAll : (o.addAll ems).graph =
    o.graph.grow (ems.flatMap Emission.nodes) (ems.flatMap Emission.edges) := by
  induction ems generalizing o with
  | nil => rfl
  | cons em ems ih =>
    have hadd : (o.add em).graph = o.graph.grow em.nodes em.edges := rfl
    rw [addAll, List.foldl_cons, ← addAll, ih, hadd, OrderGraph.grow_grow, List.flatMap_cons,
      List.flatMap_cons]

theorem references_addAll : (o.addAll ems).references =
    o.references.addAll (ems.flatMap Emission.soft) (ems.flatMap Emission.hard)
      (ems.flatMap Emission.actions) := by
  induction ems generalizing o with
  | nil => rfl
  | cons em ems ih =>
    have hadd : (o.add em).references = o.references.addAll em.soft em.hard em.actions := rfl
    rw [addAll, List.foldl_cons, ← addAll, ih, hadd]
    simp only [References.addAll, List.flatMap_cons, SortedList.insertAll_append]

end Output

end InstallMarkup
