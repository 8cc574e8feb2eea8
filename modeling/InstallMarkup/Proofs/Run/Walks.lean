import InstallMarkup.Compile
import InstallMarkup.Proofs.Run.Output

/-!
# What a run comes to

A walk is decided before anything of it is taken, and taking it never fails by itself. So a run is
its walk:

* **runs follow walks**: dispatching an element takes all visits of its walk and reports the fault
  of the walk (`dispatch_eq`), and a whole unit is one walk over its items (`dispatchAll_eq`,
  `compileWith_eq`);
* **visits add up**: what visits leave behind is the diagnostics of all of them and the emissions
  of those that were accepted, after what was there (`UnitState.absorb`);
* **visits go by themselves**: what each visit has in its enclosure, all visits of a walk have
  (`forall_mem_walk`, `forall_mem_walkItems`).
-/

namespace InstallMarkup

/-! ## Walks in sequence -/

namespace Walk

theorem andThen_of_fault {first : Walk} {fault : CompileFault} (h : first.fault = some fault)
    (second : Walk) : first.andThen second = first := by
  simp only [andThen, h]

theorem andThen_of_finished {first : Walk} (h : first.fault = none) (second : Walk) :
    first.andThen second = ⟨first.visits ++ second.visits, second.fault⟩ := by
  simp only [andThen, h]

theorem fault_andThen_eq_none {first second : Walk} :
    (first.andThen second).fault = none ↔ first.fault = none ∧ second.fault = none := by
  cases h : first.fault with
  | none => simp [andThen_of_finished h]
  | some fault => simp [andThen_of_fault h, h]

/-- No visit of a walk in two parts is new. -/
theorem mem_visits_of_andThen {first second : Walk} {a : Assessment Emission}
    (h : a ∈ (first.andThen second).visits) : a ∈ first.visits ∨ a ∈ second.visits := by
  cases hfault : first.fault with
  | none =>
    rw [andThen_of_finished hfault] at h
    exact List.mem_append.mp h
  | some fault =>
    rw [andThen_of_fault hfault] at h
    exact .inl h

theorem andThen_assoc (first second third : Walk) :
    (first.andThen second).andThen third = first.andThen (second.andThen third) := by
  cases hfirst : first.fault with
  | some fault =>
    -- nothing after `first` takes place on either side
    rw [andThen_of_fault hfirst, andThen_of_fault hfirst, andThen_of_fault hfirst]
  | none =>
    rw [andThen_of_finished hfirst, andThen_of_finished hfirst]
    cases hsecond : second.fault with
    | some fault =>
      rw [andThen_of_fault hsecond]
      simp only [andThen, hsecond]
    | none =>
      rw [andThen_of_finished hsecond]
      simp only [andThen, List.append_assoc]

end Walk

/-! ## Walks over trees -/

section Trees

variable {setting : Setting} {v : Vocabulary} {enclosure : Enclosure} {e : Element}

theorem walk_of_error {fault : CompileFault} (h : e.visit setting v enclosure = .error fault) :
    e.walk setting v enclosure = .stopped fault := by
  cases e
  rw [Element.walk, h]

theorem walk_of_leaf {a : Assessment Emission} (h : e.visit setting v enclosure = .ok (a, none)) :
    e.walk setting v enclosure = .visit a .nothing := by
  cases e
  rw [Element.walk, h]

theorem walk_of_nest {a : Assessment Emission} {inner : Enclosure}
    (h : e.visit setting v enclosure = .ok (a, some inner)) :
    e.walk setting v enclosure = .visit a (walkAll setting v inner e.children) := by
  cases e
  rw [Element.walk, h]

/-- Induction along a walk: an element that stops it, one without visited children, one whose
children are visited in an enclosure of their own, and lists of elements. -/
theorem walk_induction (setting : Setting) (v : Vocabulary) {P : Enclosure → Element → Prop}
    {Q : Enclosure → List Element → Prop}
    (stopped : ∀ enclosure e fault, e.visit setting v enclosure = .error fault → P enclosure e)
    (leaf : ∀ enclosure e a, e.visit setting v enclosure = .ok (a, none) → P enclosure e)
    (nest : ∀ enclosure e a inner, e.visit setting v enclosure = .ok (a, some inner) →
      Q inner e.children → P enclosure e)
    (nil : ∀ enclosure, Q enclosure [])
    (cons : ∀ enclosure e rest, P enclosure e → Q enclosure rest → Q enclosure (e :: rest)) :
    ∀ enclosure e, P enclosure e := by
  refine Element.walk.induct setting v P Q ?_ ?_ ?_ nil cons
  · intro enclosure name attributes children location fault h
    exact stopped enclosure _ fault h
  · intro enclosure name attributes children location a h
    exact leaf enclosure _ a h
  · intro enclosure name attributes children location a inner h hchildren
    exact nest enclosure _ a inner h hchildren

/-- What holds of every visit in enclosures of some sort holds of all visits of a walk that starts
in one, if visits lead from such enclosures only to such enclosures. -/
theorem forall_mem_walk {I : Enclosure → Prop} {R : Assessment Emission → Prop}
    (hvisit : ∀ (enclosure : Enclosure) (e : Element) a inner, I enclosure →
      e.visit setting v enclosure = .ok (a, inner) → R a ∧ ∀ nested ∈ inner, I nested) :
    ∀ (enclosure : Enclosure) (e : Element), I enclosure →
      ∀ a ∈ (e.walk setting v enclosure).visits, R a := by
  refine walk_induction setting v
    (Q := fun enclosure es => I enclosure → ∀ a ∈ (walkAll setting v enclosure es).visits, R a)
    ?stopped ?leaf ?nest ?nil ?cons
  case stopped =>
    intro enclosure e fault h _ a ha
    rw [walk_of_error h] at ha
    cases ha
  case leaf =>
    intro enclosure e a h hin
    rw [walk_of_leaf h]
    exact List.forall_mem_singleton.mpr (hvisit enclosure e a none hin h).1
  case nest =>
    intro enclosure e a inner h ih hin
    obtain ⟨ha, hinner⟩ := hvisit enclosure e a (some inner) hin h
    rw [walk_of_nest h]
    exact List.forall_mem_cons.mpr ⟨ha, ih (hinner inner rfl)⟩
  case nil =>
    intro enclosure _ a ha
    cases ha
  case cons =>
    intro enclosure e rest ihe ihrest hin a ha
    rw [walkAll] at ha
    rcases Walk.mem_visits_of_andThen ha with ha | ha
    · exact ihe hin a ha
    · exact ihrest hin a ha

end Trees

/-- The walk over the items of a unit in order, up to the first that stops it. -/
def walkItems (setting : Setting) (v : Vocabulary) : List UnitItem → Walk
  | [] => .nothing
  | item :: rest =>
    (item.element.walk setting v (.host item.host)).andThen (walkItems setting v rest)

theorem walkItems_append (setting : Setting) (v : Vocabulary) (as bs : List UnitItem) :
    walkItems setting v (as ++ bs) = (walkItems setting v as).andThen (walkItems setting v bs) := by
  induction as with
  | nil => rfl
  | cons item as ih =>
    rw [List.cons_append, walkItems, ih, walkItems, Walk.andThen_assoc]

/-- What holds of all visits of the walks from hosts holds of all visits over items. -/
theorem forall_mem_walkItems {setting : Setting} {v : Vocabulary} {R : Assessment Emission → Prop}
    (hwalk : ∀ (h : Host) (e : Element), ∀ a ∈ (e.walk setting v (.host h)).visits, R a)
    (items : List UnitItem) : ∀ a ∈ (walkItems setting v items).visits, R a := by
  induction items with
  | nil => exact fun a ha => absurd ha List.not_mem_nil
  | cons item rest ih =>
    intro a ha
    rw [walkItems] at ha
    rcases Walk.mem_visits_of_andThen ha with ha | ha
    · exact hwalk item.host item.element a ha
    · exact ih a ha

/-! ## Runs follow walks -/

theorem DiagnosticLog.recordAll_append (log : DiagnosticLog) (xs ys : List Diagnostic) :
    log.recordAll (xs ++ ys) = (log.recordAll xs).recordAll ys :=
  List.foldl_append

namespace UnitState

/-- The state with visits taken: all that they raised, and what the accepted ones emit. -/
def absorb (s : UnitState) (visits : List (Assessment Emission)) : UnitState where
  log := s.log.recordAll (visits.flatMap (·.raised))
  output := s.output.addAll (visits.filterMap (·.value))

theorem absorb_append (s : UnitState) (xs ys : List (Assessment Emission)) :
    s.absorb (xs ++ ys) = (s.absorb xs).absorb ys := by
  simp only [absorb, List.flatMap_append, List.filterMap_append, DiagnosticLog.recordAll_append,
    Output.addAll_append]

theorem strict_absorb (s : UnitState) (visits : List (Assessment Emission)) :
    (s.absorb visits).log.strict = s.log.strict :=
  DiagnosticLog.strict_recordAll _ _

/-- What visits add to the log: all that they raised, as it counts. -/
theorem entries_absorb (s : UnitState) (visits : List (Assessment Emission)) :
    (s.absorb visits).log.entries =
      s.log.entries ++ (visits.flatMap (·.raised)).map (·.graded s.log.strict) :=
  DiagnosticLog.entries_recordAll _ _

/-- Taking a visit never fails. -/
theorem take_eq (s : UnitState) (a : Assessment Emission) : s.take a = .ok (s.absorb [a]) := by
  obtain ⟨raised, value⟩ := a
  cases value with
  | none => simp [take, absorb, Output.addAll]
  | some em =>
    simp only [take, Emission.emit_eq]
    simp [absorb, Output.addAll]

theorem takeAll_eq (s : UnitState) (visits : List (Assessment Emission)) :
    s.takeAll visits = (s.absorb visits, none) := by
  induction visits generalizing s with
  | nil => rfl
  | cons a rest ih =>
    -- no visit fails, so none cuts the list short
    simp only [takeAll, take_eq, ih]
    rw [← absorb_append, List.singleton_append]

theorem follow_eq (s : UnitState) (w : Walk) : s.follow w = (s.absorb w.visits, w.fault) := by
  simp only [follow, takeAll_eq]

/-- Dispatching an element takes its whole walk and reports the fault that stopped the walk. -/
theorem dispatch_eq (s : UnitState) (setting : Setting) (v : Vocabulary) (enclosure : Enclosure)
    (e : Element) : s.dispatch setting v enclosure e =
      (s.absorb (e.walk setting v enclosure).visits, (e.walk setting v enclosure).fault) :=
  s.follow_eq _

theorem dispatchAll_eq (s : UnitState) (setting : Setting) (v : Vocabulary)
    (items : List UnitItem) : s.dispatchAll setting v items =
      (s.absorb (walkItems setting v items).visits, (walkItems setting v items).fault) := by
  induction items generalizing s with
  | nil => rfl
  | cons item rest ih =>
    rw [dispatchAll, dispatch_eq, walkItems]
    cases hfault : (item.element.walk setting v (.host item.host)).fault with
    | none =>
      -- the rest is taken from the state that this item leaves
      simp only [ih]
      rw [Walk.andThen_of_finished hfault, absorb_append]
    | some fault =>
      -- the rest is not taken at all
      rw [Walk.andThen_of_fault hfault, hfault]

end UnitState

/-- The compiled unit that visits leave behind when they are taken from the start. -/
def CompiledUnit.ofVisits (name : String) (config : Config)
    (visits : List (Assessment Emission)) : CompiledUnit :=
  .ofState name ((UnitState.start config).absorb visits)

namespace CompilationUnit

variable (unit : CompilationUnit) (config : Config) (v : Vocabulary)

/-- The walk that compiling a unit takes. -/
def walk : Walk := walkItems { config, declared := unit.declared } v unit.items

/-- A unit compiles unless its walk is stopped, and then to what the visits leave behind. -/
theorem compileWith_eq : unit.compileWith config v =
    match (unit.walk config v).fault with
    | some fault => .error fault
    | none => .ok (.ofVisits unit.name config (unit.walk config v).visits) := by
  simp only [compileWith, UnitState.dispatchAll_eq, walk]
  cases (walkItems { config, declared := unit.declared } v unit.items).fault <;> rfl

theorem of_compileWith_eq_ok {u : CompiledUnit} (h : unit.compileWith config v = .ok u) :
    (unit.walk config v).fault = none ∧
      u = .ofVisits unit.name config (unit.walk config v).visits := by
  rw [compileWith_eq] at h
  split at h
  · cases h
  · rename_i hfault
    exact ⟨hfault, (Except.ok.inj h).symm⟩

end CompilationUnit

end InstallMarkup
