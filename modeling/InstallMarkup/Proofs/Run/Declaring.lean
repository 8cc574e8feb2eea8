import InstallMarkup.Proofs.Identifier.Material
import InstallMarkup.Proofs.Reading.Complaints
import InstallMarkup.Proofs.Run.Lockstep
import InstallMarkup.Proofs.Run.Sessions

/-!
# Declaring more symbols

Only grants and event sources depend on what a unit declares, and they depend on it in one way: a
symbol that they need and that is not declared is complained about, and then nothing is emitted. So
declaring more symbols takes complaints away and lets more of these elements through, and has no
other effect (`compile_declaring`).

Which complaints go can be read off their messages, since a message about a symbol tells the symbol
(`missingMessage_injective`). The rest is one comparison of two runs over the same tree
(`declaring`): elements that need no symbol come to the same, and of the others one that is accepted
stays accepted, with the same emission (`PermissionGrant.assessOn_of_declared`,
`EventSource.assessment_of_declared`).
-/

namespace InstallMarkup

/-! ## Complaints about symbols -/

/-- The message about a symbol that is not declared. -/
def Symbol.missingMessage (symbol : Symbol) : String :=
  "Unresolved reference to symbol '" ++ symbol.kind.name ++ ":" ++ symbol.id ++ "'."

/-- Whether the diagnostic complains that the symbol is not declared. -/
def Diagnostic.misses (d : Diagnostic) (symbol : Symbol) : Bool :=
  d.code == .undefinedSymbol && d.message == symbol.missingMessage

/-- Whether the diagnostic has a reason left when the symbols are declared. -/
def Diagnostic.outlasts (declared : List Symbol) (d : Diagnostic) : Bool :=
  !declared.any d.misses

theorem SymbolKind.name_injective {kind kind' : SymbolKind} (h : kind.name = kind'.name) :
    kind = kind' := by
  revert h
  cases kind <;> cases kind' <;> decide

/-- A text that quotes a symbol between two fixed parts tells the symbol. -/
theorem Symbol.eq_of_quoted {lead tail : String} {symbol symbol' : Symbol}
    (h : lead ++ symbol.kind.name ++ ":" ++ symbol.id ++ tail =
      lead ++ symbol'.kind.name ++ ":" ++ symbol'.id ++ tail) : symbol = symbol' := by
  obtain ⟨kind, id⟩ := symbol
  obtain ⟨kind', id'⟩ := symbol'
  have htexts : lead.toList ++ (kind.name.toList ++ ':' :: (id.toList ++ tail.toList)) =
      lead.toList ++ (kind'.name.toList ++ ':' :: (id'.toList ++ tail.toList)) := by
    simpa using congrArg String.toList h
  -- the first colon ends the name of the kind
  have hcolon : ∀ kind : SymbolKind, ':' ∉ kind.name.toList := by
    intro kind
    cases kind <;> decide
  obtain ⟨hname, hrest⟩ :=
    split_at_mark (hcolon kind) (hcolon kind') (List.append_cancel_left htexts)
  obtain rfl : kind = kind' := SymbolKind.name_injective (String.toList_inj.mp hname)
  obtain rfl : id = id' := String.toList_inj.mp (List.append_cancel_right hrest)
  rfl

/-- A message tells the symbol that it is about. -/
theorem missingMessage_injective {symbol symbol' : Symbol}
    (h : symbol.missingMessage = symbol'.missingMessage) : symbol = symbol' :=
  Symbol.eq_of_quoted h

theorem misses_undefinedSymbol_iff {symbol symbol' : Symbol} {location : SourceLocation} :
    (Diagnostic.undefinedSymbol symbol.kind.name symbol.id location).misses symbol' = true ↔
      symbol = symbol' := by
  have hmessage : (Diagnostic.undefinedSymbol symbol.kind.name symbol.id location).message =
      symbol.missingMessage := rfl
  have hcode : (Diagnostic.undefinedSymbol symbol.kind.name symbol.id location).code =
      .undefinedSymbol := rfl
  simp only [Diagnostic.misses, hmessage, hcode, BEq.rfl, Bool.true_and, beq_iff_eq]
  exact ⟨missingMessage_injective, congrArg _⟩

/-- How a diagnostic counts has no say in what it complains about. -/
theorem Diagnostic.outlasts_graded (declared : List Symbol) (d : Diagnostic) (strict : Bool) :
    (d.graded strict).outlasts declared = d.outlasts declared := by
  cases strict <;> rfl

theorem outlasts_of_code_ne {declared : List Symbol} {d : Diagnostic}
    (h : d.code ≠ .undefinedSymbol) : d.outlasts declared = true := by
  have hnone : declared.any d.misses = false := by
    rw [List.any_eq_false]
    intro symbol _
    simp [Diagnostic.misses, h]
  rw [Diagnostic.outlasts, hnone, Bool.not_false]

theorem filter_outlasts {declared : List Symbol} {ds : List Diagnostic}
    (h : ∀ d ∈ ds, d.code ≠ .undefinedSymbol) : ds.filter (·.outlasts declared) = ds :=
  List.filter_eq_self.mpr fun d hd => outlasts_of_code_ne (h d hd)

/-! ## Requirements -/

section Requirements

variable {declared declared' : List Symbol} {symbol : Symbol} {location : SourceLocation}

theorem Symbol.require_of_mem (h : symbol ∈ declared) :
    symbol.require declared location = .ok symbol := if_pos h

/-- What a requirement complains about under more declarations is what it complained about before,
if that has a reason left. -/
theorem Symbol.faults_require (h : ∀ s ∈ declared, s ∈ declared') :
    Reading.faults (symbol.require declared' location) =
      (Reading.faults (symbol.require declared location)).filter (·.outlasts declared') := by
  by_cases hmem : symbol ∈ declared
  · rw [require_of_mem hmem, require_of_mem (h symbol hmem)]
    rfl
  · have hraised : Reading.faults (symbol.require declared location) =
        [.undefinedSymbol symbol.kind.name symbol.id location] := by
      rw [Symbol.require, if_neg hmem]
      rfl
    rw [hraised]
    by_cases hmem' : symbol ∈ declared'
    · -- the complaint is about a symbol that is declared now
      have hgone : (Diagnostic.undefinedSymbol symbol.kind.name symbol.id location).outlasts
          declared' = false := by
        rw [Diagnostic.outlasts, List.any_eq_true.mpr
          ⟨symbol, hmem', misses_undefinedSymbol_iff.mpr rfl⟩, Bool.not_true]
      rw [require_of_mem hmem', List.filter_cons_of_neg (by simp [hgone])]
      rfl
    · -- no declared symbol has the same message
      have hstays : (Diagnostic.undefinedSymbol symbol.kind.name symbol.id location).outlasts
          declared' = true := by
        rw [Diagnostic.outlasts, Bool.not_eq_true', List.any_eq_false]
        intro other hother hmisses
        exact hmem' (misses_undefinedSymbol_iff.mp hmisses ▸ hother)
      rw [Symbol.require, if_neg hmem', List.filter_cons_of_pos hstays]
      rfl

end Requirements

/-! ## Elements -/

/-- `a'` is what `a` comes to when the symbols are declared besides: complaints go, and an element
of a component may be accepted that was not. -/
structure Assessment.Declares (declared' : List Symbol) (a a' : Assessment Emission) : Prop where
  raised : a'.raised = a.raised.filter (·.outlasts declared')
  kept : ∀ em, a.value = some em → a'.value = some em
  added : ∀ em, a'.value = some em → a.value = some em ∨ em.OfComponent

section Elements

variable {declared declared' : List Symbol}

/-- What complains about no symbol is the same under any declarations. -/
theorem declares_self {a : Assessment Emission} (h : ∀ d ∈ a.raised, d.code ≠ .undefinedSymbol) :
    a.Declares declared' a where
  raised := (filter_outlasts h).symm
  kept := fun _ hem => hem
  added := fun _ hem => .inl hem

namespace PermissionGrant

variable {config : Config} {target : GrantTarget} {objectId componentId : String} {e : Element}

/-- A grant asks for its two symbols only. -/
theorem assessOn_of_declared (hobject : ⟨target.symbol, objectId⟩ ∈ declared)
    (hcomponent : ⟨.component, componentId⟩ ∈ declared)
    (hobject' : ⟨target.symbol, objectId⟩ ∈ declared')
    (hcomponent' : ⟨.component, componentId⟩ ∈ declared') :
    assessOn config declared' target objectId componentId e =
      assessOn config declared target objectId componentId e := by
  rw [assessOn_eq_match, assessOn_eq_match, faults, faults, Symbol.require_of_mem hobject,
    Symbol.require_of_mem hobject', Symbol.require_of_mem hcomponent,
    Symbol.require_of_mem hcomponent']

theorem faults_of_declares (h : ∀ s ∈ declared, s ∈ declared') :
    faults config declared' target objectId componentId e =
      (faults config declared target objectId componentId e).filter (·.outlasts declared') := by
  have hmarkup : (markupFaults target objectId e).filter (·.outlasts declared') =
      markupFaults target objectId e :=
    filter_outlasts fun d hd => (complaint_of_mem_markupFaults hd).code_ne.1
  have haction : (Reading.faults (NativeAction.secureObjects.require config element
      e.location)).filter (·.outlasts declared') =
        Reading.faults (NativeAction.secureObjects.require config element e.location) := by
    refine filter_outlasts ?_
    intro d hd
    unfold NativeAction.require at hd
    split at hd
    · cases hd
    · obtain rfl := List.mem_singleton.mp hd
      rintro ⟨⟩
  rw [faults_eq, faults_eq, List.filter_append, List.filter_append, List.filter_append, hmarkup,
    haction, Symbol.faults_require h, Symbol.faults_require h]

theorem declares_assessOn (h : ∀ s ∈ declared, s ∈ declared') :
    (assessOn config declared target objectId componentId e).Declares declared'
      (assessOn config declared' target objectId componentId e) where
  raised := by
    rw [raised_assessOn, raised_assessOn]
    exact faults_of_declares h
  kept := by
    intro em hem
    obtain ⟨g, rfl⟩ := accepted_of_value hem
    rw [← hem, assessOn_of_declared g.object_declared g.component_declared
      (h _ g.object_declared) (h _ g.component_declared)]
  added := by
    intro em hem
    obtain ⟨g, rfl⟩ := accepted_of_value hem
    exact .inr (.grant g.row _ _ g.action)

end PermissionGrant

namespace EventSource

variable {strict : Bool} {componentId : String} {e : Element}

/-- An event source asks for its component only. -/
theorem assessment_of_declared (hcomponent : ⟨.component, componentId⟩ ∈ declared)
    (hcomponent' : ⟨.component, componentId⟩ ∈ declared') :
    assessment strict declared' componentId e = assessment strict declared componentId e := by
  unfold assessment
  rw [faults_eq, faults_eq, Symbol.require_of_mem hcomponent, Symbol.require_of_mem hcomponent']

theorem faults_of_declares (h : ∀ s ∈ declared, s ∈ declared') :
    faults declared' componentId e =
      (faults declared componentId e).filter (·.outlasts declared') := by
  have hmarkup : (markupFaults e).filter (·.outlasts declared') = markupFaults e :=
    filter_outlasts fun d hd => (complaint_of_mem_markupFaults hd).code_ne.1
  rw [faults_eq, faults_eq, List.filter_append, hmarkup, Symbol.faults_require h]

theorem declares_assessment (h : ∀ s ∈ declared, s ∈ declared') :
    (assessment strict declared componentId e).Declares declared'
      (assessment strict declared' componentId e) where
  raised := by
    rw [raised_assessment, raised_assessment]
    exact faults_of_declares h
  kept := by
    intro em hem
    obtain ⟨source, rfl⟩ := accepted_of_value hem
    rw [← hem, assessment_of_declared source.component_declared (h _ source.component_declared)]
  added := by
    intro em hem
    obtain ⟨source, rfl⟩ := accepted_of_value hem
    exact .inr (.eventSource source.rows _)

end EventSource

end Elements

/-- Searches ask for no symbol, so those around the ones nested in them have the same
identifiers. -/
def declaring (config : Config) {declared declared' : List Symbol}
    (h : ∀ s ∈ declared, s ∈ declared') :
    Lockstep { config, declared } { config, declared := declared' } :=
  Lockstep.sameTree Eq (Assessment.Declares declared')
    (by
      intro enclosure e
      exact declares_self fun d hd => (complaint_of_mem_misplaced hd).code_ne.1)
    (by
      intro e placement placement' halike kind
      obtain rfl := halike.eq
      refine ⟨declares_self ?_, rfl⟩
      intro d hd
      exact (PlacedSearch.complaint_of_mem_faults hd).code_ne.1)
    (by
      intro e kind
      refine declares_self ?_
      intro d hd
      rw [SearchReference.raised_assess] at hd
      exact (SearchReference.complaint_of_mem_faults hd).code_ne.1)
    (by
      intro e target objectId componentId
      exact PermissionGrant.declares_assessOn h)
    (by
      intro e componentId
      exact EventSource.declares_assessment h)

/-! ## Compiled units -/

section Visits

variable {declared' : List Symbol} {visits visits' : List (Assessment Emission)}
  (h : List.Forall₂ (Assessment.Declares declared') visits visits')
include h

theorem raised_of_declares : visits'.flatMap (·.raised) =
    (visits.flatMap (·.raised)).filter (·.outlasts declared') := by
  rw [List.filter_flatMap]
  exact (flatMap_eq_of_forall₂ h fun _ _ ha => ha.raised.symm).symm

theorem mem_values_of_declares {em : Emission} (hem : em ∈ visits.filterMap (·.value)) :
    em ∈ visits'.filterMap (·.value) := by
  induction h with
  | nil => cases hem
  | @cons a a' rest rest' ha _ ih =>
    obtain ⟨b, hb, hvalue⟩ := List.mem_filterMap.mp hem
    rcases List.mem_cons.mp hb with rfl | hb
    · exact List.mem_filterMap.mpr ⟨a', List.mem_cons_self, ha.kept em hvalue⟩
    · obtain ⟨b', hb', hvalue'⟩ :=
        List.mem_filterMap.mp (ih (List.mem_filterMap.mpr ⟨b, hb, hvalue⟩))
      exact List.mem_filterMap.mpr ⟨b', List.mem_cons_of_mem a' hb', hvalue'⟩

theorem mem_flatMap_of_declares {β : Type} {f : Emission → List β} {x : β}
    (hx : x ∈ (visits.filterMap (·.value)).flatMap f) :
    x ∈ (visits'.filterMap (·.value)).flatMap f := by
  obtain ⟨em, hem, hx⟩ := List.mem_flatMap.mp hx
  exact List.mem_flatMap.mpr ⟨em, mem_values_of_declares h hem, hx⟩

/-- What elements of components have no part in is the same under more declarations. -/
theorem flatMap_eq_of_declares {β : Type} {f : Emission → List β}
    (hf : ∀ em, em.OfComponent → f em = []) :
    (visits.filterMap (·.value)).flatMap f = (visits'.filterMap (·.value)).flatMap f := by
  rw [List.filterMap_eq_flatMap_toList, List.filterMap_eq_flatMap_toList, List.flatMap_assoc,
    List.flatMap_assoc]
  refine flatMap_eq_of_forall₂ h ?_
  intro a a' ha
  cases hvalue : a.value with
  | some em => rw [ha.kept em hvalue]
  | none =>
    cases hvalue' : a'.value with
    | none => rfl
    | some em =>
      -- only an element of a component can have been accepted besides
      rcases ha.added em hvalue' with hsame | hcomponent
      · rw [hvalue] at hsame
        cases hsame
      · simp [hf em hcomponent]

end Visits

namespace CompiledUnit

/-- `u'` is what `u` comes to when the symbols are declared besides. -/
structure Declares (declared' : List Symbol) (u u' : CompiledUnit) : Prop where
  edges : u'.edges = u.edges
  soft : u'.references.soft = u.references.soft
  /-- Only grants and registry values depend on symbols. -/
  rows : ∀ table, table ≠ .permissionGrant → table ≠ .registry →
    u'.tables.rows table = u.tables.rows table
  kept : ∀ table, ∀ row ∈ u.tables.rows table, row ∈ u'.tables.rows table
  hard : ∀ symbol ∈ u.references.hard, symbol ∈ u'.references.hard
  actions : ∀ name ∈ u.references.actions, name ∈ u'.references.actions
  /-- The complaints that symbols are missing go, if they are among the declared; the others stay,
  in their order. -/
  diagnostics : u'.diagnostics = u.diagnostics.filter (·.outlasts declared')

/-- Visits that come to what they do under more declarations leave such a unit behind. -/
theorem declares_ofVisits (name : String) (config : Config) {declared' : List Symbol}
    {visits visits' : List (Assessment Emission)}
    (h : List.Forall₂ (Assessment.Declares declared') visits visits') :
    Declares declared' (ofVisits name config visits) (ofVisits name config visits') := by
  refine ⟨?edges, ?soft, ?rows, ?kept, ?hard, ?actions, ?diagnostics⟩
  case edges =>
    rw [edges_ofVisits, edges_ofVisits, flatMap_eq_of_declares h]
    rintro em ⟨⟩ <;> rfl
  case soft =>
    rw [references_ofVisits, references_ofVisits]
    refine congrArg (SortedList.insertAll SoftReference.before · [])
      (flatMap_eq_of_declares h ?_).symm
    rintro em ⟨⟩ <;> rfl
  case rows =>
    intro table hgrant hregistry
    rw [rows_ofVisits, rows_ofVisits, List.filter_flatMap, List.filter_flatMap,
      flatMap_eq_of_declares h]
    -- the rows of an element of a component lie in one of the two tables
    rintro em ⟨⟩
    · exact List.filter_cons_of_neg (by simpa [Row.table] using hgrant.symm)
    · rw [Emission.rows, List.filter_eq_nil_iff]
      intro row hrow
      obtain ⟨value, -, rfl⟩ := List.mem_map.mp hrow
      simpa [Row.table] using hregistry.symm
  case kept =>
    intro table row hrow
    rw [rows_ofVisits, List.filter_flatMap, mem_grow] at hrow ⊢
    exact hrow.imp_right (mem_flatMap_of_declares h)
  case hard =>
    intro symbol hsymbol
    rw [references_ofVisits, References.mem_hard_addAll] at hsymbol ⊢
    exact hsymbol.imp_right (mem_flatMap_of_declares h)
  case actions =>
    intro action haction
    rw [references_ofVisits, References.mem_actions_addAll] at haction ⊢
    exact haction.imp_right (mem_flatMap_of_declares h)
  case diagnostics =>
    rw [diagnostics_ofVisits, diagnostics_ofVisits, raised_of_declares h, List.filter_map]
    refine congrArg _ (List.filter_congr fun d _ => ?_)
    exact (d.outlasts_graded declared' config.warningsAsErrors).symm

end CompiledUnit

/-- Declaring more symbols takes away the complaints about them and lets more grants and event
sources through; faults, searches and all other complaints stay as they are. -/
theorem compile_declaring (unit : CompilationUnit) (config : Config)
    {declared declared' : List Symbol} (h : ∀ symbol ∈ declared, symbol ∈ declared') :
    EndAlike (· = ·) (CompiledUnit.Declares declared')
      ({ unit with declared := declared }.compile config)
      ({ unit with declared := declared' }.compile config) := by
  have hitems := (declaring config h).items_self (fun e => rfl) unit.items
  have hend := @Lockstep.compileWith { unit with declared := declared }
    { unit with declared := declared' } config config (declaring config h) hitems .full
  refine hend.imp ?_ ?_
  · intro fault fault' _ _ hfault
    exact hfault
  · rintro u u' ⟨hvisits, rfl, rfl⟩
    exact CompiledUnit.declares_ofVisits unit.name config hvisits

/-- A grant of reading on a file, and an event source of the same component. -/
def grantedSource : CompilationUnit where
  name := "unit"
  items := [
    { host := grantedFile, element := readGrant },
    { host := { kind := .component, values := [("ComponentId", "App")] }
      element :=
        { name := "EventSource"
          attributes := [⟨"Name", "App", {}⟩, ⟨"Log", "Application", {}⟩,
            ⟨"EventMessageFile", "[#App.exe]", {}⟩] } }]

/-- With the file alone declared, both are refused for the component; declaring that too, and the
file twice, lets both through. -/
theorem compile_declaring_component :
    let declared : List Symbol := [⟨.file, "App.exe"⟩]
    let declared' : List Symbol := [⟨.component, "App"⟩, ⟨.file, "App.exe"⟩, ⟨.file, "App.exe"⟩]
    (∀ symbol ∈ declared, symbol ∈ declared') ∧
      EndAlike (· = ·) (CompiledUnit.Declares declared')
        ({ grantedSource with declared := declared }.compile {})
        ({ grantedSource with declared := declared' }.compile {}) ∧
      ({ grantedSource with declared := declared }.compile {}).map
          (fun u : CompiledUnit =>
            (u.diagnostics.map Diagnostic.message, u.tables.size, u.references.hard)) =
        .ok (["Unresolved reference to symbol 'Component:App'.",
          "Unresolved reference to symbol 'Component:App'."], 0, []) ∧
      ({ grantedSource with declared := declared' }.compile {}).map
          (fun u : CompiledUnit =>
            (u.diagnostics.map Diagnostic.message, u.tables.size, u.references.hard)) =
        .ok ([], 2, [⟨.component, "App"⟩, ⟨.file, "App.exe"⟩]) :=
  ⟨by decide, compile_declaring grantedSource {} (by decide), by decide +kernel,
    by decide +kernel⟩

end InstallMarkup
