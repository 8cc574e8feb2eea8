import InstallMarkup.Diagnostic.Basic
import InstallMarkup.Proofs.Identifier.Material

/-!
# The line of a diagnostic

What the author sees of a diagnostic is a line: the place, if it is known, then whether it is an
error or a warning, the code and the message. `Diagnostic.Line` says so without the function that
writes the line (`line_display`).

The line holds all there is to know, as long as the source is: of diagnostics in one source,
different ones have different lines (`Line.unique`). The source itself is any text, and could end
like a place of its own, so lines alone do not tell it.

**Proof**: the numerals of a place and the word and the code of a report are followed by marks that
they do not hold, so the line can be taken apart at the first mark of each kind (`split_at_mark`).
-/

namespace InstallMarkup

/-! ## What a line holds -/

/-- What a line opens with: the place, if it is known, with its source, if that is known. -/
inductive SourceLocation.Opens : Option SourceLocation → String → Prop
  | unknown : Opens none ""
  | unnamed (line column : UInt64) :
      Opens (some { line, column })
        (toString line.toNat ++ ":" ++ toString column.toNat ++ ": ")
  | named (line column : UInt64) (source : String) :
      Opens (some { line, column, source })
        (source ++ ":" ++ toString line.toNat ++ ":" ++ toString column.toNat ++ ": ")

/-- The line tells the diagnostic: its place, its severity, its code and its message. -/
inductive Diagnostic.Line (d : Diagnostic) : String → Prop
  | error {opening : String} (hopening : SourceLocation.Opens d.location opening)
      (hseverity : d.severity = .error) :
      Line d (opening ++ "error " ++ d.code.name ++ ": " ++ d.message)
  | warning {opening : String} (hopening : SourceLocation.Opens d.location opening)
      (hseverity : d.severity = .warning) :
      Line d (opening ++ "warning " ++ d.code.name ++ ": " ++ d.message)

namespace Diagnostic

/-- What stands before the report of a diagnostic in its line. -/
def opening (d : Diagnostic) : String :=
  match d.location with
  | some l => l.text ++ ": "
  | none => ""

example : display ⟨.warning, .deprecatedAttribute, "Use ProductCode.", some ⟨3, 17, some "a.wxs"⟩⟩ =
    "a.wxs:3:17: warning DeprecatedAttribute: Use ProductCode." := by
  decide +kernel

end Diagnostic

/-! ## What a line tells -/

/-- The characters of a place up to the report. -/
theorem toList_numerals (line column : UInt64) :
    (toString line.toNat ++ ":" ++ toString column.toNat ++ ": ").toList =
      (toString line.toNat).toList ++ ':' :: ((toString column.toNat).toList ++ [':', ' ']) := by
  simp

/-- Places without a source are told by their numerals, whatever comes after them. -/
theorem numerals_unique {line column line' column' : UInt64} {rest rest' : List Char}
    (h : (toString line.toNat ++ ":" ++ toString column.toNat ++ ": ").toList ++ rest =
      (toString line'.toNat ++ ":" ++ toString column'.toNat ++ ": ").toList ++ rest') :
    line = line' ∧ column = column' ∧ rest = rest' := by
  have hmark : ∀ n : Nat, ':' ∉ (toString n).toList := fun n hmem =>
    absurd (isDigit_of_mem_toString hmem) (by decide)
  rw [toList_numerals, toList_numerals] at h
  simp only [List.append_assoc, List.cons_append, List.nil_append] at h
  obtain ⟨hline, h⟩ := split_at_mark (hmark _) (hmark _) h
  obtain ⟨hcolumn, h⟩ := split_at_mark (hmark _) (hmark _) h
  exact ⟨UInt64.toNat_inj.mp (toString_nat_injective hline),
    UInt64.toNat_inj.mp (toString_nat_injective hcolumn), (List.cons.inj h).2⟩

/-- Openings of one source are told by what they hold, before rests that do not go on with a
numeral. -/
theorem SourceLocation.Opens.unique {place place' : Option SourceLocation}
    {opening opening' : String} {rest rest' : List Char} (h : Opens place opening)
    (h' : Opens place' opening') (hsource : place.bind (·.source) = place'.bind (·.source))
    (hrest : ∀ c ∈ rest.head?, c.isDigit = false) (hrest' : ∀ c ∈ rest'.head?, c.isDigit = false)
    (heq : opening.toList ++ rest = opening'.toList ++ rest') : place = place' ∧ rest = rest' := by
  -- a place opens with a digit, and so it is not the rest of a line without one
  have hdigit : ∀ {line column : UInt64} {more rest : List Char},
      (∀ c ∈ rest.head?, c.isDigit = false) →
        (toString line.toNat ++ ":" ++ toString column.toNat ++ ": ").toList ++ more ≠ rest := by
    rintro line column more rest hrest rfl
    obtain ⟨c, cs, hc, hdigit⟩ := exists_digit_toString line.toNat
    rw [toList_numerals, hc] at hrest
    have hnone := hrest c rfl
    rw [hdigit] at hnone
    cases hnone
  cases h with
  | unknown =>
    cases h' with
    | unknown => exact ⟨rfl, heq⟩
    | unnamed => exact absurd heq.symm (hdigit hrest)
    | named => cases hsource
  | unnamed line column =>
    cases h' with
    | unknown => exact absurd heq (hdigit hrest')
    | unnamed line' column' =>
      obtain ⟨rfl, rfl, hsame⟩ := numerals_unique heq
      exact ⟨rfl, hsame⟩
    | named => cases hsource
  | named line column source =>
    cases h' with
    | unknown => cases hsource
    | unnamed => cases hsource
    | named line' column' source' =>
      obtain rfl : source = source' := Option.some.inj hsource
      have hnumerals :
          (toString line.toNat ++ ":" ++ toString column.toNat ++ ": ").toList ++ rest =
            (toString line'.toNat ++ ":" ++ toString column'.toNat ++ ": ").toList ++ rest' := by
        simpa using heq
      obtain ⟨rfl, rfl, hsame⟩ := numerals_unique hnumerals
      exact ⟨rfl, hsame⟩

namespace Diagnostic

variable {d d' : Diagnostic} {line : String}

/-- The characters of a line after the place. -/
def report (d : Diagnostic) : List Char :=
  d.severity.word.toList ++ ' ' :: (d.code.name.toList ++ ':' :: ' ' :: d.message.toList)

theorem report_head (d : Diagnostic) : ∀ c ∈ d.report.head?, c.isDigit = false := by
  obtain ⟨severity, code, message, location⟩ := d
  cases severity <;> simp [report, Severity.word]

theorem report_injective (h : d.report = d'.report) :
    d.severity = d'.severity ∧ d.code = d'.code ∧ d.message = d'.message := by
  have hword : ∀ severity : Severity, ' ' ∉ severity.word.toList := by
    intro severity
    cases severity <;> decide
  have hname : ∀ code : DiagnosticCode, ':' ∉ code.name.toList := by
    intro code
    cases code <;> decide
  obtain ⟨hseverity, h⟩ := split_at_mark (hword _) (hword _) h
  obtain ⟨hcode, h⟩ := split_at_mark (hname _) (hname _) h
  refine ⟨?_, ?_, String.toList_inj.mp (List.cons.inj h).2⟩
  · revert hseverity
    cases d.severity <;> cases d'.severity <;> decide
  · revert hcode
    cases d.code <;> cases d'.code <;> decide

theorem Line.toList (h : d.Line line) : ∃ opening, SourceLocation.Opens d.location opening ∧
    line.toList = opening.toList ++ d.report := by
  cases h with
  | error hopening hseverity =>
    exact ⟨_, hopening, by simp [report, hseverity, Severity.word]⟩
  | warning hopening hseverity =>
    exact ⟨_, hopening, by simp [report, hseverity, Severity.word]⟩

/-- Of diagnostics in one source, or in none, different ones have different lines. -/
theorem Line.unique (h : d.Line line) (h' : d'.Line line)
    (hsource : d.location.bind (·.source) = d'.location.bind (·.source)) : d = d' := by
  obtain ⟨opening, hopens, hline⟩ := h.toList
  obtain ⟨opening', hopens', hline'⟩ := h'.toList
  obtain ⟨hlocation, hreport⟩ := hopens.unique hopens' hsource d.report_head d'.report_head
    (hline.symm.trans hline')
  obtain ⟨hseverity, hcode, hmessage⟩ := report_injective hreport
  cases d
  cases d'
  simp only at hlocation hseverity hcode hmessage
  rw [hlocation, hseverity, hcode, hmessage]

end Diagnostic

end InstallMarkup
