import InstallMarkup.Diagnostic.Basic

/-!
# Assessments

What checking a piece of markup comes to: the diagnostics that it raised, in order and with the
severity they were raised with, and the value that was read from it, if any. Whether the diagnostics
leave the value usable depends on the run: `Assessment.clean` says it.
-/

namespace InstallMarkup

/-- Diagnostics and perhaps a value. -/
structure Assessment (α : Type) where
  raised : List Diagnostic := []
  value : Option α := none
  deriving Repr, DecidableEq

namespace Assessment

variable {α : Type}

/-- Diagnostics, and no value. -/
def rejected (raised : List Diagnostic) : Assessment α := ⟨raised, none⟩

/-- The same diagnostics with the value changed. -/
def map {β : Type} (f : α → β) (a : Assessment α) : Assessment β := ⟨a.raised, a.value.map f⟩

/-- Whether none of the diagnostics counts as an error. When warnings count as errors (`strict`),
that is when there are none. -/
def clean (strict : Bool) (raised : List Diagnostic) : Bool :=
  raised.all fun d => !(d.graded strict).isError

end Assessment

end InstallMarkup
