import InstallMarkup.Proofs.Run.Ordering

/-!
# What sessions write

A session dispatches elements one after the other, in any places, and goes on where a dispatch was
stopped. Whatever it does, its output is that of the start with emissions added, each of which comes
from an accepted element (`source_of_mem_walk`). So a property of outputs holds in every state that
can be reached as soon as the emissions of accepted elements keep it (`output_induction`).
-/

namespace InstallMarkup

variable {setting : Setting} {v : Vocabulary}

/-- A visit emits nothing but what comes from accepted elements. -/
def Assessment.Sourced (setting : Setting) (a : Assessment Emission) : Prop :=
  ∀ em, a.value = some em → em.Source setting

/-- Every visit of a walk emits what comes from accepted elements. -/
theorem sourced_of_mem_walk (enclosure : Enclosure) (e : Element) :
    ∀ a ∈ (e.walk setting v enclosure).visits, a.Sourced setting := by
  refine forall_mem_walk (I := fun _ => True) ?_ enclosure e trivial
  intro enclosure e a inner _ hvisit
  exact ⟨fun em hem => source_of_visit hvisit hem, fun nested _ => trivial⟩

theorem source_of_mem_walk {enclosure : Enclosure} {e : Element} {em : Emission}
    (h : em ∈ (e.walk setting v enclosure).visits.filterMap (·.value)) : em.Source setting := by
  obtain ⟨a, ha, hem⟩ := List.mem_filterMap.mp h
  exact sourced_of_mem_walk enclosure e a ha em hem

theorem source_of_mem_walkItems {items : List UnitItem} {em : Emission}
    (h : em ∈ (walkItems setting v items).visits.filterMap (·.value)) : em.Source setting := by
  obtain ⟨a, ha, hem⟩ := List.mem_filterMap.mp h
  exact forall_mem_walkItems (fun h e => sourced_of_mem_walk (.host h) e) items a ha em hem

namespace UnitState

/-- What holds of the empty output, and is kept when an accepted element is emitted, holds in every
state that a session leads to. -/
theorem output_induction {P : Output → Prop} (hempty : P {})
    (hadd : ∀ o em, P o → em.Source setting → P (o.add em)) (steps : List (Enclosure × Element)) :
    P ((start setting.config).session setting v steps).output := by
  refine session_induction hempty ?_
  intro step _ em hem o ho
  exact hadd o em ho (source_of_mem_walk hem)

end UnitState

/-! ## A grant to try things on -/

/-- A grant of reading on a file. -/
def readGrant : Element where
  name := "PermissionEx"
  attributes := [⟨"User", "Everyone", {}⟩, ⟨"Read", "yes", {}⟩]

/-- A file of a component, with the ids of both. -/
def grantedFile : Host where
  kind := .file
  values := [("FileId", "App.exe"), ("ComponentId", "App")]

/-- The setting in which the file and the component are declared. -/
def grantSetting : Setting where
  declared := [⟨.file, "App.exe"⟩, ⟨.component, "App"⟩]

end InstallMarkup
