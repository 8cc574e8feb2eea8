import Mathlib.Data.List.Nodup
import Mathlib.Data.List.Induction

/-!
# Lists that grow by what is new

Rows, nodes and edges are kept in lists to which an element is added at the end, unless it is there
already. `grow l new` adds the elements of `new` one after the other. The facts below say what such
a list comes to:

* **membership**: it has the elements of both lists (`mem_grow`), and none twice if it had none
  twice before (`nodup_grow`);
* **separation**: what it adds to `l` is what it would add to the empty list, less the elements of
  `l`, in the same order (`grow_eq_append_filter`). So growing from two different lists differs by a
  filter only;
* **views**: filtering commutes with growing, and so does mapping by an injective function
  (`filter_grow`, `map_grow`);
* **histories**: what grows out of nothing are the first occurrences (`grow_nil_eq_eraseDups`). What
  the elements of a history come to may depend on those before them; one element more adds what it
  comes to after all others (`filterMap_take_concat`).
-/

namespace InstallMarkup

variable {α β : Type} [DecidableEq α] [DecidableEq β]

/-- Adds the elements of `new` to the end of `l` in order, each unless it is there already. -/
def grow (l new : List α) : List α :=
  new.foldl (fun l a => if a ∈ l then l else l ++ [a]) l

@[simp] theorem grow_nil (l : List α) : grow l [] = l := rfl

theorem grow_cons (l : List α) (a : α) (new : List α) :
    grow l (a :: new) = grow (if a ∈ l then l else l ++ [a]) new := rfl

theorem grow_append (l xs ys : List α) : grow l (xs ++ ys) = grow (grow l xs) ys :=
  List.foldl_append

theorem grow_singleton (l : List α) (a : α) :
    grow l [a] = if a ∈ l then l else l ++ [a] := rfl

/-! ## Membership -/

@[simp] theorem mem_grow {l new : List α} {x : α} : x ∈ grow l new ↔ x ∈ l ∨ x ∈ new := by
  induction new generalizing l with
  | nil => simp
  | cons a new ih =>
    rw [grow_cons, ih]
    by_cases ha : a ∈ l
    · rw [if_pos ha, List.mem_cons]
      constructor
      · rintro (h | h)
        · exact .inl h
        · exact .inr (.inr h)
      · rintro (h | rfl | h)
        · exact .inl h
        · exact .inl ha
        · exact .inr h
    · rw [if_neg ha, List.mem_append, List.mem_singleton, List.mem_cons, or_assoc]

theorem nodup_grow {l : List α} (h : l.Nodup) (new : List α) : (grow l new).Nodup := by
  induction new generalizing l with
  | nil => exact h
  | cons a new ih =>
    rw [grow_cons]
    split
    · exact ih h
    · rename_i ha
      refine ih (List.nodup_append.mpr ⟨h, List.nodup_singleton a, ?_⟩)
      rintro x hx y hy rfl
      exact ha (List.mem_singleton.mp hy ▸ hx)

/-- A list without repeats is what grows out of its own elements. -/
theorem grow_nil_of_nodup {l : List α} (h : l.Nodup) : grow [] l = l := by
  induction l using List.reverseRecOn with
  | nil => rfl
  | append_singleton l a ih =>
    obtain ⟨hl, -, hdisjoint⟩ := List.nodup_append.mp h
    have ha : a ∉ l := fun hmem => hdisjoint a hmem a (List.mem_singleton.mpr rfl) rfl
    rw [grow_append, ih hl, grow_singleton, if_neg ha]

/-! ## Separation -/

/-- What growing adds depends on the list only through a filter. -/
theorem grow_eq_append_filter (l new : List α) :
    grow l new = l ++ (grow [] new).filter (fun a => a ∉ l) := by
  -- from the right, so that both sides meet the last element after the same elements
  induction new using List.reverseRecOn with
  | nil => simp
  | append_singleton new a ih =>
    rw [grow_append, grow_append, grow_singleton, grow_singleton]
    by_cases hnew : a ∈ new
    · rw [if_pos (mem_grow.mpr (.inr hnew)), if_pos (mem_grow.mpr (.inr hnew)), ih]
    · have hempty : a ∉ grow [] new := by simp [hnew]
      rw [if_neg hempty, List.filter_append]
      by_cases hl : a ∈ l
      · rw [if_pos (mem_grow.mpr (.inl hl)), ih]
        simp [hl]
      · have hgrown : a ∉ grow l new := by simp [hl, hnew]
        rw [if_neg hgrown, ih]
        simp [hl]

/-! ## Views -/

theorem filter_grow (p : α → Bool) (l new : List α) :
    (grow l new).filter p = grow (l.filter p) (new.filter p) := by
  induction new generalizing l with
  | nil => rfl
  | cons a new ih =>
    rw [grow_cons, ih]
    by_cases hp : p a = true
    · rw [List.filter_cons_of_pos hp, grow_cons]
      by_cases ha : a ∈ l
      · rw [if_pos ha, if_pos (List.mem_filter.mpr ⟨ha, hp⟩)]
      · rw [if_neg ha, if_neg fun h => ha (List.mem_filter.mp h).1, List.filter_append,
          List.filter_cons_of_pos hp, List.filter_nil]
    · -- an element out of view changes neither side
      rw [List.filter_cons_of_neg hp]
      split
      · rfl
      · rw [List.filter_append, List.filter_cons_of_neg hp, List.filter_nil, List.append_nil]

theorem map_grow {f : α → β} (hf : Function.Injective f) (l new : List α) :
    (grow l new).map f = grow (l.map f) (new.map f) := by
  induction new generalizing l with
  | nil => rfl
  | cons a new ih =>
    rw [grow_cons, ih, List.map_cons, grow_cons]
    -- membership is all that growing asks for
    have hmem : f a ∈ l.map f ↔ a ∈ l := List.mem_map_of_injective hf
    by_cases ha : a ∈ l
    · rw [if_pos ha, if_pos (hmem.mpr ha)]
    · rw [if_neg ha, if_neg fun h => ha (hmem.mp h), List.map_append, List.map_singleton]

/-! ## Histories -/

/-- What grows out of nothing are the first occurrences. -/
theorem grow_nil_eq_eraseDups (l : List α) : grow [] l = l.eraseDups := by
  -- from the right: the last element counts if it has not occurred before
  induction l using List.reverseRecOn with
  | nil => rfl
  | append_singleton l a ih =>
    rw [grow_append, grow_singleton, ih, List.eraseDups_append]
    by_cases ha : a ∈ l
    · rw [if_pos (List.mem_eraseDups.mpr ha)]
      simp [List.removeAll, ha]
    · rw [if_neg fun h => ha (List.mem_eraseDups.mp h)]
      simp [List.removeAll, ha, List.eraseDups_cons]

omit [DecidableEq α] [DecidableEq β] in
/-- Where each element is looked at with those before it, the last one is looked at with all the
others. -/
theorem filterMap_take_concat (f : List α → α → Option β) (l : List α) (a : α) :
    ((l ++ [a]).zipIdx.filterMap fun (x, i) => f ((l ++ [a]).take i) x) =
      (l.zipIdx.filterMap fun (x, i) => f (l.take i) x) ++ (f l a).toList := by
  have hearlier : l.zipIdx.filterMap (fun (x, i) => f ((l ++ [a]).take i) x) =
      l.zipIdx.filterMap fun (x, i) => f (l.take i) x := by
    refine List.filterMap_congr fun (x, i) hx => ?_
    have hi : i < l.length := by simpa using (List.mem_zipIdx hx).2.1
    show f ((l ++ [a]).take i) x = f (l.take i) x
    rw [List.take_append_of_le_length (Nat.le_of_lt hi)]
  rw [List.zipIdx_append, List.filterMap_append, hearlier]
  cases hlast : f l a <;> simp [hlast]

end InstallMarkup
