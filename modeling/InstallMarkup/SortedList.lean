/-!
# Sorted lists without repeats

A finite set is kept as a list in strictly increasing order, so that writing it out needs no sorting
and equal sets are equal lists.
-/

namespace InstallMarkup.SortedList

variable {α : Type} [DecidableEq α]

/-- Puts an element in its place; an element that is there already is not put in again. -/
def insert (before : α → α → Bool) (a : α) : List α → List α
  | [] => [a]
  | b :: bs =>
    if a = b then b :: bs
    else if before a b then a :: b :: bs
    else b :: insert before a bs

/-- Inserting adds the element and nothing else. -/
@[simp] theorem mem_insert {before : α → α → Bool} {a x : α} {l : List α} :
    x ∈ insert before a l ↔ x = a ∨ x ∈ l := by
  induction l with
  | nil => simp [insert]
  | cons b bs ih => grind [insert]

end InstallMarkup.SortedList
