import Mathlib.Data.List.Basic

/-!
# One place for many records

A place that holds one record takes the records it is offered in order, and some of them weigh more
than others.  What it is meant to hold is the last heavy record, or the last record where none was
heavy.

* `kept` — that record;
* `kept_concat_heavy`, `kept_concat_light` — what one more record changes;
* `heavy_kept` — whether the record is heavy says whether any was.
-/

set_option autoImplicit false

namespace KeptRecord

variable {α : Type} (heavy : α → Bool)

/-- The last heavy record, or the last one. -/
def kept (xs : List α) : Option α := (xs.reverse.find? heavy).or xs.getLast?

variable {heavy} {xs : List α} {a : α}

@[simp] theorem kept_nil : kept heavy [] = none := rfl

theorem kept_concat_heavy (ha : heavy a = true) : kept heavy (xs ++ [a]) = some a := by
  simp [kept, ha]

/-- A light record is kept where no heavy one came before. -/
theorem kept_concat_light (ha : heavy a = false) :
    kept heavy (xs ++ [a]) = if xs.any heavy then kept heavy xs else some a := by
  have hskip : kept heavy (xs ++ [a]) = (xs.reverse.find? heavy).or (some a) := by
    simp only [kept, List.reverse_append, List.reverse_singleton, List.singleton_append,
      List.find?_cons, ha, List.getLast?_concat]
  rw [hskip]
  cases hfind : xs.reverse.find? heavy with
  | none =>
    have hany : xs.any heavy = false := by
      rw [List.any_eq_false]
      intro x hx
      exact List.find?_eq_none.mp hfind x (List.mem_reverse.mpr hx)
    simp [hany]
  | some x =>
    have hany : xs.any heavy = true := List.any_eq_true.mpr
      ⟨x, List.mem_reverse.mp (List.mem_of_find?_eq_some hfind), List.find?_some hfind⟩
    simp [kept, hfind, hany]

theorem kept_eq_none : kept heavy xs = none ↔ xs = [] := by
  constructor
  · intro h
    exact List.getLast?_eq_none_iff.mp (Option.or_eq_none_iff.mp h).2
  · rintro rfl
    rfl

theorem kept_mem (h : kept heavy xs = some a) : a ∈ xs := by
  rcases Option.or_eq_some_iff.mp h with h | ⟨-, h⟩
  · exact List.mem_reverse.mp (List.mem_of_find?_eq_some h)
  · exact List.mem_of_getLast? h

theorem heavy_kept (h : kept heavy xs = some a) : heavy a = xs.any heavy := by
  rcases Option.or_eq_some_iff.mp h with hfind | ⟨hnone, -⟩
  · have hmem := List.mem_reverse.mp (List.mem_of_find?_eq_some hfind)
    rw [List.find?_some hfind, eq_comm]
    exact List.any_eq_true.mpr ⟨a, hmem, List.find?_some hfind⟩
  · have hlight : ∀ x ∈ xs, ¬ heavy x = true := by
      intro x hx
      exact List.find?_eq_none.mp hnone x (List.mem_reverse.mpr hx)
    rw [Bool.eq_false_iff.mpr (hlight a (kept_mem h)), eq_comm, List.any_eq_false]
    exact hlight

end KeptRecord
