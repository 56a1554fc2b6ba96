import Mathlib.Data.List.Range
import Mathlib.Logic.Function.Basic

/-!
# Maps in an array

An array whose first `nr` elements are a map, in no order: a new element goes behind the others, and
the last element takes the place of one that is removed.  Nothing here depends on what the elements
are.

* `Slots` — the array; `find`, `write`, `push`, `remove` — its operations;
* `Distinct` — no key is there twice;
* `Denotes` — the map; `Denotes.put_found`, `Denotes.put_new`, `Denotes.remove`,
  `Denotes.erase_missing` — what the operations make of it.
-/

set_option autoImplicit false

/-- An array of which `nr` elements are used. -/
structure Slots (α : Type) where
  nr : ℕ := 0
  val : ℕ → α

namespace Slots

variable {α K V : Type} [DecidableEq K]

/-- The place of the first element with the key. -/
def find (key : α → K) (m : Slots α) (k : K) : Option ℕ :=
  (List.range m.nr).find? fun i => key (m.val i) = k

/-- The element of a place is overwritten. -/
def write (m : Slots α) (i : ℕ) (a : α) : Slots α := { m with val := Function.update m.val i a }

/-- One more place is used. -/
def grow (m : Slots α) : Slots α := { m with nr := m.nr + 1 }

/-- The last element takes the place. -/
def remove (m : Slots α) (i : ℕ) : Slots α :=
  { nr := m.nr - 1, val := Function.update m.val i (m.val (m.nr - 1)) }

variable {key : α → K} {value : α → V} {m : Slots α} {k : K} {i : ℕ}

theorem find_some (h : find key m k = some i) : i < m.nr ∧ key (m.val i) = k := by
  refine ⟨List.mem_range.mp (List.mem_of_find?_eq_some h), ?_⟩
  simpa using List.find?_some h

theorem find_none (h : find key m k = none) : ∀ i < m.nr, key (m.val i) ≠ k := by
  intro i hi
  simpa using List.find?_eq_none.mp h i (List.mem_range.mpr hi)

/-- No key is there twice. -/
def Distinct (key : α → K) (m : Slots α) : Prop :=
  ∀ i < m.nr, ∀ j < m.nr, key (m.val i) = key (m.val j) → i = j

/-- The elements in use are the map `f`, each key once. -/
structure Denotes (key : α → K) (value : α → V) (m : Slots α) (f : K → Option V) : Prop where
  distinct : Distinct key m
  iff : ∀ k v, f k = some v ↔ ∃ i < m.nr, key (m.val i) = k ∧ value (m.val i) = v

namespace Denotes

variable {f : K → Option V} {a : α}

omit [DecidableEq K] in
theorem empty (hnr : m.nr = 0) : Denotes key value m fun _ => none := by
  refine ⟨fun i hi => ?_, fun k v => ?_⟩
  · omega
  · constructor
    · intro h
      cases h
    · rintro ⟨i, hi, -⟩
      omega

/-- The element with the key is overwritten. -/
theorem put_found (h : Denotes key value m f) (hi : find key m k = some i) (ha : key a = k) :
    Denotes key value (m.write i a) (Function.update f k (some (value a))) := by
  obtain ⟨hlt, hkey⟩ := find_some hi
  have hsame : ∀ j, key ((m.write i a).val j) = key (m.val j) := by
    intro j
    by_cases hji : j = i
    · rw [hji, hkey, ← ha]
      simp [write]
    · simp [write, Function.update_of_ne hji]
  refine ⟨fun j hj j' hj' heq => ?_, fun k' v => ?_⟩
  · rw [hsame, hsame] at heq
    exact h.distinct j hj j' hj' heq
  · by_cases hk : k' = k
    · rw [hk, Function.update_self]
      constructor
      · intro hv
        exact ⟨i, hlt, by simp [write, ha], by simpa [write] using hv⟩
      · rintro ⟨j, hj, hkj, hv⟩
        rw [hsame] at hkj
        have hji : j = i := h.distinct j hj i hlt (hkj.trans hkey.symm)
        rw [hji] at hv
        simpa [write] using hv
    · rw [Function.update_of_ne hk, h.iff]
      refine exists_congr fun j => and_congr_right fun _ => ?_
      rw [hsame]
      refine and_congr_right fun hkj => ?_
      have hji : j ≠ i := by
        rintro rfl
        exact hk (hkj.symm.trans hkey)
      simp [write, Function.update_of_ne hji]

/-- A new element goes behind the others. -/
theorem put_new (h : Denotes key value m f) (hnew : find key m k = none) (ha : key a = k) :
    Denotes key value (m.grow.write m.nr a) (Function.update f k (some (value a))) := by
  have hno := find_none hnew
  have hold : ∀ j < m.nr, (m.grow.write m.nr a).val j = m.val j := by
    intro j hj
    simp [write, grow, Function.update_of_ne (Nat.ne_of_lt hj)]
  have hlast : (m.grow.write m.nr a).val m.nr = a := by
    simp [write, grow]
  have hnr : (m.grow.write m.nr a).nr = m.nr + 1 := rfl
  refine ⟨fun j hj j' hj' heq => ?_, fun k' v => ?_⟩
  · rw [hnr] at hj hj'
    by_cases hjn : j = m.nr <;> by_cases hjn' : j' = m.nr
    · rw [hjn, hjn']
    · rw [hjn, hlast, hold j' (by omega), ha] at heq
      exact absurd heq.symm (hno j' (by omega))
    · rw [hjn', hlast, hold j (by omega), ha] at heq
      exact absurd heq (hno j (by omega))
    · rw [hold j (by omega), hold j' (by omega)] at heq
      exact h.distinct j (by omega) j' (by omega) heq
  · by_cases hk : k' = k
    · rw [hk, Function.update_self]
      constructor
      · intro hv
        exact ⟨m.nr, by omega, by rw [hlast, ha], by rw [hlast]; exact Option.some.inj hv⟩
      · rintro ⟨j, hj, hkj, hv⟩
        by_cases hjn : j = m.nr
        · rw [hjn, hlast] at hv
          rw [hv]
        · rw [hold j (by omega)] at hkj
          exact absurd hkj (hno j (by omega))
    · rw [Function.update_of_ne hk, h.iff]
      constructor
      · rintro ⟨j, hj, hkj, hv⟩
        exact ⟨j, by omega, by rw [hold j hj, hkj], by rw [hold j hj, hv]⟩
      · rintro ⟨j, hj, hkj, hv⟩
        have hjn : j ≠ m.nr := by
          rintro rfl
          rw [hlast, ha] at hkj
          exact hk hkj.symm
        have hlt : j < m.nr := by omega
        rw [hold j hlt] at hkj hv
        exact ⟨j, hlt, hkj, hv⟩

/-- The element with the key is removed. -/
theorem remove (h : Denotes key value m f) (hi : find key m k = some i) :
    Denotes key value (m.remove i) (Function.update f k none) := by
  obtain ⟨hlt, hkey⟩ := find_some hi
  -- where the elements of the shorter array have been
  have hfrom : ∀ j, (m.remove i).val j = m.val (if j = i then m.nr - 1 else j) := by
    intro j
    by_cases hji : j = i
    · simp [Slots.remove, hji]
    · simp [Slots.remove, hji]
  have hnr : (m.remove i).nr = m.nr - 1 := rfl
  refine ⟨fun j hj j' hj' heq => ?_, fun k' v => ?_⟩
  · rw [hnr] at hj hj'
    rw [hfrom, hfrom] at heq
    have hsame := h.distinct _ (by split <;> omega) _ (by split <;> omega) heq
    split at hsame <;> split at hsame <;> omega
  · constructor
    · intro hv
      have hk : k' ≠ k := by
        rintro rfl
        rw [Function.update_self] at hv
        cases hv
      rw [Function.update_of_ne hk] at hv
      obtain ⟨j, hj, hkj, hvj⟩ := (h.iff k' v).mp hv
      have hji : j ≠ i := by
        rintro rfl
        exact hk (hkj.symm.trans hkey)
      by_cases hlast : j = m.nr - 1
      · refine ⟨i, by omega, ?_, ?_⟩ <;> rw [hfrom, if_pos rfl, ← hlast]
        · exact hkj
        · exact hvj
      · refine ⟨j, by omega, ?_, ?_⟩ <;> rw [hfrom, if_neg hji]
        · exact hkj
        · exact hvj
    · rintro ⟨j, hj, hkj, hvj⟩
      rw [hnr] at hj
      rw [hfrom] at hkj hvj
      have hlt' : (if j = i then m.nr - 1 else j) < m.nr := by split <;> omega
      have hne : (if j = i then m.nr - 1 else j) ≠ i := by split <;> omega
      have hk : k' ≠ k := by
        rintro rfl
        exact hne (h.distinct _ hlt' i hlt (hkj.trans hkey.symm))
      rw [Function.update_of_ne hk]
      exact (h.iff k' v).mpr ⟨_, hlt', hkj, hvj⟩

/-- There is nothing to remove. -/
theorem erase_missing (h : Denotes key value m f) (hno : find key m k = none) :
    Denotes key value m (Function.update f k none) := by
  refine ⟨h.distinct, fun k' v => ?_⟩
  by_cases hk : k' = k
  · rw [hk, Function.update_self]
    constructor
    · intro hv
      cases hv
    · rintro ⟨j, hj, hkj, -⟩
      exact absurd hkj (find_none hno j hj)
  · rw [Function.update_of_ne hk]
    exact h.iff k' v

end Denotes

end Slots
