import Mathlib.Data.List.Basic
import Mathlib.Algebra.Order.Group.Nat
import Mathlib.Algebra.Ring.Nat
import Mathlib.Algebra.BigOperators.Group.List.Basic

/-!
# Sums of truncated quotients

A quantity that is read off in pieces, each piece divided and rounded down on its own.

* `gaps` — the pieces between successive readings; `sum_gaps` puts them together again;
* `sum_div` — the quotient of a sum: the quotients of the summands, and what their remainders make
  together;
* `sum_div_le`, `sum_div_eq_iff` — what rounding each piece loses, and when it loses nothing.
-/

set_option autoImplicit false

namespace Quotients

/-! ## Gaps -/

/-- The differences of successive readings, from the reading `p` on. -/
def gaps : Nat → List Nat → List Nat
  | _, [] => []
  | p, r :: rs => (r - p) :: gaps r rs

@[simp] theorem length_gaps (p : Nat) (rs : List Nat) : (gaps p rs).length = rs.length := by
  induction rs generalizing p with
  | nil => rfl
  | cons r rs ih => simp [gaps, ih]

theorem gaps_take (p : Nat) (rs : List Nat) (n : Nat) :
    (gaps p rs).take n = gaps p (rs.take n) := by
  induction rs generalizing p n with
  | nil => simp [gaps]
  | cons r rs ih =>
    cases n with
    | zero => rfl
    | succ n => simp [gaps, ih]

/-- The gaps of readings that never decrease add up to the way from the first to the last. -/
theorem sum_gaps {p : Nat} {rs : List Nat} (hrs : (p :: rs).Pairwise (· ≤ ·)) :
    p + (gaps p rs).sum = (p :: rs).getLast (List.cons_ne_nil p rs) := by
  induction rs generalizing p with
  | nil => rfl
  | cons r rs ih =>
    rw [List.pairwise_cons] at hrs
    have hle : p ≤ r := hrs.1 r (List.mem_cons_self ..)
    have hlast := ih hrs.2
    rw [List.getLast_cons (List.cons_ne_nil r rs), ← hlast]
    simp only [gaps, List.sum_cons]
    omega

/-! ## Quotients -/

variable (k : Nat) (ds : List Nat)

/-- Division with remainder, summand by summand. -/
theorem sum_div_add_mod : (ds.map (· % k)).sum + k * (ds.map (· / k)).sum = ds.sum := by
  induction ds with
  | nil => simp
  | cons d ds ih =>
    have hd := Nat.mod_add_div d k
    simp only [List.map_cons, List.sum_cons, Nat.mul_add]
    omega

theorem sum_div (hk : 0 < k) :
    ds.sum / k = (ds.map (· / k)).sum + (ds.map (· % k)).sum / k := by
  rw [← sum_div_add_mod k ds, Nat.add_mul_div_left _ _ hk, Nat.add_comm]

theorem sum_div_le (hk : 0 < k) : (ds.map (· / k)).sum ≤ ds.sum / k := by
  rw [sum_div k ds hk]
  exact Nat.le_add_right _ _

/-- **Nothing is lost exactly when** the remainders do not make a whole together. -/
theorem sum_div_eq_iff (hk : 0 < k) :
    (ds.map (· / k)).sum = ds.sum / k ↔ (ds.map (· % k)).sum < k := by
  rw [sum_div k ds hk, left_eq_add, Nat.div_eq_zero_iff]
  omega

end Quotients
