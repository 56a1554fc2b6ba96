import Mathlib.Algebra.Order.Field.Basic
import Mathlib.Algebra.Order.Ring.Rat
import Mathlib.Data.Nat.Cast.Order.Field
import Mathlib.Data.Rat.Defs
import Mathlib.Tactic.FieldSimp
import Mathlib.Tactic.Linarith
import Mathlib.Tactic.Positivity
import Mathlib.Tactic.Ring

/-!
# Fixed-point products

A fixed-point number is a natural number `m` that stands for `m / one`; a product with it is rounded
down.  Nothing here depends on what is multiplied.

* `div_le`, `lt_div` — a quotient rounded down, as a rational number;
* `signedProduct` — the product of a magnitude, with the sign in front;
* `composed_le`, `le_composed` — two products one behind the other, and the product with the product
  of the factors;
* `Ratio` — the quotient of two numbers that have been rounded themselves; `Ratio.value_le` and
  `Ratio.le_value` bound what it converts.
-/

set_option autoImplicit false

namespace FixedPoint

/-! ## Rounding down -/

theorem div_le (n one : ℕ) : ((n / one : ℕ) : ℚ) ≤ n / one := Nat.cast_div_le

theorem lt_div (n : ℕ) {one : ℕ} (hone : 0 < one) : (n : ℚ) / one < (n / one : ℕ) + 1 := by
  have hpos : (0 : ℚ) < one := by exact_mod_cast hone
  rw [div_lt_iff₀ hpos]
  exact_mod_cast Nat.lt_mul_of_div_lt (Nat.lt_succ_self (n / one)) hone

/-- The product of the magnitude of `s`, with the sign of `s`. -/
def signedProduct (s : ℤ) (m one : ℕ) : ℤ :=
  if s < 0 then -((s.natAbs * m / one : ℕ) : ℤ) else (s.natAbs * m / one : ℕ)

/-- A signed product is off by less than 1, either way. -/
theorem signedProduct_close (s : ℤ) (m : ℕ) {one : ℕ} (hone : 0 < one) :
    (s : ℚ) * m / one - 1 < signedProduct s m one ∧
      (signedProduct s m one : ℚ) < s * m / one + 1 := by
  have hle := div_le (s.natAbs * m) one
  have hlt := lt_div (s.natAbs * m) hone
  have habs : ((s.natAbs : ℕ) : ℚ) = |(s : ℚ)| := by
    rw [Nat.cast_natAbs, Int.cast_abs]
  rw [Nat.cast_mul, habs] at hle hlt
  unfold signedProduct
  generalize s.natAbs * m / one = q at hle hlt ⊢
  by_cases hneg : s < 0
  · have hneg' : (s : ℚ) < 0 := by exact_mod_cast hneg
    rw [abs_of_neg hneg', neg_mul, neg_div] at hle hlt
    rw [if_pos hneg]
    push_cast
    constructor <;> linarith
  · have hpos : (0 : ℚ) ≤ s := by exact_mod_cast not_lt.mp hneg
    rw [abs_of_nonneg hpos] at hle hlt
    rw [if_neg hneg]
    push_cast
    constructor <;> linarith

/-! ## Products of products -/

section Composed

variable {one : ℕ} (x m m' t : ℕ) (s : ℤ)

/-- Ticks `x` that are scaled by `m`, moved by `s` and scaled by `m'` are at most `m' / one + 2`
behind those that are scaled by the product and moved by the scaled `s`. -/
theorem composed_le (hone : 0 < one) (ht : (t : ℤ) = (x * m / one : ℕ) + s) :
    ((x * (m * m' / one) / one : ℕ) : ℚ) + signedProduct s m' one ≤
      (t * m' / one : ℕ) + m' / one + 2 := by
  have hpos : (0 : ℚ) < one := by exact_mod_cast hone
  have hwhole := div_le (x * (m * m' / one)) one
  have hfactor := div_le (m * m') one
  have hticks := lt_div (x * m) hone
  have hback := lt_div (t * m') hone
  have hsigned := (signedProduct_close s m' hone).2
  generalize x * m / one = a at ht hticks
  generalize m * m' / one = f at hwhole hfactor ⊢
  rw [Nat.cast_mul] at hwhole hfactor hticks hback
  have ht' : (t : ℚ) = a + s := by exact_mod_cast ht
  have hproduct : (x : ℚ) * f / one ≤ x * m / one * m' / one := by
    calc (x : ℚ) * f / one ≤ x * (m * m' / one) / one := by gcongr
      _ = x * m / one * m' / one := by ring
  have hmoved : (x : ℚ) * m / one * m' / one + s * m' / one ≤ t * m' / one + m' / one := by
    calc (x : ℚ) * m / one * m' / one + s * m' / one
        ≤ (a + 1) * m' / one + s * m' / one := by gcongr
      _ = t * m' / one + m' / one := by
        rw [ht']
        ring
  linarith

/-- They are at most `x / one + 2` in front of them. -/
theorem le_composed (hone : 0 < one) (ht : (t : ℤ) = (x * m / one : ℕ) + s) :
    ((t * m' / one : ℕ) : ℚ) - x / one - 2 ≤
      (x * (m * m' / one) / one : ℕ) + signedProduct s m' one := by
  have hpos : (0 : ℚ) < one := by exact_mod_cast hone
  have hwhole := lt_div (x * (m * m' / one)) hone
  have hfactor := lt_div (m * m') hone
  have hticks := div_le (x * m) one
  have hback := div_le (t * m') one
  have hsigned := (signedProduct_close s m' hone).1
  generalize x * m / one = a at ht hticks
  generalize m * m' / one = f at hwhole hfactor ⊢
  rw [Nat.cast_mul] at hwhole hfactor hticks hback
  have ht' : (t : ℚ) = a + s := by exact_mod_cast ht
  have hproduct : (x : ℚ) * m / one * m' / one - x / one ≤ x * f / one := by
    have hle : (m : ℚ) * m' / one - 1 ≤ f := by linarith
    calc (x : ℚ) * m / one * m' / one - x / one = x * (m * m' / one - 1) / one := by ring
      _ ≤ x * f / one := by gcongr
  have hmoved : (t : ℚ) * m' / one ≤ x * m / one * m' / one + s * m' / one := by
    calc (t : ℚ) * m' / one = a * m' / one + s * m' / one := by
          rw [ht']
          ring
      _ ≤ x * m / one * m' / one + s * m' / one := by gcongr
  linarith

end Composed

/-! ## Quotients of rounded numbers -/

/-- The quotient `mul` of `goal` and `rate * up`, with `fraction` as its 1, where `rate` is `base`
divided by `down`, and `goal` is `target` divided by `half`, both rounded down. -/
structure Ratio (base target fraction down half up rate goal mul : ℕ) : Prop where
  down_pos : 0 < down
  half_pos : 0 < half
  up_pos : 0 < up
  rate_pos : 0 < rate
  rate_le : rate * down ≤ base
  rate_lt : base < (rate + 1) * down
  goal_le : goal * half ≤ target
  goal_lt : target < (goal + 1) * half
  fits : rate * up ≤ fraction
  mul_eq : mul = goal * fraction / (rate * up)

namespace Ratio

variable {base target fraction down half up rate goal mul : ℕ}
  (h : Ratio base target fraction down half up rate goal mul)

include h

/-- What the quotient makes of `base`, in units of `half * up / down`, is too much by the part of
`base` at most that `rate` lacks. -/
theorem value_le : (base : ℚ) * (half * up / down) * mul / fraction ≤
    target * (base / (rate * down)) := by
  have hdown : (0 : ℚ) < down := by exact_mod_cast h.down_pos
  have hup : (0 : ℚ) < up := by exact_mod_cast h.up_pos
  have hrate : (0 : ℚ) < rate := by exact_mod_cast h.rate_pos
  have hfraction : (0 : ℚ) < fraction := by
    exact_mod_cast lt_of_lt_of_le (Nat.mul_pos h.rate_pos h.up_pos) h.fits
  have hmul : (mul : ℚ) ≤ goal * fraction / (rate * up) := by
    have hle := div_le (goal * fraction) (rate * up)
    rw [← h.mul_eq] at hle
    push_cast at hle
    exact hle
  have hgoal : (goal : ℚ) * half ≤ target := by exact_mod_cast h.goal_le
  calc (base : ℚ) * (half * up / down) * mul / fraction
      ≤ base * (half * up / down) * (goal * fraction / (rate * up)) / fraction := by gcongr
    _ = goal * half * (base / (rate * down)) := by field_simp
    _ ≤ target * (base / (rate * down)) := by gcongr

/-- It lacks the part of `target` at most that `goal` lacks, and `half`. -/
theorem le_value : (goal : ℚ) * half - half ≤ base * (half * up / down) * mul / fraction := by
  have hdown : (0 : ℚ) < down := by exact_mod_cast h.down_pos
  have hhalf : (0 : ℚ) < half := by exact_mod_cast h.half_pos
  have hup : (0 : ℚ) < up := by exact_mod_cast h.up_pos
  have hrate : (0 : ℚ) < rate := by exact_mod_cast h.rate_pos
  have hprod : 0 < rate * up := Nat.mul_pos h.rate_pos h.up_pos
  have hfraction : (0 : ℚ) < fraction := by exact_mod_cast lt_of_lt_of_le hprod h.fits
  have hfits : (rate : ℚ) * up ≤ fraction := by exact_mod_cast h.fits
  have hbase : (rate : ℚ) * down ≤ base := by exact_mod_cast h.rate_le
  have hmul : (goal : ℚ) * fraction / (rate * up) - 1 ≤ mul := by
    have hlt := lt_div (goal * fraction) hprod
    rw [← h.mul_eq] at hlt
    push_cast at hlt
    linarith
  have hone : (half : ℚ) * (rate * up) / fraction ≤ half := by
    rw [div_le_iff₀ hfraction]
    gcongr
  calc (goal : ℚ) * half - half ≤ goal * half - half * (rate * up) / fraction := by linarith
    _ = rate * half * up * (goal * fraction / (rate * up) - 1) / fraction := by field_simp
    _ ≤ rate * half * up * mul / fraction := by gcongr
    _ = rate * down * (half * up / down) * mul / fraction := by field_simp
    _ ≤ base * (half * up / down) * mul / fraction := by gcongr

end Ratio

end FixedPoint
