import Mathlib.Algebra.Order.Field.Basic
import Mathlib.Data.Rat.Defs
import Mathlib.Algebra.Order.Ring.Rat
import Mathlib.Tactic.FieldSimp
import Mathlib.Tactic.Linarith
import Mathlib.Tactic.Positivity
import Mathlib.Tactic.Ring

/-!
# Rates

Ticks of a counter are converted to units of time by a multiplication with a fixed-point number.
Nothing here depends on what the counters are.

* `Converts` — a conversion that is off by at most one part in the number of units, and two units;
* `converts_mul`, `converts_div` — the two ways to convert, with ticks multiplied or divided by a
  power of 2;
* `Scales` — ticks and a rate that are scaled and rounded down;
* `converts_drift` — how far two conversions drift apart if one of them counts scaled ticks.
-/

set_option autoImplicit false

namespace Rates

/-- `time` units are about as many as `ticks` ticks make, of which `rate` make `units` units. -/
structure Converts (units rate ticks time : Nat) : Prop where
  le : time * rate ≤ ticks * (units + 1)
  ge : ticks * units ≤ (time + 2) * rate + ticks

section Conversions

variable {units rate fraction ticks mul power : Nat}

/-- A multiplier with `fraction` as its 1, for `power` ticks to `units` units. -/
structure Multiplier (units fraction power mul : Nat) : Prop where
  power_gt : units < power
  power_le : power ≤ 2 * units
  fraction_ge : 2 * units ≤ fraction
  mul_eq : mul = units * fraction / power

namespace Multiplier

variable (h : Multiplier units fraction power mul)

include h

theorem power_pos : 0 < power := Nat.lt_of_le_of_lt (Nat.zero_le _) h.power_gt

theorem fraction_pos : 0 < fraction := by
  have hpos := h.power_pos
  have hle := h.power_le
  have hge := h.fraction_ge
  omega

theorem mul_le : mul * power ≤ units * fraction := by
  rw [h.mul_eq]
  exact Nat.div_mul_le_self _ _

theorem lt_mul : units * fraction < (mul + 1) * power := by
  rw [h.mul_eq, Nat.mul_comm (_ + 1)]
  exact Nat.lt_mul_div_succ _ h.power_pos

end Multiplier

/-- Ticks that are multiplied. -/
theorem converts_mul {e : Nat} (h : Multiplier units fraction (rate * e) mul) :
    Converts units rate ticks (ticks * e * mul / fraction) := by
  have hF := h.fraction_pos
  have hmul := h.mul_le
  have hlt := h.lt_mul
  have hfraction : rate * e ≤ fraction := h.power_le.trans h.fraction_ge
  have hdown : ticks * e * mul / fraction * fraction ≤ ticks * e * mul := Nat.div_mul_le_self _ _
  have hup : ticks * e * mul < (ticks * e * mul / fraction + 1) * fraction := by
    rw [Nat.mul_comm (_ + 1)]
    exact Nat.lt_mul_div_succ _ hF
  generalize ticks * e * mul / fraction = time at hdown hup ⊢
  constructor
  · refine Nat.le_of_mul_le_mul_right (c := fraction) ?_ hF
    calc time * rate * fraction = time * fraction * rate := by ring
      _ ≤ ticks * e * mul * rate := Nat.mul_le_mul_right _ hdown
      _ = ticks * (mul * (rate * e)) := by ring
      _ ≤ ticks * (units * fraction) := Nat.mul_le_mul_left _ hmul
      _ ≤ ticks * (units + 1) * fraction := by
        rw [← Nat.mul_assoc]
        exact Nat.mul_le_mul_right _ (Nat.mul_le_mul_left _ (Nat.le_succ _))
  · refine Nat.le_of_mul_le_mul_right (c := fraction) ?_ hF
    calc ticks * units * fraction = ticks * (units * fraction) := Nat.mul_assoc _ _ _
      _ ≤ ticks * ((mul + 1) * (rate * e)) := Nat.mul_le_mul_left _ hlt.le
      _ = ticks * e * mul * rate + ticks * (rate * e) := by ring
      _ ≤ (time + 1) * fraction * rate + ticks * fraction :=
        Nat.add_le_add (Nat.mul_le_mul_right _ hup.le) (Nat.mul_le_mul_left _ hfraction)
      _ ≤ ((time + 2) * rate + ticks) * fraction := by nlinarith

/-- Ticks that are divided; the rate was divided and rounded before. -/
theorem converts_div {q e : Nat} (h : Multiplier units fraction power mul) (hq : 0 < q)
    (hpower : power * q ≤ rate) (hrate : rate < power * q + e) (he : units * e ≤ power * q) :
    Converts units rate ticks (ticks / q * mul / fraction) := by
  have hF := h.fraction_pos
  have hmul := h.mul_le
  have hlt := h.lt_mul
  have hfraction : power ≤ fraction := h.power_le.trans h.fraction_ge
  have hqdown : ticks / q * q ≤ ticks := Nat.div_mul_le_self _ _
  have hqup : ticks < (ticks / q + 1) * q := by
    rw [Nat.mul_comm (_ + 1)]
    exact Nat.lt_mul_div_succ _ hq
  generalize ticks / q = x at hqdown hqup ⊢
  have hdown : x * mul / fraction * fraction ≤ x * mul := Nat.div_mul_le_self _ _
  have hup : x * mul < (x * mul / fraction + 1) * fraction := by
    rw [Nat.mul_comm (_ + 1)]
    exact Nat.lt_mul_div_succ _ hF
  generalize x * mul / fraction = time at hdown hup ⊢
  constructor
  · rcases Nat.eq_zero_or_pos units with rfl | hunits
    · have hle := h.power_le
      have hpos := h.power_pos
      omega
    · refine Nat.le_of_mul_le_mul_right (c := units * fraction) ?_ (Nat.mul_pos hunits hF)
      calc time * rate * (units * fraction) = time * fraction * (units * rate) := by ring
        _ ≤ x * mul * (units * rate) := Nat.mul_le_mul_right _ hdown
        _ ≤ x * mul * (power * q * (units + 1)) := by
          refine Nat.mul_le_mul_left _ ?_
          have hle := Nat.mul_le_mul_left units hrate.le
          nlinarith
        _ = mul * power * (x * q) * (units + 1) := by ring
        _ ≤ units * fraction * ticks * (units + 1) :=
          Nat.mul_le_mul_right _ (Nat.mul_le_mul hmul hqdown)
        _ = ticks * (units + 1) * (units * fraction) := by ring
  · refine Nat.le_of_mul_le_mul_right (c := fraction) ?_ hF
    have hwhole : x * q * (units * fraction) ≤ (time + 1) * fraction * rate + ticks * fraction := by
      calc x * q * (units * fraction) ≤ x * q * ((mul + 1) * power) :=
            Nat.mul_le_mul_left _ hlt.le
        _ = x * mul * (power * q) + x * q * power := by ring
        _ ≤ (time + 1) * fraction * rate + ticks * fraction :=
          Nat.add_le_add (Nat.mul_le_mul hup.le hpower) (Nat.mul_le_mul hqdown hfraction)
    have hrest : q * (units * fraction) ≤ rate * fraction := by
      calc q * (units * fraction) = units * q * fraction := by ring
        _ ≤ power * q * fraction :=
          Nat.mul_le_mul_right _ (Nat.mul_le_mul_right _ h.power_gt.le)
        _ ≤ rate * fraction := Nat.mul_le_mul_right _ hpower
    calc ticks * units * fraction = ticks * (units * fraction) := Nat.mul_assoc _ _ _
      _ ≤ (x + 1) * q * (units * fraction) := Nat.mul_le_mul_right _ hqup.le
      _ = x * q * (units * fraction) + q * (units * fraction) := by ring
      _ ≤ (time + 1) * fraction * rate + ticks * fraction + rate * fraction :=
        Nat.add_le_add hwhole hrest
      _ = ((time + 2) * rate + ticks) * fraction := by ring

end Conversions

/-! ## Drift -/

section Drift

variable {units k rate scaledRate ticks scaledTicks time scaledTime mul one : Nat}

/-- The units of time that ticks make, exactly. -/
def elapsed (units rate ticks : Nat) : ℚ := ticks * units / rate

theorem Converts.le_elapsed (h : Converts units rate ticks time) (hrate : 0 < rate)
    (hunits : 0 < units) :
    (time : ℚ) ≤ elapsed units rate ticks + elapsed units rate ticks / units := by
  have hr : (0 : ℚ) < rate := by exact_mod_cast hrate
  have hu : (units : ℚ) ≠ 0 := by exact_mod_cast hunits.ne'
  have hle : (time : ℚ) * rate ≤ ticks * (units + 1) := by exact_mod_cast h.le
  have heq : elapsed units rate ticks + elapsed units rate ticks / units =
      ticks * (units + 1) / rate := by
    unfold elapsed
    field_simp
  rw [heq, le_div_iff₀ hr]
  exact hle

theorem Converts.elapsed_le (h : Converts units rate ticks time) (hrate : 0 < rate)
    (hunits : 0 < units) :
    elapsed units rate ticks - elapsed units rate ticks / units - 2 ≤ time := by
  have hr : (0 : ℚ) < rate := by exact_mod_cast hrate
  have hu : (units : ℚ) ≠ 0 := by exact_mod_cast hunits.ne'
  have hge : (ticks : ℚ) * units ≤ (time + 2) * rate + ticks := by exact_mod_cast h.ge
  have heq : elapsed units rate ticks - elapsed units rate ticks / units =
      (ticks * units - ticks) / rate := by
    unfold elapsed
    field_simp
  rw [heq, sub_le_iff_le_add, div_le_iff₀ hr]
  linarith

/-- Scaled ticks at a scaled rate: rounding the rate makes them longer, and a tick may be missing
or too much. -/
structure Scales (mul one rate scaledRate ticks scaledTicks : Nat) : Prop where
  rate_le : scaledRate * one ≤ rate * mul
  rate_lt : rate * mul < (scaledRate + 1) * one
  ticks_le : scaledTicks * one ≤ ticks * mul + one
  ticks_lt : ticks * mul < (scaledTicks + 1) * one

/-- A rate and two counters that are scaled and rounded down. -/
theorem scales_div (rate mul : Nat) (hone : 0 < one) {a b : Nat} (hle : b ≤ a) :
    Scales mul one rate (rate * mul / one) (a - b) (a * mul / one - b * mul / one) := by
  have hdown : ∀ x, x * mul / one * one ≤ x * mul := fun x => Nat.div_mul_le_self _ _
  have hup : ∀ x, x * mul < (x * mul / one + 1) * one := fun x => by
    rw [Nat.mul_comm (_ + 1)]
    exact Nat.lt_mul_div_succ _ hone
  obtain ⟨d, rfl⟩ := Nat.exists_eq_add_of_le hle
  have hmono : b * mul / one ≤ (b + d) * mul / one :=
    Nat.div_le_div_right (Nat.mul_le_mul_right _ (Nat.le_add_right _ _))
  obtain ⟨s, hs⟩ := Nat.exists_eq_add_of_le hmono
  have ha := hdown (b + d)
  have ha' := hup (b + d)
  have hb := hdown b
  have hb' := hup b
  rw [hs] at ha ha'
  rw [hs, Nat.add_sub_cancel_left, Nat.add_sub_cancel_left]
  refine ⟨hdown rate, hup rate, ?_, ?_⟩
  · nlinarith
  · nlinarith

/-- The scaled ticks make about as many units of time. -/
theorem Scales.elapsed (h : Scales mul one rate scaledRate ticks scaledTicks) (units : Nat)
    (hone : 0 < one) (hk : 0 < k) (hrate : 0 < rate) (hscaled : 0 < scaledRate) :
    elapsed units (k * rate) ticks - units / (k * scaledRate) ≤
        elapsed units (k * scaledRate) scaledTicks ∧
      elapsed units (k * scaledRate) scaledTicks ≤
        elapsed units (k * rate) ticks * (1 + 1 / scaledRate) + units / (k * scaledRate) := by
  have hone' : (0 : ℚ) < one := by exact_mod_cast hone
  have hk' : (0 : ℚ) < k := by exact_mod_cast hk
  have hrate' : (0 : ℚ) < rate := by exact_mod_cast hrate
  have hscaled' : (0 : ℚ) < scaledRate := by exact_mod_cast hscaled
  have hratele : (scaledRate : ℚ) * one ≤ rate * mul := by exact_mod_cast h.rate_le
  have hratelt : (rate : ℚ) * mul < (scaledRate + 1) * one := by exact_mod_cast h.rate_lt
  have hticksle : (scaledTicks : ℚ) * one ≤ ticks * mul + one := by exact_mod_cast h.ticks_le
  have htickslt : (ticks : ℚ) * mul < (scaledTicks + 1) * one := by exact_mod_cast h.ticks_lt
  -- a scaled tick, in ticks, lies between these two
  have hlo : (ticks : ℚ) * scaledRate ≤ (scaledTicks + 1) * rate := by
    refine le_of_mul_le_mul_right ?_ hone'
    calc (ticks : ℚ) * scaledRate * one = ticks * (scaledRate * one) := by ring
      _ ≤ ticks * (rate * mul) := by gcongr
      _ = rate * (ticks * mul) := by ring
      _ ≤ rate * ((scaledTicks + 1) * one) := by gcongr
      _ = (scaledTicks + 1) * rate * one := by ring
  have hhi : (scaledTicks : ℚ) * rate ≤ ticks * (scaledRate + 1) + rate := by
    refine le_of_mul_le_mul_right ?_ hone'
    calc (scaledTicks : ℚ) * rate * one = rate * (scaledTicks * one) := by ring
      _ ≤ rate * (ticks * mul + one) := by gcongr
      _ = ticks * (rate * mul) + rate * one := by ring
      _ ≤ ticks * ((scaledRate + 1) * one) + rate * one := by gcongr
      _ = (ticks * (scaledRate + 1) + rate) * one := by ring
  unfold Rates.elapsed
  push_cast
  have hu : (0 : ℚ) ≤ units := Nat.cast_nonneg _
  constructor
  · have heq : (ticks : ℚ) * units / (k * rate) - units / (k * scaledRate) =
        (ticks * scaledRate - rate) * units / (k * rate * scaledRate) := by field_simp
    have heq' : (scaledTicks : ℚ) * units / (k * scaledRate) =
        scaledTicks * rate * units / (k * rate * scaledRate) := by field_simp
    rw [heq, heq']
    gcongr
    linarith
  · have heq : (ticks : ℚ) * units / (k * rate) * (1 + 1 / scaledRate) + units / (k * scaledRate) =
        (ticks * (scaledRate + 1) + rate) * units / (k * rate * scaledRate) := by field_simp
    have heq' : (scaledTicks : ℚ) * units / (k * scaledRate) =
        scaledTicks * rate * units / (k * rate * scaledRate) := by field_simp
    rw [heq, heq']
    gcongr

/-- **How far two conversions drift apart**: by the part of the scaled rate that was rounded away,
and by what each conversion is off. -/
theorem converts_drift (h : Converts units (k * rate) ticks time)
    (hscaled : Converts units (k * scaledRate) scaledTicks scaledTime)
    (hscales : Scales mul one rate scaledRate ticks scaledTicks) (hone : 0 < one) (hk : 0 < k)
    (hunits : 0 < units) (hrate : 0 < rate) (hpos : 0 < scaledRate) :
    |(time : ℚ) - scaledTime| ≤ 3 + 3 * elapsed units (k * rate) ticks / units +
      (elapsed units (k * rate) ticks + units / k) / scaledRate := by
  obtain ⟨hlo, hhi⟩ := hscales.elapsed units hone hk hrate hpos
  have hkr := Nat.mul_pos hk hrate
  have hks := Nat.mul_pos hk hpos
  have hle := h.le_elapsed hkr hunits
  have hge := h.elapsed_le hkr hunits
  have hsle := hscaled.le_elapsed hks hunits
  have hsge := hscaled.elapsed_le hks hunits
  have he : 0 ≤ elapsed units (k * rate) ticks := by
    unfold elapsed
    positivity
  generalize elapsed units (k * rate) ticks = e at *
  generalize elapsed units (k * scaledRate) scaledTicks = f at *
  have hu : (1 : ℚ) ≤ units := by exact_mod_cast hunits
  have hk' : (1 : ℚ) ≤ k := by exact_mod_cast hk
  have hs : (1 : ℚ) ≤ scaledRate := by exact_mod_cast hpos
  have hsplit : (e + units / k) / scaledRate = e / scaledRate + units / (k * scaledRate) := by
    rw [add_div, div_div]
  have htick : (units : ℚ) / (k * scaledRate) / units ≤ 1 := by
    rw [div_div, div_le_one (by positivity)]
    exact le_mul_of_one_le_left (by positivity) (one_le_mul_of_one_le_of_one_le hk' hs)
  have hrounded : e / scaledRate / units ≤ e / units := by
    gcongr
    exact div_le_self he hs
  have hhi' : f / units ≤
      e / units + e / scaledRate / units + units / (k * scaledRate) / units := by
    rw [← add_div, ← add_div]
    gcongr
    rw [mul_add, mul_one, mul_one_div] at hhi
    exact hhi
  have hless : f - f / units ≥ e - units / (k * scaledRate) -
      (e - units / (k * scaledRate)) / units := by
    have hpart : (f - (e - units / (k * scaledRate))) / units ≤
        f - (e - units / (k * scaledRate)) := div_le_self (sub_nonneg.mpr hlo) hu
    rw [sub_div] at hpart
    linarith
  rw [mul_add, mul_one, mul_one_div] at hhi
  rw [hsplit, mul_div_assoc, abs_le]
  rw [sub_div] at hless
  have hg : (0 : ℚ) ≤ units / (k * scaledRate) / units := by positivity
  have heu : 0 ≤ e / units := by positivity
  have hes : 0 ≤ e / scaledRate := by positivity
  constructor
  · linarith
  · linarith

end Drift

end Rates
