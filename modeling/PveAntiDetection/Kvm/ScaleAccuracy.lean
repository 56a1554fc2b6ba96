import Mathlib.Algebra.Order.Field.Power
import PveAntiDetection.Lib.FixedPoint
import PveAntiDetection.Kvm.TimeScale

/-!
# How accurate a time scale is

The scale that `kvm_get_time_scale` returns is a quotient of two frequencies whose low bits the two
loops have dropped.

* `scaleDown_scaledDown`, `scaleUp_scaledUp` — what the loops leave of the two frequencies;
* `kvmGetTimeScale_ratio` — the scale is a rounded quotient of rounded numbers;
* `kvmGetTimeScale_accurate` — a second of ticks is converted with an error of 2 and of
  one part in 2^28.
-/

set_option autoImplicit false

namespace Kvm

open FixedPoint

/-! ## The loops -/

section Loops

/-- The base frequency has been shifted down by `k`, and by no more than the loop needs. -/
structure ScaledDown (scaled base : ℕ) (r : BitVec 64 × ℤ) (k : ℕ) : Prop where
  shift : r.2 = -k
  tps : r.1.toNat = base / 2 ^ k
  large : k ≠ 0 → scaled ≤ r.1.toNat ∨ 2 ^ 31 ≤ r.1.toNat

/-- The target frequency has been shifted down by `a`, and the base frequency up by `b`. -/
structure ScaledUp (s t : ScaleUp) (a b : ℕ) : Prop where
  shift : t.shift = s.shift + a + b
  scaled : t.scaled64.toNat = s.scaled64.toNat / 2 ^ a
  tps : t.tps32.toNat = s.tps32.toNat * 2 ^ b
  large : a ≠ 0 → 2 ^ 30 ≤ t.scaled64.toNat
  small : b ≠ 0 → t.tps32.toNat ≤ 2 * s.scaled64.toNat

theorem toNat_half (x : BitVec 64) : (x >>> 1).toNat = x.toNat / 2 := by
  rw [BitVec.toNat_ushiftRight, Nat.shiftRight_eq_div_pow]

variable {scaled base : BitVec 64}

theorem toNat_twice (hscaled : scaled.toNat < 2 ^ 63) :
    (scaled * 2).toNat = 2 * scaled.toNat := by
  have htwo : (2 : BitVec 64).toNat = 2 := rfl
  rw [BitVec.toNat_mul, htwo, Nat.mul_comm]
  exact Nat.mod_eq_of_lt (by omega)

/-- One round of the first loop halves a frequency that is too large. -/
theorem ScaledDown.body {s : BitVec 64 × ℤ} {k : ℕ} (hscaled : scaled.toNat < 2 ^ 63)
    (hs : ScaledDown scaled.toNat base.toNat s k)
    (hcond : (s.1 > scaled * 2 || hasUpperHalf s.1) = true) :
    ScaledDown scaled.toNat base.toNat (s.1 >>> 1, s.2 - 1) (k + 1) := by
  have htwo := toNat_twice hscaled
  have hhalf := toNat_half s.1
  constructor
  · have hshift := hs.shift
    simp only
    omega
  · simp only [hhalf, hs.tps]
    rw [Nat.div_div_eq_div_mul, Nat.pow_succ]
  · intro _
    simp only [hhalf]
    rw [Bool.or_eq_true, decide_eq_true_eq] at hcond
    rcases hcond with hgt | hupper
    · have hlt := BitVec.lt_def.mp hgt
      omega
    · have hge := toNat_lt_of_hasUpperHalf hupper
      omega

/-- **What the first loop leaves** has 32 bits, and at most twice the target frequency. -/
theorem scaleDown_scaledDown {fuel : ℕ} {r : BitVec 64 × ℤ} (hscaled : scaled.toNat < 2 ^ 63)
    (hr : scaleDown scaled fuel (base, 0) = some r) :
    r.1.toNat ≤ 2 * scaled.toNat ∧ r.1.toNat < 2 ^ 32 ∧
      ∃ k, ScaledDown scaled.toNat base.toNat r k := by
  have hbody : ∀ s : BitVec 64 × ℤ, (∃ k, ScaledDown scaled.toNat base.toNat s k) →
      (s.1 > scaled * 2 || hasUpperHalf s.1) = true →
        ∃ k, ScaledDown scaled.toNat base.toNat (s.1 >>> 1, s.2 - 1) k := by
    rintro s ⟨k, hs⟩ hcond
    exact ⟨k + 1, hs.body hscaled hcond⟩
  obtain ⟨hk, hdone⟩ := Loops.loop_some hbody
    (s := (base, 0)) ⟨0, by simp, by simp, fun hne => absurd rfl hne⟩ hr
  rw [Bool.or_eq_false_iff, decide_eq_false_iff_not] at hdone
  refine ⟨?_, hasUpperHalf_eq_false_iff.mp hdone.2, hk⟩
  have hle := BitVec.not_lt.mp hdone.1
  rw [BitVec.le_def, toNat_twice hscaled] at hle
  exact hle

/-- The base frequency that the loop leaves is not 0. -/
theorem ScaledDown.tps_pos {r : BitVec 64 × ℤ} {k scaled base : ℕ}
    (hr : ScaledDown scaled base r k) (hscaled : 0 < scaled) (hbase : 0 < base) :
    0 < r.1.toNat := by
  by_cases hk : k = 0
  · have htps := hr.tps
    rw [hk, Nat.pow_zero, Nat.div_one] at htps
    omega
  · have hlarge := hr.large hk
    omega

/-- One round of the second loop halves the one frequency or doubles the other. -/
theorem ScaledUp.body {s t : ScaleUp} {a b : ℕ} (ht : ScaledUp s t a b)
    (hcond : t.continues = true) : ∃ a b, ScaledUp s t.body a b := by
  have htps : (t.tps32.setWidth 64).toNat = t.tps32.toNat := BitVec.toNat_setWidth_of_le (by omega)
  rw [ScaleUp.continues, Bool.or_eq_true, decide_eq_true_eq, BitVec.le_def, htps] at hcond
  have hshift := ht.shift
  unfold ScaleUp.body
  split
  · rename_i hhalve
    refine ⟨a + 1, b, ?_, ?_, ht.tps, ?_, ht.small⟩
    · simp only
      omega
    · simp only [toNat_half, ht.scaled]
      rw [Nat.div_div_eq_div_mul, Nat.pow_succ]
    · -- it has 33 bits, or 32 because the other one has
      intro _
      simp only [toNat_half]
      rcases hhalve with hupper | hmsb
      · have hge := toNat_lt_of_hasUpperHalf hupper
        omega
      · have hge := BitVec.msb_eq_true_iff_two_mul_ge.mp hmsb
        rcases hcond with hle | hupper
        · omega
        · have hge := toNat_lt_of_hasUpperHalf hupper
          omega
  · rename_i hdouble
    rw [not_or] at hdouble
    have hmsb : t.tps32.toNat < 2 ^ 31 := by
      have hfalse := Bool.eq_false_iff.mpr hdouble.2
      rw [BitVec.msb_eq_false_iff_two_mul_lt] at hfalse
      omega
    have htwice : (t.tps32 <<< 1).toNat = t.tps32.toNat * 2 := by
      rw [BitVec.toNat_shiftLeft, Nat.shiftLeft_eq]
      omega
    have hle : t.tps32.toNat ≤ t.scaled64.toNat := by
      rcases hcond with hle | hupper
      · exact hle
      · exact absurd hupper hdouble.1
    refine ⟨a, b + 1, ?_, ht.scaled, ?_, ht.large, ?_⟩
    · simp only
      omega
    · simp only [htwice, ht.tps]
      rw [Nat.pow_succ, Nat.mul_assoc]
    · intro _
      have hscaled : t.scaled64.toNat ≤ s.scaled64.toNat := by
        rw [ht.scaled]
        exact Nat.div_le_self _ _
      simp only [htwice]
      omega

/-- **What the second loop leaves**: the target frequency has 32 bits, and the base frequency is
more than it. -/
theorem scaleUp_scaledUp {fuel : ℕ} {s t : ScaleUp} (ht : scaleUp fuel s = some t) :
    t.scaled64.toNat < 2 ^ 32 ∧ t.scaled64.toNat < t.tps32.toNat ∧ ∃ a b, ScaledUp s t a b := by
  have hbody : ∀ t : ScaleUp, (∃ a b, ScaledUp s t a b) → t.continues = true →
      ∃ a b, ScaledUp s t.body a b := by
    rintro t ⟨a, b, ht⟩ hcond
    exact ht.body hcond
  obtain ⟨hab, hdone⟩ := Loops.loop_some hbody
    ⟨0, 0, by simp, by simp, by simp, fun hne => absurd rfl hne, fun hne => absurd rfl hne⟩ ht
  rw [ScaleUp.continues, Bool.or_eq_false_iff, decide_eq_false_iff_not] at hdone
  refine ⟨hasUpperHalf_eq_false_iff.mp hdone.2, ?_, hab⟩
  have hlt := BitVec.not_le.mp hdone.1
  rw [BitVec.lt_def, BitVec.toNat_setWidth_of_le (by omega)] at hlt
  exact hlt

theorem divFrac_eq {dividend divisor q : BitVec 32} (hq : divFrac dividend divisor = some q) :
    q.toNat = dividend.toNat * 2 ^ 32 / divisor.toNat := by
  unfold divFrac at hq
  split at hq
  · cases hq
  · rename_i hno
    rw [not_or, Nat.not_le] at hno
    rw [← Option.some.inj hq, BitVec.toNat_ofNat, Nat.mod_eq_of_lt hno.2]

end Loops

/-! ## The scale -/

section Scale

variable {fuel : ℕ} {scaledHz baseHz : BitVec 64} {r : ℤ × BitVec 32}

/-- The shift and the multiplier: the base frequency has lost `k` bits, and the target frequency `a`
of them. -/
structure TimeScale (scaled base : ℕ) (r : ℤ × BitVec 32) (k a b rate goal : ℕ) : Prop where
  shift : r.1 = a + b - k
  ratio : Ratio base scaled (2 ^ 32) (2 ^ k) (2 ^ a) (2 ^ b) rate goal r.2.toNat
  rate_exact : k = 0 → rate = base
  rate_large : k ≠ 0 → scaled ≤ rate ∨ 2 ^ 31 ≤ rate
  goal_exact : a = 0 → goal = scaled
  goal_large : a ≠ 0 → 2 ^ 30 ≤ goal

theorem div_two_pow_bounds (n k : ℕ) :
    n / 2 ^ k * 2 ^ k ≤ n ∧ n < (n / 2 ^ k + 1) * 2 ^ k := by
  refine ⟨Nat.div_mul_le_self _ _, ?_⟩
  rw [Nat.mul_comm]
  exact Nat.lt_mul_div_succ _ (Nat.two_pow_pos k)

/-- **The scale is a rounded quotient of rounded numbers.** -/
theorem kvmGetTimeScale_ratio (hbase : 1 ≤ baseHz.toNat) (hpos : 1 ≤ scaledHz.toNat)
    (hlt : scaledHz.toNat < 2 ^ 63) (hr : kvmGetTimeScale fuel scaledHz baseHz = some r) :
    ∃ k a b rate goal, TimeScale scaledHz.toNat baseHz.toNat r k a b rate goal := by
  simp only [kvmGetTimeScale, Option.bind_eq_bind, Option.bind_eq_some_iff] at hr
  obtain ⟨d, hd, u, hu, q, hq, hr⟩ := hr
  obtain ⟨-, hd32, k, hdown⟩ := scaleDown_scaledDown hlt hd
  obtain ⟨hu32, hgt, a, b, hup⟩ := scaleUp_scaledUp hu
  have hrate : (d.1.setWidth 32).toNat = d.1.toNat := by
    rw [BitVec.toNat_setWidth, Nat.mod_eq_of_lt hd32]
  have hgoal : (u.scaled64.setWidth 32).toNat = u.scaled64.toNat := by
    rw [BitVec.toNat_setWidth, Nat.mod_eq_of_lt hu32]
  have htps := hup.tps
  have hscaled := hup.scaled
  simp only [hrate] at htps hscaled
  have hmul := divFrac_eq hq
  rw [hgoal, htps] at hmul
  obtain ⟨hratele, hratelt⟩ := div_two_pow_bounds baseHz.toNat k
  obtain ⟨hgoalle, hgoallt⟩ := div_two_pow_bounds scaledHz.toNat a
  rw [← hdown.tps] at hratele hratelt
  rw [← hscaled] at hgoalle hgoallt
  cases hr
  refine ⟨k, a, b, d.1.toNat, u.scaled64.toNat, ?_, ?_, ?_, hdown.large, ?_, hup.large⟩
  · have hshift := hup.shift
    have hdshift := hdown.shift
    simp only at hshift ⊢
    omega
  · refine ⟨Nat.two_pow_pos k, Nat.two_pow_pos a, Nat.two_pow_pos b, hdown.tps_pos hpos hbase,
      hratele, hratelt, hgoalle, hgoallt, ?_, hmul⟩
    have hfits := u.tps32.isLt
    omega
  · rintro rfl
    rw [hdown.tps, Nat.pow_zero, Nat.div_one]
  · rintro rfl
    rw [hscaled, Nat.pow_zero, Nat.div_one]

/-- Every shift is less than the width of its frequency. -/
theorem TimeScale.shift_bounds {scaled base k a b rate goal : ℕ}
    (h : TimeScale scaled base r k a b rate goal) (hbase : base < 2 ^ 64)
    (hlt : scaled < 2 ^ 63) : -63 ≤ r.1 ∧ r.1 ≤ 94 := by
  have hk : k < 64 := by
    rw [← Nat.pow_lt_pow_iff_right (show 1 < 2 by omega)]
    calc 2 ^ k = 1 * 2 ^ k := (Nat.one_mul _).symm
      _ ≤ rate * 2 ^ k := Nat.mul_le_mul_right _ h.ratio.rate_pos
      _ ≤ base := h.ratio.rate_le
      _ < 2 ^ 64 := hbase
  have hb : b ≤ 32 := by
    rw [← Nat.pow_le_pow_iff_right (show 1 < 2 by omega)]
    calc 2 ^ b = 1 * 2 ^ b := (Nat.one_mul _).symm
      _ ≤ rate * 2 ^ b := Nat.mul_le_mul_right _ h.ratio.rate_pos
      _ ≤ 2 ^ 32 := h.ratio.fits
  have ha : a < 63 := by
    by_cases hzero : a = 0
    · omega
    · rw [← Nat.pow_lt_pow_iff_right (show 1 < 2 by omega)]
      have hgoal := h.goal_large hzero
      calc 2 ^ a = 1 * 2 ^ a := (Nat.one_mul _).symm
        _ ≤ goal * 2 ^ a := Nat.mul_le_mul_right _ (by omega)
        _ ≤ scaled := h.ratio.goal_le
        _ < 2 ^ 63 := hlt
  have hshift := h.shift
  omega

/-- Too much is converted only where the base frequency has lost bits. -/
theorem TimeScale.value_le {scaled base k a b rate goal : ℕ}
    (h : TimeScale scaled base r k a b rate goal) :
    (base : ℚ) * (2 ^ a * 2 ^ b / 2 ^ k) * r.2.toNat / 2 ^ 32 ≤ scaled + 1 + scaled / 2 ^ 31 := by
  have hrate : (0 : ℚ) < rate := by exact_mod_cast h.ratio.rate_pos
  have hvalue := h.ratio.value_le
  simp only [Nat.cast_pow, Nat.cast_ofNat] at hvalue
  by_cases hk : k = 0
  · have hexact := h.rate_exact hk
    rw [hk, hexact, pow_zero, mul_one, div_self (by rw [← hexact]; exact hrate.ne')] at hvalue
    rw [hk]
    have hscaled : (0 : ℚ) ≤ scaled / 2 ^ 31 := by positivity
    linarith
  · have hlost : (base : ℚ) / (rate * 2 ^ k) ≤ 1 + 1 / rate := by
      have hlt : (base : ℚ) < (rate + 1) * 2 ^ k := by exact_mod_cast h.ratio.rate_lt
      rw [div_le_iff₀ (by positivity)]
      calc (base : ℚ) ≤ (rate + 1) * 2 ^ k := hlt.le
        _ = (1 + 1 / rate) * (rate * 2 ^ k) := by field_simp
    have hpart : (scaled : ℚ) / rate ≤ 1 + scaled / 2 ^ 31 := by
      have hscaled : (0 : ℚ) ≤ scaled / 2 ^ 31 := by positivity
      rcases h.rate_large hk with hge | hge
      · have hone : (scaled : ℚ) / rate ≤ 1 := by
          rw [div_le_one hrate]
          exact_mod_cast hge
        linarith
      · have hge' : (2 : ℚ) ^ 31 ≤ rate := by exact_mod_cast hge
        have hle : (scaled : ℚ) / rate ≤ scaled / 2 ^ 31 := by gcongr
        linarith
    calc (base : ℚ) * (2 ^ a * 2 ^ b / 2 ^ k) * r.2.toNat / 2 ^ 32
        ≤ scaled * (base / (rate * 2 ^ k)) := hvalue
      _ ≤ scaled * (1 + 1 / rate) := by gcongr
      _ = scaled + scaled / rate := by ring
      _ ≤ scaled + 1 + scaled / 2 ^ 31 := by linarith

/-- Too little is converted where the target frequency has lost bits, or the quotient some. -/
theorem TimeScale.le_value {scaled base k a b rate goal : ℕ}
    (h : TimeScale scaled base r k a b rate goal) :
    (scaled : ℚ) - 1 - scaled / 2 ^ 29 ≤
      base * (2 ^ a * 2 ^ b / 2 ^ k) * r.2.toNat / 2 ^ 32 := by
  have hvalue := h.ratio.le_value
  simp only [Nat.cast_pow, Nat.cast_ofNat] at hvalue
  have hscaled : (0 : ℚ) ≤ scaled / 2 ^ 29 := by positivity
  by_cases ha : a = 0
  · have hexact := h.goal_exact ha
    rw [hexact] at hvalue
    rw [ha] at hvalue ⊢
    linarith
  · have hlt : (scaled : ℚ) < (goal + 1) * 2 ^ a := by exact_mod_cast h.ratio.goal_lt
    have hhalf : (2 : ℚ) * 2 ^ a ≤ scaled / 2 ^ 29 := by
      have hge : (2 : ℚ) ^ 30 ≤ goal := by exact_mod_cast h.goal_large ha
      have hle : (goal : ℚ) * 2 ^ a ≤ scaled := by exact_mod_cast h.ratio.goal_le
      rw [le_div_iff₀ (by positivity)]
      calc (2 : ℚ) * 2 ^ a * 2 ^ 29 = 2 ^ 30 * 2 ^ a := by ring
        _ ≤ (goal : ℚ) * 2 ^ a := by gcongr
        _ ≤ scaled := hle
    linarith

/-- **The scale is accurate**: the loops end, the shift fits into 8 bits, and a second of ticks is
off by 2 and by one part in 2^28 at most. -/
theorem kvmGetTimeScale_accurate (hbase : 1 ≤ baseHz.toNat) (hpos : 1 ≤ scaledHz.toNat)
    (hlt : scaledHz.toNat < 2 ^ 63) :
    (∃ fuel r, kvmGetTimeScale fuel scaledHz baseHz = some r) ∧
      ∀ fuel r, kvmGetTimeScale fuel scaledHz baseHz = some r →
        -128 ≤ r.1 ∧ r.1 ≤ 127 ∧
          |(baseHz.toNat : ℚ) * 2 ^ r.1 * r.2.toNat / 2 ^ 32 - scaledHz.toNat| ≤
            2 + (scaledHz.toNat : ℚ) * 2 ^ (-28 : ℤ) := by
  refine ⟨?_, fun fuel r hr => ?_⟩
  · refine (kvmGetTimeScale_returns_iff ?_).mpr ?_
    · intro hzero
      have htwice := toNat_twice hlt
      rw [hzero] at htwice
      simp at htwice
      omega
    · rintro rfl
      simp at hbase
  · obtain ⟨k, a, b, rate, goal, hscale⟩ := kvmGetTimeScale_ratio hbase hpos hlt hr
    obtain ⟨hlow, hhigh⟩ := hscale.shift_bounds baseHz.isLt hlt
    refine ⟨by omega, by omega, ?_⟩
    have hpow : (2 : ℚ) ^ r.1 = 2 ^ a * 2 ^ b / 2 ^ k := by
      rw [hscale.shift, zpow_sub₀ two_ne_zero, zpow_add₀ two_ne_zero]
      simp only [zpow_natCast]
    have hle := hscale.value_le
    have hge := hscale.le_value
    have hscaled : (0 : ℚ) ≤ scaledHz.toNat := by positivity
    have heighth : (2 : ℚ) ^ (-28 : ℤ) = 1 / 2 ^ 28 := by
      rw [zpow_neg, one_div]
      rfl
    rw [hpow, heighth, abs_le]
    constructor <;> linarith

theorem kvmGetTimeScale_accurate_tsc :
    (∃ fuel r, kvmGetTimeScale fuel nsecPerSec 3000000000 = some r) ∧
      ∀ fuel r, kvmGetTimeScale fuel nsecPerSec 3000000000 = some r →
        -128 ≤ r.1 ∧ r.1 ≤ 127 ∧
          |((3000000000 : BitVec 64).toNat : ℚ) * 2 ^ r.1 * r.2.toNat / 2 ^ 32 -
              nsecPerSec.toNat| ≤ 2 + (nsecPerSec.toNat : ℚ) * 2 ^ (-28 : ℤ) :=
  kvmGetTimeScale_accurate (by decide) (by decide) (by decide)

end Scale

end Kvm
