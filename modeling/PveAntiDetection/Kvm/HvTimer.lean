import Mathlib.Data.Rat.Floor
import PveAntiDetection.Kvm.NestedTsc

/-!
# The VMX preemption timer

`vmx.c` turns the deadline of a guest timer into a host time once, and at every entry into the
guest into the number of ticks the preemption timer counts down.

* `divq`, `u64ShlDivU64` — the division, which faults, and the test in front of it;
* `vmxSetHvTimer`, `vmxUpdateHvTimer` — the deadline, and the timer at an entry;
* `u64ShlDivU64_eq` — the test is exact: the division never faults;
* `scaledDelta_bounds` — how far the guest counter gets in the time up to the deadline;
* `immediateExitWritten` — an entry that is to exit at once does not wait for the deadline;
* `hvTimer_right` — the timer is on time, and its value fits.
-/

set_option autoImplicit false

namespace Kvm

/-! ## The timer -/

/-- `divq`: it faults on the divisor 0, and on a quotient that does not fit into 64 bits. -/
def divq (high low divisor : BitVec 64) : Option (BitVec 64) :=
  if divisor = 0 ∨ 2 ^ 64 ≤ (high.toNat * 2 ^ 64 + low.toNat) / divisor.toNat then none
  else some (BitVec.ofNat 64 ((high.toNat * 2 ^ 64 + low.toNat) / divisor.toNat))

/-- `u64_shl_div_u64`: `none` if the division faults, and `some none` if it returns 1. -/
def u64ShlDivU64 (a : BitVec 64) (shift : ℕ) (divisor : BitVec 64) : Option (Option (BitVec 64)) :=
  let low := a <<< shift
  let high := a >>> (64 - shift)
  if high ≥ divisor then some none else (divq high low divisor).map some

/-- The part of `struct vcpu_vmx` about the timer, and the field of the VMCS. -/
structure HvTimer where
  hvDeadlineTsc : BitVec 64 := BitVec.allOnes 64
  reqImmediateExit : Bool := false
  hvTimerSoftDisabled : Bool := false
  vmxPreemptionTimerValue : BitVec 32 := 0
  deriving DecidableEq

section Functions

variable (caps : TscCaps) (v : VcpuTsc)

/-- The guest cycles up to the deadline, less those the timer is in advance. -/
def guestDelta (tscl guestDeadlineTsc lapicTimerAdvanceCycles : BitVec 64) : BitVec 64 :=
  let guestTscl := kvmReadL1Tsc caps v tscl
  let deltaTsc := (if guestDeadlineTsc ≤ guestTscl then guestTscl else guestDeadlineTsc) - guestTscl
  if deltaTsc > lapicTimerAdvanceCycles then deltaTsc - lapicTimerAdvanceCycles else 0

/-- The host cycles up to the deadline. -/
def hostDelta (deltaTsc : BitVec 64) : Option (Option (BitVec 64)) :=
  if v.l1TscScalingRatio ≠ caps.defaultTscScalingRatio ∧ deltaTsc ≠ 0 then
    u64ShlDivU64 deltaTsc caps.tscScalingRatioFracBits v.l1TscScalingRatio
  else some (some deltaTsc)

/-- `vmx_set_hv_timer`, at the host reading `tscl`: the result, the timer, and `*expired` where it
is written; `none` if the division faults. -/
def vmxSetHvTimer (cpuPreemptionTimerMulti : ℕ) (vmx : HvTimer)
    (tscl guestDeadlineTsc lapicTimerAdvanceCycles : BitVec 64) :
    Option (Int × HvTimer × Option Bool) :=
  match hostDelta caps v (guestDelta caps v tscl guestDeadlineTsc lapicTimerAdvanceCycles) with
  | none => none
  | some none => some (-34, vmx, none)
  | some (some deltaTsc) =>
    if deltaTsc >>> (cpuPreemptionTimerMulti + 32) ≠ 0 then some (-34, vmx, none)
    else some (0, { vmx with hvDeadlineTsc := tscl + deltaTsc }, some (deltaTsc = 0))

/-- `vmx_update_hv_timer`, at the host reading `tscl`. -/
def vmxUpdateHvTimer (cpuPreemptionTimerMulti : ℕ) (vmx : HvTimer) (tscl : BitVec 64) : HvTimer :=
  if vmx.reqImmediateExit then
    { vmx with vmxPreemptionTimerValue := 0, hvTimerSoftDisabled := false }
  else if vmx.hvDeadlineTsc ≠ BitVec.allOnes 64 then
    let deltaTsc : BitVec 32 :=
      if vmx.hvDeadlineTsc > tscl then
        ((vmx.hvDeadlineTsc - tscl) >>> cpuPreemptionTimerMulti).setWidth 32
      else 0
    { vmx with vmxPreemptionTimerValue := deltaTsc, hvTimerSoftDisabled := false }
  else if ¬ vmx.hvTimerSoftDisabled then
    { vmx with vmxPreemptionTimerValue := BitVec.allOnes 32, hvTimerSoftDisabled := true }
  else vmx

end Functions

/-! ## The host time up to the deadline -/

section Delta

/-- **The test in front of the division is exact**: it lets a quotient through if and only if it has
64 bits, and the division does not fault. -/
theorem u64ShlDivU64_eq (a divisor : BitVec 64) {shift : ℕ} (hshift : shift < 64) :
    u64ShlDivU64 a shift divisor = some
      (if divisor = 0 ∨ 2 ^ 64 ≤ a.toNat * 2 ^ shift / divisor.toNat then none
      else some (BitVec.ofNat 64 (a.toNat * 2 ^ shift / divisor.toNat))) := by
  have hpow : 2 ^ (64 - shift) * 2 ^ shift = 2 ^ 64 := by
    rw [← Nat.pow_add, Nat.sub_add_cancel hshift.le]
  have hhigh : (a >>> (64 - shift)).toNat = a.toNat * 2 ^ shift / 2 ^ 64 := by
    rw [BitVec.toNat_ushiftRight, Nat.shiftRight_eq_div_pow, ← hpow,
      Nat.mul_div_mul_right _ _ (Nat.two_pow_pos _)]
  have hlow : (a <<< shift).toNat = a.toNat * 2 ^ shift % 2 ^ 64 := by
    rw [BitVec.toNat_shiftLeft, Nat.shiftLeft_eq]
  have hwhole : (a >>> (64 - shift)).toNat * 2 ^ 64 + (a <<< shift).toNat =
      a.toNat * 2 ^ shift := by
    rw [hhigh, hlow]
    exact Nat.div_add_mod' _ _
  have htest : (a >>> (64 - shift) ≥ divisor) ↔
      divisor = 0 ∨ 2 ^ 64 ≤ a.toNat * 2 ^ shift / divisor.toNat := by
    rw [ge_iff_le, BitVec.le_def, hhigh]
    by_cases hzero : divisor = 0
    · simp [hzero]
    · have hpos : 0 < divisor.toNat :=
        Nat.pos_of_ne_zero fun h => hzero (BitVec.eq_of_toNat_eq h)
      rw [or_iff_right hzero, Nat.le_div_iff_mul_le (by omega), Nat.le_div_iff_mul_le hpos,
        Nat.mul_comm]
  unfold u64ShlDivU64 divq
  dsimp only
  rw [hwhole]
  by_cases hfits : divisor = 0 ∨ 2 ^ 64 ≤ a.toNat * 2 ^ shift / divisor.toNat
  · rw [if_pos (htest.mpr hfits), if_pos hfits]
  · rw [if_neg fun h => hfits (htest.mp h), if_neg hfits]
    rfl

variable {caps : TscCaps} {v : VcpuTsc}

/-- The guest cycles up to the deadline as an integer. -/
theorem toNat_guestDelta (tscl deadline advance : BitVec 64) :
    (guestDelta caps v tscl deadline advance).toNat =
      max deadline.toNat (kvmReadL1Tsc caps v tscl).toNat - (kvmReadL1Tsc caps v tscl).toNat -
        advance.toNat := by
  unfold guestDelta
  dsimp only
  generalize kvmReadL1Tsc caps v tscl = now
  have hmax : (if deadline ≤ now then now else deadline).toNat = max deadline.toNat now.toNat := by
    split <;> rename_i hle <;> rw [BitVec.le_def] at hle <;> omega
  have hnow : now ≤ (if deadline ≤ now then now else deadline) := by
    rw [BitVec.le_def, hmax]
    omega
  have hdelta := BitVec.toNat_sub_of_le hnow
  rw [hmax] at hdelta
  generalize (if deadline ≤ now then now else deadline) - now = delta at hdelta ⊢
  split
  · rename_i hgt
    rw [BitVec.toNat_sub_of_le (BitVec.le_of_lt hgt), hdelta]
  · rename_i hle
    rw [gt_iff_lt, BitVec.lt_def, hdelta] at hle
    simp only [BitVec.ofNat_eq_ofNat, BitVec.toNat_ofNat, Nat.zero_mod]
    omega

/-- The host cycles are at least so many that the guest counter gets past the deadline by no more
than one multiple of the ratio, and not more than up to it. -/
theorem hostDelta_some (hf : caps.tscScalingRatioFracBits < 64) {deltaTsc delta : BitVec 64}
    (h : hostDelta caps v deltaTsc = some (some delta)) :
    delta.toNat * v.l1TscScalingRatio.toNat ≤ deltaTsc.toNat * 2 ^ caps.tscScalingRatioFracBits ∧
      deltaTsc.toNat * 2 ^ caps.tscScalingRatioFracBits ≤
        (delta.toNat + 1) * v.l1TscScalingRatio.toNat := by
  unfold hostDelta at h
  split at h
  · rw [u64ShlDivU64_eq _ _ hf] at h
    split at h
    · cases h
    · rename_i hfits
      rw [not_or, Nat.not_le] at hfits
      have hpos : 0 < v.l1TscScalingRatio.toNat :=
        Nat.pos_of_ne_zero fun hzero => hfits.1 (BitVec.eq_of_toNat_eq hzero)
      cases h
      rw [BitVec.toNat_ofNat, Nat.mod_eq_of_lt hfits.2]
      refine ⟨Nat.div_mul_le_self _ _, ?_⟩
      rw [Nat.mul_comm (_ + 1)]
      exact (Nat.lt_mul_div_succ _ hpos).le
  · rename_i hno
    cases h
    by_cases hdefault : v.l1TscScalingRatio = caps.defaultTscScalingRatio
    · rw [hdefault, toNat_defaultTscScalingRatio hf]
      exact ⟨Nat.le_refl _, Nat.mul_le_mul_right _ (Nat.le_succ _)⟩
    · have hzero : deltaTsc = 0 := by
        by_contra hne
        exact hno ⟨hdefault, hne⟩
      simp [hzero]

/-- The division does not fault. -/
theorem hostDelta_ne_none (hf : caps.tscScalingRatioFracBits < 64) (deltaTsc : BitVec 64) :
    hostDelta caps v deltaTsc ≠ none := by
  unfold hostDelta
  split
  · rw [u64ShlDivU64_eq _ _ hf]
    simp
  · simp

/-- The ticks of the guest in `delta` ticks of the host from `t` on. -/
theorem scaled_add (t delta m one : ℕ) :
    t * m / one + delta * m / one ≤ (t + delta) * m / one ∧
      (t + delta) * m / one ≤ t * m / one + delta * m / one + 1 := by
  rw [Nat.add_mul]
  by_cases hone : one = 0
  · simp [hone]
  · have hsum := Nat.add_div (a := t * m) (b := delta * m) (Nat.pos_of_ne_zero hone)
    split at hsum <;> omega

/-- **How far the guest counter gets**: past the deadline by one tick at most, and short of it by
the ticks at most that one tick of the host is worth. -/
theorem scaledDelta_bounds (t : ℕ) {g delta m one : ℕ} (hone : 0 < one)
    (hle : delta * m ≤ g * one) (hge : g * one ≤ (delta + 1) * m) :
    (g : ℤ) - ⌈(m : ℚ) / one⌉ ≤ ((t + delta) * m / one : ℕ) - (t * m / one : ℕ) ∧
      (((t + delta) * m / one : ℕ) : ℤ) - (t * m / one : ℕ) ≤ g + 1 := by
  obtain ⟨hlow, hhigh⟩ := scaled_add t delta m one
  have hdelta : delta * m / one ≤ g := Nat.div_le_of_le_mul (by rwa [Nat.mul_comm one])
  constructor
  · have hceil : (m : ℤ) ≤ ⌈(m : ℚ) / one⌉ * one := by
      have hpos : (0 : ℚ) < one := by exact_mod_cast hone
      have hle := Int.le_ceil ((m : ℚ) / one)
      rw [div_le_iff₀ hpos] at hle
      exact_mod_cast hle
    have hquotient : (g : ℤ) - ⌈(m : ℚ) / one⌉ ≤ (delta * m / one : ℕ) := by
      rw [Int.natCast_div]
      refine Int.le_ediv_of_mul_le (by exact_mod_cast hone) ?_
      have hge' : (g : ℤ) * one ≤ (delta + 1) * m := by exact_mod_cast hge
      rw [sub_mul]
      push_cast
      linarith
    generalize (t + delta) * m / one = b at hlow hhigh ⊢
    generalize delta * m / one = q at hlow hhigh hquotient
    generalize t * m / one = a at hlow hhigh ⊢
    omega
  · generalize (t + delta) * m / one = b at hlow hhigh ⊢
    generalize t * m / one = a at hlow hhigh ⊢
    omega

end Delta

/-! ## The timer at later entries -/

section Entries

/-- The value at an entry fits into its field. -/
theorem vmxUpdateHvTimer_value {multi : ℕ} {vmx : HvTimer} {tscl : BitVec 64}
    (hset : vmx.hvDeadlineTsc ≠ BitVec.allOnes 64)
    (hsoon : vmx.hvDeadlineTsc.toNat - tscl.toNat < 2 ^ (multi + 32)) :
    (vmxUpdateHvTimer multi vmx tscl).vmxPreemptionTimerValue.toNat =
      if vmx.reqImmediateExit then 0
      else (vmx.hvDeadlineTsc.toNat - tscl.toNat) / 2 ^ multi := by
  unfold vmxUpdateHvTimer
  split
  · rfl
  · dsimp only
    split
    · rename_i hlater
      rw [BitVec.toNat_setWidth, BitVec.toNat_ushiftRight, Nat.shiftRight_eq_div_pow,
        BitVec.toNat_sub_of_le (BitVec.le_of_lt hlater)]
      refine Nat.mod_eq_of_lt ?_
      rw [Nat.div_lt_iff_lt_mul (Nat.two_pow_pos _), ← Nat.pow_add, Nat.add_comm 32]
      exact hsoon
    · rename_i hpast
      rw [gt_iff_lt, BitVec.lt_def] at hpast
      have hzero : vmx.hvDeadlineTsc.toNat - tscl.toNat = 0 := by omega
      rw [hzero, Nat.zero_div]
      rfl

/-- An immediate exit is requested at a reading 1000 cycles before the deadline. -/
theorem immediateExitWritten :
    let vmx : HvTimer := { reqImmediateExit := true }
    vmxSetHvTimer { tscKhz := 3000000 } { l1TscScalingRatio := 2 ^ 48 } 5 vmx 0 1000 0 =
        some (0, { vmx with hvDeadlineTsc := 1000 }, some false) ∧
      (vmxUpdateHvTimer 5 { vmx with hvDeadlineTsc := 1000 } 0).vmxPreemptionTimerValue ≠
        1000 >>> 5 := by
  decide +kernel

/-- What holds of the deadline `h` that is set at `t` for `g` guest cycles. -/
structure OnTime (caps : TscCaps) (v : VcpuTsc) (multi : ℕ) (t : BitVec 64) (g : ℕ)
    (vmx : HvTimer) : Prop where
  reached : ∃ d : ℤ, kvmScaleTsc caps vmx.hvDeadlineTsc v.l1TscScalingRatio -
      kvmScaleTsc caps t v.l1TscScalingRatio = BitVec.ofInt 64 d ∧
    g - ⌈(v.l1TscScalingRatio.toNat : ℚ) / 2 ^ caps.tscScalingRatioFracBits⌉ ≤ d ∧ d ≤ g + 1
  value : ∀ t' : BitVec 64, t ≤ t' →
    (vmxUpdateHvTimer multi vmx t').vmxPreemptionTimerValue.toNat =
      if vmx.reqImmediateExit then 0
      else (vmx.hvDeadlineTsc.toNat - t'.toNat) >>> multi
  expires : ∀ t' : BitVec 64, t ≤ t' →
    t'.toNat + (vmxUpdateHvTimer multi vmx t').vmxPreemptionTimerValue.toNat * 2 ^ multi ≤
      max vmx.hvDeadlineTsc.toNat t'.toNat

/-- **The preemption timer is on time**: the division never faults, and a deadline that is accepted
and does not wrap is at most one guest tick late and one host tick early; at every later entry the
timer gets the cycles that are left in its unit, which fit into its field, or 0 if the entry is to
exit at once, and so expires no later than at the deadline. -/
theorem hvTimer_right {caps : TscCaps} (v : VcpuTsc) (multi : ℕ) (vmx : HvTimer)
    (t deadline advance : BitVec 64) (hf : caps.tscScalingRatioFracBits < 64) :
    ∃ r, vmxSetHvTimer caps v multi vmx t deadline advance = some r ∧
      (r.1 = 0 → ∃ delta : BitVec 64,
        hostDelta caps v (guestDelta caps v t deadline advance) = some (some delta) ∧
          (t.toNat + delta.toNat < 2 ^ 64 - 1 → OnTime caps v multi t
            (max deadline.toNat (kvmReadL1Tsc caps v t).toNat - (kvmReadL1Tsc caps v t).toNat -
              advance.toNat) r.2.1)) := by
  unfold vmxSetHvTimer
  split
  · rename_i hfault
    exact absurd hfault (hostDelta_ne_none hf _)
  · exact ⟨_, rfl, fun hzero => absurd hzero (by simp)⟩
  · rename_i delta hdelta
    split
    · exact ⟨_, rfl, fun hzero => absurd hzero (by simp)⟩
    · rename_i hsoon
      rw [not_not] at hsoon
      refine ⟨_, rfl, fun _ => ⟨delta, hdelta, fun hwrap => ?_⟩⟩
      have hh : (t + delta).toNat = t.toNat + delta.toNat := by
        rw [BitVec.toNat_add]
        exact Nat.mod_eq_of_lt (by omega)
      have hset : t + delta ≠ BitVec.allOnes 64 := by
        intro heq
        rw [heq, BitVec.toNat_allOnes] at hh
        omega
      have hfits : delta.toNat < 2 ^ (multi + 32) := by
        have hzero := congrArg BitVec.toNat hsoon
        rw [BitVec.toNat_ushiftRight, Nat.shiftRight_eq_div_pow] at hzero
        exact Nat.lt_of_div_eq_zero (Nat.two_pow_pos _) (by simpa using hzero)
      have hvalue : ∀ t' : BitVec 64, t ≤ t' →
          (vmxUpdateHvTimer multi { vmx with hvDeadlineTsc := t + delta }
              t').vmxPreemptionTimerValue.toNat =
            if vmx.reqImmediateExit then 0
            else ((t + delta).toNat - t'.toNat) / 2 ^ multi := by
        intro t' ht'
        rw [BitVec.le_def] at ht'
        refine vmxUpdateHvTimer_value hset ?_
        show (t + delta).toNat - t'.toNat < _
        omega
      constructor
      · obtain ⟨hle, hge⟩ := hostDelta_some hf hdelta
        obtain ⟨hlow, hhigh⟩ := scaledDelta_bounds t.toNat (Nat.two_pow_pos _) hle hge
        rw [toNat_guestDelta] at hlow hhigh
        refine ⟨_, ?_, by exact_mod_cast hlow, hhigh⟩
        rw [kvmScaleTsc_eq hf, kvmScaleTsc_eq hf, hh, Int.sub_eq_add_neg, BitVec.ofInt_add,
          BitVec.ofInt_neg, BitVec.ofInt_natCast, BitVec.ofInt_natCast, BitVec.sub_eq_add_neg]
      · intro t' ht'
        rw [hvalue t' ht', Nat.shiftRight_eq_div_pow]
      · intro t' ht'
        rw [hvalue t' ht']
        split
        · omega
        · have hmul := Nat.div_mul_le_self ((t + delta).toNat - t'.toNat) (2 ^ multi)
          show _ ≤ max (t + delta).toNat t'.toNat
          omega

theorem hvTimer_right_scaled :
    ∃ r, vmxSetHvTimer { tscKhz := 3000000 } { l1TscScalingRatio := 2 ^ 47 } 5 {} 0 1000 10 =
        some r ∧
      (r.1 = 0 → ∃ delta : BitVec 64,
        hostDelta { tscKhz := 3000000 } { l1TscScalingRatio := 2 ^ 47 }
            (guestDelta { tscKhz := 3000000 } { l1TscScalingRatio := 2 ^ 47 } 0 1000 10) =
          some (some delta) ∧
          ((0 : BitVec 64).toNat + delta.toNat < 2 ^ 64 - 1 →
            OnTime { tscKhz := 3000000 } { l1TscScalingRatio := 2 ^ 47 } 5 0
              (max (1000 : BitVec 64).toNat
                  (kvmReadL1Tsc { tscKhz := 3000000 } { l1TscScalingRatio := 2 ^ 47 } 0).toNat -
                (kvmReadL1Tsc { tscKhz := 3000000 } { l1TscScalingRatio := 2 ^ 47 } 0).toNat -
                  (10 : BitVec 64).toNat) r.2.1)) :=
  hvTimer_right _ 5 {} 0 1000 10 (by simp)

end Entries

end Kvm
