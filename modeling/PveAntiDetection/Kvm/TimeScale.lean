import Mathlib.Tactic.ByContra
import PveAntiDetection.Lib.Loops
import PveAntiDetection.Kvm.Tsc

/-!
# The scale of the guest clock

How `x86.c` turns frequencies into a shift and a multiplier, with two loops that have no bound of
their own.

* `divFrac`, `kvmGetTimeScale` — the division, which faults, and the loops in front of it;
* `setTscKhz`, `kvmSetTscKhz`, `kvmIoctlSetTscKhz` — the frequency that userspace sets;
* `kvmGuestTimeUpdate` — the clock update;
* `kvmGetTimeScale_returns_iff` — the loops end exactly when the base frequency is not 0;
* `clockUpdates_iff` — when every update of a run returns.
-/

set_option autoImplicit false

namespace Kvm

/-! ## Time scales -/

/-- `NSEC_PER_SEC`. -/
def nsecPerSec : BitVec 64 := 1000000000

/-- `div_frac`: the dividend shifted up by 32 bits.  `divl` faults on the divisor 0, and on a
quotient that does not fit into 32 bits. -/
def divFrac (dividend divisor : BitVec 32) : Option (BitVec 32) :=
  if divisor = 0 ∨ 2 ^ 32 ≤ dividend.toNat * 2 ^ 32 / divisor.toNat then none
  else some (BitVec.ofNat 32 (dividend.toNat * 2 ^ 32 / divisor.toNat))

/-- The mask of the upper half. -/
def upperHalf : BitVec 64 := 0xffffffff00000000

/-- A bit in the upper half. -/
def hasUpperHalf (x : BitVec 64) : Bool := x &&& upperHalf ≠ 0

/-- The first loop of `kvm_get_time_scale`, on `tps64` and the shift. -/
def scaleDown (scaled64 : BitVec 64) : Nat → BitVec 64 × Int → Option (BitVec 64 × Int) :=
  Loops.loop (fun s => s.1 > scaled64 * 2 || hasUpperHalf s.1) fun s => (s.1 >>> 1, s.2 - 1)

/-- The variables of the second loop. -/
structure ScaleUp where
  tps32 : BitVec 32
  scaled64 : BitVec 64
  shift : Int
  deriving DecidableEq

/-- The condition of the second loop. -/
def ScaleUp.continues (s : ScaleUp) : Bool :=
  s.tps32.setWidth 64 ≤ s.scaled64 || hasUpperHalf s.scaled64

/-- The body of the second loop. -/
def ScaleUp.body (s : ScaleUp) : ScaleUp :=
  if hasUpperHalf s.scaled64 ∨ s.tps32.msb then
    { s with scaled64 := s.scaled64 >>> 1, shift := s.shift + 1 }
  else { s with tps32 := s.tps32 <<< 1, shift := s.shift + 1 }

/-- The second loop of `kvm_get_time_scale`. -/
def scaleUp : Nat → ScaleUp → Option ScaleUp := Loops.loop ScaleUp.continues ScaleUp.body

/-- `kvm_get_time_scale`: the shift and the multiplier. -/
def kvmGetTimeScale (fuel : Nat) (scaledHz baseHz : BitVec 64) : Option (Int × BitVec 32) := do
  let r ← scaleDown scaledHz fuel (baseHz, 0)
  let s ← scaleUp fuel ⟨r.1.setWidth 32, scaledHz, r.2⟩
  let multiplier ← divFrac (s.scaled64.setWidth 32) s.tps32
  return (s.shift, multiplier)

/-! ## The frequency of a virtual CPU -/

/-- `adjust_tsc_khz`. -/
def adjustTscKhz (khz ppm : BitVec 32) : BitVec 32 :=
  (khz.setWidth 64 * (1000000 + ppm).signExtend 64 / 1000000).setWidth 32

/-- `mul_u64_u32_div`, for a divisor that is not 0. -/
def mulU64U32Div (a : BitVec 64) (mul divisor : BitVec 32) : BitVec 64 :=
  BitVec.ofNat 64 (a.toNat * mul.toNat / divisor.toNat)

section Functions

variable (caps : TscCaps)

/-- `set_tsc_khz`. -/
def setTscKhz (v : VcpuTsc) (userTscKhz : BitVec 32) (scale : Bool) : Int × VcpuTsc :=
  if ¬ scale then (0, kvmVcpuWriteTscMultiplier v caps.defaultTscScalingRatio)
  else if ¬ caps.hasTscControl then
    if userTscKhz > caps.tscKhz then
      (0, { v with tscCatchup := true, tscAlwaysCatchup := true })
    else (-1, v)
  else
    let ratio := mulU64U32Div caps.defaultTscScalingRatio userTscKhz caps.tscKhz
    if ratio = 0 ∨ ratio ≥ caps.maxTscScalingRatio then (-1, v)
    else (0, kvmVcpuWriteTscMultiplier v ratio)

/-- `kvm_set_tsc_khz`. -/
def kvmSetTscKhz (fuel : Nat) (v : VcpuTsc) (userTscKhz : BitVec 32) : Option (Int × VcpuTsc) :=
  if userTscKhz = 0 then
    some (-1, kvmVcpuWriteTscMultiplier v caps.defaultTscScalingRatio)
  else do
    let r ← kvmGetTimeScale fuel (userTscKhz.setWidth 64 * 1000) nsecPerSec
    let v := { v with
      virtualTscShift := r.1
      virtualTscMult := r.2
      virtualTscKhz := userTscKhz }
    let threshLo := adjustTscKhz caps.tscKhz (-caps.tscTolerancePpm)
    let threshHi := adjustTscKhz caps.tscKhz caps.tscTolerancePpm
    return setTscKhz caps v userTscKhz (userTscKhz < threshLo || userTscKhz > threshHi)

/-- The ioctl `KVM_SET_TSC_KHZ`. -/
def kvmIoctlSetTscKhz (fuel : Nat) (v : VcpuTsc) (arg : BitVec 32) : Option (Int × VcpuTsc) :=
  if caps.hasTscControl ∧ arg ≥ caps.maxGuestTscKhz then some (-22, v)
  else do
    let r ← kvmSetTscKhz caps fuel v (if arg = 0 then caps.tscKhz else arg)
    return (if r.1 = 0 then 0 else -22, r.2)

end Functions

/-! ## Clock updates -/

/-- `struct pvclock_vcpu_time_info`. -/
structure PvclockTime where
  tscTimestamp : BitVec 64 := 0
  systemTime : BitVec 64 := 0
  tscToSystemMul : BitVec 32 := 0
  tscShift : Int := 0
  flags : BitVec 8 := 0
  deriving DecidableEq

/-- A virtual CPU with its clock. -/
structure ClockVcpu where
  tsc : VcpuTsc := {}
  hwTscKhz : BitVec 32 := 0
  hvClock : PvclockTime := {}
  deriving DecidableEq

/-- The host: whether its counter is constant, and `pvclock_scale_delta`. -/
structure ClockHost where
  caps : TscCaps
  constantTsc : Bool := true
  pvclockScaleDelta : BitVec 64 → BitVec 32 → Int → BitVec 64

/-- What an update reads of the VM and of the physical CPU. -/
structure ClockEnv where
  useMasterClock : Bool := false
  masterCycleNow : BitVec 64 := 0
  masterKernelNs : BitVec 64 := 0
  /-- The variable `cpu_tsc_khz` of the physical CPU. -/
  cpuTscKhz : BitVec 64 := 0
  rdtsc : BitVec 64 := 0
  kvmclockBaseNs : BitVec 64 := 0
  kvmclockOffset : BitVec 64 := 0
  deriving DecidableEq

section Updates

variable (h : ClockHost)

/-- `get_cpu_tsc_khz`. -/
def getCpuTscKhz (env : ClockEnv) : BitVec 64 :=
  if h.constantTsc then h.caps.tscKhz.setWidth 64 else env.cpuTscKhz

/-- `compute_guest_tsc`. -/
def computeGuestTsc (v : VcpuTsc) (kernelNs : BitVec 64) : BitVec 64 :=
  h.pvclockScaleDelta (kernelNs - v.thisTscNsec) v.virtualTscMult v.virtualTscShift +
    v.thisTscWrite

/-- The frequency that `kvm_guest_time_update` computes for the guest. -/
def tgtTscKhz (v : VcpuTsc) (env : ClockEnv) : BitVec 64 :=
  if h.caps.hasTscControl then kvmScaleTsc h.caps (getCpuTscKhz h env) v.l1TscScalingRatio
  else getCpuTscKhz h env

/-- The scale of the clock, computed anew where the frequency has changed. -/
def updateScale (fuel : Nat) (v : ClockVcpu) (tgt : BitVec 64) : Option ClockVcpu :=
  if v.hwTscKhz.setWidth 64 ≠ tgt then do
    let r ← kvmGetTimeScale fuel nsecPerSec (tgt * 1000)
    return { v with
      hvClock := { v.hvClock with tscShift := r.1, tscToSystemMul := r.2 }
      hwTscKhz := tgt.setWidth 32 }
  else some v

/-- The counter that has fallen behind catches up with the clock: the virtual CPU, and the counter
at this moment. -/
def tscCatchUp (v : VcpuTsc) (kernelNs tscTimestamp : BitVec 64) : VcpuTsc × BitVec 64 :=
  let tsc := computeGuestTsc h v kernelNs
  if v.tscCatchup ∧ tsc > tscTimestamp then
    (adjustTscOffsetGuest v (tsc - tscTimestamp), tsc)
  else (v, tscTimestamp)

/-- `kvm_guest_time_update`. -/
def kvmGuestTimeUpdate (fuel : Nat) (v : ClockVcpu) (env : ClockEnv) : Option (Int × ClockVcpu) :=
  if getCpuTscKhz h env = 0 then some (1, { v with tsc := { v.tsc with clockUpdate := true } })
  else
    let hostTsc := if env.useMasterClock then env.masterCycleNow else env.rdtsc
    let kernelNs := if env.useMasterClock then env.masterKernelNs else env.kvmclockBaseNs
    let r := tscCatchUp h v.tsc kernelNs (kvmReadL1Tsc h.caps v.tsc hostTsc)
    do
      let v ← updateScale fuel { v with tsc := r.1 } (tgtTscKhz h r.1 env)
      return (0, { v with
        hvClock := { v.hvClock with
          tscTimestamp := r.2
          systemTime := kernelNs + env.kvmclockOffset
          -- `PVCLOCK_TSC_STABLE_BIT`
          flags := if env.useMasterClock then 1 else 0 }
        tsc := { v.tsc with lastGuestTsc := r.2 } })

/-! ## Runs -/

/-- What userspace and the host do to a virtual CPU. -/
inductive ClockCall where
  | setTscKhz (arg : BitVec 32)
  | update (env : ClockEnv)
  deriving DecidableEq

/-- One call. -/
def clockStep (fuel : Nat) (v : ClockVcpu) : ClockCall → Option ClockVcpu
  | .setTscKhz arg => do
    let r ← kvmIoctlSetTscKhz h.caps fuel v.tsc arg
    return { v with tsc := r.2 }
  | .update env => do
    let r ← kvmGuestTimeUpdate h fuel v env
    return r.2

/-- The call returns. -/
def ClockReturns (v : ClockVcpu) (call : ClockCall) (v' : ClockVcpu) : Prop :=
  ∃ fuel, clockStep h fuel v call = some v'

/-- The frequency in front of a clock update is known, or that of the guest, in Hz, is not 0. -/
def UpdateScales (v : ClockVcpu) : ClockCall → Prop
  | .setTscKhz _ => True
  | .update env =>
    getCpuTscKhz h env = 0 ∨ v.hwTscKhz.setWidth 64 = tgtTscKhz h v.tsc env ∨
      tgtTscKhz h v.tsc env * 1000 ≠ 0

instance (v : ClockVcpu) (call : ClockCall) : Decidable (UpdateScales h v call) :=
  match call with
  | .setTscKhz _ => inferInstanceAs (Decidable True)
  | .update _ => inferInstanceAs (Decidable (_ ∨ _ ∨ _))

end Updates

/-! ## The loops -/

section Scale

/-- The upper half is empty below 2^32. -/
theorem hasUpperHalf_eq_false_iff {x : BitVec 64} : hasUpperHalf x = false ↔ x.toNat < 2 ^ 32 := by
  have hmask : ∀ i : Fin 64, upperHalf.getLsbD i = decide (32 ≤ i.val) := by decide
  rw [hasUpperHalf, decide_eq_false_iff_not, not_not]
  constructor
  · intro hzero
    by_contra hlarge
    obtain ⟨i, hi, hbit⟩ := Nat.exists_ge_and_testBit_of_ge_two_pow (Nat.le_of_not_lt hlarge)
    have hlt : i < 64 := by
      by_contra hno
      rw [Nat.testBit_lt_two_pow (Nat.lt_of_lt_of_le x.isLt
        (Nat.pow_le_pow_right (by omega) (Nat.le_of_not_lt hno)))] at hbit
      cases hbit
    have hand : (x &&& upperHalf).getLsbD i = true := by
      rw [BitVec.getLsbD_and, hmask ⟨i, hlt⟩]
      simp only [BitVec.getLsbD, hbit, hi, decide_true, Bool.and_true]
    rw [hzero] at hand
    simp at hand
  · intro hsmall
    refine BitVec.eq_of_getLsbD_eq fun i hi => ?_
    rw [BitVec.getLsbD_and, hmask ⟨i, hi⟩]
    by_cases h32 : 32 ≤ i
    · have hbit : x.getLsbD i = false :=
        Nat.testBit_lt_two_pow (Nat.lt_of_lt_of_le hsmall (Nat.pow_le_pow_right (by omega) h32))
      rw [hbit]
      simp
    · simp [h32]

theorem toNat_lt_of_hasUpperHalf {x : BitVec 64} (h : hasUpperHalf x = true) :
    2 ^ 32 ≤ x.toNat := by
  by_contra hno
  rw [hasUpperHalf_eq_false_iff.mpr (Nat.lt_of_not_le hno)] at h
  cases h

/-- **The first loop ends**, and leaves a frequency of 32 bits, not 0 if it was not. -/
theorem scaleDown_returns {scaled64 base : BitVec 64} (hscaled : scaled64 * 2 ≠ 0)
    (hbase : base ≠ 0) :
    ∃ fuel tps64 shift, scaleDown scaled64 fuel (base, 0) = some (tps64, shift) ∧ tps64 ≠ 0 ∧
      tps64.toNat < 2 ^ 32 := by
  have hhalf : ∀ tps64 : BitVec 64, (tps64 > scaled64 * 2 || hasUpperHalf tps64) = true →
      tps64 >>> 1 ≠ 0 ∧ (tps64 >>> 1).toNat < tps64.toNat := by
    intro tps64 hcond
    have htwo : 2 ≤ tps64.toNat := by
      rw [Bool.or_eq_true, decide_eq_true_eq] at hcond
      rcases hcond with hgt | hupper
      · have hpos : (scaled64 * 2).toNat ≠ 0 := fun h => hscaled (BitVec.eq_of_toNat_eq h)
        have hlt := BitVec.lt_def.mp hgt
        omega
      · have := toNat_lt_of_hasUpperHalf hupper
        omega
    have hshift : (tps64 >>> 1).toNat = tps64.toNat / 2 := by
      rw [BitVec.toNat_ushiftRight, Nat.shiftRight_eq_div_pow]
    refine ⟨?_, ?_⟩
    · intro hzero
      have hnat : (tps64 >>> 1).toNat = 0 := congrArg BitVec.toNat hzero
      omega
    · omega
  have hbody : ∀ s : BitVec 64 × Int, s.1 ≠ 0 →
      (s.1 > scaled64 * 2 || hasUpperHalf s.1) = true →
        (s.1 >>> 1, s.2 - 1).1 ≠ 0 ∧ (s.1 >>> 1, s.2 - 1).1.toNat < s.1.toNat :=
    fun s _ hcond => hhalf s.1 hcond
  obtain ⟨⟨tps64, shift⟩, hreturn⟩ :=
    Loops.loop_returns (m := fun s => s.1.toNat) hbody (s := (base, 0)) hbase (Nat.lt_succ_self _)
  obtain ⟨hne, hdone⟩ := Loops.loop_some (fun s hs hcond => (hbody s hs hcond).1) hbase hreturn
  rw [Bool.or_eq_false_iff] at hdone
  exact ⟨_, tps64, shift, hreturn, hne, hasUpperHalf_eq_false_iff.mp hdone.2⟩

/-- **The second loop ends where the frequency is not 0**: either the one or the other number gets
closer.  The dividend that it leaves is below the divisor. -/
theorem scaleUp_returns {s : ScaleUp} (hs : s.tps32 ≠ 0) :
    ∃ fuel t, scaleUp fuel s = some t ∧ t.tps32 ≠ 0 ∧
      (t.scaled64.setWidth 32).toNat < t.tps32.toNat := by
  have hbody : ∀ s : ScaleUp, s.tps32 ≠ 0 → s.continues = true → s.body.tps32 ≠ 0 ∧
      s.body.scaled64.toNat + (2 ^ 32 - s.body.tps32.toNat) <
        s.scaled64.toNat + (2 ^ 32 - s.tps32.toNat) := by
    intro s hs hcond
    have hpos : s.tps32.toNat ≠ 0 := fun h => hs (BitVec.eq_of_toNat_eq h)
    have hlt := s.tps32.isLt
    unfold ScaleUp.body
    split
    · rename_i hhalve
      have hscaled : 0 < s.scaled64.toNat := by
        rw [ScaleUp.continues, Bool.or_eq_true, decide_eq_true_eq] at hcond
        rcases hcond with hle | hupper
        · rw [BitVec.le_def, BitVec.toNat_setWidth_of_le (by omega)] at hle
          omega
        · have := toNat_lt_of_hasUpperHalf hupper
          omega
      refine ⟨hs, ?_⟩
      show (s.scaled64 >>> 1).toNat + (2 ^ 32 - s.tps32.toNat) < _
      rw [BitVec.toNat_ushiftRight, Nat.shiftRight_eq_div_pow]
      omega
    · rename_i hdouble
      rw [not_or] at hdouble
      have hmsb : s.tps32.toNat < 2 ^ 31 := by
        have hfalse := Bool.eq_false_iff.mpr hdouble.2
        rw [BitVec.msb_eq_false_iff_two_mul_lt] at hfalse
        omega
      have hshift : (s.tps32 <<< 1).toNat = 2 * s.tps32.toNat := by
        rw [BitVec.toNat_shiftLeft, Nat.shiftLeft_eq]
        omega
      refine ⟨?_, ?_⟩
      · intro hzero
        have hnat : (s.tps32 <<< 1).toNat = 0 := congrArg BitVec.toNat hzero
        omega
      · show s.scaled64.toNat + (2 ^ 32 - (s.tps32 <<< 1).toNat) < _
        omega
  obtain ⟨t, hreturn⟩ := Loops.loop_returns
    (m := fun s : ScaleUp => s.scaled64.toNat + (2 ^ 32 - s.tps32.toNat)) hbody hs
    (Nat.lt_succ_self _)
  obtain ⟨hne, hdone⟩ := Loops.loop_some (fun s hs hcond => (hbody s hs hcond).1) hs hreturn
  refine ⟨_, t, hreturn, hne, ?_⟩
  rw [ScaleUp.continues, Bool.or_eq_false_iff, decide_eq_false_iff_not] at hdone
  have hsmall := hasUpperHalf_eq_false_iff.mp hdone.2
  have hlt := BitVec.not_le.mp hdone.1
  rw [BitVec.lt_def, BitVec.toNat_setWidth_of_le (by omega)] at hlt
  rw [BitVec.toNat_setWidth, Nat.mod_eq_of_lt hsmall]
  exact hlt

/-- **The second loop never ends at the frequency 0**, which no shift changes. -/
theorem scaleUp_stuck (fuel : Nat) {s : ScaleUp} (hs : s.tps32 = 0) : scaleUp fuel s = none := by
  refine Loops.loop_stuck (I := fun s : ScaleUp => s.tps32 = 0) ?_ fuel hs
  intro s hs
  refine ⟨?_, ?_⟩
  · simp [ScaleUp.continues, hs, BitVec.le_def]
  · unfold ScaleUp.body
    split
    · exact hs
    · simp [hs]

/-- The division has a quotient of 32 bits where the dividend is below the divisor. -/
theorem divFrac_of_lt {dividend divisor : BitVec 32} (hne : divisor ≠ 0)
    (hlt : dividend.toNat < divisor.toNat) : ∃ q, divFrac dividend divisor = some q := by
  have hpos : 0 < divisor.toNat := by omega
  have hquotient : dividend.toNat * 2 ^ 32 / divisor.toNat < 2 ^ 32 := by
    rw [Nat.div_lt_iff_lt_mul hpos, Nat.mul_comm]
    exact Nat.mul_lt_mul_of_pos_left hlt (by omega)
  rw [divFrac, if_neg]
  · exact ⟨_, rfl⟩
  · rintro (h | h)
    · exact hne h
    · omega

/-- **`kvm_get_time_scale` returns exactly when the base frequency is not 0.** -/
theorem kvmGetTimeScale_returns_iff {scaledHz baseHz : BitVec 64} (hscaled : scaledHz * 2 ≠ 0) :
    (∃ fuel r, kvmGetTimeScale fuel scaledHz baseHz = some r) ↔ baseHz ≠ 0 := by
  constructor
  · rintro ⟨fuel, r, hreturn⟩ hbase
    simp only [kvmGetTimeScale, Option.bind_eq_bind, Option.bind_eq_some_iff] at hreturn
    obtain ⟨d, hdown, u, hup, -⟩ := hreturn
    have hkeep : ∀ s : BitVec 64 × Int, s.1 = 0 →
        (s.1 > scaledHz * 2 || hasUpperHalf s.1) = true → (s.1 >>> 1, s.2 - 1).1 = 0 := by
      intro s hs _
      show s.1 >>> 1 = 0
      rw [hs]
      exact BitVec.zero_ushiftRight
    have htps64 : d.1 = 0 := (Loops.loop_some hkeep hbase hdown).1
    have hstuck : scaleUp fuel ⟨d.1.setWidth 32, scaledHz, d.2⟩ = none :=
      scaleUp_stuck fuel (congrArg (BitVec.setWidth 32) htps64)
    rw [hstuck] at hup
    cases hup
  · intro hbase
    obtain ⟨fuel, tps64, shift, hdown, hne, hsmall⟩ := scaleDown_returns hscaled hbase
    have htps32 : tps64.setWidth 32 ≠ 0 := by
      intro hzero
      have hnat : (tps64.setWidth 32).toNat = 0 := congrArg BitVec.toNat hzero
      rw [BitVec.toNat_setWidth, Nat.mod_eq_of_lt hsmall] at hnat
      exact hne (BitVec.eq_of_toNat_eq hnat)
    obtain ⟨fuel', t, hup, htne, hlt⟩ :=
      scaleUp_returns (s := ⟨tps64.setWidth 32, scaledHz, shift⟩) htps32
    obtain ⟨q, hq⟩ := divFrac_of_lt htne hlt
    refine ⟨max fuel fuel', (t.shift, q), ?_⟩
    have hdown' : scaleDown scaledHz (max fuel fuel') (baseHz, 0) = some (tps64, shift) :=
      Loops.loop_mono (Nat.le_max_left ..) hdown
    have hup' : scaleUp (max fuel fuel') ⟨tps64.setWidth 32, scaledHz, shift⟩ = some t :=
      Loops.loop_mono (Nat.le_max_right ..) hup
    simp only [kvmGetTimeScale, hdown', hup', hq, Option.bind_eq_bind, Option.bind_some,
      Option.pure_def]

/-- More fuel gives the same. -/
theorem kvmGetTimeScale_mono {fuel fuel' : Nat} (hle : fuel ≤ fuel') {scaledHz baseHz : BitVec 64}
    {r : Int × BitVec 32} (h : kvmGetTimeScale fuel scaledHz baseHz = some r) :
    kvmGetTimeScale fuel' scaledHz baseHz = some r := by
  simp only [kvmGetTimeScale, Option.bind_eq_bind, Option.bind_eq_some_iff] at h ⊢
  obtain ⟨d, hd, u, hu, h⟩ := h
  exact ⟨d, Loops.loop_mono hle hd, u, Loops.loop_mono hle hu, h⟩

end Scale

/-! ## Calls that return -/

section Calls

variable {h : ClockHost} {v : ClockVcpu}

theorem nsecPerSec_two_ne : nsecPerSec * 2 ≠ 0 := by decide

/-- The frequency in Hz of a virtual CPU, of 32 bits in kHz, does not overflow. -/
theorem userHz_two_ne {khz : BitVec 32} (hkhz : khz ≠ 0) : khz.setWidth 64 * 1000 * 2 ≠ 0 := by
  have hpos : khz.toNat ≠ 0 := fun h => hkhz (BitVec.eq_of_toNat_eq h)
  have hlt := khz.isLt
  have hnat : (khz.setWidth 64 * 2000#64).toNat = khz.toNat * 2000 := by
    rw [BitVec.toNat_mul, BitVec.toNat_setWidth_of_le (by decide), BitVec.toNat_ofNat]
    exact Nat.mod_eq_of_lt (by omega)
  rw [BitVec.mul_assoc]
  intro hzero
  have hzero' : (khz.setWidth 64 * 2000#64).toNat = 0 := congrArg BitVec.toNat hzero
  omega

/-- `kvm_set_tsc_khz` always returns. -/
theorem kvmSetTscKhz_returns (caps : TscCaps) (v : VcpuTsc) (khz : BitVec 32) :
    ∃ fuel r, kvmSetTscKhz caps fuel v khz = some r := by
  by_cases hkhz : khz = 0
  · exact ⟨0, _, if_pos hkhz⟩
  · obtain ⟨fuel, r, hr⟩ :=
      (kvmGetTimeScale_returns_iff (userHz_two_ne hkhz)).mpr (by decide : nsecPerSec ≠ 0)
    refine ⟨fuel, ?_⟩
    rw [kvmSetTscKhz, if_neg hkhz, hr]
    exact ⟨_, rfl⟩

/-- The scale is computed anew exactly when the frequency is not 0. -/
theorem updateScale_returns_iff (v : ClockVcpu) (tgt : BitVec 64) :
    (∃ fuel, (updateScale fuel v tgt).isSome) ↔ v.hwTscKhz.setWidth 64 = tgt ∨ tgt * 1000 ≠ 0 := by
  by_cases hsame : v.hwTscKhz.setWidth 64 = tgt
  · refine iff_of_true ⟨0, ?_⟩ (.inl hsame)
    rw [updateScale, if_neg (not_not_intro hsame)]
    rfl
  · rw [or_iff_right hsame, ← kvmGetTimeScale_returns_iff nsecPerSec_two_ne]
    refine exists_congr fun fuel => ?_
    rw [updateScale, if_pos hsame, Option.isSome_iff_exists]
    cases kvmGetTimeScale fuel nsecPerSec (tgt * 1000) with
    | none => simp
    | some r => simp

variable (h : ClockHost) (v : ClockVcpu)

theorem clockReturns_iff (call : ClockCall) :
    (∃ v', ClockReturns h v call v') ↔ ∃ fuel, (clockStep h fuel v call).isSome := by
  simp only [ClockReturns, Option.isSome_iff_exists]
  exact exists_comm

theorem setTscKhz_returns (arg : BitVec 32) :
    ∃ fuel, (clockStep h fuel v (.setTscKhz arg)).isSome := by
  obtain ⟨fuel, r, hr⟩ := kvmSetTscKhz_returns h.caps v.tsc (if arg = 0 then h.caps.tscKhz else arg)
  refine ⟨fuel, ?_⟩
  by_cases hmax : h.caps.hasTscControl ∧ arg ≥ h.caps.maxGuestTscKhz
  · rw [clockStep, kvmIoctlSetTscKhz, if_pos hmax]
    rfl
  · rw [clockStep, kvmIoctlSetTscKhz, if_neg hmax, hr]
    rfl

/-- Catching up moves the offset only, and the frequency does not depend on it. -/
theorem tgtTscKhz_catchUp (v : VcpuTsc) (kernelNs tscTimestamp : BitVec 64) (env : ClockEnv) :
    tgtTscKhz h (tscCatchUp h v kernelNs tscTimestamp).1 env = tgtTscKhz h v env := by
  unfold tscCatchUp
  dsimp only
  split <;> rfl

/-- Behind the first check an update returns where the scale does. -/
theorem update_isSome {env : ClockEnv} (hcpu : getCpuTscKhz h env ≠ 0) :
    ∃ kernelNs tscTimestamp, ∀ fuel, (clockStep h fuel v (.update env)).isSome =
      (updateScale fuel { v with tsc := (tscCatchUp h v.tsc kernelNs tscTimestamp).1 }
        (tgtTscKhz h v.tsc env)).isSome := by
  refine ⟨if env.useMasterClock then env.masterKernelNs else env.kvmclockBaseNs,
    kvmReadL1Tsc h.caps v.tsc (if env.useMasterClock then env.masterCycleNow else env.rdtsc), ?_⟩
  intro fuel
  rw [← tgtTscKhz_catchUp h v.tsc _ _ env, clockStep, kvmGuestTimeUpdate, if_neg hcpu]
  dsimp only
  cases updateScale fuel _ _ with
  | none => rfl
  | some v' => rfl

theorem update_returns_iff (env : ClockEnv) :
    (∃ fuel, (clockStep h fuel v (.update env)).isSome) ↔ UpdateScales h v (.update env) := by
  by_cases hcpu : getCpuTscKhz h env = 0
  · refine iff_of_true ⟨0, ?_⟩ (.inl hcpu)
    rw [clockStep, kvmGuestTimeUpdate, if_pos hcpu]
    rfl
  · obtain ⟨kernelNs, tscTimestamp, hscale⟩ := update_isSome h v hcpu
    simp only [hscale]
    rw [updateScale_returns_iff]
    exact (or_iff_right hcpu).symm

/-- Where nothing overflows, the frequency of the guest is 0 exactly when the ratio brings that of
the physical CPU below 1 kHz. -/
theorem scaledHz_ne_zero_iff {caps : TscCaps} {khz ratio : BitVec 64}
    (hratio : ratio ≠ caps.defaultTscScalingRatio)
    (hsmall : khz.toNat * ratio.toNat < 2 ^ 54 * 2 ^ caps.tscScalingRatioFracBits) :
    kvmScaleTsc caps khz ratio * 1000 ≠ 0 ↔
      2 ^ caps.tscScalingRatioFracBits ≤ khz.toNat * ratio.toNat := by
  have hpos : 0 < 2 ^ caps.tscScalingRatioFracBits := Nat.two_pow_pos _
  have hq := (Nat.div_lt_iff_lt_mul hpos).mpr hsmall
  have hone := Nat.div_pos_iff (a := khz.toNat * ratio.toNat)
    (b := 2 ^ caps.tscScalingRatioFracBits)
  rw [kvmScaleTsc, if_pos hratio, scaleTsc, ← and_iff_right hpos (b := _ ≤ _), ← hone]
  generalize khz.toNat * ratio.toNat / 2 ^ caps.tscScalingRatioFracBits = q at hq ⊢
  have hnat : (BitVec.ofNat 64 q * 1000#64).toNat = q * 1000 := by
    rw [BitVec.toNat_mul, BitVec.toNat_ofNat, BitVec.toNat_ofNat,
      Nat.mod_eq_of_lt (a := q) (by omega)]
    exact Nat.mod_eq_of_lt (by omega)
  constructor
  · intro hne
    refine Nat.pos_of_ne_zero ?_
    rintro rfl
    exact hne rfl
  · intro hqpos hzero
    have hzero' : (BitVec.ofNat 64 q * 1000#64).toNat = 0 := congrArg BitVec.toNat hzero
    omega

variable {fuel fuel' : Nat} (hle : fuel ≤ fuel')

include hle

theorem kvmSetTscKhz_mono {caps : TscCaps} {v : VcpuTsc} {khz : BitVec 32} {r : Int × VcpuTsc}
    (h : kvmSetTscKhz caps fuel v khz = some r) : kvmSetTscKhz caps fuel' v khz = some r := by
  unfold kvmSetTscKhz at h ⊢
  split at h
  · rename_i hzero
    rw [if_pos hzero]
    exact h
  · rename_i hzero
    rw [if_neg hzero]
    obtain ⟨scale, hscale, h⟩ := Option.bind_eq_some_iff.mp h
    exact Option.bind_eq_some_iff.mpr ⟨scale, kvmGetTimeScale_mono hle hscale, h⟩

theorem kvmIoctlSetTscKhz_mono {caps : TscCaps} {v : VcpuTsc} {arg : BitVec 32}
    {r : Int × VcpuTsc} (h : kvmIoctlSetTscKhz caps fuel v arg = some r) :
    kvmIoctlSetTscKhz caps fuel' v arg = some r := by
  unfold kvmIoctlSetTscKhz at h ⊢
  split at h
  · rename_i hmax
    rw [if_pos hmax]
    exact h
  · rename_i hmax
    rw [if_neg hmax]
    obtain ⟨r', hset, h⟩ := Option.bind_eq_some_iff.mp h
    exact Option.bind_eq_some_iff.mpr ⟨r', kvmSetTscKhz_mono hle hset, h⟩

theorem updateScale_mono {v v' : ClockVcpu} {tgt : BitVec 64}
    (h : updateScale fuel v tgt = some v') : updateScale fuel' v tgt = some v' := by
  unfold updateScale at h ⊢
  split at h
  · rename_i hnew
    rw [if_pos hnew]
    obtain ⟨scale, hscale, h⟩ := Option.bind_eq_some_iff.mp h
    exact Option.bind_eq_some_iff.mpr ⟨scale, kvmGetTimeScale_mono hle hscale, h⟩
  · rename_i hnew
    rw [if_neg hnew]
    exact h

theorem kvmGuestTimeUpdate_mono {h : ClockHost} {v : ClockVcpu} {env : ClockEnv}
    {r : Int × ClockVcpu} (hr : kvmGuestTimeUpdate h fuel v env = some r) :
    kvmGuestTimeUpdate h fuel' v env = some r := by
  unfold kvmGuestTimeUpdate at hr ⊢
  split at hr
  · rename_i hcpu
    rw [if_pos hcpu]
    exact hr
  · rename_i hcpu
    rw [if_neg hcpu]
    obtain ⟨v', hscale, hr⟩ := Option.bind_eq_some_iff.mp hr
    exact Option.bind_eq_some_iff.mpr ⟨v', updateScale_mono hle hscale, hr⟩

theorem clockStep_mono {h : ClockHost} {v v' : ClockVcpu} {call : ClockCall}
    (hstep : clockStep h fuel v call = some v') : clockStep h fuel' v call = some v' := by
  cases call with
  | setTscKhz arg =>
    obtain ⟨r, hr, hv'⟩ := Option.bind_eq_some_iff.mp hstep
    exact Option.bind_eq_some_iff.mpr ⟨r, kvmIoctlSetTscKhz_mono hle hr, hv'⟩
  | update env =>
    obtain ⟨r, hr, hv'⟩ := Option.bind_eq_some_iff.mp hstep
    exact Option.bind_eq_some_iff.mpr ⟨r, kvmGuestTimeUpdate_mono hle hr, hv'⟩

omit hle

/-- What a call leaves does not depend on the fuel. -/
theorem clockReturns_unique (v : ClockVcpu) (call : ClockCall) (v' v'' : ClockVcpu)
    (h' : ClockReturns h v call v') (h'' : ClockReturns h v call v'') : v' = v'' := by
  obtain ⟨fuel, hfuel⟩ := h'
  obtain ⟨fuel', hfuel'⟩ := h''
  have hmax := clockStep_mono (Nat.le_max_left fuel fuel') hfuel
  have hmax' := clockStep_mono (Nat.le_max_right fuel fuel') hfuel'
  exact Option.some.inj (hmax.symm.trans hmax')

theorem clockReturns_iff_updateScales (v : ClockVcpu) (call : ClockCall) :
    (∃ v', ClockReturns h v call v') ↔ UpdateScales h v call := by
  rw [clockReturns_iff]
  cases call with
  | setTscKhz arg => exact iff_of_true (setTscKhz_returns h v arg) trivial
  | update env => exact update_returns_iff h v env

end Calls

/-- **Every call of a run returns exactly when** no clock update meets a guest frequency of 0 Hz
that is new; `KVM_SET_TSC_KHZ` itself always returns. -/
theorem clockUpdates_iff (h : ClockHost) (v : ClockVcpu) (calls : List ClockCall) :
    Loops.Completes (ClockReturns h) v calls ↔
      Loops.EachReturns (ClockReturns h) (UpdateScales h) v calls :=
  Loops.completes_iff (clockReturns_unique h) (clockReturns_iff_updateScales h) calls v

/-- A host at 3 GHz with 48 fraction bits; its `pvclock_scale_delta` is not called. -/
def scalingHost : ClockHost where
  caps := { tscKhz := 3000000 }
  pvclockScaleDelta := fun delta _ _ => delta

/-- The virtual CPU behind a call that ends within 200 rounds. -/
def afterCall (v : ClockVcpu) (call : ClockCall) : ClockVcpu :=
  (clockStep scalingHost 200 v call).getD v

theorem returns_afterCall {v : ClockVcpu} {call : ClockCall}
    (h : (clockStep scalingHost 200 v call).isSome = true) :
    ClockReturns scalingHost v call (afterCall v call) := by
  obtain ⟨v', hv'⟩ := Option.isSome_iff_exists.mp h
  refine ⟨200, ?_⟩
  rw [afterCall, hv', Option.getD_some]

/-- After one update at the frequency of the host, the guest is set to 1 kHz: the ratio, rounded
down, makes it 0. -/
theorem clockUpdateStuck :
    ¬ Loops.Completes (ClockReturns scalingHost) {}
      [.setTscKhz 0, .update {}, .setTscKhz 1, .update {}] := by
  rintro ⟨v₁, h₁, v₂, h₂, v₃, h₃, v₄, h₄, -⟩
  obtain rfl := clockReturns_unique _ _ _ _ _ h₁ (returns_afterCall (by decide))
  obtain rfl := clockReturns_unique _ _ _ _ _ h₂ (returns_afterCall (by decide))
  obtain rfl := clockReturns_unique _ _ _ _ _ h₃ (returns_afterCall (by decide))
  have hscales := (clockReturns_iff_updateScales _ _ _).mp ⟨v₄, h₄⟩
  revert hscales
  decide

end Kvm
