import Mathlib.Algebra.Ring.Nat

/-!
# The time-stamp counter of a virtual CPU

The counter that `x86.c` computes from the host counter, outside guest mode.

* `TscCaps` — the TSC part of `kvm_caps`;
* `VcpuTsc` — the TSC part of a virtual CPU;
* `kvmScaleTsc`, `kvmComputeL1TscOffset`, `kvmReadL1Tsc` — the scaled and offset counter;
* `scaleCycles` — the scaled counter without the bound of 64 bits;
* `kvmVcpuWriteTscOffset`, `kvmVcpuWriteTscMultiplier`, `adjustTscOffsetGuest` — its writers;
* `getMsrIa32Tsc`, `setMsrIa32Tsc`, `setMsrIa32TscAdjust` — the MSRs, for the guest.
-/

set_option autoImplicit false

namespace Kvm

/-- The part of `kvm_caps` about the counter, and `tsc_khz`. -/
structure TscCaps where
  hasTscControl : Bool := true
  maxGuestTscKhz : BitVec 32 := 0x7fffffff
  maxTscScalingRatio : BitVec 64 := 0xffffffffffffffff
  tscScalingRatioFracBits : Nat := 48
  tscKhz : BitVec 32
  tscTolerancePpm : BitVec 32 := 250
  deriving DecidableEq

/-- `kvm_caps.default_tsc_scaling_ratio`. -/
def TscCaps.defaultTscScalingRatio (caps : TscCaps) : BitVec 64 :=
  1 <<< caps.tscScalingRatioFracBits

/-- The part of `struct kvm_vcpu_arch` about the counter. -/
structure VcpuTsc where
  l1TscOffset : BitVec 64 := 0
  tscOffset : BitVec 64 := 0
  l1TscScalingRatio : BitVec 64 := 0
  tscScalingRatio : BitVec 64 := 0
  ia32TscAdjustMsr : BitVec 64 := 0
  lastGuestTsc : BitVec 64 := 0
  thisTscNsec : BitVec 64 := 0
  thisTscWrite : BitVec 64 := 0
  /-- The generations are counted without a bound. -/
  thisTscGeneration : Nat := 0
  virtualTscKhz : BitVec 32 := 0
  virtualTscMult : BitVec 32 := 0
  virtualTscShift : Int := 0
  tscCatchup : Bool := false
  tscAlwaysCatchup : Bool := false
  /-- `KVM_REQ_MASTERCLOCK_UPDATE`, `KVM_REQ_CLOCK_UPDATE`. -/
  masterclockUpdate : Bool := false
  clockUpdate : Bool := false
  deriving DecidableEq

variable (caps : TscCaps) (v : VcpuTsc)

/-! ## Scaling and offsets -/

/-- `__scale_tsc`: `mul_u64_u64_shr` by the fraction bits. -/
def scaleTsc (ratio tsc : BitVec 64) : BitVec 64 :=
  BitVec.ofNat 64 (tsc.toNat * ratio.toNat / 2 ^ caps.tscScalingRatioFracBits)

/-- `kvm_scale_tsc`. -/
def kvmScaleTsc (tsc ratio : BitVec 64) : BitVec 64 :=
  if ratio ≠ caps.defaultTscScalingRatio then scaleTsc caps ratio tsc else tsc

/-- `kvm_scale_tsc` without the bound of 64 bits. -/
def scaleCycles (ratio : BitVec 64) (tsc : Nat) : Nat :=
  if ratio ≠ caps.defaultTscScalingRatio then
    tsc * ratio.toNat / 2 ^ caps.tscScalingRatioFracBits
  else tsc

/-- `kvm_compute_l1_tsc_offset`, at the host reading `rdtsc`. -/
def kvmComputeL1TscOffset (rdtsc targetTsc : BitVec 64) : BitVec 64 :=
  targetTsc - kvmScaleTsc caps rdtsc v.l1TscScalingRatio

/-- `kvm_read_l1_tsc`. -/
def kvmReadL1Tsc (hostTsc : BitVec 64) : BitVec 64 :=
  v.l1TscOffset + kvmScaleTsc caps hostTsc v.l1TscScalingRatio

/-- `kvm_vcpu_write_tsc_offset`. -/
def kvmVcpuWriteTscOffset (l1Offset : BitVec 64) : VcpuTsc :=
  { v with l1TscOffset := l1Offset, tscOffset := l1Offset }

/-- `kvm_vcpu_write_tsc_multiplier`. -/
def kvmVcpuWriteTscMultiplier (l1Multiplier : BitVec 64) : VcpuTsc :=
  { v with l1TscScalingRatio := l1Multiplier, tscScalingRatio := l1Multiplier }

/-- `adjust_tsc_offset_guest`. -/
def adjustTscOffsetGuest (adjustment : BitVec 64) : VcpuTsc :=
  kvmVcpuWriteTscOffset v (v.l1TscOffset + adjustment)

/-! ## The MSRs -/

/-- `kvm_get_msr_common` of `MSR_IA32_TSC` for the guest. -/
def getMsrIa32Tsc (rdtsc : BitVec 64) : BitVec 64 :=
  kvmScaleTsc caps rdtsc v.tscScalingRatio + v.tscOffset

/-- `kvm_set_msr_common` of `MSR_IA32_TSC` for the guest. -/
def setMsrIa32Tsc (rdtsc data : BitVec 64) : VcpuTsc :=
  let adj := kvmComputeL1TscOffset caps v rdtsc data - v.l1TscOffset
  let v := adjustTscOffsetGuest v adj
  { v with ia32TscAdjustMsr := v.ia32TscAdjustMsr + adj }

/-- `kvm_set_msr_common` of `MSR_IA32_TSC_ADJUST` for a guest whose CPUID has it or not. -/
def setMsrIa32TscAdjust (hasTscAdjust : Bool) (data : BitVec 64) : VcpuTsc :=
  if hasTscAdjust then
    let v := { adjustTscOffsetGuest v (data - v.ia32TscAdjustMsr) with clockUpdate := true }
    { v with ia32TscAdjustMsr := data }
  else v

/-! ## The two copies of the offset and the ratio -/

/-- Outside guest mode the virtual CPU runs with the offset and the ratio of L1. -/
structure OutsideGuestMode : Prop where
  offset : v.tscOffset = v.l1TscOffset
  ratio : v.tscScalingRatio = v.l1TscScalingRatio

variable {caps v}

/-! ## Scaled cycles -/

section Scaling

variable {ratio : BitVec 64}

@[simp] theorem scaleCycles_zero : scaleCycles caps ratio 0 = 0 := by
  unfold scaleCycles
  split
  · rw [Nat.zero_mul, Nat.zero_div]
  · rfl

@[simp] theorem scaleCycles_default (tsc : Nat) :
    scaleCycles caps caps.defaultTscScalingRatio tsc = tsc := by
  simp [scaleCycles]

theorem scaleCycles_le {a b : Nat} (h : a ≤ b) :
    scaleCycles caps ratio a ≤ scaleCycles caps ratio b := by
  unfold scaleCycles
  split
  · exact Nat.div_le_div_right (Nat.mul_le_mul_right _ h)
  · exact h

/-- The bound of 64 bits is the only difference. -/
theorem kvmScaleTsc_ofNat {tsc : Nat} (htsc : tsc < 2 ^ 64) :
    kvmScaleTsc caps (BitVec.ofNat 64 tsc) ratio =
      BitVec.ofNat 64 (scaleCycles caps ratio tsc) := by
  unfold kvmScaleTsc scaleCycles
  split
  · rw [scaleTsc, BitVec.toNat_ofNat, Nat.mod_eq_of_lt htsc]
  · rfl

theorem toNat_kvmScaleTsc {tsc : BitVec 64} (hlt : scaleCycles caps ratio tsc.toNat < 2 ^ 64) :
    (kvmScaleTsc caps tsc ratio).toNat = scaleCycles caps ratio tsc.toNat := by
  have hscale : kvmScaleTsc caps (BitVec.ofNat 64 tsc.toNat) ratio = _ := kvmScaleTsc_ofNat tsc.isLt
  rw [BitVec.ofNat_toNat, BitVec.setWidth_eq] at hscale
  rw [hscale, BitVec.toNat_ofNat, Nat.mod_eq_of_lt hlt]

end Scaling

/-- Right behind the write the guest reads what it has written. -/
theorem getMsr_setMsr (hv : OutsideGuestMode v) (rdtsc data : BitVec 64) :
    getMsrIa32Tsc caps (setMsrIa32Tsc caps v rdtsc data) rdtsc = data := by
  simp only [getMsrIa32Tsc, setMsrIa32Tsc, adjustTscOffsetGuest, kvmVcpuWriteTscOffset,
    kvmComputeL1TscOffset, hv.ratio]
  rw [BitVec.add_comm v.l1TscOffset, BitVec.sub_add_cancel, BitVec.add_comm, BitVec.sub_add_cancel]

end Kvm
