import Mathlib.Algebra.Ring.Nat

/-!
# Virtual CPUs and their MSRs

What the MSR exits of `x86.c` read and write.

* `Vcpu` — one guest processor: the registers that carry an MSR access, its `kvm_run` page, its
  CPUID, and the MSR state `M` of the vendor module;
* `Global` — the variables of the host module, shared by every guest;
* `Vendor` — the static calls into `vmx.c` or `svm.c`;
* `kvmMsrAllowed` — the MSR filter.
-/

set_option autoImplicit false

namespace Kvm

/-! ## Constants -/

def msrFsBase : BitVec 32 := 0xc0000100
def msrGsBase : BitVec 32 := 0xc0000101
def msrKernelGsBase : BitVec 32 := 0xc0000102
def msrLstar : BitVec 32 := 0xc0000082
def msrCstar : BitVec 32 := 0xc0000083
def msrIa32SysenterEsp : BitVec 32 := 0x175
def msrIa32SysenterEip : BitVec 32 := 0x176
def msrTscAux : BitVec 32 := 0xc0000103
def msrIa32Debugctl : BitVec 32 := 0x1d9#32

/-- `KVM_MSR_RET_INVALID`. -/
def msrRetInvalid : Int := 2

/-- `KVM_MSR_RET_FILTERED`. -/
def msrRetFiltered : Int := 3

/-- `KVM_MSR_FILTER_READ`. -/
def msrFilterRead : BitVec 32 := 1

/-- `KVM_MSR_FILTER_WRITE`. -/
def msrFilterWrite : BitVec 32 := 2

/-- `KVM_MSR_EXIT_REASON_INVAL`, `KVM_MSR_EXIT_REASON_UNKNOWN`, `KVM_MSR_EXIT_REASON_FILTER`. -/
def msrExitReasonInval : BitVec 64 := 1
def msrExitReasonUnknown : BitVec 64 := 2
def msrExitReasonFilter : BitVec 64 := 4

/-- `KVM_EXIT_X86_RDMSR`, `KVM_EXIT_X86_WRMSR`. -/
def kvmExitX86Rdmsr : Nat := 29
def kvmExitX86Wrmsr : Nat := 30

/-! ## The MSR filter -/

/-- `struct msr_bitmap_range`. -/
structure MsrBitmapRange where
  base : BitVec 32
  nmsrs : BitVec 32
  flags : BitVec 32
  bitmap : List Bool
  deriving DecidableEq

/-- `struct kvm_x86_msr_filter`. -/
structure MsrFilter where
  defaultAllow : Bool
  ranges : List MsrBitmapRange
  deriving DecidableEq

/-- `test_bit`. -/
def MsrBitmapRange.testBit (r : MsrBitmapRange) (i : BitVec 32) : Bool :=
  r.bitmap.getD i.toNat false

/-- The loop over the ranges: the first one that holds the index for this kind of access decides. -/
def rangesAllow (index type : BitVec 32) (allowed : Bool) : List MsrBitmapRange → Bool
  | [] => allowed
  | r :: rs =>
    -- the end is computed in 32 bits, so a range that wraps holds no index
    if r.base ≤ index ∧ index < r.base + r.nmsrs ∧ r.flags &&& type ≠ 0 then
      r.testBit (index - r.base)
    else rangesAllow index type allowed rs

/-- The MSR configuration of a VM: `kvm->arch.msr_filter` and `user_space_msr_mask`. -/
structure Vm where
  msrFilter : Option MsrFilter := none
  userSpaceMsrMask : BitVec 64 := 0
  deriving DecidableEq

/-- `kvm_msr_allowed`. -/
def kvmMsrAllowed (vm : Vm) (index type : BitVec 32) : Bool :=
  -- x2APIC MSRs do not support filtering
  if 0x800 ≤ index ∧ index ≤ 0x8ff then true
  else
    match vm.msrFilter with
    | none => true
    | some f => rangesAllow index type f.defaultAllow f.ranges

/-- A read or a write of an MSR. -/
inductive MsrAccess where
  | read
  | write
  deriving DecidableEq, Repr

/-- `KVM_MSR_FILTER_READ` or `KVM_MSR_FILTER_WRITE`. -/
def MsrAccess.filter : MsrAccess → BitVec 32
  | .read => msrFilterRead
  | .write => msrFilterWrite

/-- What `kvm_msr_allowed` decides under a filter. -/
def msrAllowed (filter : Option MsrFilter) (key : BitVec 32 × MsrAccess) : Bool :=
  kvmMsrAllowed { msrFilter := filter } key.1 key.2.filter

theorem kvmMsrAllowed_eq (vm : Vm) (msr : BitVec 32) (access : MsrAccess) :
    kvmMsrAllowed vm msr access.filter = msrAllowed vm.msrFilter (msr, access) := rfl

/-! ## Virtual CPUs -/

/-- `vcpu->arch.complete_userspace_io`. -/
inductive Completion where
  | fastRdmsr
  | fastMsrAccess
  | emulatedRdmsr
  | emulatedMsrAccess
  deriving DecidableEq

/-- The MSR part of `struct kvm_run`. -/
structure KvmRun where
  exitReason : Nat := 0
  error : BitVec 8 := 0
  reason : BitVec 64 := 0
  index : BitVec 32 := 0
  data : BitVec 64 := 0
  deriving DecidableEq

/-- A virtual CPU.  `M` is everything `kvm_x86_get_msr` and `kvm_x86_set_msr` read and write. -/
structure Vcpu (M : Type) where
  rax : BitVec 64 := 0
  rcx : BitVec 64 := 0
  rdx : BitVec 64 := 0
  rip : BitVec 64 := 0
  msrs : M
  vm : Vm := {}
  run : KvmRun := {}
  completeUserspaceIo : Option Completion := none
  /-- Vector and error code of the exception queued for the guest. -/
  exception : Option (Nat × Nat) := none
  /-- Length of the instruction that exited. -/
  instructionLen : BitVec 64 := 0
  virtAddrBits : Nat := 48
  hasRdtscp : Bool := false
  hasRdpid : Bool := false
  isIntel : Bool := true
  hasRun : Bool := false
  deriving DecidableEq

/-- The variables of the host module. -/
structure Global where
  /-- `static u64 data_1d9`. -/
  data1d9 : BitVec 64 := 0x4000
  ignoreMsrs : Bool := false
  /-- `kvm_is_supported_user_return_msr(MSR_TSC_AUX)`. -/
  tscAuxSupported : Bool := true
  deriving DecidableEq

/-- The static calls of the MSR exits into the vendor module.  Both vendors return 1 from
`complete_emulated_msr` on an error: the fault goes to the guest. -/
structure Vendor (M : Type) where
  /-- `kvm_x86_get_msr`: the result and `msr->data`. -/
  getMsr : M → BitVec 32 → Bool → Int × BitVec 64
  /-- `kvm_x86_set_msr`. -/
  setMsr : M → BitVec 32 → BitVec 64 → Bool → Int × M
  /-- `kvm_x86_complete_emulated_msr`. -/
  completeEmulatedMsr : Vcpu M → Int → Int × Vcpu M
  complete_error : ∀ v r, r ≠ 0 → (completeEmulatedMsr v r).1 = 1

variable {M : Type}

/-- `kvm_rcx_read`, as the `u32` the MSR exits make of it. -/
def Vcpu.ecx (v : Vcpu M) : BitVec 32 := v.rcx.setWidth 32

/-- `-1u` as a 64-bit mask. -/
def mask32 : BitVec 64 := 0xffffffff#64

theorem mask32_getLsbD (i : Nat) : mask32.getLsbD i = decide (i < 32) := by
  have h : mask32 = BitVec.setWidth 64 (BitVec.allOnes 32) := by decide
  rw [h, BitVec.getLsbD_setWidth, BitVec.getLsbD_allOnes]
  by_cases hi : i < 32
  · have : i < 64 := by omega
    simp [hi, this]
  · simp [hi]

/-- `kvm_read_edx_eax`. -/
def Vcpu.edxEax (v : Vcpu M) : BitVec 64 :=
  (v.rax &&& mask32) ||| ((v.rdx &&& mask32) <<< 32)

/-- A 64-bit value in EDX:EAX. -/
def Vcpu.writeEdxEax (v : Vcpu M) (data : BitVec 64) : Vcpu M :=
  { v with rax := data &&& mask32, rdx := (data >>> 32) &&& mask32 }

/-- The guest reads back the value that was put in EDX:EAX. -/
@[simp] theorem Vcpu.edxEax_writeEdxEax (v : Vcpu M) (data : BitVec 64) :
    (v.writeEdxEax data).edxEax = data := by
  apply BitVec.eq_of_getLsbD_eq
  intro i hi
  simp only [edxEax, writeEdxEax, BitVec.getLsbD_or, BitVec.getLsbD_and,
    BitVec.getLsbD_shiftLeft, mask32_getLsbD, BitVec.getLsbD_ushiftRight]
  by_cases h : i < 32
  · simp [h]
  · have hup : 32 + (i - 32) = i := by omega
    have hlow : i - 32 < 32 := by omega
    simp [h, hi, hup, hlow]

end Kvm
