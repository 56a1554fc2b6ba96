import PveAntiDetection.Kvm.Msr

/-!
# The vendor modules

`vmx.c` and `svm.c` outside nested mode, for the MSRs that the exits of `x86.c` single out; every
other index is unknown to them here.

* `vmx`, `svm` — the two instances of `Vendor`;
* `FreezeIgnored` — what both do with the values of `freezeValues` in `IA32_DEBUGCTL`;
  `vmx_freezeIgnored`, `svm_freezeIgnored`.
-/

set_option autoImplicit false

namespace Kvm

/-- `kvm_complete_insn_gp`, the `complete_emulated_msr` of `vmx.c`, and that of `svm.c` for a guest
without SEV-ES; 13 is `GP_VECTOR`. -/
def kvmCompleteInsnGp {M : Type} (v : Vcpu M) (err : Int) : Int × Vcpu M :=
  if err ≠ 0 then (1, { v with exception := some (13, 0) })
  else (1, { v with rip := v.rip + v.instructionLen })

theorem kvmCompleteInsnGp_error {M : Type} (v : Vcpu M) (r : Int) (hr : r ≠ 0) :
    (kvmCompleteInsnGp v r).1 = 1 := by
  simp [kvmCompleteInsnGp, hr]

/-! ## VMX -/

/-- The VMX state behind those MSRs. -/
structure VmxMsrs where
  /-- `GUEST_IA32_DEBUGCTL`. -/
  debugctl : BitVec 64 := 0
  /-- `boot_cpu_has` and `guest_cpuid_has` of `X86_FEATURE_BUS_LOCK_DETECT`. -/
  hostBusLock : Bool := false
  guestBusLock : Bool := false
  /-- `kvm_caps.supported_perf_cap & PMU_CAP_LBR_FMT` and `intel_pmu_lbr_is_enabled`. -/
  perfCapLbrFmt : Bool := false
  lbrEnabled : Bool := false
  /-- `kvm->arch.wall_clock`, with `KVM_FEATURE_CLOCKSOURCE2`. -/
  wallClock : Option (BitVec 64) := none
  deriving DecidableEq

/-- `vmx_get_msr`, and the cases of `kvm_get_msr_common` behind it. -/
def vmxGetMsr (m : VmxMsrs) (index : BitVec 32) (_hostInitiated : Bool) : Int × BitVec 64 :=
  if index = msrIa32Debugctl then (0, m.debugctl)
  else if index = 0x1db#32 then (0, 0)
  else if index = 0x4b564d00#32 then
    match m.wallClock with
    | none => (1, 0)
    | some w => (0, w)
  else (msrRetInvalid, 0)

/-- `vmx_get_supported_debugctl`. -/
def vmxGetSupportedDebugctl (m : VmxMsrs) (hostInitiated : Bool) : BitVec 64 :=
  let debugctl := 0
  let debugctl := if m.hostBusLock && (hostInitiated || m.guestBusLock) then
    debugctl ||| 0x4 else debugctl
  let debugctl := if m.perfCapLbrFmt && (hostInitiated || m.lbrEnabled) then
    debugctl ||| 0x801 else debugctl
  debugctl

/-- `DEBUGCTLMSR_BTF | DEBUGCTLMSR_LBR`. -/
def debugctlBtfLbr : BitVec 64 := 3

/-- `vmx_set_msr`, and the cases of `kvm_set_msr_common` behind it. -/
def vmxSetMsr (m : VmxMsrs) (index : BitVec 32) (data : BitVec 64) (hostInitiated : Bool) :
    Int × VmxMsrs :=
  if index = msrIa32Debugctl then
    let invalid := data &&& ~~~vmxGetSupportedDebugctl m hostInitiated
    -- BTF and LBR are dropped with a message where they are not supported
    let drop := invalid &&& debugctlBtfLbr ≠ 0
    let data := if drop then data &&& ~~~debugctlBtfLbr else data
    let invalid := if drop then invalid &&& ~~~debugctlBtfLbr else invalid
    if invalid ≠ 0 then (1, m) else (0, { m with debugctl := data })
  else if index = 0x4b564d00#32 then
    match m.wallClock with
    | none => (1, m)
    | some _ => (0, { m with wallClock := some data })
  else (msrRetInvalid, m)

/-- The calls of `vmx.c`. -/
def vmx : Vendor VmxMsrs where
  getMsr := vmxGetMsr
  setMsr := vmxSetMsr
  completeEmulatedMsr := kvmCompleteInsnGp
  complete_error := kvmCompleteInsnGp_error

/-! ## SVM -/

/-- The SVM state behind those MSRs. -/
structure SvmMsrs where
  lbrv : Bool := true
  /-- `save.dbgctl`. -/
  dbgctl : BitVec 64 := 0
  /-- `save.br_from`. -/
  brFrom : BitVec 64 := 0
  wallClock : Option (BitVec 64) := none
  deriving DecidableEq

/-- `svm_get_msr`, and the cases of `kvm_get_msr_common` behind it. -/
def svmGetMsr (m : SvmMsrs) (index : BitVec 32) (_hostInitiated : Bool) : Int × BitVec 64 :=
  if index = msrIa32Debugctl then (0, m.dbgctl)
  else if index = 0x1db#32 then (0, m.brFrom)
  else if index = 0x4b564d00#32 then
    match m.wallClock with
    | none => (1, 0)
    | some w => (0, w)
  else (msrRetInvalid, 0)

/-- `DEBUGCTL_RESERVED_BITS`. -/
def debugctlReservedBits : BitVec 64 := ~~~0x3f

/-- `svm_set_msr`, and the cases of `kvm_set_msr_common` behind it. -/
def svmSetMsr (m : SvmMsrs) (index : BitVec 32) (data : BitVec 64) (_hostInitiated : Bool) :
    Int × SvmMsrs :=
  if index = msrIa32Debugctl then
    if !m.lbrv then (0, m)
    else if data &&& debugctlReservedBits ≠ 0 then (1, m)
    else (0, { m with dbgctl := data })
  else if index = 0x4b564d00#32 then
    match m.wallClock with
    | none => (1, m)
    | some _ => (0, { m with wallClock := some data })
  else (msrRetInvalid, m)

/-- The calls of `svm.c`. -/
def svm : Vendor SvmMsrs where
  getMsr := svmGetMsr
  setMsr := svmSetMsr
  completeEmulatedMsr := kvmCompleteInsnGp
  complete_error := kvmCompleteInsnGp_error

/-! ## Writes of bit 14 -/

/-- A guest write of a value with bit 14 to `IA32_DEBUGCTL` never changes the vendor's state: the
write faults, or it is dropped. -/
def FreezeIgnored {M : Type} (V : Vendor M) : Prop :=
  ∀ (m : M) (data : BitVec 64), data ∈ freezeValues →
    (V.setMsr m msrIa32Debugctl data false).2 = m

theorem svm_freezeIgnored : FreezeIgnored svm := by
  intro m data hdata
  have hreserved : data &&& debugctlReservedBits ≠ 0 := by
    simp only [freezeValues, List.mem_cons, List.not_mem_nil, or_false] at hdata
    rcases hdata with rfl | rfl | rfl | rfl <;> decide
  simp only [svm, svmSetMsr, if_true, if_pos hreserved]
  split
  · rfl
  · rfl

theorem getLsbD_freezeValues {data : BitVec 64} (hdata : data ∈ freezeValues) :
    data.getLsbD 14 = true := by
  simp only [freezeValues, List.mem_cons, List.not_mem_nil, or_false] at hdata
  rcases hdata with rfl | rfl | rfl | rfl <;> decide

/-- Bit 14 is none of the bits VMX supports. -/
theorem vmxGetSupportedDebugctl_freeze (m : VmxMsrs) (hostInitiated : Bool) :
    (vmxGetSupportedDebugctl m hostInitiated).getLsbD 14 = false := by
  unfold vmxGetSupportedDebugctl
  cases m.hostBusLock && (hostInitiated || m.guestBusLock) <;>
    cases m.perfCapLbrFmt && (hostInitiated || m.lbrEnabled) <;> decide

theorem ne_zero_of_getLsbD {x : BitVec 64} {i : Nat} (hx : x.getLsbD i = true) : x ≠ 0 := by
  rintro rfl
  simp at hx

/-- VMX refuses a value with bit 14. -/
theorem vmxSetMsr_freezeValues (m : VmxMsrs) {data : BitVec 64} (hdata : data ∈ freezeValues)
    (hostInitiated : Bool) : vmxSetMsr m msrIa32Debugctl data hostInitiated = (1, m) := by
  have hinvalid : (data &&& ~~~vmxGetSupportedDebugctl m hostInitiated).getLsbD 14 = true := by
    rw [BitVec.getLsbD_and, BitVec.getLsbD_not, getLsbD_freezeValues hdata,
      vmxGetSupportedDebugctl_freeze]
    rfl
  simp only [vmxSetMsr, if_true]
  refine if_pos ?_
  split
  · refine ne_zero_of_getLsbD (i := 14) ?_
    rw [BitVec.getLsbD_and, hinvalid]
    decide
  · exact ne_zero_of_getLsbD hinvalid

theorem vmx_freezeIgnored : FreezeIgnored vmx := by
  intro m data hdata
  show (vmxSetMsr m msrIa32Debugctl data false).2 = m
  rw [vmxSetMsr_freezeValues m hdata]

end Kvm
