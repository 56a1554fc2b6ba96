import PveAntiDetection.Kvm.Vcpu

/-!
# MSR accesses

The paths a guest MSR access takes through `x86.c`:

* `kvmGetMsrWithFilter`, `kvmSetMsrWithFilter` — the checked access, with the MSR filter in front;
* `kvmEmulateRdmsr`, `kvmEmulateWrmsr` — the handlers of the RDMSR and WRMSR exits;
* `emulatorGetMsrWithFilter`, `emulatorSetMsrWithFilter` — the same for the instruction emulator;
* `doGetMsr`, `doSetMsr` — the access of userspace, for migration.

A local that the code reads before it is written is a parameter: `data₀` and `r₀` are what the
stack held.
-/

set_option autoImplicit false

namespace Kvm

variable {M : Type} (V : Vendor M) (g : Global)

/-! ## Checked accesses -/

/-- `__canonical_address`: bit `bits - 1` copied upwards. -/
def canonicalAddress (addr : BitVec 64) (bits : Nat) : BitVec 64 :=
  (addr <<< (64 - bits)).sshiftRight (64 - bits)

/-- `is_noncanonical_address`. -/
def isNoncanonicalAddress (addr : BitVec 64) (v : Vcpu M) : Bool :=
  canonicalAddress addr v.virtAddrBits != addr

/-- The guard of `MSR_TSC_AUX`, the same for reads and writes. -/
def tscAuxRefused (v : Vcpu M) (hostInitiated : Bool) : Bool :=
  !g.tscAuxSupported || (!hostInitiated && !v.hasRdtscp && !v.hasRdpid)

/-- The `switch` of `__kvm_set_msr`: the value to write, or none for a fault. -/
def msrWriteValue (v : Vcpu M) (index : BitVec 32) (data : BitVec 64) (hostInitiated : Bool) :
    Option (BitVec 64) :=
  if index ∈ [msrFsBase, msrGsBase, msrKernelGsBase, msrCstar, msrLstar] then
    if isNoncanonicalAddress data v then none else some data
  else if index ∈ [msrIa32SysenterEip, msrIa32SysenterEsp] then
    some (canonicalAddress data v.virtAddrBits)
  else if index = msrTscAux then
    if tscAuxRefused g v hostInitiated then none
    else if v.isIntel ∧ data >>> 32 ≠ 0 then none
    else some (data &&& mask32)
  else some data

/-- `__kvm_set_msr`. -/
def kvmSetMsrUnchecked (v : Vcpu M) (index : BitVec 32) (data : BitVec 64) (hostInitiated : Bool) :
    Int × Vcpu M :=
  match msrWriteValue g v index data hostInitiated with
  | none => (1, v)
  | some data =>
    let r := V.setMsr v.msrs index data hostInitiated
    (r.1, { v with msrs := r.2 })

/-- `kvm_msr_ignored_check`: whether an invalid access is to be ignored. -/
def kvmMsrIgnoredCheck : Bool := g.ignoreMsrs

/-- `kvm_set_msr_ignored_check`. -/
def kvmSetMsrIgnoredCheck (v : Vcpu M) (index : BitVec 32) (data : BitVec 64)
    (hostInitiated : Bool) : Int × Vcpu M :=
  let r := kvmSetMsrUnchecked V g v index data hostInitiated
  if r.1 = msrRetInvalid ∧ kvmMsrIgnoredCheck g then (0, r.2) else r

/-- `__kvm_get_msr`: `*data` is written on success only. -/
def kvmGetMsrUnchecked (v : Vcpu M) (index : BitVec 32) (data₀ : BitVec 64) (hostInitiated : Bool) :
    Int × BitVec 64 :=
  if index = msrTscAux ∧ tscAuxRefused g v hostInitiated then (1, data₀)
  else
    let r := V.getMsr v.msrs index hostInitiated
    if r.1 = 0 then (r.1, r.2) else (r.1, data₀)

/-- `kvm_get_msr_ignored_check`. -/
def kvmGetMsrIgnoredCheck (v : Vcpu M) (index : BitVec 32) (data₀ : BitVec 64)
    (hostInitiated : Bool) : Int × BitVec 64 :=
  let r := kvmGetMsrUnchecked V g v index data₀ hostInitiated
  if r.1 = msrRetInvalid then
    -- `*data` is cleared whether or not the access is ignored
    if kvmMsrIgnoredCheck g then (0, 0) else (r.1, 0)
  else r

/-- `kvm_get_msr_with_filter`. -/
def kvmGetMsrWithFilter (v : Vcpu M) (index : BitVec 32) (data₀ : BitVec 64) : Int × BitVec 64 :=
  if kvmMsrAllowed v.vm index msrFilterRead then kvmGetMsrIgnoredCheck V g v index data₀ false
  else (msrRetFiltered, data₀)

/-- `kvm_set_msr_with_filter`. -/
def kvmSetMsrWithFilter (v : Vcpu M) (index : BitVec 32) (data : BitVec 64) : Int × Vcpu M :=
  if kvmMsrAllowed v.vm index msrFilterWrite then kvmSetMsrIgnoredCheck V g v index data false
  else (msrRetFiltered, v)

/-! ## Exits to userspace -/

/-- `kvm_msr_reason`. -/
def kvmMsrReason (r : Int) : BitVec 64 :=
  if r = msrRetInvalid then msrExitReasonUnknown
  else if r = msrRetFiltered then msrExitReasonFilter
  else msrExitReasonInval

/-- `kvm_msr_user_space`: the prepared virtual CPU if userspace asked for this kind of fault. -/
def kvmMsrUserSpace (v : Vcpu M) (index : BitVec 32) (exitReason : Nat) (data : BitVec 64)
    (completion : Completion) (r : Int) : Option (Vcpu M) :=
  if v.vm.userSpaceMsrMask &&& kvmMsrReason r = 0 then none
  else some { v with
    run := ⟨exitReason, 0, kvmMsrReason r, index, data⟩
    completeUserspaceIo := some completion }

/-- How the handler of an MSR exit ends. -/
inductive Exit (M : Type) where
  /-- `return 0`, with the access handed to userspace. -/
  | userspace (v : Vcpu M)
  /-- `return r`, a negative error. -/
  | error (r : Int) (v : Vcpu M)
  /-- The tail call of `complete_emulated_msr` with `r`: the instruction completes on 0 and faults
  otherwise. -/
  | complete (v : Vcpu M) (r : Int)
  deriving DecidableEq

/-- The return value of the handler, and the virtual CPU it leaves. -/
def Exit.finish : Exit M → Int × Vcpu M
  | .userspace v => (0, v)
  | .error r v => (r, v)
  | .complete v r => V.completeEmulatedMsr v r

/-- The virtual CPU at the end of the handler's own code. -/
def Exit.vcpu : Exit M → Vcpu M
  | .userspace v => v
  | .error _ v => v
  | .complete v _ => v

/-- The exit completes the instruction. -/
def Exit.Completes (e : Exit M) : Prop := ∃ v, e = .complete v 0

instance : DecidablePred (Exit.Completes (M := M))
  | .userspace _ => isFalse (by rintro ⟨v, hv⟩; cases hv)
  | .error _ _ => isFalse (by rintro ⟨v, hv⟩; cases hv)
  | .complete v r =>
    if h : r = 0 then isTrue ⟨v, by rw [h]⟩ else isFalse (by rintro ⟨w, hw⟩; cases hw; exact h rfl)

/-- The value a completed RDMSR leaves in EDX:EAX. -/
def Exit.value : Exit M → Option (BitVec 64)
  | .complete v r => if r = 0 then some v.edxEax else none
  | _ => none

/-! ## The exit handlers -/

/-- The results that `kvm_emulate_rdmsr` forces on single indices. -/
def rdmsrOverride (ecx : BitVec 32) (r : Int) : Int :=
  let r := if ecx = 0x4b564d00#32 then 1 else r
  let r := if ecx = 0x1db#32 then 1 else r
  let r := if ecx = 0x1a2#32 then 0 else r
  let r := if ecx = 0x19c#32 then 0 else r
  r

/-- The body of `kvm_emulate_rdmsr`. -/
def rdmsrExit (v : Vcpu M) (data₀ : BitVec 64) : Exit M :=
  let ecx := v.ecx
  let got := kvmGetMsrWithFilter V g v ecx data₀
  let data := got.2
  let r := rdmsrOverride ecx got.1
  if r = 0 then
    let data := if ecx = 0x1d9#32 then g.data1d9 else data
    .complete (v.writeEdxEax data) r
  else
    match kvmMsrUserSpace v ecx kvmExitX86Rdmsr 0 .fastRdmsr r with
    | some v' => .userspace v'
    | none => .complete v r

/-- `kvm_emulate_rdmsr`. -/
def kvmEmulateRdmsr (v : Vcpu M) (data₀ : BitVec 64) : Int × Vcpu M :=
  (rdmsrExit V g v data₀).finish V

/-- The values of `IA32_DEBUGCTL` for which `kvm_emulate_wrmsr` sets `r` itself. -/
def freezeValues : List (BitVec 64) := [0x4000, 0x4001, 0x4002, 0x4003]

/-- What a successful write of `IA32_DEBUGCTL` makes of `data_1d9`. -/
def debugctlWrite (data d : BitVec 64) : BitVec 64 :=
  let d := if data = 0x4000 ∨ data = 0x4001 then 0x4000 else d
  let d := if data = 0x4002 ∨ data = 0x4003 then 0x4002 else d
  let d := if data = 0x0 ∨ data = 0x1 then 0 else d
  let d := if data = 0x2 ∨ data = 0x3 then 2 else d
  d

/-- The write itself: the result and the virtual CPU. -/
def wrmsrSet (v : Vcpu M) (r₀ : Int) : Int × Vcpu M :=
  if v.ecx = 0x1d9#32 then
    -- no assignment for the other values: `r` keeps what the stack held
    (if v.edxEax ∈ freezeValues then 0 else r₀, v)
  else kvmSetMsrWithFilter V g v v.ecx v.edxEax

/-- What `kvm_emulate_wrmsr` does with the result `r` of the write. -/
def wrmsrEnd (ecx : BitVec 32) (data : BitVec 64) (r : Int) (v : Vcpu M) : Exit M × Global :=
  if r = 0 then
    (.complete v r,
      if ecx = 0x1d9#32 then { g with data1d9 := debugctlWrite data g.data1d9 } else g)
  else
    match kvmMsrUserSpace v ecx kvmExitX86Wrmsr data .fastMsrAccess r with
    | some v' => (.userspace v', g)
    | none => if r < 0 then (.error r v, g) else (.complete v r, g)

/-- The body of `kvm_emulate_wrmsr`, with the module variables it leaves. -/
def wrmsrExit (v : Vcpu M) (r₀ : Int) : Exit M × Global :=
  let set := wrmsrSet V g v r₀
  wrmsrEnd g v.ecx v.edxEax set.1 set.2

/-- `kvm_emulate_wrmsr`. -/
def kvmEmulateWrmsr (v : Vcpu M) (r₀ : Int) : (Int × Vcpu M) × Global :=
  let e := wrmsrExit V g v r₀
  (e.1.finish V, e.2)

/-! ## The instruction emulator -/

/-- `X86EMUL_*`. -/
inductive EmulResult where
  | continue
  | unhandleable
  | propagateFault
  | ioNeeded
  deriving DecidableEq

/-- `emulator_get_msr_with_filter`: the result, the value at `pdata` and the virtual CPU. -/
def emulatorGetMsrWithFilter (v : Vcpu M) (index : BitVec 32) (data₀ : BitVec 64) :
    EmulResult × BitVec 64 × Vcpu M :=
  let got := kvmGetMsrWithFilter V g v index data₀
  if got.1 < 0 then (.unhandleable, got.2, v)
  else if got.1 ≠ 0 then
    match kvmMsrUserSpace v index kvmExitX86Rdmsr 0 .emulatedRdmsr got.1 with
    | some v' => (.ioNeeded, got.2, v')
    | none => (.propagateFault, got.2, v)
  else (.continue, got.2, v)

/-- `emulator_set_msr_with_filter`. -/
def emulatorSetMsrWithFilter (v : Vcpu M) (index : BitVec 32) (data : BitVec 64) :
    EmulResult × Vcpu M :=
  let set := kvmSetMsrWithFilter V g v index data
  if set.1 < 0 then (.unhandleable, set.2)
  else if set.1 ≠ 0 then
    match kvmMsrUserSpace set.2 index kvmExitX86Wrmsr data .emulatedMsrAccess set.1 with
    | some v' => (.ioNeeded, v')
    | none => (.propagateFault, set.2)
  else (.continue, set.2)

/-! ## Access from userspace -/

/-- `KVM_FIRST_EMULATED_VMX_MSR` to `KVM_LAST_EMULATED_VMX_MSR`, and
`msr_based_features_all_except_vmx` without `MSR_IA32_UCODE_REV`. -/
def kvmIsImmutableFeatureMsr (msr : BitVec 32) : Bool :=
  if 0x480 ≤ msr ∧ msr ≤ 0x491 then true
  else msr ∈ ([0xc0011029, 0x10a, 0x345] : List (BitVec 32))

/-- `do_get_msr`. -/
def doGetMsr (v : Vcpu M) (index : BitVec 32) (data₀ : BitVec 64) : Int × BitVec 64 :=
  kvmGetMsrIgnoredCheck V g v index data₀ true

/-- `do_set_msr`; `-22` is `-EINVAL`. -/
def doSetMsr (v : Vcpu M) (index : BitVec 32) (data val₀ : BitVec 64) : Int × Vcpu M :=
  if v.hasRun ∧ kvmIsImmutableFeatureMsr index then
    let got := doGetMsr V g v index val₀
    if got.1 ≠ 0 ∨ data ≠ got.2 then (-22, v) else (0, v)
  else kvmSetMsrIgnoredCheck V g v index data true

end Kvm
