import Mathlib.Logic.Function.Basic
import PveAntiDetection.Lib.Refusals
import PveAntiDetection.Kvm.SvmMsrpm
import PveAntiDetection.Kvm.Tsc

/-!
# The MSRs of `x86.c`

What `kvm_set_msr_common` and `kvm_get_msr_common` do on an AMD host.

* `MsrState` — the MSR state of a virtual CPU, with the fields of `svm.c` among it;
* `VoidCallee`, `FallibleCallee`, `MsrReader` — the calls whose bodies are not modelled, and
  `MsrEnv` with what they do and what the checks read;
* `commonMsr` — the labels of the two switches;
* `kvmPvEnableAsyncPf`, `setMsrMce`, `setEfer`, `kvmSetApicBase`, `kvmSetMsrCommon` — the writes;
* `kvmGetMsrCommon` — the reads;
* `clean_kvmSetMsrCommon_iff` — a refused write has an effect on the asynchronous page faults only.
-/

set_option autoImplicit false

namespace Kvm.Msrs

open Refusals

/-! ## State -/

/-- `struct msr_data`. -/
structure MsrData where
  hostInitiated : Bool
  index : BitVec 32
  data : BitVec 64
  deriving DecidableEq

/-- What the writes to MSRs touch of a VMCB. -/
structure Vmcb where
  /-- `control.clean`, `control.virt_ext`, and the intercept words. -/
  clean : BitVec 32 := 0
  virtExt : BitVec 64 := 0
  intercepts : BitVec 192 := 0
  gPat : BitVec 64 := 0
  star : BitVec 64 := 0
  lstar : BitVec 64 := 0
  cstar : BitVec 64 := 0
  kernelGsBase : BitVec 64 := 0
  sfmask : BitVec 64 := 0
  sysenterCs : BitVec 64 := 0
  sysenterEip : BitVec 64 := 0
  sysenterEsp : BitVec 64 := 0
  specCtrl : BitVec 64 := 0
  dbgctl : BitVec 64 := 0
  brFrom : BitVec 64 := 0
  brTo : BitVec 64 := 0
  lastExcpFrom : BitVec 64 := 0
  lastExcpTo : BitVec 64 := 0
  efer : BitVec 64 := 0
  deriving DecidableEq

/-- `vcpu->arch.apf`. -/
structure Apf where
  msrEnVal : BitVec 64 := 0
  msrIntVal : BitVec 64 := 0
  sendUserOnly : Bool := false
  deliveryAsPfVmexit : Bool := false
  pagereadyPending : Bool := false
  deriving DecidableEq

/-- The requests that the writes make. -/
inductive MsrRequest where
  | clockUpdate
  | masterclockUpdate
  | globalClockUpdate
  | stealUpdate
  deriving DecidableEq

/-- The MSR state of a virtual CPU; `rest` is what only the callees know. -/
structure MsrState (R : Type) where
  rest : R
  -- `vcpu->arch`, `vcpu->kvm->arch`
  cr0 : BitVec 64 := 0
  efer : BitVec 64 := 0
  apicBase : BitVec 64 := 0
  microcodeVersion : BitVec 64 := 0
  archCapabilities : BitVec 64 := 0
  perfCapabilities : BitVec 64 := 0
  msrHwcr : BitVec 64 := 0
  pat : BitVec 64 := 0
  ia32TscAdjustMsr : BitVec 64 := 0
  ia32MiscEnableMsr : BitVec 64 := 0
  smbase : BitVec 64 := 0
  msrIa32PowerCtl : BitVec 64 := 0
  ia32Xss : BitVec 64 := 0
  smiCount : BitVec 64 := 0
  wallClock : BitVec 64 := 0
  time : BitVec 64 := 0
  bootVcpuRunsOldKvmclock : Bool := false
  apf : Apf := {}
  stMsrVal : BitVec 64 := 0
  pvEoiMsrVal : BitVec 64 := 0
  msrKvmPollControl : BitVec 64 := 0
  mcgCap : BitVec 64 := 0
  mcgCtl : BitVec 64 := 0
  mcgStatus : BitVec 64 := 0
  mceBanks : Nat → BitVec 64 := fun _ => 0
  mciCtl2Banks : Nat → BitVec 64 := fun _ => 0
  osvwLength : BitVec 64 := 0
  osvwStatus : BitVec 64 := 0
  msrPlatformInfo : BitVec 64 := 0
  msrMiscFeaturesEnables : BitVec 64 := 0
  xfd : BitVec 64 := 0
  xfdErr : BitVec 64 := 0
  l1TscOffset : BitVec 64 := 0
  tscOffset : BitVec 64 := 0
  l1TscScalingRatio : BitVec 64 := 0
  tscScalingRatio : BitVec 64 := 0
  requests : MsrRequest → Bool := fun _ => false
  -- `struct vcpu_svm`
  /-- `vmcb` is `vmcb02` in guest mode, and `vmcb01` outside. -/
  guestMode : Bool := false
  vmcb01 : Vmcb := {}
  vmcb02 : Vmcb := {}
  nestedCtlVirtExt : BitVec 64 := 0
  tscRatioMsr : BitVec 64 := 0
  specCtrl : BitVec 64 := 0
  virtSpecCtrl : BitVec 64 := 0
  sysenterEipHi : BitVec 32 := 0
  sysenterEspHi : BitVec 32 := 0
  tscAux : BitVec 64 := 0
  hsaveMsr : BitVec 64 := 0
  vmCrMsr : BitVec 64 := 0
  msrDecfg : BitVec 64 := 0
  /-- The permission map, and the shadow of the requests for it. -/
  msrpm : SvmMsrpm := {}

/-! ## What is outside -/

/-- The features that the checks ask for. -/
inductive X86Feature where
  | tscratemsr | lbrv | virtSsbd | specCtrl | amdIbpb | ibpb | sbpb | flushL1d | tscAdjust | xmm3
  | xsaves | osvw | xfd | archCapabilities | pdcm | x2apic | autoibrs | fxsrOpt | svm | lm | nx
  | vSpecCtrl | vTscAux | lfenceRdtsc
  deriving DecidableEq

/-- The features of `KVM_CPUID_FEATURES`. -/
inductive PvFeature where
  | clocksource | clocksource2 | asyncPf | asyncPfVmexit | asyncPfInt | stealTime | pvEoi
  | pollControl
  deriving DecidableEq

/-- `enum lapic_mode`. -/
inductive LapicMode where
  | disabled | invalid | xapic | x2apic
  deriving DecidableEq

/-- The calls that return nothing. -/
inductive VoidCallee where
  | kvmPmuRefresh
  | kvmVcpuWriteTscOffset (l1Offset : BitVec 64)
  | kvmSynchronizeTsc (data : BitVec 64)
  | kvmSetLapicTscdeadlineMsr (data : BitVec 64)
  | kvmUpdateCpuidRuntime
  | kvmWriteWallClock (wallClock : BitVec 64)
  | kvmGpcActivate (gpa : BitVec 64)
  | kvmGpcDeactivate
  | kvmClearAsyncPfCompletionQueue
  | kvmAsyncPfHashReset
  | kvmAsyncPfWakeupAll
  | kvmCheckAsyncPfCompletion
  | fpuUpdateGuestXfd (data : BitVec 64)
  | kvmLapicSetBase (data : BitVec 64)
  | kvmRecalculateApicMap
  | kvmMmuResetContext
  | kvmHvXsavesXsavecMaybeWarn
  | svmLeaveNested
  | svmSetGif
  | svmFreeNested
  | setGpIntercept (value : Bool)
  | nestedSvmUpdateTscRatioMsr
  | nestedVmcb02ComputeGPat
  deriving DecidableEq

/-- The calls that may be refused. -/
inductive FallibleCallee where
  | kvmXenWriteHypercallPage (data : BitVec 64)
  | kvmMtrrSetMsr (msr : BitVec 32) (data : BitVec 64)
  | kvmX2apicMsrWrite (msr : BitVec 32) (data : BitVec 64)
  | kvmLapicSetPvEoi (data : BitVec 64)
  | kvmPmuSetMsr (m : MsrData)
  | kvmHvSetMsrCommon (m : MsrData)
  | kvmSetUserReturnMsr (value : BitVec 64)
  | svmAllocateNested
  deriving DecidableEq

/-- The calls that read. -/
inductive MsrReader where
  | kvmMtrrGetMsr (msr : BitVec 32)
  | kvmX2apicMsrRead (msr : BitVec 32)
  | kvmPmuGetMsr (msr : BitVec 32) (hostInitiated : Bool)
  | kvmHvGetMsrCommon (msr : BitVec 32) (hostInitiated : Bool)
  deriving DecidableEq

/-- The callees, and what the accesses read of the guest's CPUID and of the host. -/
structure MsrEnv (R : Type) where
  call : VoidCallee → MsrState R → MsrState R
  attempt : FallibleCallee → MsrState R → Int × MsrState R
  reader : MsrReader → MsrState R → Int × BitVec 64
  /-- `kvm_gfn_to_hva_cache_init` for `vcpu->arch.apf.data`. -/
  kvmGfnToHvaCacheInit : BitVec 64 → Int
  kvmGetLapicTscdeadlineMsr : MsrState R → BitVec 64
  kvmPmuIsValidMsr : MsrState R → BitVec 32 → Bool
  kvmPatValid : BitVec 64 → Bool
  kvmApicMode : BitVec 64 → LapicMode
  pageAddressValid : BitVec 64 → Bool
  cpuidFaultEnabled : MsrState R → Bool
  supportsCpuidFault : MsrState R → Bool
  guestCpuidHas : X86Feature → Bool
  guestCanUse : X86Feature → Bool
  /-- `boot_cpu_has`, `static_cpu_has`, `cpu_feature_enabled`. -/
  bootCpuHas : X86Feature → Bool
  guestPvHas : PvFeature → Bool
  guestHasSpecCtrlMsr : Bool
  guestHasPredCmdMsr : Bool
  guestCpuidIsIntel : Bool
  guestCpuidIsAmdCompatible : Bool
  guestCpuidFamily : Int
  guestCpuidModel : Int
  lapicInKernel : Bool
  sevEsGuest : Bool
  isSmm : Bool
  vcpuId : Nat
  lbrv : Bool
  nptEnabled : Bool
  enableVmwareBackdoor : Bool
  /-- `svm_gp_erratum_intercept`, outside SEV. -/
  gpErratumIntercept : Bool
  configKvmSmm : Bool
  schedInfoOn : Bool
  quirkMiscEnableNoMwait : Bool
  guestCanReadMsrPlatformInfo : Bool
  xenHvmConfigMsr : BitVec 32
  eferReservedBits : BitVec 64
  supportedPerfCap : BitVec 64
  supportedXss : BitVec 64
  guestSupportedXfd : BitVec 64
  reservedGpaBitsRaw : BitVec 64
  msrsToSave : List (BitVec 32)
  tscCaps : TscCaps
  rdtsc : BitVec 64
  /-- `rdmsrl_safe` and `wrmsrl_safe` of the host's `IA32_SPEC_CTRL` fail. -/
  rdmsrSpecCtrlFails : Bool
  wrmsrSpecCtrlFails : BitVec 64 → Bool

variable {R : Type}

/-- What is relied on: a call that is refused leaves the MSR state as it was. -/
def MsrEnv.Contract (env : MsrEnv R) : Prop :=
  ∀ (f : FallibleCallee) (s : MsrState R), Clean s (env.attempt f s)

/-- `kvm_make_request`. -/
def kvmMakeRequest (s : MsrState R) (r : MsrRequest) : MsrState R :=
  { s with requests := Function.update s.requests r true }

/-- `svm->vmcb`. -/
def MsrState.vmcb (s : MsrState R) : Vmcb := if s.guestMode then s.vmcb02 else s.vmcb01

/-- A write through `svm->vmcb`. -/
def MsrState.setVmcb (s : MsrState R) (vmcb : Vmcb) : MsrState R :=
  if s.guestMode then { s with vmcb02 := vmcb } else { s with vmcb01 := vmcb }

/-- `vmcb_mark_dirty`. -/
def Vmcb.markDirty (vmcb : Vmcb) (bit : Nat) : Vmcb :=
  { vmcb with clean := vmcb.clean &&& ~~~BitVec.twoPow 32 bit }

/-! ## Labels -/

/-- The classes of MSRs that `kvm_set_msr_common` and `kvm_get_msr_common` tell apart. -/
inductive CommonMsr where
  | ignored | writeIgnored | readZero | ucodeRev | archCapabilities | perfCapabilities | predCmd
  | flushCmd | efer | hwcr | mmioConfBase | pat | mtrr | mtrrCap | apicBase | x2apic | tscDeadline
  | tscAdjust | miscEnable | smbase | powerCtl | tsc | xss | smiCount | wallClockNew | wallClock
  | systemTimeNew | systemTime | asyncPfEn | asyncPfInt | asyncPfAck | stealTime | pvEoiEn
  | pollControl | mce | mceRead | pmuLegacy | clkCtl | hyperv | bblCrCtl3 | osvwIdLength
  | osvwStatus | platformInfo | miscFeaturesEnables | xfd | xfdErr | fsbFrequency | ebcFrequencyId
  | perfStatus | other
  deriving DecidableEq

def msrKvmAsyncPfEn : BitVec 32 := 0x4b564d02
def msrVmCr : BitVec 32 := 0xc0010114
def msrIa32McgStatus : BitVec 32 := 0x17a
def msrIa32McgCtl : BitVec 32 := 0x17b
def msrIa32McgCap : BitVec 32 := 0x179
def msrIa32Mc0Ctl : BitVec 32 := 0x400
def msrIa32Mc0Ctl2 : BitVec 32 := 0x280

/-- The labels, as ranges. -/
def commonMsrTable : List (BitVec 32 × BitVec 32 × CommonMsr) :=
  [(0xc001001f, 0xc001001f, .ignored), -- AMD64_NB_CFG
   (0xc0010117, 0xc0010117, .ignored), -- VM_HSAVE_PA
   (0xc001102a, 0xc001102a, .ignored), -- AMD64_BU_CFG2
   (0xc0011022, 0xc0011023, .ignored), -- AMD64_DC_CFG, AMD64_TW_CFG
   (0xc001102c, 0xc001102c, .ignored), -- F15H_EX_CFG
   (0x79, 0x79, .writeIgnored), -- IA32_UCODE_WRITE
   (0xc0010020, 0xc0010020, .writeIgnored), -- AMD64_PATCH_LOADER
   (0x17, 0x17, .readZero), -- IA32_PLATFORM_ID
   (0x2a, 0x2a, .readZero), -- IA32_EBL_CR_POWERON
   (0x1db, 0x1de, .readZero), -- IA32_LASTBRANCHFROMIP to IA32_LASTINTTOIP
   (0xc0010010, 0xc0010010, .readZero), -- AMD64_SYSCFG
   (0xc0010112, 0xc0010113, .readZero), -- K8_TSEG_ADDR, K8_TSEG_MASK
   (0xc0010055, 0xc0010055, .readZero), -- K8_INT_PENDING_MSG
   (0x199, 0x199, .readZero), -- IA32_PERF_CTL
   (0x606, 0x606, .readZero), -- RAPL_POWER_UNIT
   (0x639, 0x639, .readZero), -- PP0_ENERGY_STATUS
   (0x641, 0x641, .readZero), -- PP1_ENERGY_STATUS
   (0x611, 0x611, .readZero), -- PKG_ENERGY_STATUS
   (0x619, 0x619, .readZero), -- DRAM_ENERGY_STATUS
   (0x8b, 0x8b, .ucodeRev),
   (0x10a, 0x10a, .archCapabilities),
   (0x345, 0x345, .perfCapabilities),
   (0x49, 0x49, .predCmd),
   (0x10b, 0x10b, .flushCmd),
   (0xc0000080, 0xc0000080, .efer),
   (0xc0010015, 0xc0010015, .hwcr),
   (0xc0010058, 0xc0010058, .mmioConfBase),
   (0x277, 0x277, .pat),
   (0x200, 0x26f, .mtrr), -- MTRRphysBase_MSR(0) to MTRRfix4K_F8000
   (0x2ff, 0x2ff, .mtrr), -- MTRRdefType
   (0xfe, 0xfe, .mtrrCap),
   (0x1b, 0x1b, .apicBase),
   (0x800, 0x8ff, .x2apic),
   (0x6e0, 0x6e0, .tscDeadline),
   (0x3b, 0x3b, .tscAdjust),
   (0x1a0, 0x1a0, .miscEnable),
   (0x9e, 0x9e, .smbase),
   (0x1fc, 0x1fc, .powerCtl),
   (0x10, 0x10, .tsc),
   (0xda0, 0xda0, .xss),
   (0x34, 0x34, .smiCount),
   (0x4b564d00, 0x4b564d00, .wallClockNew),
   (0x11, 0x11, .wallClock),
   (0x4b564d01, 0x4b564d01, .systemTimeNew),
   (0x12, 0x12, .systemTime),
   (msrKvmAsyncPfEn, msrKvmAsyncPfEn, .asyncPfEn),
   (0x4b564d06, 0x4b564d06, .asyncPfInt),
   (0x4b564d07, 0x4b564d07, .asyncPfAck),
   (0x4b564d03, 0x4b564d03, .stealTime),
   (0x4b564d04, 0x4b564d04, .pvEoiEn),
   (0x4b564d05, 0x4b564d05, .pollControl),
   (msrIa32McgStatus, msrIa32McgCtl, .mce),
   (msrIa32Mc0Ctl, msrIa32Mc0Ctl + 4 * 32 - 1, .mce),
   (msrIa32Mc0Ctl2, msrIa32Mc0Ctl2 + 32 - 1, .mce),
   (0x0, 0x1, .mceRead), -- IA32_P5_MC_ADDR, IA32_P5_MC_TYPE
   (msrIa32McgCap, msrIa32McgCap, .mceRead),
   (0xc0010004, 0xc0010007, .pmuLegacy), -- K7_PERFCTR0 to K7_PERFCTR3
   (0xc1, 0xc2, .pmuLegacy), -- P6_PERFCTR0, P6_PERFCTR1
   (0xc0010000, 0xc0010003, .pmuLegacy), -- K7_EVNTSEL0 to K7_EVNTSEL3
   (0x186, 0x187, .pmuLegacy), -- P6_EVNTSEL0, P6_EVNTSEL1
   (0xc001001b, 0xc001001b, .clkCtl),
   (0x40000000, 0x4000009f, .hyperv), -- GUEST_OS_ID to SINT15
   (0x400000f1, 0x400000f5, .hyperv), -- SYNDBG_CONTROL to SYNDBG_PENDING_BUFFER
   (0x400000ff, 0x400000ff, .hyperv), -- SYNDBG_OPTIONS
   (0x40000100, 0x40000105, .hyperv), -- CRASH_P0 to CRASH_CTL
   (0x400000b0, 0x400000b7, .hyperv), -- STIMER0_CONFIG to STIMER3_COUNT
   (0x40000106, 0x40000108, .hyperv), -- REENLIGHTENMENT_CONTROL to TSC_EMULATION_STATUS
   (0x40000118, 0x40000118, .hyperv), -- TSC_INVARIANT_CONTROL
   (0x11e, 0x11e, .bblCrCtl3),
   (0xc0010140, 0xc0010140, .osvwIdLength),
   (0xc0010141, 0xc0010141, .osvwStatus),
   (0xce, 0xce, .platformInfo),
   (0x140, 0x140, .miscFeaturesEnables),
   (0x1c4, 0x1c4, .xfd),
   (0x1c5, 0x1c5, .xfdErr),
   (0xcd, 0xcd, .fsbFrequency),
   (0x2c, 0x2c, .ebcFrequencyId),
   (0x198, 0x198, .perfStatus)]

/-- The label of an MSR. -/
def commonMsr (msr : BitVec 32) : CommonMsr :=
  match commonMsrTable.find? fun r => r.1 ≤ msr ∧ msr ≤ r.2.1 with
  | none => .other
  | some r => r.2.2

/-! ## Writes -/

/-- `is_mci_control_msr`, `is_mci_status_msr`. -/
def isMciControlMsr (msr : BitVec 32) : Bool := msr &&& 3 = 0
def isMciStatusMsr (msr : BitVec 32) : Bool := msr &&& 3 = 1

/-- `KVM_ASYNC_PF_ENABLED | KVM_ASYNC_PF_DELIVERY_AS_INT`. -/
def asyncPfEnabledMask : BitVec 64 := 0x9

section Writes

variable (env : MsrEnv R) (s : MsrState R) (m : MsrData)

/-- `can_set_mci_status`. -/
def canSetMciStatus : Bool := env.guestCpuidIsAmdCompatible && s.msrHwcr.getLsbD 18

/-- `set_msr_mce`. -/
def setMsrMce : Int × MsrState R :=
  let bankNum := s.mcgCap &&& 0xff
  if m.index = msrIa32McgStatus then (0, { s with mcgStatus := m.data })
  else if m.index = msrIa32McgCtl then
    if ¬ s.mcgCap.getLsbD 8 ∧ (m.data ≠ 0 ∨ ¬ m.hostInitiated) then (1, s)
    else if m.data ≠ 0 ∧ m.data ≠ ~~~0 then (1, s)
    else (0, { s with mcgCtl := m.data })
  else if msrIa32Mc0Ctl2 ≤ m.index ∧ m.index ≤ msrIa32Mc0Ctl2 + 32 - 1 then
    let lastMsr := msrIa32Mc0Ctl2 + bankNum.setWidth 32 - 1
    if m.index > lastMsr then (1, s)
    else if ¬ s.mcgCap.getLsbD 10 ∧ (m.data ≠ 0 ∨ ¬ m.hostInitiated) then (1, s)
    -- MCI_CTL2_CMCI_EN | MCI_CTL2_CMCI_THRESHOLD_MASK
    else if m.data &&& ~~~0x40007fff ≠ 0 then (1, s)
    else
      let offset := (m.index - msrIa32Mc0Ctl2).toNat
      (0, { s with mciCtl2Banks := Function.update s.mciCtl2Banks offset m.data })
  else if msrIa32Mc0Ctl ≤ m.index ∧ m.index ≤ msrIa32Mc0Ctl + 4 * 32 - 1 then
    let lastMsr := msrIa32Mc0Ctl + 4 * bankNum.setWidth 32 - 1
    if m.index > lastMsr then (1, s)
    else if isMciControlMsr m.index ∧ m.data ≠ 0 ∧ m.data ||| 0x400 ||| 1 ≠ ~~~0 then (1, s)
    else if ¬ m.hostInitiated ∧ isMciStatusMsr m.index ∧ m.data ≠ 0 ∧ ¬ canSetMciStatus env s then
      (1, s)
    else
      let offset := (m.index - msrIa32Mc0Ctl).toNat
      (0, { s with mceBanks := Function.update s.mceBanks offset m.data })
  else (1, s)

/-- `kvm_pv_async_pf_enabled`. -/
def kvmPvAsyncPfEnabled : Bool := s.apf.msrEnVal &&& asyncPfEnabledMask = asyncPfEnabledMask

/-- `kvm_pv_enable_async_pf`. -/
def kvmPvEnableAsyncPf (data : BitVec 64) : Int × MsrState R :=
  let gpa := data &&& ~~~0x3f
  if data &&& 0x30 ≠ 0 then (1, s)
  else if ¬ env.guestPvHas .asyncPfVmexit ∧ data.getLsbD 2 then (1, s)
  else if ¬ env.guestPvHas .asyncPfInt ∧ data.getLsbD 3 then (1, s)
  else if ¬ env.lapicInKernel then (if data ≠ 0 then 1 else 0, s)
  else
    let s := { s with apf := { s.apf with msrEnVal := data } }
    if ¬ kvmPvAsyncPfEnabled s then
      (0, env.call .kvmAsyncPfHashReset (env.call .kvmClearAsyncPfCompletionQueue s))
    else if env.kvmGfnToHvaCacheInit gpa ≠ 0 then (1, s)
    else
      let apf := { s.apf with
        sendUserOnly := !data.getLsbD 1
        deliveryAsPfVmexit := data.getLsbD 2 }
      (0, env.call .kvmAsyncPfWakeupAll { s with apf := apf })

/-- `kvm_pv_enable_async_pf_int`. -/
def kvmPvEnableAsyncPfInt (data : BitVec 64) : Int × MsrState R :=
  if data >>> 8 ≠ 0 then (1, s)
  else if ¬ env.lapicInKernel then (1, s)
  else (0, { s with apf := { s.apf with msrIntVal := data } })

/-- `kvm_write_system_time`. -/
def kvmWriteSystemTime (systemTime : BitVec 64) (oldMsr hostInitiated : Bool) : MsrState R :=
  let s :=
    if env.vcpuId = 0 ∧ ¬ hostInitiated then
      let s :=
        if s.bootVcpuRunsOldKvmclock ≠ oldMsr then kvmMakeRequest s .masterclockUpdate else s
      { s with bootVcpuRunsOldKvmclock := oldMsr }
    else s
  let s := kvmMakeRequest { s with time := systemTime } .globalClockUpdate
  if systemTime.getLsbD 0 then env.call (.kvmGpcActivate (systemTime &&& ~~~1)) s
  else env.call .kvmGpcDeactivate s

/-- `svm_set_efer`. -/
def svmSetEfer (efer : BitVec 64) : Int × MsrState R :=
  let oldEfer := s.efer
  let s := { s with efer := efer }
  let efer :=
    if ¬ env.nptEnabled then
      let efer := efer ||| BitVec.twoPow 64 11
      if ¬ efer.getLsbD 10 then efer &&& ~~~BitVec.twoPow 64 8 else efer
    else efer
  let finish := fun (s : MsrState R) =>
    (0, s.setVmcb ({ s.vmcb with efer := efer ||| BitVec.twoPow 64 12 }.markDirty 5))
  if oldEfer.getLsbD 12 ≠ efer.getLsbD 12 then
    if ¬ efer.getLsbD 12 then
      let s := env.call .svmSetGif (env.call .svmLeaveNested s)
      let s := if ¬ env.enableVmwareBackdoor then env.call (.setGpIntercept false) s else s
      finish (if ¬ env.isSmm then env.call .svmFreeNested s else s)
    else
      let r := env.attempt .svmAllocateNested s
      if r.1 ≠ 0 then (r.1, { r.2 with efer := oldEfer })
      else finish (if env.gpErratumIntercept then env.call (.setGpIntercept true) r.2 else r.2)
  else finish s

/-- `__kvm_valid_efer`. -/
def kvmValidEferBits (efer : BitVec 64) : Bool :=
  if efer.getLsbD 21 ∧ ¬ env.guestCpuidHas .autoibrs then false
  else if efer.getLsbD 14 ∧ ¬ env.guestCpuidHas .fxsrOpt then false
  else if efer.getLsbD 12 ∧ ¬ env.guestCpuidHas .svm then false
  else if (efer.getLsbD 8 ∨ efer.getLsbD 10) ∧ ¬ env.guestCpuidHas .lm then false
  else if efer.getLsbD 11 ∧ ¬ env.guestCpuidHas .nx then false
  else true

/-- `set_efer`. -/
def setEfer : Int × MsrState R :=
  let oldEfer := s.efer
  if m.data &&& env.eferReservedBits ≠ 0 then (1, s)
  else if ¬ m.hostInitiated ∧ ¬ kvmValidEferBits env m.data then (1, s)
  else if ¬ m.hostInitiated ∧ s.cr0.getLsbD 31 ∧ s.efer.getLsbD 8 ≠ m.data.getLsbD 8 then (1, s)
  else
    let efer := m.data &&& ~~~BitVec.twoPow 64 10
    let efer := efer ||| (s.efer &&& BitVec.twoPow 64 10)
    let r := svmSetEfer env s efer
    if r.1 ≠ 0 then r
    else
      -- KVM_MMU_EFER_ROLE_BITS
      let s := if (efer ^^^ oldEfer) &&& 0x900 ≠ 0 then env.call .kvmMmuResetContext r.2 else r.2
      let warn := ¬ env.bootCpuHas .xsaves ∧ efer.getLsbD 12
      (0, if warn then env.call .kvmHvXsavesXsavecMaybeWarn s else s)

/-- `kvm_set_apic_base`. -/
def kvmSetApicBase : Int × MsrState R :=
  let oldMode := env.kvmApicMode s.apicBase
  let newMode := env.kvmApicMode m.data
  let x2apicEnable : BitVec 64 := if env.guestCpuidHas .x2apic then 0 else 0x400
  let reservedBits := env.reservedGpaBitsRaw ||| 0x2ff ||| x2apicEnable
  if m.data &&& reservedBits ≠ 0 ∨ newMode = .invalid then (1, s)
  else if ¬ m.hostInitiated ∧ oldMode = .x2apic ∧ newMode = .xapic then (1, s)
  else if ¬ m.hostInitiated ∧ oldMode = .disabled ∧ newMode = .x2apic then (1, s)
  else (0, env.call .kvmRecalculateApicMap (env.call (.kvmLapicSetBase m.data) s))

/-- The reserved bits of a write to `IA32_PRED_CMD`, whose bits are IBPB and SBPB. -/
def predCmdReservedBits : BitVec 64 :=
  let ibpb : BitVec 64 := 0x1
  let sbpb : BitVec 64 := 0x80
  let reservedBits := ~~~(ibpb ||| sbpb)
  let reservedBits :=
    if ¬ m.hostInitiated then
      let reservedBits :=
        if ¬ env.guestCpuidHas .specCtrl ∧ ¬ env.guestCpuidHas .amdIbpb then reservedBits ||| ibpb
        else reservedBits
      if ¬ env.guestCpuidHas .sbpb then reservedBits ||| sbpb else reservedBits
    else reservedBits
  let reservedBits := if ¬ env.bootCpuHas .ibpb then reservedBits ||| ibpb else reservedBits
  if ¬ env.bootCpuHas .sbpb then reservedBits ||| sbpb else reservedBits

/-- `MSR_IA32_MISC_ENABLE`. -/
def setMiscEnable : Int × MsrState R :=
  let oldVal := s.ia32MiscEnableMsr
  -- the PMU bits are read-only
  if ¬ m.hostInitiated ∧ (oldVal ^^^ m.data) &&& 0x1800 ≠ 0 then (1, s)
  else
    -- writes to EMON are ignored
    let data :=
      if ¬ m.hostInitiated then m.data &&& ~~~0x80 ||| (oldVal &&& 0x80) else m.data
    if ¬ env.quirkMiscEnableNoMwait ∧ (oldVal ^^^ data).getLsbD 18 then
      if ¬ env.guestCpuidHas .xmm3 then (1, s)
      else (0, env.call .kvmUpdateCpuidRuntime { s with ia32MiscEnableMsr := data })
    else (0, { s with ia32MiscEnableMsr := data })

/-- `kvm_set_msr_common`, with `CONFIG_KVM_HYPERV`. -/
def kvmSetMsrCommon : Int × MsrState R :=
  if m.index ≠ 0 ∧ m.index = env.xenHvmConfigMsr then
    env.attempt (.kvmXenWriteHypercallPage m.data) s
  else
    match commonMsr m.index with
    | .ignored => (0, s)
    | .writeIgnored => (0, s)
    | .ucodeRev => (0, if m.hostInitiated then { s with microcodeVersion := m.data } else s)
    | .archCapabilities =>
      if ¬ m.hostInitiated then (1, s) else (0, { s with archCapabilities := m.data })
    | .perfCapabilities =>
      if ¬ m.hostInitiated then (1, s)
      else if m.data &&& ~~~env.supportedPerfCap ≠ 0 then (1, s)
      else if s.perfCapabilities = m.data then (0, s)
      else (0, env.call .kvmPmuRefresh { s with perfCapabilities := m.data })
    | .predCmd =>
      if ¬ m.hostInitiated ∧ ¬ env.guestHasPredCmdMsr then (1, s)
      else if m.data &&& predCmdReservedBits env m ≠ 0 then (1, s)
      -- the command is for the host
      else (0, s)
    | .flushCmd =>
      if ¬ m.hostInitiated ∧ ¬ env.guestCpuidHas .flushL1d then (1, s)
      else if ¬ env.bootCpuHas .flushL1d ∨ m.data &&& ~~~1 ≠ 0 then (1, s)
      else (0, s)
    | .efer => setEfer env s m
    | .hwcr =>
      let data := m.data &&& ~~~0x148
      if data &&& ~~~0x1040000 ≠ 0 then (1, s) else (0, { s with msrHwcr := data })
    | .mmioConfBase => if m.data ≠ 0 then (1, s) else (0, s)
    | .pat => if ¬ env.kvmPatValid m.data then (1, s) else (0, { s with pat := m.data })
    | .mtrr => env.attempt (.kvmMtrrSetMsr m.index m.data) s
    | .apicBase => kvmSetApicBase env s m
    | .x2apic => env.attempt (.kvmX2apicMsrWrite m.index m.data) s
    | .tscDeadline => (0, env.call (.kvmSetLapicTscdeadlineMsr m.data) s)
    | .tscAdjust =>
      if env.guestCpuidHas .tscAdjust then
        let s :=
          if ¬ m.hostInitiated then
            let adj := m.data - s.ia32TscAdjustMsr
            kvmMakeRequest (env.call (.kvmVcpuWriteTscOffset (s.l1TscOffset + adj)) s) .clockUpdate
          else s
        (0, { s with ia32TscAdjustMsr := m.data })
      else (0, s)
    | .miscEnable => setMiscEnable env s m
    | .smbase =>
      if ¬ env.configKvmSmm ∨ ¬ m.hostInitiated then (1, s) else (0, { s with smbase := m.data })
    | .powerCtl => (0, { s with msrIa32PowerCtl := m.data })
    | .tsc =>
      if m.hostInitiated then (0, env.call (.kvmSynchronizeTsc m.data) s)
      else
        -- `kvm_compute_l1_tsc_offset`
        let offset := m.data - kvmScaleTsc env.tscCaps env.rdtsc s.l1TscScalingRatio
        let adj := offset - s.l1TscOffset
        let s := env.call (.kvmVcpuWriteTscOffset (s.l1TscOffset + adj)) s
        (0, { s with ia32TscAdjustMsr := s.ia32TscAdjustMsr + adj })
    | .xss =>
      if ¬ m.hostInitiated ∧ ¬ env.guestCpuidHas .xsaves then (1, s)
      else if m.data &&& ~~~env.supportedXss ≠ 0 then (1, s)
      else (0, env.call .kvmUpdateCpuidRuntime { s with ia32Xss := m.data })
    | .smiCount => if ¬ m.hostInitiated then (1, s) else (0, { s with smiCount := m.data })
    | .wallClockNew =>
      if ¬ env.guestPvHas .clocksource2 then (1, s)
      else (0, env.call (.kvmWriteWallClock m.data) { s with wallClock := m.data })
    | .wallClock =>
      if ¬ env.guestPvHas .clocksource then (1, s)
      else (0, env.call (.kvmWriteWallClock m.data) { s with wallClock := m.data })
    | .systemTimeNew =>
      if ¬ env.guestPvHas .clocksource2 then (1, s)
      else (0, kvmWriteSystemTime env s m.data false m.hostInitiated)
    | .systemTime =>
      if ¬ env.guestPvHas .clocksource then (1, s)
      else (0, kvmWriteSystemTime env s m.data true m.hostInitiated)
    | .asyncPfEn =>
      if ¬ env.guestPvHas .asyncPf then (1, s)
      else
        let r := kvmPvEnableAsyncPf env s m.data
        if r.1 ≠ 0 then (1, r.2) else (0, r.2)
    | .asyncPfInt =>
      if ¬ env.guestPvHas .asyncPfInt then (1, s)
      else
        let r := kvmPvEnableAsyncPfInt env s m.data
        if r.1 ≠ 0 then (1, r.2) else (0, r.2)
    | .asyncPfAck =>
      if ¬ env.guestPvHas .asyncPfInt then (1, s)
      else if m.data.getLsbD 0 then
        (0, env.call .kvmCheckAsyncPfCompletion
          { s with apf := { s.apf with pagereadyPending := false } })
      else (0, s)
    | .stealTime =>
      if ¬ env.guestPvHas .stealTime then (1, s)
      else if ¬ env.schedInfoOn then (1, s)
      -- KVM_STEAL_RESERVED_MASK
      else if m.data &&& 0x3e ≠ 0 then (1, s)
      else
        let s := { s with stMsrVal := m.data }
        (0, if m.data.getLsbD 0 then kvmMakeRequest s .stealUpdate else s)
    | .pvEoiEn =>
      if ¬ env.guestPvHas .pvEoi then (1, s)
      else
        let r := env.attempt (.kvmLapicSetPvEoi m.data) s
        if r.1 ≠ 0 then (1, r.2) else (0, r.2)
    | .pollControl =>
      if ¬ env.guestPvHas .pollControl then (1, s)
      else if m.data &&& ~~~1 ≠ 0 then (1, s)
      else (0, { s with msrKvmPollControl := m.data })
    | .mce => setMsrMce env s m
    | .pmuLegacy =>
      if env.kvmPmuIsValidMsr s m.index then env.attempt (.kvmPmuSetMsr m) s else (0, s)
    | .clkCtl => (0, s)
    | .hyperv => env.attempt (.kvmHvSetMsrCommon m) s
    | .bblCrCtl3 => (0, s)
    | .osvwIdLength =>
      if ¬ env.guestCpuidHas .osvw then (1, s) else (0, { s with osvwLength := m.data })
    | .osvwStatus =>
      if ¬ env.guestCpuidHas .osvw then (1, s) else (0, { s with osvwStatus := m.data })
    | .platformInfo =>
      if ¬ m.hostInitiated ∨ (¬ m.data.getLsbD 31 ∧ env.cpuidFaultEnabled s) then (1, s)
      else (0, { s with msrPlatformInfo := m.data })
    | .miscFeaturesEnables =>
      if m.data &&& ~~~1 ≠ 0 ∨ (m.data.getLsbD 0 ∧ ¬ env.supportsCpuidFault s) then (1, s)
      else (0, { s with msrMiscFeaturesEnables := m.data })
    | .xfd =>
      if ¬ m.hostInitiated ∧ ¬ env.guestCpuidHas .xfd then (1, s)
      else if m.data &&& ~~~env.guestSupportedXfd ≠ 0 then (1, s)
      else (0, env.call (.fpuUpdateGuestXfd m.data) s)
    | .xfdErr =>
      if ¬ m.hostInitiated ∧ ¬ env.guestCpuidHas .xfd then (1, s)
      else if m.data &&& ~~~env.guestSupportedXfd ≠ 0 then (1, s)
      else (0, { s with xfdErr := m.data })
    | .readZero | .mtrrCap | .mceRead | .fsbFrequency | .ebcFrequencyId | .perfStatus | .other =>
      if env.kvmPmuIsValidMsr s m.index then env.attempt (.kvmPmuSetMsr m) s
      else if m.hostInitiated ∧ m.data = 0 ∧ env.msrsToSave.contains m.index then (0, s)
      else (msrRetInvalid, s)

end Writes

/-! ## Reads -/

section Reads

variable (env : MsrEnv R) (s : MsrState R) (index : BitVec 32) (hostInitiated : Bool)

/-- `get_msr_mce`. -/
def getMsrMce : Int × BitVec 64 :=
  let bankNum := s.mcgCap &&& 0xff
  if index = 0 ∨ index = 1 then (0, 0)
  else if index = msrIa32McgCap then (0, s.mcgCap)
  else if index = msrIa32McgCtl then
    if ¬ s.mcgCap.getLsbD 8 ∧ ¬ hostInitiated then (1, 0) else (0, s.mcgCtl)
  else if index = msrIa32McgStatus then (0, s.mcgStatus)
  else if msrIa32Mc0Ctl2 ≤ index ∧ index ≤ msrIa32Mc0Ctl2 + 32 - 1 then
    let lastMsr := msrIa32Mc0Ctl2 + bankNum.setWidth 32 - 1
    if index > lastMsr then (1, 0)
    else if ¬ s.mcgCap.getLsbD 10 ∧ ¬ hostInitiated then (1, 0)
    else (0, s.mciCtl2Banks (index - msrIa32Mc0Ctl2).toNat)
  else if msrIa32Mc0Ctl ≤ index ∧ index ≤ msrIa32Mc0Ctl + 4 * 32 - 1 then
    let lastMsr := msrIa32Mc0Ctl + 4 * bankNum.setWidth 32 - 1
    if index > lastMsr then (1, 0) else (0, s.mceBanks (index - msrIa32Mc0Ctl).toNat)
  else (1, 0)

/-- `kvm_get_msr_common`, with `CONFIG_KVM_HYPERV`. -/
def kvmGetMsrCommon : Int × BitVec 64 :=
  match commonMsr index with
  | .ignored | .readZero | .mmioConfBase => (0, 0)
  | .pmuLegacy =>
    if env.kvmPmuIsValidMsr s index then env.reader (.kvmPmuGetMsr index hostInitiated) s
    else (0, 0)
  | .ucodeRev => (0, s.microcodeVersion)
  | .archCapabilities =>
    if ¬ hostInitiated ∧ ¬ env.guestCpuidHas .archCapabilities then (1, 0)
    else (0, s.archCapabilities)
  | .perfCapabilities =>
    if ¬ hostInitiated ∧ ¬ env.guestCpuidHas .pdcm then (1, 0) else (0, s.perfCapabilities)
  | .powerCtl => (0, s.msrIa32PowerCtl)
  | .tsc =>
    let offset := if hostInitiated then s.l1TscOffset else s.tscOffset
    let ratio := if hostInitiated then s.l1TscScalingRatio else s.tscScalingRatio
    (0, kvmScaleTsc env.tscCaps env.rdtsc ratio + offset)
  | .pat => (0, s.pat)
  | .mtrrCap | .mtrr => env.reader (.kvmMtrrGetMsr index) s
  | .fsbFrequency => (0, 3)
  | .ebcFrequencyId => (0, 1 <<< 24)
  | .apicBase => (0, s.apicBase)
  | .x2apic => env.reader (.kvmX2apicMsrRead index) s
  | .tscDeadline => (0, env.kvmGetLapicTscdeadlineMsr s)
  | .tscAdjust => (0, s.ia32TscAdjustMsr)
  | .miscEnable => (0, s.ia32MiscEnableMsr)
  | .smbase => if ¬ env.configKvmSmm ∨ ¬ hostInitiated then (1, 0) else (0, s.smbase)
  | .smiCount => (0, s.smiCount)
  | .perfStatus => (0, 1000 ||| 4 <<< 40)
  | .efer => (0, s.efer)
  | .wallClock => if ¬ env.guestPvHas .clocksource then (1, 0) else (0, s.wallClock)
  | .wallClockNew => if ¬ env.guestPvHas .clocksource2 then (1, 0) else (0, s.wallClock)
  | .systemTime => if ¬ env.guestPvHas .clocksource then (1, 0) else (0, s.time)
  | .systemTimeNew => if ¬ env.guestPvHas .clocksource2 then (1, 0) else (0, s.time)
  | .asyncPfEn => if ¬ env.guestPvHas .asyncPf then (1, 0) else (0, s.apf.msrEnVal)
  | .asyncPfInt => if ¬ env.guestPvHas .asyncPfInt then (1, 0) else (0, s.apf.msrIntVal)
  | .asyncPfAck => if ¬ env.guestPvHas .asyncPfInt then (1, 0) else (0, 0)
  | .stealTime => if ¬ env.guestPvHas .stealTime then (1, 0) else (0, s.stMsrVal)
  | .pvEoiEn => if ¬ env.guestPvHas .pvEoi then (1, 0) else (0, s.pvEoiMsrVal)
  | .pollControl => if ¬ env.guestPvHas .pollControl then (1, 0) else (0, s.msrKvmPollControl)
  | .mce | .mceRead => getMsrMce s index hostInitiated
  | .xss =>
    if ¬ hostInitiated ∧ ¬ env.guestCpuidHas .xsaves then (1, 0) else (0, s.ia32Xss)
  | .clkCtl => (0, 0x20000000)
  | .hyperv => env.reader (.kvmHvGetMsrCommon index hostInitiated) s
  | .bblCrCtl3 => (0, 0xbe702111)
  | .osvwIdLength => if ¬ env.guestCpuidHas .osvw then (1, 0) else (0, s.osvwLength)
  | .osvwStatus => if ¬ env.guestCpuidHas .osvw then (1, 0) else (0, s.osvwStatus)
  | .platformInfo =>
    if ¬ hostInitiated ∧ ¬ env.guestCanReadMsrPlatformInfo then (1, 0)
    else (0, s.msrPlatformInfo)
  | .miscFeaturesEnables => (0, s.msrMiscFeaturesEnables)
  | .hwcr => (0, s.msrHwcr)
  | .xfd => if ¬ hostInitiated ∧ ¬ env.guestCpuidHas .xfd then (1, 0) else (0, s.xfd)
  | .xfdErr => if ¬ hostInitiated ∧ ¬ env.guestCpuidHas .xfd then (1, 0) else (0, s.xfdErr)
  | .writeIgnored | .predCmd | .flushCmd | .other =>
    if env.kvmPmuIsValidMsr s index then env.reader (.kvmPmuGetMsr index hostInitiated) s
    else if hostInitiated ∧ env.msrsToSave.contains index then (0, 0)
    else (msrRetInvalid, 0)

end Reads

/-! ## What a refused write leaves -/

section Refused

variable {env : MsrEnv R} {s : MsrState R} {m : MsrData}

/-- A write to `MSR_KVM_ASYNC_PF_EN` whose bits are accepted, and whose page is refused. -/
def AsyncPfPageRefused (env : MsrEnv R) (data : BitVec 64) : Prop :=
  data &&& 0x30 = 0 ∧ (data.getLsbD 2 → env.guestPvHas .asyncPfVmexit) ∧
    (data.getLsbD 3 → env.guestPvHas .asyncPfInt) ∧ env.lapicInKernel ∧
    data &&& asyncPfEnabledMask = asyncPfEnabledMask ∧
    env.kvmGfnToHvaCacheInit (data &&& ~~~0x3f) ≠ 0

/-- The value of the MSR alone decides whether writing it changes the state. -/
theorem setMsrEnVal_eq_iff (data : BitVec 64) :
    { s with apf := { s.apf with msrEnVal := data } } = s ↔ s.apf.msrEnVal = data := by
  constructor
  · intro h
    exact (congrArg (fun s : MsrState R => s.apf.msrEnVal) h).symm
  · rintro rfl
    rfl

/-- **The value is set before the page is looked at**: where the page is refused, the value is set;
elsewhere a refusal has no effect. -/
theorem kvmPvEnableAsyncPf_cases (env : MsrEnv R) (s : MsrState R) (data : BitVec 64) :
    (AsyncPfPageRefused env data ∧ kvmPvEnableAsyncPf env s data =
      (1, { s with apf := { s.apf with msrEnVal := data } })) ∨
    (¬ AsyncPfPageRefused env data ∧ Clean s (kvmPvEnableAsyncPf env s data)) := by
  unfold kvmPvEnableAsyncPf
  dsimp only
  split
  · rename_i hbits
    exact .inr ⟨fun h => hbits h.1, clean_refuse s 1⟩
  · rename_i hbits
    split
    · rename_i hvmexit
      exact .inr ⟨fun h => hvmexit.1 (h.2.1 hvmexit.2), clean_refuse s 1⟩
    · rename_i hvmexit
      split
      · rename_i hint
        exact .inr ⟨fun h => hint.1 (h.2.2.1 hint.2), clean_refuse s 1⟩
      · rename_i hint
        split
        · rename_i hlapic
          exact .inr ⟨fun h => hlapic h.2.2.2.1, clean_refuse s _⟩
        · rename_i hlapic
          split
          · rename_i henabled
            refine .inr ⟨fun h => henabled ?_, clean_done s _⟩
            exact decide_eq_true h.2.2.2.2.1
          · rename_i henabled
            have henabled' : data &&& asyncPfEnabledMask = asyncPfEnabledMask :=
              of_decide_eq_true (not_not.mp henabled)
            split
            · rename_i hpage
              refine .inl ⟨⟨not_not.mp hbits, fun hbit => ?_, fun hbit => ?_, not_not.mp hlapic,
                henabled', hpage⟩, rfl⟩
              · by_contra hno
                exact hvmexit ⟨hno, hbit⟩
              · by_contra hno
                exact hint ⟨hno, hbit⟩
            · rename_i hpage
              exact .inr ⟨fun h => hpage h.2.2.2.2.2, clean_done s _⟩

theorem clean_setMsrMce : Clean s (setMsrMce env s m) := by
  unfold setMsrMce
  simp

theorem clean_kvmPvEnableAsyncPfInt (data : BitVec 64) :
    Clean s (kvmPvEnableAsyncPfInt env s data) := by
  unfold kvmPvEnableAsyncPfInt
  simp

theorem clean_kvmSetApicBase : Clean s (kvmSetApicBase env s m) := by
  unfold kvmSetApicBase
  simp

theorem clean_setMiscEnable : Clean s (setMiscEnable env s m) := by
  unfold setMiscEnable
  simp

/-- A refused allocation is behind the write to EFER, which is undone. -/
theorem clean_svmSetEfer (hcontract : env.Contract) (efer : BitVec 64) :
    Clean s (svmSetEfer env s efer) := by
  unfold svmSetEfer
  extract_lets oldEfer s' efer' efer'' finish
  have hfinish : ∀ t, Clean s (finish t) := fun t => clean_done s _
  split
  · split
    · exact hfinish _
    · split
      · rename_i hrefused
        intro _
        show { (env.attempt .svmAllocateNested s').2 with efer := oldEfer } = s
        rw [hcontract _ _ hrefused]
      · exact hfinish _
  · exact hfinish _

theorem clean_setEfer (hcontract : env.Contract) : Clean s (setEfer env s m) := by
  unfold setEfer
  dsimp only
  split
  · exact clean_refuse s 1
  · split
    · exact clean_refuse s 1
    · split
      · exact clean_refuse s 1
      · split
        · exact clean_svmSetEfer hcontract _
        · exact clean_done s _

/-- The label of the asynchronous page faults is that of one MSR. -/
theorem commonMsr_eq_asyncPfEn {msr : BitVec 32} :
    commonMsr msr = .asyncPfEn ↔ msr = msrKvmAsyncPfEn := by
  constructor
  · intro h
    have hrow : ∀ r ∈ commonMsrTable, r.2.2 = .asyncPfEn →
        r.1 = msrKvmAsyncPfEn ∧ r.2.1 = msrKvmAsyncPfEn := by
      decide
    unfold commonMsr at h
    split at h
    · cases h
    · rename_i r hfind
      have hin := List.find?_some hfind
      rw [decide_eq_true_eq] at hin
      obtain ⟨hfirst, hlast⟩ := hrow r (List.mem_of_find?_eq_some hfind) h
      rw [hfirst, hlast] at hin
      exact BitVec.le_antisymm hin.2 hin.1
  · rintro rfl
    decide

/-- A write that sets `msr_en_val`, and is refused. -/
def LatePage (env : MsrEnv R) (m : MsrData) : Prop :=
  m.index = msrKvmAsyncPfEn ∧ m.index ≠ env.xenHvmConfigMsr ∧ env.guestPvHas .asyncPf ∧
    AsyncPfPageRefused env m.data

/-- **A refused write of `kvm_set_msr_common`** has no effect, except that the value of
`MSR_KVM_ASYNC_PF_EN` is set where its page is refused. -/
theorem kvmSetMsrCommon_cases (hcontract : env.Contract) :
    (LatePage env m ∧ kvmSetMsrCommon env s m =
      (1, { s with apf := { s.apf with msrEnVal := m.data } })) ∨
    (¬ LatePage env m ∧ Clean s (kvmSetMsrCommon env s m)) := by
  unfold kvmSetMsrCommon
  split
  · rename_i hxen
    exact .inr ⟨fun h => h.2.1 hxen.2, hcontract _ s⟩
  · rename_i hxen
    by_cases hlabel : commonMsr m.index = .asyncPfEn
    · have hindex := commonMsr_eq_asyncPfEn.mp hlabel
      have hxen' : m.index ≠ env.xenHvmConfigMsr := by
        intro hsame
        refine hxen ⟨?_, hsame⟩
        rw [hindex]
        decide
      rw [hlabel]
      dsimp only
      split
      · rename_i hpv
        exact .inr ⟨fun h => hpv h.2.2.1, clean_refuse s 1⟩
      · rename_i hpv
        rcases kvmPvEnableAsyncPf_cases env s m.data with ⟨hpage, heq⟩ | ⟨hpage, hclean⟩
        · refine .inl ⟨⟨hindex, hxen', not_not.mp hpv, hpage⟩, ?_⟩
          rw [heq, if_pos Int.one_ne_zero]
        · exact .inr ⟨fun h => hpage h.2.2.2, hclean.propagate⟩
    · refine .inr ⟨fun h => hlabel (commonMsr_eq_asyncPfEn.mpr h.1), ?_⟩
      cases hcase : commonMsr m.index with
      | asyncPfEn => exact absurd hcase hlabel
      | efer => exact clean_setEfer hcontract
      | mce => exact clean_setMsrMce
      | apicBase => exact clean_kvmSetApicBase
      | miscEnable => exact clean_setMiscEnable
      | mtrr | x2apic | hyperv => exact hcontract _ s
      | asyncPfInt =>
        rw [clean_ite]
        exact ⟨fun _ => clean_refuse s 1,
          fun _ => (clean_kvmPvEnableAsyncPfInt m.data).propagate⟩
      | pvEoiEn =>
        rw [clean_ite]
        exact ⟨fun _ => clean_refuse s 1, fun _ => (hcontract _ s).propagate⟩
      | pmuLegacy =>
        rw [clean_ite]
        exact ⟨fun _ => hcontract _ s, fun _ => clean_done s s⟩
      | readZero | mtrrCap | mceRead | fsbFrequency | ebcFrequencyId | perfStatus | other =>
        rw [clean_ite, clean_ite]
        exact ⟨fun _ => hcontract _ s, fun _ => ⟨fun _ => clean_done s s,
          fun _ => clean_refuse s _⟩⟩
      | _ => simp only [clean_ite, clean_refuse, clean_done, implies_true, and_self]

/-- **A refused write of `kvm_set_msr_common` has no effect**, unless the page of the asynchronous
page faults is refused for another value than the one that is set. -/
theorem clean_kvmSetMsrCommon_iff (hcontract : env.Contract) :
    Clean s (kvmSetMsrCommon env s m) ↔ (LatePage env m → s.apf.msrEnVal = m.data) := by
  rcases kvmSetMsrCommon_cases (s := s) (m := m) hcontract with ⟨hlate, heq⟩ | ⟨hnot, hclean⟩
  · rw [heq, clean_refused_iff Int.one_ne_zero, setMsrEnVal_eq_iff]
    exact ⟨fun h _ => h, fun h => h hlate⟩
  · exact iff_of_true hclean fun hlate => absurd hlate hnot

end Refused

end Kvm.Msrs
