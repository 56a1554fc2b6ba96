import Mathlib.Algebra.Ring.Nat

/-!
# The VMX execution controls

The control words `vmx.c` writes for a virtual CPU outside nested mode.

* `VmcsConfig` — what the processor and KVM both support (`vmcs_config`);
* `VmxVcpu` — the module parameters, VM flags and guest CPUID that the words depend on;
* `vmxExecControl`, `vmxSecondaryExecControl`, `vmxTertiaryExecControl` — the three words;
* `vmxExecControl_bit`, `vmxSecondary_rdtscp`, `vmxSecondary_waitpkg`, `vmxSecondary_unsupported`
  — the bits of the words that decide about the exits of RDTSC.
-/

set_option autoImplicit false

namespace Kvm

/-! ## The bits -/

/-- The word with one bit set. -/
def bit (i : Nat) : BitVec 32 := 1#32 <<< i

-- CPU_BASED_*
def cpuIntrWindow : BitVec 32 := bit 2
def cpuHlt : BitVec 32 := bit 7
def cpuInvlpg : BitVec 32 := bit 9
def cpuMwait : BitVec 32 := bit 10
def cpuRdpmc : BitVec 32 := bit 11
def cpuRdtsc : BitVec 32 := bit 12
def cpuCr3Load : BitVec 32 := bit 15
def cpuCr3Store : BitVec 32 := bit 16
def cpuActivateTertiary : BitVec 32 := bit 17
def cpuCr8Load : BitVec 32 := bit 19
def cpuCr8Store : BitVec 32 := bit 20
def cpuTprShadow : BitVec 32 := bit 21
def cpuNmiWindow : BitVec 32 := bit 22
def cpuMovDr : BitVec 32 := bit 23
def cpuUncondIo : BitVec 32 := bit 24
def cpuUseIoBitmaps : BitVec 32 := bit 25
def cpuMonitorTrapFlag : BitVec 32 := bit 27
def cpuMonitor : BitVec 32 := bit 29
def cpuPause : BitVec 32 := bit 30
def cpuActivateSecondary : BitVec 32 := bit 31

-- SECONDARY_EXEC_*
def secVirtualizeApicAccesses : BitVec 32 := bit 0
def secEnableEpt : BitVec 32 := bit 1
def secDesc : BitVec 32 := bit 2
def secEnableRdtscp : BitVec 32 := bit 3
def secVirtualizeX2apicMode : BitVec 32 := bit 4
def secEnableVpid : BitVec 32 := bit 5
def secWbinvd : BitVec 32 := bit 6
def secUnrestrictedGuest : BitVec 32 := bit 7
def secApicRegisterVirt : BitVec 32 := bit 8
def secVirtualIntrDelivery : BitVec 32 := bit 9
def secPauseLoop : BitVec 32 := bit 10
def secRdrand : BitVec 32 := bit 11
def secEnableInvpcid : BitVec 32 := bit 12
def secEnableVmfunc : BitVec 32 := bit 13
def secShadowVmcs : BitVec 32 := bit 14
def secEncls : BitVec 32 := bit 15
def secRdseed : BitVec 32 := bit 16
def secEnablePml : BitVec 32 := bit 17
def secPtConcealVmx : BitVec 32 := bit 19
def secEnableXsaves : BitVec 32 := bit 20
def secPtUseGpa : BitVec 32 := bit 24
def secTscScaling : BitVec 32 := bit 25
def secEnableUsrWaitPause : BitVec 32 := bit 26
def secBusLockDetection : BitVec 32 := bit 30
def secNotifyVmExiting : BitVec 32 := bit 31

/-- `KVM_OPTIONAL_VMX_SECONDARY_VM_EXEC_CONTROL`; none is required. -/
def secondarySupported : BitVec 32 :=
  secVirtualizeApicAccesses ||| secVirtualizeX2apicMode ||| secWbinvd ||| secEnableVpid |||
    secEnableEpt ||| secUnrestrictedGuest ||| secPauseLoop ||| secDesc ||| secEnableRdtscp |||
    secEnableInvpcid ||| secApicRegisterVirt ||| secVirtualIntrDelivery ||| secShadowVmcs |||
    secEnableXsaves ||| secRdseed ||| secRdrand ||| secEnablePml ||| secTscScaling |||
    secEnableUsrWaitPause ||| secPtUseGpa ||| secPtConcealVmx ||| secEnableVmfunc |||
    secBusLockDetection ||| secNotifyVmExiting ||| secEncls

/-- `KVM_OPTIONAL_VMX_TERTIARY_VM_EXEC_CONTROL`: `TERTIARY_EXEC_IPI_VIRT`. -/
def tertiarySupported : BitVec 64 := 1#64 <<< 4

/-- `vmcs_config`, as `setup_vmcs_config` leaves it. -/
structure VmcsConfig where
  cpuBasedExecCtrl : BitVec 32
  cpuBased2ndExecCtrl : BitVec 32
  cpuBased3rdExecCtrl : BitVec 64
  /-- `vmcs_config.nested.secondary_ctls_high`. -/
  nestedSecondaryCtlsHigh : BitVec 32 := 0
  secondary_supported : cpuBased2ndExecCtrl &&& ~~~secondarySupported = 0
  secondary_active : cpuBasedExecCtrl &&& cpuActivateSecondary = 0 → cpuBased2ndExecCtrl = 0
  tertiary_supported : cpuBased3rdExecCtrl &&& ~~~tertiarySupported = 0
  tertiary_active : cpuBasedExecCtrl &&& cpuActivateTertiary = 0 → cpuBased3rdExecCtrl = 0

/-- What the words of a virtual CPU depend on beside `vmcs_config`. -/
structure VmxVcpu where
  /-- `switch_db_regs & KVM_DEBUGREG_WONT_EXIT`. -/
  debugregWontExit : Bool := false
  needTprShadow : Bool := true
  needVirtualizeApicAccesses : Bool := true
  enableEpt : Bool := true
  enableUnrestrictedGuest : Bool := true
  enablePml : Bool := true
  enableIpiv : Bool := true
  ptModeSystem : Bool := true
  nested : Bool := false
  mwaitInGuest : Bool := false
  hltInGuest : Bool := false
  pauseInGuest : Bool := false
  busLockDetectionEnabled : Bool := false
  notifyVmexitEnabled : Bool := false
  /-- `nr_memslots_dirty_logging` is not 0. -/
  dirtyLogging : Bool := false
  apicvActive : Bool := true
  vpid : BitVec 16 := 1
  /-- `guest_can_use` or `guest_cpuid_has` of the features that adjust a control. -/
  hasXsaves : Bool := false
  hasRdtscp : Bool := false
  hasRdpid : Bool := false
  hasInvpcid : Bool := false
  hasRdrand : Bool := false
  hasRdseed : Bool := false
  hasWaitpkg : Bool := false
  /-- `vmx->nested.msrs.secondary_ctls_high`. -/
  nestedSecondaryCtlsHigh : BitVec 32 := 0
  deriving DecidableEq

/-! ## The words -/

/-- `if (c) x &= ~mask;`. -/
def clearIf (c : Bool) (mask x : BitVec 32) : BitVec 32 := if c then x &&& ~~~mask else x

/-- `x & mask`, as a condition. -/
def hasBits (x mask : BitVec 32) : Bool := x &&& mask != 0

/-- `vmx_exec_control`. -/
def vmxExecControl (cfg : VmcsConfig) (v : VmxVcpu) : BitVec 32 :=
  let execControl := cfg.cpuBasedExecCtrl
  let execControl := execControl &&& ~~~(cpuUseIoBitmaps ||| cpuMonitorTrapFlag ||| cpuPause)
  let execControl := execControl &&& ~~~(cpuIntrWindow ||| cpuNmiWindow)
  let execControl := clearIf v.debugregWontExit cpuMovDr execControl
  let execControl := clearIf (!v.needTprShadow) cpuTprShadow execControl
  let execControl :=
    if hasBits execControl cpuTprShadow then execControl &&& ~~~(cpuCr8Load ||| cpuCr8Store)
    else execControl ||| (cpuCr8Store ||| cpuCr8Load)
  let execControl := clearIf v.enableEpt (cpuCr3Load ||| cpuCr3Store ||| cpuInvlpg) execControl
  let execControl := clearIf v.mwaitInGuest (cpuMwait ||| cpuMonitor) execControl
  clearIf v.hltInGuest cpuHlt execControl

/-- `vmx_adjust_secondary_exec_control`: the word, and the nested control bits. -/
def vmxAdjustSecondaryExecControl (cfg : VmcsConfig) (v : VmxVcpu) (control : BitVec 32)
    (enabled exiting : Bool) (w : BitVec 32 × BitVec 32) : BitVec 32 × BitVec 32 :=
  let execControl := clearIf (enabled == exiting) control w.1
  let nestedCtls :=
    if v.nested then
      let enabled := enabled && hasBits cfg.nestedSecondaryCtlsHigh control
      if enabled then w.2 ||| control else w.2 &&& ~~~control
    else w.2
  (execControl, nestedCtls)

/-- `vmx_adjust_sec_exec_control`: only where the processor has the control. -/
def vmxAdjustSecExecControl (cfg : VmcsConfig) (v : VmxVcpu) (control : BitVec 32)
    (enabled exiting : Bool) (w : BitVec 32 × BitVec 32) : BitVec 32 × BitVec 32 :=
  if hasBits cfg.cpuBased2ndExecCtrl control then
    vmxAdjustSecondaryExecControl cfg v control enabled exiting w
  else w

/-- The part of `vmx_secondary_exec_control` in front of the guest's features. -/
def vmxSecondaryBase (cfg : VmcsConfig) (v : VmxVcpu) : BitVec 32 :=
  let execControl := cfg.cpuBased2ndExecCtrl
  let execControl := clearIf v.ptModeSystem (secPtUseGpa ||| secPtConcealVmx) execControl
  let execControl := clearIf (!v.needVirtualizeApicAccesses) secVirtualizeApicAccesses execControl
  let execControl := clearIf (v.vpid == 0) secEnableVpid execControl
  let execControl := clearIf (!v.enableEpt) secEnableEpt execControl
  -- without EPT the module parameter is cleared as well
  let execControl := clearIf (!(v.enableEpt && v.enableUnrestrictedGuest)) secUnrestrictedGuest
    execControl
  let execControl := clearIf v.pauseInGuest secPauseLoop execControl
  let execControl := clearIf (!v.apicvActive) (secApicRegisterVirt ||| secVirtualIntrDelivery)
    execControl
  let execControl := execControl &&& ~~~secVirtualizeX2apicMode
  let execControl := execControl &&& ~~~secEnableVmfunc
  let execControl := execControl &&& ~~~secDesc
  let execControl := execControl &&& ~~~secShadowVmcs
  clearIf (!v.enablePml || !v.dirtyLogging) secEnablePml execControl

/-- `vmx_secondary_exec_control`: the word, and `vmx->nested.msrs.secondary_ctls_high`. -/
def vmxSecondaryExecControl (cfg : VmcsConfig) (v : VmxVcpu) : BitVec 32 × BitVec 32 :=
  let w := (vmxSecondaryBase cfg v, v.nestedSecondaryCtlsHigh)
  let w := vmxAdjustSecExecControl cfg v secEnableXsaves v.hasXsaves false w
  let w := vmxAdjustSecExecControl cfg v secEnableRdtscp (v.hasRdtscp || v.hasRdpid) false w
  let w := vmxAdjustSecExecControl cfg v secEnableInvpcid v.hasInvpcid false w
  let w := vmxAdjustSecExecControl cfg v secRdrand v.hasRdrand true w
  let w := vmxAdjustSecExecControl cfg v secRdseed v.hasRdseed true w
  let w := vmxAdjustSecExecControl cfg v secEnableUsrWaitPause v.hasWaitpkg false w
  let execControl := clearIf (!v.busLockDetectionEnabled) secBusLockDetection w.1
  (clearIf (!v.notifyVmexitEnabled) secNotifyVmExiting execControl, w.2)

/-- `vmx_tertiary_exec_control`. -/
def vmxTertiaryExecControl (cfg : VmcsConfig) (v : VmxVcpu) : BitVec 64 :=
  if !v.enableIpiv || !v.apicvActive then cfg.cpuBased3rdExecCtrl &&& ~~~tertiarySupported
  else cfg.cpuBased3rdExecCtrl

/-! ## Single bits -/

theorem getLsbD_bit (i j : Nat) (hi : i < 32) : (bit i).getLsbD j = decide (j = i) := by
  unfold bit
  rw [BitVec.getLsbD_shiftLeft, BitVec.getLsbD_one]
  by_cases hj : j = i
  · subst hj
    simp [hi]
  · simp [hj]
    omega

theorem getLsbD_clearIf (c : Bool) (mask x : BitVec 32) (i : Nat) :
    (clearIf c mask x).getLsbD i = (x.getLsbD i && !(c && mask.getLsbD i)) := by
  unfold clearIf
  cases c with
  | true =>
    by_cases hi : i < 32
    · simp [hi]
    · simp [BitVec.getLsbD_of_ge x i (by omega)]
  | false => simp

theorem hasBits_bit (x : BitVec 32) {i : Nat} (hi : i < 32) : hasBits x (bit i) = x.getLsbD i := by
  unfold hasBits
  cases hx : x.getLsbD i with
  | true =>
    rw [bne_iff_ne]
    intro hzero
    have hbit : (x &&& bit i).getLsbD i = true := by
      rw [BitVec.getLsbD_and, hx, getLsbD_bit i i hi]
      simp
    rw [hzero] at hbit
    simp at hbit
  | false =>
    have hzero : x &&& bit i = 0 := by
      apply BitVec.eq_of_getLsbD_eq
      intro j hj
      rw [BitVec.getLsbD_and, getLsbD_bit i j hi]
      by_cases hji : j = i
      · subst hji
        simp [hx]
      · simp [hji]
    rw [hzero]
    rfl

theorem getLsbD_adjust (cfg : VmcsConfig) (v : VmxVcpu) (control : BitVec 32)
    (enabled exiting : Bool) (w : BitVec 32 × BitVec 32) (i : Nat) :
    (vmxAdjustSecExecControl cfg v control enabled exiting w).1.getLsbD i =
      (w.1.getLsbD i &&
        !(hasBits cfg.cpuBased2ndExecCtrl control && enabled == exiting && control.getLsbD i)) := by
  unfold vmxAdjustSecExecControl
  cases hasBits cfg.cpuBased2ndExecCtrl control with
  | true =>
    simp only [if_true, vmxAdjustSecondaryExecControl, getLsbD_clearIf, Bool.true_and]
  | false => simp

/-! ## The bits of the words -/

/-- The controls for RDTSC and for the further words stay as the processor has them. -/
theorem vmxExecControl_bit (cfg : VmcsConfig) (v : VmxVcpu) {i : Nat}
    (hi : i = 12 ∨ i = 17 ∨ i = 31) :
    (vmxExecControl cfg v).getLsbD i = cfg.cpuBasedExecCtrl.getLsbD i := by
  simp only [vmxExecControl]
  rcases hi with rfl | rfl | rfl <;> split <;> simp (disch := decide) only [getLsbD_clearIf,
    BitVec.getLsbD_and, BitVec.getLsbD_or, BitVec.getLsbD_not, cpuHlt, cpuMwait, cpuMonitor,
    cpuCr3Load, cpuCr3Store, cpuInvlpg, cpuCr8Load, cpuCr8Store, cpuTprShadow, cpuMovDr,
    cpuIntrWindow, cpuNmiWindow, cpuUseIoBitmaps, cpuMonitorTrapFlag, cpuPause, getLsbD_bit,
    Nat.reduceEqDiff, Nat.reduceLT, decide_true, decide_false, Bool.or_false, Bool.and_false,
    Bool.not_false, Bool.and_true]

/-- The base part of the secondary word keeps the bits it has no name for, and sets none. -/
theorem vmxSecondaryBase_bit (cfg : VmcsConfig) (v : VmxVcpu) {i : Nat}
    (hi : i = 3 ∨ i = 26) :
    (vmxSecondaryBase cfg v).getLsbD i = cfg.cpuBased2ndExecCtrl.getLsbD i := by
  rcases hi with rfl | rfl <;> simp (disch := decide) only [vmxSecondaryBase, getLsbD_clearIf,
    BitVec.getLsbD_and, BitVec.getLsbD_or, BitVec.getLsbD_not, secPtUseGpa, secPtConcealVmx,
    secVirtualizeApicAccesses, secEnableVpid, secEnableEpt, secUnrestrictedGuest, secPauseLoop,
    secApicRegisterVirt, secVirtualIntrDelivery, secVirtualizeX2apicMode, secEnableVmfunc, secDesc,
    secShadowVmcs, secEnablePml, getLsbD_bit, Nat.reduceEqDiff, Nat.reduceLT, decide_true,
    decide_false, Bool.or_false, Bool.and_false, Bool.not_false, Bool.and_true]

theorem vmxSecondaryBase_le (cfg : VmcsConfig) (v : VmxVcpu) (i : Nat)
    (h : (vmxSecondaryBase cfg v).getLsbD i = true) :
    cfg.cpuBased2ndExecCtrl.getLsbD i = true := by
  simp only [vmxSecondaryBase, getLsbD_clearIf, BitVec.getLsbD_and, Bool.and_eq_true] at h
  simp_all

/-- RDTSCP runs in the guest when the processor has the control and the guest has RDTSCP or
RDPID. -/
theorem vmxSecondary_rdtscp (cfg : VmcsConfig) (v : VmxVcpu) :
    (vmxSecondaryExecControl cfg v).1.getLsbD 3 =
      (cfg.cpuBased2ndExecCtrl.getLsbD 3 && (v.hasRdtscp || v.hasRdpid)) := by
  simp (disch := decide) only [vmxSecondaryExecControl, getLsbD_clearIf, getLsbD_adjust,
    vmxSecondaryBase_bit cfg v (.inl rfl), hasBits_bit, secEnableXsaves, secEnableRdtscp,
    secEnableInvpcid, secRdrand, secRdseed, secEnableUsrWaitPause, secBusLockDetection,
    secNotifyVmExiting, getLsbD_bit, Nat.reduceEqDiff, decide_true, decide_false, Bool.and_false,
    Bool.not_false, Bool.and_true]
  cases cfg.cpuBased2ndExecCtrl.getLsbD 3 <;> cases v.hasRdtscp <;> cases v.hasRdpid <;> rfl

/-- UMWAIT and TPAUSE run in the guest when the processor has the control and the guest has
WAITPKG. -/
theorem vmxSecondary_waitpkg (cfg : VmcsConfig) (v : VmxVcpu) :
    (vmxSecondaryExecControl cfg v).1.getLsbD 26 =
      (cfg.cpuBased2ndExecCtrl.getLsbD 26 && v.hasWaitpkg) := by
  simp (disch := decide) only [vmxSecondaryExecControl, getLsbD_clearIf, getLsbD_adjust,
    vmxSecondaryBase_bit cfg v (.inr rfl), hasBits_bit, secEnableXsaves, secEnableRdtscp,
    secEnableInvpcid, secRdrand, secRdseed, secEnableUsrWaitPause, secBusLockDetection,
    secNotifyVmExiting, getLsbD_bit, Nat.reduceEqDiff, decide_true, decide_false, Bool.and_false,
    Bool.not_false, Bool.and_true]
  cases cfg.cpuBased2ndExecCtrl.getLsbD 26 <;> cases v.hasWaitpkg <;> rfl

/-- No bit of the secondary word is set that `vmcs_config` has not. -/
theorem vmxSecondary_le (cfg : VmcsConfig) (v : VmxVcpu) (i : Nat)
    (h : (vmxSecondaryExecControl cfg v).1.getLsbD i = true) :
    cfg.cpuBased2ndExecCtrl.getLsbD i = true := by
  simp only [vmxSecondaryExecControl, getLsbD_clearIf, getLsbD_adjust, Bool.and_eq_true] at h
  exact vmxSecondaryBase_le cfg v i h.1.1.1.1.1.1.1.1

/-- A control that KVM does not support is clear. -/
theorem vmxSecondary_unsupported (cfg : VmcsConfig) (v : VmxVcpu) {i : Nat} (hi : i < 32)
    (h : secondarySupported.getLsbD i = false) :
    (vmxSecondaryExecControl cfg v).1.getLsbD i = false := by
  by_contra hset
  rw [Bool.not_eq_false] at hset
  have hcfg := vmxSecondary_le cfg v i hset
  have hbit : (cfg.cpuBased2ndExecCtrl &&& ~~~secondarySupported).getLsbD i = true := by
    rw [BitVec.getLsbD_and, BitVec.getLsbD_not, hcfg, h]
    simp [hi]
  rw [cfg.secondary_supported] at hbit
  simp at hbit

end Kvm
