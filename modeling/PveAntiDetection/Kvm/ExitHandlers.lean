import PveAntiDetection.Kvm.ExecControls

/-!
# The VMX exit handlers

* `ExitReason`, `ExitReason.raised` — the basic exit reasons, and those the processor can raise
  under a configuration;
* `kvmVmxExitHandlers`, `vmxHandleExit` — the table of `vmx.c`, and `__vmx_handle_exit` outside
  nested mode;
* `handlerAt_eq_none_iff`, `raised_unhandled` — the reasons without a handler, and those of them
  that can be raised;
* `noUnexpectedExit_iff` — when no exit ends in the unexpected exit error.
-/

set_option autoImplicit false

namespace Kvm

/-! ## Exit reasons -/

/-- `EXIT_REASON_*`. -/
inductive ExitReason where
  | exceptionNmi | externalInterrupt | tripleFault | initSignal | sipiSignal | ioSmi | otherSmi
  | interruptWindow | nmiWindow | taskSwitch | cpuid | getsec | hlt | invd | invlpg | rdpmc | rdtsc
  | rsm | vmcall | vmclear | vmlaunch | vmptrld | vmptrst | vmread | vmresume | vmwrite | vmoff
  | vmon | crAccess | drAccess | ioInstruction | msrRead | msrWrite | invalidState | msrLoadFail
  | mwaitInstruction | monitorTrapFlag | monitorInstruction | pauseInstruction | mceDuringVmentry
  | tprBelowThreshold | apicAccess | eoiInduced | gdtrIdtr | ldtrTr | eptViolation | eptMisconfig
  | invept | rdtscp | preemptionTimer | invvpid | wbinvd | xsetbv | apicWrite | rdrand | invpcid
  | vmfunc | encls | rdseed | pmlFull | xsaves | xrstors | pconfig | spp | umwait | tpause
  | loadiwkey | enclv | enqcmd | enqcmds | busLock | notify
  deriving DecidableEq

/-- The basic exit reason. -/
def ExitReason.number : ExitReason → Nat
  | exceptionNmi => 0
  | externalInterrupt => 1
  | tripleFault => 2
  | initSignal => 3
  | sipiSignal => 4
  | ioSmi => 5
  | otherSmi => 6
  | interruptWindow => 7
  | nmiWindow => 8
  | taskSwitch => 9
  | cpuid => 10
  | getsec => 11
  | hlt => 12
  | invd => 13
  | invlpg => 14
  | rdpmc => 15
  | rdtsc => 16
  | rsm => 17
  | vmcall => 18
  | vmclear => 19
  | vmlaunch => 20
  | vmptrld => 21
  | vmptrst => 22
  | vmread => 23
  | vmresume => 24
  | vmwrite => 25
  | vmoff => 26
  | vmon => 27
  | crAccess => 28
  | drAccess => 29
  | ioInstruction => 30
  | msrRead => 31
  | msrWrite => 32
  | invalidState => 33
  | msrLoadFail => 34
  | mwaitInstruction => 36
  | monitorTrapFlag => 37
  | monitorInstruction => 39
  | pauseInstruction => 40
  | mceDuringVmentry => 41
  | tprBelowThreshold => 43
  | apicAccess => 44
  | eoiInduced => 45
  | gdtrIdtr => 46
  | ldtrTr => 47
  | eptViolation => 48
  | eptMisconfig => 49
  | invept => 50
  | rdtscp => 51
  | preemptionTimer => 52
  | invvpid => 53
  | wbinvd => 54
  | xsetbv => 55
  | apicWrite => 56
  | rdrand => 57
  | invpcid => 58
  | vmfunc => 59
  | encls => 60
  | rdseed => 61
  | pmlFull => 62
  | xsaves => 63
  | xrstors => 64
  | pconfig => 65
  | spp => 66
  | umwait => 67
  | tpause => 68
  | loadiwkey => 69
  | enclv => 70
  | enqcmd => 72
  | enqcmds => 73
  | busLock => 74
  | notify => 75

/-- The reasons of a failed VM entry, which set `failed_vmentry`. -/
def ExitReason.failedVmentry : ExitReason → Bool
  | invalidState | msrLoadFail | mceDuringVmentry => true
  | _ => false

/-! ## The processor -/

/-- What decides about the exits of a guest: the control words, the XSS-exiting bitmap and
CR4.SMXE. -/
structure Controls where
  cpuBased : BitVec 32
  secondary : BitVec 32
  tertiary : BitVec 64
  xssExitBitmap : BitVec 64
  smxe : Bool

/-- A control of the first word. -/
def Controls.cpu (c : Controls) (i : Nat) : Bool := c.cpuBased.getLsbD i

/-- A control of the second word, which is in force when the first word activates it. -/
def Controls.sec (c : Controls) (i : Nat) : Bool := c.cpuBased.getLsbD 31 && c.secondary.getLsbD i

/-- A control of the third word. -/
def Controls.tert (c : Controls) (i : Nat) : Bool := c.cpuBased.getLsbD 17 && c.tertiary.getLsbD i

/-- The reasons the processor can raise for what a guest executes, and for the events the controls
arm.  INIT, SIPI and SMI come from the platform, and RSM exits in the dual-monitor treatment of
SMIs alone. -/
def ExitReason.raised (c : Controls) : ExitReason → Bool
  | initSignal | sipiSignal | ioSmi | otherSmi | rsm => false
  | getsec => c.smxe
  | interruptWindow => c.cpu 2
  | hlt => c.cpu 7
  | invlpg => c.cpu 9
  | mwaitInstruction => c.cpu 10
  | rdpmc => c.cpu 11
  | rdtsc => c.cpu 12
  | tprBelowThreshold => c.cpu 21
  | nmiWindow => c.cpu 22
  | drAccess => c.cpu 23
  | ioInstruction => c.cpu 24 || c.cpu 25
  | monitorTrapFlag => c.cpu 27
  | monitorInstruction => c.cpu 29
  | pauseInstruction => c.cpu 30 || c.sec 10
  | apicAccess => c.sec 0
  | eptViolation | eptMisconfig => c.sec 1
  | gdtrIdtr | ldtrTr => c.sec 2
  | rdtscp => c.cpu 12 && c.sec 3
  | wbinvd => c.sec 6
  | apicWrite => c.sec 8 || c.sec 9
  | eoiInduced => c.sec 9
  | rdrand => c.sec 11
  | invpcid => c.cpu 9 && c.sec 12
  | vmfunc => c.sec 13
  | encls => c.sec 15
  | rdseed => c.sec 16
  | pmlFull => c.sec 17
  | xsaves | xrstors => c.sec 20 && c.xssExitBitmap != 0
  | enqcmd | enqcmds => c.sec 21
  | spp => c.sec 23
  | umwait | tpause => c.cpu 12 && c.sec 26
  | pconfig => c.sec 27
  | enclv => c.sec 28
  | busLock => c.sec 30
  | notify => c.sec 31
  | loadiwkey => c.tert 0
  | _ => true

/-! ## The dispatch -/

/-- The handlers of the table. -/
inductive ExitHandler where
  | handleExceptionNmi | handleExternalInterrupt | handleTripleFault | handleNmiWindow | handleIo
  | handleCr | handleDr | kvmEmulateCpuid | kvmEmulateRdmsr | kvmEmulateWrmsr
  | handleInterruptWindow | kvmEmulateHalt | kvmEmulateInvd | handleInvlpg | kvmEmulateRdpmc
  | kvmEmulateHypercall | handleVmxInstruction | handleTprBelowThreshold | handleApicAccess
  | handleApicWrite | handleApicEoiInduced | kvmEmulateWbinvd | kvmEmulateXsetbv
  | handleTaskSwitch | handleMachineCheck | handleDesc | handleEptViolation | handleEptMisconfig
  | handlePause | kvmEmulateMwait | handleMonitorTrap | kvmEmulateMonitor | kvmHandleInvalidOp
  | handlePmlFull | handleInvpcid | handlePreemptionTimer | handleEncls | handleBusLockVmexit
  | handleNotify | handleRdtsc
  deriving DecidableEq

/-- `kvm_vmx_exit_handlers`. -/
def kvmVmxExitHandlers : List (ExitReason × ExitHandler) :=
  [(.exceptionNmi, .handleExceptionNmi),
    (.externalInterrupt, .handleExternalInterrupt),
    (.tripleFault, .handleTripleFault),
    (.nmiWindow, .handleNmiWindow),
    (.ioInstruction, .handleIo),
    (.crAccess, .handleCr),
    (.drAccess, .handleDr),
    (.cpuid, .kvmEmulateCpuid),
    (.msrRead, .kvmEmulateRdmsr),
    (.msrWrite, .kvmEmulateWrmsr),
    (.interruptWindow, .handleInterruptWindow),
    (.hlt, .kvmEmulateHalt),
    (.invd, .kvmEmulateInvd),
    (.invlpg, .handleInvlpg),
    (.rdpmc, .kvmEmulateRdpmc),
    (.vmcall, .kvmEmulateHypercall),
    (.vmclear, .handleVmxInstruction),
    (.vmlaunch, .handleVmxInstruction),
    (.vmptrld, .handleVmxInstruction),
    (.vmptrst, .handleVmxInstruction),
    (.vmread, .handleVmxInstruction),
    (.vmresume, .handleVmxInstruction),
    (.vmwrite, .handleVmxInstruction),
    (.vmoff, .handleVmxInstruction),
    (.vmon, .handleVmxInstruction),
    (.tprBelowThreshold, .handleTprBelowThreshold),
    (.apicAccess, .handleApicAccess),
    (.apicWrite, .handleApicWrite),
    (.eoiInduced, .handleApicEoiInduced),
    (.wbinvd, .kvmEmulateWbinvd),
    (.xsetbv, .kvmEmulateXsetbv),
    (.taskSwitch, .handleTaskSwitch),
    (.mceDuringVmentry, .handleMachineCheck),
    (.gdtrIdtr, .handleDesc),
    (.ldtrTr, .handleDesc),
    (.eptViolation, .handleEptViolation),
    (.eptMisconfig, .handleEptMisconfig),
    (.pauseInstruction, .handlePause),
    (.mwaitInstruction, .kvmEmulateMwait),
    (.monitorTrapFlag, .handleMonitorTrap),
    (.monitorInstruction, .kvmEmulateMonitor),
    (.invept, .handleVmxInstruction),
    (.invvpid, .handleVmxInstruction),
    (.rdrand, .kvmHandleInvalidOp),
    (.rdseed, .kvmHandleInvalidOp),
    (.pmlFull, .handlePmlFull),
    (.invpcid, .handleInvpcid),
    (.vmfunc, .handleVmxInstruction),
    (.preemptionTimer, .handlePreemptionTimer),
    (.encls, .handleEncls),
    (.busLock, .handleBusLockVmexit),
    (.notify, .handleNotify),
    (.rdtsc, .handleRdtsc)]

/-- An entry of the table; the entries that are not listed are NULL. -/
def handlerAt (basic : Nat) : Option ExitHandler :=
  (kvmVmxExitHandlers.find? fun e => e.1.number = basic).map Prod.snd

/-- `kvm_vmx_max_exit_handlers`. -/
def kvmVmxMaxExitHandlers : Nat := 76

/-- An exit, and what `__vmx_handle_exit` tests in front of the table. -/
structure ExitInfo where
  reason : ExitReason
  emulationRequired : Bool := false
  /-- `vmx->fail`. -/
  fail : Bool := false
  /-- `VECTORING_INFO_VALID_MASK`: an event was being delivered. -/
  vectoring : Bool := false
  /-- `exit_fastpath` is not `EXIT_FASTPATH_NONE`. -/
  fastpath : Bool := false
  deriving DecidableEq

/-- What becomes of an exit. -/
inductive Disposition where
  | handleInvalidGuestState
  | failEntry
  | deliveryEvent
  | fastpath
  | handler (h : ExitHandler)
  | unexpectedVmexit
  deriving DecidableEq

/-- The exits a pending event may accompany. -/
def vectoringExpected : List ExitReason :=
  [.exceptionNmi, .eptViolation, .pmlFull, .apicAccess, .taskSwitch, .notify]

/-- The exits `CONFIG_RETPOLINE` calls directly. -/
def retpolineHandler : ExitReason → Option ExitHandler
  | .msrWrite => some .kvmEmulateWrmsr
  | .preemptionTimer => some .handlePreemptionTimer
  | .interruptWindow => some .handleInterruptWindow
  | .externalInterrupt => some .handleExternalInterrupt
  | .hlt => some .kvmEmulateHalt
  | .eptMisconfig => some .handleEptMisconfig
  | _ => none

/-- `__vmx_handle_exit` outside nested mode. -/
def vmxHandleExit (retpoline : Bool) (x : ExitInfo) : Disposition :=
  if x.emulationRequired then .handleInvalidGuestState
  else if x.reason.failedVmentry then .failEntry
  else if x.fail then .failEntry
  else if x.vectoring ∧ x.reason ∉ vectoringExpected then .deliveryEvent
  else if x.fastpath then .fastpath
  else if x.reason.number ≥ kvmVmxMaxExitHandlers then .unexpectedVmexit
  else
    match if retpoline then retpolineHandler x.reason else none with
    | some h => .handler h
    | none =>
      match handlerAt x.reason.number with
      | some h => .handler h
      | none => .unexpectedVmexit

/-- The controls of a virtual CPU.  `VMX_XSS_EXIT_BITMAP` is 0, and CR4.SMXE is a reserved bit of
KVM's guests. -/
def vmxControls (cfg : VmcsConfig) (v : VmxVcpu) : Controls where
  cpuBased := vmxExecControl cfg v
  secondary := (vmxSecondaryExecControl cfg v).1
  tertiary := vmxTertiaryExecControl cfg v
  xssExitBitmap := 0
  smxe := false

/-- No exit the processor can raise ends in the unexpected exit error. -/
def NoUnexpectedExit (cfg : VmcsConfig) (v : VmxVcpu) : Prop :=
  ∀ (retpoline : Bool) (x : ExitInfo), x.reason.raised (vmxControls cfg v) = true →
    vmxHandleExit retpoline x ≠ .unexpectedVmexit

/-! ## The reasons without a handler -/

/-- The reasons the table has no entry for. -/
def unhandled : List ExitReason :=
  [.initSignal, .sipiSignal, .ioSmi, .otherSmi, .getsec, .rsm, .invalidState, .msrLoadFail, .rdtscp,
    .xsaves, .xrstors, .pconfig, .spp, .umwait, .tpause, .loadiwkey, .enclv, .enqcmd, .enqcmds]

theorem handlerAt_eq_none_iff (r : ExitReason) : handlerAt r.number = none ↔ r ∈ unhandled := by
  cases r <;> decide

theorem number_lt (r : ExitReason) : r.number < kvmVmxMaxExitHandlers := by
  cases r <;> decide

/-- An exit that is not consumed in front of the table is unexpected when the table has no entry
for it. -/
theorem vmxHandleExit_unexpected {retpoline : Bool} {x : ExitInfo}
    (h : vmxHandleExit retpoline x = .unexpectedVmexit) :
    x.reason ∈ unhandled ∧ x.reason.failedVmentry = false := by
  unfold vmxHandleExit at h
  split at h
  · cases h
  split at h
  · cases h
  rename_i hentry
  split at h
  · cases h
  split at h
  · cases h
  split at h
  · cases h
  split at h
  · rename_i hmax
    exact absurd (number_lt x.reason) (Nat.not_lt.mpr hmax)
  split at h
  · cases h
  split at h
  · cases h
  rename_i hnone
  exact ⟨(handlerAt_eq_none_iff x.reason).mp hnone, by simpa using hentry⟩

/-! ## The words and the exits of RDTSC -/

section Words

variable (cfg : VmcsConfig) (v : VmxVcpu)

theorem controls_cpu_rdtsc : (vmxControls cfg v).cpu 12 = cfg.cpuBasedExecCtrl.getLsbD 12 :=
  vmxExecControl_bit cfg v (.inl rfl)

/-- A bit of the secondary word of `vmcs_config` is in force only where the first word activates
the second one. -/
theorem secondary_activated {i : Nat} (h : cfg.cpuBased2ndExecCtrl.getLsbD i = true) :
    cfg.cpuBasedExecCtrl.getLsbD 31 = true := by
  by_contra hactive
  rw [Bool.not_eq_true] at hactive
  have hbits : hasBits cfg.cpuBasedExecCtrl cpuActivateSecondary = false := by
    rw [cpuActivateSecondary, hasBits_bit _ (by decide), hactive]
  have hzero : cfg.cpuBased2ndExecCtrl = 0 := cfg.secondary_active (by simpa [hasBits] using hbits)
  rw [hzero] at h
  simp at h

theorem controls_sec {i : Nat} :
    (vmxControls cfg v).sec i = (vmxSecondaryExecControl cfg v).1.getLsbD i := by
  have hactive : (vmxExecControl cfg v).getLsbD 31 = cfg.cpuBasedExecCtrl.getLsbD 31 :=
    vmxExecControl_bit cfg v (.inr (.inr rfl))
  show ((vmxExecControl cfg v).getLsbD 31 && (vmxSecondaryExecControl cfg v).1.getLsbD i) = _
  cases hbit : (vmxSecondaryExecControl cfg v).1.getLsbD i with
  | false => rw [Bool.and_false]
  | true => rw [hactive, secondary_activated cfg (vmxSecondary_le cfg v i hbit), Bool.and_true]

/-- A control of the second word that KVM does not support is not in force. -/
theorem controls_sec_unsupported {i : Nat} (hi : i < 32)
    (h : secondarySupported.getLsbD i = false) : (vmxControls cfg v).sec i = false := by
  rw [controls_sec, vmxSecondary_unsupported cfg v hi h]

/-- LOADIWKEY exiting is not supported. -/
theorem controls_tert_loadiwkey : (vmxControls cfg v).tert 0 = false := by
  have hsupported : tertiarySupported.getLsbD 0 = false := by decide
  have hcfg : cfg.cpuBased3rdExecCtrl.getLsbD 0 = false := by
    by_contra hset
    rw [Bool.not_eq_false] at hset
    have hbit : (cfg.cpuBased3rdExecCtrl &&& ~~~tertiarySupported).getLsbD 0 = true := by
      rw [BitVec.getLsbD_and, BitVec.getLsbD_not, hset, hsupported]
      decide
    rw [cfg.tertiary_supported] at hbit
    simp at hbit
  show (_ && (vmxTertiaryExecControl cfg v).getLsbD 0) = false
  unfold vmxTertiaryExecControl
  split
  · rw [BitVec.getLsbD_and, hcfg, Bool.false_and, Bool.and_false]
  · rw [hcfg, Bool.and_false]

/-- The guest can execute RDTSCP, or UMWAIT and TPAUSE. -/
def RdtscSiblings : Prop :=
  (cfg.cpuBased2ndExecCtrl.getLsbD 3 = true ∧ (v.hasRdtscp || v.hasRdpid) = true) ∨
    (cfg.cpuBased2ndExecCtrl.getLsbD 26 = true ∧ v.hasWaitpkg = true)

theorem rdtscSiblings_iff : RdtscSiblings cfg v ↔
    (vmxControls cfg v).sec 3 = true ∨ (vmxControls cfg v).sec 26 = true := by
  rw [controls_sec, controls_sec, vmxSecondary_rdtscp, vmxSecondary_waitpkg, Bool.and_eq_true,
    Bool.and_eq_true]
  exact Iff.rfl

end Words

/-- Of the reasons without a handler, only those of RDTSCP, UMWAIT and TPAUSE can be raised behind
a completed VM entry. -/
theorem raised_unhandled {cfg : VmcsConfig} {v : VmxVcpu} {r : ExitReason} (hr : r ∈ unhandled)
    (hentry : r.failedVmentry = false) (hraised : r.raised (vmxControls cfg v) = true) :
    (vmxControls cfg v).cpu 12 = true ∧
      ((vmxControls cfg v).sec 3 = true ∨ (vmxControls cfg v).sec 26 = true) := by
  have hclear : ∀ i, i < 32 → secondarySupported.getLsbD i = false →
      ¬ (vmxControls cfg v).sec i = true := by
    intro i hi hsupported
    rw [controls_sec_unsupported cfg v hi hsupported]
    decide
  have hbitmap : ¬ ((0 : BitVec 64) != 0) = true := by decide
  cases r with
  | rdtscp =>
    obtain ⟨hrdtsc, hrdtscp⟩ := Bool.and_eq_true_iff.mp hraised
    exact ⟨hrdtsc, .inl hrdtscp⟩
  | umwait =>
    obtain ⟨hrdtsc, hwait⟩ := Bool.and_eq_true_iff.mp hraised
    exact ⟨hrdtsc, .inr hwait⟩
  | tpause =>
    obtain ⟨hrdtsc, hwait⟩ := Bool.and_eq_true_iff.mp hraised
    exact ⟨hrdtsc, .inr hwait⟩
  | xsaves => exact absurd (Bool.and_eq_true_iff.mp hraised).2 hbitmap
  | xrstors => exact absurd (Bool.and_eq_true_iff.mp hraised).2 hbitmap
  | spp => exact absurd hraised (hclear 23 (by decide) (by decide))
  | pconfig => exact absurd hraised (hclear 27 (by decide) (by decide))
  | enclv => exact absurd hraised (hclear 28 (by decide) (by decide))
  | enqcmd => exact absurd hraised (hclear 21 (by decide) (by decide))
  | enqcmds => exact absurd hraised (hclear 21 (by decide) (by decide))
  | loadiwkey =>
    have htert : (vmxControls cfg v).tert 0 = true := hraised
    rw [controls_tert_loadiwkey] at htert
    cases htert
  | _ =>
    -- a handler, a failed entry, or no way to raise it
    first
    | exact absurd hr (by decide)
    | exact absurd hentry (by decide)
    | cases hraised

/-- **No exit is unexpected exactly when** RDTSC does not exit, or the guest can execute none of
RDTSCP, UMWAIT and TPAUSE, which exit along with it. -/
theorem noUnexpectedExit_iff (cfg : VmcsConfig) (v : VmxVcpu) :
    NoUnexpectedExit cfg v ↔
      ¬ (cfg.cpuBasedExecCtrl.getLsbD 12 = true ∧ RdtscSiblings cfg v) := by
  rw [rdtscSiblings_iff, ← controls_cpu_rdtsc cfg v]
  constructor
  · rintro h ⟨hrdtsc, hrdtscp | hwait⟩
    · refine h false { reason := .rdtscp } ?_ (by decide)
      exact Bool.and_eq_true_iff.mpr ⟨hrdtsc, hrdtscp⟩
    · refine h false { reason := .umwait } ?_ (by decide)
      exact Bool.and_eq_true_iff.mpr ⟨hrdtsc, hwait⟩
  · intro hcond retpoline x hraised hunexpected
    obtain ⟨hreason, hentry⟩ := vmxHandleExit_unexpected hunexpected
    exact hcond (raised_unhandled hreason hentry hraised)

/-- A processor with RDTSC exiting and RDTSCP. -/
def rdtscpConfig : VmcsConfig where
  cpuBasedExecCtrl := cpuRdtsc ||| cpuActivateSecondary
  cpuBased2ndExecCtrl := secEnableRdtscp
  cpuBased3rdExecCtrl := 0
  secondary_supported := by decide
  secondary_active := by decide
  tertiary_supported := by decide
  tertiary_active := by decide

/-- A guest with RDTSCP executes it. -/
theorem rdtscpUnexpected : ¬ NoUnexpectedExit rdtscpConfig { hasRdtscp := true } := by
  intro h
  exact h false { reason := .rdtscp } (by decide) (by decide)

end Kvm
