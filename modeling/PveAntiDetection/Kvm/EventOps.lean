import PveAntiDetection.Kvm.SingleStep

/-!
# The event callbacks of the vendor modules

What `vmx.c` and `svm.c` do to inject an event, to open a window for one, and to mask NMIs, on the
events of `x86.c`.

* `Platform` — the vendor module's state, the interrupt controllers, and system management mode;
* `EventOps` — the event callbacks of `kvm_x86_ops`;
* `vmxEventOps`, `svmEventOps` — the two tables;
* `Keeps` — what a callback leaves alone;
* `QueueLaws` — which callbacks do, and where the injection of an exception clears the queue;
* `vmxQueueLaws`, `svmQueueLaws` — nowhere on VMX, and on SVM where the emulator has to find the
  end of INT3 or INTO.
-/

set_option autoImplicit false

namespace Kvm

/-- The state of the vendor module, of the PIC and the local APIC, and of system management mode. -/
structure Platform (W I M : Type) where
  state : W
  irqs : I
  smm : M
  deriving DecidableEq

variable {W I M D : Type}

/-- The vendor module changes its own state. -/
def EventState.mapState (s : EventState (Platform W I M)) (f : W → W) :
    EventState (Platform W I M) :=
  { s with vendor := { s.vendor with state := f s.vendor.state } }

/-- The event callbacks of `struct kvm_x86_ops`, and what `x86.c` reads of the vendor state beside
them.  `D` is what the emulator finds in guest memory. -/
structure EventOps (W I M D : Type) where
  isProtmode : W → Bool
  /-- RIP is `singlestep_rip`. -/
  singlestepRip : W → Bool
  /-- `kvm_update_dr7`. -/
  updateDr7 : EventState (Platform W I M) → W
  injectException : D → EventState (Platform W I M) → EventState (Platform W I M)
  injectNmi : D → EventState (Platform W I M) → EventState (Platform W I M)
  injectIrq : D → EventState (Platform W I M) → EventState (Platform W I M)
  enableSmiWindow : EventState (Platform W I M) → EventState (Platform W I M)
  enableNmiWindow : EventState (Platform W I M) → EventState (Platform W I M)
  enableIrqWindow : EventState (Platform W I M) → EventState (Platform W I M)
  getNmiMask : W → Bool × W
  setNmiMask : W → Bool → W
  isVnmiPending : W → Bool
  setVnmiPending : W → Bool × W
  setInterruptShadow : W → BitVec 8 → W

/-! ## Constants -/

/-- `KVM_X86_SHADOW_INT_MOV_SS`, `KVM_X86_SHADOW_INT_STI`. -/
def shadowIntMovSs : BitVec 8 := 1
def shadowIntSti : BitVec 8 := 2

/-- `KVM_GUESTDBG_USE_HW_BP`. -/
def guestdbgUseHwBp : BitVec 32 := 0x20000

/-- `INTR_INFO_VALID_MASK`, `INTR_INFO_DELIVER_CODE_MASK`. -/
def intrInfoValid : BitVec 32 := 0x80000000
def intrInfoDeliverCode : BitVec 32 := 0x800

/-- `INTR_TYPE_EXT_INTR`, `INTR_TYPE_NMI_INTR`, `INTR_TYPE_HARD_EXCEPTION`, `INTR_TYPE_SOFT_INTR`
and `INTR_TYPE_SOFT_EXCEPTION`. -/
def intrTypeExtIntr : BitVec 32 := 0
def intrTypeNmiIntr : BitVec 32 := 0x200
def intrTypeHardException : BitVec 32 := 0x300
def intrTypeSoftIntr : BitVec 32 := 0x400
def intrTypeSoftException : BitVec 32 := 0x600

/-- `SVM_EVTINJ_VALID`, `SVM_EVTINJ_VALID_ERR`. -/
def evtinjValid : BitVec 32 := 0x80000000
def evtinjValidErr : BitVec 32 := 0x800

/-- `SVM_EVTINJ_TYPE_INTR`, `SVM_EVTINJ_TYPE_NMI`, `SVM_EVTINJ_TYPE_EXEPT` and
`SVM_EVTINJ_TYPE_SOFT`. -/
def evtinjTypeIntr : BitVec 32 := 0
def evtinjTypeNmi : BitVec 32 := 0x200
def evtinjTypeExept : BitVec 32 := 0x300
def evtinjTypeSoft : BitVec 32 := 0x400

/-- DR7 as `kvm_update_dr7` hands it to the vendor module. -/
def effectiveDr7 {V : Type} (s : EventState V) (guestDebugDr7 : BitVec 64) : BitVec 64 :=
  if s.guestDebug &&& guestdbgUseHwBp ≠ 0 then guestDebugDr7 else s.dr7

/-! ## VMX -/

/-- The part of `struct vcpu_vmx` and of the VMCS that the event callbacks touch. -/
structure VmxEvents where
  protmode : Bool := true
  singlestepRip : BitVec 64 := 0
  rip : BitVec 64 := 0
  guestDebugDr7 : BitVec 64 := 0x400
  dr7 : BitVec 64 := 0x400
  /-- `rmode.vm86_active`. -/
  vm86Active : Bool := false
  entryIntrInfo : BitVec 32 := 0
  entryErrorCode : BitVec 32 := 0
  entryInstructionLen : BitVec 32 := 0
  eventExitInstLen : BitVec 32 := 0
  enableVnmi : Bool := true
  softVnmiBlocked : Bool := false
  vnmiBlockedTime : Nat := 0
  nmiKnownUnmasked : Bool := false
  /-- `GUEST_INTR_STATE_NMI`, `GUEST_INTR_STATE_MOV_SS` and `GUEST_INTR_STATE_STI`. -/
  intrStateNmi : Bool := false
  intrStateMovSs : Bool := false
  intrStateSti : Bool := false
  hltInGuest : Bool := false
  activityHlt : Bool := false
  nmiWindowExiting : Bool := false
  intrWindowExiting : Bool := false
  deriving DecidableEq

/-- What `emulate_int_real` makes of an interrupt in real mode: RIP, whether it is
`singlestep_rip`, and RFLAGS, if it succeeds. -/
abbrev VmxEmulator (I M : Type) :=
  EventState (Platform VmxEvents I M) → BitVec 8 → BitVec 32 →
    Option (BitVec 64 × Bool × BitVec 64)

/-- `kvm_inject_realmode_interrupt`. -/
def kvmInjectRealmodeInterrupt (int : VmxEmulator I M) (s : EventState (Platform VmxEvents I M))
    (irq : BitVec 8) (incEip : BitVec 32) : EventState (Platform VmxEvents I M) :=
  match int s irq incEip with
  | none => { s with requests := { s.requests with tripleFault := true } }
  | some (rip, singlestepRip, rflags) =>
    kvmSetRflags (s.mapState fun vmx => { vmx with rip := rip }) singlestepRip rflags

/-- `vmx_clear_hlt`. -/
def vmxClearHlt (vmx : VmxEvents) : VmxEvents :=
  if vmx.hltInGuest ∧ vmx.activityHlt then { vmx with activityHlt := false } else vmx

/-- `vmx_inject_exception`. -/
def vmxInjectException (int : VmxEmulator I M) (s : EventState (Platform VmxEvents I M)) :
    EventState (Platform VmxEvents I M) :=
  let s := deliverExceptionPayload s
  let ex := s.exception
  let soft := exceptionIsSoft ex.vector
  let intrInfo := ex.vector.zeroExtend 32 ||| intrInfoValid
  let intrInfo := if ex.hasErrorCode then intrInfo ||| intrInfoDeliverCode else intrInfo
  let s := s.mapState fun vmx => { vmx with
    -- the CPU takes the lower half only
    entryErrorCode := if ex.hasErrorCode then ex.errorCode &&& 0xffff else vmx.entryErrorCode }
  if s.vendor.state.vm86Active then
    kvmInjectRealmodeInterrupt int s ex.vector
      (if soft then s.vendor.state.eventExitInstLen else 0)
  else
    s.mapState fun vmx => vmxClearHlt { vmx with
      entryInstructionLen := if soft then vmx.eventExitInstLen else vmx.entryInstructionLen
      entryIntrInfo := intrInfo ||| if soft then intrTypeSoftException else intrTypeHardException }

/-- `vmx_inject_nmi`. -/
def vmxInjectNmi (int : VmxEmulator I M) (s : EventState (Platform VmxEvents I M)) :
    EventState (Platform VmxEvents I M) :=
  let s := s.mapState fun vmx => { vmx with
    softVnmiBlocked := !vmx.enableVnmi || vmx.softVnmiBlocked
    vnmiBlockedTime := if vmx.enableVnmi then vmx.vnmiBlockedTime else 0
    nmiKnownUnmasked := false }
  if s.vendor.state.vm86Active then kvmInjectRealmodeInterrupt int s nmiVector 0
  else s.mapState fun vmx => vmxClearHlt { vmx with
    entryIntrInfo := intrTypeNmiIntr ||| intrInfoValid ||| nmiVector.zeroExtend 32 }

/-- `vmx_inject_irq`. -/
def vmxInjectIrq (int : VmxEmulator I M) (s : EventState (Platform VmxEvents I M)) :
    EventState (Platform VmxEvents I M) :=
  let irq := s.interrupt.nr
  let soft := s.interrupt.soft
  if s.vendor.state.vm86Active then
    kvmInjectRealmodeInterrupt int s irq (if soft then s.vendor.state.eventExitInstLen else 0)
  else
    s.mapState fun vmx => vmxClearHlt { vmx with
      entryInstructionLen := if soft then vmx.eventExitInstLen else vmx.entryInstructionLen
      entryIntrInfo := irq.zeroExtend 32 ||| intrInfoValid |||
        if soft then intrTypeSoftIntr else intrTypeExtIntr }

/-- `vmx_enable_irq_window`. -/
def vmxEnableIrqWindow (vmx : VmxEvents) : VmxEvents := { vmx with intrWindowExiting := true }

/-- `vmx_enable_nmi_window`. -/
def vmxEnableNmiWindow (vmx : VmxEvents) : VmxEvents :=
  if ¬ vmx.enableVnmi ∨ vmx.intrStateSti then vmxEnableIrqWindow vmx
  else { vmx with nmiWindowExiting := true }

/-- `vmx_get_nmi_mask`. -/
def vmxGetNmiMask (vmx : VmxEvents) : Bool × VmxEvents :=
  if ¬ vmx.enableVnmi then (vmx.softVnmiBlocked, vmx)
  else if vmx.nmiKnownUnmasked then (false, vmx)
  else (vmx.intrStateNmi, { vmx with nmiKnownUnmasked := !vmx.intrStateNmi })

/-- `vmx_set_nmi_mask`. -/
def vmxSetNmiMask (vmx : VmxEvents) (masked : Bool) : VmxEvents :=
  if ¬ vmx.enableVnmi then
    if vmx.softVnmiBlocked ≠ masked then
      { vmx with softVnmiBlocked := masked, vnmiBlockedTime := 0 }
    else vmx
  else { vmx with nmiKnownUnmasked := !masked, intrStateNmi := masked }

/-- `vmx_set_interrupt_shadow`. -/
def vmxSetInterruptShadow (vmx : VmxEvents) (mask : BitVec 8) : VmxEvents :=
  let movSs := mask &&& shadowIntMovSs ≠ 0
  { vmx with
    intrStateMovSs := movSs
    intrStateSti := ¬ movSs ∧ mask &&& shadowIntSti ≠ 0 }

/-- The callbacks of `vmx_x86_ops`. -/
def vmxEventOps : EventOps VmxEvents I M (VmxEmulator I M) where
  isProtmode := VmxEvents.protmode
  singlestepRip := fun vmx => vmx.rip = vmx.singlestepRip
  updateDr7 := fun s => { s.vendor.state with
    dr7 := effectiveDr7 s s.vendor.state.guestDebugDr7 }
  injectException := vmxInjectException
  injectNmi := vmxInjectNmi
  injectIrq := vmxInjectIrq
  -- RSM will cause an exit anyway
  enableSmiWindow := id
  enableNmiWindow := fun s => s.mapState vmxEnableNmiWindow
  enableIrqWindow := fun s => s.mapState vmxEnableIrqWindow
  getNmiMask := vmxGetNmiMask
  setNmiMask := vmxSetNmiMask
  isVnmiPending := fun _ => false
  setVnmiPending := fun vmx => (false, vmx)
  setInterruptShadow := vmxSetInterruptShadow

/-! ## SVM -/

/-- The part of `struct vcpu_svm` and of the VMCB that the event callbacks touch. -/
structure SvmEvents extends SvmStep where
  sevGuest : Bool := false
  protmode : Bool := true
  singlestepRip : BitVec 64 := 0
  rip : BitVec 64 := 0
  csBase : BitVec 64 := 0
  guestDebugDr7 : BitVec 64 := 0x400
  dr7 : BitVec 64 := 0x400
  /-- `X86_FEATURE_NRIPS` of the host. -/
  hostNrips : Bool := true
  eventInj : BitVec 32 := 0
  eventInjErr : BitVec 32 := 0
  softIntInjected : Bool := false
  softIntCsbase : BitVec 64 := 0
  softIntOldRip : BitVec 64 := 0
  softIntNextRip : BitVec 64 := 0
  nmiMasked : Bool := false
  nmiL1ToL2 : Bool := false
  vnmiEnabled : Bool := false
  /-- `V_NMI_PENDING_MASK`, `V_NMI_BLOCKING_MASK`. -/
  vNmiPending : Bool := false
  vNmiBlocking : Bool := false
  awaitingIretCompletion : Bool := false
  gifSet : Bool := true
  vgif : Bool := false
  interceptIret : Bool := false
  interceptStgi : Bool := false
  interceptVintr : Bool := false
  nmiSinglestep : Bool := false
  nmiSinglestepGuestRflags : BitVec 64 := 0
  deriving DecidableEq

/-- What the emulator decodes at RIP: RIP of the next instruction, and whether it is
`singlestep_rip`, if there is an instruction. -/
abbrev SvmEmulator (I M : Type) :=
  EventState (Platform SvmEvents I M) → Option (BitVec 64 × Bool)

/-- What `kvm_emulate_instruction` makes of `EMULTYPE_SKIP` here: it cannot read the memory of a
SEV guest. -/
def svmSkipOutcome (decode : SvmEmulator I M) (s : EventState (Platform SvmEvents I M)) :
    SkipOutcome :=
  if s.vendor.state.sevGuest then .unhandleable
  else match decode s with
    | none => .undecodable
    | some (rip, singlestepRip) => .decoded rip singlestepRip

/-- RIP behind the emulator. -/
def svmSkipRip (outcome : SkipOutcome) (svm : SvmEvents) : SvmEvents :=
  match outcome with
  | .decoded rip _ => { svm with rip := rip }
  | _ => svm

/-- The end of `__svm_skip_emulated_instruction`. -/
def svmSkipDone (commitSideEffects : Bool) (svm : SvmEvents) : SvmEvents :=
  if commitSideEffects then { svm with interruptShadow := false } else svm

/-- The part of `__svm_skip_emulated_instruction` that asks the emulator. -/
def svmEmulateSkip (decode : SvmEmulator I M) (commitSideEffects : Bool)
    (s : EventState (Platform SvmEvents I M)) : Bool × EventState (Platform SvmEvents I M) :=
  let outcome := svmSkipOutcome decode s
  let oldRflags := s.rflags
  let s := (emulateSkip outcome s).mapState (svmSkipRip outcome)
  if outcome.result = 0 then (false, s)
  else if commitSideEffects then (true, s.mapState (svmSkipDone true))
  else (true, { s with rflags := oldRflags })

/-- `__svm_skip_emulated_instruction`. -/
def svmSkipInstruction (decode : SvmEmulator I M) (commitSideEffects : Bool)
    (s : EventState (Platform SvmEvents I M)) : Bool × EventState (Platform SvmEvents I M) :=
  let known := s.vendor.state.known
  if s.vendor.state.sevEs then (true, s.mapState (svmSkipDone commitSideEffects))
  else
    let s := s.mapState fun svm => { svm with nextRip := known }
    if known = 0 then svmEmulateSkip decode commitSideEffects s
    else (true, s.mapState fun svm => svmSkipDone commitSideEffects { svm with rip := known })

/-- `svm_update_soft_interrupt_rip`, which is true where the source returns 0. -/
def svmUpdateSoftInterruptRip (decode : SvmEmulator I M)
    (s : EventState (Platform SvmEvents I M)) : Bool × EventState (Platform SvmEvents I M) :=
  let oldRip := s.vendor.state.rip
  let r := svmSkipInstruction decode (!s.vendor.state.nrips) s
  if r.1 then
    let rip := r.2.vendor.state.rip
    (true, r.2.mapState fun svm => { svm with
      softIntInjected := true
      softIntCsbase := svm.csBase
      softIntOldRip := oldRip
      softIntNextRip := rip
      rip := if svm.nrips then oldRip else rip
      vmcbNextRip := if svm.hostNrips then rip else svm.vmcbNextRip })
  else (false, r.2)

/-- `svm_inject_exception`. -/
def svmInjectException (decode : SvmEmulator I M) (s : EventState (Platform SvmEvents I M)) :
    EventState (Platform SvmEvents I M) :=
  let s := deliverExceptionPayload s
  let r := if exceptionIsSoft s.exception.vector then svmUpdateSoftInterruptRip decode s
    else (true, s)
  if r.1 then
    let ex := r.2.exception
    r.2.mapState fun svm => { svm with
      eventInj := ex.vector.zeroExtend 32 ||| evtinjValid |||
        (if ex.hasErrorCode then evtinjValidErr else 0) ||| evtinjTypeExept
      eventInjErr := ex.errorCode }
  else r.2

/-- `svm_set_iret_intercept`, `svm_clr_iret_intercept`. -/
def svmSetIretIntercept (svm : SvmEvents) (intercept : Bool) : SvmEvents :=
  if svm.sevEs then svm else { svm with interceptIret := intercept }

/-- `svm_inject_nmi`. -/
def svmInjectNmi (svm : SvmEvents) : SvmEvents :=
  let svm := { svm with eventInj := evtinjValid ||| evtinjTypeNmi }
  if svm.nmiL1ToL2 ∨ svm.vnmiEnabled then svm
  else svmSetIretIntercept { svm with nmiMasked := true } true

/-- `svm_inject_irq`. -/
def svmInjectIrq (decode : SvmEmulator I M) (s : EventState (Platform SvmEvents I M)) :
    EventState (Platform SvmEvents I M) :=
  let r := if s.interrupt.soft then svmUpdateSoftInterruptRip decode s else (true, s)
  let type := if s.interrupt.soft then evtinjTypeSoft else evtinjTypeIntr
  if r.1 then
    r.2.mapState fun svm => { svm with
      eventInj := r.2.interrupt.nr.zeroExtend 32 ||| evtinjValid ||| type }
  else r.2

/-- `svm_is_vnmi_pending`. -/
def svmIsVnmiPending (svm : SvmEvents) : Bool := svm.vnmiEnabled && svm.vNmiPending

/-- `svm_set_vnmi_pending`. -/
def svmSetVnmiPending (svm : SvmEvents) : Bool × SvmEvents :=
  if ¬ svm.vnmiEnabled ∨ svm.vNmiPending then (false, svm)
  else (true, { svm with vNmiPending := true })

/-- `svm_get_nmi_mask`. -/
def svmGetNmiMask (svm : SvmEvents) : Bool :=
  if svm.vnmiEnabled then svm.vNmiBlocking else svm.nmiMasked

/-- `svm_set_nmi_mask`. -/
def svmSetNmiMask (svm : SvmEvents) (masked : Bool) : SvmEvents :=
  if svm.vnmiEnabled then { svm with vNmiBlocking := masked }
  else svmSetIretIntercept { svm with nmiMasked := masked } masked

/-- `svm_enable_irq_window`; where GIF is clear, STGI will cause an exit. -/
def svmEnableIrqWindow (svm : SvmEvents) : SvmEvents :=
  if svm.vgif ∨ svm.gifSet then { svm with interceptVintr := true } else svm

/-- `svm_enable_smi_window`. -/
def svmEnableSmiWindow (svm : SvmEvents) : SvmEvents :=
  if ¬ svm.gifSet ∧ svm.vgif then { svm with interceptStgi := true } else svm

/-- `svm_get_rflags`. -/
def svmGetRflags (svm : SvmEvents) (rflags : BitVec 64) : BitVec 64 :=
  if svm.nmiSinglestep then
    let rflags := if svm.nmiSinglestepGuestRflags &&& eflagsTf ≠ 0 then rflags
      else rflags &&& ~~~eflagsTf
    if svm.nmiSinglestepGuestRflags &&& eflagsRf ≠ 0 then rflags else rflags &&& ~~~eflagsRf
  else rflags

/-- `svm_enable_nmi_window`. -/
def svmEnableNmiWindow (s : EventState (Platform SvmEvents I M)) :
    EventState (Platform SvmEvents I M) :=
  let svm := s.vendor.state
  -- IRET will cause an exit
  if svmGetNmiMask svm ∧ ¬ svm.awaitingIretCompletion then s
  else if svm.sevEs then s
  else if ¬ svm.gifSet then s.mapState svmEnableSmiWindow
  else
    { s.mapState fun svm => { svm with
        nmiSinglestepGuestRflags := svmGetRflags svm s.rflags
        nmiSinglestep := true } with
      rflags := s.rflags ||| (eflagsTf ||| eflagsRf) }

/-- `svm_set_interrupt_shadow`. -/
def svmSetInterruptShadow (svm : SvmEvents) (mask : BitVec 8) : SvmEvents :=
  { svm with interruptShadow := mask ≠ 0 }

/-- The callbacks of `svm_x86_ops`. -/
def svmEventOps : EventOps SvmEvents I M (SvmEmulator I M) where
  isProtmode := SvmEvents.protmode
  singlestepRip := fun svm => svm.rip = svm.singlestepRip
  updateDr7 := fun s => { s.vendor.state with
    dr7 := effectiveDr7 s s.vendor.state.guestDebugDr7 }
  injectException := svmInjectException
  injectNmi := fun _ s => s.mapState svmInjectNmi
  injectIrq := svmInjectIrq
  enableSmiWindow := fun s => s.mapState svmEnableSmiWindow
  enableNmiWindow := svmEnableNmiWindow
  enableIrqWindow := fun s => s.mapState svmEnableIrqWindow
  getNmiMask := fun svm => (svmGetNmiMask svm, svm)
  setNmiMask := svmSetNmiMask
  isVnmiPending := svmIsVnmiPending
  setVnmiPending := svmSetVnmiPending
  setInterruptShadow := svmSetInterruptShadow

/-! ## What callbacks leave alone -/

/-- The flags of the exception queue, the other events, and the interrupt controllers are as they
were. -/
structure Keeps (s s' : EventState (Platform W I M)) : Prop where
  pending : s'.exception.pending = s.exception.pending
  injected : s'.exception.injected = s.exception.injected
  interrupt : s'.interrupt = s.interrupt
  nmiInjected : s'.nmiInjected = s.nmiInjected
  nmiPending : s'.nmiPending = s.nmiPending
  smiPending : s'.smiPending = s.smiPending
  guestDebug : s'.guestDebug = s.guestDebug
  irqs : s'.vendor.irqs = s.vendor.irqs

theorem Keeps.refl (s : EventState (Platform W I M)) : Keeps s s :=
  ⟨rfl, rfl, rfl, rfl, rfl, rfl, rfl, rfl⟩

theorem Keeps.trans {s t u : EventState (Platform W I M)} (h₁ : Keeps s t) (h₂ : Keeps t u) :
    Keeps s u :=
  ⟨h₂.pending.trans h₁.pending, h₂.injected.trans h₁.injected, h₂.interrupt.trans h₁.interrupt,
    h₂.nmiInjected.trans h₁.nmiInjected, h₂.nmiPending.trans h₁.nmiPending,
    h₂.smiPending.trans h₁.smiPending, h₂.guestDebug.trans h₁.guestDebug, h₂.irqs.trans h₁.irqs⟩

/-- What a table of callbacks does to the events.  `Clears` says of a vector and of the vendor
state where the injection of an exception clears the queue. -/
structure QueueLaws (ops : EventOps W I M D) (Clears : BitVec 8 → W → Prop) : Prop where
  injectException_keeps : ∀ d s, ¬ Clears s.exception.vector s.vendor.state →
    Keeps s (ops.injectException d s)
  injectException_clears : ∀ d s, Clears s.exception.vector s.vendor.state →
    Keeps (kvmClearExceptionQueue s) (ops.injectException d s)
  injectNmi : ∀ d s, Keeps s (ops.injectNmi d s)
  injectIrq : ∀ d s, (s.interrupt.soft = true →
    s.exception.pending = false ∧ s.exception.injected = false) → Keeps s (ops.injectIrq d s)
  enableSmiWindow : ∀ s, Keeps s (ops.enableSmiWindow s)
  enableNmiWindow : ∀ s, Keeps s (ops.enableNmiWindow s)
  enableIrqWindow : ∀ s, Keeps s (ops.enableIrqWindow s)

section Frames

variable (s : EventState (Platform W I M))

theorem mapState_keeps (f : W → W) : Keeps s (s.mapState f) :=
  ⟨rfl, rfl, rfl, rfl, rfl, rfl, rfl, rfl⟩

theorem deliver_keeps : Keeps s (deliverExceptionPayload s) := by
  unfold deliverExceptionPayload
  split
  · exact ⟨rfl, rfl, rfl, rfl, rfl, rfl, rfl, rfl⟩
  · exact Keeps.refl s

@[simp] theorem deliver_vendor : (deliverExceptionPayload s).vendor = s.vendor := by
  unfold deliverExceptionPayload
  split <;> rfl

theorem setRflags_keeps (singlestepRip : Bool) (rflags : BitVec 64) :
    Keeps s (kvmSetRflags s singlestepRip rflags) := by
  unfold kvmSetRflags kvmSetRflagsNoEvent
  dsimp only
  split
  · exact ⟨rfl, rfl, rfl, rfl, rfl, rfl, rfl, rfl⟩
  · exact ⟨rfl, rfl, rfl, rfl, rfl, rfl, rfl, rfl⟩

/-- Clearing a clear queue changes nothing. -/
theorem clear_keeps (hpending : s.exception.pending = false)
    (hinjected : s.exception.injected = false) : Keeps s (kvmClearExceptionQueue s) :=
  ⟨hpending.symm, hinjected.symm, rfl, rfl, rfl, rfl, rfl, rfl⟩

end Frames

theorem realmode_keeps (int : VmxEmulator I M) (s : EventState (Platform VmxEvents I M))
    (irq : BitVec 8) (incEip : BitVec 32) :
    Keeps s (kvmInjectRealmodeInterrupt int s irq incEip) := by
  unfold kvmInjectRealmodeInterrupt
  split
  · exact ⟨rfl, rfl, rfl, rfl, rfl, rfl, rfl, rfl⟩
  · exact (mapState_keeps s _).trans (setRflags_keeps _ _ _)

/-- The two ways to inject on VMX: the emulator in real mode, and the VM-entry fields. -/
theorem vmxEntry_keeps (int : VmxEmulator I M) (s : EventState (Platform VmxEvents I M))
    (irq : BitVec 8) (incEip : BitVec 32) (f : VmxEvents → VmxEvents) :
    Keeps s (if s.vendor.state.vm86Active then kvmInjectRealmodeInterrupt int s irq incEip
      else s.mapState f) := by
  split
  · exact realmode_keeps int s irq incEip
  · exact mapState_keeps s f

/-- **VMX**: no callback touches the queue. -/
theorem vmxQueueLaws :
    QueueLaws (vmxEventOps : EventOps VmxEvents I M (VmxEmulator I M)) (fun _ _ => False) where
  injectException_keeps := by
    intro int s _
    have hpayload := deliver_keeps s
    exact (hpayload.trans (mapState_keeps _ _)).trans (vmxEntry_keeps int _ _ _ _)
  injectException_clears := fun _ _ h => h.elim
  injectNmi := fun int s => (mapState_keeps s _).trans (vmxEntry_keeps int _ _ _ _)
  injectIrq := fun int s _ => vmxEntry_keeps int s _ _ _
  enableSmiWindow := Keeps.refl
  enableNmiWindow := fun s => mapState_keeps s _
  enableIrqWindow := fun s => mapState_keeps s _

/-- The skip asks the emulator to decode: RIP of the next instruction is not known, and the guest is
no SEV guest, whose memory it cannot read. -/
def SvmEvents.Decodes (svm : SvmEvents) : Prop :=
  svm.sevEs = false ∧ svm.sevGuest = false ∧ svm.known = 0

instance (svm : SvmEvents) : Decidable svm.Decodes := inferInstanceAs (Decidable (_ ∧ _ ∧ _))

/-- The exception is soft, and SVM has to find its end with the emulator. -/
def SvmClears (vector : BitVec 8) (svm : SvmEvents) : Prop :=
  exceptionIsSoft vector = true ∧ svm.Decodes

instance (vector : BitVec 8) (svm : SvmEvents) : Decidable (SvmClears vector svm) :=
  inferInstanceAs (Decidable (_ ∧ _))

section Svm

variable {decode : SvmEmulator I M} {s t : EventState (Platform SvmEvents I M)} {commit : Bool}

theorem emulateSkip_refused (hsev : s.vendor.state.sevGuest = true) :
    emulateSkip (svmSkipOutcome decode s) s = s := by
  rw [svmSkipOutcome, if_pos hsev]
  rfl

/-- The emulator clears the queue before it decodes. -/
theorem emulateSkip_clears (hsev : s.vendor.state.sevGuest = false) :
    Keeps (kvmClearExceptionQueue s) (emulateSkip (svmSkipOutcome decode s) s) := by
  rw [svmSkipOutcome, if_neg (by simp [hsev])]
  cases decode s with
  | none => exact Keeps.refl _
  | some r =>
    show Keeps _ (if _ then kvmSetRflags _ _ _ else _)
    split
    · exact setRflags_keeps _ _ _
    · exact Keeps.refl _

/-- Behind the emulator only the vendor state and RFLAGS change. -/
theorem svmEmulateSkip_keeps (h : Keeps t (emulateSkip (svmSkipOutcome decode s) s)) :
    Keeps t (svmEmulateSkip decode commit s).2 := by
  have hrip := h.trans (mapState_keeps _ (svmSkipRip (svmSkipOutcome decode s)))
  unfold svmEmulateSkip
  dsimp only
  split
  · exact hrip
  · split
    · exact hrip.trans (mapState_keeps _ _)
    · exact hrip.trans ⟨rfl, rfl, rfl, rfl, rfl, rfl, rfl, rfl⟩

theorem svmSkip_keeps (h : ¬ s.vendor.state.Decodes) :
    Keeps s (svmSkipInstruction decode commit s).2 := by
  unfold svmSkipInstruction
  dsimp only
  split
  · exact mapState_keeps s _
  · rename_i hes
    split
    · rename_i hknown
      refine svmEmulateSkip_keeps ?_
      rw [emulateSkip_refused]
      · exact mapState_keeps s _
      · by_contra hsev
        exact h ⟨Bool.eq_false_iff.mpr hes, Bool.eq_false_iff.mpr hsev, hknown⟩
    · exact ⟨rfl, rfl, rfl, rfl, rfl, rfl, rfl, rfl⟩

theorem svmSkip_clears (h : s.vendor.state.Decodes) :
    Keeps (kvmClearExceptionQueue s) (svmSkipInstruction decode commit s).2 := by
  obtain ⟨hes, hsev, hknown⟩ := h
  unfold svmSkipInstruction
  rw [if_neg (by simp [hes]), if_pos hknown]
  refine svmEmulateSkip_keeps (Keeps.trans ?_ (emulateSkip_clears ?_))
  · exact ⟨rfl, rfl, rfl, rfl, rfl, rfl, rfl, rfl⟩
  · exact hsev

/-- The bookkeeping of soft events is vendor state. -/
theorem updateRip_keeps
    (h : Keeps t (svmSkipInstruction decode (!s.vendor.state.nrips) s).2) :
    Keeps t (svmUpdateSoftInterruptRip decode s).2 := by
  unfold svmUpdateSoftInterruptRip
  dsimp only
  split
  · exact h.trans ⟨rfl, rfl, rfl, rfl, rfl, rfl, rfl, rfl⟩
  · exact h

/-- What an injection writes into the VMCB, if it gets so far. -/
theorem inject_keeps {r : Bool × EventState (Platform SvmEvents I M)} (h : Keeps t r.2)
    (f : SvmEvents → SvmEvents) : Keeps t (if r.1 then r.2.mapState f else r.2) := by
  split
  · exact h.trans (mapState_keeps _ f)
  · exact h

/-- Where the emulator has nothing to decode, an exception leaves the queue alone. -/
theorem svmInjectException_keeps (hclears : ¬ SvmClears s.exception.vector s.vendor.state) :
    Keeps s (svmInjectException decode s) := by
  refine inject_keeps ?_ _
  by_cases hsoft : exceptionIsSoft (deliverExceptionPayload s).exception.vector = true
  · rw [if_pos hsoft]
    rw [deliver_vector] at hsoft
    refine updateRip_keeps ((deliver_keeps s).trans (svmSkip_keeps ?_))
    rw [deliver_vendor]
    exact fun hdecodes => hclears ⟨hsoft, hdecodes⟩
  · rw [if_neg hsoft]
    exact deliver_keeps s

/-- Where it decodes, the exception that is being injected is gone. -/
theorem svmInjectException_clears (hclears : SvmClears s.exception.vector s.vendor.state) :
    Keeps (kvmClearExceptionQueue s) (svmInjectException decode s) := by
  obtain ⟨hsoft, hdecodes⟩ := hclears
  refine inject_keeps ?_ _
  rw [if_pos (by rwa [deliver_vector])]
  refine updateRip_keeps (Keeps.trans ?_ (svmSkip_clears ?_))
  · have hpayload := deliver_keeps s
    exact ⟨rfl, rfl, hpayload.interrupt, hpayload.nmiInjected, hpayload.nmiPending,
      hpayload.smiPending, hpayload.guestDebug, hpayload.irqs⟩
  · rwa [deliver_vendor]

/-- The emulator may clear the queue for a soft interrupt, too, but then the queue is clear. -/
theorem svmInjectIrq_keeps (hempty : s.interrupt.soft = true →
    s.exception.pending = false ∧ s.exception.injected = false) :
    Keeps s (svmInjectIrq decode s) := by
  refine inject_keeps ?_ _
  by_cases hsoft : s.interrupt.soft = true
  · obtain ⟨hpending, hinjected⟩ := hempty hsoft
    rw [if_pos hsoft]
    refine updateRip_keeps ?_
    by_cases hdecodes : s.vendor.state.Decodes
    · exact (clear_keeps s hpending hinjected).trans (svmSkip_clears hdecodes)
    · exact svmSkip_keeps hdecodes
  · rw [if_neg hsoft]
    exact Keeps.refl s

theorem svmEnableNmiWindow_keeps : Keeps s (svmEnableNmiWindow s) := by
  unfold svmEnableNmiWindow
  dsimp only
  split
  · exact Keeps.refl s
  · split
    · exact Keeps.refl s
    · split
      · exact mapState_keeps s _
      · exact ⟨rfl, rfl, rfl, rfl, rfl, rfl, rfl, rfl⟩

end Svm

/-- **SVM**: the injection of a soft exception whose end the emulator has to find clears the
queue. -/
theorem svmQueueLaws :
    QueueLaws (svmEventOps : EventOps SvmEvents I M (SvmEmulator I M)) SvmClears where
  injectException_keeps := fun _ _ hclears => svmInjectException_keeps hclears
  injectException_clears := fun _ _ hclears => svmInjectException_clears hclears
  injectNmi := fun _ s => mapState_keeps s _
  injectIrq := fun _ _ hempty => svmInjectIrq_keeps hempty
  enableSmiWindow := fun s => mapState_keeps s _
  enableNmiWindow := fun _ => svmEnableNmiWindow_keeps
  enableIrqWindow := fun s => mapState_keeps s _

end Kvm
