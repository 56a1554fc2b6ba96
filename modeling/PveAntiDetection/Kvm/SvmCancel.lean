import PveAntiDetection.Kvm.VmxCancel

/-!
# Cancelling an injection on SVM

`svm_cancel_injection` behind the inject callbacks, outside guest mode.  It hands `event_inj` to the
function that reads `exit_int_info` on a VM exit, which also unwinds RIP where the injection of a
soft event has moved it.

* `svmCompleteSoftInterrupt`, `svmCompleteInterrupts`, `svmCancelInjection`;
* `SvmCancelled` — what undoing an injection means;
* `RipUnwound` — RIP is found where the injection has left it;
* `SvmProgrammed` — what the inject callbacks leave; `svmInject_programs`;
* `svmComplete_event` — what is read back;
* `cancelInjection_right_iff` — VMX undoes every injection, SVM those whose RIP is found.
-/

set_option autoImplicit false

namespace Kvm

variable {V I M : Type}

/-- `SVM_EXITINTINFO_VEC_MASK`, `SVM_EXITINTINFO_TYPE_MASK`. -/
def exitintinfoVecMask : BitVec 32 := 0xff
def exitintinfoTypeMask : BitVec 32 := 0x700

/-- `X86_TRAP_VC`. -/
def vcVector : BitVec 8 := 29

/-- What `svm_complete_interrupts` reads beside the fields of the event callbacks. -/
structure SvmExitInfo where
  exitIntInfo : BitVec 32 := 0
  exitIntInfoErr : BitVec 32 := 0
  nmiIretRip : BitVec 64 := 0
  is64BitMode : Bool := true
  guestStateProtected : Bool := false
  deriving DecidableEq

/-- `kvm_get_linear_rip`; RIP of a guest whose state is protected cannot be read. -/
def SvmExitInfo.linearRip (x : SvmExitInfo) (csBase rip : BitVec 64) : BitVec 64 :=
  if x.guestStateProtected then 0
  else if x.is64BitMode then rip
  else (csBase + rip) &&& mask32

/-- `svm_complete_soft_interrupt`. -/
def svmCompleteSoftInterrupt (x : SvmExitInfo) (vector : BitVec 8) (type : BitVec 32)
    (svm : SvmEvents) : SvmEvents :=
  let isException := type = evtinjTypeExept
  let isSoft := type = evtinjTypeSoft
  -- `kvm_is_linear_rip`
  let isLinearRip (linear : BitVec 64) := x.linearRip svm.csBase svm.rip = linear
  if svm.nrips ∧ (isSoft ∨ (isException ∧ exceptionIsSoft vector)) ∧
      isLinearRip (svm.softIntOldRip + svm.softIntCsbase) then
    { svm with vmcbNextRip := svm.softIntNextRip }
  else if ¬ svm.nrips ∧ (isSoft ∨ isException) ∧
      isLinearRip (svm.softIntNextRip + svm.softIntCsbase) then
    { svm with rip := svm.softIntOldRip }
  else svm

/-- The `switch` of `svm_complete_interrupts`. -/
def svmRequeueEvent (x : SvmExitInfo) (nmiL1ToL2 : Bool) (s : EventState (Platform SvmEvents I M)) :
    EventState (Platform SvmEvents I M) :=
  let vector := (x.exitIntInfo &&& exitintinfoVecMask).truncate 8
  let type := x.exitIntInfo &&& exitintinfoTypeMask
  if type = evtinjTypeNmi then
    { s with nmiInjected := true }.mapState fun svm => { svm with nmiL1ToL2 := nmiL1ToL2 }
  else if type = evtinjTypeExept then
    -- a #VC is never injected again
    if vector = vcVector then s
    else if x.exitIntInfo &&& evtinjValidErr ≠ 0 then
      kvmRequeueExceptionE s vector x.exitIntInfoErr
    else kvmRequeueException s vector
  else if type = evtinjTypeIntr then kvmQueueInterrupt s vector false
  else if type = evtinjTypeSoft then kvmQueueInterrupt s vector true
  else s

/-- NMIs are allowed again where an IRET has been executed. -/
def svmAllowNmi (x : SvmExitInfo) (s : EventState (Platform SvmEvents I M)) :
    EventState (Platform SvmEvents I M) :=
  if s.vendor.state.awaitingIretCompletion ∧ s.vendor.state.rip ≠ x.nmiIretRip then
    makeEventRequest (s.mapState fun svm => { svm with
      awaitingIretCompletion := false
      nmiMasked := false })
  else s

/-- `svm_complete_interrupts`. -/
def svmCompleteInterrupts (x : SvmExitInfo) (s : EventState (Platform SvmEvents I M)) :
    EventState (Platform SvmEvents I M) :=
  let nmiL1ToL2 := s.vendor.state.nmiL1ToL2
  let softIntInjected := s.vendor.state.softIntInjected
  let s := s.mapState fun svm => { svm with nmiL1ToL2 := false, softIntInjected := false }
  let s := clearEvents (svmAllowNmi x s)
  if x.exitIntInfo &&& evtinjValid = 0 then s
  else
    let s := makeEventRequest s
    let vector := (x.exitIntInfo &&& exitintinfoVecMask).truncate 8
    let type := x.exitIntInfo &&& exitintinfoTypeMask
    let s := if softIntInjected then s.mapState (svmCompleteSoftInterrupt x vector type) else s
    svmRequeueEvent x nmiL1ToL2 s

/-- `svm_cancel_injection`. -/
def svmCancelInjection (x : SvmExitInfo) (s : EventState (Platform SvmEvents I M)) :
    EventState (Platform SvmEvents I M) :=
  svmCompleteInterrupts { x with
      exitIntInfo := s.vendor.state.eventInj
      exitIntInfoErr := s.vendor.state.eventInjErr }
    (s.mapState fun svm => { svm with eventInj := 0 })

/-- The inject callback of SVM for this event. -/
def svmInject (decode : SvmEmulator I M) : MarkedEvent → EventState (Platform SvmEvents I M) →
    EventState (Platform SvmEvents I M)
  | .exception _ _ => svmInjectException decode
  | .nmi => fun s => s.mapState svmInjectNmi
  | .interrupt _ _ => svmInjectIrq decode

/-- Where the callback looks for the next instruction: an exception has delivered its payload. -/
def MarkedEvent.start : MarkedEvent → EventState V → EventState V
  | .exception _ _ => deliverExceptionPayload
  | _ => id

/-- RIP of the next instruction as `svm_update_soft_interrupt_rip` finds it, if it does. -/
def svmNextRip (decode : SvmEmulator I M) (s : EventState (Platform SvmEvents I M)) :
    Option (BitVec 64) :=
  let known := s.vendor.state.known
  if s.vendor.state.sevEs then some s.vendor.state.rip
  else if known = 0 then
    match svmSkipOutcome decode (s.mapState fun svm => { svm with nextRip := known }) with
    | .decoded rip _ => some rip
    | _ => none
  else some known

/-- The inject callback succeeds: a soft event finds the next instruction. -/
def SvmInjects (decode : SvmEmulator I M) (e : MarkedEvent)
    (s : EventState (Platform SvmEvents I M)) : Prop :=
  e.soft = true → (svmUpdateSoftInterruptRip decode (e.start s)).1 = true

/-- What VMRUN injects: the event, and its error code if it has one. -/
def SvmEvents.injEvent (svm : SvmEvents) : BitVec 32 × Option (BitVec 32) :=
  (svm.eventInj, if svm.eventInj &&& evtinjValidErr ≠ 0 then some svm.eventInjErr else none)

/-- The injection of `e` into `s` is undone: the event is marked as before, RIP is the old one, the
field is empty, and injecting again programs the same. -/
structure SvmCancelled (decode : SvmEmulator I M) (x : SvmExitInfo) (e : MarkedEvent)
    (s : EventState (Platform SvmEvents I M)) : Prop where
  event : markedEvents (svmCancelInjection x (svmInject decode e s)) = [e]
  rip : (svmCancelInjection x (svmInject decode e s)).vendor.state.rip = s.vendor.state.rip
  empty : (svmCancelInjection x (svmInject decode e s)).vendor.state.eventInj = 0
  again : ∀ decode', SvmInjects decode' e (svmCancelInjection x (svmInject decode e s)) →
    (svmInject decode' e (svmCancelInjection x (svmInject decode e s))).vendor.state.injEvent =
      (svmInject decode e s).vendor.state.injEvent

/-- The type an event is injected with. -/
def MarkedEvent.svmType : MarkedEvent → BitVec 32
  | .exception _ _ => evtinjTypeExept
  | .nmi => evtinjTypeNmi
  | .interrupt _ soft => if soft then evtinjTypeSoft else evtinjTypeIntr

/-- The linear address of RIP is the sum of RIP and the CS base as `svm_complete_soft_interrupt`
forms it: the sum does not leave 32 bits outside 64-bit mode, and adds nothing in it. -/
def SvmExitInfo.LinearIsSum (x : SvmExitInfo) (csBase rip : BitVec 64) : Prop :=
  if x.guestStateProtected then rip + csBase = 0
  else if x.is64BitMode then csBase = 0
  else (rip + csBase).toNat < 2 ^ 32

/-- RIP is unwound where it has to be.  With NRIPS it has not moved; the next instruction of a soft
event is found again by its linear address, unless it is the instruction itself; and a hard
exception does not take the record of an older event for its own. -/
def RipUnwound (decode : SvmEmulator I M) (x : SvmExitInfo) (e : MarkedEvent)
    (s : EventState (Platform SvmEvents I M)) : Prop :=
  let svm := s.vendor.state
  svm.nrips = true ∨
    if e.soft then ∀ next, svmNextRip decode (e.start s) = some next →
      next = svm.rip ∨ x.LinearIsSum svm.csBase next
    else e.svmType = evtinjTypeExept → svm.softIntInjected = true →
      x.linearRip svm.csBase svm.rip = svm.softIntNextRip + svm.softIntCsbase →
      svm.softIntOldRip = svm.rip

/-! ## Moving RIP -/

/-- What the emulator leaves of the queued events. -/
structure SameEvent (s t : EventState V) : Prop where
  vector : t.exception.vector = s.exception.vector
  code : t.exception.code = s.exception.code
  interrupt : t.interrupt = s.interrupt

theorem emulateSkip_sameEvent (rip : BitVec 64) (b : Bool) (s : EventState V) :
    SameEvent s (emulateSkip (.decoded rip b) s) := by
  have hex := emulateSkip_decoded s rip b
  refine ⟨by rw [hex], by rw [hex]; rfl, ?_⟩
  unfold emulateSkip kvmSetRflags kvmSetRflagsNoEvent
  dsimp only
  split
  · split <;> rfl
  · rfl

theorem emulateSkip_vendor (rip : BitVec 64) (b : Bool) (s : EventState V) :
    (emulateSkip (.decoded rip b) s).vendor = s.vendor := by
  unfold emulateSkip kvmSetRflags kvmSetRflagsNoEvent
  dsimp only
  split
  · split <;> rfl
  · rfl

/-- What a skip leaves of the vendor state, RIP apart. -/
structure SkippedTo (next : BitVec 64) (svm svm' : SvmEvents) : Prop where
  rip : svm'.rip = next
  nrips : svm'.nrips = svm.nrips
  csBase : svm'.csBase = svm.csBase

theorem svmSkipDone_skippedTo {next : BitVec 64} {svm svm' : SvmEvents}
    (h : SkippedTo next svm svm') (commitSideEffects : Bool) :
    SkippedTo next svm (svmSkipDone commitSideEffects svm') := by
  unfold svmSkipDone
  split
  · exact ⟨h.rip, h.nrips, h.csBase⟩
  · exact h

/-- A SEV guest cannot be emulated, and what cannot be decoded is not skipped. -/
theorem svmSkipOutcome_decoded {decode : SvmEmulator I M} {s : EventState (Platform SvmEvents I M)}
    (h : (svmSkipOutcome decode s).result ≠ 0) :
    ∃ rip b, svmSkipOutcome decode s = .decoded rip b := by
  unfold svmSkipOutcome at h ⊢
  split
  · rename_i hsev
    simp [hsev, SkipOutcome.result] at h
  · rename_i hsev
    cases hdecode : decode s with
    | none => simp [hsev, hdecode, SkipOutcome.result] at h
    | some r => exact ⟨r.1, r.2, rfl⟩

theorem svmEmulateSkip_spec {decode : SvmEmulator I M} {c : Bool}
    {s : EventState (Platform SvmEvents I M)} (h : (svmEmulateSkip decode c s).1 = true) :
    ∃ rip b, svmSkipOutcome decode s = .decoded rip b ∧
      SameEvent s (svmEmulateSkip decode c s).2 ∧
      SkippedTo rip s.vendor.state (svmEmulateSkip decode c s).2.vendor.state := by
  have hresult : (svmSkipOutcome decode s).result ≠ 0 := by
    intro hzero
    simp [svmEmulateSkip, hzero] at h
  obtain ⟨rip, b, hdecoded⟩ := svmSkipOutcome_decoded hresult
  refine ⟨rip, b, hdecoded, ?_⟩
  have hsame := emulateSkip_sameEvent rip b s
  have hvendor := congrArg Platform.state (emulateSkip_vendor rip b s)
  have hmoved : SkippedTo rip s.vendor.state
      (svmSkipRip (.decoded rip b) (emulateSkip (.decoded rip b) s).vendor.state) := by
    rw [hvendor]
    exact ⟨rfl, rfl, rfl⟩
  unfold svmEmulateSkip
  rw [hdecoded]
  simp only [SkipOutcome.result, Int.one_ne_zero, if_false]
  cases c
  · exact ⟨⟨hsame.vector, hsame.code, hsame.interrupt⟩, hmoved⟩
  · exact ⟨⟨hsame.vector, hsame.code, hsame.interrupt⟩, svmSkipDone_skippedTo hmoved true⟩

theorem svmSkip_spec {decode : SvmEmulator I M} {c : Bool} {s : EventState (Platform SvmEvents I M)}
    (h : (svmSkipInstruction decode c s).1 = true) :
    SameEvent s (svmSkipInstruction decode c s).2 ∧ ∃ next, svmNextRip decode s = some next ∧
      SkippedTo next s.vendor.state (svmSkipInstruction decode c s).2.vendor.state := by
  unfold svmSkipInstruction at h ⊢
  unfold svmNextRip
  cases hes : s.vendor.state.sevEs
  · by_cases hknown : s.vendor.state.known = 0
    · simp only [hes, hknown, Bool.false_eq_true, if_false, if_true] at h ⊢
      obtain ⟨rip, b, hdecoded, hsame, hmoved⟩ := svmEmulateSkip_spec h
      refine ⟨⟨hsame.vector, hsame.code, hsame.interrupt⟩, rip, ?_,
        ⟨hmoved.rip, hmoved.nrips, hmoved.csBase⟩⟩
      rw [hdecoded]
    · simp only [hknown, Bool.false_eq_true, if_false]
      refine ⟨⟨rfl, rfl, rfl⟩, s.vendor.state.known, rfl, ?_⟩
      cases c <;> exact ⟨rfl, rfl, rfl⟩
  · simp only [if_true]
    exact ⟨⟨rfl, rfl, rfl⟩, _, rfl, svmSkipDone_skippedTo ⟨rfl, rfl, rfl⟩ c⟩

/-- What `svm_update_soft_interrupt_rip` saves where it finds the next instruction. -/
structure SoftSaved (next : BitVec 64) (svm svm' : SvmEvents) : Prop where
  injected : svm'.softIntInjected = true
  csbase : svm'.softIntCsbase = svm.csBase
  oldRip : svm'.softIntOldRip = svm.rip
  nextRip : svm'.softIntNextRip = next
  rip : svm'.rip = if svm.nrips then svm.rip else next
  nrips : svm'.nrips = svm.nrips
  csBase : svm'.csBase = svm.csBase

theorem svmUpdate_spec {decode : SvmEmulator I M} {s : EventState (Platform SvmEvents I M)}
    (h : (svmUpdateSoftInterruptRip decode s).1 = true) :
    SameEvent s (svmUpdateSoftInterruptRip decode s).2 ∧ ∃ next, svmNextRip decode s = some next ∧
      SoftSaved next s.vendor.state (svmUpdateSoftInterruptRip decode s).2.vendor.state := by
  unfold svmUpdateSoftInterruptRip at h ⊢
  dsimp only at h ⊢
  split at h
  · rename_i hskip
    rw [if_pos hskip]
    obtain ⟨hsame, next, hnext, hto⟩ := svmSkip_spec hskip
    refine ⟨⟨hsame.vector, hsame.code, hsame.interrupt⟩, next, hnext, rfl, hto.csBase, rfl, hto.rip,
      ?_, hto.nrips, hto.csBase⟩
    simp only [EventState.mapState, hto.rip, hto.nrips]
  · cases h


/-- An NMI has no vector in `event_inj`. -/
def MarkedEvent.svmInfo (e : MarkedEvent) : BitVec 32 :=
  eventInfo (e.vector 0) e.errorCode.isSome e.svmType

theorem MarkedEvent.svmType_mem (e : MarkedEvent) : e.svmType ∈ injectedTypes := by
  rcases e with ⟨vector, errorCode⟩ | _ | ⟨nr, soft⟩
  · exact (by decide : evtinjTypeExept ∈ injectedTypes)
  · decide
  · simp only [svmType]
    cases soft <;> decide

/-- RIP and what is saved of it, before the event is written. -/
structure SvmPrepared (decode : SvmEmulator I M) (e : MarkedEvent)
    (s : EventState (Platform SvmEvents I M)) (svm : SvmEvents) : Prop where
  soft : e.soft = true → ∃ next, svmNextRip decode (e.start s) = some next ∧
    SoftSaved next s.vendor.state svm
  hard : e.soft = false → svm.rip = s.vendor.state.rip ∧
    svm.nrips = s.vendor.state.nrips ∧ svm.csBase = s.vendor.state.csBase ∧
    svm.softIntInjected = s.vendor.state.softIntInjected ∧
    svm.softIntCsbase = s.vendor.state.softIntCsbase ∧
    svm.softIntOldRip = s.vendor.state.softIntOldRip ∧
    svm.softIntNextRip = s.vendor.state.softIntNextRip

/-- What the inject callback of SVM leaves, where it succeeds. -/
structure SvmProgrammed (decode : SvmEmulator I M) (e : MarkedEvent)
    (s : EventState (Platform SvmEvents I M)) (svm : SvmEvents) : Prop
    extends SvmPrepared decode e s svm where
  info : svm.eventInj = e.svmInfo
  code : ∀ code, e.errorCode = some code → svm.eventInjErr = code

theorem start_vendor (e : MarkedEvent) (s : EventState (Platform SvmEvents I M)) :
    (e.start s).vendor = s.vendor := by
  cases e
  · exact deliver_vendor s
  · rfl
  · rfl

/-- The first half of both callbacks. -/
theorem svmPrepare_spec {decode : SvmEmulator I M} {e : MarkedEvent}
    {s : EventState (Platform SvmEvents I M)} (hok : SvmInjects decode e s) :
    let r := if e.soft then svmUpdateSoftInterruptRip decode (e.start s) else (true, e.start s)
    r.1 = true ∧ SameEvent (e.start s) r.2 ∧ SvmPrepared decode e s r.2.vendor.state := by
  cases hsoft : e.soft
  · refine ⟨rfl, ⟨rfl, rfl, rfl⟩, ?_, ?_⟩
    · intro h
      cases hsoft.symm.trans h
    · intro _
      simp only [Bool.false_eq_true, if_false, start_vendor, and_self]
  · obtain ⟨hsame, next, hnext, hsaved⟩ := svmUpdate_spec (hok hsoft)
    rw [start_vendor] at hsaved
    refine ⟨hok hsoft, hsame, fun _ => ⟨next, hnext, hsaved⟩, ?_⟩
    intro h
    cases hsoft.symm.trans h

/-- The field that `svm_inject_exception` writes. -/
theorem svmExceptionInfo (ex : QueuedException) :
    ex.vector.zeroExtend 32 ||| evtinjValid ||| (if ex.hasErrorCode then evtinjValidErr else 0) |||
      evtinjTypeExept = (MarkedEvent.exception ex.vector ex.code).svmInfo := by
  cases herror : ex.hasErrorCode <;>
    simp [QueuedException.code, herror, MarkedEvent.svmInfo, eventInfo, MarkedEvent.vector,
      MarkedEvent.svmType, MarkedEvent.errorCode, BitVec.or_assoc, evtinjValid, intrInfoValid,
      evtinjValidErr, intrInfoDeliverCode]

/-- Writing the event keeps what is prepared. -/
theorem SvmPrepared.write {decode : SvmEmulator I M} {e : MarkedEvent}
    {s : EventState (Platform SvmEvents I M)} {svm : SvmEvents} (h : SvmPrepared decode e s svm)
    (info code : BitVec 32) :
    SvmPrepared decode e s { svm with eventInj := info, eventInjErr := code } := by
  refine ⟨fun hsoft => ?_, h.hard⟩
  obtain ⟨next, hnext, hsaved⟩ := h.soft hsoft
  exact ⟨next, hnext, hsaved.injected, hsaved.csbase, hsaved.oldRip, hsaved.nextRip, hsaved.rip,
    hsaved.nrips, hsaved.csBase⟩

theorem svmInjectException_programs {decode : SvmEmulator I M} {vector : BitVec 8}
    {errorCode : Option (BitVec 32)} {s : EventState (Platform SvmEvents I M)}
    (he : markedEvents s = [.exception vector errorCode])
    (hok : SvmInjects decode (.exception vector errorCode) s) :
    SvmProgrammed decode (.exception vector errorCode) s
      (svmInjectException decode s).vendor.state := by
  obtain ⟨hvector, hcode⟩ := markedEvents_exception he
  obtain ⟨hresult, hsame, hprepared⟩ := svmPrepare_spec hok
  have hsoft : exceptionIsSoft (deliverExceptionPayload s).exception.vector =
      (MarkedEvent.exception vector errorCode).soft := by
    rw [deliver_vector, hvector]
    rfl
  unfold svmInjectException
  dsimp only
  rw [hsoft]
  dsimp only [MarkedEvent.start] at hresult hsame hprepared
  generalize (if (MarkedEvent.exception vector errorCode).soft = true then
    svmUpdateSoftInterruptRip decode (deliverExceptionPayload s)
      else (true, deliverExceptionPayload s)) = r at hresult hsame hprepared ⊢
  rw [if_pos hresult]
  have hv : r.2.exception.vector = vector := by rw [hsame.vector, deliver_vector, hvector]
  have hc : r.2.exception.code = errorCode := by rw [hsame.code, deliver_code, hcode]
  refine ⟨hprepared.write _ _, ?_, ?_⟩
  · refine Eq.trans (svmExceptionInfo r.2.exception) ?_
    rw [hv, hc]
  · intro code h
    exact (QueuedException.code_eq_some (hc.trans h)).2

theorem svmInjectIrq_programs {decode : SvmEmulator I M} {nr : BitVec 8} {soft : Bool}
    {s : EventState (Platform SvmEvents I M)} (he : markedEvents s = [.interrupt nr soft])
    (hok : SvmInjects decode (.interrupt nr soft) s) :
    SvmProgrammed decode (.interrupt nr soft) s (svmInjectIrq decode s).vendor.state := by
  obtain ⟨hnr, hinterrupt⟩ := markedEvents_interrupt he
  obtain ⟨hresult, hsame, hprepared⟩ := svmPrepare_spec hok
  have hsoft : s.interrupt.soft = (MarkedEvent.interrupt nr soft).soft := hinterrupt
  unfold svmInjectIrq
  dsimp only
  rw [hsoft]
  dsimp only [MarkedEvent.start, id] at hresult hsame hprepared
  generalize (if (MarkedEvent.interrupt nr soft).soft = true then
    svmUpdateSoftInterruptRip decode s else (true, s)) = r at hresult hsame hprepared ⊢
  rw [if_pos hresult]
  refine ⟨hprepared.write _ r.2.vendor.state.eventInjErr, ?_, ?_⟩
  · simp only [EventState.mapState, hsame.interrupt, hnr]
    simp [MarkedEvent.svmInfo, eventInfo, MarkedEvent.vector, MarkedEvent.svmType,
      MarkedEvent.errorCode, MarkedEvent.soft, BitVec.or_assoc, evtinjValid, intrInfoValid]
    rfl
  · simp [MarkedEvent.errorCode]

theorem svmInjectNmi_programs (decode : SvmEmulator I M)
    (s : EventState (Platform SvmEvents I M)) :
    SvmProgrammed decode .nmi s (svmInjectNmi s.vendor.state) := by
  have hinfo : evtinjValid ||| evtinjTypeNmi = MarkedEvent.nmi.svmInfo := by decide
  unfold svmInjectNmi svmSetIretIntercept
  dsimp only
  split
  · exact ⟨⟨nofun, fun _ => ⟨rfl, rfl, rfl, rfl, rfl, rfl, rfl⟩⟩, hinfo, nofun⟩
  · split
    · exact ⟨⟨nofun, fun _ => ⟨rfl, rfl, rfl, rfl, rfl, rfl, rfl⟩⟩, hinfo, nofun⟩
    · exact ⟨⟨nofun, fun _ => ⟨rfl, rfl, rfl, rfl, rfl, rfl, rfl⟩⟩, hinfo, nofun⟩

theorem svmInject_programs {decode : SvmEmulator I M} {e : MarkedEvent}
    {s : EventState (Platform SvmEvents I M)} (he : markedEvents s = [e])
    (hok : SvmInjects decode e s) :
    SvmProgrammed decode e s (svmInject decode e s).vendor.state := by
  cases e with
  | exception vector errorCode => exact svmInjectException_programs he hok
  | nmi => exact svmInjectNmi_programs decode s
  | interrupt nr soft => exact svmInjectIrq_programs he hok

/-! ### Reading back -/

/-- RIP behind `svm_complete_soft_interrupt`. -/
def svmUnwoundRip (x : SvmExitInfo) (type : BitVec 32) (svm : SvmEvents) : BitVec 64 :=
  if svm.nrips = false ∧ (type = evtinjTypeSoft ∨ type = evtinjTypeExept) ∧
      x.linearRip svm.csBase svm.rip = svm.softIntNextRip + svm.softIntCsbase then
    svm.softIntOldRip
  else svm.rip

theorem svmCompleteSoftInterrupt_spec (x : SvmExitInfo) (vector : BitVec 8) (type : BitVec 32)
    (svm : SvmEvents) :
    (svmCompleteSoftInterrupt x vector type svm).rip = svmUnwoundRip x type svm ∧
      (svmCompleteSoftInterrupt x vector type svm).eventInj = svm.eventInj := by
  unfold svmCompleteSoftInterrupt svmUnwoundRip
  dsimp only
  cases hnrips : svm.nrips
  · simp only [Bool.false_eq_true, false_and, if_false, not_false_eq_true, true_and]
    split <;> exact ⟨rfl, rfl⟩
  · simp only [true_and, not_true_eq_false, false_and, if_false, Bool.true_eq_false]
    split <;> exact ⟨rfl, rfl⟩

theorem svmRequeue_event {x : SvmExitInfo} {e : MarkedEvent} (hinfo : x.exitIntInfo = e.svmInfo)
    (hvc : ∀ errorCode, e ≠ .exception vcVector errorCode) (nmiL1ToL2 : Bool)
    (s : EventState (Platform SvmEvents I M)) : ∃ f : SvmEvents → SvmEvents,
    (∀ svm, (f svm).rip = svm.rip ∧ (f svm).eventInj = svm.eventInj) ∧
      svmRequeueEvent x nmiL1ToL2 s = markEvent (s.mapState f) (e.recode x.exitIntInfoErr) := by
  have hvector := eventInfo_vector (e.vector 0) e.errorCode.isSome e.svmType_mem
  have htype := eventInfo_type (e.vector 0) e.errorCode.isSome e.svmType_mem
  have hcode := eventInfo_code (e.vector 0) e.errorCode.isSome e.svmType_mem
  have hmask : exitintinfoTypeMask = vectoringInfoTypeMask := rfl
  have herr : evtinjValidErr = intrInfoDeliverCode := rfl
  unfold svmRequeueEvent
  rw [hinfo, hmask, herr]
  unfold MarkedEvent.svmInfo
  simp only [exitintinfoVecMask, hvector, htype, hcode]
  rcases e with ⟨vector, errorCode⟩ | _ | ⟨nr, _ | _⟩
  · have hne : vector ≠ vcVector := fun h => hvc errorCode (h ▸ rfl)
    refine ⟨id, fun _ => ⟨rfl, rfl⟩, ?_⟩
    cases errorCode <;>
      simp +decide only [MarkedEvent.svmType, MarkedEvent.vector, hne, if_false, if_true] <;> rfl
  · exact ⟨fun svm => { svm with nmiL1ToL2 := nmiL1ToL2 }, fun _ => ⟨rfl, rfl⟩, rfl⟩
  · exact ⟨id, fun _ => ⟨rfl, rfl⟩, rfl⟩
  · exact ⟨id, fun _ => ⟨rfl, rfl⟩, rfl⟩

theorem SvmProgrammed.recode {decode : SvmEmulator I M} {e : MarkedEvent}
    {s : EventState (Platform SvmEvents I M)} {svm : SvmEvents} (h : SvmProgrammed decode e s svm) :
    e.recode svm.eventInjErr = e := by
  rcases e with ⟨vector, _ | errorCode⟩ | _ | ⟨nr, soft⟩
  · rfl
  · simp [MarkedEvent.recode, h.code errorCode rfl]
  · rfl
  · rfl

/-- What the unwinding of RIP looks at is the same. -/
structure SameRip (svm svm' : SvmEvents) : Prop where
  rip : svm'.rip = svm.rip
  eventInj : svm'.eventInj = svm.eventInj
  nrips : svm'.nrips = svm.nrips
  csBase : svm'.csBase = svm.csBase
  softIntCsbase : svm'.softIntCsbase = svm.softIntCsbase
  softIntOldRip : svm'.softIntOldRip = svm.softIntOldRip
  softIntNextRip : svm'.softIntNextRip = svm.softIntNextRip

theorem SameRip.unwound {svm svm' : SvmEvents} (h : SameRip svm svm') (x : SvmExitInfo)
    (type : BitVec 32) : svmUnwoundRip x type svm' = svmUnwoundRip x type svm := by
  simp only [svmUnwoundRip, h.rip, h.nrips, h.csBase, h.softIntCsbase, h.softIntOldRip,
    h.softIntNextRip]

theorem svmAllowNmi_sameRip (x : SvmExitInfo) (s : EventState (Platform SvmEvents I M)) :
    SameRip s.vendor.state (svmAllowNmi x s).vendor.state := by
  unfold svmAllowNmi
  split
  · exact ⟨rfl, rfl, rfl, rfl, rfl, rfl, rfl⟩
  · exact ⟨rfl, rfl, rfl, rfl, rfl, rfl, rfl⟩

theorem svmComplete_event {x : SvmExitInfo} {e : MarkedEvent} (hinfo : x.exitIntInfo = e.svmInfo)
    (hvc : ∀ errorCode, e ≠ .exception vcVector errorCode)
    (s : EventState (Platform SvmEvents I M)) :
    markedEvents (svmCompleteInterrupts x s) = [e.recode x.exitIntInfoErr] ∧
      (svmCompleteInterrupts x s).vendor.state.eventInj = s.vendor.state.eventInj ∧
      (svmCompleteInterrupts x s).vendor.state.rip =
        if s.vendor.state.softIntInjected then svmUnwoundRip x e.svmType s.vendor.state
        else s.vendor.state.rip := by
  have hvalid : ¬ x.exitIntInfo &&& evtinjValid = 0 := by
    rw [hinfo]
    exact eventInfo_valid (e.vector 0) e.errorCode.isSome e.svmType_mem
  have htype : x.exitIntInfo &&& exitintinfoTypeMask = e.svmType := by
    rw [hinfo]
    exact eventInfo_type (e.vector 0) e.errorCode.isSome e.svmType_mem
  unfold svmCompleteInterrupts
  dsimp only
  rw [if_neg hvalid, htype]
  have hallow : SameRip s.vendor.state (svmAllowNmi x (s.mapState fun svm =>
      { svm with nmiL1ToL2 := false, softIntInjected := false })).vendor.state := by
    obtain ⟨h1, h2, h3, h4, h5, h6, h7⟩ := svmAllowNmi_sameRip x (s.mapState fun svm =>
      { svm with nmiL1ToL2 := false, softIntInjected := false })
    exact ⟨h1, h2, h3, h4, h5, h6, h7⟩
  generalize svmAllowNmi x (s.mapState fun svm =>
    { svm with nmiL1ToL2 := false, softIntInjected := false }) = t at hallow ⊢
  cases hsoft : s.vendor.state.softIntInjected
  · simp only [Bool.false_eq_true, if_false]
    obtain ⟨f, hf, hrequeue⟩ := svmRequeue_event hinfo hvc s.vendor.state.nmiL1ToL2
      (makeEventRequest (clearEvents t))
    have hnothing : NothingMarked ((makeEventRequest (clearEvents t)).mapState f) :=
      ⟨rfl, rfl, rfl, rfl⟩
    have hstate := congrArg Platform.state (vendor_markEvent hnothing (e.recode x.exitIntInfoErr))
    rw [hrequeue]
    refine ⟨markedEvents_markEvent hnothing _, ?_, ?_⟩
    · rw [hstate]
      exact (hf _).2.trans hallow.eventInj
    · rw [hstate]
      exact (hf _).1.trans hallow.rip
  · simp only [if_true]
    obtain ⟨f, hf, hrequeue⟩ := svmRequeue_event hinfo hvc s.vendor.state.nmiL1ToL2
      ((makeEventRequest (clearEvents t)).mapState
        (svmCompleteSoftInterrupt x ((x.exitIntInfo &&& exitintinfoVecMask).truncate 8) e.svmType))
    have hnothing : NothingMarked (((makeEventRequest (clearEvents t)).mapState
        (svmCompleteSoftInterrupt x ((x.exitIntInfo &&& exitintinfoVecMask).truncate 8)
          e.svmType)).mapState f) := ⟨rfl, rfl, rfl, rfl⟩
    have hstate := congrArg Platform.state (vendor_markEvent hnothing (e.recode x.exitIntInfoErr))
    obtain ⟨hrip, hinj⟩ := svmCompleteSoftInterrupt_spec x
      ((x.exitIntInfo &&& exitintinfoVecMask).truncate 8) e.svmType t.vendor.state
    rw [hrequeue]
    refine ⟨markedEvents_markEvent hnothing _, ?_, ?_⟩
    · rw [hstate]
      exact (hf _).2.trans (hinj.trans hallow.eventInj)
    · rw [hstate]
      exact (hf _).1.trans (hrip.trans (hallow.unwound x _))

/-- What `svm_cancel_injection` leaves behind the inject callback. -/
structure SvmUndone (x : SvmExitInfo) (e : MarkedEvent) (t : EventState (Platform SvmEvents I M)) :
    Prop where
  event : markedEvents (svmCancelInjection x t) = [e]
  empty : (svmCancelInjection x t).vendor.state.eventInj = 0
  rip : (svmCancelInjection x t).vendor.state.rip =
    if t.vendor.state.softIntInjected then svmUnwoundRip x e.svmType t.vendor.state
    else t.vendor.state.rip

theorem svmCancel_undoes {decode : SvmEmulator I M} {x : SvmExitInfo} {e : MarkedEvent}
    {s t : EventState (Platform SvmEvents I M)} (h : SvmProgrammed decode e s t.vendor.state)
    (hvc : ∀ errorCode, e ≠ .exception vcVector errorCode) : SvmUndone x e t := by
  obtain ⟨hevent, hempty, hrip⟩ := svmComplete_event
    (x := { x with
      exitIntInfo := t.vendor.state.eventInj
      exitIntInfoErr := t.vendor.state.eventInjErr }) h.info hvc
    (t.mapState fun svm => { svm with eventInj := 0 })
  exact ⟨hevent.trans (by rw [h.recode]), hempty, hrip⟩

/-! ## Unwinding RIP -/

/-- A sum of 64 bits is its own lower half if it does not leave 32 bits. -/
theorem and_mask32_eq_iff (a : BitVec 64) : a &&& mask32 = a ↔ a.toNat < 2 ^ 32 := by
  have hmod : (a &&& mask32).toNat = a.toNat % 2 ^ 32 := by
    rw [BitVec.toNat_and]
    exact Nat.and_two_pow_sub_one_eq_mod a.toNat 32
  rw [← BitVec.toNat_inj, hmod]
  constructor
  · intro h
    rw [← h]
    exact Nat.mod_lt _ (by decide)
  · exact Nat.mod_eq_of_lt

theorem linearRip_eq_sum (x : SvmExitInfo) (csBase rip : BitVec 64) :
    x.linearRip csBase rip = rip + csBase ↔ x.LinearIsSum csBase rip := by
  unfold SvmExitInfo.linearRip SvmExitInfo.LinearIsSum
  cases x.guestStateProtected
  · cases x.is64BitMode
    · simp only [Bool.false_eq_true, if_false]
      rw [BitVec.add_comm csBase rip]
      exact and_mask32_eq_iff (rip + csBase)
    · simp only [Bool.false_eq_true, if_false, if_true]
      bv_omega
  · simp only [if_true]
    exact eq_comm

theorem MarkedEvent.svmType_soft {e : MarkedEvent} (h : e.soft = true) :
    e.svmType = evtinjTypeSoft ∨ e.svmType = evtinjTypeExept := by
  rcases e with ⟨vector, errorCode⟩ | _ | ⟨nr, soft⟩
  · exact .inr rfl
  · cases h
  · exact .inl (if_pos h)

theorem MarkedEvent.svmType_hard {e : MarkedEvent} (h : e.soft = false) :
    e.svmType ≠ evtinjTypeSoft := by
  rcases e with ⟨vector, errorCode⟩ | _ | ⟨nr, soft⟩
  · exact (by decide : evtinjTypeExept ≠ evtinjTypeSoft)
  · decide
  · have hsoft : soft = false := h
    subst hsoft
    exact (by decide : evtinjTypeIntr ≠ evtinjTypeSoft)

/-- RIP is the old one again where it is unwound. -/
theorem svmRip_iff {decode : SvmEmulator I M} {x : SvmExitInfo} {e : MarkedEvent}
    {s : EventState (Platform SvmEvents I M)} {svm : SvmEvents} (h : SvmPrepared decode e s svm) :
    (if svm.softIntInjected then svmUnwoundRip x e.svmType svm else svm.rip) = s.vendor.state.rip ↔
      RipUnwound decode x e s := by
  unfold RipUnwound
  dsimp only
  cases hsoft : e.soft
  · obtain ⟨hrip, hnrips, hcs, hinjected, hcsbase, hold, hnext⟩ := h.hard hsoft
    have htype := MarkedEvent.svmType_hard hsoft
    simp only [svmUnwoundRip, hrip, hnrips, hcs, hinjected, hcsbase, hold, hnext, htype, false_or,
      Bool.false_eq_true, if_false]
    cases s.vendor.state.nrips
    · cases s.vendor.state.softIntInjected
      · simp
      · simp only [if_true, true_and, Bool.false_eq_true, false_or, true_implies]
        split
        · rename_i hmatch
          simp [hmatch.1, hmatch.2]
        · rename_i hmatch
          simp only [true_iff]
          exact fun hexept hlinear => absurd ⟨hexept, hlinear⟩ hmatch
    · simp
  · obtain ⟨next, hnext, hsaved⟩ := h.soft hsoft
    have htype := MarkedEvent.svmType_soft hsoft
    simp only [svmUnwoundRip, hsaved.injected, hsaved.nrips, hsaved.csBase, hsaved.csbase,
      hsaved.oldRip, hsaved.nextRip, hsaved.rip, htype, hnext, if_true, true_and]
    cases s.vendor.state.nrips
    · simp only [Bool.false_eq_true, if_false, true_and, false_or, Option.some.injEq, forall_eq']
      split
      · rename_i hlinear
        simp [(linearRip_eq_sum x _ next).1 hlinear]
      · rename_i hlinear
        simp [mt (linearRip_eq_sum x _ next).2 hlinear]
    · simp

theorem svmInject_code {decode : SvmEmulator I M} {e : MarkedEvent}
    {s : EventState (Platform SvmEvents I M)} {svm : SvmEvents}
    (h : SvmProgrammed decode e s svm) : svm.injEvent = (e.svmInfo, e.errorCode) := by
  have hcode : e.svmInfo &&& evtinjValidErr ≠ 0 ↔ e.errorCode.isSome = true :=
    eventInfo_code (e.vector 0) _ e.svmType_mem
  unfold SvmEvents.injEvent
  simp only [h.info, hcode, Prod.mk.injEq, true_and]
  cases herror : e.errorCode with
  | none => rfl
  | some code => simp [h.code code herror]

theorem svmCancelled_iff {decode : SvmEmulator I M} {x : SvmExitInfo} {e : MarkedEvent}
    {s : EventState (Platform SvmEvents I M)} (he : markedEvents s = [e])
    (hvc : ∀ errorCode, e ≠ .exception vcVector errorCode) (hok : SvmInjects decode e s) :
    SvmCancelled decode x e s ↔ RipUnwound decode x e s := by
  have hp := svmInject_programs he hok
  have hundone := svmCancel_undoes (x := x) hp hvc
  rw [← svmRip_iff hp.toSvmPrepared, ← hundone.rip]
  refine ⟨SvmCancelled.rip, fun hrip => ⟨hundone.event, hrip, hundone.empty, ?_⟩⟩
  intro decode' hagain
  rw [svmInject_code (svmInject_programs hundone.event hagain), svmInject_code hp]

/-! ## The result -/

/-- **VMX undoes every injection, and SVM those whose RIP is unwound**: with one event marked,
outside VM86 emulation on VMX, and on SVM but for a #VC and where the callback succeeds. -/
theorem cancelInjection_right_iff {int : VmxEmulator I M} {e : MarkedEvent}
    {s : EventState (Platform VmxEvents I M)} (hvm86 : s.vendor.state.vm86Active = false)
    (hs : markedEvents s = [e]) {decode : SvmEmulator I M} {x : SvmExitInfo} {e' : MarkedEvent}
    {t : EventState (Platform SvmEvents I M)} (ht : markedEvents t = [e'])
    (hvc : ∀ errorCode, e' ≠ .exception vcVector errorCode) (hok : SvmInjects decode e' t) :
    VmxCancelled int e s ∧ (SvmCancelled decode x e' t ↔ RipUnwound decode x e' t) :=
  ⟨vmxCancelled int hvm86 hs, svmCancelled_iff ht hvc hok⟩

/-- An INT3 at RIP, and the emulator that finds its end. -/
def int3At (csBase rip : BitVec 64) : EventState (Platform SvmEvents Unit Unit) where
  vendor := ⟨{ rip, csBase, nrips := false, hostNrips := false }, (), ()⟩
  exception := { injected := true, vector := bpVector }

def int3Emulator : SvmEmulator Unit Unit := fun s => some (s.vendor.state.rip + 1, false)

/-- A 32-bit guest. -/
def exit32 : SvmExitInfo where
  is64BitMode := false

theorem int3_ne_vc (errorCode : Option (BitVec 32)) :
    MarkedEvent.exception bpVector none ≠ .exception vcVector errorCode := by
  intro h
  exact absurd (MarkedEvent.exception.inj h).1 (by decide)

theorem cancelInjection_right_iff_int3 :
    VmxCancelled (fun _ _ _ => none) (.exception bpVector none)
      { vendor := ⟨{ rip := 0x1000, eventExitInstLen := 1 }, (), ()⟩
        exception := { injected := true, vector := bpVector } } ∧
    (SvmCancelled int3Emulator exit32 (.exception bpVector none) (int3At 0 0xc0100000) ↔
      RipUnwound int3Emulator exit32 (.exception bpVector none) (int3At 0 0xc0100000)) :=
  cancelInjection_right_iff rfl rfl rfl int3_ne_vc fun _ => rfl

/-- The CS base takes the linear address of the INT3 around 2^32: RIP stays behind it. -/
theorem ripNotUnwound :
    markedEvents (int3At 0x40000000 0xc0100000) = [.exception bpVector none] ∧
      SvmInjects int3Emulator (.exception bpVector none) (int3At 0x40000000 0xc0100000) ∧
      ¬ SvmCancelled int3Emulator exit32 (.exception bpVector none)
        (int3At 0x40000000 0xc0100000) := by
  refine ⟨rfl, fun _ => rfl, fun h => ?_⟩
  have hrip : (0xc0100001 : BitVec 64) = 0xc0100000 := h.rip
  exact absurd hrip (by decide)

end Kvm
