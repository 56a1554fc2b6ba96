import PveAntiDetection.Kvm.MarkedEvents

/-!
# Cancelling an injection on VMX

`vmx_cancel_injection` behind the inject callbacks, outside guest mode and VM86 emulation.  It reads
the field for VM entry with the function that reads IDT-vectoring information on a VM exit.

* `vmxCompleteInterrupts`, `vmxCancelInjection`;
* `VmxCancelled` — what undoing an injection means;
* `VmxProgrammed` — what the inject callbacks leave in the VMCS; `vmxInject_programs`;
* `vmxComplete_event` — what is read back;
* `vmxCancelled` — every injection is undone.
-/

set_option autoImplicit false

namespace Kvm

variable {I M : Type}

/-- `__vmx_complete_interrupts`, with the fields it reads the instruction length and the error code
from. -/
def vmxCompleteInterrupts (idtVectoringInfo : BitVec 32)
    (instrLenField errorCodeField : VmxEvents → BitVec 32)
    (s : EventState (Platform VmxEvents I M)) : EventState (Platform VmxEvents I M) :=
  let s := clearEvents s
  if idtVectoringInfo &&& intrInfoValid = 0 then s
  else
    let s := makeEventRequest s
    let vector := (idtVectoringInfo &&& vectoringInfoVectorMask).truncate 8
    let type := idtVectoringInfo &&& vectoringInfoTypeMask
    let takeLength (s : EventState (Platform VmxEvents I M)) :=
      s.mapState fun vmx => { vmx with eventExitInstLen := instrLenField vmx }
    let requeue (s : EventState (Platform VmxEvents I M)) :=
      if idtVectoringInfo &&& intrInfoDeliverCode ≠ 0 then
        kvmRequeueExceptionE s vector (errorCodeField s.vendor.state)
      else kvmRequeueException s vector
    if type = intrTypeNmiIntr then
      -- "block by NMI" is cleared before VM entry if the delivery of an NMI faulted
      { s with nmiInjected := true }.mapState fun vmx => vmxSetNmiMask vmx false
    else if type = intrTypeSoftException then requeue (takeLength s)
    else if type = intrTypeHardException then requeue s
    else if type = intrTypeSoftIntr then kvmQueueInterrupt (takeLength s) vector true
    else if type = intrTypeExtIntr then kvmQueueInterrupt s vector false
    else s

/-- `vmx_cancel_injection`. -/
def vmxCancelInjection (s : EventState (Platform VmxEvents I M)) :
    EventState (Platform VmxEvents I M) :=
  (vmxCompleteInterrupts s.vendor.state.entryIntrInfo VmxEvents.entryInstructionLen
    VmxEvents.entryErrorCode s).mapState fun vmx => { vmx with entryIntrInfo := 0 }

/-- The inject callback of VMX for this event. -/
def vmxInject (int : VmxEmulator I M) : MarkedEvent → EventState (Platform VmxEvents I M) →
    EventState (Platform VmxEvents I M)
  | .exception _ _ => vmxInjectException int
  | .nmi => vmxInjectNmi int
  | .interrupt _ _ => vmxInjectIrq int

/-- What VM entry injects: the event, its error code if it delivers one, and the length of the
instruction if it is a soft one. -/
def VmxEvents.entryEvent (vmx : VmxEvents) :
    BitVec 32 × Option (BitVec 32) × Option (BitVec 32) :=
  let type := vmx.entryIntrInfo &&& vectoringInfoTypeMask
  (vmx.entryIntrInfo,
    if vmx.entryIntrInfo &&& intrInfoDeliverCode ≠ 0 then some vmx.entryErrorCode else none,
    if type = intrTypeSoftException ∨ type = intrTypeSoftIntr then some vmx.entryInstructionLen
    else none)

/-- The injection of `e` into `s` is undone: the event is marked as before, the length of its
instruction and RIP are the old ones, the field is empty, and injecting again programs the same. -/
structure VmxCancelled (int : VmxEmulator I M) (e : MarkedEvent)
    (s : EventState (Platform VmxEvents I M)) : Prop where
  event : (markedEvents (vmxCancelInjection (vmxInject int e s))).map MarkedEvent.low = [e.low]
  length : (vmxCancelInjection (vmxInject int e s)).vendor.state.eventExitInstLen =
    s.vendor.state.eventExitInstLen
  rip : (vmxCancelInjection (vmxInject int e s)).vendor.state.rip = s.vendor.state.rip
  empty : (vmxCancelInjection (vmxInject int e s)).vendor.state.entryIntrInfo = 0
  again : (vmxInject int e (vmxCancelInjection (vmxInject int e s))).vendor.state.entryEvent =
    (vmxInject int e s).vendor.state.entryEvent

/-! ## Programming an event -/

def MarkedEvent.vmxType : MarkedEvent → BitVec 32
  | .exception vector _ =>
    if exceptionIsSoft vector then intrTypeSoftException else intrTypeHardException
  | .nmi => intrTypeNmiIntr
  | .interrupt _ soft => if soft then intrTypeSoftIntr else intrTypeExtIntr

def MarkedEvent.vmxInfo (e : MarkedEvent) : BitVec 32 :=
  eventInfo (e.vector nmiVector) e.errorCode.isSome e.vmxType

theorem MarkedEvent.vmxType_mem (e : MarkedEvent) : e.vmxType ∈ injectedTypes := by
  rcases e with ⟨vector, errorCode⟩ | _ | ⟨nr, soft⟩
  · simp only [vmxType]
    split <;> simp [injectedTypes]
  · simp [vmxType, injectedTypes]
  · simp only [vmxType]
    split <;> simp [injectedTypes]

/-- What the inject callback of VMX leaves in the VMCS. -/
structure VmxProgrammed (e : MarkedEvent) (vmx vmx' : VmxEvents) : Prop where
  info : vmx'.entryIntrInfo = e.vmxInfo
  code : ∀ code, e.errorCode = some code → vmx'.entryErrorCode = code &&& 0xffff
  instructionLen : e.soft = true → vmx'.entryInstructionLen = vmx.eventExitInstLen
  exitInstLen : vmx'.eventExitInstLen = vmx.eventExitInstLen
  rip : vmx'.rip = vmx.rip
  vm86 : vmx'.vm86Active = vmx.vm86Active

theorem vmxClearHlt_eq (vmx : VmxEvents) :
    ∃ activity, vmxClearHlt vmx = { vmx with activityHlt := activity } := by
  unfold vmxClearHlt
  split
  · exact ⟨false, rfl⟩
  · exact ⟨vmx.activityHlt, rfl⟩

theorem VmxProgrammed.clearHlt {e : MarkedEvent} {vmx vmx' : VmxEvents}
    (h : VmxProgrammed e vmx vmx') : VmxProgrammed e vmx (vmxClearHlt vmx') := by
  obtain ⟨activity, heq⟩ := vmxClearHlt_eq vmx'
  rw [heq]
  exact ⟨h.info, h.code, h.instructionLen, h.exitInstLen, h.rip, h.vm86⟩

theorem vmxInject_programs (int : VmxEmulator I M) {e : MarkedEvent}
    {s : EventState (Platform VmxEvents I M)} (hvm86 : s.vendor.state.vm86Active = false)
    (he : markedEvents s = [e]) :
    VmxProgrammed e s.vendor.state (vmxInject int e s).vendor.state := by
  rcases e with ⟨vector, errorCode⟩ | _ | ⟨nr, soft⟩
  · obtain ⟨hvector, hcode⟩ := markedEvents_exception he
    simp only [vmxInject, vmxInjectException, EventState.mapState, deliver_vendor, hvm86,
      Bool.false_eq_true, if_false, deliver_vector, deliver_hasErrorCode, deliver_errorCode,
      hvector]
    refine VmxProgrammed.clearHlt ⟨?_, ?_, ?_, rfl, rfl, hvm86.symm⟩
    · cases herror : s.exception.hasErrorCode <;>
        simp [← hcode, QueuedException.code, herror, MarkedEvent.vmxInfo, eventInfo,
          MarkedEvent.vector, MarkedEvent.vmxType, MarkedEvent.errorCode, BitVec.or_assoc]
    · intro code hsome
      obtain ⟨herror, rfl⟩ := QueuedException.code_eq_some (hcode.trans hsome)
      simp only [herror, if_true]
    · intro hsoft
      exact if_pos hsoft
  · have h86 : (false = true) = False := by simp
    simp only [vmxInject, vmxInjectNmi, EventState.mapState, hvm86, Bool.false_eq_true, if_false]
    refine VmxProgrammed.clearHlt ⟨?_, ?_, ?_, rfl, rfl, hvm86.symm⟩
    · exact (by decide : intrTypeNmiIntr ||| intrInfoValid ||| nmiVector.zeroExtend 32 =
        MarkedEvent.nmi.vmxInfo)
    · simp [MarkedEvent.errorCode]
    · simp [MarkedEvent.soft]
  · obtain ⟨hnr, hsoft⟩ := markedEvents_interrupt he
    simp only [vmxInject, vmxInjectIrq, EventState.mapState, hvm86, Bool.false_eq_true, if_false,
      hnr, hsoft]
    refine VmxProgrammed.clearHlt ⟨?_, ?_, ?_, rfl, rfl, hvm86.symm⟩
    · simp [MarkedEvent.vmxInfo, eventInfo, MarkedEvent.vector, MarkedEvent.vmxType,
        MarkedEvent.errorCode, BitVec.or_assoc]
    · simp [MarkedEvent.errorCode]
    · simp +contextual [MarkedEvent.soft]

/-! ## Reading it back -/

/-- What VMX does to its own state when it reads an event back. -/
def vmxReadBack (e : MarkedEvent) (instrLenField : VmxEvents → BitVec 32) (vmx : VmxEvents) :
    VmxEvents :=
  if e = .nmi then vmxSetNmiMask vmx false
  else if e.soft then { vmx with eventExitInstLen := instrLenField vmx }
  else vmx

theorem vmxReadBack_hard {e : MarkedEvent} (hnmi : e ≠ .nmi) (hsoft : e.soft = false)
    (f : VmxEvents → BitVec 32) : vmxReadBack e f = id := by
  funext vmx
  simp [vmxReadBack, hnmi, hsoft]

theorem vmxReadBack_soft {e : MarkedEvent} (hnmi : e ≠ .nmi) (hsoft : e.soft = true)
    (f : VmxEvents → BitVec 32) :
    vmxReadBack e f = fun vmx => { vmx with eventExitInstLen := f vmx } := by
  funext vmx
  simp [vmxReadBack, hnmi, hsoft]

theorem vmxComplete_event (e : MarkedEvent) (instrLenField : VmxEvents → BitVec 32)
    (s : EventState (Platform VmxEvents I M)) :
    vmxCompleteInterrupts e.vmxInfo instrLenField VmxEvents.entryErrorCode s =
      markEvent ((makeEventRequest (clearEvents s)).mapState (vmxReadBack e instrLenField))
        (e.recode s.vendor.state.entryErrorCode) := by
  have hvector := eventInfo_vector (e.vector nmiVector) e.errorCode.isSome e.vmxType_mem
  have htype := eventInfo_type (e.vector nmiVector) e.errorCode.isSome e.vmxType_mem
  have hcode := eventInfo_code (e.vector nmiVector) e.errorCode.isSome e.vmxType_mem
  have hvalid := eventInfo_valid (e.vector nmiVector) e.errorCode.isSome e.vmxType_mem
  unfold vmxCompleteInterrupts MarkedEvent.vmxInfo
  simp only [hvector, htype, hcode, hvalid, vectoringInfoVectorMask, if_false]
  clear hvector htype hcode hvalid
  rcases e with ⟨vector, errorCode⟩ | _ | ⟨nr, _ | _⟩
  · cases hsoft : exceptionIsSoft vector
    · rw [vmxReadBack_hard (e := .exception vector errorCode) (by simp) hsoft]
      cases errorCode <;>
        simp +decide only [MarkedEvent.vmxType, hsoft, if_false, if_true] <;> rfl
    · rw [vmxReadBack_soft (e := .exception vector errorCode) (by simp) hsoft]
      cases errorCode <;>
        simp +decide only [MarkedEvent.vmxType, hsoft, if_false, if_true] <;> rfl
  · rfl
  · rfl
  · rfl

/-- The event as the CPU takes it. -/
structure VmxUndone (e : MarkedEvent) (s t : EventState (Platform VmxEvents I M)) : Prop where
  event : markedEvents t = [e.low]
  length : t.vendor.state.eventExitInstLen = s.vendor.state.eventExitInstLen
  rip : t.vendor.state.rip = s.vendor.state.rip
  empty : t.vendor.state.entryIntrInfo = 0
  vm86 : t.vendor.state.vm86Active = s.vendor.state.vm86Active

theorem VmxProgrammed.recode {e : MarkedEvent} {vmx vmx' : VmxEvents}
    (h : VmxProgrammed e vmx vmx') : e.recode vmx'.entryErrorCode = e.low := by
  rcases e with ⟨vector, _ | errorCode⟩ | _ | ⟨nr, soft⟩
  · rfl
  · simp [MarkedEvent.recode, MarkedEvent.low, h.code errorCode rfl]
  · rfl
  · rfl

theorem vmxReadBack_spec (e : MarkedEvent) (f : VmxEvents → BitVec 32) (vmx : VmxEvents) :
    (vmxReadBack e f vmx).rip = vmx.rip ∧ (vmxReadBack e f vmx).vm86Active = vmx.vm86Active ∧
      (vmxReadBack e f vmx).eventExitInstLen = if e.soft then f vmx else vmx.eventExitInstLen := by
  unfold vmxReadBack
  split
  · rename_i hnmi
    unfold vmxSetNmiMask
    split
    · split <;> simp [hnmi, MarkedEvent.soft]
    · simp [hnmi, MarkedEvent.soft]
  · split
    · simp [*]
    · simp [*]

theorem vmxCancel_undoes (int : VmxEmulator I M) {e : MarkedEvent}
    {s : EventState (Platform VmxEvents I M)} (hvm86 : s.vendor.state.vm86Active = false)
    (he : markedEvents s = [e]) : VmxUndone e s (vmxCancelInjection (vmxInject int e s)) := by
  have hp := vmxInject_programs int hvm86 he
  generalize vmxInject int e s = t at hp ⊢
  obtain ⟨hrip, h86, hlen⟩ := vmxReadBack_spec e VmxEvents.entryInstructionLen t.vendor.state
  unfold vmxCancelInjection
  rw [hp.info, vmxComplete_event, hp.recode]
  have hnothing : NothingMarked ((makeEventRequest (clearEvents t)).mapState
      (vmxReadBack e VmxEvents.entryInstructionLen)) := ⟨rfl, rfl, rfl, rfl⟩
  have hmarked := markedEvents_markEvent hnothing e.low
  have hstate := congrArg Platform.state (vendor_markEvent hnothing e.low)
  generalize markEvent _ e.low = u at hmarked hstate ⊢
  have hstate : u.vendor.state = vmxReadBack e VmxEvents.entryInstructionLen t.vendor.state :=
    hstate
  refine ⟨hmarked, ?_, ?_, rfl, ?_⟩
  · change u.vendor.state.eventExitInstLen = _
    rw [hstate, hlen]
    split
    · exact hp.instructionLen ‹_›
    · exact hp.exitInstLen
  · change u.vendor.state.rip = _
    rw [hstate, hrip, hp.rip]
  · change u.vendor.state.vm86Active = _
    rw [hstate, h86, hp.vm86]

theorem MarkedEvent.low_low (e : MarkedEvent) : e.low.low = e.low := by
  rcases e with ⟨vector, _ | errorCode⟩ | _ | ⟨nr, soft⟩
  · rfl
  · simp [MarkedEvent.low, BitVec.and_assoc]
  · rfl
  · rfl

theorem MarkedEvent.low_info (e : MarkedEvent) : e.low.vmxInfo = e.vmxInfo := by
  rcases e with ⟨vector, _ | errorCode⟩ | _ | ⟨nr, soft⟩ <;> rfl

/-- What VM entry injects for an event. -/
def MarkedEvent.entryEvent (e : MarkedEvent) (instructionLen : BitVec 32) :
    BitVec 32 × Option (BitVec 32) × Option (BitVec 32) :=
  (e.vmxInfo, e.low.errorCode, if e.soft then some instructionLen else none)

theorem VmxProgrammed.entryEvent {e : MarkedEvent} {vmx vmx' : VmxEvents}
    (h : VmxProgrammed e vmx vmx') : vmx'.entryEvent = e.entryEvent vmx.eventExitInstLen := by
  have htype : e.vmxInfo &&& vectoringInfoTypeMask = e.vmxType :=
    eventInfo_type (e.vector nmiVector) _ e.vmxType_mem
  have hcode : e.vmxInfo &&& intrInfoDeliverCode ≠ 0 ↔ e.errorCode.isSome = true :=
    eventInfo_code (e.vector nmiVector) _ e.vmxType_mem
  have hsoft : e.vmxType = intrTypeSoftException ∨ e.vmxType = intrTypeSoftIntr ↔
      e.soft = true := by
    rcases e with ⟨vector, errorCode⟩ | _ | ⟨nr, soft⟩
    · simp only [MarkedEvent.vmxType, MarkedEvent.soft]
      cases exceptionIsSoft vector <;> decide
    · decide
    · simp only [MarkedEvent.vmxType, MarkedEvent.soft]
      cases soft <;> decide
  unfold VmxEvents.entryEvent MarkedEvent.entryEvent
  simp only [h.info, htype, hcode, hsoft, Prod.mk.injEq, true_and]
  constructor
  · rcases e with ⟨vector, _ | errorCode⟩ | _ | ⟨nr, soft⟩
    · rfl
    · simp [MarkedEvent.errorCode, MarkedEvent.low, h.code errorCode rfl]
    · rfl
    · rfl
  · split
    · rw [h.instructionLen ‹_›]
    · rfl

theorem vmxInject_low (int : VmxEmulator I M) (e : MarkedEvent) :
    vmxInject int e.low = vmxInject int e := by
  cases e <;> rfl

theorem vmxCancelled (int : VmxEmulator I M) {e : MarkedEvent}
    {s : EventState (Platform VmxEvents I M)} (hvm86 : s.vendor.state.vm86Active = false)
    (he : markedEvents s = [e]) : VmxCancelled int e s := by
  have hundone := vmxCancel_undoes int hvm86 he
  have hfirst := vmxInject_programs int hvm86 he
  have hagain := vmxInject_programs int (hundone.vm86.trans hvm86) hundone.event
  rw [vmxInject_low] at hagain
  refine ⟨?_, hundone.length, hundone.rip, hundone.empty, ?_⟩
  · rw [hundone.event, List.map_singleton, e.low_low]
  · rw [hagain.entryEvent, hfirst.entryEvent, hundone.length]
    simp only [MarkedEvent.entryEvent, e.low_info, e.low_low]
    cases e <;> rfl

end Kvm
