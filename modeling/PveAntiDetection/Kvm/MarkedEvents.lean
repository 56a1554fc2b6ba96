import PveAntiDetection.Kvm.Events

/-!
# Events that are marked for injection

The events of `x86.c` that both vendor modules hand to the CPU, and the field they encode them in,
whose layout VMX and SVM share.

* `MarkedEvent`, `markedEvents` — the events that are marked for injection;
* `markEvent` — marks one, as the decoders of the vendor modules do;
* `markedEvents_markEvent` — it is the only one, where nothing was marked before;
* `eventInfo` — the field of an event, with its vector, its type and its bits read back.
-/

set_option autoImplicit false

namespace Kvm

variable {V : Type}

/-! ## Marked events -/

/-- An event that is marked for injection. -/
inductive MarkedEvent where
  | exception (vector : BitVec 8) (errorCode : Option (BitVec 32))
  | nmi
  | interrupt (nr : BitVec 8) (soft : Bool)
  deriving DecidableEq

/-- The error code of the queued exception, where it has one. -/
def QueuedException.code (ex : QueuedException) : Option (BitVec 32) :=
  if ex.hasErrorCode then some ex.errorCode else none

/-- The events that are marked for injection: `exception.injected`, `nmi_injected` and
`interrupt.injected`. -/
def markedEvents (s : EventState V) : List MarkedEvent :=
  (if s.exception.injected then [.exception s.exception.vector s.exception.code] else []) ++
  (if s.nmiInjected then [.nmi] else []) ++
  (if s.interrupt.injected then [.interrupt s.interrupt.nr s.interrupt.soft] else [])

/-- The CPU takes the lower half of an error code on VMX. -/
def MarkedEvent.low : MarkedEvent → MarkedEvent
  | .exception vector errorCode => .exception vector (errorCode.map (· &&& 0xffff))
  | e => e

/-- INT3 and INTO, and software interrupts. -/
def MarkedEvent.soft : MarkedEvent → Bool
  | .exception vector _ => exceptionIsSoft vector
  | .nmi => false
  | .interrupt _ soft => soft

/-- `kvm_clear_interrupt_queue`. -/
def kvmClearInterruptQueue (s : EventState V) : EventState V :=
  { s with interrupt := { s.interrupt with injected := false } }

/-- Where both `complete_interrupts` begin. -/
def clearEvents (s : EventState V) : EventState V :=
  kvmClearInterruptQueue (kvmClearExceptionQueue { s with nmiInjected := false })

/-- `kvm_make_request(KVM_REQ_EVENT, vcpu)`. -/
def makeEventRequest (s : EventState V) : EventState V :=
  { s with requests := { s.requests with event := true } }

/-- The vector of an event, and what stands for it with an NMI. -/
def MarkedEvent.vector (nmi : BitVec 8) : MarkedEvent → BitVec 8
  | .exception vector _ => vector
  | .nmi => nmi
  | .interrupt nr _ => nr

def MarkedEvent.errorCode : MarkedEvent → Option (BitVec 32)
  | .exception _ errorCode => errorCode
  | _ => none

/-- The event with the error code that is read back. -/
def MarkedEvent.recode (code : BitVec 32) : MarkedEvent → MarkedEvent
  | .exception vector errorCode => .exception vector (errorCode.map fun _ => code)
  | e => e

/-! ## Marking -/

theorem deliver_hasErrorCode (s : EventState V) :
    (deliverExceptionPayload s).exception.hasErrorCode = s.exception.hasErrorCode := by
  unfold deliverExceptionPayload
  split <;> rfl

theorem deliver_errorCode (s : EventState V) :
    (deliverExceptionPayload s).exception.errorCode = s.exception.errorCode := by
  unfold deliverExceptionPayload
  split <;> rfl

theorem QueuedException.code_eq_some {ex : QueuedException} {code : BitVec 32}
    (h : ex.code = some code) : ex.hasErrorCode = true ∧ ex.errorCode = code := by
  unfold QueuedException.code at h
  split at h
  · exact ⟨‹_›, Option.some.inj h⟩
  · cases h

theorem deliver_code (s : EventState V) :
    (deliverExceptionPayload s).exception.code = s.exception.code := by
  unfold deliverExceptionPayload
  split <;> rfl

/-- Marks an event, as the `switch` of both vendor modules does it. -/
def markEvent (s : EventState V) : MarkedEvent → EventState V
  | .exception vector none => kvmRequeueException s vector
  | .exception vector (some errorCode) => kvmRequeueExceptionE s vector errorCode
  | .nmi => { s with nmiInjected := true }
  | .interrupt nr soft => kvmQueueInterrupt s nr soft

structure NothingMarked (s : EventState V) : Prop where
  pending : s.exception.pending = false
  exception : s.exception.injected = false
  nmi : s.nmiInjected = false
  interrupt : s.interrupt.injected = false

theorem markedEvents_requeue {s : EventState V} (hs : NothingMarked s) (vector : BitVec 8)
    (hasError : Bool) (errorCode : BitVec 32) :
    markedEvents (kvmMultipleException s vector hasError errorCode false 0 true) =
      [.exception vector (if hasError then some errorCode else none)] := by
  simp [markedEvents, kvmMultipleException, queueException, deliverExceptionPayload,
    QueuedException.code, hs.pending, hs.exception, hs.nmi, hs.interrupt]

theorem markedEvents_markEvent {s : EventState V} (hs : NothingMarked s) (e : MarkedEvent) :
    markedEvents (markEvent s e) = [e] := by
  rcases e with ⟨vector, _ | errorCode⟩ | _ | ⟨nr, soft⟩
  · exact markedEvents_requeue hs vector false 0
  · exact markedEvents_requeue hs vector true errorCode
  · simp [markedEvents, markEvent, hs.exception, hs.interrupt]
  · simp [markedEvents, markEvent, kvmQueueInterrupt, hs.exception, hs.nmi]

theorem vendor_requeue {s : EventState V} (hs : NothingMarked s) (vector : BitVec 8)
    (hasError : Bool) (errorCode : BitVec 32) :
    (kvmMultipleException s vector hasError errorCode false 0 true).vendor = s.vendor := by
  simp [kvmMultipleException, queueException, deliverExceptionPayload, hs.pending, hs.exception]

theorem vendor_markEvent {s : EventState V} (hs : NothingMarked s) (e : MarkedEvent) :
    (markEvent s e).vendor = s.vendor := by
  rcases e with ⟨vector, _ | errorCode⟩ | _ | ⟨nr, soft⟩
  · exact vendor_requeue hs vector false 0
  · exact vendor_requeue hs vector true errorCode
  · rfl
  · rfl

theorem markedEvents_exception {s : EventState V} {vector : BitVec 8}
    {errorCode : Option (BitVec 32)} (h : markedEvents s = [.exception vector errorCode]) :
    s.exception.vector = vector ∧ s.exception.code = errorCode := by
  have hmem : MarkedEvent.exception vector errorCode ∈ markedEvents s := by simp [h]
  simp only [markedEvents, List.mem_append] at hmem
  rcases hmem with (hmem | hmem) | hmem
  · split at hmem <;> simp_all
  · split at hmem <;> simp at hmem
  · split at hmem <;> simp at hmem

theorem markedEvents_interrupt {s : EventState V} {nr : BitVec 8} {soft : Bool}
    (h : markedEvents s = [.interrupt nr soft]) :
    s.interrupt.nr = nr ∧ s.interrupt.soft = soft := by
  have hmem : MarkedEvent.interrupt nr soft ∈ markedEvents s := by simp [h]
  simp only [markedEvents, List.mem_append] at hmem
  rcases hmem with (hmem | hmem) | hmem
  · split at hmem <;> simp at hmem
  · split at hmem <;> simp at hmem
  · split at hmem <;> simp_all

/-! ## Fields -/

/-- `VECTORING_INFO_VECTOR_MASK`, `VECTORING_INFO_TYPE_MASK`. -/
def vectoringInfoVectorMask : BitVec 32 := 0xff
def vectoringInfoTypeMask : BitVec 32 := 0x700

theorem zeroExtend_and_mask (vector : BitVec 8) :
    vector.zeroExtend 32 &&& 0xff = vector.zeroExtend 32 := by
  have hones : (0xff : BitVec 32) = (BitVec.allOnes 8).zeroExtend 32 := rfl
  rw [hones, ← BitVec.setWidth_and, BitVec.and_allOnes]

/-- A mask above the vector sees the rest only. -/
theorem vector_or_and (vector : BitVec 8) (rest : BitVec 32) {mask : BitVec 32}
    (h : 0xff &&& mask = 0#32) : (vector.zeroExtend 32 ||| rest) &&& mask = rest &&& mask := by
  have hz : vector.zeroExtend 32 &&& mask = 0#32 := by
    rw [← zeroExtend_and_mask, BitVec.and_assoc, h, BitVec.and_zero]
  rw [BitVec.and_comm, BitVec.and_or_distrib_left, BitVec.and_comm, hz, BitVec.zero_or,
    BitVec.and_comm]

/-- The vector is read back. -/
theorem vector_or_truncate (vector : BitVec 8) {rest : BitVec 32} (h : 0xff &&& rest = 0#32) :
    ((vector.zeroExtend 32 ||| rest) &&& 0xff).truncate 8 = vector := by
  rw [BitVec.and_comm, BitVec.and_or_distrib_left, h, BitVec.or_zero, BitVec.and_comm,
    zeroExtend_and_mask]
  simp

/-- The field of an event, whose layout both vendors share. -/
def eventInfo (vector : BitVec 8) (hasError : Bool) (type : BitVec 32) : BitVec 32 :=
  vector.zeroExtend 32 |||
    (intrInfoValid ||| (if hasError then intrInfoDeliverCode else 0) ||| type)

/-- The types that are injected. -/
def injectedTypes : List (BitVec 32) :=
  [intrTypeExtIntr, intrTypeNmiIntr, intrTypeHardException, intrTypeSoftIntr,
    intrTypeSoftException]

section Fields

variable (vector : BitVec 8) (hasError : Bool) {type : BitVec 32}

/-- What stands above the vector. -/
theorem aboveVector (htype : type ∈ injectedTypes) :
    let rest := intrInfoValid ||| (if hasError then intrInfoDeliverCode else 0) ||| type
    0xff &&& rest = 0#32 ∧ rest &&& intrInfoValid ≠ 0 ∧ rest &&& vectoringInfoTypeMask = type ∧
      (rest &&& intrInfoDeliverCode ≠ 0 ↔ hasError = true) := by
  simp only [injectedTypes, List.mem_cons, List.not_mem_nil, or_false] at htype
  rcases htype with rfl | rfl | rfl | rfl | rfl <;> cases hasError <;> decide

theorem eventInfo_vector (htype : type ∈ injectedTypes) :
    (eventInfo vector hasError type &&& 0xff).truncate 8 = vector :=
  vector_or_truncate vector (aboveVector hasError htype).1

theorem eventInfo_valid (htype : type ∈ injectedTypes) :
    eventInfo vector hasError type &&& intrInfoValid ≠ 0 := by
  rw [eventInfo, vector_or_and vector _ (by decide)]
  exact (aboveVector hasError htype).2.1

theorem eventInfo_type (htype : type ∈ injectedTypes) :
    eventInfo vector hasError type &&& vectoringInfoTypeMask = type := by
  rw [eventInfo, vector_or_and vector _ (by decide)]
  exact (aboveVector hasError htype).2.2.1

theorem eventInfo_code (htype : type ∈ injectedTypes) :
    eventInfo vector hasError type &&& intrInfoDeliverCode ≠ 0 ↔ hasError = true := by
  rw [eventInfo, vector_or_and vector _ (by decide)]
  exact (aboveVector hasError htype).2.2.2

end Fields

end Kvm
