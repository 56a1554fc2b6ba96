import Mathlib.Logic.Basic

/-!
# The exception queue

`kvm_multiple_exception` of `x86.c` and its callers, outside guest mode.

* `QueuedException`, `EventState` — the queued exception, and the events of a virtual CPU;
* `exceptionClass`, `exceptionType` — the classes and types of exception vectors;
* `deliverExceptionPayload` — the payload into DR6 or CR2;
* `kvmMultipleException` — queueing, requeueing, double and triple faults;
* `SkipOutcome`, `emulateSkip` — what skipping an instruction with the emulator does to the queue;
* `NotBoth` — no exception is pending and injected at once; `kvmMultipleException_notBoth`.
-/

set_option autoImplicit false

namespace Kvm

/-! ## Constants -/

def deVector : BitVec 8 := 0
def dbVector : BitVec 8 := 1
def nmiVector : BitVec 8 := 2
def bpVector : BitVec 8 := 3
def ofVector : BitVec 8 := 4
def udVector : BitVec 8 := 6
def dfVector : BitVec 8 := 8
def tsVector : BitVec 8 := 10
def npVector : BitVec 8 := 11
def ssVector : BitVec 8 := 12
def gpVector : BitVec 8 := 13
def pfVector : BitVec 8 := 14
def acVector : BitVec 8 := 17
def mcVector : BitVec 8 := 18

/-- `DR_TRAP_BITS`. -/
def drTrapBits : BitVec 64 := 0xf

/-- `DR6_BS`. -/
def dr6Bs : BitVec 64 := 0x4000

/-- `DR6_ACTIVE_LOW`. -/
def dr6ActiveLow : BitVec 64 := 0xffff0ff0

/-- `DR7_GD`. -/
def dr7Gd : BitVec 64 := 0x2000

/-- `X86_EFLAGS_TF`, `X86_EFLAGS_RF`. -/
def eflagsTf : BitVec 64 := 0x100
def eflagsRf : BitVec 64 := 0x10000

/-- `KVM_GUESTDBG_SINGLESTEP`, `KVM_GUESTDBG_BLOCKIRQ`. -/
def guestdbgSinglestep : BitVec 32 := 0x2
def guestdbgBlockirq : BitVec 32 := 0x100000

/-! ## The events of a virtual CPU -/

/-- `struct kvm_queued_exception`. -/
structure QueuedException where
  pending : Bool := false
  injected : Bool := false
  hasErrorCode : Bool := false
  vector : BitVec 8 := 0
  errorCode : BitVec 32 := 0
  hasPayload : Bool := false
  payload : BitVec 64 := 0
  deriving DecidableEq

/-- `struct kvm_queued_interrupt`. -/
structure QueuedInterrupt where
  injected : Bool := false
  soft : Bool := false
  nr : BitVec 8 := 0
  deriving DecidableEq

/-- The requests `KVM_REQ_EVENT`, `KVM_REQ_NMI` and `KVM_REQ_TRIPLE_FAULT`. -/
structure EventRequests where
  event : Bool := false
  nmi : Bool := false
  tripleFault : Bool := false
  deriving DecidableEq

/-- The events of `struct kvm_vcpu_arch`, and the registers that event delivery writes.  `V` is the
state of the vendor module, of the local APIC and of system management mode. -/
structure EventState (V : Type) where
  vendor : V
  exception : QueuedException := {}
  /-- `exception_vmexit.pending`. -/
  exceptionVmexit : Bool := false
  exceptionFromUserspace : Bool := false
  interrupt : QueuedInterrupt := {}
  nmiInjected : Bool := false
  nmiPending : Nat := 0
  nmiQueued : Nat := 0
  smiPending : Bool := false
  smiCount : Nat := 0
  requests : EventRequests := {}
  cr2 : BitVec 64 := 0
  dr6 : BitVec 64 := dr6ActiveLow
  dr7 : BitVec 64 := 0x400
  /-- The raw RFLAGS of the vendor module. -/
  rflags : BitVec 64 := 0x2
  guestDebug : BitVec 32 := 0
  deriving DecidableEq

variable {V : Type}

/-! ## Classes and types -/

/-- `EXCPT_BENIGN`, `EXCPT_CONTRIBUTORY`, `EXCPT_PF`. -/
inductive ExceptionClass where
  | benign
  | contributory
  | pf
  deriving DecidableEq

/-- `exception_class`. -/
def exceptionClass (vector : BitVec 8) : ExceptionClass :=
  if vector = pfVector then .pf
  else if vector ∈ [deVector, tsVector, npVector, ssVector, gpVector] then .contributory
  else .benign

/-- `EXCPT_FAULT`, `EXCPT_TRAP`, `EXCPT_ABORT`, `EXCPT_INTERRUPT`, `EXCPT_DB`. -/
inductive ExceptionType where
  | fault
  | trap
  | abort
  | interrupt
  | db
  deriving DecidableEq

/-- `exception_type`. -/
def exceptionType (vector : BitVec 8) : ExceptionType :=
  if vector > 31 ∨ vector = nmiVector then .interrupt
  else if vector = dbVector then .db
  else if vector ∈ [bpVector, ofVector] then .trap
  else if vector ∈ [dfVector, mcVector] then .abort
  else .fault

/-- `kvm_exception_is_soft`. -/
def exceptionIsSoft (vector : BitVec 8) : Bool := vector ∈ [bpVector, ofVector]

/-! ## The queue -/

/-- DR6 behind a #DB with this payload. -/
def dr6WithPayload (dr6 payload : BitVec 64) : BitVec 64 :=
  let dr6 := dr6 &&& ~~~drTrapBits
  let dr6 := dr6 ||| dr6ActiveLow
  let dr6 := dr6 ||| payload
  -- the active-low bits are active high in the payload
  let dr6 := dr6 ^^^ (payload &&& dr6ActiveLow)
  dr6 &&& ~~~0x1000

/-- `kvm_deliver_exception_payload` of the queued exception. -/
def deliverExceptionPayload (s : EventState V) : EventState V :=
  if s.exception.hasPayload then
    { s with
      dr6 := if s.exception.vector = dbVector then dr6WithPayload s.dr6 s.exception.payload
        else s.dr6
      cr2 := if s.exception.vector = pfVector then s.exception.payload else s.cr2
      exception := { s.exception with hasPayload := false, payload := 0 } }
  else s

/-- What `kvm_multiple_exception` does behind its label `queue`. -/
def queueException (s : EventState V) (nr : BitVec 8) (hasError : Bool) (errorCode : BitVec 32)
    (hasPayload : Bool) (payload : BitVec 64) (reinject : Bool) : EventState V :=
  deliverExceptionPayload { s with
    exception :=
      { pending := if reinject then s.exception.pending else true
        injected := reinject
        hasErrorCode := hasError
        vector := nr
        errorCode := errorCode
        -- a reinjected event has delivered its payload
        hasPayload := !reinject && hasPayload
        payload := if reinject && hasPayload then 0 else payload } }

/-- `kvm_clear_exception_queue`. -/
def kvmClearExceptionQueue (s : EventState V) : EventState V :=
  { s with
    exception := { s.exception with pending := false, injected := false }
    exceptionVmexit := false }

/-- `kvm_multiple_exception`, outside guest mode. -/
def kvmMultipleException (s : EventState V) (nr : BitVec 8) (hasError : Bool)
    (errorCode : BitVec 32) (hasPayload : Bool) (payload : BitVec 64) (reinject : Bool) :
    EventState V :=
  let s := { s with requests := { s.requests with event := true } }
  if ¬ s.exception.pending ∧ ¬ s.exception.injected then
    queueException s nr hasError errorCode hasPayload payload reinject
  else if s.exception.vector = dfVector then
    -- triple fault -> shutdown
    { s with requests := { s.requests with tripleFault := true } }
  else if (exceptionClass s.exception.vector = .contributory ∧
        exceptionClass nr = .contributory) ∨
      (exceptionClass s.exception.vector = .pf ∧ exceptionClass nr ≠ .benign) then
    -- `kvm_queue_exception_e(vcpu, DF_VECTOR, 0)` finds the queue empty
    queueException { s with
      exception := { s.exception with injected := false, pending := false } }
      dfVector true 0 false 0 false
  else queueException s nr hasError errorCode hasPayload payload reinject

/-- `kvm_queue_exception`. -/
def kvmQueueException (s : EventState V) (nr : BitVec 8) : EventState V :=
  kvmMultipleException s nr false 0 false 0 false

/-- `kvm_requeue_exception`. -/
def kvmRequeueException (s : EventState V) (nr : BitVec 8) : EventState V :=
  kvmMultipleException s nr false 0 false 0 true

/-- `kvm_queue_exception_p`. -/
def kvmQueueExceptionP (s : EventState V) (nr : BitVec 8) (payload : BitVec 64) : EventState V :=
  kvmMultipleException s nr false 0 true payload false

/-- `kvm_queue_exception_e_p`. -/
def kvmQueueExceptionEP (s : EventState V) (nr : BitVec 8) (errorCode : BitVec 32)
    (payload : BitVec 64) : EventState V :=
  kvmMultipleException s nr true errorCode true payload false

/-- `kvm_queue_exception_e`. -/
def kvmQueueExceptionE (s : EventState V) (nr : BitVec 8) (errorCode : BitVec 32) :
    EventState V :=
  kvmMultipleException s nr true errorCode false 0 false

/-- `kvm_requeue_exception_e`. -/
def kvmRequeueExceptionE (s : EventState V) (nr : BitVec 8) (errorCode : BitVec 32) :
    EventState V :=
  kvmMultipleException s nr true errorCode false 0 true

/-! ## Skipping with the emulator -/

/-- What `kvm_emulate_instruction` makes of `EMULTYPE_SKIP`. -/
inductive SkipOutcome where
  /-- `check_emulate_instruction` says `X86EMUL_UNHANDLEABLE`. -/
  | unhandleable
  /-- It queues a #UD and says `X86EMUL_PROPAGATE_FAULT`. -/
  | propagateFault
  /-- The instruction cannot be decoded. -/
  | undecodable
  /-- RIP of the next instruction, and whether it is `singlestep_rip`. -/
  | decoded (rip : BitVec 64) (singlestepRip : Bool)
  deriving DecidableEq

/-- `kvm_get_rflags`. -/
def kvmGetRflags (s : EventState V) : BitVec 64 :=
  if s.guestDebug &&& guestdbgSinglestep ≠ 0 then s.rflags &&& ~~~eflagsTf else s.rflags

/-- `__kvm_set_rflags`. -/
def kvmSetRflagsNoEvent (s : EventState V) (singlestepRip : Bool) (rflags : BitVec 64) :
    EventState V :=
  if s.guestDebug &&& guestdbgSinglestep ≠ 0 ∧ singlestepRip then
    { s with rflags := rflags ||| eflagsTf }
  else { s with rflags := rflags }

/-- `kvm_set_rflags`. -/
def kvmSetRflags (s : EventState V) (singlestepRip : Bool) (rflags : BitVec 64) : EventState V :=
  let s := kvmSetRflagsNoEvent s singlestepRip rflags
  { s with requests := { s.requests with event := true } }

/-- The events behind `x86_emulate_instruction` with `EMULTYPE_SKIP`, which clears the exception
queue before it decodes. -/
def emulateSkip (outcome : SkipOutcome) (s : EventState V) : EventState V :=
  match outcome with
  | .unhandleable => s
  | .propagateFault => kvmQueueException s udVector
  | .undecodable => kvmClearExceptionQueue s
  | .decoded _ singlestepRip =>
    let s := kvmClearExceptionQueue s
    if kvmGetRflags s &&& eflagsRf ≠ 0 then
      kvmSetRflags s singlestepRip (kvmGetRflags s &&& ~~~eflagsRf)
    else s

/-- What `kvm_emulate_instruction` returns: 0 where emulation has failed. -/
def SkipOutcome.result : SkipOutcome → Int
  | .unhandleable => 0
  | .propagateFault => 1
  | .undecodable => 0
  | .decoded _ _ => 1

/-! ## What delivery leaves alone -/

section Delivery

variable (s : EventState V)

@[simp] theorem deliver_pending :
    (deliverExceptionPayload s).exception.pending = s.exception.pending := by
  unfold deliverExceptionPayload
  split <;> rfl

@[simp] theorem deliver_injected :
    (deliverExceptionPayload s).exception.injected = s.exception.injected := by
  unfold deliverExceptionPayload
  split <;> rfl

@[simp] theorem deliver_vector :
    (deliverExceptionPayload s).exception.vector = s.exception.vector := by
  unfold deliverExceptionPayload
  split <;> rfl

end Delivery

section Vectors

variable (s : EventState V) (nr : BitVec 8) (hasError : Bool) (errorCode : BitVec 32)
  (hasPayload : Bool) (payload : BitVec 64) (reinject : Bool)

@[simp] theorem queueException_vector :
    (queueException s nr hasError errorCode hasPayload payload reinject).exception.vector = nr := by
  rw [queueException, deliver_vector]

/-- The queue holds the new exception or a double fault. -/
theorem kvmMultipleException_vector :
    (kvmMultipleException s nr hasError errorCode hasPayload payload reinject).exception.vector ∈
      [nr, dfVector] := by
  unfold kvmMultipleException
  dsimp only
  split
  · simp
  · split
    · rename_i hdf
      simp [hdf]
    · split <;> simp

end Vectors

/-! ## Pending and injected -/

/-- No exception is pending and injected at once. -/
def NotBoth (s : EventState V) : Prop :=
  ¬ (s.exception.pending = true ∧ s.exception.injected = true)

/-- The queue behind its label: a requeued exception is injected, any other is pending. -/
theorem queueException_notBoth {s : EventState V} {nr : BitVec 8} {hasError : Bool}
    {errorCode : BitVec 32} {hasPayload : Bool} {payload : BitVec 64} {reinject : Bool}
    (hempty : reinject = true → s.exception.pending = false) :
    NotBoth (queueException s nr hasError errorCode hasPayload payload reinject) := by
  unfold NotBoth queueException
  rw [deliver_pending, deliver_injected]
  rintro ⟨hpending, hinjected⟩
  have hre : reinject = true := hinjected
  simp only [hre, if_true, hempty hre, Bool.false_eq_true] at hpending

/-- **Queueing keeps pending and injected apart**, where only an empty queue is requeued into. -/
theorem kvmMultipleException_notBoth {s : EventState V} {nr : BitVec 8} {hasError : Bool}
    {errorCode : BitVec 32} {hasPayload : Bool} {payload : BitVec 64} {reinject : Bool}
    (hs : NotBoth s) (hempty : reinject = true → s.exception.pending = false) :
    NotBoth (kvmMultipleException s nr hasError errorCode hasPayload payload reinject) := by
  unfold kvmMultipleException
  dsimp only
  split
  · exact queueException_notBoth hempty
  · split
    · exact hs
    · split
      · exact queueException_notBoth fun _ => rfl
      · exact queueException_notBoth hempty

@[simp] theorem kvmSetRflagsNoEvent_exception (s : EventState V) (b : Bool) (rflags : BitVec 64) :
    (kvmSetRflagsNoEvent s b rflags).exception = s.exception := by
  unfold kvmSetRflagsNoEvent
  split <;> rfl

/-- The emulator finds an instruction: the queue is empty. -/
theorem emulateSkip_decoded (s : EventState V) (rip : BitVec 64) (b : Bool) :
    (emulateSkip (.decoded rip b) s).exception =
      { s.exception with pending := false, injected := false } := by
  unfold emulateSkip
  dsimp only
  split
  · exact kvmSetRflagsNoEvent_exception _ b _
  · rfl

end Kvm
