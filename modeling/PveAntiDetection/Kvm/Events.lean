import PveAntiDetection.Kvm.EventOps

/-!
# Injecting events

`kvm_check_and_inject_events` of `x86.c`, outside guest mode, with all that queues events for it.

* `EventDeps` — the code of `irq.c`, `lapic.c` and `smm.c` that it calls;
* `kvmCheckAndInjectEvents` — re-injection, exceptions, and SMI, NMI and interrupts by priority;
* `processNmi`, `kvmVcpuIoctlX86SetVcpuEvents` — where events come from;
* `eventStep` — one call, or what else happens to a virtual CPU.
-/

set_option autoImplicit false

namespace Kvm

variable {W I M D : Type}

/-! ## Injection -/

/-- `EBUSY`, `EINVAL`. -/
def ebusy : Int := 16
def einval : Int := 22

/-- What is called beside `x86.c` and the vendor modules, with what the source relies on: an
interrupt that is reported is there, and the ways into and out of SMM touch no event. -/
structure EventDeps (W I M : Type) where
  /-- `kvm_cpu_has_injectable_intr`. -/
  hasInjectableIntr : I → Bool
  /-- `kvm_cpu_get_interrupt`; nothing is -1. -/
  getInterrupt : I → Option (BitVec 8) × I
  enterSmm : EventState (Platform W I M) → EventState (Platform W I M)
  /-- `kvm_leave_nested` and `kvm_smm_changed`. -/
  smmChanged : EventState (Platform W I M) → Bool → EventState (Platform W I M)
  /-- `mp_state` is `KVM_MP_STATE_INIT_RECEIVED`. -/
  initReceived : M → Bool
  isSmm : M → Bool
  /-- `HF_SMM_INSIDE_NMI_MASK`. -/
  setSmmInsideNmi : M → Bool → M
  lapicInKernel : I → Bool
  setSipiVector : I → BitVec 32 → I
  setLatchedInit : I → Bool → I
  getInterrupt_isSome : ∀ i, hasInjectableIntr i = true → (getInterrupt i).1.isSome = true
  enterSmm_keeps : ∀ s, Keeps s (enterSmm s)
  smmChanged_keeps : ∀ s b, Keeps s (smmChanged s b)

/-- The calls of `kvm_check_and_inject_events` that hand over an event or ask for a window. -/
inductive EventCall where
  | injectException
  | injectNmi
  | injectIrq (reinjected : Bool)
  | enterSmm
  | enableSmiWindow
  | enableNmiWindow
  | enableIrqWindow
  deriving DecidableEq

/-- It hands an exception, NMI or interrupt to the vendor module. -/
def EventCall.injects : EventCall → Bool
  | .injectException | .injectNmi | .injectIrq _ => true
  | _ => false

/-- What the `*_allowed` callbacks return. -/
structure Allowed where
  smi : Int
  nmi : Int
  interrupt : Int
  deriving DecidableEq

/-- A virtual CPU in the course of `kvm_check_and_inject_events`, with the calls so far. -/
structure Injecting (W I M : Type) where
  state : EventState (Platform W I M)
  calls : List EventCall := []
  canInject : Bool := true

def Injecting.call (c : Injecting W I M) (call : EventCall)
    (f : EventState (Platform W I M) → EventState (Platform W I M)) : Injecting W I M :=
  { c with state := f c.state, calls := call :: c.calls }

/-- The answer of an `*_allowed` callback, which is asked only if something may be injected. -/
def Injecting.answer (c : Injecting W I M) (allowed : Int) : Int :=
  if c.canInject then allowed else -ebusy

/-- `kvm_event_needs_reinjection`. -/
def kvmEventNeedsReinjection {V : Type} (s : EventState V) : Bool :=
  s.exception.injected || s.interrupt.injected || s.nmiInjected

/-- `kvm_is_exception_pending`. -/
def kvmIsExceptionPending {V : Type} (s : EventState V) : Bool :=
  s.exception.pending || s.exceptionVmexit

/-- `kvm_queue_interrupt`. -/
def kvmQueueInterrupt {V : Type} (s : EventState V) (vector : BitVec 8) (soft : Bool) :
    EventState V :=
  { s with interrupt := ⟨true, soft, vector⟩ }

section Check

variable (ops : EventOps W I M D) (deps : EventDeps W I M) (allowed : Allowed) (d : D)

/-- `kvm_inject_exception`: there is no error code in real mode. -/
def kvmInjectException (c : Injecting W I M) : Injecting W I M :=
  c.call .injectException fun s => ops.injectException d { s with
    exception := { s.exception with
      hasErrorCode := s.exception.hasErrorCode && ops.isProtmode s.vendor.state } }

/-- The events that have been injected before and were not delivered. -/
def reinjectEvents (c : Injecting W I M) : Injecting W I M :=
  if c.state.exception.injected then kvmInjectException ops d c
  else if kvmIsExceptionPending c.state then c
  else if c.state.nmiInjected then c.call .injectNmi (ops.injectNmi d)
  else if c.state.interrupt.injected then c.call (.injectIrq true) (ops.injectIrq d)
  else c

/-- A fault pushes RFLAGS with RF set. -/
def setResumeFlag (s : EventState (Platform W I M)) : EventState (Platform W I M) :=
  if exceptionType s.exception.vector = .fault then
    kvmSetRflagsNoEvent s (ops.singlestepRip s.vendor.state) (kvmGetRflags s ||| eflagsRf)
  else s

/-- A #DB delivers its payload, and clears DR7.GD. -/
def deliverDebug (s : EventState (Platform W I M)) : EventState (Platform W I M) :=
  if s.exception.vector = dbVector then
    let s := deliverExceptionPayload s
    if s.dr7 &&& dr7Gd ≠ 0 then
      let s := { s with dr7 := s.dr7 &&& ~~~dr7Gd }
      s.mapState fun _ => ops.updateDr7 s
    else s
  else s

/-- The pending exception. -/
def injectPendingException (c : Injecting W I M) : Injecting W I M :=
  let c := { c with canInject := !kvmEventNeedsReinjection c.state }
  if c.state.exception.pending then
    let s := deliverDebug ops (setResumeFlag ops c.state)
    let c := kvmInjectException ops d { c with state := s }
    { c with
      state := { c.state with
        exception := { c.state.exception with pending := false, injected := true } }
      canInject := false }
  else c

/-- SMIs; what is negative goes `out`. -/
def injectSmi (c : Injecting W I M) : Except (Int × Injecting W I M) (Injecting W I M) :=
  if c.state.smiPending then
    let r := c.answer allowed.smi
    if r < 0 then .error (r, c)
    else if r ≠ 0 then
      let c := { c with state := { c.state with
        smiPending := false
        smiCount := c.state.smiCount + 1 } }
      .ok { c.call .enterSmm deps.enterSmm with canInject := false }
    else .ok (c.call .enableSmiWindow ops.enableSmiWindow)
  else .ok c

/-- The NMI that may be injected. -/
def takeNmi (c : Injecting W I M) : Injecting W I M :=
  let c := { c with state := { c.state with
    nmiPending := c.state.nmiPending - 1
    nmiInjected := true } }
  { c.call .injectNmi (ops.injectNmi d) with canInject := false }

/-- A window for the NMIs that wait. -/
def requestNmiWindow (c : Injecting W I M) : Injecting W I M :=
  if c.state.nmiPending ≠ 0 then c.call .enableNmiWindow ops.enableNmiWindow else c

/-- NMIs. -/
def injectPendingNmi (c : Injecting W I M) : Except (Int × Injecting W I M) (Injecting W I M) :=
  if c.state.nmiPending ≠ 0 then
    let r := c.answer allowed.nmi
    if r < 0 then .error (r, c)
    else .ok (requestNmiWindow ops (if r ≠ 0 then takeNmi ops d c else c))
  else .ok c

/-- The interrupt that may be injected. -/
def takeIntr (c : Injecting W I M) : Injecting W I M :=
  let r := deps.getInterrupt c.state.vendor.irqs
  let c := { c with state := { c.state with vendor := { c.state.vendor with irqs := r.2 } } }
  match r.1 with
  | none => c
  | some irq =>
    { c with state := kvmQueueInterrupt c.state irq false }.call (.injectIrq false)
      (ops.injectIrq d)

/-- A window for the interrupts that wait. -/
def requestIrqWindow (c : Injecting W I M) : Injecting W I M :=
  if deps.hasInjectableIntr c.state.vendor.irqs then
    c.call .enableIrqWindow ops.enableIrqWindow
  else c

/-- Interrupts. -/
def injectPendingIntr (c : Injecting W I M) : Except (Int × Injecting W I M) (Injecting W I M) :=
  if deps.hasInjectableIntr c.state.vendor.irqs then
    let r := c.answer allowed.interrupt
    if r < 0 then .error (r, c)
    else .ok (requestIrqWindow ops deps (if r ≠ 0 then takeIntr ops deps d c else c))
  else .ok c

/-- What `kvm_check_and_inject_events` returns, and whether it sets `*req_immediate_exit`. -/
structure InjectResult (W I M : Type) where
  ret : Int
  immediateExit : Bool
  last : Injecting W I M

/-- The label `out`. -/
def injectOut (r : Int) (c : Injecting W I M) : InjectResult W I M :=
  if r = -ebusy then ⟨0, true, c⟩ else ⟨r, false, c⟩

/-- SMI, NMI and interrupts, by priority. -/
def injectAsync (c : Injecting W I M) : InjectResult W I M :=
  let r := do
    let c ← injectSmi ops deps allowed c
    let c ← injectPendingNmi ops allowed d c
    injectPendingIntr ops deps allowed d c
  match r with
  | .ok c => ⟨0, false, c⟩
  | .error (r, c) => injectOut r c

/-- `kvm_check_and_inject_events`, outside guest mode. -/
def kvmCheckAndInjectEvents (s : EventState (Platform W I M)) : InjectResult W I M :=
  let c := reinjectEvents ops d { state := s }
  let c := injectPendingException ops d c
  if c.state.guestDebug &&& guestdbgBlockirq ≠ 0 then ⟨0, false, c⟩
  else injectAsync ops deps allowed d c

end Check

/-! ## Where events come from -/

/-- `KVM_VCPUEVENT_VALID_NMI_PENDING`, `KVM_VCPUEVENT_VALID_SIPI_VECTOR`,
`KVM_VCPUEVENT_VALID_SHADOW`, `KVM_VCPUEVENT_VALID_SMM`, `KVM_VCPUEVENT_VALID_PAYLOAD` and
`KVM_VCPUEVENT_VALID_TRIPLE_FAULT`. -/
def vcpueventValidNmiPending : BitVec 32 := 0x1
def vcpueventValidSipiVector : BitVec 32 := 0x2
def vcpueventValidShadow : BitVec 32 := 0x4
def vcpueventValidSmm : BitVec 32 := 0x8
def vcpueventValidPayload : BitVec 32 := 0x10
def vcpueventValidTripleFault : BitVec 32 := 0x20

/-- `struct kvm_vcpu_events`. -/
structure KvmVcpuEvents where
  flags : BitVec 32 := 0
  exceptionInjected : BitVec 8 := 0
  exceptionNr : BitVec 8 := 0
  exceptionHasErrorCode : BitVec 8 := 0
  exceptionPending : BitVec 8 := 0
  exceptionErrorCode : BitVec 32 := 0
  exceptionHasPayload : BitVec 8 := 0
  exceptionPayload : BitVec 64 := 0
  interruptInjected : BitVec 8 := 0
  interruptNr : BitVec 8 := 0
  interruptSoft : BitVec 8 := 0
  interruptShadow : BitVec 8 := 0
  nmiInjected : BitVec 8 := 0
  nmiPending : BitVec 8 := 0
  nmiMasked : BitVec 8 := 0
  sipiVector : BitVec 32 := 0
  smiSmm : BitVec 8 := 0
  smiPending : BitVec 8 := 0
  smiInsideNmi : BitVec 8 := 0
  smiLatchedInit : BitVec 8 := 0
  tripleFaultPending : BitVec 8 := 0
  deriving DecidableEq

/-- `exception_payload_enabled` and `triple_fault_event` of `struct kvm_arch`. -/
structure EventCaps where
  exceptionPayloadEnabled : Bool := false
  tripleFaultEvent : Bool := false
  deriving DecidableEq

/-- `kvm_inject_nmi`. -/
def kvmInjectNmi {V : Type} (s : EventState V) : EventState V :=
  { s with nmiQueued := s.nmiQueued + 1, requests := { s.requests with nmi := true } }

/-- `process_smi`. -/
def processSmi {V : Type} (s : EventState V) : EventState V :=
  { s with smiPending := true, requests := { s.requests with event := true } }

section Ioctl

variable (ops : EventOps W I M D) (deps : EventDeps W I M)

/-- The end of `process_nmi`: the vendor module may take a pending NMI. -/
def offerVnmi (s : EventState (Platform W I M)) : EventState (Platform W I M) :=
  if s.nmiPending ≠ 0 then
    let vnmi := ops.setVnmiPending s.vendor.state
    let s := s.mapState fun _ => vnmi.2
    if vnmi.1 then { s with nmiPending := s.nmiPending - 1 } else s
  else s

/-- How many NMIs may be pending: one beside the one that is handled, or injected, or in the hands
of the hardware. -/
def nmiLimit (masked : Bool) (s : EventState (Platform W I M)) : Nat :=
  let limit := if masked ∨ s.nmiInjected then 1 else 2
  if ops.isVnmiPending s.vendor.state then limit - 1 else limit

/-- `process_nmi`. -/
def processNmi (s : EventState (Platform W I M)) : EventState (Platform W I M) :=
  let mask := ops.getNmiMask s.vendor.state
  let s := s.mapState fun _ => mask.2
  let s := offerVnmi ops { s with
    nmiPending := min (s.nmiPending + s.nmiQueued) (nmiLimit ops mask.1 s)
    nmiQueued := 0 }
  { s with requests := { s.requests with event := s.requests.event || s.nmiPending ≠ 0 } }

/-- What `kvm_vcpu_ioctl_x86_set_vcpu_events` makes of the exception before it looks at it. -/
def normalizeEvents (events : KvmVcpuEvents) : KvmVcpuEvents :=
  if events.flags &&& vcpueventValidPayload ≠ 0 then
    if events.exceptionPending ≠ 0 then { events with exceptionInjected := 0 }
    else { events with exceptionHasPayload := 0 }
  else { events with exceptionPending := 0, exceptionHasPayload := 0 }

/-- The flags and values that `kvm_vcpu_ioctl_x86_set_vcpu_events` refuses at once. -/
def eventsRefused (caps : EventCaps) (smm : M) (events : KvmVcpuEvents) : Bool :=
  let normal := normalizeEvents events
  events.flags &&& ~~~(vcpueventValidNmiPending ||| vcpueventValidSipiVector |||
      vcpueventValidShadow ||| vcpueventValidSmm ||| vcpueventValidPayload |||
      vcpueventValidTripleFault) ≠ 0 ∨
    (events.flags &&& vcpueventValidPayload ≠ 0 ∧ ¬ caps.exceptionPayloadEnabled) ∨
    ((normal.exceptionInjected ≠ 0 ∨ normal.exceptionPending ≠ 0) ∧
      (normal.exceptionNr > 31 ∨ normal.exceptionNr = nmiVector)) ∨
    -- INITs are latched while in SMM
    (events.flags &&& vcpueventValidSmm ≠ 0 ∧ (events.smiSmm ≠ 0 ∨ events.smiPending ≠ 0) ∧
      deps.initReceived smm)

/-- The exception of userspace. -/
def setException (s : EventState (Platform W I M)) (events : KvmVcpuEvents) :
    EventState (Platform W I M) :=
  { s with
    exceptionFromUserspace := events.exceptionPending ≠ 0
    exceptionVmexit := false
    exception :=
      { injected := events.exceptionInjected ≠ 0
        pending := events.exceptionPending ≠ 0
        vector := events.exceptionNr
        hasErrorCode := events.exceptionHasErrorCode ≠ 0
        errorCode := events.exceptionErrorCode
        hasPayload := events.exceptionHasPayload ≠ 0
        payload := events.exceptionPayload } }

/-- The interrupt of userspace. -/
def setInterrupt (s : EventState (Platform W I M)) (events : KvmVcpuEvents) :
    EventState (Platform W I M) :=
  let s := { s with interrupt :=
    { injected := events.interruptInjected ≠ 0
      nr := events.interruptNr
      soft := events.interruptSoft ≠ 0 } }
  s.mapState fun w => if events.flags &&& vcpueventValidShadow ≠ 0 then
    ops.setInterruptShadow w events.interruptShadow else w

/-- The NMIs of userspace. -/
def setNmi (s : EventState (Platform W I M)) (events : KvmVcpuEvents) :
    EventState (Platform W I M) :=
  let valid := events.flags &&& vcpueventValidNmiPending ≠ 0
  let s := { s with
    nmiInjected := events.nmiInjected ≠ 0
    nmiPending := if valid then 0 else s.nmiPending
    nmiQueued := if valid then events.nmiPending.toNat else s.nmiQueued
    requests := { s.requests with
      nmi := s.requests.nmi || (valid ∧ events.nmiPending ≠ 0) } }
  s.mapState fun w => ops.setNmiMask w (events.nmiMasked ≠ 0)

/-- The SIPI vector of userspace. -/
def setSipi (s : EventState (Platform W I M)) (events : KvmVcpuEvents) :
    EventState (Platform W I M) :=
  { s with vendor := { s.vendor with
    irqs := if events.flags &&& vcpueventValidSipiVector ≠ 0 ∧ deps.lapicInKernel s.vendor.irqs then
        deps.setSipiVector s.vendor.irqs events.sipiVector
      else s.vendor.irqs } }

/-- The SMI and the latched INIT of userspace. -/
def setSmi (s : EventState (Platform W I M)) (events : KvmVcpuEvents) :
    EventState (Platform W I M) :=
  { s with
    smiPending := events.smiPending ≠ 0
    vendor := { s.vendor with
      smm := if events.smiSmm ≠ 0 then
          deps.setSmmInsideNmi s.vendor.smm (events.smiInsideNmi ≠ 0)
        else s.vendor.smm
      irqs := if deps.lapicInKernel s.vendor.irqs then
          deps.setLatchedInit s.vendor.irqs (events.smiLatchedInit ≠ 0)
        else s.vendor.irqs } }

/-- The way into or out of SMM that userspace asks for. -/
def changeSmm (s : EventState (Platform W I M)) (smm : Bool) : EventState (Platform W I M) :=
  if deps.isSmm s.vendor.smm ≠ smm then deps.smmChanged s smm else s

/-- The SMM state of userspace. -/
def setSmm (s : EventState (Platform W I M)) (events : KvmVcpuEvents) :
    EventState (Platform W I M) :=
  if events.flags &&& vcpueventValidSmm ≠ 0 then
    setSmi deps (changeSmm deps s (events.smiSmm ≠ 0)) events
  else s

/-- `kvm_vcpu_ioctl_x86_set_vcpu_events`. -/
def kvmVcpuIoctlX86SetVcpuEvents (caps : EventCaps) (events : KvmVcpuEvents)
    (s : EventState (Platform W I M)) : Int × EventState (Platform W I M) :=
  if eventsRefused deps caps s.vendor.smm events then (-einval, s)
  else
    let events := normalizeEvents events
    let s := processNmi ops s
    let s := setException s events
    let s := setNmi ops (setInterrupt ops s events) events
    let s := setSmm deps (setSipi deps s events) events
    let tripleFault := events.flags &&& vcpueventValidTripleFault ≠ 0
    if tripleFault ∧ ¬ caps.tripleFaultEvent then (-einval, s)
    else
      (0, { s with requests := { s.requests with
        tripleFault := if tripleFault then events.tripleFaultPending ≠ 0
          else s.requests.tripleFault
        event := true } })

end Ioctl

/-! ## Runs -/

/-- What happens to a virtual CPU. -/
inductive KvmEvent (W I M D : Type) where
  | queueException (nr : BitVec 8)
  | queueExceptionP (nr : BitVec 8) (payload : BitVec 64)
  | queueExceptionE (nr : BitVec 8) (errorCode : BitVec 32)
  | queueExceptionEP (nr : BitVec 8) (errorCode : BitVec 32) (payload : BitVec 64)
  | requeueException (nr : BitVec 8)
  | requeueExceptionE (nr : BitVec 8) (errorCode : BitVec 32)
  /-- The VM exit: what had been injected is forgotten. -/
  | completeInterrupts
  /-- The VM exit finds an NMI that was not delivered. -/
  | requeueNmi
  | queueInterrupt (vector : BitVec 8) (soft : Bool)
  | injectNmi
  | processNmi
  | processSmi
  | setVcpuEvents (caps : EventCaps) (events : KvmVcpuEvents)
  | checkAndInject (allowed : Allowed) (d : D)
  /-- Anything that the guest or the host does to the vendor state, the interrupt controllers and
  SMM. -/
  | platform (p : Platform W I M)

section Runs

variable (ops : EventOps W I M D) (deps : EventDeps W I M)

/-- One event; the output is that of `kvm_check_and_inject_events`. -/
def eventStep (s : EventState (Platform W I M)) :
    KvmEvent W I M D → Option (InjectResult W I M) × EventState (Platform W I M)
  | .queueException nr => (none, kvmQueueException s nr)
  | .queueExceptionP nr payload => (none, kvmQueueExceptionP s nr payload)
  | .queueExceptionE nr errorCode => (none, kvmQueueExceptionE s nr errorCode)
  | .queueExceptionEP nr errorCode payload => (none, kvmQueueExceptionEP s nr errorCode payload)
  | .requeueException nr => (none, kvmRequeueException s nr)
  | .requeueExceptionE nr errorCode => (none, kvmRequeueExceptionE s nr errorCode)
  | .completeInterrupts =>
    (none, { kvmClearExceptionQueue s with
      nmiInjected := false
      interrupt := { s.interrupt with injected := false } })
  | .requeueNmi => (none, { s with nmiInjected := true })
  | .queueInterrupt vector soft => (none, kvmQueueInterrupt s vector soft)
  | .injectNmi => (none, kvmInjectNmi s)
  | .processNmi => (none, processNmi ops s)
  | .processSmi => (none, processSmi s)
  | .setVcpuEvents caps events => (none, (kvmVcpuIoctlX86SetVcpuEvents ops deps caps events s).2)
  | .checkAndInject allowed d =>
    let r := kvmCheckAndInjectEvents ops deps allowed d s
    (some r, r.last.state)
  | .platform p => (none, { s with vendor := p })

/-- An exception is requeued into a clear queue only. -/
def QueueClear (s : EventState (Platform W I M)) : KvmEvent W I M D → Prop
  | .requeueException _ | .requeueExceptionE _ _ =>
    s.exception.pending = false ∧ s.exception.injected = false
  | _ => True

end Runs

end Kvm
