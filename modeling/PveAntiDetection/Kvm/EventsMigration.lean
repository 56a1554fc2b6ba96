import PveAntiDetection.Kvm.EventsKept

/-!
# Saving and restoring events

`KVM_GET_VCPU_EVENTS` and `KVM_SET_VCPU_EVENTS` of `x86.c`, one behind the other, on SVM.

* `kvmVcpuIoctlX86GetVcpuEvents` — what userspace reads, and what reading changes;
* `svmProcessNmi_eq` — what `process_nmi` does on SVM;
* `SameDelivery` — the same events are still to be delivered;
* `eventsRestored_iff` — when the events survive the round trip; `nmiDoubled` is a virtual CPU with
  vNMI on which one NMI becomes two.
-/

set_option autoImplicit false

namespace Kvm

variable {W I M D : Type}

/-! ## Reading the events -/

/-- What `kvm_vcpu_ioctl_x86_get_vcpu_events` reads of the vendor module, the local APIC and system
management mode. -/
structure EventReports (W I M : Type) where
  /-- `kvm_x86_get_interrupt_shadow`. -/
  getInterruptShadow : W → BitVec 8
  /-- `kvm_lapic_latched_init`. -/
  latchedInit : I → Bool
  /-- `HF_SMM_INSIDE_NMI_MASK`. -/
  smmInsideNmi : M → Bool

/-- A `bool` in a `__u8`. -/
def ofFlag (b : Bool) : BitVec 8 := if b then 1 else 0

@[simp] theorem ofFlag_eq_zero (b : Bool) : ofFlag b = 0#8 ↔ b = false := by
  cases b <;> decide

section Get

variable (ops : EventOps W I M D) (deps : EventDeps W I M) (reports : EventReports W I M)

/-- `kvm_get_nr_pending_nmis`. -/
def kvmGetNrPendingNmis (s : EventState (Platform W I M)) : Nat :=
  s.nmiPending + if ops.isVnmiPending s.vendor.state then 1 else 0

/-- The exception to report: `exception_vmexit`, which is pending, if there is no other.  The
payload is delivered unless userspace knows of payloads. -/
def reportedException (caps : EventCaps) (vmexit : QueuedException)
    (s : EventState (Platform W I M)) : QueuedException × EventState (Platform W I M) :=
  if s.exceptionVmexit ∧ ¬ s.exception.pending ∧ ¬ s.exception.injected then
    let t := { s with exception := { vmexit with pending := true } }
    let t := if ¬ caps.exceptionPayloadEnabled ∧ vmexit.hasPayload then deliverExceptionPayload t
      else t
    (t.exception, { t with exception := s.exception })
  else
    let s := if ¬ caps.exceptionPayloadEnabled ∧ s.exception.pending ∧ s.exception.hasPayload then
        deliverExceptionPayload s
      else s
    (s.exception, s)

/-- The flags of what is reported. -/
def reportedFlags (caps : EventCaps) : BitVec 32 :=
  vcpueventValidNmiPending ||| vcpueventValidShadow ||| vcpueventValidSmm |||
    (if caps.exceptionPayloadEnabled then vcpueventValidPayload else 0) |||
    if caps.tripleFaultEvent then vcpueventValidTripleFault else 0

/-- The structure that is copied to userspace. -/
def reportedEvents (caps : EventCaps) (ex : QueuedException) (s : EventState (Platform W I M)) :
    KvmVcpuEvents where
  flags := reportedFlags caps
  -- no instruction length goes along, so soft exceptions are left to the guest
  exceptionInjected := ofFlag (!exceptionIsSoft ex.vector &&
    (ex.injected || (!caps.exceptionPayloadEnabled && ex.pending)))
  exceptionPending := ofFlag (!exceptionIsSoft ex.vector && ex.pending)
  exceptionNr := ex.vector
  exceptionHasErrorCode := ofFlag ex.hasErrorCode
  exceptionErrorCode := ex.errorCode
  exceptionHasPayload := ofFlag ex.hasPayload
  exceptionPayload := ex.payload
  interruptInjected := ofFlag (s.interrupt.injected && !s.interrupt.soft)
  interruptNr := s.interrupt.nr
  interruptShadow := reports.getInterruptShadow s.vendor.state
  nmiInjected := ofFlag s.nmiInjected
  nmiPending := BitVec.ofNat 8 (kvmGetNrPendingNmis ops s)
  nmiMasked := ofFlag (ops.getNmiMask s.vendor.state).1
  smiSmm := ofFlag (deps.isSmm s.vendor.smm)
  smiPending := ofFlag s.smiPending
  smiInsideNmi := ofFlag (reports.smmInsideNmi s.vendor.smm)
  smiLatchedInit := ofFlag (reports.latchedInit s.vendor.irqs)
  tripleFaultPending := ofFlag (caps.tripleFaultEvent && s.requests.tripleFault)

@[simp] theorem reportedEvents_flags (caps : EventCaps) (ex : QueuedException)
    (s : EventState (Platform W I M)) :
    (reportedEvents ops deps reports caps ex s).flags = reportedFlags caps := rfl

/-- `kvm_vcpu_ioctl_x86_get_vcpu_events`; `smi` is `KVM_REQ_SMI`, and `vmexit` what
`exception_vmexit` holds. -/
def kvmVcpuIoctlX86GetVcpuEvents (caps : EventCaps) (smi : Bool) (vmexit : QueuedException)
    (s : EventState (Platform W I M)) : KvmVcpuEvents × EventState (Platform W I M) :=
  let s := processNmi ops s
  let s := if smi then processSmi s else s
  let r := reportedException caps vmexit s
  (reportedEvents ops deps reports caps r.1 r.2,
    r.2.mapState fun w => (ops.getNmiMask w).2)

end Get

/-- `svm_get_interrupt_shadow`. -/
def svmGetInterruptShadow (svm : SvmEvents) : BitVec 8 :=
  if svm.interruptShadow then shadowIntSti ||| shadowIntMovSs else 0

/-! ## What is still to be delivered -/

/-- The exception that is pending or injected. -/
def EventState.queued {V : Type} (s : EventState V) : Option QueuedException :=
  if s.exception.pending ∨ s.exception.injected then some s.exception else none

/-- The interrupt that is injected. -/
def EventState.injectedIrq {V : Type} (s : EventState V) : Option (BitVec 8) :=
  if s.interrupt.injected then some s.interrupt.nr else none

/-- The same events are still to be delivered. -/
structure SameDelivery (ops : EventOps W I M D) (s s' : EventState (Platform W I M)) : Prop where
  exception : s'.queued = s.queued
  interrupt : s'.injectedIrq = s.injectedIrq
  nmiInjected : s'.nmiInjected = s.nmiInjected
  nmiMask : (ops.getNmiMask s'.vendor.state).1 = (ops.getNmiMask s.vendor.state).1
  smiPending : s'.smiPending = s.smiPending
  nmis : kvmGetNrPendingNmis ops s' = kvmGetNrPendingNmis ops s

/-- What `KVM_GET_VCPU_EVENTS` leaves, and what `KVM_SET_VCPU_EVENTS` of its result and the next
`process_nmi` make of that. -/
def saveRestore (ops : EventOps W I M D) (deps : EventDeps W I M) (reports : EventReports W I M)
    (caps : EventCaps) (smi : Bool) (vmexit : QueuedException) (s : EventState (Platform W I M)) :
    EventState (Platform W I M) × EventState (Platform W I M) :=
  let r := kvmVcpuIoctlX86GetVcpuEvents ops deps reports caps smi vmexit s
  (r.2, processNmi ops (kvmVcpuIoctlX86SetVcpuEvents ops deps caps r.1 r.2).2)

/-! ## NMIs on SVM -/

section Svm

variable (s : EventState (Platform SvmEvents I M))

/-- The NMIs that software keeps behind `process_nmi`, before it offers them to the hardware. -/
def svmWaitingNmis : Nat :=
  min (s.nmiPending + s.nmiQueued) (nmiLimit (svmEventOps : EventOps SvmEvents I M _)
    (svmGetNmiMask s.vendor.state) s)

/-- Whether `V_NMI_PENDING` is set, as a number. -/
def svmVnmis : Nat := if svmIsVnmiPending s.vendor.state then 1 else 0

variable {s}

/-- What `process_nmi` makes of a state on SVM: one NMI may have gone to the hardware. -/
structure SvmProcessed (s s' : EventState (Platform SvmEvents I M)) : Prop where
  exception : s'.exception = s.exception
  exceptionVmexit : s'.exceptionVmexit = s.exceptionVmexit
  interrupt : s'.interrupt = s.interrupt
  nmiInjected : s'.nmiInjected = s.nmiInjected
  smiPending : s'.smiPending = s.smiPending
  smm : s'.vendor.smm = s.vendor.smm
  nmiQueued : s'.nmiQueued = 0
  nmiMask : svmGetNmiMask s'.vendor.state = svmGetNmiMask s.vendor.state
  enabled : s'.vendor.state.vnmiEnabled = s.vendor.state.vnmiEnabled
  vnmis : svmVnmis s' = if s.vendor.state.vnmiEnabled ∧ svmWaitingNmis s ≠ 0 then 1 else svmVnmis s
  total : s'.nmiPending + svmVnmis s' = svmWaitingNmis s + svmVnmis s

theorem svmVnmis_disabled (h : s.vendor.state.vnmiEnabled = false) : svmVnmis s = 0 := by
  simp [svmVnmis, svmIsVnmiPending, h]

/-- The hardware takes an NMI if vNMI is enabled and none waits there. -/
theorem svmProcessNmi_spec : SvmProcessed s (processNmi svmEventOps s) := by
  have hstep : processNmi svmEventOps s =
      let t := offerVnmi svmEventOps { s with nmiPending := svmWaitingNmis s, nmiQueued := 0 }
      { t with requests := { t.requests with
        event := t.requests.event || t.nmiPending ≠ 0 } } := rfl
  rw [hstep]
  by_cases hnone : svmWaitingNmis s = 0
  · rw [offerVnmi, if_neg (not_not_intro hnone)]
    refine ⟨rfl, rfl, rfl, rfl, rfl, rfl, rfl, rfl, rfl, ?_, rfl⟩
    simp [hnone, svmVnmis]
  · rw [offerVnmi, if_pos hnone]
    cases henabled : s.vendor.state.vnmiEnabled with
    | false =>
      have hvnmi : svmSetVnmiPending s.vendor.state = (false, s.vendor.state) :=
        if_pos (.inl (by simp [henabled]))
      simp only [svmEventOps, hvnmi]
      refine ⟨rfl, rfl, rfl, rfl, rfl, rfl, rfl, rfl, rfl, ?_, rfl⟩
      simp [henabled, svmVnmis, EventState.mapState]
    | true =>
      cases hpending : s.vendor.state.vNmiPending with
      | true =>
        have hvnmi : svmSetVnmiPending s.vendor.state = (false, s.vendor.state) :=
          if_pos (.inr hpending)
        simp only [svmEventOps, hvnmi]
        refine ⟨rfl, rfl, rfl, rfl, rfl, rfl, rfl, rfl, rfl, ?_, rfl⟩
        simp [henabled, hnone, hpending, svmVnmis, svmIsVnmiPending, EventState.mapState]
      | false =>
        have hvnmi : svmSetVnmiPending s.vendor.state =
            (true, { s.vendor.state with vNmiPending := true }) :=
          if_neg (by simp [henabled, hpending])
        simp only [svmEventOps, hvnmi]
        refine ⟨rfl, rfl, rfl, rfl, rfl, rfl, rfl, rfl, rfl, ?_, ?_⟩
        · simp [henabled, hnone, svmVnmis, svmIsVnmiPending, EventState.mapState]
        · simp [henabled, hpending, svmVnmis, svmIsVnmiPending, EventState.mapState]
          omega

/-! ## The round trip -/

variable {deps : EventDeps SvmEvents I M} {reports : EventReports SvmEvents I M}
  {caps : EventCaps} {events : KvmVcpuEvents} {smi : Bool} {vmexit : QueuedException}

/-- With payloads, what is read says everything that is there. -/
theorem reportedFlags_valid (hcaps : caps.exceptionPayloadEnabled = true) :
    (reportedFlags caps &&& vcpueventValidNmiPending ≠ 0 ∧
      reportedFlags caps &&& vcpueventValidSmm ≠ 0 ∧
      reportedFlags caps &&& vcpueventValidPayload ≠ 0) ∧
    reportedFlags caps &&& ~~~(vcpueventValidNmiPending ||| vcpueventValidSipiVector |||
      vcpueventValidShadow ||| vcpueventValidSmm ||| vcpueventValidPayload |||
      vcpueventValidTripleFault) = 0 := by
  rw [reportedFlags, if_pos hcaps]
  split <;> decide

/-- What is read from a state behind `process_nmi`, and the state it is read from. -/
theorem svmGet_spec (deps : EventDeps SvmEvents I M) (reports : EventReports SvmEvents I M)
    (smi : Bool) (vmexit : QueuedException) (hcaps : caps.exceptionPayloadEnabled = true)
    (hexit : s.exceptionVmexit = false) :
    ∃ t, SvmProcessed { s with smiPending := s.smiPending || smi } t ∧
      kvmVcpuIoctlX86GetVcpuEvents svmEventOps deps reports caps smi vmexit s =
        (reportedEvents svmEventOps deps reports caps t.exception t, t) := by
  have hdone : SvmProcessed s (processNmi svmEventOps s) := svmProcessNmi_spec
  have hquiet : ∀ t : EventState (Platform SvmEvents I M), t.exceptionVmexit = false →
      reportedException caps vmexit t = (t.exception, t) := by
    intro t ht
    rw [reportedException, if_neg (by simp [ht]), if_neg (by simp [hcaps])]
  unfold kvmVcpuIoctlX86GetVcpuEvents
  cases smi with
  | false =>
    refine ⟨processNmi svmEventOps s, ?_, ?_⟩
    · simp only [Bool.or_false]
      exact hdone
    · simp only [Bool.false_eq_true, if_false, hquiet _ (hdone.exceptionVmexit.trans hexit)]
      rfl
  | true =>
    refine ⟨processSmi (processNmi svmEventOps s), ?_, ?_⟩
    · exact ⟨hdone.exception, hdone.exceptionVmexit, hdone.interrupt, hdone.nmiInjected,
        (Bool.or_true _).symm, hdone.smm, hdone.nmiQueued, hdone.nmiMask, hdone.enabled,
        hdone.vnmis, hdone.total⟩
    · have hread := hquiet (processSmi (processNmi svmEventOps s))
        (hdone.exceptionVmexit.trans hexit)
      simp only [if_true, hread]
      rfl

/-- The exception of userspace. -/
def KvmVcpuEvents.exception (events : KvmVcpuEvents) : QueuedException where
  injected := events.exceptionInjected ≠ 0
  pending := events.exceptionPending ≠ 0
  vector := events.exceptionNr
  hasErrorCode := events.exceptionHasErrorCode ≠ 0
  errorCode := events.exceptionErrorCode
  hasPayload := events.exceptionHasPayload ≠ 0
  payload := events.exceptionPayload

/-- What userspace has set, before `process_nmi`. -/
structure SvmSet (events : KvmVcpuEvents) (s s' : EventState (Platform SvmEvents I M)) : Prop where
  exception : s'.exception = events.exception
  interrupt : s'.interrupt =
    ⟨decide (events.interruptInjected ≠ 0), decide (events.interruptSoft ≠ 0), events.interruptNr⟩
  nmiInjected : s'.nmiInjected = decide (events.nmiInjected ≠ 0)
  nmiPending : s'.nmiPending = 0
  nmiQueued : s'.nmiQueued = events.nmiPending.toNat
  nmiMask : svmGetNmiMask s'.vendor.state = decide (events.nmiMasked ≠ 0)
  enabled : s'.vendor.state.vnmiEnabled = s.vendor.state.vnmiEnabled
  vnmis : svmVnmis s' = svmVnmis s
  smiPending : s'.smiPending = decide (events.smiPending ≠ 0)

theorem svmSetNmiMask_get (svm : SvmEvents) (masked : Bool) :
    svmGetNmiMask (svmSetNmiMask svm masked) = masked ∧
      (svmSetNmiMask svm masked).vnmiEnabled = svm.vnmiEnabled ∧
      svmIsVnmiPending (svmSetNmiMask svm masked) = svmIsVnmiPending svm := by
  unfold svmSetNmiMask
  split
  · rename_i henabled
    simp [svmGetNmiMask, svmIsVnmiPending, henabled]
  · rename_i hdisabled
    unfold svmSetIretIntercept
    split <;> simp [svmGetNmiMask, svmIsVnmiPending, hdisabled]

/-- The setter looks at flags of the exception only, before it sets anything. -/
theorem normalizeEvents_keeps (events : KvmVcpuEvents) : ∃ injected pending hasPayload,
    normalizeEvents events = { events with
      exceptionInjected := injected
      exceptionPending := pending
      exceptionHasPayload := hasPayload } := by
  unfold normalizeEvents
  split
  · split <;> exact ⟨_, _, _, rfl⟩
  · exact ⟨_, _, _, rfl⟩

theorem svmSet_spec (hok : eventsRefused deps caps s.vendor.smm events = false)
    (hnmi : events.flags &&& vcpueventValidNmiPending ≠ 0)
    (hsmm : events.flags &&& vcpueventValidSmm ≠ 0)
    (hsame : deps.isSmm s.vendor.smm = decide (events.smiSmm ≠ 0)) :
    SvmSet (normalizeEvents events) (processNmi svmEventOps s)
      (kvmVcpuIoctlX86SetVcpuEvents svmEventOps deps caps events s).2 := by
  have hdone : SvmProcessed s (processNmi svmEventOps s) := svmProcessNmi_spec
  rw [kvmVcpuIoctlX86SetVcpuEvents, if_neg (by simp [hok])]
  obtain ⟨injected, pending, hasPayload, hn⟩ := normalizeEvents_keeps events
  rw [show events.flags = (normalizeEvents events).flags by rw [hn]] at hnmi hsmm
  rw [show events.smiSmm = (normalizeEvents events).smiSmm by rw [hn], ← hdone.smm] at hsame
  generalize processNmi svmEventOps s = t at hsame
  generalize normalizeEvents events = n at hnmi hsmm hsame
  obtain ⟨hmask, henabled, hvnmi⟩ := svmSetNmiMask_get
    (setInterrupt svmEventOps (setException t n) n).vendor.state (n.nmiMasked ≠ 0)
  have hsmi : ∀ u : EventState (Platform SvmEvents I M), u.vendor.smm = t.vendor.smm →
      setSmm deps u n = setSmi deps u n := by
    intro u hu
    rw [setSmm, if_pos hsmm, changeSmm, if_neg]
    rw [hu, hsame]
    exact not_not_intro rfl
  have hshadow : (setInterrupt svmEventOps (setException t n) n).vendor.state.vnmiEnabled =
      t.vendor.state.vnmiEnabled ∧
      svmVnmis (setInterrupt svmEventOps (setException t n) n) = svmVnmis t := by
    by_cases hvalid : n.flags &&& vcpueventValidShadow ≠ 0
    · simp only [setInterrupt, if_pos hvalid]
      exact ⟨rfl, rfl⟩
    · simp only [setInterrupt, if_neg hvalid]
      exact ⟨rfl, rfl⟩
  have hset : SvmSet n t (setSmm deps (setSipi deps
      (setNmi svmEventOps (setInterrupt svmEventOps (setException t n) n) n) n) n) := by
    rw [hsmi]
    · refine ⟨rfl, rfl, rfl, if_pos hnmi, if_pos hnmi, hmask, henabled.trans hshadow.1, ?_, rfl⟩
      rw [← hshadow.2]
      exact congrArg (fun b : Bool => if b then 1 else 0) hvnmi
    · rfl
  dsimp only
  split
  · exact hset
  · exact ⟨hset.exception, hset.interrupt, hset.nmiInjected, hset.nmiPending, hset.nmiQueued,
      hset.nmiMask, hset.enabled, hset.vnmis, hset.smiPending⟩

/-! ## When the round trip changes nothing -/

/-- `KVM_SET_VCPU_EVENTS` refuses what has been read. -/
def SetRefused (deps : EventDeps SvmEvents I M) (smi : Bool)
    (s : EventState (Platform SvmEvents I M)) : Prop :=
  ((s.exception.pending = true ∨ s.exception.injected = true) ∧
      (s.exception.vector > 31 ∨ s.exception.vector = nmiVector)) ∨
    ((deps.isSmm s.vendor.smm = true ∨ s.smiPending = true ∨ smi = true) ∧
      deps.initReceived s.vendor.smm = true)

/-- One exception at most is there, and where it has been injected its payload has been
delivered. -/
def OneException {V : Type} (s : EventState V) : Prop :=
  NotBoth s ∧ (s.exception.injected = true → s.exception.hasPayload = false)

/-- One NMI waits, in software or in the hardware, and nothing keeps it from being injected. -/
def DoublesNmi (s : EventState (Platform SvmEvents I M)) : Prop :=
  s.vendor.state.vnmiEnabled = true ∧ svmGetNmiMask s.vendor.state = false ∧
    s.nmiInjected = false ∧ s.nmiPending + s.nmiQueued + svmVnmis s = 1

/-- How many NMIs there may be in all. -/
def svmNmiRoom (s : EventState (Platform SvmEvents I M)) : Nat :=
  if svmGetNmiMask s.vendor.state ∨ s.nmiInjected then 1 else 2

theorem svmVnmis_le (s : EventState (Platform SvmEvents I M)) : svmVnmis s ≤ 1 := by
  unfold svmVnmis
  split <;> omega

theorem svmNmiRoom_bounds (s : EventState (Platform SvmEvents I M)) :
    1 ≤ svmNmiRoom s ∧ svmNmiRoom s ≤ 2 := by
  unfold svmNmiRoom
  split <;> omega

theorem doublesNmi_iff (s : EventState (Platform SvmEvents I M)) :
    DoublesNmi s ↔ s.vendor.state.vnmiEnabled = true ∧ svmNmiRoom s = 2 ∧
      s.nmiPending + s.nmiQueued + svmVnmis s = 1 := by
  unfold DoublesNmi svmNmiRoom
  cases svmGetNmiMask s.vendor.state <;> cases s.nmiInjected <;> simp

theorem svmWaitingNmis_eq (s : EventState (Platform SvmEvents I M)) :
    svmWaitingNmis s = min (s.nmiPending + s.nmiQueued) (svmNmiRoom s - svmVnmis s) := by
  show min _ (if svmIsVnmiPending s.vendor.state then svmNmiRoom s - 1 else svmNmiRoom s) = _
  unfold svmVnmis
  split <;> rfl

section Settled

variable {t u v : EventState (Platform SvmEvents I M)}

theorem SvmProcessed.room (ht : SvmProcessed s t) : svmNmiRoom t = svmNmiRoom s := by
  rw [svmNmiRoom, ht.nmiMask, ht.nmiInjected]
  rfl

/-- Behind `process_nmi` the NMIs fit. -/
theorem SvmProcessed.fits (ht : SvmProcessed s t) :
    t.nmiPending + svmVnmis t ≤ svmNmiRoom t := by
  have hvnmi := svmVnmis_le s
  have hroom := svmNmiRoom_bounds s
  rw [ht.total, ht.room, svmWaitingNmis_eq]
  omega

/-- A second `process_nmi` leaves everything as it is. -/
theorem SvmProcessed.settled (ht : SvmProcessed s t) :
    svmWaitingNmis t = t.nmiPending ∧ svmVnmis (processNmi svmEventOps t) = svmVnmis t := by
  have hfits := ht.fits
  have hwaiting : svmWaitingNmis t = t.nmiPending := by
    rw [svmWaitingNmis_eq, ht.nmiQueued]
    omega
  refine ⟨hwaiting, ?_⟩
  have hagain : SvmProcessed t (processNmi svmEventOps t) := svmProcessNmi_spec
  rw [hagain.vnmis]
  split
  · rename_i hmore
    -- what still waits in software waits behind an NMI in the hardware
    have hfull := ht.vnmis
    have htotal := ht.total
    rw [hwaiting, ht.enabled] at hmore
    split at hfull
    · exact hfull.symm
    · rename_i hnone
      have hzero : svmWaitingNmis s = 0 := not_not.mp fun hne => hnone ⟨hmore.1, hne⟩
      omega
  · rfl

/-- **The NMIs behind the round trip** are those before it, unless one waits alone. -/
theorem SvmProcessed.nmis_iff (ht : SvmProcessed s t) (hroom : svmNmiRoom u = svmNmiRoom t)
    (hpending : u.nmiPending = 0) (hqueued : u.nmiQueued = t.nmiPending + svmVnmis t)
    (hvnmis : svmVnmis u = svmVnmis t) (hv : SvmProcessed u v) :
    v.nmiPending + svmVnmis v = t.nmiPending + svmVnmis t ↔ ¬ DoublesNmi s := by
  have hle := svmVnmis_le s
  have hbounds := svmNmiRoom_bounds s
  have htotal := ht.total
  have hvnmi := ht.vnmis
  rw [hv.total, svmWaitingNmis_eq, hpending, hqueued, hvnmis, hroom, ht.room, doublesNmi_iff]
  rw [svmWaitingNmis_eq] at htotal hvnmi
  cases henabled : s.vendor.state.vnmiEnabled with
  | false =>
    have hnone := svmVnmis_disabled henabled
    rw [if_neg (by simp [henabled])] at hvnmi
    simp only [Bool.false_eq_true, false_and, not_false_eq_true, iff_true]
    omega
  | true =>
    simp only [henabled, true_and] at hvnmi ⊢
    split at hvnmi <;> omega

end Settled

section Exceptions

variable {ex : QueuedException} {t u : EventState (Platform SvmEvents I M)}

/-- What userspace sets behind a read: an injected exception only if none is pending, and a payload
only with a pending one. -/
theorem reported_exception (deps : EventDeps SvmEvents I M)
    (reports : EventReports SvmEvents I M) (t : EventState (Platform SvmEvents I M))
    (hcaps : caps.exceptionPayloadEnabled = true)
    (hsoft : ex.pending = true ∨ ex.injected = true → exceptionIsSoft ex.vector = false) :
    (normalizeEvents (reportedEvents svmEventOps deps reports caps ex t)).exception =
      { ex with
        injected := ex.injected && !ex.pending
        hasPayload := ex.hasPayload && ex.pending } := by
  have hflags := (reportedFlags_valid hcaps).1.2.2
  have hpayload : (reportedEvents svmEventOps deps reports caps ex t).flags &&&
      vcpueventValidPayload ≠ 0 := hflags
  rw [normalizeEvents, if_pos hpayload]
  cases hpending : ex.pending with
  | true =>
    have hhard := hsoft (.inl hpending)
    rw [if_pos (by simp [reportedEvents, hpending, hhard])]
    simp [KvmVcpuEvents.exception, reportedEvents, hpending, hhard]
  | false =>
    rw [if_neg (by simp [reportedEvents, hpending])]
    cases hinjected : ex.injected with
    | true =>
      have hhard := hsoft (.inr hinjected)
      simp [KvmVcpuEvents.exception, reportedEvents, hpending, hhard, hinjected, hcaps]
    | false => simp [KvmVcpuEvents.exception, reportedEvents, hpending, hinjected, hcaps]

theorem queued_iff (hu : u.exception = { t.exception with
      injected := t.exception.injected && !t.exception.pending
      hasPayload := t.exception.hasPayload && t.exception.pending }) :
    u.queued = t.queued ↔ OneException t := by
  unfold EventState.queued OneException NotBoth
  rw [hu]
  generalize t.exception = ex
  obtain ⟨pending, injected, hasErrorCode, vector, errorCode, hasPayload, payload⟩ := ex
  cases pending <;> cases injected <;> cases hasPayload <;> simp

theorem refused_iff (reports : EventReports SvmEvents I M)
    (hcaps : caps.exceptionPayloadEnabled = true)
    (hsoft : t.exception.pending = true ∨ t.exception.injected = true →
      exceptionIsSoft t.exception.vector = false) :
    eventsRefused deps caps t.vendor.smm
        (reportedEvents svmEventOps deps reports caps t.exception t) = true ↔
      SetRefused deps false t := by
  have hflags := reportedFlags_valid hcaps
  have hnormal := reported_exception deps reports t hcaps hsoft
  simp only [KvmVcpuEvents.exception, QueuedException.mk.injEq] at hnormal
  obtain ⟨hpending, hinjected, -, hnr, -⟩ := hnormal
  generalize hn : normalizeEvents
    (reportedEvents svmEventOps deps reports caps t.exception t) = n at hpending hinjected hnr
  have hlive : (n.exceptionInjected ≠ 0 ∨ n.exceptionPending ≠ 0) ↔
      t.exception.pending = true ∨ t.exception.injected = true := by
    rw [← decide_eq_true_iff (p := n.exceptionInjected ≠ 0), hinjected,
      ← decide_eq_true_iff (p := n.exceptionPending ≠ 0), hpending]
    cases t.exception.pending <;> simp
  unfold eventsRefused SetRefused
  simp only [hn, decide_eq_true_eq, hlive, hnr]
  rw [reportedEvents_flags, or_iff_right (fun hflag => hflag hflags.2),
    or_iff_right (by simp [hcaps])]
  refine or_congr_right ?_
  rw [and_iff_right hflags.1.2.1]
  simp [reportedEvents]

end Exceptions

/-- The events survive exactly if the exception and the NMIs do. -/
theorem sameDelivery_refused {t : EventState (Platform SvmEvents I M)} (ht : SvmProcessed s t) :
    SameDelivery svmEventOps t (processNmi svmEventOps t) := by
  have hagain : SvmProcessed t (processNmi svmEventOps t) := svmProcessNmi_spec
  refine ⟨?_, ?_, hagain.nmiInjected, hagain.nmiMask, hagain.smiPending, ?_⟩
  · unfold EventState.queued
    rw [hagain.exception]
  · unfold EventState.injectedIrq
    rw [hagain.interrupt]
  · show (processNmi svmEventOps t).nmiPending + svmVnmis (processNmi svmEventOps t) = _
    rw [hagain.total, ht.settled.1]
    rfl

/-- **Where userspace sets what it has read**, the exception survives if there is one only, and the
NMIs unless one waits alone. -/
theorem sameDelivery_set (hcaps : caps.exceptionPayloadEnabled = true)
    {t : EventState (Platform SvmEvents I M)} (ht : SvmProcessed s t)
    (hsoft : t.exception.pending = true ∨ t.exception.injected = true →
      exceptionIsSoft t.exception.vector = false)
    (hhard : t.interrupt.injected = true → t.interrupt.soft = false)
    (hok : ¬ SetRefused deps false t) :
    SameDelivery svmEventOps t (processNmi svmEventOps
        (kvmVcpuIoctlX86SetVcpuEvents svmEventOps deps caps
          (reportedEvents svmEventOps deps reports caps t.exception t) t).2) ↔
      OneException t ∧ ¬ DoublesNmi s := by
  have hflags := (reportedFlags_valid hcaps).1
  have hrefused := mt (refused_iff reports hcaps hsoft).mp hok
  have hsame : deps.isSmm t.vendor.smm =
      decide ((reportedEvents svmEventOps deps reports caps t.exception t).smiSmm ≠ 0) := by
    simp [reportedEvents]
  have hset := svmSet_spec (Bool.eq_false_iff.mpr hrefused) hflags.1 hflags.2.1 hsame
  generalize (kvmVcpuIoctlX86SetVcpuEvents svmEventOps deps caps _ t).2 = u at hset
  have hv : SvmProcessed u (processNmi svmEventOps u) := svmProcessNmi_spec
  have hqueued : (processNmi svmEventOps u).queued = t.queued ↔ OneException t :=
    queued_iff (hv.exception.trans (hset.exception.trans (reported_exception _ _ _ hcaps hsoft)))
  obtain ⟨injected, pending, hasPayload, hn⟩ := normalizeEvents_keeps
    (reportedEvents svmEventOps deps reports caps t.exception t)
  have hmask : svmGetNmiMask u.vendor.state = svmGetNmiMask t.vendor.state := by
    rw [hset.nmiMask, hn]
    simp [reportedEvents, svmEventOps]
  have hinjected : u.nmiInjected = t.nmiInjected := by
    rw [hset.nmiInjected, hn]
    simp [reportedEvents]
  have hirq : (processNmi svmEventOps u).injectedIrq = t.injectedIrq := by
    unfold EventState.injectedIrq
    rw [hv.interrupt, hset.interrupt, hn]
    cases hintr : t.interrupt.injected with
    | true => simp [reportedEvents, hintr, hhard hintr]
    | false => simp [reportedEvents, hintr]
  have hsmi : u.smiPending = t.smiPending := by
    rw [hset.smiPending, hn]
    simp [reportedEvents]
  have htotal : u.nmiQueued = t.nmiPending + svmVnmis t := by
    have hfits := ht.fits
    have hroom := svmNmiRoom_bounds t
    rw [hset.nmiQueued, hn]
    show (t.nmiPending + svmVnmis t) % 2 ^ 8 = _
    omega
  have hroom : svmNmiRoom u = svmNmiRoom t := by
    rw [svmNmiRoom, hmask, hinjected]
    rfl
  have hnmis := ht.nmis_iff hroom hset.nmiPending htotal (hset.vnmis.trans ht.settled.2) hv
  refine ⟨fun h => ⟨hqueued.mp h.exception, hnmis.mp h.nmis⟩, fun ⟨hone, hnmi⟩ => ?_⟩
  exact ⟨hqueued.mpr hone, hirq, hv.nmiInjected.trans hinjected, hv.nmiMask.trans hmask,
    hv.smiPending.trans hsmi, hnmis.mpr hnmi⟩

/-- **The round trip changes nothing**, outside guest mode and with payloads, exactly if userspace
cannot set what it has read, or there is one exception at most and not one NMI alone that vNMI may
inject.  The setter counts the NMI in the hardware once more. -/
theorem eventsRestored_iff (deps : EventDeps SvmEvents I M) (reports : EventReports SvmEvents I M)
    (smi : Bool) (vmexit : QueuedException) (hcaps : caps.exceptionPayloadEnabled = true)
    (hexit : s.exceptionVmexit = false)
    (hsoft : s.exception.pending = true ∨ s.exception.injected = true →
      exceptionIsSoft s.exception.vector = false)
    (hhard : s.interrupt.injected = true → s.interrupt.soft = false) :
    let r := saveRestore svmEventOps deps reports caps smi vmexit s
    SameDelivery svmEventOps r.1 r.2 ↔
      SetRefused deps smi s ∨ (OneException s ∧ ¬ DoublesNmi s) := by
  obtain ⟨t, ht, hget⟩ := svmGet_spec deps reports smi vmexit hcaps hexit
  have hexception : t.exception = s.exception := ht.exception
  have hintr : t.interrupt = s.interrupt := ht.interrupt
  rw [← hexception] at hsoft
  rw [← hintr] at hhard
  have hone : OneException t ↔ OneException s := by
    unfold OneException NotBoth
    rw [hexception]
  have hrefused : SetRefused deps false t ↔ SetRefused deps smi s := by
    unfold SetRefused
    rw [hexception, ht.smm, ht.smiPending]
    simp
  simp only [saveRestore, hget]
  rw [← hone, ← hrefused]
  by_cases hok : SetRefused deps false t
  · have hnoop : (kvmVcpuIoctlX86SetVcpuEvents svmEventOps deps caps
        (reportedEvents svmEventOps deps reports caps t.exception t) t).2 = t := by
      rw [kvmVcpuIoctlX86SetVcpuEvents, if_pos ((refused_iff reports hcaps hsoft).mpr hok)]
    rw [hnoop]
    exact iff_of_true (sameDelivery_refused ht) (.inl hok)
  · rw [sameDelivery_set hcaps ht hsoft hhard hok, or_iff_right hok]
    exact Iff.rfl

end Svm

/-- What a virtual CPU with vNMI reports. -/
def vnmiReports : EventReports SvmEvents (List (BitVec 8)) Bool where
  getInterruptShadow := svmGetInterruptShadow
  latchedInit := fun _ => false
  smmInsideNmi := fun _ => false

/-- A virtual CPU with vNMI, with so many NMIs queued. -/
def vnmiVcpu (queued : Nat) : EventState (Platform SvmEvents (List (BitVec 8)) Bool) where
  vendor := ⟨{ vnmiEnabled := true }, [], false⟩
  nmiQueued := queued

/-- Two NMIs survive. -/
theorem eventsRestored_iff_two :
    let r := saveRestore svmEventOps queueDeps vnmiReports ⟨true, false⟩ false {} (vnmiVcpu 2)
    SameDelivery svmEventOps r.1 r.2 ↔ SetRefused queueDeps false (vnmiVcpu 2) ∨
      (OneException (vnmiVcpu 2) ∧ ¬ DoublesNmi (vnmiVcpu 2)) :=
  eventsRestored_iff queueDeps vnmiReports false {} rfl rfl (by decide) (by decide)

/-- One NMI, which the hardware has when userspace reads it, is queued again behind it. -/
theorem nmiDoubled :
    let r := saveRestore svmEventOps queueDeps vnmiReports ⟨true, false⟩ false {} (vnmiVcpu 1)
    ¬ SameDelivery svmEventOps r.1 r.2 := by
  intro r h
  have hnmis : kvmGetNrPendingNmis svmEventOps r.2 = kvmGetNrPendingNmis svmEventOps r.1 := h.nmis
  exact absurd hnmis (by decide)

end Kvm
