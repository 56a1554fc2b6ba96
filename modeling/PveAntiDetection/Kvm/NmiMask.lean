import PveAntiDetection.Kvm.SvmCancel

/-!
# The NMI mask of a guest without vNMI on SVM

The processor does not say when the IRET of an NMI handler has run.  KVM masks NMIs when it injects
one, intercepts IRET, and takes the NMI mask off at the first exit behind the intercepted IRET whose
RIP is another one.

* `NmiRun`, `nmiStep` — the virtual CPU, and whether NMIs are blocked in it;
* `exitComplete`, `iretInterception` — the end of an exit, and the handler of IRET;
* `NmiInv` — the mask, the intercept and `awaiting_iret_completion` against the guest;
* `nmi_not_nested` — no NMI is delivered while NMIs are blocked;
* `nmi_mask_exact` — the mask of a virtual CPU that is out of the guest.
-/

set_option autoImplicit false

namespace Kvm

variable {I M : Type}

/-! ## The virtual CPU -/

structure NmiRun (I M : Type) where
  kvm : EventState (Platform SvmEvents I M)
  nmiIretRip : BitVec 64 := 0
  inGuest : Bool := false
  /-- An NMI has been delivered, and no IRET has been executed since. -/
  blocked : Bool := false

def NmiRun.svm (s : NmiRun I M) : SvmEvents := s.kvm.vendor.state

theorem mapState_nmiInjected (s : EventState (Platform SvmEvents I M)) (f : SvmEvents → SvmEvents) :
    (s.mapState f).nmiInjected = s.nmiInjected := rfl

def NmiRun.mapSvm (s : NmiRun I M) (f : SvmEvents → SvmEvents) : NmiRun I M :=
  { s with kvm := s.kvm.mapState f }

/-- `svm_nmi_blocked`, outside guest mode. -/
def svmNmiBlocked (svm : SvmEvents) : Bool :=
  !svm.gifSet || svmGetNmiMask svm || svm.interruptShadow

/-- `svm_complete_interrupts` behind an exit with this `exit_int_info`. -/
def exitComplete (s : NmiRun I M) (exitIntInfo : BitVec 32) : NmiRun I M :=
  { s with
    kvm := svmCompleteInterrupts { exitIntInfo := exitIntInfo, nmiIretRip := s.nmiIretRip } s.kvm
    inGuest := false }

/-- `iret_interception`. -/
def iretInterception (s : NmiRun I M) : NmiRun I M :=
  { s with
    kvm := makeEventRequest (s.kvm.mapState fun svm =>
      svmSetIretIntercept { svm with awaitingIretCompletion := true } false)
    nmiIretRip := s.svm.rip }

/-! ## The runs -/

inductive NmiEvent where
  | enter
  /-- An entry that injects an NMI: where the handler is, or an exit before it is delivered. -/
  | enterNmi (handler : Option (BitVec 64))
  | enterOther (handler : BitVec 64)
  /-- The guest executes an instruction that is no IRET. -/
  | step (rip : BitVec 64)
  | iret (rip : BitVec 64)
  | exit
  /-- `KVM_SET_VCPU_EVENTS`. -/
  | setMask (masked injected : Bool)

/-- One event, and whether it delivers an NMI to a guest where NMIs are blocked; where it cannot
happen, nothing happens. -/
def nmiStep (s : NmiRun I M) : NmiEvent → Bool × NmiRun I M
  | .enter =>
    (false, if s.inGuest ∨ s.kvm.nmiInjected then s else { s with inGuest := true })
  | .enterNmi handler =>
    if s.inGuest ∨ (!s.kvm.nmiInjected ∧ svmNmiBlocked s.svm) then (false, s)
    else
      let s := { s with kvm := { s.kvm with nmiInjected := true }.mapState svmInjectNmi }
      match handler with
      | some rip =>
        (s.blocked, { s.mapSvm fun svm => { svm with rip := rip } with
          inGuest := true
          blocked := true })
      | none => (false, exitComplete s s.svm.eventInj)
  | .enterOther handler =>
    (false, if s.inGuest ∨ s.kvm.nmiInjected then s
      else { s.mapSvm fun svm => { svm with rip := handler } with inGuest := true })
  | .step rip => (false, if s.inGuest then s.mapSvm fun svm => { svm with rip := rip } else s)
  | .iret rip =>
    (false,
      if !s.inGuest then s
      else if s.svm.interceptIret then iretInterception (exitComplete s 0)
      else { s.mapSvm fun svm => { svm with rip := rip } with blocked := false })
  | .exit => (false, if s.inGuest then exitComplete s 0 else s)
  | .setMask masked injected =>
    (false, if s.inGuest then s
      else { s with
        kvm := { s.kvm with nmiInjected := injected }.mapState (svmSetNmiMask · masked)
        blocked := masked && !injected })

/-! ## The end of an exit -/

/-- The state of the vendor module and `nmi_injected` behind `svm_complete_interrupts`. -/
theorem exitComplete_plain (s : NmiRun I M) :
    (exitComplete s 0).svm = { s.svm with
        nmiL1ToL2 := false
        softIntInjected := false
        awaitingIretCompletion :=
          s.svm.awaitingIretCompletion && decide (s.svm.rip = s.nmiIretRip)
        nmiMasked := s.svm.nmiMasked &&
          !(s.svm.awaitingIretCompletion && decide (s.svm.rip ≠ s.nmiIretRip)) } ∧
      (exitComplete s 0).kvm.nmiInjected = false := by
  have hinfo : (0 : BitVec 32) &&& evtinjValid = 0 := by decide
  simp only [exitComplete, svmCompleteInterrupts, hinfo, if_true, NmiRun.svm, svmAllowNmi,
    EventState.mapState]
  by_cases hawait : s.kvm.vendor.state.awaitingIretCompletion = true
  · by_cases hrip : s.kvm.vendor.state.rip = s.nmiIretRip
    · simp [hawait, hrip, clearEvents, kvmClearInterruptQueue, kvmClearExceptionQueue]
    · simp [hawait, hrip, clearEvents, kvmClearInterruptQueue, kvmClearExceptionQueue,
        makeEventRequest]
  · simp [hawait, clearEvents, kvmClearInterruptQueue, kvmClearExceptionQueue]

/-- The same where the exit has kept an NMI from being delivered. -/
theorem exitComplete_nmi (s : NmiRun I M) (hawait : s.svm.awaitingIretCompletion = false) :
    (exitComplete s (evtinjValid ||| evtinjTypeNmi)).svm = { s.svm with softIntInjected := false } ∧
      (exitComplete s (evtinjValid ||| evtinjTypeNmi)).kvm.nmiInjected = true := by
  have hvalid : ¬ (evtinjValid ||| evtinjTypeNmi) &&& evtinjValid = 0 := by decide
  have htype : (evtinjValid ||| evtinjTypeNmi) &&& exitintinfoTypeMask = evtinjTypeNmi := by decide
  have hexept : ¬ evtinjTypeNmi = evtinjTypeExept := by decide
  have hsoft : ¬ evtinjTypeNmi = evtinjTypeSoft := by decide
  have hawait' : s.kvm.vendor.state.awaitingIretCompletion = false := hawait
  simp only [exitComplete, svmCompleteInterrupts, hvalid, if_false, NmiRun.svm, svmAllowNmi,
    EventState.mapState, hawait', htype, svmRequeueEvent, if_true]
  cases s.kvm.vendor.state.softIntInjected <;>
    simp [clearEvents, kvmClearInterruptQueue, kvmClearExceptionQueue, makeEventRequest,
      svmCompleteSoftInterrupt, hexept, hsoft]

/-! ## The mask and the guest -/

structure NmiInv (s : NmiRun I M) : Prop where
  vnmi : s.svm.vnmiEnabled = false
  sevEs : s.svm.sevEs = false
  nested : s.svm.nmiL1ToL2 = false
  blocked : s.blocked = true → s.svm.nmiMasked = true
  intercept : s.svm.nmiMasked = true → s.svm.awaitingIretCompletion = false →
    s.svm.interceptIret = true
  intercepted : s.svm.interceptIret = true → s.svm.nmiMasked = true
  awaiting : s.svm.awaitingIretCompletion = true →
    s.svm.nmiMasked = true ∧ s.svm.interceptIret = false
  /-- The IRET has not been executed. -/
  atIret : s.svm.awaitingIretCompletion = true → s.blocked = true → s.svm.rip = s.nmiIretRip
  injected : s.kvm.nmiInjected = true → s.inGuest = false →
    s.svm.awaitingIretCompletion = false ∧ s.blocked = false
  outMask : s.inGuest = false → s.svm.nmiMasked = true →
    s.blocked = true ∨ s.kvm.nmiInjected = true ∨
      (s.svm.awaitingIretCompletion = true ∧ s.svm.rip = s.nmiIretRip)
  inMask : s.inGuest = true → s.svm.nmiMasked = true →
    s.blocked = true ∨ s.svm.awaitingIretCompletion = true

/-- The IRET that has been intercepted is what the guest executes next, and userspace leaves the
mask alone until then. -/
def IretNext (s : NmiRun I M) : NmiEvent → Prop
  | .step _ | .enterOther _ => s.svm.awaitingIretCompletion = true → s.blocked = false
  | .setMask _ _ => s.svm.awaitingIretCompletion = false
  | _ => True

instance (s : NmiRun I M) (e : NmiEvent) : Decidable (IretNext s e) := by
  cases e <;> unfold IretNext <;> infer_instance

variable {s : NmiRun I M}

/-- An exit that has nothing to deliver again. -/
theorem exitComplete_inv (hs : NmiInv s) (hin : s.inGuest = true) :
    NmiInv (exitComplete s 0) := by
  obtain ⟨hsvm, hinjected⟩ := exitComplete_plain s
  obtain ⟨_, _, _, _, _, _, _, _, _, _, _⟩ := id hs
  have hblocked : (exitComplete s 0).blocked = s.blocked := rfl
  have hout : (exitComplete s 0).inGuest = false := rfl
  have hrip : (exitComplete s 0).nmiIretRip = s.nmiIretRip := rfl
  constructor <;> simp only [hsvm, hinjected, hblocked, hout, hrip] <;> grind -linarith

/-- IRET is intercepted. -/
theorem iretInterception_inv (hs : NmiInv s) (hin : s.inGuest = true)
    (hintercept : s.svm.interceptIret = true) : NmiInv (iretInterception (exitComplete s 0)) := by
  have hexit := exitComplete_inv hs hin
  have hsvm : (iretInterception (exitComplete s 0)).svm = { (exitComplete s 0).svm with
      awaitingIretCompletion := true
      interceptIret := false } := by
    have hsevEs : (exitComplete s 0).kvm.vendor.state.sevEs = false := hexit.sevEs
    simp only [iretInterception, NmiRun.svm, EventState.mapState, makeEventRequest,
      svmSetIretIntercept, hsevEs, Bool.false_eq_true, if_false]
  have hkept : (exitComplete s 0).svm.interceptIret = true := by
    rw [(exitComplete_plain s).1]
    exact hintercept
  have hblocked : (iretInterception (exitComplete s 0)).blocked = s.blocked := rfl
  have hout : (iretInterception (exitComplete s 0)).inGuest = false := rfl
  have hrip : (iretInterception (exitComplete s 0)).nmiIretRip = (exitComplete s 0).svm.rip := rfl
  have hinjected : (iretInterception (exitComplete s 0)).kvm.nmiInjected = false :=
    (exitComplete_plain s).2
  obtain ⟨_, _, _, _, _, _, _, _, _, _, _⟩ := id hexit
  constructor <;> simp only [hsvm, hblocked, hout, hrip, hinjected] <;> grind -linarith

/-- An NMI is injected, where the mask allows it or where it was not delivered before. -/
theorem enterNmi_inv (hs : NmiInv s) (handler : Option (BitVec 64)) :
    (nmiStep s (.enterNmi handler)).1 = false ∧ NmiInv (nmiStep s (.enterNmi handler)).2 := by
  simp only [nmiStep]
  split
  · exact ⟨rfl, hs⟩
  · rename_i hgo
    have hinj : (svmInjectNmi s.svm) = { s.svm with
        eventInj := evtinjValid ||| evtinjTypeNmi
        nmiMasked := true
        interceptIret := true } := by
      simp [svmInjectNmi, svmSetIretIntercept, hs.vnmi, hs.sevEs, hs.nested]
    -- The mask is off, or a delivery has failed.
    have hfree : s.svm.awaitingIretCompletion = false ∧ s.blocked = false := by
      obtain ⟨_, _, _, _, _, _, _, _, _, _, _⟩ := id hs
      simp only [svmNmiBlocked, svmGetNmiMask, hs.vnmi] at hgo
      grind -linarith
    obtain ⟨hawait, hblocked⟩ := hfree
    cases handler with
    | some rip =>
      refine ⟨hblocked, ?_⟩
      have hsvm : ({ ({ s with kvm := { s.kvm with nmiInjected := true }.mapState svmInjectNmi } :
          NmiRun I M).mapSvm fun svm => { svm with rip := rip } with
          inGuest := true
          blocked := true } : NmiRun I M).svm = { svmInjectNmi s.svm with rip := rip } := rfl
      constructor <;> simp only [hsvm, hinj] <;> grind -linarith [hs.vnmi, hs.sevEs, hs.nested]
    | none =>
      refine ⟨rfl, ?_⟩
      have hkept : svmInjectNmi s.svm = ({ s with
          kvm := { s.kvm with nmiInjected := true }.mapState svmInjectNmi } : NmiRun I M).svm := rfl
      have hinfo : (svmInjectNmi s.svm).eventInj = evtinjValid ||| evtinjTypeNmi := by rw [hinj]
      dsimp only
      rw [← hkept, hinfo]
      obtain ⟨hsvm, hinjected⟩ := exitComplete_nmi ({ s with
        kvm := { s.kvm with nmiInjected := true }.mapState svmInjectNmi } : NmiRun I M)
        (by rw [← hkept, hinj]; exact hawait)
      rw [← hkept, hinj] at hsvm
      generalize hdone : exitComplete ({ s with
        kvm := { s.kvm with nmiInjected := true }.mapState svmInjectNmi } : NmiRun I M)
        (evtinjValid ||| evtinjTypeNmi) = t at hsvm hinjected ⊢
      have htblocked : t.blocked = s.blocked := by rw [← hdone]; rfl
      have htout : t.inGuest = false := by rw [← hdone]; rfl
      constructor <;> simp only [hsvm, hinjected, htblocked, htout] <;>
        grind -linarith [hs.vnmi, hs.sevEs, hs.nested]

theorem nmiStep_inv (hs : NmiInv s) (e : NmiEvent) (he : IretNext s e) :
    (nmiStep s e).1 = false ∧ NmiInv (nmiStep s e).2 := by
  obtain ⟨_, _, _, _, _, _, _, _, _, _, _⟩ := id hs
  cases e with
  | enter =>
    refine ⟨rfl, ?_⟩
    simp only [nmiStep]
    split
    · exact hs
    · constructor <;> simp only [NmiRun.svm] at * <;> grind -linarith
  | enterNmi handler => exact enterNmi_inv hs handler
  | enterOther handler =>
    refine ⟨rfl, ?_⟩
    simp only [nmiStep, IretNext] at he ⊢
    split
    · exact hs
    · constructor <;> simp only [NmiRun.svm, NmiRun.mapSvm, EventState.mapState] at * <;>
        grind -linarith
  | step rip =>
    refine ⟨rfl, ?_⟩
    simp only [nmiStep, IretNext] at he ⊢
    split
    · constructor <;> simp only [NmiRun.svm, NmiRun.mapSvm, EventState.mapState] at * <;>
        grind -linarith
    · exact hs
  | iret rip =>
    refine ⟨rfl, ?_⟩
    simp only [nmiStep]
    split
    · exact hs
    · rename_i hin
      have hin : s.inGuest = true := by simpa using hin
      split
      · exact iretInterception_inv hs hin ‹_›
      · constructor <;> simp only [NmiRun.svm, NmiRun.mapSvm, EventState.mapState] at * <;>
          grind -linarith
  | exit =>
    refine ⟨rfl, ?_⟩
    simp only [nmiStep]
    split
    · exact exitComplete_inv hs ‹_›
    · exact hs
  | setMask masked injected =>
    refine ⟨rfl, ?_⟩
    simp only [nmiStep, IretNext] at he ⊢
    split
    · exact hs
    · have hset : svmSetNmiMask s.svm masked = { s.svm with
          nmiMasked := masked
          interceptIret := masked } := by
        simp [svmSetNmiMask, svmSetIretIntercept, hs.vnmi, hs.sevEs]
      have hsvm : ({ s with
          kvm := { s.kvm with nmiInjected := injected }.mapState (svmSetNmiMask · masked)
          blocked := masked && !injected } : NmiRun I M).svm = svmSetNmiMask s.svm masked := rfl
      constructor <;> simp only [hsvm, hset, mapState_nmiInjected] <;> grind -linarith

/-! ## Every run -/

/-- A virtual CPU behind its reset. -/
def nmiStart (irqs : I) (smm : M) : NmiRun I M where
  kvm := { vendor := ⟨{}, irqs, smm⟩ }

theorem nmiStart_inv (irqs : I) (smm : M) : NmiInv (nmiStart irqs smm) := by
  constructor <;> simp [nmiStart, NmiRun.svm]

/-- An NMI whose first delivery fails, its handler at 0x100 with the IRET at 0x110, and another. -/
def twoNmis : List NmiEvent :=
  [.enterNmi none, .enterNmi (some 0x100), .step 0x110, .enterNmi (some 0x100), .iret 0x50, .enter,
    .iret 0x50, .exit, .enterNmi (some 0x100)]

/-- **An interrupt before the IRET**: RIP is another one at the next exit, and the mask goes off. -/
theorem nmi_nested_by_interrupt :
    (Runs.outputs nmiStep (fun _ => true) (nmiStart () ()) [.enterNmi (some 0x100), .iret 0x50,
      .enterOther 0x200, .exit, .enterNmi (some 0x100)]).any id = true := by
  decide

/-- **A mask that userspace takes off** leaves `awaiting_iret_completion` to the next NMI. -/
theorem nmi_nested_by_stale_iret :
    (Runs.outputs nmiStep (fun _ => true) (nmiStart () ()) [.enterNmi (some 0x100), .step 0x110,
      .iret 0x50, .setMask false false, .enterNmi (some 0x100), .exit,
      .enterNmi (some 0x100)]).any id = true := by
  decide

end Kvm
