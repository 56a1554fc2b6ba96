import PveAntiDetection.Kvm.Exceptions
import PveAntiDetection.Kvm.FakeTsc

/-!
# Single-stepping over completed instructions

Two ways to advance RIP: `kvm_skip_emulated_instruction`, which every completed instruction is to
take, and the vendor module's own skip, which is its inner half and which the RDTSC handlers call.

* `Stepping` — the events and the debug exit of a virtual CPU, beside its vendor state;
* `vmxSkipEmulatedInstruction`, `svmSkipEmulatedInstruction` — the vendor modules' skips;
* `kvmSkipEmulatedInstruction` — the whole skip;
* `StepReported` — the guest or its debugger learns of the step;
* `kvmSkip_reports` — the whole skip reports every step;
* `stepReported_iff` — when the RDTSC handlers do.
-/

set_option autoImplicit false

namespace Kvm

/-! ## The virtual CPU -/

/-- `KVM_EXIT_DEBUG`, `KVM_EXIT_INTERNAL_ERROR`. -/
def kvmExitDebug : Nat := 4
def kvmExitInternalError : Nat := 17

/-- `EXIT_REASON_EPT_MISCONFIG`. -/
def exitReasonEptMisconfig : Nat := 49

/-- `struct kvm_debug_exit_arch`. -/
structure DebugExit where
  exception : BitVec 8 := 0
  pc : BitVec 64 := 0
  dr6 : BitVec 64 := 0
  deriving DecidableEq

/-- What a skip touches beside the registers, with the vendor state `V`. -/
structure Stepping (V : Type) where
  events : EventState V
  debug : DebugExit := {}
  is64BitMode : Bool := true
  csBase : BitVec 64 := 0
  deriving DecidableEq

/-- The part of `struct vcpu_vmx` that a skip reads. -/
structure VmxStep where
  /-- `exit_reason.basic`. -/
  exitReason : Nat := 16
  /-- `X86_FEATURE_HYPERVISOR` of the host. -/
  hypervisor : Bool := false
  interruptShadow : Bool := false
  deriving DecidableEq

/-- The part of `struct vcpu_svm` that a skip reads. -/
structure SvmStep where
  sevEs : Bool := false
  nrips : Bool := true
  nextRip : BitVec 64 := 0
  /-- `vmcb->control.next_rip`. -/
  vmcbNextRip : BitVec 64 := 0
  interruptShadow : Bool := false
  deriving DecidableEq

variable {V : Type}

/-- The skip with the emulator: the result, and the virtual CPU. -/
def emulateSkipVcpu (outcome : SkipOutcome) (v : Vcpu (Stepping V)) : Int × Vcpu (Stepping V) :=
  let v := { v with msrs := { v.msrs with events := emulateSkip outcome v.msrs.events } }
  match outcome with
  | .propagateFault => (1, v)
  | .decoded rip _ => (1, { v with rip := rip })
  -- `handle_emulation_failure`
  | _ => (0, { v with run := { v.run with exitReason := kvmExitInternalError } })

/-! ## The skips of the vendor modules -/

/-- RIP behind the instruction, which is cut to 32 bits outside 64-bit mode if it carries. -/
def advanceRip (v : Vcpu (Stepping V)) : BitVec 64 :=
  let rip := v.rip + v.instructionLen
  if (rip ^^^ v.rip) >>> 31 = 3 ∧ ¬ v.msrs.is64BitMode then rip &&& mask32 else rip

def VmxStep.setShadow (v : Vcpu (Stepping VmxStep)) : Vcpu (Stepping VmxStep) :=
  { v with msrs := { v.msrs with events := { v.msrs.events with
      vendor := { v.msrs.events.vendor with interruptShadow := false } } } }

/-- `skip_emulated_instruction` of `vmx.c`. -/
def vmxSkipEmulatedInstruction (outcome : Vcpu (Stepping VmxStep) → SkipOutcome)
    (v : Vcpu (Stepping VmxStep)) : Int × Vcpu (Stepping VmxStep) :=
  let vmx := v.msrs.events.vendor
  if ¬ vmx.hypervisor ∨ vmx.exitReason ≠ exitReasonEptMisconfig then
    if v.instructionLen = 0 then (1, VmxStep.setShadow v)
    else (1, VmxStep.setShadow { v with rip := advanceRip v })
  else
    let r := emulateSkipVcpu (outcome v) v
    if r.1 = 0 then (0, r.2) else (1, VmxStep.setShadow r.2)

def SvmStep.setShadow (v : Vcpu (Stepping SvmStep)) : Vcpu (Stepping SvmStep) :=
  { v with msrs := { v.msrs with events := { v.msrs.events with
      vendor := { v.msrs.events.vendor with interruptShadow := false } } } }

/-- RIP of the next instruction as `__svm_skip_emulated_instruction` finds it; 0 if it does not. -/
def SvmStep.known (svm : SvmStep) : BitVec 64 :=
  if svm.nrips ∧ svm.vmcbNextRip ≠ 0 then svm.vmcbNextRip else svm.nextRip

/-- `svm->next_rip` takes what has been found. -/
def SvmStep.settle (v : Vcpu (Stepping SvmStep)) : Vcpu (Stepping SvmStep) :=
  { v with msrs := { v.msrs with events := { v.msrs.events with
      vendor := { v.msrs.events.vendor with nextRip := v.msrs.events.vendor.known } } } }

/-- `svm_skip_emulated_instruction`. -/
def svmSkipEmulatedInstruction (outcome : Vcpu (Stepping SvmStep) → SkipOutcome)
    (v : Vcpu (Stepping SvmStep)) : Int × Vcpu (Stepping SvmStep) :=
  let svm := v.msrs.events.vendor
  if svm.sevEs then (1, SvmStep.setShadow v)
  else
    let v := SvmStep.settle v
    if svm.known = 0 then
      let r := emulateSkipVcpu (outcome v) v
      if r.1 = 0 then (0, r.2) else (1, SvmStep.setShadow r.2)
    else (1, SvmStep.setShadow { v with rip := svm.known })

/-! ## The whole skip -/

/-- `kvm_get_linear_rip`. -/
def kvmGetLinearRip (v : Vcpu (Stepping V)) : BitVec 64 :=
  if v.msrs.is64BitMode then v.rip else (v.msrs.csBase + v.rip) &&& mask32

/-- `kvm_vcpu_do_singlestep`. -/
def kvmVcpuDoSinglestep (v : Vcpu (Stepping V)) : Int × Vcpu (Stepping V) :=
  if v.msrs.events.guestDebug &&& guestdbgSinglestep ≠ 0 then
    (0, { v with
      run := { v.run with exitReason := kvmExitDebug }
      msrs := { v.msrs with debug := ⟨dbVector, kvmGetLinearRip v, dr6Bs ||| dr6ActiveLow⟩ } })
  else
    (1, { v with msrs := { v.msrs with
      events := kvmQueueExceptionP v.msrs.events dbVector dr6Bs } })

/-- `kvm_skip_emulated_instruction`, over the skip of the vendor module. -/
def kvmSkipEmulatedInstruction (skip : Vcpu (Stepping V) → Int × Vcpu (Stepping V))
    (v : Vcpu (Stepping V)) : Int × Vcpu (Stepping V) :=
  let rflags := v.msrs.events.rflags
  let r := skip v
  if r.1 = 0 then (0, r.2)
  else if rflags &&& eflagsTf ≠ 0 then kvmVcpuDoSinglestep r.2
  else r

/-! ## Reports of a step -/

/-- A #DB with DR6.BS is queued. -/
def DebugQueued (s : EventState V) : Prop :=
  s.exception.pending = true ∧ s.exception.vector = dbVector ∧ s.dr6 &&& dr6Bs ≠ 0

instance (s : EventState V) : Decidable (DebugQueued s) :=
  inferInstanceAs (Decidable (_ ∧ _ ∧ _))

/-- What the guest or its debugger learns of a completed instruction: a #DB with DR6.BS is queued,
or the exit is `KVM_EXIT_DEBUG` under `KVM_GUESTDBG_SINGLESTEP`. -/
def StepReported (r : Int × Vcpu (Stepping V)) : Prop :=
  DebugQueued r.2.msrs.events ∨
    (r.2.msrs.events.guestDebug &&& guestdbgSinglestep ≠ 0 ∧ r.1 = 0 ∧
      r.2.run.exitReason = kvmExitDebug)

instance (r : Int × Vcpu (Stepping V)) : Decidable (StepReported r) :=
  inferInstanceAs (Decidable (_ ∨ _))

/-- A #DB queued into an empty queue carries DR6.BS. -/
theorem debugQueued_queue {s : EventState V} (hpending : s.exception.pending = false)
    (hinjected : s.exception.injected = false) :
    DebugQueued (kvmQueueExceptionP s dbVector dr6Bs) := by
  have hbs : dr6WithPayload s.dr6 dr6Bs &&& dr6Bs ≠ 0 := by
    have hbit : (dr6WithPayload s.dr6 dr6Bs &&& dr6Bs).getLsbD 14 = true := by
      simp [dr6WithPayload, dr6Bs, dr6ActiveLow, drTrapBits]
    intro h
    rw [h] at hbit
    cases hbit
  simp only [kvmQueueExceptionP, kvmMultipleException, hpending, hinjected]
  exact ⟨rfl, rfl, hbs⟩

/-- **The whole skip reports every step**: with RFLAGS.TF set, and behind a vendor skip that
succeeds and leaves the queue empty. -/
theorem kvmSkip_reports {skip : Vcpu (Stepping V) → Int × Vcpu (Stepping V)}
    {v : Vcpu (Stepping V)} (htf : v.msrs.events.rflags &&& eflagsTf ≠ 0) (hskip : (skip v).1 ≠ 0)
    (hpending : (skip v).2.msrs.events.exception.pending = false)
    (hinjected : (skip v).2.msrs.events.exception.injected = false) :
    StepReported (kvmSkipEmulatedInstruction skip v) := by
  simp only [kvmSkipEmulatedInstruction, if_neg hskip, if_pos htf, kvmVcpuDoSinglestep]
  by_cases hdebug : (skip v).2.msrs.events.guestDebug &&& guestdbgSinglestep ≠ 0
  · rw [if_pos hdebug]
    exact .inr ⟨hdebug, rfl, rfl⟩
  · rw [if_neg hdebug]
    exact .inl (debugQueued_queue hpending hinjected)

/-! ## The RDTSC handlers -/

/-- The emulator leaves no #DB behind, whether it clears the queue or puts a #UD there, unless it
refuses the instruction. -/
theorem debugQueued_emulateSkip (outcome : SkipOutcome) (s : EventState V) :
    DebugQueued (emulateSkip outcome s) ↔ outcome = .unhandleable ∧ DebugQueued s := by
  cases outcome with
  | unhandleable => exact (and_iff_right rfl).symm
  | undecodable => exact iff_of_false (fun h => nomatch h.1) (fun h => nomatch h.1)
  | decoded rip b =>
    refine iff_of_false ?_ (fun h => nomatch h.1)
    rintro ⟨hpending, -⟩
    rw [emulateSkip_decoded] at hpending
    cases hpending
  | propagateFault =>
    refine iff_of_false ?_ (fun h => nomatch h.1)
    rintro ⟨-, hvector, -⟩
    have hmem := kvmMultipleException_vector s udVector false 0 false 0 false
    rw [show (kvmMultipleException s udVector false 0 false 0 false).exception.vector = dbVector
      from hvector] at hmem
    exact absurd hmem (by decide)

/-- The vendor skips leave an exit to the debugger to their callers. -/
theorem emulateSkipVcpu_result (outcome : SkipOutcome) (v : Vcpu (Stepping V))
    (h : (emulateSkipVcpu outcome v).1 = 0) :
    (emulateSkipVcpu outcome v).2.run.exitReason = kvmExitInternalError := by
  cases outcome with
  | unhandleable => rfl
  | undecodable => rfl
  | propagateFault => cases h
  | decoded rip b => cases h

@[simp] theorem emulateSkipVcpu_events (outcome : SkipOutcome) (v : Vcpu (Stepping V)) :
    (emulateSkipVcpu outcome v).2.msrs.events = emulateSkip outcome v.msrs.events := by
  cases outcome <;> rfl

/-- The emulator leaves RAX and RDX alone. -/
theorem emulateSkipVcpu_edxEax (outcome : SkipOutcome) (v : Vcpu (Stepping V)) :
    (emulateSkipVcpu outcome v).2.edxEax = v.edxEax := by
  cases outcome <;> rfl

/-- The skip of `handle_rdtsc`. -/
def vmxSkip (outcome : Vcpu (Stepping VmxStep) → SkipOutcome) :
    SkipInstruction (Stepping VmxStep) where
  skip := vmxSkipEmulatedInstruction outcome
  keeps := by
    intro v
    simp only [vmxSkipEmulatedInstruction]
    split
    · split <;> rfl
    · split
      · exact emulateSkipVcpu_edxEax (outcome v) v
      · exact emulateSkipVcpu_edxEax (outcome v) v

/-- The skip of `handle_rdtsc_interception`. -/
def svmSkip (outcome : Vcpu (Stepping SvmStep) → SkipOutcome) :
    SkipInstruction (Stepping SvmStep) where
  skip := svmSkipEmulatedInstruction outcome
  keeps := by
    intro v
    simp only [svmSkipEmulatedInstruction]
    split
    · rfl
    · split
      · split
        · exact emulateSkipVcpu_edxEax _ _
        · exact emulateSkipVcpu_edxEax _ _
      · rfl

/-- A vendor skip that is done, or that has failed in the emulator, makes no exit to the debugger:
what it reports is what the queue holds. -/
theorem stepReported_of_done {r : Int × Vcpu (Stepping V)}
    (h : r.1 = 0 → r.2.run.exitReason = kvmExitInternalError) :
    StepReported r ↔ DebugQueued r.2.msrs.events := by
  refine ⟨fun hr => hr.resolve_right ?_, .inl⟩
  rintro ⟨-, hzero, hdebug⟩
  exact absurd ((h hzero).symm.trans hdebug) (by decide)

/-- The skip with the emulator, whatever is done to the vendor state behind it. -/
theorem stepReported_emulated {outcome : SkipOutcome} {v : Vcpu (Stepping V)}
    (f : Vcpu (Stepping V) → Vcpu (Stepping V))
    (hf : ∀ w, (f w).msrs.events.exception = w.msrs.events.exception ∧
      (f w).msrs.events.dr6 = w.msrs.events.dr6) :
    StepReported (if (emulateSkipVcpu outcome v).1 = 0 then (0, (emulateSkipVcpu outcome v).2)
      else (1, f (emulateSkipVcpu outcome v).2)) ↔
      outcome = .unhandleable ∧ DebugQueued v.msrs.events := by
  rw [← debugQueued_emulateSkip, ← emulateSkipVcpu_events]
  split
  · rename_i hzero
    exact stepReported_of_done fun _ => emulateSkipVcpu_result outcome v hzero
  · rw [stepReported_of_done (fun h => absurd h Int.one_ne_zero)]
    obtain ⟨hexception, hdr6⟩ := hf (emulateSkipVcpu outcome v).2
    unfold DebugQueued
    rw [hexception, hdr6]

/-- The VMX skip leaves the queue alone: it does not take the emulator, or is refused by it. -/
def VmxKeepsQueue (outcome : Vcpu (Stepping VmxStep) → SkipOutcome)
    (v : Vcpu (Stepping VmxStep)) : Prop :=
  v.msrs.events.vendor.hypervisor = true ∧
    v.msrs.events.vendor.exitReason = exitReasonEptMisconfig → outcome v = .unhandleable

/-- The SVM skip leaves the queue alone. -/
def SvmKeepsQueue (outcome : Vcpu (Stepping SvmStep) → SkipOutcome)
    (v : Vcpu (Stepping SvmStep)) : Prop :=
  v.msrs.events.vendor.sevEs = false ∧ v.msrs.events.vendor.known = 0 →
    outcome (SvmStep.settle v) = .unhandleable

theorem vmxSkip_reported_iff (outcome : Vcpu (Stepping VmxStep) → SkipOutcome)
    (v : Vcpu (Stepping VmxStep)) : StepReported (vmxSkipEmulatedInstruction outcome v) ↔
      DebugQueued v.msrs.events ∧ VmxKeepsQueue outcome v := by
  unfold VmxKeepsQueue
  simp only [vmxSkipEmulatedInstruction]
  by_cases hlen : ¬ v.msrs.events.vendor.hypervisor ∨
      v.msrs.events.vendor.exitReason ≠ exitReasonEptMisconfig
  · have hdirect : ¬ (v.msrs.events.vendor.hypervisor = true ∧
        v.msrs.events.vendor.exitReason = exitReasonEptMisconfig) := by
      rintro ⟨hhyp, hreason⟩
      exact hlen.elim (fun h => h hhyp) (fun h => h hreason)
    rw [if_pos hlen, iff_true_intro (fun h => absurd h hdirect), and_true]
    split
    · exact stepReported_of_done (fun h => absurd h Int.one_ne_zero)
    · exact stepReported_of_done (fun h => absurd h Int.one_ne_zero)
  · have hemulated : v.msrs.events.vendor.hypervisor = true ∧
        v.msrs.events.vendor.exitReason = exitReasonEptMisconfig := by
      simpa using hlen
    rw [if_neg hlen, stepReported_emulated VmxStep.setShadow (fun _ => ⟨rfl, rfl⟩)]
    simp only [hemulated, and_self, true_implies, and_comm]

theorem svmSkip_reported_iff (outcome : Vcpu (Stepping SvmStep) → SkipOutcome)
    (v : Vcpu (Stepping SvmStep)) : StepReported (svmSkipEmulatedInstruction outcome v) ↔
      DebugQueued v.msrs.events ∧ SvmKeepsQueue outcome v := by
  unfold SvmKeepsQueue
  simp only [svmSkipEmulatedInstruction]
  by_cases hes : v.msrs.events.vendor.sevEs = true
  · rw [if_pos hes, stepReported_of_done (fun h => absurd h Int.one_ne_zero)]
    simp only [hes, Bool.true_eq_false, false_and, false_implies, and_true]
    exact Iff.rfl
  · rw [if_neg hes]
    by_cases hknown : v.msrs.events.vendor.known = 0
    · rw [if_pos hknown, stepReported_emulated SvmStep.setShadow (fun _ => ⟨rfl, rfl⟩)]
      simp only [hes, hknown, and_self, true_implies]
      exact and_comm
    · rw [if_neg hknown, stepReported_of_done (fun h => absurd h Int.one_ne_zero)]
      simp only [hknown, and_false, false_implies, and_true]
      exact Iff.rfl

/-- **The RDTSC handlers report a step exactly when** it had been queued before they were entered,
and the skip leaves the queue alone: the step over RDTSC itself is never reported. -/
theorem stepReported_iff (vmxOutcome : Vcpu (Stepping VmxStep) → SkipOutcome)
    (svmOutcome : Vcpu (Stepping SvmStep) → SkipOutcome) (t : TscStatics)
    (rdtscReal : BitVec 64) :
    (∀ v, StepReported (handleRdtsc (vmxSkip vmxOutcome) t v rdtscReal).2 ↔
      DebugQueued v.msrs.events ∧
        VmxKeepsQueue vmxOutcome (v.writeEdxEax (rdtscFakeStep t rdtscReal).rdtscFake)) ∧
    (∀ v, StepReported (handleRdtscInterception (svmSkip svmOutcome) t v rdtscReal).2 ↔
      DebugQueued v.msrs.events ∧
        SvmKeepsQueue svmOutcome (v.writeEdxEax (rdtscFakeStep t rdtscReal).rdtscFake)) :=
  ⟨fun v => vmxSkip_reported_iff vmxOutcome (v.writeEdxEax (rdtscFakeStep t rdtscReal).rdtscFake),
    fun v => svmSkip_reported_iff svmOutcome (v.writeEdxEax (rdtscFakeStep t rdtscReal).rdtscFake)⟩

/-- A guest that single-steps over RDTSC. -/
def steppingVcpu : Vcpu (Stepping VmxStep) where
  rip := 0x1000
  instructionLen := 2
  msrs := { events := { vendor := {}, rflags := 0x102 } }

/-- It gets no #DB, where the whole skip would queue one. -/
theorem rdtscStepLost :
    steppingVcpu.msrs.events.rflags &&& eflagsTf ≠ 0 ∧
      ¬ StepReported (handleRdtsc (vmxSkip fun _ => .undecodable) {} steppingVcpu 100).2 ∧
      StepReported (kvmSkipEmulatedInstruction
        (vmxSkipEmulatedInstruction fun _ => .undecodable) steppingVcpu) := by
  decide

end Kvm
