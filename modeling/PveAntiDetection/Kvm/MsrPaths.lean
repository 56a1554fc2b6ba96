import PveAntiDetection.Lib.Runs
import PveAntiDetection.Kvm.MsrExits

/-!
# Two paths to the same MSRs

A guest access takes the exit handler or the instruction emulator, whichever the exit calls for.

* `MsrState` — the module variables and the MSRs of one virtual CPU; `access` — one guest access
  on either path;
* `DebugctlVendor` — what both vendor modules do with `IA32_DEBUGCTL`; `vmx_debugctl`,
  `svm_debugctl`;
* `readsAgree_iff`, `writesAgree_iff`, `pathsAgree_iff` — when the two paths agree.
-/

set_option autoImplicit false

namespace Kvm

variable {M : Type}

/-! ## Guest accesses -/

/-- The exit handlers, or the instruction emulator. -/
inductive Path where
  | exit
  | emulator
  deriving DecidableEq

/-- A guest access, with what the uninitialised locals of the handler held. -/
inductive Access where
  | read (path : Path) (index : BitVec 32) (data₀ : BitVec 64)
  | write (path : Path) (index : BitVec 32) (data : BitVec 64) (r₀ : Int)
  deriving DecidableEq

/-- The module variables, and the MSRs of a virtual CPU. -/
structure MsrState (M : Type) where
  global : Global
  msrs : M
  deriving DecidableEq

/-- The virtual CPU at an access: its configuration `v`, with the MSRs of the state and the
operands in its registers. -/
def MsrState.enter (s : MsrState M) (v : Vcpu M) (index : BitVec 32) (data : BitVec 64) : Vcpu M :=
  { v.writeEdxEax data with msrs := s.msrs, rcx := index.setWidth 64 }

section Paths

variable (V : Vendor M) (v : Vcpu M) (s : MsrState M)

/-- A read on a path: the value the guest gets, or none for a fault. -/
def readValue (path : Path) (index : BitVec 32) (data₀ : BitVec 64) : Option (BitVec 64) :=
  match path with
  | .exit => (rdmsrExit V s.global (s.enter v index 0#64) data₀).value
  | .emulator =>
    let r := emulatorGetMsrWithFilter V s.global (s.enter v index 0#64) index data₀
    if r.1 = .continue then some r.2.1 else none

/-- A write on a path: whether it completes without a fault, and the state it leaves. -/
def writeState (path : Path) (index : BitVec 32) (data : BitVec 64) (r₀ : Int) :
    Bool × MsrState M :=
  match path with
  | .exit =>
    let e := wrmsrExit V s.global (s.enter v index data) r₀
    (decide e.1.Completes, ⟨e.2, e.1.vcpu.msrs⟩)
  | .emulator =>
    let r := emulatorSetMsrWithFilter V s.global (s.enter v index data) index data
    (decide (r.1 = .continue), ⟨s.global, r.2.msrs⟩)

/-- One access: the value of a read, and the next state. -/
def access : Access → Option (BitVec 64) × MsrState M
  | .read path index data₀ => (readValue V v s path index data₀, s)
  | .write path index data r₀ => (none, (writeState V v s path index data r₀).2)

end Paths

/-- What the guest sees of a list of accesses. -/
def seen (V : Vendor M) (v : Vcpu M) (s : MsrState M) (accs : List Access) :
    List (Option (BitVec 64)) :=
  Runs.outputs (access V v) (fun _ => true) s accs

/-- Both paths fault, or both return the same value. -/
def ReadsAgree (V : Vendor M) (v : Vcpu M) (s : MsrState M) (index : BitVec 32) : Prop :=
  ∀ d d', readValue V v s .exit index d = readValue V v s .emulator index d'

/-- Both paths fault or neither does, and no later accesses tell them apart. -/
def WritesAgree (V : Vendor M) (v : Vcpu M) (s : MsrState M) (index : BitVec 32)
    (data : BitVec 64) : Prop :=
  ∀ r₀ r₁, (writeState V v s .exit index data r₀).1 = (writeState V v s .emulator index data r₁).1 ∧
    ∀ accs, seen V v (writeState V v s .exit index data r₀).2 accs =
      seen V v (writeState V v s .emulator index data r₁).2 accs

/-! ## The registers of an access -/

section Enter

variable (v : Vcpu M) (s : MsrState M) (index : BitVec 32) (data : BitVec 64)

@[simp] theorem enter_ecx : (s.enter v index data).ecx = index := by
  simp [MsrState.enter, Vcpu.ecx]

@[simp] theorem enter_edxEax : (s.enter v index data).edxEax = data :=
  Vcpu.edxEax_writeEdxEax v data

@[simp] theorem enter_msrs : (s.enter v index data).msrs = s.msrs := rfl

@[simp] theorem enter_vm : (s.enter v index data).vm = v.vm := rfl

end Enter

/-! ## What the vendor modules do with `IA32_DEBUGCTL` -/

/-- Reads of `IA32_DEBUGCTL` are always answered, and a guest write with bit 14 changes nothing. -/
structure DebugctlVendor (V : Vendor M) : Prop where
  answers : ∀ (m : M) (host : Bool), (V.getMsr m msrIa32Debugctl host).1 = 0
  freeze : FreezeIgnored V

theorem vmx_debugctl : DebugctlVendor vmx where
  answers := by
    intro m host
    rfl
  freeze := vmx_freezeIgnored

theorem svm_debugctl : DebugctlVendor svm where
  answers := by
    intro m host
    rfl
  freeze := svm_freezeIgnored

/-! ## The emulator's accesses -/

section Emulator

variable {V : Vendor M} {g : Global} {v : Vcpu M}

theorem emulatorGet_continue_iff (index : BitVec 32) (d : BitVec 64) :
    (emulatorGetMsrWithFilter V g v index d).1 = .continue ↔
      (kvmGetMsrWithFilter V g v index d).1 = 0 := by
  simp only [emulatorGetMsrWithFilter]
  by_cases hneg : (kvmGetMsrWithFilter V g v index d).1 < 0
  · rw [if_pos hneg]
    exact ⟨(by intro h; cases h), (by omega)⟩
  · rw [if_neg hneg]
    by_cases hr : (kvmGetMsrWithFilter V g v index d).1 = 0
    · simp [hr]
    · rw [if_pos hr]
      refine ⟨fun h => ?_, fun h => absurd h hr⟩
      split at h <;> cases h

theorem emulatorGet_value (index : BitVec 32) (d : BitVec 64) :
    (emulatorGetMsrWithFilter V g v index d).2.1 = (kvmGetMsrWithFilter V g v index d).2 := by
  simp only [emulatorGetMsrWithFilter]
  split
  · rfl
  · split
    · split <;> rfl
    · rfl

theorem emulatorSet_continue_iff (index : BitVec 32) (data : BitVec 64) :
    (emulatorSetMsrWithFilter V g v index data).1 = .continue ↔
      (kvmSetMsrWithFilter V g v index data).1 = 0 := by
  simp only [emulatorSetMsrWithFilter]
  by_cases hneg : (kvmSetMsrWithFilter V g v index data).1 < 0
  · rw [if_pos hneg]
    exact ⟨(by intro h; cases h), (by omega)⟩
  · rw [if_neg hneg]
    by_cases hr : (kvmSetMsrWithFilter V g v index data).1 = 0
    · simp [hr]
    · rw [if_pos hr]
      refine ⟨fun h => ?_, fun h => absurd h hr⟩
      split at h <;> cases h

theorem emulatorSet_msrs (index : BitVec 32) (data : BitVec 64) :
    (emulatorSetMsrWithFilter V g v index data).2.msrs =
      (kvmSetMsrWithFilter V g v index data).2.msrs := by
  simp only [emulatorSetMsrWithFilter]
  split
  · rfl
  · split
    · split
      · rename_i h
        exact kvmMsrUserSpace_msrs h
      · rfl
    · rfl

/-- When a write exit completes. -/
theorem wrmsrEnd_completes_iff (ecx : BitVec 32) (data : BitVec 64) (r : Int) :
    (wrmsrEnd g ecx data r v).1.Completes ↔ r = 0 := by
  unfold wrmsrEnd Exit.Completes
  by_cases hr : r = 0
  · simp [hr]
  · rw [if_neg hr]
    refine ⟨fun h => ?_, fun h => absurd h hr⟩
    obtain ⟨w, hw⟩ := h
    split at hw
    · cases hw
    · split at hw
      · cases hw
      · rw [Exit.complete.injEq] at hw
        exact hw.2

end Emulator

/-! ## Reads -/

section Reads

variable {V : Vendor M} {v : Vcpu M} {s : MsrState M}

theorem readValue_exit (index : BitVec 32) (d : BitVec 64) : readValue V v s .exit index d =
    if rdmsrOverride index (kvmGetMsrWithFilter V s.global (s.enter v index 0#64) index d).1 = 0 then
      some (if index = 0x1d9#32 then s.global.data1d9
        else (kvmGetMsrWithFilter V s.global (s.enter v index 0#64) index d).2)
    else none := by
  show (rdmsrExit V s.global (s.enter v index 0#64) d).value = _
  rw [rdmsrExit_value, enter_ecx]

theorem readValue_emulator (index : BitVec 32) (d : BitVec 64) :
    readValue V v s .emulator index d =
      if (kvmGetMsrWithFilter V s.global (s.enter v index 0#64) index d).1 = 0 then
        some (kvmGetMsrWithFilter V s.global (s.enter v index 0#64) index d).2
      else none := by
  show (if (emulatorGetMsrWithFilter V s.global (s.enter v index 0#64) index d).1 = .continue then
    some (emulatorGetMsrWithFilter V s.global (s.enter v index 0#64) index d).2.1 else none) = _
  rw [emulatorGet_value]
  by_cases hr : (kvmGetMsrWithFilter V s.global (s.enter v index 0#64) index d).1 = 0
  · rw [if_pos hr, if_pos ((emulatorGet_continue_iff index d).mpr hr)]
  · rw [if_neg hr, if_neg fun h => hr ((emulatorGet_continue_iff index d).mp h)]

/-- Only five indices are treated differently by the read exit. -/
theorem rdmsrOverride_other {index : BitVec 32}
    (hrefused : ¬ (index = 0x4b564d00#32 ∨ index = 0x1db#32))
    (hforced : ¬ (index = 0x1a2#32 ∨ index = 0x19c#32)) (r : Int) : rdmsrOverride index r = r := by
  obtain ⟨hclock, hbranch⟩ := not_or.mp hrefused
  obtain ⟨htarget, hstatus⟩ := not_or.mp hforced
  simp [rdmsrOverride, hclock, hbranch, htarget, hstatus]

theorem rdmsrOverride_refused {index : BitVec 32} (h : index = 0x4b564d00#32 ∨ index = 0x1db#32)
    (r : Int) : rdmsrOverride index r = 1 := by
  rcases h with rfl | rfl
  · simp [rdmsrOverride]
  · simp [rdmsrOverride]

/-- The checked read of `IA32_DEBUGCTL`. -/
theorem kvmGetMsrWithFilter_debugctl (hV : DebugctlVendor V) (g : Global) (d : BitVec 64) :
    kvmGetMsrWithFilter V g v 0x1d9#32 d =
      if kvmMsrAllowed v.vm 0x1d9#32 msrFilterRead = true then
        (0, (V.getMsr v.msrs msrIa32Debugctl false).2)
      else (msrRetFiltered, d) := by
  have hinvalid : (0 : Int) ≠ msrRetInvalid := by decide
  have haux : ¬ (0x1d9#32 = msrTscAux ∧ tscAuxRefused g v false = true) := by
    rintro ⟨h, -⟩
    exact absurd h (by decide)
  have hanswer : (V.getMsr v.msrs 0x1d9#32 false).1 = 0 := hV.answers v.msrs false
  simp only [kvmGetMsrWithFilter, kvmGetMsrIgnoredCheck, kvmGetMsrUnchecked, if_neg haux,
    hanswer, if_true, if_neg hinvalid]
  rfl

/-- When the two paths agree on a read: the checked read fails on the indices that the exit
refuses, it answers on those that the exit forces, and `data_1d9` is the vendor's value of
`IA32_DEBUGCTL` where the filter lets the guest read it. -/
def ReadsAgreeWhen (V : Vendor M) (v : Vcpu M) (s : MsrState M) (index : BitVec 32) : Prop :=
  (index = 0x4b564d00#32 ∨ index = 0x1db#32 →
      ¬ ReadAnswered V s.global { v with msrs := s.msrs } index) ∧
    (index = 0x1a2#32 ∨ index = 0x19c#32 →
      ReadAnswered V s.global { v with msrs := s.msrs } index) ∧
    (index = 0x1d9#32 → kvmMsrAllowed v.vm index msrFilterRead = true →
      (V.getMsr s.msrs msrIa32Debugctl false).2 = s.global.data1d9)

/-- The exit refuses: the emulator has to fail. -/
theorem readsAgree_refused {index : BitVec 32} (h : index = 0x4b564d00#32 ∨ index = 0x1db#32) :
    ReadsAgree V v s index ↔ ¬ ReadAnswered V s.global { v with msrs := s.msrs } index := by
  have haux : index ≠ msrTscAux := by
    rcases h with rfl | rfl <;> decide
  have hiff : ∀ d, ReadAnswered V s.global { v with msrs := s.msrs } index ↔
      (kvmGetMsrWithFilter V s.global (s.enter v index 0#64) index d).1 = 0 :=
    fun d => readAnswered_iff (v := s.enter v index 0#64) haux d
  have hexit : ∀ d, readValue V v s .exit index d = none := by
    intro d
    rw [readValue_exit, rdmsrOverride_refused h, if_neg (by decide)]
  constructor
  · intro hagree hanswered
    have heq := hagree 0 0
    rw [hexit, readValue_emulator, if_pos ((hiff 0).mp hanswered)] at heq
    cases heq
  · intro hfail d d'
    rw [hexit, readValue_emulator, if_neg fun hr => hfail ((hiff d').mpr hr)]

/-- The exit always completes: the emulator has to succeed. -/
theorem readsAgree_forced {index : BitVec 32} (h : index = 0x1a2#32 ∨ index = 0x19c#32) :
    ReadsAgree V v s index ↔ ReadAnswered V s.global { v with msrs := s.msrs } index := by
  have haux : index ≠ msrTscAux := by
    rcases h with rfl | rfl <;> decide
  have hdebug : index ≠ 0x1d9#32 := by
    rcases h with rfl | rfl <;> decide
  have hiff : ∀ d, ReadAnswered V s.global { v with msrs := s.msrs } index ↔
      (kvmGetMsrWithFilter V s.global (s.enter v index 0#64) index d).1 = 0 :=
    fun d => readAnswered_iff (v := s.enter v index 0#64) haux d
  constructor
  · intro hagree
    by_contra hfail
    have heq := hagree 0 0
    rw [readValue_exit, rdmsrOverride_forced h, if_pos rfl, readValue_emulator,
      if_neg fun hr => hfail ((hiff 0).mpr hr)] at heq
    cases heq
  · intro hanswered d d'
    rw [readValue_exit, rdmsrOverride_forced h, if_pos rfl, if_neg hdebug, readValue_emulator,
      if_pos ((hiff d').mp hanswered)]
    rcases kvmGetMsrWithFilter_cases (V := V) (g := s.global) (v := s.enter v index 0#64) index with
      ⟨x, hx⟩ | ⟨r, hr, hr' | hr'⟩
    · rw [hx, hx]
    · exact absurd ((hiff d).mp hanswered) (by rw [hr']; exact hr)
    · exact absurd ((hiff d).mp hanswered) (by rw [hr']; exact hr)

/-- The exit reads `data_1d9`, where the filter lets it. -/
theorem readValue_exit_debugctl (hV : DebugctlVendor V) (d : BitVec 64) :
    readValue V v s .exit 0x1d9#32 d =
      if kvmMsrAllowed v.vm 0x1d9#32 msrFilterRead = true then some s.global.data1d9 else none := by
  rw [readValue_exit, rdmsrOverride_other (by decide) (by decide), kvmGetMsrWithFilter_debugctl hV,
    enter_vm]
  by_cases hallow : kvmMsrAllowed v.vm 0x1d9#32 msrFilterRead = true
  · simp [hallow]
  · simp [hallow, msrRetFiltered]

/-- The emulator reads the vendor's value. -/
theorem readValue_emulator_debugctl (hV : DebugctlVendor V) (d : BitVec 64) :
    readValue V v s .emulator 0x1d9#32 d =
      if kvmMsrAllowed v.vm 0x1d9#32 msrFilterRead = true then
        some (V.getMsr s.msrs msrIa32Debugctl false).2
      else none := by
  rw [readValue_emulator, kvmGetMsrWithFilter_debugctl hV, enter_vm, enter_msrs]
  by_cases hallow : kvmMsrAllowed v.vm 0x1d9#32 msrFilterRead = true
  · simp [hallow]
  · simp [hallow, msrRetFiltered]

theorem readsAgree_debugctl (hV : DebugctlVendor V) : ReadsAgree V v s 0x1d9#32 ↔
    (kvmMsrAllowed v.vm 0x1d9#32 msrFilterRead = true →
      (V.getMsr s.msrs msrIa32Debugctl false).2 = s.global.data1d9) := by
  constructor
  · intro hagree hallow
    have heq := hagree 0 0
    rw [readValue_exit_debugctl hV, readValue_emulator_debugctl hV, if_pos hallow, if_pos hallow,
      Option.some.injEq] at heq
    exact heq.symm
  · intro h d d'
    rw [readValue_exit_debugctl hV, readValue_emulator_debugctl hV]
    by_cases hallow : kvmMsrAllowed v.vm 0x1d9#32 msrFilterRead = true
    · rw [if_pos hallow, if_pos hallow, h hallow]
    · rw [if_neg hallow, if_neg hallow]

/-- Every other index takes the checked read on both paths. -/
theorem readsAgree_other {index : BitVec 32}
    (hrefused : ¬ (index = 0x4b564d00#32 ∨ index = 0x1db#32))
    (hforced : ¬ (index = 0x1a2#32 ∨ index = 0x19c#32)) (hdebug : index ≠ 0x1d9#32) :
    ReadsAgree V v s index := by
  intro d d'
  rw [readValue_exit, readValue_emulator, rdmsrOverride_other hrefused hforced, if_neg hdebug]
  rcases kvmGetMsrWithFilter_cases (V := V) (g := s.global) (v := s.enter v index 0#64) index with
    ⟨x, hx⟩ | ⟨r, hr, hr' | hr'⟩
  · rw [hx, hx]
  · rw [hr', hr', if_neg hr]
  · rw [hr', hr', if_neg hr, if_neg hr]

theorem readsAgree_iff (hV : DebugctlVendor V) (v : Vcpu M) (s : MsrState M) (index : BitVec 32) :
    ReadsAgree V v s index ↔ ReadsAgreeWhen V v s index := by
  unfold ReadsAgreeWhen
  by_cases hrefused : index = 0x4b564d00#32 ∨ index = 0x1db#32
  · have hforced : ¬ (index = 0x1a2#32 ∨ index = 0x19c#32) := by
      rcases hrefused with rfl | rfl <;> decide
    have hdebug : index ≠ 0x1d9#32 := by
      rcases hrefused with rfl | rfl <;> decide
    rw [readsAgree_refused hrefused]
    simp [hrefused, hforced, hdebug]
  · by_cases hforced : index = 0x1a2#32 ∨ index = 0x19c#32
    · have hdebug : index ≠ 0x1d9#32 := by
        rcases hforced with rfl | rfl <;> decide
      rw [readsAgree_forced hforced]
      simp [hrefused, hforced, hdebug]
    · by_cases hdebug : index = 0x1d9#32
      · subst hdebug
        rw [readsAgree_debugctl hV]
        simp
      · simp [readsAgree_other hrefused hforced hdebug, hrefused, hforced, hdebug]

end Reads

/-! ## Writes -/

section Writes

variable {V : Vendor M} {v : Vcpu M} {s : MsrState M}

theorem writeState_exit (index : BitVec 32) (data : BitVec 64) (r₀ : Int) :
    writeState V v s .exit index data r₀ =
      (decide ((wrmsrSet V s.global (s.enter v index data) r₀).1 = 0),
        ⟨if (wrmsrSet V s.global (s.enter v index data) r₀).1 = 0 ∧ index = 0x1d9#32 then
            { s.global with data1d9 := debugctlWrite data s.global.data1d9 }
          else s.global,
          (wrmsrSet V s.global (s.enter v index data) r₀).2.msrs⟩) := by
  simp only [writeState, wrmsrExit, enter_ecx, enter_edxEax, wrmsrEnd_completes_iff,
    wrmsrEnd_global, wrmsrEnd_msrs]

theorem writeState_emulator (index : BitVec 32) (data : BitVec 64) (r₀ : Int) :
    writeState V v s .emulator index data r₀ =
      (decide ((kvmSetMsrWithFilter V s.global (s.enter v index data) index data).1 = 0),
        ⟨s.global, (kvmSetMsrWithFilter V s.global (s.enter v index data) index data).2.msrs⟩) := by
  simp only [writeState, emulatorSet_continue_iff, emulatorSet_msrs]

/-- The checked write of the index is accepted. -/
def WriteAccepted (V : Vendor M) (v : Vcpu M) (s : MsrState M) (index : BitVec 32)
    (data : BitVec 64) : Prop :=
  kvmMsrAllowed v.vm index msrFilterWrite = true ∧
    ((V.setMsr s.msrs index data false).1 = 0 ∨
      ((V.setMsr s.msrs index data false).1 = msrRetInvalid ∧ s.global.ignoreMsrs = true))

instance (index : BitVec 32) (data : BitVec 64) : Decidable (WriteAccepted V v s index data) :=
  inferInstanceAs (Decidable (_ ∧ _))

/-- The checked write of `IA32_DEBUGCTL`. -/
theorem kvmSetMsrWithFilter_debugctl (g : Global) (v : Vcpu M) (data : BitVec 64) :
    kvmSetMsrWithFilter V g v 0x1d9#32 data =
      if kvmMsrAllowed v.vm 0x1d9#32 msrFilterWrite = true then
        (if (V.setMsr v.msrs msrIa32Debugctl data false).1 = msrRetInvalid ∧ g.ignoreMsrs = true
          then 0 else (V.setMsr v.msrs msrIa32Debugctl data false).1,
          { v with msrs := (V.setMsr v.msrs msrIa32Debugctl data false).2 })
      else (msrRetFiltered, v) := by
  have hset : kvmSetMsrUnchecked V g v 0x1d9#32 data false =
      ((V.setMsr v.msrs msrIa32Debugctl data false).1,
        { v with msrs := (V.setMsr v.msrs msrIa32Debugctl data false).2 }) := rfl
  simp only [kvmSetMsrWithFilter, kvmSetMsrIgnoredCheck, hset, kvmMsrIgnoredCheck]
  by_cases hign : (V.setMsr v.msrs msrIa32Debugctl data false).1 = msrRetInvalid ∧
      g.ignoreMsrs = true
  · rw [if_pos hign, if_pos hign]
  · rw [if_neg hign, if_neg hign]

theorem kvmSetMsrWithFilter_accepted_iff (data : BitVec 64) :
    (kvmSetMsrWithFilter V s.global (s.enter v 0x1d9#32 data) 0x1d9#32 data).1 = 0 ↔
      WriteAccepted V v s 0x1d9#32 data := by
  have hfiltered : msrRetFiltered ≠ 0 := by decide
  rw [kvmSetMsrWithFilter_debugctl, enter_vm, enter_msrs]
  unfold WriteAccepted
  by_cases hallow : kvmMsrAllowed v.vm 0x1d9#32 msrFilterWrite = true
  · rw [if_pos hallow]
    by_cases hign : (V.setMsr s.msrs msrIa32Debugctl data false).1 = msrRetInvalid ∧
        s.global.ignoreMsrs = true
    · rw [if_pos hign]
      exact iff_of_true rfl ⟨hallow, .inr hign⟩
    · rw [if_neg hign]
      exact ⟨fun h => ⟨hallow, .inl h⟩, fun h => h.2.resolve_right hign⟩
  · rw [if_neg hallow]
    exact iff_of_false hfiltered fun h => hallow h.1

/-- When the two paths agree on a write: on every index but `IA32_DEBUGCTL`, and there for an
accepted write of a value with bit 14 that leaves `data_1d9` as it is, or when the filter keeps the
guest from reading it back. -/
def WritesAgreeWhen (V : Vendor M) (v : Vcpu M) (s : MsrState M) (index : BitVec 32)
    (data : BitVec 64) : Prop :=
  index = 0x1d9#32 → data ∈ freezeValues ∧ WriteAccepted V v s index data ∧
    (kvmMsrAllowed v.vm index msrFilterRead = true →
      debugctlWrite data s.global.data1d9 = s.global.data1d9)

/-- Every other index takes the checked write on both paths. -/
theorem writesAgree_other {index : BitVec 32} (hdebug : index ≠ 0x1d9#32) (data : BitVec 64) :
    WritesAgree V v s index data := by
  intro r₀ r₁
  have hset : wrmsrSet V s.global (s.enter v index data) r₀ =
      kvmSetMsrWithFilter V s.global (s.enter v index data) index data := by
    rw [wrmsrSet_of_ne (by rw [enter_ecx]; exact hdebug), enter_ecx, enter_edxEax]
  have hstate : writeState V v s .exit index data r₀ =
      writeState V v s .emulator index data r₁ := by
    rw [writeState_exit, writeState_emulator, hset, if_neg fun h => hdebug h.2]
  exact ⟨by rw [hstate], fun accs => by rw [hstate]⟩

/-- The states that differ in `data_1d9` alone. -/
def SameBut1d9 (s t : MsrState M) : Prop :=
  ∃ x, t = ⟨{ s.global with data1d9 := x }, s.msrs⟩

/-- A guest that may not read `IA32_DEBUGCTL` never sees `data_1d9`. -/
theorem access_same (hdeny : kvmMsrAllowed v.vm 0x1d9#32 msrFilterRead = false)
    {s t : MsrState M} (h : SameBut1d9 s t) (acc : Access) :
    (access V v s acc).1 = (access V v t acc).1 ∧
      SameBut1d9 (access V v s acc).2 (access V v t acc).2 := by
  obtain ⟨x, rfl⟩ := h
  cases acc with
  | read path index d =>
    refine ⟨?_, x, rfl⟩
    cases path with
    | emulator => rfl
    | exit =>
      show readValue V v s .exit index d = readValue V v ⟨_, s.msrs⟩ .exit index d
      rw [readValue_exit, readValue_exit]
      show _ = if rdmsrOverride index
          (kvmGetMsrWithFilter V s.global (s.enter v index 0#64) index d).1 = 0 then
        some (if index = 0x1d9#32 then x
          else (kvmGetMsrWithFilter V s.global (s.enter v index 0#64) index d).2) else none
      by_cases hdebug : index = 0x1d9#32
      · subst hdebug
        have hfilter : (kvmGetMsrWithFilter V s.global (s.enter v 0x1d9#32 0#64) 0x1d9#32 d).1 =
            msrRetFiltered := by
          unfold kvmGetMsrWithFilter
          rw [if_neg (by rw [enter_vm, hdeny]; decide)]
        rw [hfilter, if_neg (by decide), if_neg (by decide)]
      · rw [if_neg hdebug, if_neg hdebug]
  | write path index data r₀ =>
    refine ⟨rfl, ?_⟩
    cases path with
    | emulator =>
      show SameBut1d9 (writeState V v s .emulator index data r₀).2
        (writeState V v ⟨_, s.msrs⟩ .emulator index data r₀).2
      rw [writeState_emulator, writeState_emulator]
      exact ⟨x, rfl⟩
    | exit =>
      show SameBut1d9 (writeState V v s .exit index data r₀).2
        (writeState V v ⟨_, s.msrs⟩ .exit index data r₀).2
      rw [writeState_exit, writeState_exit]
      by_cases hstore : (wrmsrSet V s.global (s.enter v index data) r₀).1 = 0 ∧ index = 0x1d9#32
      · rw [if_pos hstore]
        exact ⟨debugctlWrite data x, congrArg (MsrState.mk · _) (if_pos hstore)⟩
      · rw [if_neg hstore]
        exact ⟨x, congrArg (MsrState.mk · _) (if_neg hstore)⟩

theorem seen_same (hdeny : kvmMsrAllowed v.vm 0x1d9#32 msrFilterRead = false)
    {s t : MsrState M} (h : SameBut1d9 s t) (accs : List Access) :
    seen V v s accs = seen V v t accs := by
  induction accs generalizing s t with
  | nil => rfl
  | cons acc accs ih =>
    obtain ⟨hval, hnext⟩ := access_same (V := V) hdeny h acc
    show (access V v s acc).1 :: seen V v (access V v s acc).2 accs =
      (access V v t acc).1 :: seen V v (access V v t acc).2 accs
    rw [hval, ih hnext]

theorem writesAgree_debugctl (hV : DebugctlVendor V) (data : BitVec 64) :
    WritesAgree V v s 0x1d9#32 data ↔ data ∈ freezeValues ∧ WriteAccepted V v s 0x1d9#32 data ∧
      (kvmMsrAllowed v.vm 0x1d9#32 msrFilterRead = true →
        debugctlWrite data s.global.data1d9 = s.global.data1d9) := by
  have hset : ∀ r₀, wrmsrSet V s.global (s.enter v 0x1d9#32 data) r₀ =
      (if data ∈ freezeValues then 0 else r₀, s.enter v 0x1d9#32 data) := by
    intro r₀
    rw [wrmsrSet_debugctl (enter_ecx ..), enter_edxEax]
  by_cases hdata : data ∈ freezeValues
  · -- the exit completes and stores, whatever the stack held
    have hexit : ∀ r₀, writeState V v s .exit 0x1d9#32 data r₀ = (true,
        ⟨{ s.global with data1d9 := debugctlWrite data s.global.data1d9 }, s.msrs⟩) := by
      intro r₀
      rw [writeState_exit, hset, if_pos hdata]
      rfl
    have hkept : (kvmSetMsrWithFilter V s.global (s.enter v 0x1d9#32 data) 0x1d9#32 data).2.msrs =
        s.msrs := by
      rw [kvmSetMsrWithFilter_debugctl]
      split
      · exact hV.freeze s.msrs data hdata
      · rfl
    have hemul : ∀ r₀, writeState V v s .emulator 0x1d9#32 data r₀ =
        (decide (WriteAccepted V v s 0x1d9#32 data), s) := by
      intro r₀
      rw [writeState_emulator, hkept]
      simp only [kvmSetMsrWithFilter_accepted_iff]
    constructor
    · intro hagree
      obtain ⟨hdone, hlater⟩ := hagree 0 0
      rw [hexit, hemul] at hdone hlater
      refine ⟨hdata, of_decide_eq_true hdone.symm, fun hallow => ?_⟩
      have hread := hlater [.read .exit 0x1d9#32 0]
      have hvalue : ∀ t : MsrState M, seen V v t [.read .exit 0x1d9#32 0] =
          [some t.global.data1d9] := by
        intro t
        show [readValue V v t .exit 0x1d9#32 0] = _
        rw [readValue_exit_debugctl hV, if_pos hallow]
      rw [hvalue, hvalue] at hread
      exact Option.some.inj (List.head_eq_of_cons_eq hread)
    · rintro ⟨-, haccept, hsame⟩ r₀ r₁
      rw [hexit, hemul]
      refine ⟨(decide_eq_true haccept).symm, fun accs => ?_⟩
      cases hallow : kvmMsrAllowed v.vm 0x1d9#32 msrFilterRead with
      | true => rw [hsame hallow]
      | false => exact (seen_same hallow ⟨_, rfl⟩ accs).symm
  · -- the exit does what the stack held
    refine iff_of_false ?_ fun h => hdata h.1
    intro hagree
    have hexit : ∀ r₀, (writeState V v s .exit 0x1d9#32 data r₀).1 = decide (r₀ = 0) := by
      intro r₀
      rw [writeState_exit, hset, if_neg hdata]
    have hzero := (hagree 0 0).1
    have hone := (hagree 1 0).1
    rw [hexit] at hzero hone
    rw [← hone] at hzero
    exact absurd hzero (by decide)

theorem writesAgree_iff (hV : DebugctlVendor V) (v : Vcpu M) (s : MsrState M) (index : BitVec 32)
    (data : BitVec 64) : WritesAgree V v s index data ↔ WritesAgreeWhen V v s index data := by
  unfold WritesAgreeWhen
  by_cases hdebug : index = 0x1d9#32
  · subst hdebug
    rw [writesAgree_debugctl hV]
    simp
  · simp [hdebug, writesAgree_other hdebug]

end Writes

/-! ## The module variables -/

/-- `data_1d9` behind an access: a write exit of `IA32_DEBUGCTL` with a value of `freezeValues`, or
with a zero on the stack, stores into it. -/
def debugctlAfter (d : BitVec 64) : Access → BitVec 64
  | .write .exit index data r₀ =>
    if index = 0x1d9#32 ∧ (freezeValues.contains data = true ∨ r₀ = 0) then debugctlWrite data d
    else d
  | _ => d

theorem access_global (V : Vendor M) (v : Vcpu M) (s : MsrState M) (acc : Access) :
    (access V v s acc).2.global =
      { s.global with data1d9 := debugctlAfter s.global.data1d9 acc } := by
  cases acc with
  | read path index d => rfl
  | write path index data r₀ =>
    cases path with
    | emulator =>
      show (writeState V v s .emulator index data r₀).2.global = s.global
      rw [writeState_emulator]
    | exit =>
      show (writeState V v s .exit index data r₀).2.global = _
      rw [writeState_exit]
      unfold debugctlAfter
      by_cases hdebug : index = 0x1d9#32
      · rw [wrmsrSet_debugctl (by rw [enter_ecx]; exact hdebug), enter_edxEax]
        by_cases hdata : data ∈ freezeValues
        · simp [hdebug, hdata]
        · by_cases hr : r₀ = 0
          · simp [hdebug, hr]
          · simp [hdata, hr]
      · simp [hdebug]

/-- A checked write changes the MSRs through the vendor module or not at all. -/
theorem kvmSetMsrUnchecked_msrs (V : Vendor M) (g : Global) (v : Vcpu M) (index : BitVec 32)
    (data : BitVec 64) (host : Bool) :
    (kvmSetMsrUnchecked V g v index data host).2.msrs = v.msrs ∨
      ∃ d, (kvmSetMsrUnchecked V g v index data host).2.msrs =
        (V.setMsr v.msrs index d host).2 := by
  unfold kvmSetMsrUnchecked
  split
  · exact .inl rfl
  · exact .inr ⟨_, rfl⟩

theorem kvmSetMsrWithFilter_msrs (V : Vendor M) (g : Global) (v : Vcpu M) (index : BitVec 32)
    (data : BitVec 64) :
    (kvmSetMsrWithFilter V g v index data).2.msrs = v.msrs ∨
      ∃ d, (kvmSetMsrWithFilter V g v index data).2.msrs = (V.setMsr v.msrs index d false).2 := by
  unfold kvmSetMsrWithFilter kvmSetMsrIgnoredCheck
  split
  · dsimp only
    split <;> exact kvmSetMsrUnchecked_msrs V g v index data false
  · exact .inl rfl

/-- The same for an access on either path. -/
theorem access_msrs (V : Vendor M) (v : Vcpu M) (s : MsrState M) (acc : Access) :
    (access V v s acc).2.msrs = s.msrs ∨
      ∃ index d, (access V v s acc).2.msrs = (V.setMsr s.msrs index d false).2 := by
  cases acc with
  | read path index d => exact .inl rfl
  | write path index data r₀ =>
    have hwrite := kvmSetMsrWithFilter_msrs V s.global (s.enter v index data) index data
    cases path with
    | emulator =>
      have hstate : (access V v s (.write .emulator index data r₀)).2.msrs =
          (kvmSetMsrWithFilter V s.global (s.enter v index data) index data).2.msrs := by
        show (writeState V v s .emulator index data r₀).2.msrs = _
        rw [writeState_emulator]
      rw [hstate]
      obtain hkept | ⟨d, hd⟩ := hwrite
      · exact .inl hkept
      · exact .inr ⟨index, d, hd⟩
    | exit =>
      have hstate : (access V v s (.write .exit index data r₀)).2.msrs =
          (wrmsrSet V s.global (s.enter v index data) r₀).2.msrs := by
        show (writeState V v s .exit index data r₀).2.msrs = _
        rw [writeState_exit]
      rw [hstate]
      unfold wrmsrSet
      split
      · exact .inl rfl
      · rw [enter_ecx, enter_edxEax]
        obtain hkept | ⟨d, hd⟩ := hwrite
        · exact .inl hkept
        · exact .inr ⟨index, d, hd⟩

/-! ## The two paths -/

/-- **The exit handlers and the instruction emulator agree exactly on** the reads of
`ReadsAgreeWhen` and the writes of `WritesAgreeWhen`, in every state. -/
theorem pathsAgree_iff {V : Vendor M} (hV : DebugctlVendor V) (v : Vcpu M) (s : MsrState M)
    (index : BitVec 32) (data : BitVec 64) :
    ReadsAgree V v s index ∧ WritesAgree V v s index data ↔
      ReadsAgreeWhen V v s index ∧ WritesAgreeWhen V v s index data :=
  and_congr (readsAgree_iff hV v s index) (writesAgree_iff hV v s index data)

/-- A virtual CPU with its MSRs at reset, in a module just loaded. -/
def vmxVcpu : Vcpu VmxMsrs := { msrs := {} }

def vmxReset : MsrState VmxMsrs := ⟨{}, {}⟩

theorem pathsAgree_iff_reset :
    ReadsAgree vmx vmxVcpu vmxReset 0x1d9#32 ∧ WritesAgree vmx vmxVcpu vmxReset 0x1d9#32 0x4000 ↔
      ReadsAgreeWhen vmx vmxVcpu vmxReset 0x1d9#32 ∧
        WritesAgreeWhen vmx vmxVcpu vmxReset 0x1d9#32 0x4000 :=
  pathsAgree_iff vmx_debugctl vmxVcpu vmxReset 0x1d9#32 0x4000

/-- The exit reads 0x4000 where the emulator reads 0. -/
theorem debugctlTwoValues : ¬ (ReadsAgree vmx vmxVcpu vmxReset 0x1d9#32 ∧
    WritesAgree vmx vmxVcpu vmxReset 0x1d9#32 0x4000) := by
  rintro ⟨hread, -⟩
  exact absurd (hread 0 0) (by decide)

end Kvm
