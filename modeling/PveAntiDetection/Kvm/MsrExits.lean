import PveAntiDetection.Kvm.Vendors

/-!
# The MSR exits alone

Single exits, from any state.

* `kvmGetMsrWithFilter_cases` — the checked read either answers with a value of its own, or fails;
  neither depends on what its target held;
* `wrmsrDetermined_iff` — when the outcome of `kvm_emulate_wrmsr` does not depend on its
  uninitialised result;
* `msrExitsRespected_iff` — when the exits respect the filter and the errors of the checked
  accesses.
-/

set_option autoImplicit false

namespace Kvm

variable {M : Type} (V : Vendor M) (g : Global) (v : Vcpu M)

/-! ## Spec lemmas -/

/-- The checked read of the index is answered: it passes the filter, and the vendor module either
knows the MSR or an unknown one is ignored. -/
def ReadAnswered (index : BitVec 32) : Prop :=
  kvmMsrAllowed v.vm index msrFilterRead = true ∧
    ((V.getMsr v.msrs index false).1 = 0 ∨
      ((V.getMsr v.msrs index false).1 = msrRetInvalid ∧ g.ignoreMsrs = true))

instance (index : BitVec 32) : Decidable (ReadAnswered V g v index) :=
  inferInstanceAs (Decidable (_ ∧ _))

variable {V g v}

/-- What the checked read does with its target is decided by the index and the virtual CPU: it
answers with a value, or fails and leaves the target alone or clears it. -/
theorem kvmGetMsrWithFilter_cases (index : BitVec 32) :
    (∃ x, ∀ d, kvmGetMsrWithFilter V g v index d = (0, x)) ∨
      ∃ r, r ≠ 0 ∧ ((∀ d, kvmGetMsrWithFilter V g v index d = (r, 0)) ∨
        ∀ d, kvmGetMsrWithFilter V g v index d = (r, d)) := by
  have hinvalid : msrRetInvalid ≠ 0 := by decide
  unfold kvmGetMsrWithFilter
  by_cases hallow : kvmMsrAllowed v.vm index msrFilterRead = true
  · simp only [hallow, if_true]
    unfold kvmGetMsrIgnoredCheck kvmGetMsrUnchecked
    by_cases haux : index = msrTscAux ∧ tscAuxRefused g v false = true
    · simp only [haux, and_self, if_true]
      exact .inr ⟨1, by decide, .inr fun d => by rw [if_neg (by decide)]⟩
    · simp only [haux, if_false]
      by_cases hzero : (V.getMsr v.msrs index false).1 = 0
      · exact .inl ⟨(V.getMsr v.msrs index false).2, fun d => by
          simp only [hzero, if_true]
          rw [if_neg hinvalid.symm]⟩
      · simp only [hzero, if_false]
        by_cases hinv : (V.getMsr v.msrs index false).1 = msrRetInvalid
        · simp only [hinv, if_true]
          cases hign : kvmMsrIgnoredCheck g with
          | true => exact .inl ⟨0, fun d => by simp⟩
          | false => exact .inr ⟨msrRetInvalid, hinvalid, .inl fun d => by simp⟩
        · exact .inr ⟨_, hzero, .inr fun d => by rw [if_neg hinv]⟩
  · exact .inr ⟨msrRetFiltered, by decide, .inr fun d => by simp [hallow]⟩

theorem readAnswered_iff {index : BitVec 32} (hindex : index ≠ msrTscAux) (d : BitVec 64) :
    ReadAnswered V g v index ↔ (kvmGetMsrWithFilter V g v index d).1 = 0 := by
  have hinvalid : msrRetInvalid ≠ 0 := by decide
  unfold ReadAnswered kvmGetMsrWithFilter kvmGetMsrIgnoredCheck kvmGetMsrUnchecked
  by_cases hallow : kvmMsrAllowed v.vm index msrFilterRead = true
  · simp only [hallow, true_and, if_true, hindex, false_and, if_false]
    by_cases hzero : (V.getMsr v.msrs index false).1 = 0
    · simp [hzero, hinvalid.symm]
    · by_cases hinv : (V.getMsr v.msrs index false).1 = msrRetInvalid
      · cases hign : g.ignoreMsrs <;> simp [hinv, hinvalid, hign, kvmMsrIgnoredCheck]
      · simp [hzero, hinv]
  · have hfiltered : msrRetFiltered ≠ 0 := by decide
    simp [hallow, hfiltered]

/-- When a read exit completes. -/
theorem rdmsrExit_completes_iff (d : BitVec 64) : (rdmsrExit V g v d).Completes ↔
    rdmsrOverride v.ecx (kvmGetMsrWithFilter V g v v.ecx d).1 = 0 := by
  unfold rdmsrExit Exit.Completes
  by_cases hr : rdmsrOverride v.ecx (kvmGetMsrWithFilter V g v v.ecx d).1 = 0
  · simp [hr]
  · simp only [hr, if_false, iff_false]
    rintro ⟨w, hw⟩
    split at hw
    · cases hw
    · rw [Exit.complete.injEq] at hw
      exact hr hw.2

/-- The value a read exit leaves in EDX:EAX. -/
theorem rdmsrExit_value (d : BitVec 64) : (rdmsrExit V g v d).value =
    if rdmsrOverride v.ecx (kvmGetMsrWithFilter V g v v.ecx d).1 = 0 then
      some (if v.ecx = 0x1d9#32 then g.data1d9 else (kvmGetMsrWithFilter V g v v.ecx d).2)
    else none := by
  unfold rdmsrExit
  by_cases hr : rdmsrOverride v.ecx (kvmGetMsrWithFilter V g v v.ecx d).1 = 0
  · simp [hr, Exit.value]
  · simp only [hr, if_false]
    split
    · rfl
    · simp [Exit.value, hr]

/-- A read exit leaves the MSRs of the virtual CPU alone. -/
theorem rdmsrExit_msrs (d : BitVec 64) : (rdmsrExit V g v d).vcpu.msrs = v.msrs := by
  unfold rdmsrExit
  dsimp only
  split
  · rfl
  · unfold kvmMsrUserSpace
    split <;> rename_i h
    · split at h <;> cases h
      rfl
    · rfl

/-! ## Write exits -/

/-- Other indices than `IA32_DEBUGCTL` go through the checked write. -/
theorem wrmsrSet_of_ne (hecx : v.ecx ≠ 0x1d9#32) (r₀ : Int) :
    wrmsrSet V g v r₀ = kvmSetMsrWithFilter V g v v.ecx v.edxEax := by
  unfold wrmsrSet
  rw [if_neg hecx]

/-- `IA32_DEBUGCTL` does not. -/
theorem wrmsrSet_debugctl (hecx : v.ecx = 0x1d9#32) (r₀ : Int) :
    wrmsrSet V g v r₀ = (if v.edxEax ∈ freezeValues then 0 else r₀, v) := by
  unfold wrmsrSet
  rw [if_pos hecx]

/-- A write that the filter denies leaves the MSRs of the virtual CPU alone. -/
theorem wrmsrSet_denied (hdeny : kvmMsrAllowed v.vm v.ecx msrFilterWrite = false) (r₀ : Int) :
    (wrmsrSet V g v r₀).2 = v := by
  unfold wrmsrSet
  split
  · rfl
  · unfold kvmSetMsrWithFilter
    rw [if_neg (by rw [hdeny]; decide)]

theorem kvmMsrUserSpace_msrs {index : BitVec 32} {reason : Nat} {data : BitVec 64}
    {completion : Completion} {r : Int} {v' : Vcpu M}
    (h : kvmMsrUserSpace v index reason data completion r = some v') : v'.msrs = v.msrs := by
  unfold kvmMsrUserSpace at h
  split at h
  · cases h
  · rw [Option.some.injEq] at h
    rw [← h]

theorem wrmsrEnd_msrs (ecx : BitVec 32) (data : BitVec 64) (r : Int) :
    (wrmsrEnd g ecx data r v).1.vcpu.msrs = v.msrs := by
  unfold wrmsrEnd
  split
  · rfl
  · split
    · rename_i h
      exact kvmMsrUserSpace_msrs h
    · split <;> rfl

/-- The module variables change on a successful write of `IA32_DEBUGCTL` alone. -/
theorem wrmsrEnd_global (ecx : BitVec 32) (data : BitVec 64) (r : Int) :
    (wrmsrEnd g ecx data r v).2 =
      if r = 0 ∧ ecx = 0x1d9#32 then { g with data1d9 := debugctlWrite data g.data1d9 } else g := by
  unfold wrmsrEnd
  by_cases hr : r = 0
  · simp [hr]
  · simp only [hr, if_false, false_and]
    split
    · rfl
    · split <;> rfl

/-! ## The uninitialised result of the write exit -/

variable (V g v)

/-- The outcome of the write exit does not depend on what the stack held. -/
def WrmsrDetermined : Prop :=
  ∀ r₀ r₁ : Int, kvmEmulateWrmsr V g v r₀ = kvmEmulateWrmsr V g v r₁

variable {V g v}

/-- A fault that userspace asked for. -/
theorem wrmsrEnd_userspace (ecx : BitVec 32) (data : BitVec 64) {r : Int} (hr : r ≠ 0)
    (hmask : v.vm.userSpaceMsrMask &&& kvmMsrReason r ≠ 0) :
    (wrmsrEnd g ecx data r v).1 = .userspace { v with
      run := ⟨kvmExitX86Wrmsr, 0, kvmMsrReason r, ecx, data⟩
      completeUserspaceIo := some .fastMsrAccess } := by
  unfold wrmsrEnd kvmMsrUserSpace
  rw [if_neg hr, if_neg hmask]

/-- A fault that userspace did not ask for. -/
theorem wrmsrEnd_refused (ecx : BitVec 32) (data : BitVec 64) {r : Int} (hr : r ≠ 0)
    (hmask : v.vm.userSpaceMsrMask &&& kvmMsrReason r = 0) :
    (wrmsrEnd g ecx data r v).1 = if r < 0 then .error r v else .complete v r := by
  unfold wrmsrEnd kvmMsrUserSpace
  rw [if_neg hr, if_pos hmask]
  dsimp only
  split <;> rfl

theorem kvmMsrReason_neg {r : Int} (hr : r < 0) : kvmMsrReason r = msrExitReasonInval := by
  unfold kvmMsrReason msrRetInvalid msrRetFiltered
  rw [if_neg (by omega), if_neg (by omega)]

/-- Two negative results and one invalid-MSR result never all end in the same outcome: the first
two differ in the returned error when userspace does not take faults, and the last from them when
it does. -/
theorem wrmsrEnd_differs (ecx : BitVec 32) (data : BitVec 64) :
    ¬ ∀ r r' : Int,
      (wrmsrEnd g ecx data r v).1.finish V = (wrmsrEnd g ecx data r' v).1.finish V := by
  intro h
  have hinvalid : kvmMsrReason 2 = msrExitReasonUnknown := by decide
  by_cases hinval : v.vm.userSpaceMsrMask &&& msrExitReasonInval = 0
  · have hneg : ∀ r : Int, r < 0 → (wrmsrEnd g ecx data r v).1 = .error r v := by
      intro r hr
      rw [wrmsrEnd_refused ecx data (by omega) (by rw [kvmMsrReason_neg hr, hinval]), if_pos hr]
    have heq := h (-1) (-2)
    rw [hneg (-1) (by decide), hneg (-2) (by decide)] at heq
    have hret := congrArg Prod.fst heq
    exact absurd hret (show (-1 : Int) ≠ -2 by decide)
  · have heq := h (-1) 2
    rw [wrmsrEnd_userspace (r := -1) ecx data (by decide)
      (by rw [kvmMsrReason_neg (by decide)]; exact hinval)] at heq
    by_cases hunknown : v.vm.userSpaceMsrMask &&& msrExitReasonUnknown = 0
    · rw [wrmsrEnd_refused (r := 2) ecx data (by decide) (by rw [hinvalid, hunknown]),
        if_neg (by decide)] at heq
      have hret : (0 : Int) = (V.completeEmulatedMsr v 2).1 := congrArg Prod.fst heq
      rw [V.complete_error v 2 (by decide)] at hret
      exact absurd hret (by decide)
    · rw [wrmsrEnd_userspace (r := 2) ecx data (by decide) (by rw [hinvalid]; exact hunknown)]
        at heq
      have hreason : kvmMsrReason (-1) = kvmMsrReason 2 :=
        congrArg (fun o : Int × Vcpu M => o.2.run.reason) heq
      exact absurd hreason (by decide)

/-- **The outcome of the WRMSR exit is determined exactly where the code assigns the result**: for
every index but `IA32_DEBUGCTL`, and there for the four values with bit 14. -/
theorem wrmsrDetermined_iff (V : Vendor M) (g : Global) (v : Vcpu M) :
    WrmsrDetermined V g v ↔ v.ecx ≠ 0x1d9#32 ∨ v.edxEax ∈ freezeValues := by
  constructor
  · intro h
    by_contra hcond
    obtain ⟨hecx, hdata⟩ := not_or.mp hcond
    rw [not_not] at hecx
    refine wrmsrEnd_differs (V := V) (g := g) (v := v) v.ecx v.edxEax ?_
    intro r r'
    have hrr := congrArg Prod.fst (h r r')
    simp only [kvmEmulateWrmsr, wrmsrExit, wrmsrSet_debugctl hecx, if_neg hdata] at hrr
    exact hrr
  · rintro (hecx | hdata) r₀ r₁
    · simp only [kvmEmulateWrmsr, wrmsrExit, wrmsrSet_of_ne hecx]
    · by_cases hecx : v.ecx = 0x1d9#32
      · simp only [kvmEmulateWrmsr, wrmsrExit, wrmsrSet_debugctl hecx, if_pos hdata]
      · simp only [kvmEmulateWrmsr, wrmsrExit, wrmsrSet_of_ne hecx]

/-- A guest that clears `IA32_DEBUGCTL`. -/
def clearsDebugctl : Vcpu VmxMsrs := { rcx := 0x1d9, msrs := {} }

theorem clearDependsOnStack : ¬ WrmsrDetermined vmx {} clearsDebugctl := by
  intro h
  exact absurd (h 0 1) (by decide)

/-! ## The filter and the errors of the checked accesses -/

variable (V g v)

/-- `x` is what the MSRs of this virtual CPU hold at the index: the value the checked read answers
whatever its target held, or the emulated `IA32_DEBUGCTL`. -/
def Produced (index : BitVec 32) (x : BitVec 64) : Prop :=
  (∀ d, kvmGetMsrWithFilter V g v index d = (0, x)) ∨ (index = 0x1d9#32 ∧ x = g.data1d9)

/-- The read exit completes on a successful checked read only, and then with a value of the
MSRs. -/
def ReadRespected : Prop :=
  ∀ d, ((kvmGetMsrWithFilter V g v v.ecx d).1 ≠ 0 → ¬ (rdmsrExit V g v d).Completes) ∧
    ∀ x, (rdmsrExit V g v d).value = some x → Produced V g v v.ecx x

/-- A write exit that the filter denies changes no MSR. -/
def WriteRespected : Prop :=
  kvmMsrAllowed v.vm v.ecx msrFilterWrite = false →
    ∀ r₀, (wrmsrExit V g v r₀).1.vcpu.msrs = v.msrs ∧ (wrmsrExit V g v r₀).2 = g

/-- When they do: the checked read answers the indices that are forced to succeed, and a write of
`IA32_DEBUGCTL` is allowed or writes what is there. -/
def RespectedWhen : Prop :=
  (v.ecx = 0x1a2#32 ∨ v.ecx = 0x19c#32 → ReadAnswered V g v v.ecx) ∧
    (v.ecx = 0x1d9#32 → kvmMsrAllowed v.vm v.ecx msrFilterWrite = true ∨
      debugctlWrite v.edxEax g.data1d9 = g.data1d9)

variable {V g v}

theorem rdmsrOverride_forced {ecx : BitVec 32} (hecx : ecx = 0x1a2#32 ∨ ecx = 0x19c#32) (r : Int) :
    rdmsrOverride ecx r = 0 := by
  rcases hecx with rfl | rfl
  · simp [rdmsrOverride]
  · simp [rdmsrOverride]

/-- The other indices keep a fault. -/
theorem rdmsrOverride_fault {ecx : BitVec 32} (hecx : ¬ (ecx = 0x1a2#32 ∨ ecx = 0x19c#32)) {r : Int}
    (hr : r ≠ 0) : rdmsrOverride ecx r ≠ 0 := by
  obtain ⟨htarget, hstatus⟩ := not_or.mp hecx
  unfold rdmsrOverride
  simp only [htarget, hstatus, if_false]
  split
  · decide
  · split
    · decide
    · exact hr

/-- A read that completes after a successful checked read leaves a value of the MSRs. -/
theorem produced_of_answered {d x : BitVec 64}
    (hread : (kvmGetMsrWithFilter V g v v.ecx d).1 = 0) (hx : (rdmsrExit V g v d).value = some x) :
    Produced V g v v.ecx x := by
  rw [rdmsrExit_value] at hx
  split at hx
  · rw [Option.some.injEq] at hx
    by_cases hecx : v.ecx = 0x1d9#32
    · rw [if_pos hecx] at hx
      exact .inr ⟨hecx, hx.symm⟩
    · rw [if_neg hecx] at hx
      refine .inl ?_
      rcases kvmGetMsrWithFilter_cases (V := V) (g := g) (v := v) v.ecx with
        ⟨y, hy⟩ | ⟨r, hr, hfail | hfail⟩
      · rw [hy] at hx
        rw [← hx]
        exact hy
      · rw [hfail] at hread
        exact absurd hread hr
      · rw [hfail] at hread
        exact absurd hread hr
  · cases hx

theorem readRespected_iff : ReadRespected V g v ↔
    (v.ecx = 0x1a2#32 ∨ v.ecx = 0x19c#32 → ReadAnswered V g v v.ecx) := by
  constructor
  · intro h hecx
    have hindex : v.ecx ≠ msrTscAux := by
      rcases hecx with hecx | hecx <;> rw [hecx] <;> decide
    rw [readAnswered_iff hindex 0]
    by_contra hread
    exact (h 0).1 hread ((rdmsrExit_completes_iff 0).mpr (rdmsrOverride_forced hecx _))
  · intro h d
    by_cases hread : (kvmGetMsrWithFilter V g v v.ecx d).1 = 0
    · exact ⟨fun hne => absurd hread hne, fun x => produced_of_answered hread⟩
    · have hecx : ¬ (v.ecx = 0x1a2#32 ∨ v.ecx = 0x19c#32) := by
        intro hecx
        have hindex : v.ecx ≠ msrTscAux := by
          rcases hecx with hecx | hecx <;> rw [hecx] <;> decide
        exact hread ((readAnswered_iff hindex d).mp (h hecx))
      have hfault := rdmsrOverride_fault hecx hread
      refine ⟨fun _ hc => hfault ((rdmsrExit_completes_iff d).mp hc), ?_⟩
      intro x hx
      rw [rdmsrExit_value, if_neg hfault] at hx
      cases hx

theorem writeRespected_iff : WriteRespected V g v ↔
    (v.ecx = 0x1d9#32 → kvmMsrAllowed v.vm v.ecx msrFilterWrite = true ∨
      debugctlWrite v.edxEax g.data1d9 = g.data1d9) := by
  constructor
  · intro h hecx
    cases hallow : kvmMsrAllowed v.vm v.ecx msrFilterWrite with
    | true => exact .inl rfl
    | false =>
      -- with a zero on the stack every value goes through
      have hset : (wrmsrSet V g v 0).1 = 0 := by
        rw [wrmsrSet_debugctl hecx]
        simp
      have hglobal := (h hallow 0).2
      rw [wrmsrExit, wrmsrEnd_global, if_pos ⟨hset, hecx⟩] at hglobal
      exact .inr (congrArg Global.data1d9 hglobal)
  · intro h hdeny r₀
    have hkept := wrmsrSet_denied (V := V) (g := g) hdeny r₀
    refine ⟨?_, ?_⟩
    · rw [wrmsrExit, wrmsrEnd_msrs, hkept]
    · rw [wrmsrExit, wrmsrEnd_global]
      split
      · rename_i hstored
        rcases h hstored.2 with hallow | hsame
        · rw [hdeny] at hallow
          cases hallow
        · rw [hsame]
      · rfl

/-- **The exits respect the filter and the errors exactly when** the checked read answers the two
indices that are forced to succeed, and a denied write of `IA32_DEBUGCTL` writes what is there. -/
theorem msrExitsRespected_iff (V : Vendor M) (g : Global) (v : Vcpu M) :
    ReadRespected V g v ∧ WriteRespected V g v ↔ RespectedWhen V g v :=
  and_congr readRespected_iff writeRespected_iff

/-- A guest that reads `MSR_IA32_TEMPERATURE_TARGET`, which no vendor module knows. -/
def readsTemperatureTarget : Vcpu VmxMsrs := { rcx := 0x1a2, msrs := {} }

theorem unknownMsrCompletes : ¬ (ReadRespected vmx {} readsTemperatureTarget ∧
    WriteRespected vmx {} readsTemperatureTarget) := by
  rintro ⟨hread, -⟩
  exact (hread 0).1 (by decide) (by decide)

end Kvm
