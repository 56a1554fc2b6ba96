import PveAntiDetection.Kvm.Msr
import PveAntiDetection.Kvm.SingleStep

/-!
# The fast path of WRMSR

`handle_fastpath_set_msr_irqoff` of `x86.c` against `kvm_emulate_wrmsr`.

* `FastpathApic` — the local APIC as far as the fast path calls it;
* `handleFastpathSetMsrIrqoff` — the fast path;
* `VendorSkip` — a vendor module's skip, with when it succeeds; `vmxVendorSkip`, `svmVendorSkip`;
* `fastpath_agrees_iff` — when the fast path does what the slow path would have done;
  `fastpathUnfiltered` is a write that the filter denies and the fast path performs.
-/

set_option autoImplicit false

namespace Kvm

variable {V L : Type}

/-! ## Constants -/

/-- `APIC_BASE_MSR + (APIC_ICR >> 4)`. -/
def msrX2apicIcr : BitVec 32 := 0x830

/-- `MSR_IA32_TSC_DEADLINE`. -/
def msrIa32TscDeadline : BitVec 32 := 0x6e0

/-- `APIC_SHORT_MASK`, `APIC_DEST_MASK`, `APIC_MODE_MASK`. -/
def apicShortMask : BitVec 64 := 0xc0000
def apicDestMask : BitVec 64 := 0x800
def apicModeMask : BitVec 64 := 0x700

/-- `X2APIC_BROADCAST`. -/
def x2apicBroadcast : BitVec 32 := 0xffffffff

/-- `fastpath_t`. -/
inductive Fastpath where
  | none
  | exitHandled
  | reenterGuest
  deriving DecidableEq, Repr

/-! ## The local APIC and the skip -/

/-- What the fast path calls of the local APIC.  `L` is the state of the APIC and of the timer, and
the writes leave alone what the skip reads. -/
structure FastpathApic (V L : Type) where
  /-- `lapic_in_kernel`. -/
  lapicInKernel : L → Bool
  /-- `apic_x2apic_mode`. -/
  x2apicMode : L → Bool
  /-- `kvm_x2apic_icr_write`. -/
  x2apicIcrWrite : Stepping V × L → BitVec 64 → Int × (Stepping V × L)
  /-- `kvm_can_use_hv_timer`. -/
  canUseHvTimer : L → Bool
  /-- `kvm_set_lapic_tscdeadline_msr`. -/
  setLapicTscdeadlineMsr : Stepping V × L → BitVec 64 → Stepping V × L
  icr_events : ∀ m data, (x2apicIcrWrite m data).2.1.events.vendor = m.1.events.vendor ∧
    (x2apicIcrWrite m data).2.1.events.rflags = m.1.events.rflags ∧
    (x2apicIcrWrite m data).2.1.events.guestDebug = m.1.events.guestDebug
  tscdeadline_events : ∀ m data,
    (setLapicTscdeadlineMsr m data).1.events.vendor = m.1.events.vendor ∧
    (setLapicTscdeadlineMsr m data).1.events.rflags = m.1.events.rflags ∧
    (setLapicTscdeadlineMsr m data).1.events.guestDebug = m.1.events.guestDebug

/-- `kvm_x86_skip_emulated_instruction`, and for which vendor states it succeeds. -/
structure VendorSkip (V : Type) where
  skip : Vcpu (Stepping V) → Int × Vcpu (Stepping V)
  succeeds : V → Bool
  skip_result : ∀ v, (skip v).1 = if succeeds v.msrs.events.vendor then 1 else 0
  skip_guestDebug : ∀ v, (skip v).2.msrs.events.guestDebug = v.msrs.events.guestDebug

theorem deliver_guestDebug (s : EventState V) :
    (deliverExceptionPayload s).guestDebug = s.guestDebug := by
  unfold deliverExceptionPayload
  split <;> rfl

theorem kvmMultipleException_guestDebug (s : EventState V) (nr : BitVec 8) (hasError : Bool)
    (errorCode : BitVec 32) (hasPayload : Bool) (payload : BitVec 64) (reinject : Bool) :
    (kvmMultipleException s nr hasError errorCode hasPayload payload reinject).guestDebug =
      s.guestDebug := by
  have hqueue : ∀ (s : EventState V) nr hasError errorCode hasPayload payload reinject,
      (queueException s nr hasError errorCode hasPayload payload reinject).guestDebug =
        s.guestDebug := by
    intro s nr hasError errorCode hasPayload payload reinject
    exact deliver_guestDebug _
  unfold kvmMultipleException
  dsimp only
  split
  · exact hqueue ..
  · split
    · rfl
    · split
      · exact hqueue ..
      · exact hqueue ..

/-- Nothing on the way of an emulated skip changes `guest_debug`. -/
theorem emulateSkip_guestDebug (outcome : SkipOutcome) (s : EventState V) :
    (emulateSkip outcome s).guestDebug = s.guestDebug := by
  cases outcome with
  | unhandleable => rfl
  | propagateFault => exact kvmMultipleException_guestDebug ..
  | undecodable => rfl
  | decoded rip singlestepRip =>
    unfold emulateSkip
    dsimp only
    split
    · unfold kvmSetRflags kvmSetRflagsNoEvent
      dsimp only
      split <;> rfl
    · rfl

theorem emulateSkipVcpu_result_eq (outcome : SkipOutcome) (v : Vcpu (Stepping V)) :
    (emulateSkipVcpu outcome v).1 = outcome.result := by
  cases outcome <;> rfl

theorem SkipOutcome.result_eq_zero_or_one (outcome : SkipOutcome) :
    outcome.result = 0 ∨ outcome.result = 1 := by
  cases outcome <;> simp [SkipOutcome.result]

/-- The skip of `vmx.c`, where the emulator makes `outcome` of the instruction. -/
def vmxVendorSkip (outcome : SkipOutcome) : VendorSkip VmxStep where
  skip := vmxSkipEmulatedInstruction fun _ => outcome
  succeeds := fun vmx => !vmx.hypervisor || vmx.exitReason ≠ exitReasonEptMisconfig ||
    outcome.result ≠ 0
  skip_result := by
    intro v
    unfold vmxSkipEmulatedInstruction
    by_cases hlen : ¬ v.msrs.events.vendor.hypervisor ∨
        v.msrs.events.vendor.exitReason ≠ exitReasonEptMisconfig
    · have hsucceeds : (!v.msrs.events.vendor.hypervisor ||
          v.msrs.events.vendor.exitReason ≠ exitReasonEptMisconfig ||
            outcome.result ≠ 0) = true := by
        rcases hlen with h | h <;> simp [h]
      rw [hsucceeds]
      dsimp only
      rw [if_pos hlen]
      split <;> rfl
    · have hemulated : v.msrs.events.vendor.hypervisor = true ∧
          v.msrs.events.vendor.exitReason = exitReasonEptMisconfig := by
        simpa using hlen
      dsimp only
      rw [if_neg hlen, emulateSkipVcpu_result_eq]
      simp only [hemulated]
      rcases outcome.result_eq_zero_or_one with h | h <;> simp [h]
  skip_guestDebug := by
    intro v
    unfold vmxSkipEmulatedInstruction
    dsimp only
    split
    · split <;> rfl
    · split
      · rw [emulateSkipVcpu_events, emulateSkip_guestDebug]
      · show (emulateSkipVcpu outcome v).2.msrs.events.guestDebug = _
        rw [emulateSkipVcpu_events, emulateSkip_guestDebug]

/-- The skip of `svm.c`. -/
def svmVendorSkip (outcome : SkipOutcome) : VendorSkip SvmStep where
  skip := svmSkipEmulatedInstruction fun _ => outcome
  succeeds := fun svm => svm.sevEs || svm.known ≠ 0 || outcome.result ≠ 0
  skip_result := by
    intro v
    unfold svmSkipEmulatedInstruction
    by_cases hes : v.msrs.events.vendor.sevEs = true
    · dsimp only
      rw [if_pos hes, if_pos (by simp [hes])]
    · dsimp only
      rw [if_neg hes]
      by_cases hknown : v.msrs.events.vendor.known = 0
      · rw [if_pos hknown, emulateSkipVcpu_result_eq]
        rcases outcome.result_eq_zero_or_one with h | h <;> simp [h, hes, hknown]
      · have hsucceeds : (v.msrs.events.vendor.sevEs || v.msrs.events.vendor.known ≠ 0 ||
            outcome.result ≠ 0) = true := by
          rw [decide_eq_true hknown, Bool.or_true, Bool.true_or]
        rw [if_neg hknown, hsucceeds]
        rfl
  skip_guestDebug := by
    intro v
    unfold svmSkipEmulatedInstruction
    dsimp only
    split
    · rfl
    · split
      · split
        · rw [emulateSkipVcpu_events, emulateSkip_guestDebug]
          rfl
        · show (emulateSkipVcpu outcome (SvmStep.settle v)).2.msrs.events.guestDebug = _
          rw [emulateSkipVcpu_events, emulateSkip_guestDebug]
          rfl
      · rfl

/-! ## The fast path -/

/-- A virtual CPU without the APIC, and with it. -/
def Vcpu.stepping (v : Vcpu (Stepping V × L)) : Vcpu (Stepping V) := { v with msrs := v.msrs.1 }

def Vcpu.withApic (v : Vcpu (Stepping V)) (l : L) : Vcpu (Stepping V × L) :=
  { v with msrs := (v.msrs, l) }

/-- `kvm_skip_emulated_instruction`, beside an APIC that it leaves alone. -/
def skipInstruction (skip : VendorSkip V) (v : Vcpu (Stepping V × L)) :
    Int × Vcpu (Stepping V × L) :=
  let r := kvmSkipEmulatedInstruction skip.skip v.stepping
  (r.1, r.2.withApic v.msrs.2)

section Fastpath

variable (apic : FastpathApic V L) (skip : VendorSkip V) (v : Vcpu (Stepping V × L))

/-- `handle_fastpath_set_x2apic_icr_irqoff`: 0 if it has sent the interrupt. -/
def handleFastpathSetX2apicIcrIrqoff (data : BitVec 64) : Int × Vcpu (Stepping V × L) :=
  if ¬ apic.lapicInKernel v.msrs.2 ∨ ¬ apic.x2apicMode v.msrs.2 then (1, v)
  -- `APIC_DEST_NOSHORT`, `APIC_DEST_PHYSICAL` and `APIC_DM_FIXED` are 0
  else if data &&& apicShortMask = 0 ∧ data &&& apicDestMask = 0 ∧ data &&& apicModeMask = 0 ∧
      (data >>> 32).setWidth 32 ≠ x2apicBroadcast then
    let r := apic.x2apicIcrWrite v.msrs data
    (r.1, { v with msrs := r.2 })
  else (1, v)

/-- `handle_fastpath_set_tscdeadline`. -/
def handleFastpathSetTscdeadline (data : BitVec 64) : Int × Vcpu (Stepping V × L) :=
  if ¬ apic.canUseHvTimer v.msrs.2 then (1, v)
  else (0, { v with msrs := apic.setLapicTscdeadlineMsr v.msrs data })

/-- `handle_fastpath_set_msr_irqoff`. -/
def handleFastpathSetMsrIrqoff : Fastpath × Vcpu (Stepping V × L) :=
  if v.ecx = msrX2apicIcr then
    let r := handleFastpathSetX2apicIcrIrqoff apic v v.edxEax
    -- what the skip returns is not looked at
    if r.1 = 0 then (.exitHandled, (skipInstruction skip r.2).2) else (.none, r.2)
  else if v.ecx = msrIa32TscDeadline then
    let r := handleFastpathSetTscdeadline apic v v.edxEax
    if r.1 = 0 then (.reenterGuest, (skipInstruction skip r.2).2) else (.none, r.2)
  else (.none, v)

end Fastpath

/-! ## Both paths -/

/-- What the slow path does with the two MSRs, and how it completes an instruction. -/
structure SlowPath (apic : FastpathApic V L) (skip : VendorSkip V) (ven : Vendor (Stepping V × L)) :
    Prop where
  icr : ∀ m data, apic.lapicInKernel m.2 = true → apic.x2apicMode m.2 = true →
    ven.setMsr m msrX2apicIcr data false = apic.x2apicIcrWrite m data
  tscdeadline : ∀ m data,
    ven.setMsr m msrIa32TscDeadline data false = (0, apic.setLapicTscdeadlineMsr m data)
  complete : ∀ v, ven.completeEmulatedMsr v 0 = skipInstruction skip v

/-- The fast path has done what the slow path does, and the guest goes on in both. -/
structure AgreesWithSlow (v : Vcpu (Stepping V × L)) (fast : Fastpath × Vcpu (Stepping V × L))
    (slow : Int × Vcpu (Stepping V × L)) : Prop where
  /-- A write that the filter denies is never performed. -/
  allowed : kvmMsrAllowed v.vm v.ecx msrFilterWrite = true
  state : fast.2 = slow.2
  /-- The slow path does not leave to userspace. -/
  stays : 0 < slow.1

/-- What the fast path does not look at, and does not matter then. -/
structure FastpathExact (skip : VendorSkip V) (v : Vcpu (Stepping V × L)) : Prop where
  /-- x2APIC MSRs are not filtered. -/
  allowed : v.ecx = msrIa32TscDeadline → kvmMsrAllowed v.vm msrIa32TscDeadline msrFilterWrite = true
  skips : skip.succeeds v.msrs.1.events.vendor = true
  noDebugExit : ¬ (v.msrs.1.events.rflags &&& eflagsTf ≠ 0 ∧
    v.msrs.1.events.guestDebug &&& guestdbgSinglestep ≠ 0)

/-- The guest goes on behind the whole skip, unless the vendor module cannot skip or a debugger
steps. -/
theorem skipInstruction_stays (skip : VendorSkip V) (v : Vcpu (Stepping V × L)) :
    0 < (skipInstruction skip v).1 ↔ skip.succeeds v.msrs.1.events.vendor = true ∧
      ¬ (v.msrs.1.events.rflags &&& eflagsTf ≠ 0 ∧
        v.msrs.1.events.guestDebug &&& guestdbgSinglestep ≠ 0) := by
  have hresult := skip.skip_result v.stepping
  have hdebug := skip.skip_guestDebug v.stepping
  change (skip.skip v.stepping).1 = if skip.succeeds v.msrs.1.events.vendor then 1 else 0 at hresult
  change (skip.skip v.stepping).2.msrs.events.guestDebug = v.msrs.1.events.guestDebug at hdebug
  show 0 < (kvmSkipEmulatedInstruction skip.skip v.stepping).1 ↔ _
  unfold kvmSkipEmulatedInstruction
  dsimp only
  change 0 < (if (skip.skip v.stepping).1 = 0 then _ else
    if v.msrs.1.events.rflags &&& eflagsTf ≠ 0 then _ else _ : Int × Vcpu (Stepping V)).1 ↔ _
  cases hs : skip.succeeds v.msrs.1.events.vendor with
  | false =>
    rw [hs] at hresult
    have hzero : (skip.skip v.stepping).1 = 0 := hresult
    rw [if_pos hzero]
    exact iff_of_false (Int.lt_irrefl 0) fun h => nomatch h.1
  | true =>
    rw [hs] at hresult
    have hone : (skip.skip v.stepping).1 = 1 := hresult
    rw [if_neg (by rw [hone]; decide)]
    by_cases htf : v.msrs.1.events.rflags &&& eflagsTf ≠ 0
    · rw [if_pos htf, kvmVcpuDoSinglestep, hdebug]
      split
      · rename_i hstep
        exact iff_of_false (Int.lt_irrefl 0) fun h => h.2 ⟨htf, hstep⟩
      · rename_i hstep
        exact iff_of_true Int.one_pos ⟨rfl, fun h => hstep h.2⟩
    · rw [if_neg htf, hone]
      exact iff_of_true Int.one_pos ⟨rfl, fun h => htf h.1⟩

section Slow

variable {apic : FastpathApic V L} {skip : VendorSkip V} {ven : Vendor (Stepping V × L)}
  {g : Global} {v : Vcpu (Stepping V × L)}

/-- **The slow path** of an MSR with no special case in `x86.c`, when the filter allows the write
and the write succeeds. -/
theorem kvmEmulateWrmsr_written (hven : SlowPath apic skip ven) (r₀ : Int)
    {m : Stepping V × L} (hmsr : v.ecx = msrX2apicIcr ∨ v.ecx = msrIa32TscDeadline)
    (hallowed : kvmMsrAllowed v.vm v.ecx msrFilterWrite = true)
    (hset : ven.setMsr v.msrs v.ecx v.edxEax false = (0, m)) :
    (kvmEmulateWrmsr ven g v r₀).1 = skipInstruction skip { v with msrs := m } := by
  have hdebugctl : v.ecx ≠ 0x1d9#32 := by
    rcases hmsr with h | h <;> rw [h] <;> decide
  have hvalue : msrWriteValue g v v.ecx v.edxEax false = some v.edxEax := by
    unfold msrWriteValue
    rcases hmsr with h | h <;> rw [h] <;> rfl
  have hwrite : wrmsrSet ven g v r₀ = (0, { v with msrs := m }) := by
    rw [wrmsrSet, if_neg hdebugctl, kvmSetMsrWithFilter, if_pos hallowed, kvmSetMsrIgnoredCheck,
      kvmSetMsrUnchecked, hvalue]
    simp only [hset]
    rw [if_neg (by rintro ⟨h, -⟩; exact absurd h (by decide))]
  rw [kvmEmulateWrmsr, wrmsrExit, hwrite]
  exact hven.complete _

/-- **What the fast path has done** when it handles a write: the write of the slow path, and a
skip. -/
theorem fastpath_handled (hven : SlowPath apic skip ven)
    (h : (handleFastpathSetMsrIrqoff apic skip v).1 ≠ .none) :
    ∃ m, (v.ecx = msrX2apicIcr ∨ v.ecx = msrIa32TscDeadline) ∧
      ven.setMsr v.msrs v.ecx v.edxEax false = (0, m) ∧
      (handleFastpathSetMsrIrqoff apic skip v).2 =
        (skipInstruction skip { v with msrs := m }).2 ∧
      m.1.events.vendor = v.msrs.1.events.vendor ∧ m.1.events.rflags = v.msrs.1.events.rflags ∧
      m.1.events.guestDebug = v.msrs.1.events.guestDebug := by
  unfold handleFastpathSetMsrIrqoff at h ⊢
  by_cases hicr : v.ecx = msrX2apicIcr
  · rw [if_pos hicr] at h ⊢
    unfold handleFastpathSetX2apicIcrIrqoff at h ⊢
    dsimp only at h ⊢
    split at h
    · exact absurd rfl h
    · rename_i hapic
      split at h
      · rename_i hdata
        rw [if_neg hapic, if_pos hdata]
        dsimp only at h ⊢
        split at h
        · rename_i hzero
          simp only [not_or, not_not] at hapic
          refine ⟨(apic.x2apicIcrWrite v.msrs v.edxEax).2, .inl hicr, ?_, by rw [if_pos hzero],
            apic.icr_events v.msrs v.edxEax⟩
          rw [hicr, hven.icr _ _ hapic.1 hapic.2]
          exact Prod.ext hzero rfl
        · exact absurd rfl h
      · exact absurd rfl h
  · rw [if_neg hicr] at h ⊢
    by_cases htsc : v.ecx = msrIa32TscDeadline
    · rw [if_pos htsc] at h ⊢
      unfold handleFastpathSetTscdeadline at h ⊢
      dsimp only at h ⊢
      split at h
      · exact absurd rfl h
      · rename_i htimer
        rw [if_neg htimer]
        refine ⟨apic.setLapicTscdeadlineMsr v.msrs v.edxEax, .inr htsc, ?_, if_pos rfl ▸ rfl,
          apic.tscdeadline_events v.msrs v.edxEax⟩
        rw [htsc, hven.tscdeadline]
    · rw [if_neg htsc] at h
      exact absurd rfl h

end Slow

/-- **The fast path agrees with the slow path**, where it handles the write, exactly if the filter
allows a write of the TSC deadline, the vendor module can skip the instruction, and it is not
stepped by a debugger. -/
theorem fastpath_agrees_iff {apic : FastpathApic V L} {skip : VendorSkip V}
    {ven : Vendor (Stepping V × L)} (hven : SlowPath apic skip ven) (g : Global) (r₀ : Int)
    (v : Vcpu (Stepping V × L)) (hhandled : (handleFastpathSetMsrIrqoff apic skip v).1 ≠ .none) :
    AgreesWithSlow v (handleFastpathSetMsrIrqoff apic skip v) (kvmEmulateWrmsr ven g v r₀).1 ↔
      FastpathExact skip v := by
  obtain ⟨m, hmsr, hset, hfast, hvendor, hrflags, hdebug⟩ := fastpath_handled hven hhandled
  have hstays := skipInstruction_stays skip { v with msrs := m }
  simp only [hvendor, hrflags, hdebug] at hstays
  constructor
  · intro h
    have hslow := kvmEmulateWrmsr_written (g := g) hven r₀ hmsr h.allowed hset
    have hgo := hstays.mp (hslow ▸ h.stays)
    exact ⟨fun htsc => htsc ▸ h.allowed, hgo.1, hgo.2⟩
  · intro h
    have hallowed : kvmMsrAllowed v.vm v.ecx msrFilterWrite = true := by
      rcases hmsr with hicr | htsc
      · rw [hicr, kvmMsrAllowed, if_pos (by decide)]
      · rw [htsc]
        exact h.allowed htsc
    have hslow := kvmEmulateWrmsr_written (g := g) hven r₀ hmsr hallowed hset
    refine ⟨hallowed, ?_, ?_⟩
    · rw [hfast, hslow]
    · rw [hslow]
      exact hstays.mpr ⟨h.skips, h.noDebugExit⟩

/-- An APIC of which only the TSC deadline is kept. -/
def deadlineApic : FastpathApic VmxStep (BitVec 64) where
  lapicInKernel := fun _ => true
  x2apicMode := fun _ => true
  x2apicIcrWrite := fun m _ => (0, m)
  canUseHvTimer := fun _ => true
  setLapicTscdeadlineMsr := fun m data => (m.1, data)
  icr_events := fun _ _ => ⟨rfl, rfl, rfl⟩
  tscdeadline_events := fun _ _ => ⟨rfl, rfl, rfl⟩

/-- A vendor module on this APIC. -/
def deadlineVendor : Vendor (Stepping VmxStep × BitVec 64) where
  getMsr := fun _ _ _ => (msrRetInvalid, 0)
  setMsr := fun m index data _ =>
    if index = msrX2apicIcr then (0, m)
    else if index = msrIa32TscDeadline then (0, m.1, data)
    else (msrRetInvalid, m)
  completeEmulatedMsr := fun v r =>
    if r = 0 then skipInstruction (vmxVendorSkip .undecodable) v
    else (1, { v with exception := some (13, 0) })
  complete_error := fun _ _ h => by rw [if_neg h]

theorem deadlineSlowPath :
    SlowPath deadlineApic (vmxVendorSkip .undecodable) deadlineVendor :=
  ⟨fun _ _ _ _ => rfl, fun _ _ => rfl, fun _ => rfl⟩

/-- A guest that sets its TSC deadline to 5, under a filter, in a state. -/
def deadlineVcpu (filter : Option MsrFilter) (s : EventState VmxStep) :
    Vcpu (Stepping VmxStep × BitVec 64) where
  rcx := 0x6e0
  rax := 5
  instructionLen := 2
  vm := { msrFilter := filter }
  msrs := ({ events := s }, 0)

/-- Both paths agree without a filter and without a debugger. -/
theorem fastpath_agrees_iff_deadline :
    AgreesWithSlow (deadlineVcpu none { vendor := {} })
        (handleFastpathSetMsrIrqoff deadlineApic (vmxVendorSkip .undecodable)
          (deadlineVcpu none { vendor := {} }))
        (kvmEmulateWrmsr deadlineVendor {} (deadlineVcpu none { vendor := {} }) 0).1 ↔
      FastpathExact (vmxVendorSkip .undecodable) (deadlineVcpu none { vendor := {} }) :=
  fastpath_agrees_iff deadlineSlowPath {} 0 (deadlineVcpu none { vendor := {} }) (by decide)

/-- A filter that denies writes of the TSC deadline. -/
def denyDeadline : MsrFilter := ⟨true, [⟨msrIa32TscDeadline, 1, msrFilterWrite, [false]⟩]⟩

/-- The fast path sets a deadline that the filter denies, and goes on where a debugger that steps
should be told. -/
theorem fastpathUnfiltered :
    (let v := deadlineVcpu (some denyDeadline) { vendor := {} }
      let fast := handleFastpathSetMsrIrqoff deadlineApic (vmxVendorSkip .undecodable) v
      fast.1 = .reenterGuest ∧ fast.2.msrs.2 = 5 ∧
        (kvmEmulateWrmsr deadlineVendor {} v 0).1.2.msrs.2 = 0) ∧
    let v := deadlineVcpu none { vendor := {}, rflags := 0x102, guestDebug := guestdbgSinglestep }
    let fast := handleFastpathSetMsrIrqoff deadlineApic (vmxVendorSkip .undecodable) v
    fast.1 = .reenterGuest ∧ (kvmEmulateWrmsr deadlineVendor {} v 0).1.1 = 0 ∧
      (kvmEmulateWrmsr deadlineVendor {} v 0).1.2.run.exitReason = kvmExitDebug := by
  decide

end Kvm
