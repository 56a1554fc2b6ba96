import PveAntiDetection.Lib.Runs
import PveAntiDetection.Kvm.Exceptions

/-!
# The instruction intercepts of SVM

Which instructions of a guest that is neither nested nor SEV exit, and where the exits go.

* `initVmcb`, `svmRecalcInstructionIntercepts`, `initVmcbAfterSetCpuid` — the functions that
  assemble the intercepts; `svmStep` — the calls that run them;
* `svmExitHandlers` — the table of `svm.c`;
* `FakeTscOnly` — RDTSC and RDTSCP exit to a handler that returns the fake counter;
* `fakeTscOnly_never` — it holds in no state.
-/

set_option autoImplicit false

namespace Kvm

/-! ## Intercepts -/

/-- The bits of `control->intercepts`. -/
inductive Intercept where
  | crRead (n : Nat) | crWrite (n : Nat) | drRead (n : Nat) | drWrite (n : Nat)
  | exception (vector : BitVec 8)
  | intr | nmi | smi | init | vintr | selectiveCr0 | storeIdtr | storeGdtr | storeLdtr | storeTr
  | loadIdtr | loadGdtr | loadLdtr | loadTr | rdtsc | rdpmc | pushf | popf | cpuid | rsm | iret
  | intn | invd | pause | hlt | invlpg | invlpga | ioioProt | msrProt | taskSwitch | ferrFreeze
  | shutdown | vmrun | vmmcall | vmload | vmsave | stgi | clgi | skinit | rdtscp | icebp | wbinvd
  | monitor | mwait | mwaitCond | xsetbv | rdpru | invpcid
  deriving DecidableEq

/-- The intercepts of `vmcb01`; no bit of a new page is set. -/
structure Intercepts where
  bits : Intercept → Bool := fun _ => false

/-- `svm_set_intercept`. -/
def Intercepts.set (c : Intercepts) (i : Intercept) : Intercepts :=
  ⟨fun j => if j = i then true else c.bits j⟩

/-- `svm_clr_intercept`. -/
def Intercepts.clr (c : Intercepts) (i : Intercept) : Intercepts :=
  ⟨fun j => if j = i then false else c.bits j⟩

/-- Several bits in order. -/
def Intercepts.setAll (c : Intercepts) (is : List Intercept) : Intercepts :=
  is.foldl Intercepts.set c

/-- What the functions ask of the host and of the module parameters. -/
structure SvmHost where
  nptEnabled : Bool := true
  /-- `kvm_cpu_cap_has` of `X86_FEATURE_INVPCID` and `X86_FEATURE_RDTSCP`. -/
  capInvpcid : Bool := true
  capRdtscp : Bool := true
  interceptSmi : Bool := true
  enableVmwareBackdoor : Bool := false
  vgif : Bool := true
  vls : Bool := true
  deriving DecidableEq

/-- What they ask of the guest, its CPUID included. -/
structure SvmGuest where
  hasInvpcid : Bool := false
  hasRdtscp : Bool := false
  isIntel : Bool := false
  apicvActive : Bool := false
  mwaitInGuest : Bool := false
  hltInGuest : Bool := false
  pauseInGuest : Bool := false
  deriving DecidableEq

section Functions

variable (h : SvmHost) (g : SvmGuest) (c : Intercepts)

/-- `svm_recalc_instruction_intercepts`. -/
def svmRecalcInstructionIntercepts : Intercepts :=
  let c :=
    if h.capInvpcid then
      if ¬ h.nptEnabled ∨ ¬ g.hasInvpcid then c.set .invpcid else c.clr .invpcid
    else c
  if h.capRdtscp then
    if g.hasRdtscp then c.clr .rdtscp else c.set .rdtscp
  else c

/-- `init_vmcb_after_set_cpuid`. -/
def initVmcbAfterSetCpuid : Intercepts :=
  if g.isIntel then (c.set .vmload).set .vmsave
  else if h.vls then (c.clr .vmload).clr .vmsave
  else c

/-- `set_dr_intercepts`. -/
def setDrIntercepts : Intercepts :=
  c.setAll [.drRead 0, .drRead 1, .drRead 2, .drRead 3, .drRead 4, .drRead 5, .drRead 6,
    .drWrite 0, .drWrite 1, .drWrite 2, .drWrite 3, .drWrite 4, .drWrite 5, .drWrite 6,
    .drRead 7, .drWrite 7]

/-- `init_vmcb`. -/
def initVmcb : Intercepts :=
  let c := c.setAll [.crRead 0, .crRead 3, .crRead 4, .crWrite 0, .crWrite 3, .crWrite 4]
  let c := if ¬ g.apicvActive then c.set (.crWrite 8) else c
  let c := setDrIntercepts c
  let c := c.setAll [.exception pfVector, .exception udVector, .exception mcVector,
    .exception acVector, .exception dbVector]
  let c := if h.enableVmwareBackdoor then c.set (.exception gpVector) else c
  let c := c.setAll [.intr, .nmi]
  let c := if h.interceptSmi then c.set .smi else c
  let c := c.setAll [.selectiveCr0, .rdpmc, .cpuid, .invd, .invlpg, .invlpga, .ioioProt, .msrProt,
    .taskSwitch, .shutdown, .vmrun, .vmmcall, .vmload, .vmsave, .stgi, .clgi, .skinit, .wbinvd,
    .xsetbv, .rdpru, .rsm]
  let c := if ¬ g.mwaitInGuest then c.setAll [.monitor, .mwait] else c
  let c := if ¬ g.hltInGuest then c.set .hlt else c
  let c :=
    if h.nptEnabled then
      (((c.clr .invlpg).clr (.exception pfVector)).clr (.crRead 3)).clr (.crWrite 3)
    else c
  let c := if ¬ g.pauseInGuest then c.set .pause else c.clr .pause
  let c := svmRecalcInstructionIntercepts h g c
  let c := if h.vgif then (c.clr .stgi).clr .clgi else c
  initVmcbAfterSetCpuid h g c

/-- `svm_vcpu_reset`: `__svm_vcpu_reset`, which depends on `init_event`, sets no intercept. -/
def svmVcpuReset (_initEvent : Bool) : Intercepts := initVmcb h g c

/-- `svm_vcpu_after_set_cpuid`. -/
def svmVcpuAfterSetCpuid : Intercepts :=
  initVmcbAfterSetCpuid h g (svmRecalcInstructionIntercepts h g c)

end Functions

/-! ## Calls -/

/-- A call, and what the guest is then. -/
inductive SvmCall where
  | reset (g : SvmGuest) (initEvent : Bool)
  | afterSetCpuid (g : SvmGuest)
  | recalc (g : SvmGuest)
  deriving DecidableEq

/-- The guest of the call. -/
def SvmCall.guest : SvmCall → SvmGuest
  | reset g _ => g
  | afterSetCpuid g => g
  | recalc g => g

/-- One call. -/
def svmStep (h : SvmHost) (c : Intercepts) (call : SvmCall) : Unit × Intercepts :=
  match call with
  | .reset g initEvent => ((), svmVcpuReset h g c initEvent)
  | .afterSetCpuid g => ((), svmVcpuAfterSetCpuid h g c)
  | .recalc g => ((), svmRecalcInstructionIntercepts h g c)

/-! ## Exits -/

/-- The exit codes of the table, and all others. -/
inductive SvmExit where
  | readCr (n : Nat) | crSelWrite | writeCr (n : Nat) | readDr (n : Nat) | writeDr (n : Nat)
  | excp (vector : BitVec 8)
  | intr | nmi | smi | vintr | rdpmc | cpuid | iret | invd | pause | hlt | invlpg | invlpga | ioio
  | msr | taskSwitch | shutdown | vmrun | vmmcall | vmload | vmsave | stgi | clgi | skinit | rdtscp
  | wbinvd | monitor | mwait | xsetbv | rdpru | eferWriteTrap | crWriteTrap (n : Nat) | invpcid
  | npf | rsm | avicIncompleteIpi | avicUnacceleratedAccess | vmgexit | rdtsc | other (code : Nat)
  deriving DecidableEq

/-- The handlers. -/
inductive SvmHandler where
  | crInterception | cr8WriteInterception | drInterception | dbInterception | bpInterception
  | udInterception | pfInterception | mcInterception | acInterception | gpInterception
  | intrInterception | nmiInterception | smiInterception | interruptWindowInterception
  | kvmEmulateRdpmc | kvmEmulateCpuid | iretInterception | kvmEmulateInvd | pauseInterception
  | kvmEmulateHalt | invlpgInterception | invlpgaInterception | ioInterception | msrInterception
  | taskSwitchInterception | shutdownInterception | vmrunInterception | kvmEmulateHypercall
  | vmloadInterception | vmsaveInterception | stgiInterception | clgiInterception
  | skinitInterception | kvmHandleInvalidOp | kvmEmulateWbinvd | kvmEmulateMonitor
  | kvmEmulateMwait | kvmEmulateXsetbv | eferTrap | crTrap | invpcidInterception | npfInterception
  | rsmInterception | avicIncompleteIpiInterception | avicUnacceleratedAccessInterception
  | sevHandleVmgexit | handleRdtscInterception
  deriving DecidableEq

/-- `svm_exit_handlers`. -/
def svmExitHandlers : SvmExit → Option SvmHandler
  | .readCr n => if n ∈ [0, 3, 4, 8] then some .crInterception else none
  | .crSelWrite => some .crInterception
  | .writeCr n =>
    if n ∈ [0, 3, 4] then some .crInterception
    else if n = 8 then some .cr8WriteInterception
    else none
  | .readDr n => if n ≤ 7 then some .drInterception else none
  | .writeDr n => if n ≤ 7 then some .drInterception else none
  | .excp vector =>
    if vector = dbVector then some .dbInterception
    else if vector = bpVector then some .bpInterception
    else if vector = udVector then some .udInterception
    else if vector = pfVector then some .pfInterception
    else if vector = mcVector then some .mcInterception
    else if vector = acVector then some .acInterception
    else if vector = gpVector then some .gpInterception
    else none
  | .intr => some .intrInterception
  | .nmi => some .nmiInterception
  | .smi => some .smiInterception
  | .vintr => some .interruptWindowInterception
  | .rdpmc => some .kvmEmulateRdpmc
  | .cpuid => some .kvmEmulateCpuid
  | .iret => some .iretInterception
  | .invd => some .kvmEmulateInvd
  | .pause => some .pauseInterception
  | .hlt => some .kvmEmulateHalt
  | .invlpg => some .invlpgInterception
  | .invlpga => some .invlpgaInterception
  | .ioio => some .ioInterception
  | .msr => some .msrInterception
  | .taskSwitch => some .taskSwitchInterception
  | .shutdown => some .shutdownInterception
  | .vmrun => some .vmrunInterception
  | .vmmcall => some .kvmEmulateHypercall
  | .vmload => some .vmloadInterception
  | .vmsave => some .vmsaveInterception
  | .stgi => some .stgiInterception
  | .clgi => some .clgiInterception
  | .skinit => some .skinitInterception
  | .rdtscp => some .kvmHandleInvalidOp
  | .wbinvd => some .kvmEmulateWbinvd
  | .monitor => some .kvmEmulateMonitor
  | .mwait => some .kvmEmulateMwait
  | .xsetbv => some .kvmEmulateXsetbv
  | .rdpru => some .kvmHandleInvalidOp
  | .eferWriteTrap => some .eferTrap
  | .crWriteTrap n => if n ∈ [0, 4, 8] then some .crTrap else none
  | .invpcid => some .invpcidInterception
  | .npf => some .npfInterception
  | .rsm => some .rsmInterception
  | .avicIncompleteIpi => some .avicIncompleteIpiInterception
  | .avicUnacceleratedAccess => some .avicUnacceleratedAccessInterception
  | .vmgexit => some .sevHandleVmgexit
  | .rdtsc => some .handleRdtscInterception
  | .other _ => none

/-- The instruction exits, and its exit goes to the handler of the fake counter. -/
def FakeCounted (c : Intercepts) (i : Intercept) (exit : SvmExit) : Prop :=
  c.bits i = true ∧ svmExitHandlers exit = some .handleRdtscInterception

/-- The guest reads no counter but the fake one. -/
def FakeTscOnly (g : SvmGuest) (c : Intercepts) : Prop :=
  FakeCounted c .rdtsc .rdtsc ∧ (g.hasRdtscp = true → FakeCounted c .rdtscp .rdtscp)

/-! ## The bit of RDTSC -/

section Bits

variable {c : Intercepts} {i j : Intercept}

@[simp] theorem set_bits_of_ne (hij : i ≠ j) : (c.set i).bits j = c.bits j := by
  simp [Intercepts.set, Ne.symm hij]

@[simp] theorem clr_bits_of_ne (hij : i ≠ j) : (c.clr i).bits j = c.bits j := by
  simp [Intercepts.clr, Ne.symm hij]

theorem setAll_bits {is : List Intercept} (hj : j ∉ is) : (c.setAll is).bits j = c.bits j := by
  induction is generalizing c with
  | nil => rfl
  | cons i is ih =>
    rw [List.mem_cons, not_or] at hj
    show ((c.set i).setAll is).bits j = c.bits j
    rw [ih hj.2, set_bits_of_ne (Ne.symm hj.1)]

theorem ite_bits {p : Prop} [Decidable p] {c' c'' : Intercepts} (hc' : c'.bits j = c.bits j)
    (hc'' : c''.bits j = c.bits j) : (if p then c' else c'').bits j = c.bits j := by
  split
  · exact hc'
  · exact hc''

end Bits

section Rdtsc

variable (h : SvmHost) (g : SvmGuest) (c : Intercepts)

theorem svmRecalc_rdtsc :
    (svmRecalcInstructionIntercepts h g c).bits .rdtsc = c.bits .rdtsc := by
  unfold svmRecalcInstructionIntercepts
  extract_lets c'
  have hinvpcid : c'.bits .rdtsc = c.bits .rdtsc := by
    refine ite_bits (ite_bits ?_ ?_) rfl
    · exact set_bits_of_ne (by decide)
    · exact clr_bits_of_ne (by decide)
  rw [← hinvpcid]
  refine ite_bits (ite_bits ?_ ?_) rfl
  · exact clr_bits_of_ne (by decide)
  · exact set_bits_of_ne (by decide)

theorem initVmcbAfterSetCpuid_rdtsc :
    (initVmcbAfterSetCpuid h g c).bits .rdtsc = c.bits .rdtsc := by
  unfold initVmcbAfterSetCpuid
  refine ite_bits ?_ (ite_bits ?_ rfl)
  · rw [set_bits_of_ne (by decide), set_bits_of_ne (by decide)]
  · rw [clr_bits_of_ne (by decide), clr_bits_of_ne (by decide)]

theorem initVmcb_rdtsc : (initVmcb h g c).bits .rdtsc = c.bits .rdtsc := by
  unfold initVmcb
  extract_lets cr cr8 dr excp gp intr smi insn mwait hlt npt pause recalc vgif
  have hcr : cr.bits .rdtsc = c.bits .rdtsc := setAll_bits (by decide)
  have hcr8 : cr8.bits .rdtsc = cr.bits .rdtsc := ite_bits (set_bits_of_ne (by decide)) rfl
  have hdr : dr.bits .rdtsc = cr8.bits .rdtsc := setAll_bits (by decide)
  have hexcp : excp.bits .rdtsc = dr.bits .rdtsc := setAll_bits (by decide)
  have hgp : gp.bits .rdtsc = excp.bits .rdtsc := ite_bits (set_bits_of_ne (by decide)) rfl
  have hintr : intr.bits .rdtsc = gp.bits .rdtsc := setAll_bits (by decide)
  have hsmi : smi.bits .rdtsc = intr.bits .rdtsc := ite_bits (set_bits_of_ne (by decide)) rfl
  have hinsn : insn.bits .rdtsc = smi.bits .rdtsc := setAll_bits (by decide)
  have hmwait : mwait.bits .rdtsc = insn.bits .rdtsc := ite_bits (setAll_bits (by decide)) rfl
  have hhlt : hlt.bits .rdtsc = mwait.bits .rdtsc := ite_bits (set_bits_of_ne (by decide)) rfl
  have hnpt : npt.bits .rdtsc = hlt.bits .rdtsc := by
    refine ite_bits ?_ rfl
    rw [clr_bits_of_ne (by decide), clr_bits_of_ne (by decide), clr_bits_of_ne (by decide),
      clr_bits_of_ne (by decide)]
  have hpause : pause.bits .rdtsc = npt.bits .rdtsc :=
    ite_bits (set_bits_of_ne (by decide)) (clr_bits_of_ne (by decide))
  have hrecalc : recalc.bits .rdtsc = pause.bits .rdtsc := svmRecalc_rdtsc h g pause
  have hvgif : vgif.bits .rdtsc = recalc.bits .rdtsc := by
    refine ite_bits ?_ rfl
    rw [clr_bits_of_ne (by decide), clr_bits_of_ne (by decide)]
  rw [initVmcbAfterSetCpuid_rdtsc, hvgif, hrecalc, hpause, hnpt, hhlt, hmwait, hinsn, hsmi, hintr,
    hgp, hexcp, hdr, hcr8, hcr]

/-- **No call touches the intercept of RDTSC.** -/
theorem svmStep_rdtsc (call : SvmCall) : (svmStep h c call).2.bits .rdtsc = c.bits .rdtsc := by
  cases call with
  | reset g initEvent => exact initVmcb_rdtsc h g c
  | afterSetCpuid g =>
    exact (initVmcbAfterSetCpuid_rdtsc h g _).trans (svmRecalc_rdtsc h g c)
  | recalc g => exact svmRecalc_rdtsc h g c

/-- The guest that has RDTSCP runs it without an exit. -/
theorem svmRecalc_rdtscp (hcap : h.capRdtscp = true) (hg : g.hasRdtscp = true) :
    (svmRecalcInstructionIntercepts h g c).bits .rdtscp = false := by
  simp [svmRecalcInstructionIntercepts, hcap, hg, Intercepts.clr]

/-- Whatever is intercepted, the exit of RDTSCP goes to `kvm_handle_invalid_op`. -/
theorem rdtscp_not_counted : ¬ FakeCounted c .rdtscp .rdtscp := by
  rintro ⟨-, hhandler⟩
  cases hhandler

end Rdtsc

/-! ## Runs -/

/-- **No call intercepts RDTSC**, after any calls on a new `vmcb01`. -/
theorem final_rdtsc (h : SvmHost) (calls : List SvmCall) :
    (Runs.final (svmStep h) {} calls).bits .rdtsc = false := by
  refine Runs.final_induct (I := fun c : Intercepts => c.bits .rdtsc = false) ?_ calls rfl
  intro c call hc
  exact (svmStep_rdtsc h c call).trans hc

/-- **The guest never reads the fake counter only**: RDTSC exits in no state reached. -/
theorem fakeTscOnly_never (h : SvmHost) (calls : List SvmCall) (g : SvmGuest) :
    ¬ FakeTscOnly g (Runs.final (svmStep h) {} calls) := by
  rintro ⟨⟨hset, -⟩, -⟩
  rw [final_rdtsc] at hset
  cases hset

/-- A virtual CPU with RDTSCP on a host with all features, after its reset and its CPUID. -/
theorem hardwareTscRead :
    ¬ ∀ (h : SvmHost) (calls : List SvmCall) (g : SvmGuest),
      calls.getLast?.map SvmCall.guest = some g →
        FakeTscOnly g (Runs.final (svmStep h) {} calls) := by
  intro hall
  have hread := hall {} [.reset { hasRdtscp := true } false, .afterSetCpuid { hasRdtscp := true }]
    { hasRdtscp := true } rfl
  have hset : (Runs.final (svmStep {}) {} [.reset { hasRdtscp := true } false,
    .afterSetCpuid { hasRdtscp := true }]).bits .rdtsc = true := hread.1.1
  exact absurd hset (by decide)

end Kvm
