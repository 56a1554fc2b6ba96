import PveAntiDetection.Lib.Bits
import PveAntiDetection.Kvm.CommonMsrs

/-!
# Refused writes to the MSRs of SVM

What `svm_set_msr` leaves behind a write that it refuses.

* `svmSetMsr`, `svmGetMsr` — the writes and the reads;
* `clean_svmSetVmCr_iff` — a write to `MSR_VM_CR` is refused behind the update;
* `vmCrRefusedLate` — a guest that reads back what was refused;
* `svmSetMsr_untouched_iff` — which refused writes have no effect;
* `svmWrites_accepted` — without the others, the refused writes of a run may be deleted.
-/

set_option autoImplicit false

namespace Kvm.Msrs

open Refusals

/-! ## Labels -/

/-- The MSRs that `svm_set_msr` and `svm_get_msr` tell apart. -/
inductive SvmMsr where
  | tscRatio | pat | specCtrl | virtSpecCtrl | star | lstar | cstar | kernelGsBase | syscallMask
  | sysenterCs | sysenterEip | sysenterEsp | tscAux | debugctl | lastBranchFromIp | lastBranchToIp
  | lastIntFromIp | lastIntToIp | hsavePa | vmCr | ignne | deCfg | f15hIcCfg | other
  deriving DecidableEq

/-- The labels. -/
def svmMsrTable : List (BitVec 32 × SvmMsr) :=
  [(0xc0000104, .tscRatio), -- AMD64_TSC_RATIO
   (0x277, .pat), -- IA32_CR_PAT
   (0x48, .specCtrl), -- IA32_SPEC_CTRL
   (0xc001011f, .virtSpecCtrl), -- AMD64_VIRT_SPEC_CTRL
   (0xc0000081, .star), -- STAR
   (msrLstar, .lstar),
   (msrCstar, .cstar),
   (msrKernelGsBase, .kernelGsBase),
   (0xc0000084, .syscallMask), -- SYSCALL_MASK
   (0x174, .sysenterCs), -- IA32_SYSENTER_CS
   (msrIa32SysenterEip, .sysenterEip),
   (msrIa32SysenterEsp, .sysenterEsp),
   (msrTscAux, .tscAux),
   (msrIa32Debugctl, .debugctl),
   (0x1db, .lastBranchFromIp), -- IA32_LASTBRANCHFROMIP
   (0x1dc, .lastBranchToIp), -- IA32_LASTBRANCHTOIP
   (0x1dd, .lastIntFromIp), -- IA32_LASTINTFROMIP
   (0x1de, .lastIntToIp), -- IA32_LASTINTTOIP
   (0xc0010117, .hsavePa), -- VM_HSAVE_PA
   (msrVmCr, .vmCr),
   (0xc0010115, .ignne), -- VM_IGNNE
   (0xc0011029, .deCfg), -- AMD64_DE_CFG
   (0xc0011021, .f15hIcCfg)] -- F15H_IC_CFG

/-- The label of an MSR. -/
def svmMsr (msr : BitVec 32) : SvmMsr :=
  match svmMsrTable.find? fun r => r.1 = msr with
  | none => .other
  | some r => r.2

/-! ## Last branches -/

section Accesses

variable {R : Type} (env : MsrEnv R) (s : MsrState R) (m : MsrData)

/-- `set_msr_interception` on `svm->msrpm`. -/
def MsrState.intercept (msr : BitVec 32) (read write : Bool) : MsrState R :=
  { s with msrpm := setMsrInterception s.msrpm msr read write }

/-- `set_msr_interception` for the four MSRs of the last branches. -/
def interceptLbrs (read write : Bool) : MsrState R :=
  [0x1db, 0x1dc, 0x1dd, 0x1de].foldl (fun s msr => s.intercept msr read write) s

/-- `svm_copy_lbrs`. -/
def svmCopyLbrs (toVmcb fromVmcb : Vmcb) : Vmcb :=
  { toVmcb with
    dbgctl := fromVmcb.dbgctl
    brFrom := fromVmcb.brFrom
    brTo := fromVmcb.brTo
    lastExcpFrom := fromVmcb.lastExcpFrom
    lastExcpTo := fromVmcb.lastExcpTo }.markDirty 10

/-- `svm_enable_lbrv`. -/
def svmEnableLbrv : MsrState R :=
  let s := s.setVmcb { s.vmcb with virtExt := s.vmcb.virtExt ||| 1 }
  let s := interceptLbrs s true true
  let s := if env.sevEsGuest then s.intercept msrIa32Debugctl true true else s
  if s.guestMode then { s with vmcb02 := svmCopyLbrs s.vmcb02 s.vmcb01 } else s

/-- `svm_disable_lbrv`. -/
def svmDisableLbrv : MsrState R :=
  let s := s.setVmcb { s.vmcb with virtExt := s.vmcb.virtExt &&& ~~~1 }
  let s := interceptLbrs s false false
  if s.guestMode then { s with vmcb01 := svmCopyLbrs s.vmcb01 s.vmcb02 } else s

/-- `svm_get_lbr_vmcb`. -/
def svmGetLbrVmcb : Vmcb := if s.vmcb.virtExt.getLsbD 0 then s.vmcb else s.vmcb01

/-- A write through `svm_get_lbr_vmcb`. -/
def setLbrDbgctl (data : BitVec 64) : MsrState R :=
  if s.vmcb.virtExt.getLsbD 0 then s.setVmcb { s.vmcb with dbgctl := data }
  else { s with vmcb01 := { s.vmcb01 with dbgctl := data } }

/-- `svm_update_lbrv`. -/
def svmUpdateLbrv : MsrState R :=
  let currentEnableLbrv := s.vmcb.virtExt.getLsbD 0
  let enableLbrv := (svmGetLbrVmcb s).dbgctl.getLsbD 0 ||
    (s.guestMode && env.guestCanUse .lbrv && s.nestedCtlVirtExt.getLsbD 0)
  if enableLbrv = currentEnableLbrv then s
  else if enableLbrv then svmEnableLbrv env s
  else svmDisableLbrv s

/-! ## Writes -/

/-- `kvm_spec_ctrl_test_value`; the host's own value is put back. -/
def kvmSpecCtrlTestValue (value : BitVec 64) : Bool :=
  env.rdmsrSpecCtrlFails || env.wrmsrSpecCtrlFails value

/-- `svm_get_msr_feature` of `MSR_AMD64_DE_CFG`. -/
def svmGetMsrFeature : BitVec 64 := if env.bootCpuHas .lfenceRdtsc then 0x2 else 0

/-- `svm_set_vm_cr`. -/
def svmSetVmCr (data : BitVec 64) : Int × MsrState R :=
  -- SVM_VM_CR_VALID_MASK
  if data &&& ~~~0x1f ≠ 0 then (1, s)
  else
    -- the lock and the disable bit stay as they are where the latter is set
    let chgMask : BitVec 64 := if s.vmCrMsr.getLsbD 4 then 0x1f &&& ~~~0x18 else 0x1f
    let s := { s with vmCrMsr := s.vmCrMsr &&& ~~~chgMask ||| (data &&& chgMask) }
    if s.vmCrMsr.getLsbD 4 ∧ s.efer.getLsbD 12 then (1, s) else (0, s)

/-- `svm_set_msr`. -/
def svmSetMsr : Int × MsrState R :=
  match svmMsr m.index with
  | .tscRatio =>
    if ¬ env.guestCanUse .tscratemsr then
      if ¬ m.hostInitiated then (1, s)
      else if m.data ≠ 0 ∧ m.data ≠ s.tscRatioMsr then (1, s)
      else (0, s)
    -- SVM_TSC_RATIO_RSVD
    else if m.data &&& 0xffffff0000000000 ≠ 0 then (1, s)
    else
      let s := { s with tscRatioMsr := m.data }
      (0, if s.guestMode then env.call .nestedSvmUpdateTscRatioMsr s else s)
  | .pat =>
    let r := kvmSetMsrCommon env s m
    if r.1 ≠ 0 then r
    else
      let s := { r.2 with vmcb01 := { r.2.vmcb01 with gPat := m.data } }
      let s := if s.guestMode then env.call .nestedVmcb02ComputeGPat s else s
      (0, s.setVmcb (s.vmcb.markDirty 4))
  | .specCtrl =>
    if ¬ m.hostInitiated ∧ ¬ env.guestHasSpecCtrlMsr then (1, s)
    else if kvmSpecCtrlTestValue env m.data then (1, s)
    else
      let s :=
        if env.bootCpuHas .vSpecCtrl then s.setVmcb { s.vmcb with specCtrl := m.data }
        else { s with specCtrl := m.data }
      (0, if m.data = 0 then s else s.intercept m.index true true)
  | .virtSpecCtrl =>
    if ¬ m.hostInitiated ∧ ¬ env.guestCpuidHas .virtSsbd then (1, s)
    -- SPEC_CTRL_SSBD
    else if m.data &&& ~~~0x4 ≠ 0 then (1, s)
    else (0, { s with virtSpecCtrl := m.data })
  | .star => (0, { s with vmcb01 := { s.vmcb01 with star := m.data } })
  | .lstar => (0, { s with vmcb01 := { s.vmcb01 with lstar := m.data } })
  | .cstar => (0, { s with vmcb01 := { s.vmcb01 with cstar := m.data } })
  | .kernelGsBase => (0, { s with vmcb01 := { s.vmcb01 with kernelGsBase := m.data } })
  | .syscallMask => (0, { s with vmcb01 := { s.vmcb01 with sfmask := m.data } })
  | .sysenterCs => (0, { s with vmcb01 := { s.vmcb01 with sysenterCs := m.data } })
  | .sysenterEip =>
    (0, { s with
      vmcb01 := { s.vmcb01 with sysenterEip := m.data &&& 0xffffffff }
      sysenterEipHi := if env.guestCpuidIsIntel then (m.data >>> 32).setWidth 32 else 0 })
  | .sysenterEsp =>
    (0, { s with
      vmcb01 := { s.vmcb01 with sysenterEsp := m.data &&& 0xffffffff }
      sysenterEspHi := if env.guestCpuidIsIntel then (m.data >>> 32).setWidth 32 else 0 })
  | .tscAux =>
    if env.bootCpuHas .vTscAux ∧ env.sevEsGuest then (0, s)
    else
      let r := env.attempt (.kvmSetUserReturnMsr m.data) s
      if r.1 ≠ 0 then r else (0, { r.2 with tscAux := m.data })
  | .debugctl =>
    if ¬ env.lbrv then (0, s)
    -- DEBUGCTL_RESERVED_BITS
    else if m.data &&& ~~~0x3f ≠ 0 then (1, s)
    else (0, svmUpdateLbrv env (setLbrDbgctl s m.data))
  | .hsavePa =>
    if ¬ m.hostInitiated ∧ ¬ env.pageAddressValid m.data then (1, s)
    else (0, { s with hsaveMsr := m.data &&& ~~~0xfff })
  | .vmCr => svmSetVmCr s m.data
  | .ignne => (0, s)
  | .deCfg =>
    let feature := svmGetMsrFeature env
    if m.data &&& ~~~feature ≠ 0 then (1, s)
    else if ¬ m.hostInitiated ∧ m.data ^^^ feature ≠ 0 then (1, s)
    else (0, { s with msrDecfg := m.data })
  | .lastBranchFromIp | .lastBranchToIp | .lastIntFromIp | .lastIntToIp | .f15hIcCfg | .other =>
    kvmSetMsrCommon env s m

/-! ## Reads -/

/-- `svm_get_msr`. -/
def svmGetMsr (index : BitVec 32) (hostInitiated : Bool) : Int × BitVec 64 :=
  match svmMsr index with
  | .tscRatio =>
    if ¬ hostInitiated ∧ ¬ env.guestCanUse .tscratemsr then (1, 0) else (0, s.tscRatioMsr)
  | .star => (0, s.vmcb01.star)
  | .lstar => (0, s.vmcb01.lstar)
  | .cstar => (0, s.vmcb01.cstar)
  | .kernelGsBase => (0, s.vmcb01.kernelGsBase)
  | .syscallMask => (0, s.vmcb01.sfmask)
  | .sysenterCs => (0, s.vmcb01.sysenterCs)
  | .sysenterEip =>
    let data := s.vmcb01.sysenterEip &&& 0xffffffff
    (0, if env.guestCpuidIsIntel then data ||| s.sysenterEipHi.setWidth 64 <<< 32 else data)
  | .sysenterEsp =>
    let data := s.vmcb01.sysenterEsp
    (0, if env.guestCpuidIsIntel then data ||| s.sysenterEspHi.setWidth 64 <<< 32 else data)
  | .tscAux => (0, s.tscAux)
  | .debugctl => (0, (svmGetLbrVmcb s).dbgctl)
  | .lastBranchFromIp => (0, (svmGetLbrVmcb s).brFrom)
  | .lastBranchToIp => (0, (svmGetLbrVmcb s).brTo)
  | .lastIntFromIp => (0, (svmGetLbrVmcb s).lastExcpFrom)
  | .lastIntToIp => (0, (svmGetLbrVmcb s).lastExcpTo)
  | .hsavePa => (0, s.hsaveMsr)
  | .vmCr => (0, s.vmCrMsr)
  | .specCtrl =>
    if ¬ hostInitiated ∧ ¬ env.guestHasSpecCtrlMsr then (1, 0)
    else (0, if env.bootCpuHas .vSpecCtrl then s.vmcb.specCtrl else s.specCtrl)
  | .virtSpecCtrl =>
    if ¬ hostInitiated ∧ ¬ env.guestCpuidHas .virtSsbd then (1, 0) else (0, s.virtSpecCtrl)
  | .f15hIcCfg =>
    if env.guestCpuidFamily < 0 ∨ env.guestCpuidModel < 0 then
      kvmGetMsrCommon env s index hostInitiated
    else if env.guestCpuidFamily = 0x15 ∧ 0x2 ≤ env.guestCpuidModel ∧
        env.guestCpuidModel < 0x20 then
      (0, 0x1e)
    else (0, 0)
  | .deCfg => (0, s.msrDecfg)
  | .pat | .ignne | .other => kvmGetMsrCommon env s index hostInitiated

end Accesses

/-! ## What a refused write leaves -/

section Refused

variable {R : Type} {env : MsrEnv R} {s : MsrState R} {m : MsrData}

/-- A write to `MSR_VM_CR` that is accepted, or that is refused and changes no bit: it writes what
is there while the disable bit is set, and does not set it otherwise. -/
def VmCrKept (s : MsrState R) (data : BitVec 64) : Prop :=
  data &&& ~~~0x1f = 0 → s.efer.getLsbD 12 = true →
    if s.vmCrMsr.getLsbD 4 then data &&& 0x7 = s.vmCrMsr &&& 0x7 else data.getLsbD 4 = false

/-- The bits of a mask are replaced by those that were there. -/
theorem replaceBits_eq_iff (old data mask : BitVec 64) :
    old &&& ~~~mask ||| (data &&& mask) = old ↔ data &&& mask = old &&& mask := by
  constructor
  · intro h
    conv_rhs => rw [← h]
    ext i hi
    simp only [BitVec.getElem_and, BitVec.getElem_or, BitVec.getElem_not]
    cases mask[i] <;> simp
  · intro h
    rw [h]
    ext i hi
    simp only [BitVec.getElem_and, BitVec.getElem_or, BitVec.getElem_not]
    cases mask[i] <;> simp

/-- The value of the MSR alone decides whether writing it changes the state. -/
theorem setVmCrMsr_eq_iff (value : BitVec 64) :
    { s with vmCrMsr := value } = s ↔ value = s.vmCrMsr := by
  constructor
  · intro h
    exact congrArg (fun s : MsrState R => s.vmCrMsr) h
  · rintro rfl
    rfl

theorem getLsbD_replaceBits (old data mask : BitVec 64) {i : Nat} (hi : i < 64) :
    (old &&& ~~~mask ||| (data &&& mask)).getLsbD i =
      if mask.getLsbD i then data.getLsbD i else old.getLsbD i := by
  simp only [BitVec.getLsbD_or, BitVec.getLsbD_and, BitVec.getLsbD_not, hi, decide_true,
    Bool.true_and]
  cases mask.getLsbD i <;> simp

/-- What `svm_set_vm_cr` does with a value that sets valid bits only. -/
theorem svmSetVmCr_valid {data : BitVec 64} (hvalid : data &&& ~~~0x1f = 0) :
    svmSetVmCr s data =
      (if s.vmCrMsr.getLsbD 4 then
        (if s.efer.getLsbD 12 then 1 else 0,
          { s with vmCrMsr := s.vmCrMsr &&& ~~~0x7 ||| (data &&& 0x7) })
      else
        (if data.getLsbD 4 ∧ s.efer.getLsbD 12 then 1 else 0,
          { s with vmCrMsr := s.vmCrMsr &&& ~~~0x1f ||| (data &&& 0x1f) })) := by
  unfold svmSetVmCr
  rw [if_neg (not_not_intro hvalid)]
  dsimp only
  cases hdis : s.vmCrMsr.getLsbD 4 with
  | true =>
    have hmask : (0x1f &&& ~~~0x18 : BitVec 64) = 0x7 := by decide
    have hbit : (s.vmCrMsr &&& ~~~0x7 ||| (data &&& 0x7)).getLsbD 4 = true := by
      rw [getLsbD_replaceBits _ _ _ (by omega), if_neg (by decide), hdis]
    simp only [if_true, hmask, hbit, true_and]
    split <;> rfl
  | false =>
    have hbit : (s.vmCrMsr &&& ~~~0x1f ||| (data &&& 0x1f)).getLsbD 4 = data.getLsbD 4 := by
      rw [getLsbD_replaceBits _ _ _ (by omega), if_pos (by decide)]
    simp only [Bool.false_eq_true, if_false, hbit]
    split <;> rfl

/-- **The update of `MSR_VM_CR` is before the last check.** -/
theorem clean_svmSetVmCr_iff (data : BitVec 64) :
    Clean s (svmSetVmCr s data) ↔ VmCrKept s data := by
  unfold VmCrKept
  by_cases hvalid : data &&& ~~~0x1f = 0
  · rw [svmSetVmCr_valid hvalid]
    cases hsvme : s.efer.getLsbD 12 with
    | false =>
      refine iff_of_true ?_ fun _ hset => nomatch hset
      simp only [Bool.false_eq_true, and_false, if_false, clean_ite, clean_done, implies_true,
        and_self]
    | true =>
      cases hdis : s.vmCrMsr.getLsbD 4 with
      | true =>
        simp only [if_true, hvalid, forall_const, clean_refused_iff Int.one_ne_zero,
          setVmCrMsr_eq_iff, replaceBits_eq_iff]
      | false =>
        simp only [Bool.false_eq_true, if_false, and_true, hvalid, forall_const]
        cases hbit : data.getLsbD 4 with
        | false => simp
        | true =>
          -- the disable bit itself is new
          simp only [if_true, clean_refused_iff Int.one_ne_zero, setVmCrMsr_eq_iff,
            replaceBits_eq_iff, Bool.true_eq_false, iff_false]
          intro hsame
          have hbits := congrArg (·.getLsbD 4) hsame
          simp only [BitVec.getLsbD_and, hbit, hdis] at hbits
          exact absurd hbits (by decide)
  · have hrefused : svmSetVmCr s data = (1, s) := if_pos hvalid
    rw [hrefused]
    exact iff_of_true (clean_refuse s 1) fun h => absurd h hvalid

/-- `svm_set_vm_cr` writes to nothing else. -/
theorem svmSetVmCr_eq_of_vmCrMsr {data : BitVec 64}
    (h : (svmSetVmCr s data).2.vmCrMsr = s.vmCrMsr) : (svmSetVmCr s data).2 = s := by
  have hframe : (svmSetVmCr s data).2 = { s with vmCrMsr := (svmSetVmCr s data).2.vmCrMsr } := by
    by_cases hvalid : data &&& ~~~0x1f = 0
    · rw [svmSetVmCr_valid hvalid]
      split <;> rfl
    · rw [show svmSetVmCr s data = (1, s) from if_pos hvalid]
  rw [hframe, setVmCrMsr_eq_iff]
  exact h

/-- The label of `MSR_VM_CR` is that of one MSR. -/
theorem svmMsr_eq_vmCr {msr : BitVec 32} : svmMsr msr = .vmCr ↔ msr = msrVmCr := by
  constructor
  · intro h
    have hrow : ∀ r ∈ svmMsrTable, r.2 = .vmCr → r.1 = msrVmCr := by
      decide
    unfold svmMsr at h
    split at h
    · cases h
    · rename_i r hfind
      have hin := List.find?_some hfind
      rw [decide_eq_true_eq] at hin
      rw [← hin]
      exact hrow r (List.mem_of_find?_eq_some hfind) h
  · rintro rfl
    decide

/-- `MSR_KVM_ASYNC_PF_EN` is left to `kvm_set_msr_common`. -/
theorem svmMsr_asyncPfEn : svmMsr msrKvmAsyncPfEn = .other := by
  decide

/-- Apart from `MSR_VM_CR`, what `svm_set_msr` does not leave to `kvm_set_msr_common` is checked
before the update. -/
theorem clean_svmSetMsr_of_label (hcontract : env.Contract)
    (hother : svmMsr m.index ≠ .other) (hvm : m.index ≠ msrVmCr) :
    Clean s (svmSetMsr env s m) := by
  have hcommon : Clean s (kvmSetMsrCommon env s m) := by
    rw [clean_kvmSetMsrCommon_iff hcontract]
    intro hlate
    rw [hlate.1] at hother
    exact absurd svmMsr_asyncPfEn hother
  unfold svmSetMsr
  cases hcase : svmMsr m.index with
  | vmCr => exact absurd (svmMsr_eq_vmCr.mp hcase) hvm
  | pat =>
    dsimp only
    rw [clean_ite]
    exact ⟨fun _ => hcommon, fun _ => clean_done s _⟩
  | tscAux =>
    dsimp only
    rw [clean_ite, clean_ite]
    exact ⟨fun _ => clean_done s s, fun _ => ⟨fun _ => hcontract _ s, fun _ => clean_done s _⟩⟩
  | lastBranchFromIp | lastBranchToIp | lastIntFromIp | lastIntToIp | f15hIcCfg | other =>
    exact hcommon
  | _ => simp only [clean_ite, clean_refuse, clean_done, implies_true, and_self]

/-- **A refused write of `svm_set_msr` has no effect on the state** exactly if it is none of the two
that are refused late. -/
theorem clean_svmSetMsr_iff (hcontract : env.Contract) :
    Clean s (svmSetMsr env s m) ↔
      (m.index = msrVmCr → VmCrKept s m.data) ∧ (LatePage env m → s.apf.msrEnVal = m.data) := by
  by_cases hvm : m.index = msrVmCr
  · have hnot : ¬ LatePage env m := by
      intro hlate
      rw [hlate.1] at hvm
      exact absurd hvm (by decide)
    have hset : svmSetMsr env s m = svmSetVmCr s m.data := by
      rw [svmSetMsr, svmMsr_eq_vmCr.mpr hvm]
    rw [hset, clean_svmSetVmCr_iff]
    exact ⟨fun h => ⟨fun _ => h, fun hlate => absurd hlate hnot⟩, fun h => h.1 hvm⟩
  · by_cases hother : svmMsr m.index = .other
    · have hset : svmSetMsr env s m = kvmSetMsrCommon env s m := by
        rw [svmSetMsr, hother]
      rw [hset, clean_kvmSetMsrCommon_iff hcontract]
      exact ⟨fun h => ⟨fun hsame => absurd hsame hvm, h⟩, fun h => h.2⟩
    · refine iff_of_true (clean_svmSetMsr_of_label hcontract hother hvm)
        ⟨fun hsame => absurd hsame hvm, fun hlate => ?_⟩
      rw [hlate.1] at hother
      exact absurd svmMsr_asyncPfEn hother

/-- What must not change under a refused write: the reads, the VMCBs, and the permission map with
its shadow. -/
structure Untouched (env : MsrEnv R) (s t : MsrState R) : Prop where
  reads : ∀ index hostInitiated,
    svmGetMsr env t index hostInitiated = svmGetMsr env s index hostInitiated
  vmcb01 : t.vmcb01 = s.vmcb01
  vmcb02 : t.vmcb02 = s.vmcb02
  msrpm : t.msrpm = s.msrpm

theorem svmGetMsr_vmCr (env : MsrEnv R) (s : MsrState R) (hostInitiated : Bool) :
    svmGetMsr env s msrVmCr hostInitiated = (0, s.vmCrMsr) := by
  rw [svmGetMsr, svmMsr_eq_vmCr.mpr rfl]

theorem svmGetMsr_asyncPfEn {env : MsrEnv R} (hpv : env.guestPvHas .asyncPf = true)
    (s : MsrState R) (hostInitiated : Bool) :
    svmGetMsr env s msrKvmAsyncPfEn hostInitiated = (0, s.apf.msrEnVal) := by
  rw [svmGetMsr, svmMsr_asyncPfEn]
  dsimp only
  rw [kvmGetMsrCommon, commonMsr_eq_asyncPfEn.mpr rfl]
  dsimp only
  rw [if_neg (not_not_intro hpv)]

/-- What the state does not keep, the guest can read. -/
theorem clean_of_untouched (hcontract : env.Contract)
    (h : (svmSetMsr env s m).1 ≠ 0 → Untouched env s (svmSetMsr env s m).2) :
    Clean s (svmSetMsr env s m) := by
  by_cases hvm : m.index = msrVmCr
  · intro hrefused
    have hset : svmSetMsr env s m = svmSetVmCr s m.data := by
      rw [svmSetMsr, svmMsr_eq_vmCr.mpr hvm]
    have hread := (h hrefused).reads msrVmCr false
    rw [svmGetMsr_vmCr, svmGetMsr_vmCr, hset] at hread
    rw [hset]
    exact svmSetVmCr_eq_of_vmCrMsr (congrArg Prod.snd hread)
  · rw [clean_svmSetMsr_iff hcontract]
    refine ⟨fun hsame => absurd hsame hvm, fun hlate => ?_⟩
    have hset : svmSetMsr env s m = (1, { s with apf := { s.apf with msrEnVal := m.data } }) := by
      rw [svmSetMsr, hlate.1, svmMsr_asyncPfEn]
      rcases kvmSetMsrCommon_cases (s := s) (m := m) hcontract with ⟨-, heq⟩ | ⟨hnot, -⟩
      · exact heq
      · exact absurd hlate hnot
    have hread := (h (by rw [hset]; exact Int.one_ne_zero)).reads msrKvmAsyncPfEn false
    rw [svmGetMsr_asyncPfEn hlate.2.2.1, svmGetMsr_asyncPfEn hlate.2.2.1, hset] at hread
    exact (congrArg Prod.snd hread).symm

end Refused

/-! ## Results -/

/-- A host on which every call succeeds but the one for the page of the asynchronous page faults. -/
def pageRefusingHost : MsrEnv Unit where
  call _ s := s
  attempt _ s := (0, s)
  reader _ _ := (0, 0)
  kvmGfnToHvaCacheInit _ := -14
  kvmGetLapicTscdeadlineMsr _ := 0
  kvmPmuIsValidMsr _ _ := false
  kvmPatValid data := data &&& 0xf8f8f8f8f8f8f8f8 = 0
  kvmApicMode data := if data.getLsbD 11 then .xapic else .disabled
  pageAddressValid data := data &&& 0xfff = 0
  cpuidFaultEnabled s := s.msrMiscFeaturesEnables.getLsbD 0
  supportsCpuidFault s := s.msrPlatformInfo.getLsbD 31
  guestCpuidHas _ := true
  guestCanUse _ := true
  bootCpuHas _ := true
  guestPvHas _ := true
  guestHasSpecCtrlMsr := true
  guestHasPredCmdMsr := true
  guestCpuidIsIntel := false
  guestCpuidIsAmdCompatible := true
  guestCpuidFamily := 0x19
  guestCpuidModel := 0x1
  lapicInKernel := true
  sevEsGuest := false
  isSmm := false
  vcpuId := 0
  lbrv := true
  nptEnabled := true
  enableVmwareBackdoor := false
  gpErratumIntercept := false
  configKvmSmm := true
  schedInfoOn := true
  quirkMiscEnableNoMwait := true
  guestCanReadMsrPlatformInfo := true
  xenHvmConfigMsr := 0
  eferReservedBits := 0
  supportedPerfCap := 0
  supportedXss := 0
  guestSupportedXfd := 0
  reservedGpaBitsRaw := 0
  msrsToSave := []
  tscCaps := { tscKhz := 2000000 }
  rdtsc := 0
  rdmsrSpecCtrlFails := false
  wrmsrSpecCtrlFails _ := false

/-- A guest with EFER.SVME that sets the disable bit of `MSR_VM_CR`, and a guest that gives a page
for the asynchronous page faults that cannot be mapped: both writes are refused, and both values can
be read. -/
theorem refusedLate :
    let svme : MsrState Unit := { rest := (), efer := 0x1000 }
    let vmCr : MsrData := ⟨false, msrVmCr, 0x10⟩
    let fresh : MsrState Unit := { rest := () }
    let asyncPf : MsrData := ⟨false, msrKvmAsyncPfEn, 0x1009⟩
    (svmSetMsr pageRefusingHost svme vmCr).1 = 1 ∧
      svmGetMsr pageRefusingHost svme msrVmCr false = (0, 0) ∧
      svmGetMsr pageRefusingHost (svmSetMsr pageRefusingHost svme vmCr).2 msrVmCr false =
        (0, 0x10) ∧
      (svmSetMsr pageRefusingHost fresh asyncPf).1 = 1 ∧
      svmGetMsr pageRefusingHost fresh msrKvmAsyncPfEn false = (0, 0) ∧
      svmGetMsr pageRefusingHost (svmSetMsr pageRefusingHost fresh asyncPf).2 msrKvmAsyncPfEn
        false = (0, 0x1009) := by
  decide

/-- **A refused write of `svm_set_msr`** leaves every later read, the VMCBs and the permission map
as they were, for every MSR, value and state, exactly if it is no late refusal: of a value for
`MSR_VM_CR` that changes it, or of another value for `MSR_KVM_ASYNC_PF_EN` whose page cannot be
mapped. -/
theorem svmSetMsr_untouched_iff {R : Type} (env : MsrEnv R) (hcontract : env.Contract)
    (s : MsrState R) (m : MsrData) :
    ((svmSetMsr env s m).1 ≠ 0 → Untouched env s (svmSetMsr env s m).2) ↔
      (m.index = msrVmCr → VmCrKept s m.data) ∧
        (LatePage env m → s.apf.msrEnVal = m.data) := by
  rw [← clean_svmSetMsr_iff hcontract]
  constructor
  · exact clean_of_untouched hcontract
  · intro hclean hrefused
    rw [hclean hrefused]
    exact ⟨fun _ _ => rfl, rfl, rfl, rfl⟩

/-- The guest whose `MSR_VM_CR` has the disable bit already: writing the value again is refused. -/
theorem svmSetMsr_untouched_disabled :
    let s : MsrState Unit := { rest := (), efer := 0x1000, vmCrMsr := 0x10 }
    let m : MsrData := ⟨false, msrVmCr, 0x10⟩
    (svmSetMsr pageRefusingHost s m).1 = 1 ∧
      Untouched pageRefusingHost s (svmSetMsr pageRefusingHost s m).2 := by
  intro s m
  have hcontract : pageRefusingHost.Contract := fun _ s => clean_done s s
  have hrefused : (svmSetMsr pageRefusingHost s m).1 = 1 := by decide
  refine ⟨hrefused, (svmSetMsr_untouched_iff pageRefusingHost hcontract s m).mpr ⟨?_, ?_⟩ ?_⟩
  · intro _ _ _
    decide
  · intro hlate
    exact absurd hlate.1 (by decide)
  · rw [hrefused]
    exact Int.one_ne_zero

/-- **In a run without late refusals** the refused writes may be deleted: the state is that of the
writes that were accepted. -/
theorem svmWrites_accepted {R : Type} (env : MsrEnv R) (hcontract : env.Contract)
    (s : MsrState R) (ms : List MsrData)
    (hkept : Runs.Each (svmSetMsr env) (fun s m => (m.index = msrVmCr → VmCrKept s m.data) ∧
      (LatePage env m → s.apf.msrEnVal = m.data)) s ms) :
    Runs.final (svmSetMsr env) s (accepted (svmSetMsr env) s ms) =
      Runs.final (svmSetMsr env) s ms :=
  final_accepted ms s (Runs.each_mono (fun _ _ => (clean_svmSetMsr_iff hcontract).mpr) hkept)

end Kvm.Msrs
