import PveAntiDetection.Lib.Bits
import PveAntiDetection.Lib.KeptRecord
import PveAntiDetection.Lib.Runs
import PveAntiDetection.Kvm.SvmMsrWrites

/-!
# Injected machine checks

Userspace reports hardware errors to the guest: `KVM_X86_SETUP_MCE` says how many banks there are,
`KVM_X86_SET_MCE` records an error in one of them, and the guest reads and clears the registers of
the banks.  A bank holds one error.

* `kvmVcpuIoctlX86SetupMce`, `kvmVcpuIoctlX86SetMce`, `kvmVcpuX86SetUcna` — the two ioctls;
* `mceStep` — the ioctls, the accesses of `set_msr_mce`, and everything else that happens;
* `Records`, `BankShows` — which errors are recorded, and what a bank shows of them;
* `bank_shows_recorded` — over any run, the bank holds the last uncorrected error, or the last error
  where none was uncorrected, and `MCI_STATUS_OVER` tells of the others;
* `machine_checks_not_nested` — the guest gets no machine check while it is handling one;
* `bank_arrays_bounded` — no access of a run leaves the two arrays.

Uncorrected errors that need no action (UCNA) are outside the first two: `ucna_forgets`.
-/

set_option autoImplicit false

namespace Kvm.Msrs

open KeptRecord

/-! ## The ioctls -/

/-- `struct kvm_x86_mce`. -/
structure KvmX86Mce where
  status : BitVec 64
  addr : BitVec 64 := 0
  misc : BitVec 64 := 0
  mcgStatus : BitVec 64 := 0
  bank : BitVec 8 := 0
  deriving DecidableEq

/-- What a recorded error makes the virtual CPU do. -/
inductive MceSignal where
  /-- `kvm_queue_exception (vcpu, MC_VECTOR)`. -/
  | machineCheck
  /-- `kvm_make_request (KVM_REQ_TRIPLE_FAULT, vcpu)`. -/
  | tripleFault
  /-- `kvm_apic_local_deliver (vcpu->arch.apic, APIC_LVTCMCI)`. -/
  | cmci
  deriving DecidableEq

/-- The vendor module, as `kvm_x86_setup_mce` sees it. -/
inductive MceVendor where
  | vmx
  | svm
  deriving DecidableEq

/-- `KVM_MAX_MCE_BANKS`. -/
def kvmMaxMceBanks : ℕ := 32

section Bits

variable (w : BitVec 64)

/-- `MCI_STATUS_VAL`, `MCI_STATUS_UC` -/
def mciValid : Bool := w.getLsbD 63
def mciUncorrected : Bool := w.getLsbD 61

/-- `MCG_STATUS_MCIP` -/
def mcgInProgress : Bool := w.getLsbD 2

end Bits

/-- `is_ucna`. -/
def isUcna (mce : KvmX86Mce) : Bool :=
  -- MCI_STATUS_PCC | MCI_STATUS_S | MCI_STATUS_AR
  mce.mcgStatus == 0 && mce.status &&& 0x0380000000000000 == 0 && mciValid mce.status &&
    mciUncorrected mce.status

variable {R : Type}

/-- `mcg_cap & 0xff`. -/
def bankNum (s : MsrState R) : ℕ := (s.mcgCap &&& 0xff).toNat

/-- `banks[i]` of a bank. -/
def bankReg (s : MsrState R) (b i : ℕ) : BitVec 64 := s.mceBanks (4 * b + i)

/-- The three registers of a bank that describe an error. -/
def fillBank (s : MsrState R) (b : ℕ) (status addr misc : BitVec 64) : MsrState R :=
  { s with
    mceBanks := Function.update (Function.update (Function.update s.mceBanks (4 * b + 2) addr)
      (4 * b + 3) misc) (4 * b + 1) status }

/-- The status of a new error, over that of the bank. -/
def overStatus (old new : BitVec 64) : BitVec 64 :=
  if mciValid old then Bits.setBit new 62 else new

/-- `svm_setup_mce`; `vmx_setup_mce` sets nothing that is modelled. -/
def MceVendor.setupMce (s : MsrState R) : MceVendor → MsrState R
  | .vmx => s
  | .svm => { s with mcgCap := s.mcgCap &&& 0x1ff }

/-- `kvm_vcpu_ioctl_x86_setup_mce`. -/
def kvmVcpuIoctlX86SetupMce (vendor : MceVendor) (supportedMceCap : BitVec 64) (s : MsrState R)
    (mcgCap : BitVec 64) : Int × MsrState R :=
  let bankNum := (mcgCap &&& 0xff).toNat
  if bankNum = 0 ∨ bankNum > kvmMaxMceBanks then (-22, s)
  else if mcgCap &&& ~~~(supportedMceCap ||| 0xff ||| 0xff0000) ≠ 0 then (-22, s)
  else
    (0, vendor.setupMce
      { s with
        mcgCap := mcgCap
        mcgCtl := if mcgCap.getLsbD 8 then ~~~0 else s.mcgCtl
        -- the loop over the banks
        mceBanks := fun i => if i % 4 = 0 ∧ i / 4 < bankNum then ~~~0 else s.mceBanks i
        mciCtl2Banks := fun i =>
          if mcgCap.getLsbD 10 ∧ i < bankNum then 0 else s.mciCtl2Banks i })

variable (env : MsrEnv R) (cr4Mce : Bool) (s : MsrState R) (mce : KvmX86Mce)

/-- `kvm_vcpu_x86_set_ucna`. -/
def kvmVcpuX86SetUcna : Int × List MceSignal × MsrState R :=
  let s' := { fillBank s mce.bank.toNat mce.status mce.addr mce.misc with
    mcgStatus := mce.mcgStatus }
  -- MCG_CMCI_P, MCI_CTL2_CMCI_EN
  if ¬ s.mcgCap.getLsbD 10 ∨ ¬ (s.mciCtl2Banks mce.bank.toNat).getLsbD 30 then (0, [], s')
  else (0, if env.lapicInKernel then [.cmci] else [], s')

/-- `kvm_vcpu_ioctl_x86_set_mce`; `cr4Mce` is `CR4.MCE`. -/
def kvmVcpuIoctlX86SetMce : Int × List MceSignal × MsrState R :=
  let b := mce.bank.toNat
  if b ≥ bankNum s ∨ ¬ mciValid mce.status then (-22, [], s)
  else if isUcna mce then kvmVcpuX86SetUcna env s mce
  else if mciUncorrected mce.status ∧ s.mcgCap.getLsbD 8 ∧ s.mcgCtl ≠ ~~~0 then (0, [], s)
  else if mciUncorrected mce.status ∧ bankReg s b 0 ≠ ~~~0 then (0, [], s)
  else if mciUncorrected mce.status then
    if mcgInProgress s.mcgStatus ∨ ¬ cr4Mce then (0, [.tripleFault], s)
    else
      (0, [.machineCheck],
        { fillBank s b (overStatus (bankReg s b 1) mce.status) mce.addr mce.misc with
          mcgStatus := mce.mcgStatus })
  else if ¬ mciValid (bankReg s b 1) ∨ ¬ mciUncorrected (bankReg s b 1) then
    (0, [], fillBank s b (overStatus (bankReg s b 1) mce.status) mce.addr mce.misc)
  else
    (0, [], { s with
      mceBanks := Function.update s.mceBanks (4 * b + 1) (Bits.setBit (bankReg s b 1) 62) })

/-! ## Runs -/

/-- What happens to the machine-check registers, and around them. -/
inductive MceEvent (R : Type) where
  /-- `KVM_X86_SETUP_MCE`. -/
  | setup (mcgCap : BitVec 64)
  /-- `KVM_X86_SET_MCE`, with `CR4.MCE`. -/
  | inject (mce : KvmX86Mce) (cr4Mce : Bool)
  /-- A write that `set_msr_mce` gets. -/
  | write (m : MsrData)
  /-- Anything that leaves the machine-check registers. -/
  | elsewhere (t : MsrState R)

variable (vendor : MceVendor) (supportedMceCap : BitVec 64)

def mceStep (s : MsrState R) : MceEvent R → List MceSignal × MsrState R
  | .setup mcgCap => ([], (kvmVcpuIoctlX86SetupMce vendor supportedMceCap s mcgCap).2)
  | .inject mce cr4Mce => (kvmVcpuIoctlX86SetMce env cr4Mce s mce).2
  | .write m => ([], (setMsrMce env s m).2)
  | .elsewhere t =>
    ([], { t with
      mcgCap := s.mcgCap
      mcgCtl := s.mcgCtl
      mcgStatus := s.mcgStatus
      mceBanks := s.mceBanks
      mciCtl2Banks := s.mciCtl2Banks })

/-- The reporting of uncorrected errors is enabled, by `IA32_MCG_CTL` and by `IA32_MCi_CTL`. -/
def reportsUncorrected (b : ℕ) : Bool :=
  (!s.mcgCap.getLsbD 8 || s.mcgCtl == ~~~0) && bankReg s b 0 == ~~~0

/-- The error is recorded, and is no UCNA: its bank exists, and where it is uncorrected, it is
reported to a guest that can take it. -/
def Records : Prop :=
  mce.bank.toNat < bankNum s ∧ mciValid mce.status ∧ isUcna mce = false ∧
    (mciUncorrected mce.status →
      reportsUncorrected s mce.bank.toNat ∧ mcgInProgress s.mcgStatus = false ∧ cr4Mce)

instance : Decidable (Records cr4Mce s mce) := by
  unfold Records
  infer_instance

/-- The errors that an event records in a bank. -/
def recorded (b : ℕ) (s : MsrState R) : MceEvent R → List KvmX86Mce
  | .inject mce cr4Mce => if mce.bank.toNat = b ∧ Records cr4Mce s mce then [mce] else []
  | _ => []

/-! ## What the functions do to the registers -/

section Registers

variable {env cr4Mce s mce vendor supportedMceCap} {b : ℕ} {status addr misc : BitVec 64}

@[simp] theorem mciValid_setBit (w : BitVec 64) : mciValid (Bits.setBit w 62) = mciValid w := by
  rw [mciValid, Bits.getLsbD_setBit (by omega), if_neg (by omega)]
  rfl

@[simp] theorem mciUncorrected_setBit (w : BitVec 64) :
    mciUncorrected (Bits.setBit w 62) = mciUncorrected w := by
  rw [mciUncorrected, Bits.getLsbD_setBit (by omega), if_neg (by omega)]
  rfl

@[simp] theorem setBit_twice (w : BitVec 64) :
    Bits.setBit (Bits.setBit w 62) 62 = Bits.setBit w 62 := by
  apply BitVec.eq_of_getLsbD_eq
  intro j _
  rw [Bits.getLsbD_setBit (by omega), Bits.getLsbD_setBit (by omega)]
  split <;> rfl

@[simp] theorem bankReg_fillBank_status : bankReg (fillBank s b status addr misc) b 1 = status := by
  simp [bankReg, fillBank]

@[simp] theorem bankReg_fillBank_addr : bankReg (fillBank s b status addr misc) b 2 = addr := by
  simp [bankReg, fillBank]

@[simp] theorem bankReg_fillBank_misc : bankReg (fillBank s b status addr misc) b 3 = misc := by
  simp [bankReg, fillBank]

theorem bankReg_fillBank_other {c i : ℕ} (hc : b ≠ c) (hi : i < 4) :
    bankReg (fillBank s b status addr misc) c i = bankReg s c i := by
  simp only [bankReg, fillBank, Function.update_apply]
  rw [if_neg (by omega), if_neg (by omega), if_neg (by omega)]

theorem reportsUncorrected_iff : reportsUncorrected s b = true ↔
    (s.mcgCap.getLsbD 8 = true → s.mcgCtl = ~~~0) ∧ bankReg s b 0 = ~~~0 := by
  rw [reportsUncorrected, Bool.and_eq_true, beq_iff_eq, Bool.or_eq_true, beq_iff_eq]
  cases s.mcgCap.getLsbD 8 <;> simp

/-- What `KVM_X86_SET_MCE` can do. -/
inductive SetMce (cr4Mce : Bool) (s : MsrState R) (mce : KvmX86Mce) :
    List MceSignal × MsrState R → Prop where
  /-- The error is refused, ignored, or too much for the guest. -/
  | dropped {signals} (hdrop : ¬ Records cr4Mce s mce)
      (hsignals : MceSignal.machineCheck ∉ signals) : SetMce cr4Mce s mce (signals, s)
  | ucna {signals} (hucna : isUcna mce = true) (hbank : mce.bank.toNat < bankNum s)
      (hsignals : MceSignal.machineCheck ∉ signals) :
      SetMce cr4Mce s mce (signals,
        { fillBank s mce.bank.toNat mce.status mce.addr mce.misc with mcgStatus := mce.mcgStatus })
  | machineCheck (hrecords : Records cr4Mce s mce) (huc : mciUncorrected mce.status = true) :
      SetMce cr4Mce s mce ([.machineCheck],
        { fillBank s mce.bank.toNat (overStatus (bankReg s mce.bank.toNat 1) mce.status) mce.addr
            mce.misc with mcgStatus := mce.mcgStatus })
  | corrected (hrecords : Records cr4Mce s mce) (huc : mciUncorrected mce.status = false)
      (hold : mciValid (bankReg s mce.bank.toNat 1) = false ∨
        mciUncorrected (bankReg s mce.bank.toNat 1) = false) :
      SetMce cr4Mce s mce ([],
        fillBank s mce.bank.toNat (overStatus (bankReg s mce.bank.toNat 1) mce.status) mce.addr
          mce.misc)
  | counted (hrecords : Records cr4Mce s mce) (huc : mciUncorrected mce.status = false)
      (hold : mciUncorrected (bankReg s mce.bank.toNat 1) = true)
      (hvalid : mciValid (bankReg s mce.bank.toNat 1) = true) :
      SetMce cr4Mce s mce ([],
        { s with
          mceBanks := Function.update s.mceBanks (4 * mce.bank.toNat + 1)
            (Bits.setBit (bankReg s mce.bank.toNat 1) 62) })

theorem setMce_cases (env : MsrEnv R) (cr4Mce : Bool) (s : MsrState R) (mce : KvmX86Mce) :
    SetMce cr4Mce s mce (kvmVcpuIoctlX86SetMce env cr4Mce s mce).2 := by
  unfold kvmVcpuIoctlX86SetMce
  dsimp only
  split
  · rename_i hrefused
    refine .dropped ?_ (by simp)
    rintro ⟨hbank, hvalid, -⟩
    rcases hrefused with h | h
    · omega
    · exact h hvalid
  rename_i hplace
  push Not at hplace
  split
  · rename_i hucna
    unfold kvmVcpuX86SetUcna
    dsimp only
    split
    · exact .ucna hucna hplace.1 (by simp)
    · exact .ucna hucna hplace.1 (by split <;> simp)
  rename_i hucna
  split
  · rename_i hctl
    refine .dropped ?_ (by simp)
    rintro ⟨-, -, -, h⟩
    exact hctl.2.2 ((reportsUncorrected_iff.mp (h hctl.1).1).1 hctl.2.1)
  rename_i hctl
  split
  · rename_i hbankCtl
    refine .dropped ?_ (by simp)
    rintro ⟨-, -, -, h⟩
    exact hbankCtl.2 (reportsUncorrected_iff.mp (h hbankCtl.1).1).2
  rename_i hbankCtl
  have hucna' : isUcna mce = false := Bool.eq_false_iff.mpr hucna
  split
  · rename_i huc
    split
    · rename_i hfault
      refine .dropped ?_ (by simp)
      rintro ⟨-, -, -, h⟩
      obtain ⟨-, hidle, hcr4⟩ := h huc
      rcases hfault with h | h
      · simp [hidle] at h
      · exact h hcr4
    · rename_i hfault
      refine .machineCheck ⟨hplace.1, hplace.2, hucna', fun _ => ?_⟩ huc
      simp only [huc, true_and, not_and, not_not] at hctl hbankCtl
      push Not at hfault
      exact ⟨reportsUncorrected_iff.mpr ⟨hctl, hbankCtl⟩, Bool.eq_false_iff.mpr hfault.1, hfault.2⟩
  rename_i huc
  have huc' : mciUncorrected mce.status = false := Bool.eq_false_iff.mpr huc
  have hrecords : Records cr4Mce s mce := ⟨hplace.1, hplace.2, hucna', fun h => absurd h huc⟩
  split
  · rename_i hold
    exact .corrected hrecords huc' (by simpa using hold)
  · rename_i hold
    push Not at hold
    exact .counted hrecords huc' hold.2 hold.1

/-- What `set_msr_mce` can do. -/
inductive SetMsr (s : MsrState R) (m : MsrData) : MsrState R → Prop where
  | refused : SetMsr s m s
  | mcgStatus (hindex : m.index = msrIa32McgStatus) : SetMsr s m { s with mcgStatus := m.data }
  | mcgCtl : SetMsr s m { s with mcgCtl := m.data }
  | ctl2 {i : ℕ} (hi : i < kvmMaxMceBanks) :
      SetMsr s m { s with mciCtl2Banks := Function.update s.mciCtl2Banks i m.data }
  | bank {i : ℕ} (hi : i < 4 * kvmMaxMceBanks) (hindex : m.index.toNat = 0x400 + i) :
      SetMsr s m { s with mceBanks := Function.update s.mceBanks i m.data }

theorem setMsr_cases (env : MsrEnv R) (s : MsrState R) (m : MsrData) :
    SetMsr s m (setMsrMce env s m).2 := by
  unfold setMsrMce
  dsimp only
  split
  · rename_i hindex
    exact .mcgStatus hindex
  split
  · split
    · exact .refused
    split
    · exact .refused
    · exact .mcgCtl
  split
  · rename_i hrange
    have hlo : 0x280 ≤ m.index.toNat := hrange.1
    have hhi : m.index.toNat ≤ 0x29f := hrange.2
    have hoffset : (m.index - msrIa32Mc0Ctl2).toNat = m.index.toNat - 0x280 :=
      BitVec.toNat_sub_of_le hrange.1
    repeat' split
    all_goals first
      | exact .refused
      | exact .ctl2 (by rw [hoffset, kvmMaxMceBanks]; omega)
  split
  · rename_i hrange
    have hlo : 0x400 ≤ m.index.toNat := hrange.1
    have hhi : m.index.toNat ≤ 0x47f := hrange.2
    have hoffset : (m.index - msrIa32Mc0Ctl).toNat = m.index.toNat - 0x400 :=
      BitVec.toNat_sub_of_le hrange.1
    repeat' split
    all_goals first
      | exact .refused
      | exact .bank (by rw [hoffset, kvmMaxMceBanks]; omega) (by omega)
  · exact .refused

theorem bankReg_setup {mcgCap : BitVec 64} {i : ℕ} (hi : i % 4 ≠ 0) (hi' : i < 4) :
    bankReg (kvmVcpuIoctlX86SetupMce vendor supportedMceCap s mcgCap).2 b i = bankReg s b i := by
  unfold kvmVcpuIoctlX86SetupMce
  dsimp only
  split
  · rfl
  split
  · rfl
  · have hreg : ¬ ((4 * b + i) % 4 = 0 ∧ (4 * b + i) / 4 < (mcgCap &&& 0xff).toNat) := by omega
    cases vendor <;> simp only [bankReg, MceVendor.setupMce, if_neg hreg]

end Registers

/-! ## The arrays -/

/-- The number of banks fits the arrays, and what lies behind them is as in `s₀`. -/
structure BankArrays (s₀ s : MsrState R) : Prop where
  count : bankNum s ≤ kvmMaxMceBanks
  banks : ∀ i, 4 * kvmMaxMceBanks ≤ i → s.mceBanks i = s₀.mceBanks i
  ctl2 : ∀ i, kvmMaxMceBanks ≤ i → s.mciCtl2Banks i = s₀.mciCtl2Banks i

section Arrays

variable {env cr4Mce s mce vendor supportedMceCap} {s₀ : MsrState R}

theorem bankNum_setupMce (vendor : MceVendor) : bankNum (vendor.setupMce s) = bankNum s := by
  cases vendor with
  | vmx => rfl
  | svm =>
    change (s.mcgCap &&& 0x1ff &&& 0xff).toNat = (s.mcgCap &&& 0xff).toNat
    rw [BitVec.and_assoc]
    rfl

theorem BankArrays.fill (h : BankArrays s₀ s) {b : ℕ} (hb : b < bankNum s)
    (status addr misc : BitVec 64) : BankArrays s₀ (fillBank s b status addr misc) where
  count := h.count
  banks i hi := by
    have hcount := h.count
    simp only [fillBank]
    rw [Function.update_of_ne (by omega), Function.update_of_ne (by omega),
      Function.update_of_ne (by omega)]
    exact h.banks i hi
  ctl2 := h.ctl2

theorem setup_arrays (h : BankArrays s₀ s) (mcgCap : BitVec 64) :
    BankArrays s₀ (kvmVcpuIoctlX86SetupMce vendor supportedMceCap s mcgCap).2 := by
  unfold kvmVcpuIoctlX86SetupMce
  dsimp only
  split
  · exact h
  rename_i hnum
  split
  · exact h
  have hle : (mcgCap &&& 0xff).toNat ≤ kvmMaxMceBanks := by omega
  refine ⟨?_, fun i hi => ?_, fun i hi => ?_⟩
  · rw [bankNum_setupMce]
    exact hle
  · have hout : ¬ (i % 4 = 0 ∧ i / 4 < (mcgCap &&& 0xff).toNat) := by omega
    cases vendor <;> simpa only [MceVendor.setupMce, if_neg hout] using h.banks i hi
  · have hout : ¬ (mcgCap.getLsbD 10 = true ∧ i < (mcgCap &&& 0xff).toNat) := by omega
    cases vendor <;> simpa only [MceVendor.setupMce, if_neg hout] using h.ctl2 i hi

theorem inject_arrays (h : BankArrays s₀ s) :
    BankArrays s₀ (kvmVcpuIoctlX86SetMce env cr4Mce s mce).2.2 := by
  have hcases := setMce_cases env cr4Mce s mce
  generalize (kvmVcpuIoctlX86SetMce env cr4Mce s mce).2 = r at hcases
  cases hcases with
  | dropped => exact h
  | ucna hucna hbank =>
    have hfill := h.fill hbank mce.status mce.addr mce.misc
    exact ⟨hfill.count, hfill.banks, hfill.ctl2⟩
  | machineCheck hrecords =>
    have hfill := h.fill hrecords.1 (overStatus (bankReg s mce.bank.toNat 1) mce.status) mce.addr
      mce.misc
    exact ⟨hfill.count, hfill.banks, hfill.ctl2⟩
  | corrected hrecords => exact h.fill hrecords.1 _ _ _
  | counted hrecords =>
    refine ⟨h.count, fun i hi => ?_, h.ctl2⟩
    have hbank := hrecords.1
    have hcount := h.count
    change Function.update s.mceBanks _ _ i = _
    rw [Function.update_of_ne (by omega)]
    exact h.banks i hi

theorem write_arrays (h : BankArrays s₀ s) (m : MsrData) : BankArrays s₀ (setMsrMce env s m).2 := by
  have hcases := setMsr_cases env s m
  generalize (setMsrMce env s m).2 = s' at hcases
  cases hcases with
  | refused => exact h
  | mcgStatus | mcgCtl => exact ⟨h.count, h.banks, h.ctl2⟩
  | @ctl2 j hj =>
    refine ⟨h.count, h.banks, fun i hi => ?_⟩
    change Function.update s.mciCtl2Banks j m.data i = _
    rw [Function.update_of_ne (by omega)]
    exact h.ctl2 i hi
  | @bank j hj =>
    refine ⟨h.count, fun i hi => ?_, h.ctl2⟩
    change Function.update s.mceBanks j m.data i = _
    rw [Function.update_of_ne (by omega)]
    exact h.banks i hi

theorem mceStep_arrays (h : BankArrays s₀ s) (e : MceEvent R) :
    BankArrays s₀ (mceStep env vendor supportedMceCap s e).2 := by
  cases e with
  | setup mcgCap => exact setup_arrays h mcgCap
  | inject mce cr4Mce => exact inject_arrays h
  | write m => exact write_arrays h m
  | elsewhere t => exact ⟨h.count, h.banks, h.ctl2⟩

theorem final_arrays (hstart : bankNum s ≤ kvmMaxMceBanks) (es : List (MceEvent R)) :
    BankArrays s (Runs.final (mceStep env vendor supportedMceCap) s es) :=
  Runs.final_induct (I := BankArrays s) (fun _ e hs => mceStep_arrays hs e) es
    { count := hstart
      banks := fun _ _ => rfl
      ctl2 := fun _ _ => rfl }

/-- What is read of a bank that exists. -/
theorem getMsrMce_bank {b : ℕ} {index : BitVec 32} {i : ℕ} (hostInitiated : Bool)
    (hcount : bankNum s ≤ kvmMaxMceBanks) (hb : b < bankNum s) (hi : i < 4)
    (hindex : index.toNat = 0x400 + (4 * b + i)) :
    getMsrMce s index hostInitiated = (0, bankReg s b i) := by
  have hother (c : BitVec 32) (hc : c.toNat < 0x400) : index ≠ c := by
    rintro rfl
    omega
  have hmax : bankNum s ≤ 32 := hcount
  have hnum : ((s.mcgCap &&& 0xff).setWidth 32).toNat = bankNum s := by
    rw [BitVec.toNat_setWidth]
    exact Nat.mod_eq_of_lt (by change bankNum s < _; omega)
  have hlast : (msrIa32Mc0Ctl + 4 * (s.mcgCap &&& 0xff).setWidth 32 - 1).toNat =
      0x3ff + 4 * bankNum s := by
    have hbase : msrIa32Mc0Ctl = 0x400 := rfl
    rw [hbase]
    generalize (s.mcgCap &&& 0xff).setWidth 32 = n at hnum
    bv_omega
  have hoffset : (index - msrIa32Mc0Ctl).toNat = 4 * b + i := by
    have hbase : msrIa32Mc0Ctl = 0x400 := rfl
    rw [hbase]
    bv_omega
  have hctl2 : ¬ (msrIa32Mc0Ctl2 ≤ index ∧ index ≤ msrIa32Mc0Ctl2 + 32 - 1) := by
    rintro ⟨-, hle⟩
    have hle : index.toNat ≤ 0x29f := hle
    omega
  have hrange : msrIa32Mc0Ctl ≤ index ∧ index ≤ msrIa32Mc0Ctl + 4 * 32 - 1 := by
    constructor
    · change 0x400 ≤ index.toNat
      omega
    · change index.toNat ≤ 0x47f
      omega
  have hexists : ¬ index > msrIa32Mc0Ctl + 4 * (s.mcgCap &&& 0xff).setWidth 32 - 1 := by
    rw [gt_iff_lt, BitVec.lt_def, hlast]
    omega
  unfold getMsrMce
  dsimp only
  rw [if_neg (not_or.mpr ⟨hother 0 (by decide), hother 1 (by decide)⟩),
    if_neg (hother _ (by decide)), if_neg (hother _ (by decide)), if_neg (hother _ (by decide)),
    if_neg hctl2, if_pos hrange, if_neg hexists, hoffset]
  rfl

end Arrays

/-! ## What a bank shows -/

/-- An error that was not corrected. -/
def KvmX86Mce.uncorrected (e : KvmX86Mce) : Bool := mciUncorrected e.status

/-- A bank shows the errors: it holds the last uncorrected one, or the last one where none was
uncorrected, and `MCI_STATUS_OVER` if there were others. -/
structure BankShows (s : MsrState R) (b : ℕ) (errors : List KvmX86Mce) : Prop where
  empty : errors = [] → mciValid (bankReg s b 1) = false
  status : ∀ e, kept KvmX86Mce.uncorrected errors = some e →
    bankReg s b 1 = if 2 ≤ errors.length then Bits.setBit e.status 62 else e.status
  addr : ∀ e, kept KvmX86Mce.uncorrected errors = some e → bankReg s b 2 = e.addr
  misc : ∀ e, kept KvmX86Mce.uncorrected errors = some e → bankReg s b 3 = e.misc
  valid : ∀ e ∈ errors, mciValid e.status = true

section Shows

variable {env cr4Mce s mce vendor supportedMceCap} {s' : MsrState R} {b : ℕ}
  {errors : List KvmX86Mce}

theorem BankShows.congr (h : BankShows s b errors)
    (hregs : ∀ i, i % 4 ≠ 0 → i < 4 → bankReg s' b i = bankReg s b i) : BankShows s' b errors where
  empty herrors := by rw [hregs 1 (by omega) (by omega)]; exact h.empty herrors
  status e he := by rw [hregs 1 (by omega) (by omega)]; exact h.status e he
  addr e he := by rw [hregs 2 (by omega) (by omega)]; exact h.addr e he
  misc e he := by rw [hregs 3 (by omega) (by omega)]; exact h.misc e he
  valid := h.valid

theorem BankShows.mciValid_status (h : BankShows s b errors) :
    mciValid (bankReg s b 1) = !errors.isEmpty := by
  cases hkept : kept KvmX86Mce.uncorrected errors with
  | none =>
    have hnil := kept_eq_none.mp hkept
    rw [h.empty hnil, hnil]
    rfl
  | some e =>
    have hmem := kept_mem hkept
    have hne : errors.isEmpty = false := by
      rw [List.isEmpty_eq_false_iff]
      exact List.ne_nil_of_mem hmem
    rw [h.status e hkept, hne]
    split
    · rw [mciValid_setBit]
      exact h.valid e hmem
    · exact h.valid e hmem

theorem BankShows.mciUncorrected_status (h : BankShows s b errors) (hne : errors ≠ []) :
    mciUncorrected (bankReg s b 1) = errors.any KvmX86Mce.uncorrected := by
  cases hkept : kept KvmX86Mce.uncorrected errors with
  | none => exact absurd (kept_eq_none.mp hkept) hne
  | some e =>
    rw [h.status e hkept, ← heavy_kept hkept, KvmX86Mce.uncorrected]
    split
    · exact mciUncorrected_setBit _
    · rfl

/-- A new error takes the place of what the bank holds. -/
theorem BankShows.replace (h : BankShows s b errors) {e : KvmX86Mce}
    (hvalid : mciValid e.status = true)
    (hkept : kept KvmX86Mce.uncorrected (errors ++ [e]) = some e)
    (hstatus : bankReg s' b 1 = overStatus (bankReg s b 1) e.status)
    (haddr : bankReg s' b 2 = e.addr) (hmisc : bankReg s' b 3 = e.misc) :
    BankShows s' b (errors ++ [e]) where
  empty hnil := by simp at hnil
  status e' he' := by
    rw [hkept] at he'
    cases he'
    rw [hstatus, overStatus, h.mciValid_status]
    cases errors with
    | nil => rfl
    | cons e₀ rest => simp
  addr e' he' := by
    rw [hkept] at he'
    cases he'
    exact haddr
  misc e' he' := by
    rw [hkept] at he'
    cases he'
    exact hmisc
  valid e' he' := by
    rcases List.mem_append.mp he' with he' | he'
    · exact h.valid e' he'
    · rw [List.mem_singleton.mp he']
      exact hvalid

/-- A new error is only counted. -/
theorem BankShows.count (h : BankShows s b errors) {e : KvmX86Mce}
    (hvalid : mciValid e.status = true) (hne : errors ≠ [])
    (hkept : kept KvmX86Mce.uncorrected (errors ++ [e]) = kept KvmX86Mce.uncorrected errors)
    (hstatus : bankReg s' b 1 = Bits.setBit (bankReg s b 1) 62)
    (haddr : bankReg s' b 2 = bankReg s b 2) (hmisc : bankReg s' b 3 = bankReg s b 3) :
    BankShows s' b (errors ++ [e]) where
  empty hnil := by simp at hnil
  status e' he' := by
    rw [hkept] at he'
    have hlen : 0 < errors.length := List.length_pos_iff.mpr hne
    rw [hstatus, h.status e' he', List.length_append, List.length_singleton,
      if_pos (show 2 ≤ errors.length + 1 by omega)]
    split
    · exact setBit_twice _
    · rfl
  addr e' he' := by rw [haddr]; exact h.addr e' (hkept ▸ he')
  misc e' he' := by rw [hmisc]; exact h.misc e' (hkept ▸ he')
  valid e' he' := by
    rcases List.mem_append.mp he' with he' | he'
    · exact h.valid e' he'
    · rw [List.mem_singleton.mp he']
      exact hvalid

end Shows

/-! ## Every bank over a run -/

/-- The event neither writes the registers of the bank that describe its error, nor reports a UCNA
in it. -/
def LeavesBank (b : ℕ) (_ : MsrState R) : MceEvent R → Prop
  | .write m => ¬ (0x401 + 4 * b ≤ m.index.toNat ∧ m.index.toNat ≤ 0x403 + 4 * b)
  | .inject mce _ => isUcna mce = true → mce.bank.toNat ≠ b
  | _ => True

instance (b : ℕ) (s : MsrState R) (e : MceEvent R) : Decidable (LeavesBank b s e) := by
  cases e <;> unfold LeavesBank <;> infer_instance

section Runs

variable {env cr4Mce s mce vendor supportedMceCap} {b : ℕ} {errors : List KvmX86Mce}

theorem not_records_of_ucna (hucna : isUcna mce = true) : ¬ Records cr4Mce s mce := by
  rintro ⟨-, -, hnot, -⟩
  rw [hucna] at hnot
  cases hnot

theorem recorded_inject : recorded b s (.inject mce cr4Mce : MceEvent R) =
    if mce.bank.toNat = b ∧ Records cr4Mce s mce then [mce] else [] := rfl

theorem write_shows (h : BankShows s b errors) {m : MsrData} (he : LeavesBank b s (.write m)) :
    BankShows (setMsrMce env s m).2 b errors := by
  have hcases := setMsr_cases env s m
  generalize (setMsrMce env s m).2 = s' at hcases
  cases hcases with
  | refused => exact h
  | mcgStatus hindex => exact h.congr fun _ _ _ => rfl
  | mcgCtl => exact h.congr fun _ _ _ => rfl
  | ctl2 hi => exact h.congr fun _ _ _ => rfl
  | @bank i hi hindex =>
    refine h.congr fun j hj hj' => ?_
    have hother : 4 * b + j ≠ i := by
      rintro rfl
      exact he (by omega)
    simp only [bankReg, Function.update_of_ne hother]

theorem inject_shows (h : BankShows s b errors)
    (he : LeavesBank b s (.inject mce cr4Mce : MceEvent R)) :
    BankShows (kvmVcpuIoctlX86SetMce env cr4Mce s mce).2.2 b
      (errors ++ recorded b s (.inject mce cr4Mce : MceEvent R)) := by
  have hcases := setMce_cases env cr4Mce s mce
  generalize (kvmVcpuIoctlX86SetMce env cr4Mce s mce).2 = r at hcases
  rw [recorded_inject]
  by_cases hb : mce.bank.toNat = b
  · subst hb
    cases hcases with
    | dropped hdrop =>
      rw [if_neg (fun hr => hdrop hr.2), List.append_nil]
      exact h
    | ucna hucna => exact absurd rfl (he hucna)
    | machineCheck hrecords huc =>
      rw [if_pos ⟨rfl, hrecords⟩]
      exact h.replace hrecords.2.1 (kept_concat_heavy huc) bankReg_fillBank_status
        bankReg_fillBank_addr bankReg_fillBank_misc
    | corrected hrecords huc hold =>
      rw [if_pos ⟨rfl, hrecords⟩]
      have hnone : errors.any KvmX86Mce.uncorrected = false := by
        rcases hold with hold | hold
        · rw [h.mciValid_status] at hold
          have hnil : errors = [] := by simpa using hold
          rw [hnil]
          rfl
        · by_cases hnil : errors = []
          · rw [hnil]
            rfl
          · rw [← h.mciUncorrected_status hnil]
            exact hold
      have hkept : kept KvmX86Mce.uncorrected (errors ++ [mce]) = some mce := by
        have hlight : mce.uncorrected = false := huc
        rw [kept_concat_light hlight, hnone]
        rfl
      exact h.replace hrecords.2.1 hkept bankReg_fillBank_status bankReg_fillBank_addr
        bankReg_fillBank_misc
    | counted hrecords huc hold hvalid =>
      rw [if_pos ⟨rfl, hrecords⟩]
      have hne : errors ≠ [] := by
        rintro rfl
        rw [h.empty rfl] at hvalid
        cases hvalid
      have hany : errors.any KvmX86Mce.uncorrected = true := by
        rw [← h.mciUncorrected_status hne]
        exact hold
      have hkept : kept KvmX86Mce.uncorrected (errors ++ [mce]) =
          kept KvmX86Mce.uncorrected errors := by
        have hlight : mce.uncorrected = false := huc
        rw [kept_concat_light hlight, hany]
        rfl
      refine h.count hrecords.2.1 hne hkept ?_ ?_ ?_
      · simp [bankReg]
      · simp [bankReg]
      · simp [bankReg]
  · rw [if_neg (fun hr => hb hr.1), List.append_nil]
    cases hcases with
    | dropped => exact h
    | ucna => exact h.congr fun i _ hi => bankReg_fillBank_other hb hi
    | machineCheck => exact h.congr fun i _ hi => bankReg_fillBank_other hb hi
    | corrected => exact h.congr fun i _ hi => bankReg_fillBank_other hb hi
    | counted =>
      refine h.congr fun i _ hi => ?_
      have hother : 4 * b + i ≠ 4 * mce.bank.toNat + 1 := by omega
      simp only [bankReg, Function.update_of_ne hother]

theorem mceStep_shows (h : BankShows s b errors) (e : MceEvent R) (he : LeavesBank b s e) :
    BankShows (mceStep env vendor supportedMceCap s e).2 b (errors ++ recorded b s e) := by
  cases e with
  | setup mcgCap =>
    change BankShows _ b (errors ++ [])
    rw [List.append_nil]
    exact h.congr fun i hi hi' => bankReg_setup hi hi'
  | inject mce cr4Mce => exact inject_shows h he
  | write m =>
    change BankShows _ b (errors ++ [])
    rw [List.append_nil]
    exact write_shows h he
  | elsewhere t =>
    change BankShows _ b (errors ++ [])
    rw [List.append_nil]
    exact h.congr fun _ _ _ => rfl

end Runs

section Results

variable {env vendor supportedMceCap} {s : MsrState R} {b : ℕ}

theorem final_shows (hclear : mciValid (bankReg s b 1) = false) {es : List (MceEvent R)}
    (hrun : Runs.Each (mceStep env vendor supportedMceCap) (LeavesBank b) s es) :
    BankShows (Runs.final (mceStep env vendor supportedMceCap) s es) b
      (Runs.history (mceStep env vendor supportedMceCap) (recorded b) s es) := by
  have hstart : BankShows s b [] :=
    { empty := fun _ => hclear
      status := nofun
      addr := nofun
      misc := nofun
      valid := nofun }
  have h := Runs.final_history_induct_each (I := fun s errors => BankShows s b errors)
    (fun _ _ e he hs => mceStep_shows hs e he) es hrun hstart
  rwa [List.nil_append] at h

/-- **A bank shows what was recorded in it.**  From a cleared status on, in any run that neither
writes the registers of the bank nor reports a UCNA in it, the bank holds the last uncorrected
error, or the last error where none was uncorrected, and `MCI_STATUS_OVER` tells whether there were
others.  The guest reads the registers of the bank as they are. -/
theorem bank_shows_recorded (hnum : bankNum s ≤ kvmMaxMceBanks)
    (hclear : mciValid (bankReg s b 1) = false) {es : List (MceEvent R)}
    (hrun : Runs.Each (mceStep env vendor supportedMceCap) (LeavesBank b) s es) :
    let s' := Runs.final (mceStep env vendor supportedMceCap) s es
    BankShows s' b (Runs.history (mceStep env vendor supportedMceCap) (recorded b) s es) ∧
      (b < bankNum s' → ∀ i < 4, ∀ index : BitVec 32, index.toNat = 0x400 + (4 * b + i) →
        getMsrMce s' index false = (0, bankReg s' b i)) := by
  refine ⟨final_shows hclear hrun, fun hb i hi index hindex => ?_⟩
  exact getMsrMce_bank false (final_arrays hnum es).count hb hi hindex

end Results

/-- A virtual CPU before `KVM_X86_SETUP_MCE`. -/
def freshBanks : MsrState Unit := { rest := (), mcgCap := 32 }

def correctedError : KvmX86Mce := { status := 0x9c00000000000000, addr := 0x1000, bank := 3 }

def uncorrectedError : KvmX86Mce :=
  { status := 0xbd80000000000134, addr := 0x2000, mcgStatus := 0x7, bank := 3 }

def threeErrors : List (MceEvent Unit) :=
  [.setup 0x109, .inject correctedError true, .inject uncorrectedError true,
    .inject correctedError false, .write ⟨false, 0x409, 0⟩]

theorem bank_shows_recorded_three :
    Runs.history (mceStep pageRefusingHost .svm 0x100) (recorded 3) freshBanks threeErrors =
        [correctedError, uncorrectedError, correctedError] ∧
      BankShows (Runs.final (mceStep pageRefusingHost .svm 0x100) freshBanks threeErrors) 3
        (Runs.history (mceStep pageRefusingHost .svm 0x100) (recorded 3) freshBanks threeErrors) :=
  ⟨by decide, (bank_shows_recorded (by decide) (by decide) (by decide)).1⟩

section Bounded

variable {env vendor supportedMceCap} {s : MsrState R}

/-- **No access leaves the arrays**: whatever userspace and the guest do, the banks that the
functions take from `mcg_cap` exist, and nothing behind the arrays changes. -/
theorem bank_arrays_bounded (hstart : bankNum s ≤ kvmMaxMceBanks) (es : List (MceEvent R)) :
    BankArrays s (Runs.final (mceStep env vendor supportedMceCap) s es) :=
  final_arrays hstart es

end Bounded

theorem bank_arrays_bounded_three :
    BankArrays freshBanks
      (Runs.final (mceStep pageRefusingHost .svm 0x100) freshBanks threeErrors) :=
  bank_arrays_bounded (by decide) threeErrors

/-- A UCNA takes the place of what its bank holds, also of an uncorrected error that the guest has
not seen, without `MCI_STATUS_OVER`; and a machine check is not in progress any more. -/
theorem ucna_forgets {R : Type} {env : MsrEnv R} {cr4Mce : Bool} {s : MsrState R} {mce : KvmX86Mce}
    (hucna : isUcna mce = true) (hbank : mce.bank.toNat < bankNum s) :
    let s' := (kvmVcpuIoctlX86SetMce env cr4Mce s mce).2.2
    bankReg s' mce.bank.toNat 1 = mce.status ∧ mcgInProgress s'.mcgStatus = false := by
  have hvalid : mciValid mce.status = true := by
    simp only [isUcna, Bool.and_eq_true] at hucna
    exact hucna.1.2
  have hmcg : mce.mcgStatus = 0 := by
    simp only [isUcna, Bool.and_eq_true, beq_iff_eq] at hucna
    exact hucna.1.1.1
  have hset : (kvmVcpuIoctlX86SetMce env cr4Mce s mce).2.2 =
      { fillBank s mce.bank.toNat mce.status mce.addr mce.misc with
        mcgStatus := mce.mcgStatus } := by
    unfold kvmVcpuIoctlX86SetMce kvmVcpuX86SetUcna
    dsimp only
    rw [if_neg (by rw [hvalid]; simp; omega), if_pos hucna]
    split <;> rfl
  dsimp only
  rw [hset]
  refine ⟨bankReg_fillBank_status, ?_⟩
  change mcgInProgress mce.mcgStatus = false
  rw [hmcg]
  rfl

/-! ## The handling of a machine check -/

/-- The event neither writes `IA32_MCG_STATUS` nor reports a UCNA in a bank that exists. -/
def LeavesMcgStatus (s : MsrState R) : MceEvent R → Prop
  | .write m => m.index ≠ msrIa32McgStatus
  | .inject mce _ => isUcna mce = true → bankNum s ≤ mce.bank.toNat
  | _ => True

instance (s : MsrState R) (e : MceEvent R) : Decidable (LeavesMcgStatus s e) := by
  cases e <;> unfold LeavesMcgStatus <;> infer_instance

section Handling

variable {env cr4Mce s mce vendor supportedMceCap}

theorem mcgStatus_setup (mcgCap : BitVec 64) :
    (kvmVcpuIoctlX86SetupMce vendor supportedMceCap s mcgCap).2.mcgStatus = s.mcgStatus := by
  unfold kvmVcpuIoctlX86SetupMce
  dsimp only
  split
  · rfl
  split
  · rfl
  · cases vendor <;> rfl

/-- While a machine check is in progress, no other one is queued, and it stays in progress. -/
theorem mceStep_inProgress (hs : mcgInProgress s.mcgStatus = true) (e : MceEvent R)
    (he : LeavesMcgStatus s e) :
    mcgInProgress (mceStep env vendor supportedMceCap s e).2.mcgStatus = true ∧
      MceSignal.machineCheck ∉ (mceStep env vendor supportedMceCap s e).1 := by
  cases e with
  | setup mcgCap =>
    refine ⟨?_, List.not_mem_nil⟩
    change mcgInProgress
      (kvmVcpuIoctlX86SetupMce vendor supportedMceCap s mcgCap).2.mcgStatus = true
    rw [mcgStatus_setup]
    exact hs
  | inject mce cr4Mce =>
    have hcases := setMce_cases env cr4Mce s mce
    change mcgInProgress (kvmVcpuIoctlX86SetMce env cr4Mce s mce).2.2.mcgStatus = true ∧
      MceSignal.machineCheck ∉ (kvmVcpuIoctlX86SetMce env cr4Mce s mce).2.1
    generalize (kvmVcpuIoctlX86SetMce env cr4Mce s mce).2 = r at hcases
    cases hcases with
    | dropped hdrop hsignals => exact ⟨hs, hsignals⟩
    | ucna hucna hbank =>
      have := he hucna
      omega
    | machineCheck hrecords huc =>
      have hidle := (hrecords.2.2.2 huc).2.1
      rw [hs] at hidle
      cases hidle
    | corrected => exact ⟨hs, List.not_mem_nil⟩
    | counted => exact ⟨hs, List.not_mem_nil⟩
  | write m =>
    refine ⟨?_, List.not_mem_nil⟩
    have hcases := setMsr_cases env s m
    change mcgInProgress (setMsrMce env s m).2.mcgStatus = true
    generalize (setMsrMce env s m).2 = s' at hcases
    cases hcases with
    | mcgStatus hindex => exact absurd hindex he
    | refused | mcgCtl | ctl2 | bank => exact hs
  | elsewhere t => exact ⟨hs, List.not_mem_nil⟩

/-- A queued machine check leaves `IA32_MCG_STATUS` as userspace gave it. -/
theorem mcgStatus_of_queued
    (hqueued : MceSignal.machineCheck ∈
      (mceStep env vendor supportedMceCap s (.inject mce cr4Mce)).1) :
    (mceStep env vendor supportedMceCap s (.inject mce cr4Mce)).2.mcgStatus = mce.mcgStatus := by
  have hcases := setMce_cases env cr4Mce s mce
  change MceSignal.machineCheck ∈ (kvmVcpuIoctlX86SetMce env cr4Mce s mce).2.1 at hqueued
  change (kvmVcpuIoctlX86SetMce env cr4Mce s mce).2.2.mcgStatus = mce.mcgStatus
  generalize (kvmVcpuIoctlX86SetMce env cr4Mce s mce).2 = r at hcases hqueued
  cases hcases with
  | dropped hdrop hsignals => exact absurd hqueued hsignals
  | ucna => rfl
  | machineCheck => rfl
  | corrected => cases hqueued
  | counted => cases hqueued

/-- **Machine checks are not nested.**  After a machine check whose error says that it is in
progress, the guest gets no other one before `IA32_MCG_STATUS` is written, unless a UCNA is
reported. -/
theorem machine_checks_not_nested
    (hqueued : MceSignal.machineCheck ∈
      (mceStep env vendor supportedMceCap s (.inject mce cr4Mce)).1)
    (hmcip : mcgInProgress mce.mcgStatus = true) {es : List (MceEvent R)}
    (hrun : Runs.Each (mceStep env vendor supportedMceCap) LeavesMcgStatus
      (mceStep env vendor supportedMceCap s (.inject mce cr4Mce)).2 es) :
    ∀ signals ∈ Runs.outputs (mceStep env vendor supportedMceCap) (fun _ => true)
      (mceStep env vendor supportedMceCap s (.inject mce cr4Mce)).2 es,
      MceSignal.machineCheck ∉ signals := by
  have hstart : mcgInProgress
      (mceStep env vendor supportedMceCap s (.inject mce cr4Mce)).2.mcgStatus = true := by
    rw [mcgStatus_of_queued hqueued]
    exact hmcip
  exact Runs.outputs_forall (I := fun s : MsrState R => mcgInProgress s.mcgStatus = true)
    (fun _ e he hs => (mceStep_inProgress hs e he).1)
    (fun _ e he hs => (mceStep_inProgress hs e he).2) es hrun hstart

end Handling

def setupBanks : MsrState Unit := (mceStep pageRefusingHost .svm 0x100 freshBanks (.setup 0x109)).2

theorem machine_checks_not_nested_twice :
    [MceSignal.tripleFault] ∈ Runs.outputs (mceStep pageRefusingHost .svm 0x100) (fun _ => true)
        (mceStep pageRefusingHost .svm 0x100 setupBanks (.inject uncorrectedError true)).2
        threeErrors ∧
      MceSignal.machineCheck ∉ [MceSignal.tripleFault] := by
  have hfault : [MceSignal.tripleFault] ∈
      Runs.outputs (mceStep pageRefusingHost .svm 0x100) (fun _ => true)
        (mceStep pageRefusingHost .svm 0x100 setupBanks (.inject uncorrectedError true)).2
        threeErrors := by decide
  exact ⟨hfault,
    machine_checks_not_nested (by decide) (by decide) (by decide) [.tripleFault] hfault⟩

end Kvm.Msrs
